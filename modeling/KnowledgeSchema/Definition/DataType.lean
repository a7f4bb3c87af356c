import KnowledgeSchema.Json.Codec
import KnowledgeSchema.Text.Blank
import KnowledgeSchema.Text.Case

/-!
# Data types of fields

Nine types are known, some under several names. Any other is kept by its name in lower case.
-/

namespace KnowledgeSchema

inductive DataType where
  | text
  | longText
  | number
  | boolean
  | date
  | select
  | multiSelect
  | reference
  | url
  | custom (name : String)
deriving DecidableEq

namespace DataType

def name : DataType → String
  | text => "text"
  | longText => "long_text"
  | number => "number"
  | boolean => "boolean"
  | date => "date"
  | select => "select"
  | multiSelect => "multi_select"
  | reference => "reference"
  | url => "url"
  | custom name => name

def ofName (name : String) : DataType :=
  match name with
  | "text" => text
  | "string" => text
  | "long_text" => longText
  | "longtext" => longText
  | "markdown" => longText
  | "number" => number
  | "integer" => number
  | "float" => number
  | "boolean" => boolean
  | "bool" => boolean
  | "date" => date
  | "datetime" => date
  | "select" => select
  | "enum" => select
  | "multi_select" => multiSelect
  | "multiselect" => multiSelect
  | "tags" => multiSelect
  | "reference" => reference
  | "ref" => reference
  | "url" => url
  | "link" => url
  | name => custom name

/-- The type that a text names, blanks around it and the case of its letters aside. -/
def parse (text : String) : DataType :=
  ofName (String.ofList (Text.lower (Text.trim text.toList)))

def isCustom : DataType → Bool
  | custom _ => true
  | _ => false

def codec : Codec DataType :=
  Codec.text.map parse name

end DataType

end KnowledgeSchema
