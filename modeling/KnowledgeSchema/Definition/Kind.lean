import KnowledgeSchema.Json.Codec
import KnowledgeSchema.Text.Blank
import KnowledgeSchema.Text.Case

/-!
# Entity kinds

The category of an entity type. Six kinds are known. Any other is kept by its tag in upper case, so
that two spellings of one kind are equal.
-/

namespace KnowledgeSchema

inductive EntityKind where
  | character
  | location
  | organization
  | item
  | event
  | concept
  | custom (tag : String)
deriving DecidableEq

namespace EntityKind

def text : EntityKind → String
  | character => "CHARACTER"
  | location => "LOCATION"
  | organization => "ORGANIZATION"
  | item => "ITEM"
  | event => "EVENT"
  | concept => "CONCEPT"
  | custom tag => tag

def ofTag (tag : String) : EntityKind :=
  match tag with
  | "CHARACTER" => character
  | "LOCATION" => location
  | "ORGANIZATION" => organization
  | "ORG" => organization
  | "ITEM" => item
  | "EVENT" => event
  | "CONCEPT" => concept
  | tag => custom tag

/-- The kind that a text names, blanks around it and the case of its letters aside. -/
def parse (text : String) : EntityKind :=
  ofTag (String.ofList (Text.upper (Text.trim text.toList)))

def isCustom : EntityKind → Bool
  | custom _ => true
  | _ => false

/-- The place among the known kinds, and one after them for all others. -/
def rank : EntityKind → Nat
  | character => 0
  | location => 1
  | organization => 2
  | item => 3
  | event => 4
  | concept => 5
  | custom _ => 6

/-- The known kinds come first, and the others by their tags. -/
def compare (first second : EntityKind) : Ordering :=
  match first, second with
  | custom tag, custom other => Ord.compare tag other
  | first, second => Ord.compare first.rank second.rank

def codec : Codec EntityKind :=
  Codec.text.map parse text

end EntityKind

end KnowledgeSchema
