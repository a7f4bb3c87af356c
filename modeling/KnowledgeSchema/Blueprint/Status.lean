import KnowledgeSchema.Json.Codec
import KnowledgeSchema.Text.Case

/-!
# Statuses of versions

A version begins as a draft and is published once. From there it is archived, or deprecated first.
-/

namespace KnowledgeSchema

inductive Status where
  | draft
  | published
  | archived
  | deprecated
deriving DecidableEq

namespace Status

def name : Status → String
  | draft => "draft"
  | published => "published"
  | archived => "archived"
  | deprecated => "deprecated"

def known : List (String × Status) :=
  [draft, published, archived, deprecated].map fun status => (status.name, status)

/-- The status that a text names in letters of any case. -/
def parse? (text : String) : Option Status :=
  known.lookup (String.ofList (Text.lower text.toList))

def canBecome : Status → Status → Bool
  | draft, published => true
  | published, archived => true
  | published, deprecated => true
  | deprecated, archived => true
  | _, _ => false

/-- Only the definitions of a draft may change. -/
def isEditable : Status → Bool
  | draft => true
  | _ => false

def codec : Codec Status :=
  .named known name

end Status

end KnowledgeSchema
