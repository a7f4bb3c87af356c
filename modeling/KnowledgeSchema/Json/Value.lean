import KnowledgeSchema.Number.Double

/-!
# JSON values

A value as it stands in a text, with the members of an object in their order and repeats kept, and
the canonical form of a value that is kept for its content alone.
-/

namespace KnowledgeSchema

inductive Json where
  | null
  | bool (value : Bool)
  | int (value : Int)
  | real (value : Double)
  | str (text : String)
  | arr (items : List Json)
  | obj (members : List (String × Json))
deriving Inhabited

namespace Json

/-- Puts a member where the order of keys wants it, in the place of one with the same key. -/
def insertMember (key : String) (value : Json) : List (String × Json) → List (String × Json)
  | [] => [(key, value)]
  | (other, held) :: rest =>
    if key < other then (key, value) :: (other, held) :: rest
    else if key = other then (key, value) :: rest
    else (other, held) :: insertMember key value rest

/-- The members in the order of their keys, of equal keys the last. -/
def sortMembers (members : List (String × Json)) : List (String × Json) :=
  members.foldl (fun sorted (key, value) => insertMember key value sorted) []

mutual

/-- The value with the members of every object sorted by key, of equal keys only the last. -/
def canonical : Json → Json
  | .arr items => .arr (canonicalItems items)
  | .obj members => .obj (sortMembers (canonicalMembers members))
  | value => value

def canonicalItems : List Json → List Json
  | [] => []
  | value :: rest => canonical value :: canonicalItems rest

def canonicalMembers : List (String × Json) → List (String × Json)
  | [] => []
  | (key, value) :: rest => (key, canonical value) :: canonicalMembers rest

end

def emptyObject : Json :=
  .obj []

/-- The member with a key, of several the last. -/
def member? (key : String) : Json → Option Json
  | .obj members => members.reverse.lookup key
  | _ => none

end Json

end KnowledgeSchema
