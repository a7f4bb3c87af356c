/-!
# TOML values

The values of a TOML document, and how a document grows: each table remembers how it came to be,
because that decides what may still be added to it.
-/

namespace KnowledgeSchema

/-- How a table came to be. -/
inductive TableForm where
  /-- Between braces. Nothing can be added to it. -/
  | inline
  /-- Under a header of its own. -/
  | header
  /-- On the way to the header of a table inside it. -/
  | implied
  /-- On the way to a dotted key. -/
  | dotted
deriving DecidableEq

inductive Toml where
  | text (value : String)
  | integer (value : Int64)
  /-- A floating-point number, as it is written. -/
  | float (written : String)
  | flag (value : Bool)
  /-- A date, a time, or both, as it is written. -/
  | moment (written : String)
  | array (items : List Toml)
  | table (form : TableForm) (members : List (String × Toml))
  /-- Tables under headers of one name, in order. -/
  | tables (bodies : List (List (String × Toml)))

namespace Toml

/-- The members of a table. -/
abbrev Members :=
  List (String × Toml)

/-- The members with another value for a key. -/
def replace (key : String) (value : Toml) (members : Members) : Members :=
  members.map fun (other, old) => (other, if other == key then value else old)

/-- Changes the members at the end of a path. Tables that are not there yet are made on the way, of
the form for dotted keys or for headers. Of several tables under one name the last one counts. A
dotted key never leads into a table that has a header. -/
def changeAt (dotted : Bool) (change : TableForm → Members → Option Members) :
    List String → TableForm → Members → Option Members
  | [], form, members => change form members
  | key :: path, _, members =>
    match members.lookup key with
    | none => do
      let form := if dotted then .dotted else .implied
      let inner ← changeAt dotted change path form []
      some (members ++ [(key, .table form inner)])
    | some (.table form inner) =>
      if form = .inline || (dotted && form = .header) then none
      else do
        let inner ← changeAt dotted change path form inner
        some (replace key (.table form inner) members)
    | some (.tables bodies) =>
      match bodies.getLast? with
      | some last => do
        let last ← changeAt dotted change path .header last
        some (replace key (.tables (bodies.dropLast ++ [last])) members)
      | none => none
    | some _ => none

/-- Gives a value to the key at the end of a path that is relative to a table. The key is a new
one, and its table is either the one at hand or one that dotted keys made. -/
def assign (path : List String) (key : String) (value : Toml) (form : TableForm)
    (members : Members) : Option Members :=
  changeAt true (fun form members =>
    if path.isEmpty == (form == .dotted) then none
    else if (members.lookup key).isSome then none
    else some (members ++ [(key, value)])) path form members

/-- Starts the table of a header. Only one that is not there or that was just implied so far can
get a header. -/
def openTable (key : String) (_ : TableForm) (members : Members) : Option Members :=
  match members.lookup key with
  | none => some (members ++ [(key, .table .header [])])
  | some (.table .implied inner) => some (replace key (.table .header inner) members)
  | some _ => none

/-- Starts the next one of the tables under a name. -/
def openNext (key : String) (_ : TableForm) (members : Members) : Option Members :=
  match members.lookup key with
  | none => some (members ++ [(key, .tables [[]])])
  | some (.tables bodies) => some (replace key (.tables (bodies ++ [[]])) members)
  | some _ => none

/-- The values that stand for the fields of a record: by name in a table, by position in an array.
A moment passes for a table with none of the fields. -/
def field? : Toml → Option (Nat → String → Option Toml)
  | .table _ members => some fun _ name => members.lookup name
  | .array items => some fun position _ => items[position]?
  | .tables bodies => some fun position _ => bodies[position]?.map (.table .header)
  | .moment _ => some fun _ _ => none
  | _ => none

end Toml

end KnowledgeSchema
