import KnowledgeSchema.Json.Record

/-!
# Tagged records

One of several records, told apart by a member that names it. The member may stand anywhere in the
object, so all others are set aside until it is known. In an array it comes first.
-/

namespace KnowledgeSchema

open Json

/-- One kind of record among several: its members when a value is of this kind, and the value of
the members or of the items that were set aside. -/
structure Arm (ε : Type) where
  name : String
  encode? : ε → Option (List (String × Json))
  ofMembers : List (String × Json) → Except Reason ε
  ofItems : List Json → Except Reason ε

/-- The arm of a record under its title, with the values that carry such a record. -/
def Arm.ofFields {ε ρ τ : Type} (name title : String) (fields : Fields ρ ρ τ) (make : τ)
    (wrap : ρ → ε) (unwrap? : ε → Option ρ) : Arm ε where
  name := name
  encode? value := fields.encode <$> unwrap? value
  ofMembers members := wrap <$> fields.ofMembers make members
  ofItems items := wrap <$> fields.ofItems (fields.shape title) make 0 items

namespace Codec

variable {ε : Type}

def armsByName (arms : List (Arm ε)) : List (String × Arm ε) :=
  arms.map fun arm => (arm.name, arm)

def encodeTagged (tag : String) (value : ε) : List (Arm ε) → Json
  | [] => .null
  | arm :: arms =>
    match arm.encode? value with
    | some members => .obj ((tag, .str arm.name) :: members)
    | none => encodeTagged tag value arms

/-- The arm that the members name, and the members beside the tag. -/
def splitTag (tag : String) (arms : List (Arm ε)) :
    List (String × Json) → Except Reason (Arm ε × List (String × Json))
  | [] => .error (.missingField tag)
  | (name, value) :: members =>
    if name = tag then do .ok (← variantOf (armsByName arms) value, members)
    else do
      let (arm, others) ← splitTag tag arms members
      .ok (arm, (name, value) :: others)

def tagged (title tag : String) (arms : List (Arm ε)) : Codec ε where
  encode value := encodeTagged tag value arms
  read depth input := do
    match ← readHead input with
    | (.object, rest) =>
      let depth ← descend depth
      let ((arm?, held), rest) ← readObject (fun (arm?, held) name input =>
        if name = tag then
          if arm?.isSome then mismatch (.duplicateField tag)
          else do
            let (arm, rest) ← readVariant (armsByName arms) (← readColon input)
            .ok ((some arm, held), rest)
        else do
          let (value, rest) ← readValue depth (← readColon input)
          .ok ((arm?, (name, value) :: held), rest)) (none, []) rest
      match arm? with
      | some arm => .ok (← inText (arm.ofMembers held.reverse), rest)
      | none => mismatch (.missingField tag)
    | (.array, rest) =>
      let depth ← descend depth
      match ← nextItem true rest with
      | none => mismatch (.missingField tag)
      | some rest =>
        let (arm, rest) ← readVariant (armsByName arms) rest
        let (items, rest) ← foldItems (fun items input => do
          let (value, rest) ← readValue depth input
          .ok (value :: items, rest)) (rest.length + 1) false [] rest
        let rest ← closeArray rest
        .ok (← inText (arm.ofItems items.reverse), rest)
    | (head, _) => mismatch (.invalidType head.found ("internally tagged enum " ++ title))
  ofJson
    | .obj members => do
      let (arm, others) ← splitTag tag arms members
      arm.ofMembers others
    | .arr (name :: items) => do
      let arm ← variantOf (armsByName arms) name
      arm.ofItems items
    | .arr [] => .error (.missingField tag)
    | value => .error (.invalidType value.found ("internally tagged enum " ++ title))

end Codec

end KnowledgeSchema
