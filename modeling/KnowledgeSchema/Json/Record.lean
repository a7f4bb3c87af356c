import KnowledgeSchema.Json.Codec

/-!
# Records

A record is written as an object with all its fields in declared order. It is read from such an
object with the fields in any order, or from an array of the fields in declared order.
-/

namespace KnowledgeSchema

open Json

/-- The fields of a record of type `ρ` in declared order. A function of type `τ`, given a value for
each of them, yields a `σ`. -/
inductive Fields (ρ σ : Type) : Type → Type 1 where
  | done : Fields ρ σ σ
  | field {α τ : Type} (name : String) (codec : Codec α) (get : ρ → α) (fallback : Option α)
      (rest : Fields ρ σ τ) : Fields ρ σ (α → τ)

namespace Fields

variable {ρ σ : Type}

def names {τ : Type} : Fields ρ σ τ → List String
  | .done => []
  | .field name _ _ _ rest => name :: rest.names

def encode {τ : Type} : Fields ρ σ τ → ρ → List (String × Json)
  | .done, _ => []
  | .field name codec get _ rest, record => (name, codec.encode (get record)) :: rest.encode record

/-- The values read so far. -/
@[reducible]
def Slots {τ : Type} : Fields ρ σ τ → Type
  | .done => Unit
  | .field (α := α) _ _ _ _ rest => Option α × rest.Slots

def noSlots {τ : Type} : (fields : Fields ρ σ τ) → fields.Slots
  | .done => ()
  | .field _ _ _ _ rest => (none, rest.noSlots)

/-- Whether the value of a field has been read. -/
def isRead {τ : Type} (name : String) : (fields : Fields ρ σ τ) → fields.Slots → Bool
  | .done, _ => false
  | .field other _ _ _ rest, slots =>
    if name = other then slots.1.isSome else isRead name rest slots.2

/-- Reads the value of a field into its slot. -/
def readInto {τ : Type} (name : String) (depth : Nat) : (fields : Fields ρ σ τ) → fields.Slots →
    Reader fields.Slots
  | .done, slots, input => .ok (slots, input)
  | .field other codec _ _ rest, slots, input =>
    if name = other then do
      let (value, input) ← codec.read depth input
      .ok ((some value, slots.2), input)
    else do
      let (others, input) ← readInto name depth rest slots.2 input
      .ok ((slots.1, others), input)

/-- Takes the value of a field into its slot. -/
def takeInto {τ : Type} (name : String) (value : Json) : (fields : Fields ρ σ τ) → fields.Slots →
    Except Reason fields.Slots
  | .done, slots => .ok slots
  | .field other codec _ _ rest, slots =>
    if name = other then do .ok (some (← codec.ofJson value), slots.2)
    else do .ok (slots.1, ← takeInto name value rest slots.2)

/-- The record of the values read. The first field without a value, a fallback or a meaning when
left out is missing. -/
def finish {τ : Type} : (fields : Fields ρ σ τ) → τ → fields.Slots → Except Reason σ
  | .done, result, _ => .ok result
  | .field name codec _ fallback rest, make, slots =>
    match slots.1 <|> fallback <|> codec.absent with
    | some value => rest.finish (make value) slots.2
    | none => .error (.missingField name)

/-- The members of an object that was read before, those of unknown names passed over. -/
def ofMembers {τ : Type} (fields : Fields ρ σ τ) (make : τ) (members : List (String × Json)) :
    Except Reason σ := do
  let slots ← members.foldlM (fun slots (name, value) =>
    if !fields.names.contains name then .ok slots
    else if fields.isRead name slots then .error (.duplicateField name)
    else fields.takeInto name value slots) fields.noSlots
  fields.finish make slots

/-- A number of elements, as a record asks for them. -/
def elements (count : Nat) : String :=
  if count = 1 then "1 element" else s!"{count} elements"

/-- The items of an array in declared order, from `index` on. An item may be absent where its field
has a fallback. -/
def readItems {τ : Type} (wanted : String) (depth : Nat) :
    (fields : Fields ρ σ τ) → τ → Nat → Reader σ
  | .done, result, _, input => .ok (result, input)
  | .field _ codec _ fallback rest, make, index, input => do
    match ← nextItem (index == 0) input with
    | some input =>
      let (value, input) ← codec.read depth input
      rest.readItems wanted depth (make value) (index + 1) input
    | none =>
      match fallback with
      | some value => rest.readItems wanted depth (make value) (index + 1) input
      | none => mismatch (.invalidLength index wanted)

/-- The items of an array that was read before. -/
def ofItems {τ : Type} (wanted : String) :
    (fields : Fields ρ σ τ) → τ → Nat → List Json → Except Reason σ
  | .done, result, _, [] => .ok result
  | .done, _, index, items =>
    .error (.invalidLength (index + items.length) (elements index ++ " in sequence"))
  | .field _ codec _ _ rest, make, index, item :: items => do
    rest.ofItems wanted (make (← codec.ofJson item)) (index + 1) items
  | .field _ _ _ fallback rest, make, index, [] =>
    match fallback with
    | some value => rest.ofItems wanted (make value) (index + 1) []
    | none => .error (.invalidLength index wanted)

/-- What an array in the place of a record has to be. -/
def shape {τ : Type} (fields : Fields ρ σ τ) (title : String) : String :=
  s!"{title} with {elements fields.names.length}"

/-- The members of an object, each field at most once. A name that is no field is passed over, or
refused where the record is closed. -/
def readMembers {τ : Type} (fields : Fields ρ σ τ) (closed : Bool) (depth : Nat) :
    Reader fields.Slots :=
  readObject (fun slots name input =>
    if fields.names.contains name then
      if fields.isRead name slots then mismatch (.duplicateField name)
      else do fields.readInto name depth slots (← readColon input)
    else if closed then mismatch (.unknownField name fields.names)
    else do .ok (slots, ← skipValue (← readColon input))) fields.noSlots

end Fields

namespace Codec

variable {ρ σ τ : Type}

def structTitle (name : String) : String :=
  "struct " ++ name

/-- A record under its name. A closed one refuses names that it does not have. -/
def record (name : String) (closed : Bool) (fields : Fields ρ ρ τ) (make : τ) : Codec ρ where
  encode value := .obj (fields.encode value)
  read depth input := do
    match ← readHead input with
    | (.array, rest) =>
      let depth ← descend depth
      let (value, rest) ← fields.readItems (fields.shape (structTitle name)) depth make 0 rest
      .ok (value, ← closeArray rest)
    | (.object, rest) =>
      let depth ← descend depth
      let (slots, rest) ← fields.readMembers closed depth rest
      .ok (← inText (fields.finish make slots), rest)
    | (head, _) => mismatch (.invalidType head.found (structTitle name))
  ofJson
    | .arr items => fields.ofItems (fields.shape (structTitle name)) make 0 items
    | .obj members =>
      match closed, members.find? fun (other, _) => !fields.names.contains other with
      | true, some (other, _) => .error (.unknownField other fields.names)
      | _, _ => fields.ofMembers make members
    | value => .error (.invalidType value.found (structTitle name))

/-- A record that holds the fields of another one beside its own, in one object. Its own fields are
read where they stand. The others are set aside first, because they are only known for what they
are when the object is complete. -/
def extended {δ υ : Type} (name : String) (inner : Fields δ δ υ) (makeInner : υ)
    (own : Fields ρ (δ → ρ) τ) (make : τ) (part : ρ → δ) : Codec ρ where
  encode value := .obj (inner.encode (part value) ++ own.encode value)
  read depth input := do
    match ← readHead input with
    | (.object, rest) =>
      let depth ← descend depth
      let ((slots, held), rest) ← readObject (fun (slots, held) name input =>
        if own.names.contains name then
          if own.isRead name slots then mismatch (.duplicateField name)
          else do
            let (slots, rest) ← own.readInto name depth slots (← readColon input)
            .ok ((slots, held), rest)
        else do
          let (value, rest) ← readValue depth (← readColon input)
          .ok ((slots, (name, value) :: held), rest)) (own.noSlots, []) rest
      let build ← inText (own.finish make slots)
      .ok (build (← inText (inner.ofMembers makeInner held.reverse)), rest)
    | (head, _) => mismatch (.invalidType head.found (structTitle name))
  ofJson
    | .obj members => do
      let build ← own.ofMembers make members
      .ok (build (← inner.ofMembers makeInner members))
    | value => .error (.invalidType value.found (structTitle name))

end Codec

end KnowledgeSchema
