import KnowledgeSchema.Json.Scan
import KnowledgeSchema.Json.Writer
import KnowledgeSchema.Text.Set

/-!
# Codecs

How the values of a type are written as JSON, read from the front of a text, and taken from a value
that was read before its type was known.
-/

namespace KnowledgeSchema

namespace Json

def found : Json → Found
  | .null => .null
  | .bool value => .bool value
  | .int value => .int value
  | .real value => .real value
  | .str text => .str text
  | .arr _ => .sequence
  | .obj _ => .map

/-- The value of a head. A container stands empty for what it will hold. -/
def Head.value : Head → Json
  | .scalar value => value
  | .array => .arr []
  | .object => .obj []

/-- A reason as the flaw of a text. -/
def inText {α : Type} : Except Reason α → Except Flaw α
  | .ok value => .ok value
  | .error reason => mismatch reason

end Json

/-- The three directions between a type and JSON, and what stands for a value left out, if a value
of the type may be left out at all. -/
structure Codec (α : Type) where
  encode : α → Json
  read : Nat → Json.Reader α
  ofJson : Json → Except Json.Reason α
  absent : Option α := none

namespace Codec

open Json

variable {α β : Type}

/-- The whole of a text, with nothing but blanks after it. -/
def parse (codec : Codec α) (text : String) : Except Flaw α := do
  let (value, rest) ← codec.read maxDepth text.toList
  match skipSpace rest with
  | [] => .ok value
  | _ => malformed .trailingCharacters

def write (codec : Codec α) (value : α) : String :=
  (codec.encode value).text

/-- A type whose values are scalars. -/
def scalar (encode : α → Json) (ofJson : Json → Except Reason α) : Codec α where
  encode := encode
  ofJson := ofJson
  read _ input := do
    let (head, rest) ← readHead input
    .ok (← inText (ofJson head.value), rest)

def text : Codec String :=
  scalar .str fun
    | .str text => .ok text
    | value => .error (.invalidType value.found "a string")

def flag : Codec Bool :=
  scalar .bool fun
    | .bool value => .ok value
    | value => .error (.invalidType value.found "a boolean")

/-- Integers of 64 bits with a sign. -/
def signed : Codec Int64 :=
  scalar (fun n => .int n.toInt) fun
    | .int n =>
      if Int64.minValue.toInt ≤ n && n ≤ Int64.maxValue.toInt then .ok (Int64.ofInt n)
      else .error (.invalidValue (.int n) "i64")
    | value => .error (.invalidType value.found "i64")

/-- Counts: integers of 64 bits without a sign. -/
def count : Codec UInt64 :=
  scalar (fun n => .int n.toNat) fun
    | .int n =>
      if 0 ≤ n && n.toNat ≤ largestWord then .ok (UInt64.ofNat n.toNat)
      else .error (.invalidValue (.int n) "usize")
    | value => .error (.invalidType value.found "usize")

def double : Codec Double :=
  scalar .real fun
    | .real x => .ok x
    | .int n => .ok (Double.ofInt n)
    | value => .error (.invalidType value.found "f64")

/-- Any JSON, kept for its content. -/
def free : Codec Json where
  encode value := value
  read depth input := do
    let (value, rest) ← readValue depth input
    .ok (value.canonical, rest)
  ofJson value := .ok value.canonical

/-- A value or none. It may be left out. -/
def optional (codec : Codec α) : Codec (Option α) where
  encode
    | none => .null
    | some value => codec.encode value
  read depth input :=
    match skipSpace input with
    | 'n' :: rest => do .ok (none, ← expectWord "ull".toList rest)
    | input => do
      let (value, rest) ← codec.read depth input
      .ok (some value, rest)
  ofJson
    | .null => .ok none
    | value => some <$> codec.ofJson value
  absent := some none

def list (codec : Codec α) : Codec (List α) where
  encode items := .arr (items.map codec.encode)
  read depth input := do
    match ← readHead input with
    | (.array, rest) =>
      let depth ← descend depth
      let (items, rest) ← readArray (fun items input => do
        let (item, rest) ← codec.read depth input
        .ok (item :: items, rest)) [] rest
      .ok (items.reverse, rest)
    | (head, _) => mismatch (.invalidType head.found "a sequence")
  ofJson
    | .arr items => items.mapM codec.ofJson
    | value => .error (.invalidType value.found "a sequence")

/-- The same JSON for another type. -/
def map (codec : Codec α) (of : α → β) (back : β → α) : Codec β where
  encode value := codec.encode (back value)
  read depth input := do
    let (value, rest) ← codec.read depth input
    .ok (of value, rest)
  ofJson value := of <$> codec.ofJson value
  absent := of <$> codec.absent

def textSet : Codec TextSet :=
  (list text).map TextSet.ofList TextSet.texts

/-! ## Names -/

/-- The value of a name among those of a type. -/
def pick (known : List (String × α)) (name : String) : Except Reason α :=
  match known.lookup name with
  | some value => .ok value
  | none => .error (.unknownVariant name (known.map Prod.fst))

/-- A name in the place where a variant is named. -/
def readVariant (known : List (String × α)) : Reader α := fun input => do
  match ← readHead input with
  | (.scalar (.str name), rest) => .ok (← inText (pick known name), rest)
  | (head, _) => mismatch (.invalidType head.found "variant identifier")

/-- A name that is the key of an object, and the colon after it. -/
def readVariantKey (known : List (String × α)) : Reader α := fun input =>
  match skipSpace input with
  | [] => cut .value
  | '"' :: rest => do
    let (name, rest) ← readText rest
    let value ← inText (pick known name)
    .ok (value, ← readColon rest)
  | _ => malformed .keyNotText

def variantOf (known : List (String × α)) : Json → Except Reason α
  | .str name => pick known name
  | value => .error (.invalidType value.found "variant identifier")

/-- The rest after the brace around a name. -/
def closeVariant (input : List Char) : Except Flaw (List Char) :=
  match skipSpace input with
  | [] => cut .object
  | '\x7d' :: rest => .ok rest
  | _ => malformed .expectedValue

/-- A type of named values: the name alone, or an object with the name for its one key and nothing
for the value. -/
def named (known : List (String × α)) (name : α → String) : Codec α where
  encode value := .str (name value)
  read depth input :=
    match skipSpace input with
    | [] => cut .value
    | '"' :: rest => do
      let (name, rest) ← readText rest
      .ok (← inText (pick known name), rest)
    | '\x7b' :: rest => do
      let _ ← descend depth
      let (value, rest) ← readVariantKey known rest
      match ← readHead rest with
      | (.scalar .null, rest) => .ok (value, ← closeVariant rest)
      | (head, _) => mismatch (.invalidType head.found "unit")
    | _ => malformed .expectedValue
  ofJson
    | .str name => pick known name
    | .obj [(name, content)] => do
      let value ← pick known name
      match content with
      | .null => .ok value
      | .obj [] => .ok value
      | content => .error (.invalidType content.found "unit")
    | .obj _ => .error (.invalidValue .map "map with a single key")
    | value => .error (.invalidType value.found "string or map")

end Codec

end KnowledgeSchema
