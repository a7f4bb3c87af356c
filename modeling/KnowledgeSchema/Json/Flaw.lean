import KnowledgeSchema.Number.Shortest
import KnowledgeSchema.Text.Quoted

/-!
# What is wrong with a JSON text

A text is malformed, or ends too early, or is well formed up to a value that is not what its place
wants.
-/

namespace KnowledgeSchema.Json

/-- What was found in the place of something else. -/
inductive Found where
  | null
  | bool (value : Bool)
  | int (value : Int)
  | real (value : Double)
  | str (text : String)
  | sequence
  | map

def Found.text : Found → String
  | .null => "null"
  | .bool value => s!"boolean `{value}`"
  | .int value => s!"integer `{value}`"
  | .real value => "floating point `" ++ String.ofList value.toText ++ "`"
  | .str text => "string " ++ String.ofList (Text.quote text.toList)
  | .sequence => "sequence"
  | .map => "map"

inductive Reason where
  | missingField (name : String)
  | duplicateField (name : String)
  | unknownField (name : String) (known : List String)
  | unknownVariant (name : String) (known : List String)
  | invalidType (found : Found) (expected : String)
  | invalidValue (found : Found) (expected : String)
  | invalidLength (length : Nat) (expected : String)
  | invalidTimestamp

/-- A choice among names: one by itself, two joined, more as a list. -/
def choice (names : List String) : String :=
  match names.map fun name => s!"`{name}`" with
  | [] => "nothing"
  | [only] => only
  | [first, second] => s!"{first} or {second}"
  | names => "one of " ++ ", ".intercalate names

def Reason.text : Reason → String
  | .missingField name => s!"missing field `{name}`"
  | .duplicateField name => s!"duplicate field `{name}`"
  | .unknownField name known => s!"unknown field `{name}`, expected {choice known}"
  | .unknownVariant name known => s!"unknown variant `{name}`, expected {choice known}"
  | .invalidType found expected => s!"invalid type: {found.text}, expected {expected}"
  | .invalidValue found expected => s!"invalid value: {found.text}, expected {expected}"
  | .invalidLength length expected => s!"invalid length {length}, expected {expected}"
  | .invalidTimestamp => "invalid timestamp"

/-- What makes a text no JSON. -/
inductive Fault where
  | expectedColon
  | expectedListEnd
  | expectedObjectEnd
  | expectedWord
  | expectedValue
  | invalidEscape
  | invalidNumber
  | numberOutOfRange
  | controlCharacter
  | keyNotText
  /-- Half of a pair of surrogates in the wrong place. -/
  | loneSurrogate
  /-- Nothing like the second half of a pair after the first one. -/
  | noLowSurrogate
  | trailingComma
  | trailingCharacters
  /-- Too many arrays and objects inside each other. -/
  | tooDeep

def Fault.text : Fault → String
  | .expectedColon => "expected `:`"
  | .expectedListEnd => "expected `,` or `]`"
  | .expectedObjectEnd => "expected `,` or `\x7d`"
  | .expectedWord => "expected ident"
  | .expectedValue => "expected value"
  | .invalidEscape => "invalid escape"
  | .invalidNumber => "invalid number"
  | .numberOutOfRange => "number out of range"
  | .controlCharacter => "control character (\\u0000-\\u001F) found while parsing a string"
  | .keyNotText => "key must be a string"
  | .loneSurrogate => "lone leading surrogate in hex escape"
  | .noLowSurrogate => "unexpected end of hex escape"
  | .trailingComma => "trailing comma"
  | .trailingCharacters => "trailing characters"
  | .tooDeep => "recursion limit exceeded"

/-- What a text may end inside of. -/
inductive Part where
  | value
  | text
  | list
  | object

def Part.name : Part → String
  | .value => "a value"
  | .text => "a string"
  | .list => "a list"
  | .object => "an object"

inductive Flaw where
  /-- The text is no JSON. -/
  | malformed (fault : Fault)
  /-- The text ends before its value does. -/
  | truncated (part : Part)
  /-- The text is JSON so far, and its content is wrong. -/
  | mismatch (reason : Reason)

def Flaw.text : Flaw → String
  | .malformed fault => fault.text
  | .truncated part => s!"EOF while parsing {part.name}"
  | .mismatch reason => reason.text

end KnowledgeSchema.Json
