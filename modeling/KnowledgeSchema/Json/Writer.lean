import KnowledgeSchema.Json.Value
import KnowledgeSchema.Number.Shortest

/-!
# Written JSON

The compact text of a value, and the text with one member or item on each line. In a string only
the quotation mark, the backslash and the characters below the space are escaped.
-/

namespace KnowledgeSchema.Json

def escapeChar (c : Char) : List Char :=
  match c with
  | '"' => ['\\', '"']
  | '\\' => ['\\', '\\']
  | '\x08' => ['\\', 'b']
  | '\t' => ['\\', 't']
  | '\n' => ['\\', 'n']
  | '\x0c' => ['\\', 'f']
  | '\r' => ['\\', 'r']
  | c =>
    if c.toNat < 0x20 then
      ['\\', 'u', '0', '0', Nat.digitChar (c.toNat / 16), Nat.digitChar (c.toNat % 16)]
    else [c]

def writeText (text : String) : List Char :=
  '"' :: text.toList.flatMap escapeChar ++ ['"']

def writeInt (n : Int) : List Char :=
  match n with
  | .ofNat k => Nat.toDigits 10 k
  | .negSucc k => '-' :: Nat.toDigits 10 (k + 1)

/-- A double that is no number is written as none. -/
def writeReal (x : Double) : List Char :=
  if x.isFinite then x.toText else "null".toList

mutual

def write : Json → List Char
  | .null => "null".toList
  | .bool true => "true".toList
  | .bool false => "false".toList
  | .int n => writeInt n
  | .real x => writeReal x
  | .str text => writeText text
  | .arr items => '[' :: writeItems true items
  | .obj members => '\x7b' :: writeMembers true members

def writeItems (first : Bool) : List Json → List Char
  | [] => [']']
  | value :: rest => (if first then [] else [',']) ++ write value ++ writeItems false rest

def writeMembers (first : Bool) : List (String × Json) → List Char
  | [] => ['\x7d']
  | (key, value) :: rest =>
    (if first then [] else [',']) ++ writeText key ++ ':' :: write value ++ writeMembers false rest

end

def text (value : Json) : String :=
  String.ofList (write value)

/-- The start of a line at a depth, two blanks for each level. -/
def newLine (depth : Nat) : List Char :=
  '\n' :: List.replicate (2 * depth) ' '

mutual

/-- The text of a value that stands at a depth. Nothing is broken inside an empty array or
object. -/
def layOut (depth : Nat) : Json → List Char
  | .arr [] => ['[', ']']
  | .obj [] => ['\x7b', '\x7d']
  | .arr (value :: rest) => '[' :: layOutItems depth true (value :: rest)
  | .obj (member :: rest) => '\x7b' :: layOutMembers depth true (member :: rest)
  | value => write value

def layOutItems (depth : Nat) (first : Bool) : List Json → List Char
  | [] => newLine depth ++ [']']
  | value :: rest =>
    (if first then [] else [',']) ++ newLine (depth + 1) ++ layOut (depth + 1) value ++
      layOutItems depth false rest

def layOutMembers (depth : Nat) (first : Bool) : List (String × Json) → List Char
  | [] => newLine depth ++ ['\x7d']
  | (key, value) :: rest =>
    (if first then [] else [',']) ++ newLine (depth + 1) ++ writeText key ++ ':' :: ' ' ::
      layOut (depth + 1) value ++ layOutMembers depth false rest

end

def indentedText (value : Json) : String :=
  String.ofList (layOut 0 value)

end KnowledgeSchema.Json
