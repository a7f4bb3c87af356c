import KnowledgeSchema.Text.Quoted

/-!
# TOML strings

The four ways to write a string, which of them a writer takes, and how a reader gets the text back.
A text is written in the first way, of a basic string without escapes, a literal string, a basic
block and a literal block, that can hold it as it is. A text that none of them can hold is written
with escapes.
-/

namespace KnowledgeSchema.Toml

/-- Control characters other than the tab and the line feed. -/
def isControl (c : Char) : Bool :=
  (c.toNat < 0x20 && c != '\t' && c != '\n') || c.toNat == 0x7F

/-- Characters that stand for themselves in every kind of string and in comments. -/
def isShown (c : Char) : Bool :=
  !isControl c && c != '\n'

/-! ## Writing -/

inductive StringStyle where
  | basic
  | literal
  | basicBlock
  | literalBlock

/-- Whether three marks stand in a row. -/
def hasTriple (mark : Char) : List Char → Bool
  | [] => false
  | c :: rest => (c == mark && rest.take 2 == [mark, mark]) || hasTriple mark rest

def styleOf (text : List Char) : StringStyle :=
  let isBlock := text.contains '\n'
  let isRaw := !text.any isControl
  if isRaw && !text.contains '\\' && !text.contains '"' && !isBlock then .basic
  else if isRaw && !text.contains '\'' && !isBlock then .literal
  else if isRaw && !text.contains '\\' && !hasTriple '"' text then .basicBlock
  else if isRaw && !hasTriple '\'' text then .literalBlock
  else if isBlock then .basicBlock
  else .basic

/-- The last four digits of a number in base sixteen, in capital letters. -/
def hexFour (n : Nat) : List Char :=
  [n / 4096, n / 256, n / 16, n].map fun digit => (Nat.digitChar (digit % 16)).toUpper

def escapeChar (c : Char) : List Char :=
  match c with
  | '\x08' => ['\\', 'b']
  | '\t' => ['\\', 't']
  | '\n' => ['\\', 'n']
  | '\x0c' => ['\\', 'f']
  | '\r' => ['\\', 'r']
  | '"' => ['\\', '"']
  | '\\' => ['\\', '\\']
  | c => if isControl c then '\\' :: 'u' :: hexFour c.toNat else [c]

/-- The inside of a basic block. Line feeds stand for themselves, and so do quotation marks, of
which `run` stand right before, up to two in a row. -/
def blockText : Nat → List Char → List Char
  | _, [] => []
  | run, '"' :: rest =>
    if run = 2 then '\\' :: '"' :: blockText 0 rest else '"' :: blockText (run + 1) rest
  | _, '\n' :: rest => '\n' :: blockText 0 rest
  | _, c :: rest => escapeChar c ++ blockText 0 rest

/-- The text of a string. A block that holds a line feed begins on a line of its own. -/
def quote (text : List Char) : List Char :=
  let start := if text.contains '\n' then ['\n'] else []
  match styleOf text with
  | .basic => '"' :: text.flatMap escapeChar ++ ['"']
  | .literal => '\'' :: text ++ ['\'']
  | .basicBlock => ['"', '"', '"'] ++ start ++ blockText 0 text ++ ['"', '"', '"']
  | .literalBlock => ['\'', '\'', '\''] ++ start ++ text ++ ['\'', '\'', '\'']

/-! ## Reading -/

/-- A reader takes a value from the front of a text and gives back the rest. -/
abbrev Reader (α : Type) :=
  List Char → Option (α × List Char)

def isSpace (c : Char) : Bool :=
  c == ' ' || c == '\t'

def skipSpace (input : List Char) : List Char :=
  input.dropWhile isSpace

/-- The text after a line end. -/
def lineEnd? : List Char → Option (List Char)
  | '\n' :: rest => some rest
  | '\r' :: '\n' :: rest => some rest
  | _ => none

def hexNumber? (digits : List Char) : Option Nat :=
  digits.foldlM (fun n c => do some (n * 16 + (← Text.hexValue? c))) 0

def charOf? (digits : List Char) : Option Char := do
  let n ← hexNumber? digits
  if h : n.isValidChar then some (Char.ofNatAux n h) else none

/-- The character that one letter after a backslash stands for. -/
def escaped? : Char → Option Char
  | 'b' => some '\x08'
  | 't' => some '\t'
  | 'n' => some '\n'
  | 'f' => some '\x0c'
  | 'r' => some '\r'
  | '"' => some '"'
  | '\\' => some '\\'
  | _ => none

/-- A character in front of a text that was read. -/
def consText (c : Char) (read : List Char × List Char) : List Char × List Char :=
  (c :: read.1, read.2)

/-- A basic string after its opening mark. -/
def readBasic : Reader (List Char)
  | '\\' :: 'u' :: a :: b :: c :: d :: rest => do
    some (consText (← charOf? [a, b, c, d]) (← readBasic rest))
  | '\\' :: 'U' :: a :: b :: c :: d :: e :: f :: g :: h :: rest => do
    some (consText (← charOf? [a, b, c, d, e, f, g, h]) (← readBasic rest))
  | '\\' :: c :: rest => do some (consText (← escaped? c) (← readBasic rest))
  | '"' :: rest => some ([], rest)
  | c :: rest => do if isShown c then some (consText c (← readBasic rest)) else none
  | [] => none

/-- A literal string after its opening mark. -/
def readLiteral : Reader (List Char)
  | '\'' :: rest => some ([], rest)
  | c :: rest => do if isShown c then some (consText c (← readLiteral rest)) else none
  | [] => none

/-- The closing marks of a block. Up to two more of them belong to its text. -/
def blockEnd? (mark : Char) (input : List Char) : Option (List Char × List Char) :=
  let marks := (input.takeWhile (· == mark)).take 5
  if marks.length < 3 then none else some (marks.drop 3, input.drop marks.length)

/-- A basic block after its opening marks. While it is `skipping`, after a backslash at the end of a
line, blanks and line ends are passed over. -/
def readBasicBlock : Bool → Reader (List Char)
  | skipping, '\r' :: '\n' :: rest => do
    let read ← readBasicBlock skipping rest
    some (if skipping then read else consText '\n' read)
  | skipping, '\n' :: rest => do
    let read ← readBasicBlock skipping rest
    some (if skipping then read else consText '\n' read)
  | _, '\\' :: 'u' :: a :: b :: c :: d :: rest => do
    some (consText (← charOf? [a, b, c, d]) (← readBasicBlock false rest))
  | _, '\\' :: 'U' :: a :: b :: c :: d :: e :: f :: g :: h :: rest => do
    some (consText (← charOf? [a, b, c, d, e, f, g, h]) (← readBasicBlock false rest))
  | _, '\\' :: c :: rest => do
    if (lineEnd? (skipSpace (c :: rest))).isSome then readBasicBlock true (c :: rest)
    else some (consText (← escaped? c) (← readBasicBlock false rest))
  | skipping, c :: rest =>
    if skipping && isSpace c then readBasicBlock true rest
    else
      match blockEnd? '"' (c :: rest) with
      | some read => some read
      | none => do if isShown c then some (consText c (← readBasicBlock false rest)) else none
  | _, [] => none

/-- A literal block after its opening marks. -/
def readLiteralBlock : Reader (List Char)
  | '\r' :: '\n' :: rest => do some (consText '\n' (← readLiteralBlock rest))
  | '\n' :: rest => do some (consText '\n' (← readLiteralBlock rest))
  | c :: rest =>
    match blockEnd? '\'' (c :: rest) with
    | some read => some read
    | none => do if isShown c then some (consText c (← readLiteralBlock rest)) else none
  | [] => none

/-- A line end right after the opening marks of a block does not count. -/
def blockStart (input : List Char) : List Char :=
  (lineEnd? input).getD input

/-- A string of any kind. -/
def readString : Reader (List Char)
  | '"' :: '"' :: '"' :: rest => readBasicBlock false (blockStart rest)
  | '"' :: rest => readBasic rest
  | '\'' :: '\'' :: '\'' :: rest => readLiteralBlock (blockStart rest)
  | '\'' :: rest => readLiteral rest
  | _ => none

end KnowledgeSchema.Toml
