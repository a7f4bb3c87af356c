import KnowledgeSchema.Json.Flaw
import KnowledgeSchema.Json.Value

/-!
# Reading JSON from left to right

A reader takes a value off the front of a text and leaves the rest, or stops at the first flaw.
Here are the readers for the parts that every value is made of: words, strings, numbers, and the
walk over the items of an array and the members of an object.
-/

namespace KnowledgeSchema.Json

abbrev Reader (α : Type) :=
  List Char → Except Flaw (α × List Char)

def mismatch {α : Type} (reason : Reason) : Except Flaw α :=
  .error (.mismatch reason)

def malformed {α : Type} (fault : Fault) : Except Flaw α :=
  .error (.malformed fault)

/-- The text ends inside something. -/
def cut {α : Type} (part : Part) : Except Flaw α :=
  .error (.truncated part)

def isSpace (c : Char) : Bool :=
  c == ' ' || c == '\n' || c == '\t' || c == '\r'

def skipSpace (input : List Char) : List Char :=
  input.dropWhile isSpace

/-- The rest after the letters of a word. -/
def expectWord : List Char → List Char → Except Flaw (List Char)
  | [], input => .ok input
  | _ :: _, [] => cut .value
  | letter :: word, c :: input =>
    if letter = c then expectWord word input else malformed .expectedWord

/-! ## Strings -/

/-- Four hexadecimal digits. A text that ends within the next four bytes is cut short, whatever
they are. -/
def readHex4 : Reader Nat := fun input =>
  match input with
  | a :: b :: c :: d :: rest =>
    match Text.hexValue? a, Text.hexValue? b, Text.hexValue? c, Text.hexValue? d with
    | some a, some b, some c, some d => .ok (((a * 16 + b) * 16 + c) * 16 + d, rest)
    | _, _, _, _ => malformed .invalidEscape
  | short =>
    if (String.ofList short).utf8ByteSize < 4 then cut .text else malformed .invalidEscape

/-- The character of a pair of surrogates. -/
def joinSurrogates (high low : Nat) : Char :=
  Char.ofNat ((high - 0xD800) * 0x400 + (low - 0xDC00) + 0x10000)

/-- The second half of a character whose first half was `high`. -/
def readLowSurrogate (high : Nat) : Reader Char := fun input =>
  match input with
  | [] => cut .text
  | '\\' :: [] => cut .text
  | '\\' :: 'u' :: rest => do
    let (low, rest) ← readHex4 rest
    if 0xDC00 ≤ low && low ≤ 0xDFFF then .ok (joinSurrogates high low, rest)
    else malformed .loneSurrogate
  | _ => malformed .noLowSurrogate

/-- The character that an escape stands for, after its backslash. -/
def readEscape : Reader Char := fun input =>
  match input with
  | [] => cut .text
  | '"' :: rest => .ok ('"', rest)
  | '\\' :: rest => .ok ('\\', rest)
  | '/' :: rest => .ok ('/', rest)
  | 'b' :: rest => .ok ('\x08', rest)
  | 'f' :: rest => .ok ('\x0c', rest)
  | 'n' :: rest => .ok ('\n', rest)
  | 'r' :: rest => .ok ('\r', rest)
  | 't' :: rest => .ok ('\t', rest)
  | 'u' :: rest => do
    let (code, rest) ← readHex4 rest
    if 0xDC00 ≤ code && code ≤ 0xDFFF then malformed .loneSurrogate
    else if 0xD800 ≤ code && code ≤ 0xDBFF then readLowSurrogate code rest
    else .ok (Char.ofNat code, rest)
  | _ => malformed .invalidEscape

/-- The characters of a string up to its closing quotation mark, in at most `fuel` steps. -/
def readChars : Nat → Reader (List Char)
  | 0, _ => cut .text
  | _ + 1, [] => cut .text
  | fuel + 1, c :: rest =>
    if c = '"' then .ok ([], rest)
    else if c = '\\' then do
      let (c, rest) ← readEscape rest
      let (text, rest) ← readChars fuel rest
      .ok (c :: text, rest)
    else if c.toNat < 0x20 then malformed .controlCharacter
    else do
      let (text, rest) ← readChars fuel rest
      .ok (c :: text, rest)

/-- A string after its opening quotation mark. -/
def readText : Reader String := fun input => do
  let (text, rest) ← readChars (input.length + 1) input
  .ok (String.ofList text, rest)

/-! ## Numbers -/

def isDigit (c : Char) : Bool :=
  '0' ≤ c && c ≤ '9'

def digitValue (c : Char) : Nat :=
  c.toNat - '0'.toNat

def largestWord : Nat :=
  18446744073709551615

/-- The digits read so far as `significand * 10 ^ exponent`. -/
structure Numeral where
  significand : Nat
  exponent : Int

/-- Takes digits into the significand while it fits a machine word. -/
def Numeral.absorb (n : Numeral) (step : Int) : List Char → Numeral × List Char
  | [] => (n, [])
  | c :: digits =>
    let wider := 10 * n.significand + digitValue c
    if wider ≤ largestWord then Numeral.absorb ⟨wider, n.exponent + step⟩ step digits
    else (n, c :: digits)

/-- The digits of the whole part. Those that no longer fit only scale the number. -/
def Numeral.ofWhole (digits : List Char) : Numeral × Bool :=
  match Numeral.absorb ⟨0, 0⟩ 0 digits with
  | (n, left) => (⟨n.significand, left.length⟩, left.isEmpty)

/-- The digits of the fraction. Those that no longer fit are dropped. -/
def Numeral.addFraction (n : Numeral) (digits : List Char) : Numeral :=
  (n.absorb (-1) digits).1

def Numeral.scale (n : Numeral) (exponent : Int) : Numeral :=
  ⟨n.significand, n.exponent + exponent⟩

def Numeral.toReal (n : Numeral) (negative : Bool) : Except Flaw Json :=
  match Double.ofDecimal? negative n.significand n.exponent with
  | some value => .ok (.real value)
  | none => malformed .numberOutOfRange

/-- An integer where it fits 64 bits with or without a sign; else, and for a negative zero, the
nearest double. -/
def Numeral.toInt (n : Numeral) (negative fits : Bool) : Except Flaw Json :=
  if !fits then n.toReal negative
  else if !negative then .ok (.int n.significand)
  else if n.significand = 0 || 9223372036854775808 < n.significand then n.toReal true
  else .ok (.int (-(n.significand : Int)))

/-- At least one digit. -/
def readDigits : Reader (List Char) := fun input =>
  match input.takeWhile isDigit, input.dropWhile isDigit with
  | [], [] => cut .value
  | [], _ => malformed .invalidNumber
  | digits, rest => .ok (digits, rest)

def natOfDigits (digits : List Char) : Nat :=
  digits.foldl (fun n c => 10 * n + digitValue c) 0

/-- An exponent after its mark. -/
def readExponent : Reader Int := fun input =>
  match input with
  | '-' :: rest => do
    let (digits, rest) ← readDigits rest
    .ok (-(natOfDigits digits : Int), rest)
  | '+' :: rest => do
    let (digits, rest) ← readDigits rest
    .ok (natOfDigits digits, rest)
  | input => do
    let (digits, rest) ← readDigits input
    .ok (natOfDigits digits, rest)

def isExponentMark (c : Char) : Bool :=
  c == 'e' || c == 'E'

/-- What may follow the whole part of a number: a fraction, an exponent, both or nothing. -/
def readScale (n : Numeral) (negative fits : Bool) : Reader Json := fun input =>
  match input with
  | '.' :: rest => do
    let (digits, rest) ← readDigits rest
    let n := n.addFraction digits
    match rest with
    | c :: after =>
      if isExponentMark c then do
        let (exponent, rest) ← readExponent after
        .ok (← (n.scale exponent).toReal negative, rest)
      else .ok (← n.toReal negative, rest)
    | [] => .ok (← n.toReal negative, [])
  | c :: after =>
    if isExponentMark c then do
      let (exponent, rest) ← readExponent after
      .ok (← (n.scale exponent).toReal negative, rest)
    else do .ok (← n.toInt negative fits, input)
  | [] => do .ok (← n.toInt negative fits, [])

/-- A number after its sign. A zero does not lead other digits. -/
def readMagnitude (negative : Bool) : Reader Json := fun input => do
  let (digits, rest) ← readDigits input
  match digits with
  | '0' :: _ :: _ => malformed .invalidNumber
  | digits =>
    let (n, fits) := Numeral.ofWhole digits
    readScale n negative fits rest

/-! ## Heads of values -/

/-- A value up to its first bracket: a whole scalar, or the opening of a container. -/
inductive Head where
  | scalar (value : Json)
  | array
  | object

def Head.found : Head → Found
  | .scalar (.bool value) => .bool value
  | .scalar (.int value) => .int value
  | .scalar (.real value) => .real value
  | .scalar (.str text) => .str text
  | .scalar _ => .null
  | .array => .sequence
  | .object => .map

def readHead : Reader Head := fun input =>
  match skipSpace input with
  | [] => cut .value
  | 'n' :: rest => do .ok (.scalar .null, ← expectWord "ull".toList rest)
  | 't' :: rest => do .ok (.scalar (.bool true), ← expectWord "rue".toList rest)
  | 'f' :: rest => do .ok (.scalar (.bool false), ← expectWord "alse".toList rest)
  | '"' :: rest => do
    let (text, rest) ← readText rest
    .ok (.scalar (.str text), rest)
  | '[' :: rest => .ok (.array, rest)
  | '\x7b' :: rest => .ok (.object, rest)
  | '-' :: rest => do
    let (value, rest) ← readMagnitude true rest
    .ok (.scalar value, rest)
  | c :: rest =>
    if isDigit c then do
      let (value, rest) ← readMagnitude false (c :: rest)
      .ok (.scalar value, rest)
    else malformed .expectedValue

/-! ## Arrays and objects -/

/-- The text at the next item of an array, or nothing at its closing bracket. -/
def nextItem (first : Bool) (input : List Char) : Except Flaw (Option (List Char)) :=
  match skipSpace input with
  | [] => cut .list
  | ']' :: _ => .ok none
  | c :: rest =>
    if first then .ok (some (c :: rest))
    else if c = ',' then
      match skipSpace rest with
      | [] => cut .value
      | ']' :: _ => malformed .trailingComma
      | rest => .ok (some rest)
    else malformed .expectedListEnd

/-- The rest after the bracket of an array that is complete. -/
def closeArray (input : List Char) : Except Flaw (List Char) :=
  match skipSpace input with
  | [] => cut .list
  | ']' :: rest => .ok rest
  | ',' :: rest =>
    match skipSpace rest with
    | ']' :: _ => malformed .trailingComma
    | _ => malformed .trailingCharacters
  | _ => malformed .trailingCharacters

/-- The next key of an object and the text after it, or nothing at its closing brace. -/
def nextKey (first : Bool) (input : List Char) : Except Flaw (Option (String × List Char)) :=
  match skipSpace input with
  | [] => cut .object
  | '\x7d' :: _ => .ok none
  | c :: rest =>
    if first then
      if c = '"' then do .ok (some (← readText rest)) else malformed .keyNotText
    else if c = ',' then
      match skipSpace rest with
      | [] => cut .value
      | '"' :: rest => do .ok (some (← readText rest))
      | '\x7d' :: _ => malformed .trailingComma
      | _ => malformed .keyNotText
    else malformed .expectedObjectEnd

def readColon (input : List Char) : Except Flaw (List Char) :=
  match skipSpace input with
  | [] => cut .object
  | ':' :: rest => .ok rest
  | _ => malformed .expectedColon

/-- The rest after the brace of an object that is complete. -/
def closeObject (input : List Char) : Except Flaw (List Char) :=
  match skipSpace input with
  | [] => cut .object
  | '\x7d' :: rest => .ok rest
  | ',' :: _ => malformed .trailingComma
  | _ => malformed .trailingCharacters

/-- Goes over the items of an array up to its closing bracket, in at most `fuel` steps. -/
def foldItems {σ : Type} (step : σ → Reader σ) : Nat → Bool → σ → Reader σ
  | 0, _, _, _ => cut .list
  | fuel + 1, first, state, input => do
    match ← nextItem first input with
    | none => .ok (state, input)
    | some rest =>
      let (state, rest) ← step state rest
      foldItems step fuel false state rest

/-- Goes over the members of an object up to its closing brace, in at most `fuel` steps. A step
starts right after the key. -/
def foldMembers {σ : Type} (step : σ → String → Reader σ) : Nat → Bool → σ → Reader σ
  | 0, _, _, _ => cut .object
  | fuel + 1, first, state, input => do
    match ← nextKey first input with
    | none => .ok (state, input)
    | some (key, rest) =>
      let (state, rest) ← step state key rest
      foldMembers step fuel false state rest

/-- An array after its opening bracket. -/
def readArray {σ : Type} (step : σ → Reader σ) (start : σ) : Reader σ := fun input => do
  let (state, rest) ← foldItems step (input.length + 1) true start input
  .ok (state, ← closeArray rest)

/-- The members of an object after its opening brace, through the closing one. -/
def readObject {σ : Type} (step : σ → String → Reader σ) (start : σ) : Reader σ := fun input => do
  let (state, rest) ← foldMembers step (input.length + 1) true start input
  .ok (state, ← closeObject rest)

/-! ## Whole values -/

/-- The number of arrays and objects that may stand inside each other. -/
def maxDepth : Nat :=
  127

/-- One level less, or a flaw where there is none left. -/
def descend (depth : Nat) : Except Flaw Nat :=
  match depth with
  | 0 => malformed .tooDeep
  | depth + 1 => .ok depth

/-- A value with at most `depth` containers inside each other, its members as they stand. -/
def readValue : Nat → Reader Json
  | 0, input => do
    match ← readHead input with
    | (.scalar value, rest) => .ok (value, rest)
    | _ => malformed .tooDeep
  | depth + 1, input => do
    match ← readHead input with
    | (.scalar value, rest) => .ok (value, rest)
    | (.array, rest) =>
      let (items, rest) ← readArray (fun items input => do
        let (value, rest) ← readValue depth input
        .ok (value :: items, rest)) [] rest
      .ok (.arr items.reverse, rest)
    | (.object, rest) =>
      let (members, rest) ← readObject (fun members key input => do
        let (value, rest) ← readValue depth (← readColon input)
        .ok ((key, value) :: members, rest)) [] rest
      .ok (.obj members.reverse, rest)

/-! ## Values passed over -/

def skipDigits (input : List Char) : Except Flaw (List Char) :=
  match input.takeWhile isDigit with
  | [] => malformed .invalidNumber
  | _ => .ok (input.dropWhile isDigit)

def skipExponent (input : List Char) : Except Flaw (List Char) :=
  match input with
  | c :: rest =>
    if isExponentMark c then
      match rest with
      | '+' :: rest => skipDigits rest
      | '-' :: rest => skipDigits rest
      | rest => skipDigits rest
    else .ok input
  | [] => .ok []

/-- A number after its sign. A text that ends in it too early counts as malformed, and any size
will do. -/
def skipMagnitude (input : List Char) : Except Flaw (List Char) := do
  let rest ← skipDigits input
  match input.takeWhile isDigit with
  | '0' :: _ :: _ => malformed .invalidNumber
  | _ =>
    match rest with
    | '.' :: rest => skipExponent (← skipDigits rest)
    | rest => skipExponent rest

/-- A string after its opening quotation mark, of which surrogates need no partner. -/
def skipText : Nat → List Char → Except Flaw (List Char)
  | 0, _ => cut .text
  | _ + 1, [] => cut .text
  | fuel + 1, c :: rest =>
    if c = '"' then .ok rest
    else if c = '\\' then
      match rest with
      | 'u' :: rest => do
        let (_, rest) ← readHex4 rest
        skipText fuel rest
      | rest => do
        let (_, rest) ← readEscape rest
        skipText fuel rest
    else if c.toNat < 0x20 then malformed .controlCharacter
    else skipText fuel rest

/-- A container that is open around the place reached. -/
inductive Frame where
  | array
  | object

def Frame.part : Frame → Part
  | array => .list
  | object => .object

/-- What is wrong when neither a comma nor the end of a container follows a value in it. -/
def Frame.unended : Frame → Fault
  | array => .expectedListEnd
  | object => .expectedObjectEnd

/-- A key and the colon after it. -/
def skipKey (fuel : Nat) (input : List Char) : Except Flaw (List Char) :=
  match skipSpace input with
  | [] => cut .object
  | '"' :: rest => do readColon (← skipText fuel rest)
  | _ => malformed .keyNotText

mutual

/-- Passes over the value at the front, then over what follows it in the containers around. -/
def skipFrom : Nat → List Frame → List Char → Except Flaw (List Char)
  | 0, _, _ => cut .value
  | fuel + 1, frames, input =>
    match skipSpace input with
    | [] => cut .value
    | 'n' :: rest => do skipAfter fuel frames (← expectWord "ull".toList rest)
    | 't' :: rest => do skipAfter fuel frames (← expectWord "rue".toList rest)
    | 'f' :: rest => do skipAfter fuel frames (← expectWord "alse".toList rest)
    | '"' :: rest => do skipAfter fuel frames (← skipText (rest.length + 1) rest)
    | '-' :: rest => do skipAfter fuel frames (← skipMagnitude rest)
    | '[' :: rest =>
      match skipSpace rest with
      | [] => cut .list
      | ']' :: rest => skipAfter fuel frames rest
      | rest => skipFrom fuel (.array :: frames) rest
    | '\x7b' :: rest =>
      match skipSpace rest with
      | [] => cut .object
      | '\x7d' :: rest => skipAfter fuel frames rest
      | rest => do skipFrom fuel (.object :: frames) (← skipKey (rest.length + 1) rest)
    | c :: rest =>
      if isDigit c then do skipAfter fuel frames (← skipMagnitude (c :: rest))
      else malformed .expectedValue

/-- Passes over what follows a value in the containers around it. -/
def skipAfter : Nat → List Frame → List Char → Except Flaw (List Char)
  | _, [], input => .ok input
  | 0, _, _ => cut .value
  | fuel + 1, frame :: frames, input =>
    match skipSpace input, frame with
    | [], frame => cut frame.part
    | ',' :: rest, .array => skipFrom fuel (.array :: frames) rest
    | ',' :: rest, .object => do
      skipFrom fuel (.object :: frames) (← skipKey (rest.length + 1) rest)
    | ']' :: rest, .array => skipAfter fuel frames rest
    | '\x7d' :: rest, .object => skipAfter fuel frames rest
    | _, frame => malformed frame.unended

end

/-- Passes over a value of any depth. -/
def skipValue (input : List Char) : Except Flaw (List Char) :=
  skipFrom (2 * input.length + 2) [] input

end KnowledgeSchema.Json
