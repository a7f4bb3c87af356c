import KnowledgeSchema.Json.Codec
import KnowledgeSchema.Text.Blank
import KnowledgeSchema.Time.Timestamp

/-!
# Reading timestamps

Two readers of texts such as `2020-01-01T00:00:00Z`. The strict one wants every digit in its place.
The lenient one also takes blanks between the parts, shorter numbers and years of any length.
-/

namespace KnowledgeSchema

namespace Timestamp

open Text (isBlank trimLeft)

def isDigit (c : Char) : Bool :=
  '0' ≤ c && c ≤ '9'

def natOf (digits : List Char) : Nat :=
  digits.foldl (fun n c => 10 * n + (c.toNat - '0'.toNat)) 0

/-- A number of at least `least` and at most `most` digits, of which all that there are belong to
it. -/
def number (least most : Nat) (input : List Char) : Option (Nat × List Char) :=
  let digits := (input.take most).takeWhile isDigit
  if digits.length < least then none else some (natOf digits, input.drop digits.length)

/-- A number of any length with at least one digit. -/
def longNumber (input : List Char) : Option (Nat × List Char) :=
  number 1 input.length input

def expect (wanted : Char) (input : List Char) : Option (List Char) :=
  match input with
  | c :: rest => if c = wanted then some rest else none
  | [] => none

/-- What stands between a date and a time. -/
def separator (input : List Char) : Option (List Char) :=
  match input with
  | 'T' :: rest => some rest
  | 't' :: rest => some rest
  | ' ' :: rest => some rest
  | _ => none

/-- The part of a second after a point, if there is one. Digits beyond the ninth are cut. -/
def fraction (input : List Char) : Option (Nat × List Char) :=
  match input with
  | '.' :: rest =>
    let digits := rest.takeWhile isDigit
    let kept := digits.take 9
    if digits.isEmpty then none
    else some (natOf kept * Nat.pow 10 (9 - kept.length), rest.drop digits.length)
  | input => some (0, input)

/-- Hours and minutes after a sign, in seconds. -/
def offsetSize (gap : List Char → Option (List Char)) (input : List Char) :
    Option (Nat × List Char) := do
  let (hours, rest) ← number 2 2 input
  let (minutes, rest) ← number 2 2 (← gap rest)
  if minutes ≤ 59 then some (hours * 3600 + minutes * 60, rest) else none

/-- How many seconds the clocks are before universal time. -/
def offset (gap : List Char → Option (List Char)) (input : List Char) : Option (Int × List Char) :=
  match input with
  | 'Z' :: rest => some (0, rest)
  | 'z' :: rest => some (0, rest)
  | '+' :: rest => do
    let (size, rest) ← offsetSize gap rest
    some ((size : Int), rest)
  | '-' :: rest => do
    let (size, rest) ← offsetSize gap rest
    some (-(size : Int), rest)
  | '−' :: rest => do
    let (size, rest) ← offsetSize gap rest
    some (-(size : Int), rest)
  | _ => none

/-- The instant of a text that has every digit in its place. -/
def ofStoredText? (text : String) : Option Timestamp := do
  let (year, rest) ← number 4 4 text.toList
  let (month, rest) ← number 2 2 (← expect '-' rest)
  let (day, rest) ← number 2 2 (← expect '-' rest)
  let (hour, rest) ← number 2 2 (← separator rest)
  let (minute, rest) ← number 2 2 (← expect ':' rest)
  let (second, rest) ← number 2 2 (← expect ':' rest)
  let (nano, rest) ← fraction rest
  let (ahead, rest) ← offset (expect ':') rest
  if rest.isEmpty then ofClock? (← Date.of? year month day) hour minute second nano ahead
  else none

/-- A year of up to four digits, or with a sign of any length. -/
def lenientYear (input : List Char) : Option (Int × List Char) :=
  match trimLeft input with
  | '-' :: rest => do
    let (year, rest) ← longNumber rest
    some (-(year : Int), rest)
  | '+' :: rest => do
    let (year, rest) ← longNumber rest
    some ((year : Int), rest)
  | rest => do
    let (year, rest) ← number 1 4 rest
    some ((year : Int), rest)

/-- A number of one or two digits after any blanks. -/
def lenientNumber (input : List Char) : Option (Nat × List Char) :=
  number 1 2 (trimLeft input)

def lenientExpect (wanted : Char) (input : List Char) : Option (List Char) :=
  expect wanted (trimLeft input)

def lenientGap (input : List Char) : Option (List Char) :=
  some (input.dropWhile fun c => c == ':' || isBlank c)

/-- The name of universal time, in letters of any case, or an offset from it. -/
def lenientOffset (input : List Char) : Option (Int × List Char) :=
  if (input.take 3).map Char.toUpper = ['U', 'T', 'C'] then some (0, input.drop 3)
  else offset lenientGap input

/-- The instant of a text that may have blanks between its parts. -/
def ofText? (text : String) : Option Timestamp := do
  let (year, rest) ← lenientYear text.toList
  let (month, rest) ← lenientNumber (← lenientExpect '-' rest)
  let (day, rest) ← lenientNumber (← lenientExpect '-' rest)
  let (hour, rest) ← lenientNumber (← separator rest)
  let (minute, rest) ← lenientNumber (← lenientExpect ':' rest)
  let (second, rest) ← lenientNumber (← lenientExpect ':' rest)
  let (nano, rest) ← fraction rest
  let (ahead, rest) ← lenientOffset (trimLeft rest)
  if (trimLeft rest).isEmpty then ofClock? (← Date.of? year month day) hour minute second nano ahead
  else none

end Timestamp

namespace Codec

open Json

def timestamp : Codec Timestamp :=
  scalar (fun t => .str t.text) fun
    | .str text =>
      match Timestamp.ofText? text with
      | some t => .ok t
      | none => .error .invalidTimestamp
    | value => .error (.invalidType value.found "an RFC 3339 formatted date and time string")

end Codec

end KnowledgeSchema
