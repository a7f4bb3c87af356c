import KnowledgeSchema.Time.Date

/-!
# Timestamps

Instants of universal time to the nanosecond, and their texts.
-/

namespace KnowledgeSchema

/-- A date, a second of the day, and a part of the second. A leap second is the second one of the
last second of a minute, so its nanoseconds go on past those of the first. -/
structure Timestamp where
  date : Date
  second : Nat
  nano : Nat
  second_range : second < 86400
  nano_range : nano < 1000000000 ∨ (nano < 2000000000 ∧ second % 60 = 59)
deriving DecidableEq

namespace Timestamp

def of? (date : Date) (second nano : Nat) : Option Timestamp :=
  if inDay : second < 86400 then
    if inSecond : nano < 1000000000 ∨ (nano < 2000000000 ∧ second % 60 = 59) then
      some ⟨date, second, nano, inDay, inSecond⟩
    else none
  else none

/-- The instant at which clocks that are `ahead` seconds before universal time, less than a day,
show a date and a second of the day. -/
def ofLocal? (date : Date) (second nano : Nat) (ahead : Int) : Option Timestamp := do
  let shifted := (second : Int) - ahead
  if shifted < 0 then of? (← date.previous?) (shifted + 86400).toNat nano
  else if 86400 ≤ shifted then of? (← date.next?) (shifted - 86400).toNat nano
  else of? date shifted.toNat nano

/-- The instant of a date and a time on such clocks. Second 60 is a leap second. -/
def ofClock? (date : Date) (hour minute second nano : Nat) (ahead : Int) : Option Timestamp :=
  if hour ≤ 23 && minute ≤ 59 && second ≤ 60 && ahead.natAbs < 86400 then
    if second = 60 then ofLocal? date ((hour * 60 + minute) * 60 + 59) (nano + 1000000000) ahead
    else ofLocal? date ((hour * 60 + minute) * 60 + second) nano ahead
  else none

/-! ## Texts -/

/-- A number with zeros in front up to a width. -/
def padded (width n : Nat) : List Char :=
  let digits := Nat.toDigits 10 n
  List.replicate (width - digits.length) '0' ++ digits

/-- Four digits, with a sign outside of the years from 0 to 9999. -/
def yearText (year : Int) : List Char :=
  if year < 0 then '-' :: padded 4 year.natAbs
  else if 9999 < year then '+' :: padded 4 year.natAbs
  else padded 4 year.natAbs

def dateText (t : Timestamp) : List Char :=
  yearText t.date.year ++ '-' :: padded 2 t.date.month ++ '-' :: padded 2 t.date.day

def clockText (t : Timestamp) : List Char :=
  let second := t.second % 60 + t.nano / 1000000000
  padded 2 (t.second / 3600) ++ ':' :: padded 2 (t.second / 60 % 60) ++ ':' :: padded 2 second

/-- The part of the second in the fewest groups of three digits that are exact. -/
def fractionText (t : Timestamp) : List Char :=
  let nano := t.nano % 1000000000
  if nano = 0 then []
  else if nano % 1000000 = 0 then '.' :: padded 3 (nano / 1000000)
  else if nano % 1000 = 0 then '.' :: padded 6 (nano / 1000)
  else '.' :: padded 9 nano

def instantText (t : Timestamp) : List Char :=
  t.dateText ++ 'T' :: t.clockText ++ t.fractionText

/-- The text that documents carry. -/
def text (t : Timestamp) : String :=
  String.ofList (t.instantText ++ ['Z'])

/-- The text that a stored row carries. -/
def storedText (t : Timestamp) : String :=
  String.ofList (t.instantText ++ "+00:00".toList)

/-- The text for a reader, without the part of the second. -/
def displayText (t : Timestamp) : String :=
  String.ofList (t.dateText ++ ' ' :: t.clockText)

end Timestamp

end KnowledgeSchema
