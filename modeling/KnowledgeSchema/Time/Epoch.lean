import KnowledgeSchema.Time.Timestamp

/-!
# Seconds of an epoch

The date and the instant that lie so many days and seconds after the beginning of 1970. Years count
from March here, so that the day that comes and goes is the last one of a year.
-/

namespace KnowledgeSchema

/-- Days from March of year zero to the beginning of 1970. -/
def daysToEpoch : Nat :=
  719468

/-- Days in four hundred years. -/
def daysInCycle : Nat :=
  146097

def Date.ofEpochDay? (day : Nat) : Option Date :=
  let total := day + daysToEpoch
  let inCycle := total % daysInCycle
  let yearOfCycle := (inCycle - inCycle / 1460 + inCycle / 36524 - inCycle / 146096) / 365
  let inYear := inCycle - (365 * yearOfCycle + yearOfCycle / 4 - yearOfCycle / 100)
  let shifted := (5 * inYear + 2) / 153
  let dayOfMonth := inYear - (153 * shifted + 2) / 5 + 1
  let month := if shifted < 10 then shifted + 3 else shifted - 9
  let year := total / daysInCycle * 400 + yearOfCycle + if month ≤ 2 then 1 else 0
  Date.of? year month dayOfMonth

def Timestamp.ofEpoch? (second nano : Nat) : Option Timestamp := do
  Timestamp.of? (← Date.ofEpochDay? (second / 86400)) (second % 86400) nano

end KnowledgeSchema
