/-!
# Dates

Days of the proleptic Gregorian calendar.
-/

namespace KnowledgeSchema

def isLeapYear (year : Int) : Bool :=
  year % 4 = 0 && (year % 100 ≠ 0 || year % 400 = 0)

def daysInMonth (year : Int) (month : Nat) : Nat :=
  match month with
  | 2 => if isLeapYear year then 29 else 28
  | 4 | 6 | 9 | 11 => 30
  | _ => 31

structure Date where
  year : Int
  month : Nat
  day : Nat
  year_range : -262143 ≤ year ∧ year ≤ 262142
  month_range : 1 ≤ month ∧ month ≤ 12
  day_range : 1 ≤ day ∧ day ≤ daysInMonth year month
deriving DecidableEq

namespace Date

/-- The date of a year, a month and a day that there is. -/
def of? (year : Int) (month day : Nat) : Option Date :=
  if inYears : -262143 ≤ year ∧ year ≤ 262142 then
    if inMonths : 1 ≤ month ∧ month ≤ 12 then
      if inDays : 1 ≤ day ∧ day ≤ daysInMonth year month then
        some ⟨year, month, day, inYears, inMonths, inDays⟩
      else none
    else none
  else none

def next? (date : Date) : Option Date :=
  if date.day < daysInMonth date.year date.month then of? date.year date.month (date.day + 1)
  else if date.month < 12 then of? date.year (date.month + 1) 1
  else of? (date.year + 1) 1 1

def previous? (date : Date) : Option Date :=
  if 1 < date.day then of? date.year date.month (date.day - 1)
  else if 1 < date.month then
    of? date.year (date.month - 1) (daysInMonth date.year (date.month - 1))
  else of? (date.year - 1) 12 31

theorem of?_eq (date : Date) : of? date.year date.month date.day = some date := by
  simp [of?, date.year_range, date.month_range, date.day_range]

end Date

end KnowledgeSchema
