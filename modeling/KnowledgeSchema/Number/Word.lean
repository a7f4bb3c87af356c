/-!
# Counts read from a text

The number of 64 bits that a text of decimal digits stands for. The first thing wrong in the text,
from the left, is what keeps it from standing for one.
-/

namespace KnowledgeSchema

inductive CountFlaw where
  | empty
  | notDigit
  | tooLarge
deriving DecidableEq

namespace CountFlaw

def message : CountFlaw → String
  | empty => "cannot parse integer from empty string"
  | notDigit => "invalid digit found in string"
  | tooLarge => "number too large to fit in target type"

end CountFlaw

/-- Takes one more digit. -/
def addDigit (n : Nat) (c : Char) : Except CountFlaw Nat :=
  if c.isDigit then
    let n := n * 10 + (c.toNat - '0'.toNat)
    if n < UInt64.size then .ok n else .error .tooLarge
  else .error .notDigit

/-- Digits, with a plus in front or without. A sign alone is no digit. -/
def readCount (text : List Char) : Except CountFlaw UInt64 :=
  let digits := match text with
    | '+' :: c :: rest => c :: rest
    | text => text
  match digits with
  | [] => .error .empty
  | digits => do .ok (UInt64.ofNat (← digits.foldlM addDigit 0))

end KnowledgeSchema
