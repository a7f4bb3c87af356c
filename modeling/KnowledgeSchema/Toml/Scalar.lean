import KnowledgeSchema.Toml.Text
import KnowledgeSchema.Toml.Value

/-!
# Bare TOML values

The values that are written without marks around them: truth values, numbers, dates and times. Each
is a run of letters, digits and a few signs, except that a date may be followed by a blank and a
time.
-/

namespace KnowledgeSchema.Toml

def isDigit (c : Char) : Bool :=
  '0' ≤ c && c ≤ '9'

def isBare (c : Char) : Bool :=
  isDigit c || ('a' ≤ c && c ≤ 'z') || ('A' ≤ c && c ≤ 'Z') || c == '_' || c == '-'

def isScalarChar (c : Char) : Bool :=
  isBare c || c == '+' || c == '.' || c == ':'

/-! ## Numbers -/

/-- Digits with single underscores between them, which are left out of the result. -/
def ungroup? (isDigit : Char → Bool) : List Char → Option (List Char)
  | [] => none
  | [c] => if isDigit c then some [c] else none
  | c :: '_' :: rest => do if isDigit c then some (c :: (← ungroup? isDigit rest)) else none
  | c :: rest => do if isDigit c then some (c :: (← ungroup? isDigit rest)) else none

def digitsToNat (base : Nat) (digits : List Char) : Nat :=
  digits.foldl (fun n c => n * base + (Text.hexValue? c).getD 0) 0

/-- A decimal without a sign and without zeros in front. -/
def decimal? (input : List Char) : Option Nat :=
  match input with
  | ['0'] => some 0
  | '0' :: _ => none
  | input => (ungroup? isDigit input).map (digitsToNat 10)

/-- A text without its sign, and whether that is a minus. -/
def splitSign : List Char → Bool × List Char
  | '-' :: rest => (true, rest)
  | '+' :: rest => (false, rest)
  | input => (false, input)

def ofInt? (n : Int) : Option Int64 :=
  if Int64.minValue.toInt ≤ n && n ≤ Int64.maxValue.toInt then some (Int64.ofInt n) else none

/-- Only a decimal can have a sign. -/
def integer? (input : List Char) : Option Int64 :=
  match input with
  | '0' :: 'x' :: digits => do
    ofInt? (digitsToNat 16 (← ungroup? (fun c => (Text.hexValue? c).isSome) digits))
  | '0' :: 'o' :: digits => do
    ofInt? (digitsToNat 8 (← ungroup? (fun c => '0' ≤ c && c ≤ '7') digits))
  | '0' :: 'b' :: digits => do
    ofInt? (digitsToNat 2 (← ungroup? (fun c => c == '0' || c == '1') digits))
  | input => do
    let (isNegative, digits) := splitSign input
    let n ← decimal? digits
    ofInt? (if isNegative then -(n : Int) else n)

/-- The least number that is rounded to no finite double: the largest of them and half of its last
place. -/
def pastDouble : Nat :=
  Nat.pow 2 1024 - Nat.pow 2 970

/-- Whether `significand * 10 ^ exponent` is rounded to no finite double. -/
def isPastDouble (significand : Nat) (exponent : Int) : Bool :=
  let size := (Nat.toDigits 10 significand).length + exponent
  if significand = 0 || size < 309 then false
  else if 309 < size then true
  else
    match exponent with
    | .ofNat places => pastDouble ≤ significand * Nat.pow 10 places
    | .negSucc places => pastDouble * Nat.pow 10 (places + 1) ≤ significand

def isExponentMark (c : Char) : Bool :=
  c == 'e' || c == 'E'

/-- The number after an exponent mark, or zero where there is no mark. -/
def exponent? : List Char → Option Int
  | [] => some 0
  | _ :: rest => do
    let (isNegative, digits) := splitSign rest
    let n := digitsToNat 10 (← ungroup? isDigit digits)
    some (if isNegative then -(n : Int) else n)

/-- A decimal with a fraction or an exponent, or with both. There is no positive one past the
largest double. -/
def isFloat (input : List Char) : Bool :=
  let (isNegative, input) := splitSign input
  if input == "inf".toList || input == "nan".toList then true
  else
    let mantissa := input.takeWhile (!isExponentMark ·)
    let power := input.dropWhile (!isExponentMark ·)
    let whole := mantissa.takeWhile (· != '.')
    let fraction := match mantissa.dropWhile (· != '.') with
      | [] => if power.isEmpty then none else some []
      | _ :: digits => ungroup? isDigit digits
    match decimal? whole, fraction, exponent? power with
    | some n, some digits, some exponent =>
      isNegative || !isPastDouble (n * Nat.pow 10 digits.length + digitsToNat 10 digits)
        (exponent - digits.length)
    | _, _, _ => false

/-! ## Dates and times -/

/-- A number of exactly `width` digits within bounds, and the text after it. -/
def readNumber (width low high : Nat) : Reader Nat := fun input =>
  let digits := input.take width
  if digits.length = width && digits.all isDigit then
    let n := digitsToNat 10 digits
    if low ≤ n && n ≤ high then some (n, input.drop width) else none
  else none

def readSign (sign : Char) : List Char → Option (List Char)
  | c :: rest => if c = sign then some rest else none
  | [] => none

def daysIn (year month : Nat) : Nat :=
  if month = 2 then
    if year % 4 = 0 && (year % 100 ≠ 0 || year % 400 = 0) then 29 else 28
  else if month = 4 || month = 6 || month = 9 || month = 11 then 30
  else 31

/-- The text after a date. -/
def passDate (input : List Char) : Option (List Char) := do
  let (year, rest) ← readNumber 4 0 9999 input
  let (month, rest) ← readNumber 2 1 12 (← readSign '-' rest)
  let (_, rest) ← readNumber 2 1 (daysIn year month) (← readSign '-' rest)
  some rest

/-- The text after a time of the day. -/
def passTime (input : List Char) : Option (List Char) := do
  let (_, rest) ← readNumber 2 0 23 input
  let (_, rest) ← readNumber 2 0 59 (← readSign ':' rest)
  let (_, rest) ← readNumber 2 0 60 (← readSign ':' rest)
  match rest with
  | '.' :: digits =>
    if (digits.takeWhile isDigit).isEmpty then none else some (digits.dropWhile isDigit)
  | rest => some rest

/-- The text after a difference from universal time, if there is one. -/
def passOffset : List Char → Option (List Char)
  | 'Z' :: rest => some rest
  | 'z' :: rest => some rest
  | c :: rest =>
    if c = '+' || c = '-' then do
      let (_, rest) ← readNumber 2 0 23 rest
      let (_, rest) ← readNumber 2 0 59 (← readSign ':' rest)
      some rest
    else some (c :: rest)
  | [] => some []

/-- Whether a run of characters is nothing but a time, or a time with an offset. -/
def isClock (zoned : Bool) (input : List Char) : Bool :=
  match passTime input with
  | some rest => if zoned then passOffset rest == some [] else rest.isEmpty
  | none => false

/-! ## Values -/

/-- The run of characters at the front that can belong to a bare value. -/
def scalarRun (input : List Char) : List Char :=
  input.takeWhile isScalarChar

/-- A moment that begins with a date. The time after it is set off by a letter or by a blank. -/
def readDated (run afterDate rest : List Char) : Option (Toml × List Char) :=
  match afterDate, rest with
  | [], ' ' :: c :: more =>
    if isDigit c then
      let clock := scalarRun (c :: more)
      if isClock true clock then
        some (.moment (String.ofList (run ++ ' ' :: clock)), (c :: more).drop clock.length)
      else none
    else some (.moment (String.ofList run), rest)
  | [], _ => some (.moment (String.ofList run), rest)
  | mark :: clock, _ =>
    if (mark = 'T' || mark = 't') && isClock true clock then
      some (.moment (String.ofList run), rest)
    else none

/-- A truth value, a number, a date or a time. -/
def readScalar : Reader Toml := fun input =>
  let run := scalarRun input
  let rest := input.drop run.length
  if run == "true".toList then some (.flag true, rest)
  else if run == "false".toList then some (.flag false, rest)
  else
    match passDate run with
    | some afterDate => readDated run afterDate rest
    | none =>
      if isClock false run then some (.moment (String.ofList run), rest)
      else
        match integer? run with
        | some n => some (.integer n, rest)
        | none => if isFloat run then some (.float (String.ofList run), rest) else none

end KnowledgeSchema.Toml
