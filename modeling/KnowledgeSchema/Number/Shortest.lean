import KnowledgeSchema.Number.Double

/-!
# The shortest decimal of a double

The decimal with the fewest digits that lies in the interval of numbers rounding to a double, the
nearest of those, and its text. All comparisons are between natural numbers.
-/

namespace KnowledgeSchema.Double

/-- Whether the gap below a double is half the gap above it. -/
def isNarrowBelow (x : Double) : Bool :=
  x.fraction == 0 && 1 < x.biasedExponent

/-- A magnitude in quarters of the gap above it, and the ends of the interval around it. -/
structure Interval where
  value : Nat
  low : Nat
  high : Nat
  exponent : Int
  closed : Bool

def interval (x : Double) : Interval where
  value := 4 * x.mantissa
  low := 4 * x.mantissa - (if x.isNarrowBelow then 1 else 2)
  high := 4 * x.mantissa + 2
  exponent := x.exponent - 2
  closed := x.mantissa % 2 == 0

/-- `n * 2 ^ e`, scaled to be compared with a decimal of exponent `k`. -/
def binarySide (n : Nat) (e k : Int) : Nat :=
  n * powerUp 2 e * powerUp 10 (-k)

/-- `c * 10 ^ k`, scaled to be compared with a binary number of exponent `e`. -/
def decimalSide (c : Nat) (e k : Int) : Nat :=
  c * powerUp 2 (-e) * powerUp 10 k

def Interval.contains (i : Interval) (c : Nat) (k : Int) : Bool :=
  let decimal := decimalSide c i.exponent k
  let low := binarySide i.low i.exponent k
  let high := binarySide i.high i.exponent k
  if i.closed then low ≤ decimal && decimal ≤ high else low < decimal && decimal < high

/-- Where a number stands on the grid of multiples of `10 ^ k`: the multiple at or below it. -/
def Interval.floorOn (i : Interval) (k : Int) : Nat :=
  binarySide i.value i.exponent k / decimalSide 1 i.exponent k

/-- The point of the grid of multiples of `10 ^ k` that lies in the interval, the nearer of two,
an even one of two equally near. -/
def Interval.pointOn? (i : Interval) (k : Int) : Option Nat :=
  let below := i.floorOn k
  let above := below + 1
  let twice := 2 * binarySide i.value i.exponent k
  let middle := decimalSide (below + above) i.exponent k
  match i.contains below k, i.contains above k with
  | true, true =>
    if twice < middle then some below
    else if middle < twice then some above
    else if below % 2 = 0 then some below else some above
  | true, false => some below
  | false, true => some above
  | false, false => none

/-- The exponent of the leading decimal digit of a positive magnitude. -/
def Interval.leading (i : Interval) : Int :=
  let guess := ((i.value.log2 : Int) + i.exponent) * 1233 / 4096
  if i.floorOn guess = 0 then guess - 1
  else if 10 ≤ i.floorOn guess then guess + 1
  else guess

/-- A decimal `coefficient * 10 ^ exponent`. -/
structure Decimal where
  coefficient : Nat
  exponent : Int
deriving DecidableEq, Repr

def Interval.shortestFrom (i : Interval) (k : Int) : Nat → Decimal
  | 0 => ⟨i.floorOn k, k⟩
  | digits + 1 =>
    match i.pointOn? k with
    | some c => ⟨c, k⟩
    | none => i.shortestFrom (k - 1) digits

/-- The shortest decimal of a nonzero finite double, without its sign. Seventeen digits always
suffice. -/
def shortest (x : Double) : Decimal :=
  let i := interval x
  i.shortestFrom i.leading 17

def dropTrailingZeros (digits : List Char) : List Char :=
  (digits.reverse.dropWhile (· == '0')).reverse

/-- Digits with a point after the one of weight `10 ^ leading`: positional from `10 ^ -5` up to
`10 ^ 16`, always with a fraction, and with an exponent outside. -/
def layout (digits : List Char) (leading : Int) : List Char :=
  if leading < -5 || 16 ≤ leading then
    let fraction := digits.drop 1
    let sign := if leading < 0 then '-' else '+'
    digits.take 1 ++ (if fraction.isEmpty then [] else '.' :: fraction) ++
      'e' :: sign :: Nat.toDigits 10 leading.natAbs
  else if leading < 0 then
    '0' :: '.' :: List.replicate (leading.natAbs - 1) '0' ++ digits
  else
    let whole := leading.toNat + 1
    let fraction := digits.drop whole
    digits.take whole ++ List.replicate (whole - digits.length) '0' ++
      '.' :: (if fraction.isEmpty then ['0'] else fraction)

/-- The text of a finite double. -/
def toText (x : Double) : List Char :=
  let magnitude :=
    if x.isZero then ['0', '.', '0']
    else
      let decimal := shortest x
      let digits := Nat.toDigits 10 decimal.coefficient
      layout (dropTrailingZeros digits) (digits.length - 1 + decimal.exponent)
  if x.isNegative then '-' :: magnitude else magnitude

end KnowledgeSchema.Double
