/-!
# Doubles

Binary floating-point numbers of 64 bits, told apart by their bits, and how a decimal with a
significand of one machine word becomes one. All arithmetic is between natural numbers.
-/

namespace KnowledgeSchema

structure Double where
  bits : UInt64
deriving DecidableEq, Repr, Inhabited

namespace Double

def zero : Double :=
  ⟨0⟩

def half : Double :=
  ⟨0x3FE0000000000000⟩

def one : Double :=
  ⟨0x3FF0000000000000⟩

def infinity : Double :=
  ⟨0x7FF0000000000000⟩

def isNegative (x : Double) : Bool :=
  x.bits >>> 63 == 1

/-- The bits without the sign. -/
def magnitude (x : Double) : UInt64 :=
  x.bits &&& 0x7FFFFFFFFFFFFFFF

/-- Whether a double is a zero of either sign. -/
def isZero (x : Double) : Bool :=
  x.magnitude == 0

def isFinite (x : Double) : Bool :=
  x.magnitude < infinity.bits

def isNumber (x : Double) : Bool :=
  x.magnitude ≤ infinity.bits

def negate (x : Double) : Double :=
  ⟨x.bits ^^^ 0x8000000000000000⟩

/-- The nearest point of the interval from zero to one. Both zeros lie in it. -/
def clampUnit (x : Double) : Double :=
  if x.isZero || !x.isNumber then x
  else if x.isNegative then zero
  else if one.bits < x.bits then one
  else x

/-- A zero of either sign is the integer zero when it is kept as an integer, and comes back
without its sign. -/
def dropZeroSign (x : Double) : Double :=
  if x.isZero then zero else x

/-! ## Values

The magnitude of a finite double is `mantissa * 2 ^ exponent`. -/

def biasedExponent (x : Double) : Nat :=
  (x.magnitude >>> 52).toNat

def fraction (x : Double) : Nat :=
  (x.bits &&& 0xFFFFFFFFFFFFF).toNat

def mantissa (x : Double) : Nat :=
  if x.biasedExponent = 0 then x.fraction else x.fraction + Nat.pow 2 52

def exponent (x : Double) : Int :=
  if x.biasedExponent = 0 then -1074 else (x.biasedExponent : Int) - 1075

/-- The power of `base` that a nonnegative exponent stands for. -/
def powerUp (base : Nat) (exponent : Int) : Nat :=
  Nat.pow base exponent.toNat

def numerator (x : Double) : Nat :=
  x.mantissa * powerUp 2 x.exponent

def denominator (x : Double) : Nat :=
  powerUp 2 (-x.exponent)

/-! ## Rounding -/

/-- The exponent of the doubles around a positive fraction. -/
def gridExponent (num den : Nat) : Int :=
  let low := max ((num.log2 : Int) - den.log2 - 53) (-1074)
  if num * powerUp 2 (-low) / (den * powerUp 2 low) < Nat.pow 2 53 then low else low + 1

/-- The nearest natural number to a fraction, an even one of two equally near. -/
def roundToEven (num den : Nat) : Nat :=
  let below := num / den
  let twice := 2 * (num % den)
  if twice < den then below
  else if den < twice then below + 1
  else if below % 2 = 0 then below
  else below + 1

/-- The nearest double to a fraction, an even one of two equally near, and infinity past the largest
of them. A mantissa that is rounded up to the next power of two carries into the exponent. -/
def nearest (num den : Nat) : Double :=
  if num = 0 then zero
  else
    let e := gridExponent num den
    let mantissa := roundToEven (num * powerUp 2 (-e)) (den * powerUp 2 e)
    ⟨UInt64.ofNat (min ((e + 1074).toNat * Nat.pow 2 52 + mantissa) infinity.bits.toNat)⟩

def ofInt (n : Int) : Double :=
  let magnitude := nearest n.natAbs 1
  if n < 0 then magnitude.negate else magnitude

/-! ## Decimals -/

/-- The nearest double to a power of ten. It has no fraction. -/
def powerOfTen (places : Nat) : Nat :=
  let x := nearest (Nat.pow 10 places) 1
  x.numerator / x.denominator

def timesPowerOfTen (x : Double) (places : Nat) : Double :=
  nearest (x.numerator * powerOfTen places) x.denominator

def overPowerOfTen (x : Double) (places : Nat) : Double :=
  nearest x.numerator (x.denominator * powerOfTen places)

/-- Division of a significand of one machine word by a power of ten, 308 places at a time. Of such a
significand nothing is left after two times. -/
def divideByPowerOfTen (x : Double) (places : Nat) : Double :=
  if places ≤ 308 then x.overPowerOfTen places
  else if places ≤ 616 then (x.overPowerOfTen 308).overPowerOfTen (places - 308)
  else zero

/-- The magnitude read for `significand * 10 ^ exponent`: the significand is rounded first and the
scaled result again. -/
def scaled (significand : Nat) (exponent : Int) : Double :=
  let x := nearest significand 1
  match exponent with
  | .negSucc places => x.divideByPowerOfTen (places + 1)
  | .ofNat places =>
    if x.isZero then x
    else if 308 < places then infinity
    else x.timesPowerOfTen places

/-- The double read for a decimal. There is none past the largest finite double. -/
def ofDecimal? (negative : Bool) (significand : Nat) (exponent : Int) : Option Double :=
  let x := scaled significand exponent
  if x.isFinite then some (if negative then x.negate else x) else none

end Double

end KnowledgeSchema
