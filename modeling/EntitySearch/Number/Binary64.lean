/-!
# Binary fractions of 64-bit width

A finite number of the binary64 format: a sign, a mantissa below `2 ^ 53` and a power of two. Reading a decimal rounds to the
nearest such number, a tie going to the even mantissa. Everything is exact arithmetic on natural numbers.

The infinities and the values that are not numbers have no form here. None is written by a decimal, and a decimal beyond the
largest number is read as that number.
-/

namespace EntitySearch

/-- A finite binary64 number, `± mantissa * 2 ^ exponent`. -/
structure Binary64 where
  negative : Bool
  mantissa : Nat
  exponent : Int
  deriving Repr, DecidableEq, Inhabited

namespace Binary64

/-- A power of two. -/
def twoTo (n : Nat) : Nat := Nat.pow 2 n

/-- A power of ten. -/
def tenTo (n : Nat) : Nat := Nat.pow 10 n

/-- The exponent of the smallest numbers. -/
def leastExponent : Int := -1074

/-- The exponent of the largest numbers. -/
def greatestExponent : Int := 971

/-- Zero, of either sign. -/
def zero (negative : Bool) : Binary64 := ⟨negative, 0, 0⟩

/-- The number of largest magnitude. -/
def largest (negative : Bool) : Binary64 := ⟨negative, twoTo 53 - 1, greatestExponent⟩

/-- A quotient rounded to the nearest natural number, a tie going to the even one. -/
def roundDiv (num den : Nat) : Nat :=
  let q := num / den
  let r := num % den
  if 2 * r < den then q else if den < 2 * r then q + 1 else if q % 2 = 0 then q else q + 1

/-- The quotient of `num` by `den * 2 ^ e`, rounded. -/
def roundScaled (num den : Nat) (e : Int) : Nat :=
  if 0 ≤ e then roundDiv num (den * twoTo e.toNat) else roundDiv (num * twoTo (-e).toNat) den

/-- The number nearest to a positive fraction. -/
def ofFraction (negative : Bool) (num den : Nat) : Binary64 :=
  let guess : Int := (num.log2 : Int) - den.log2 - 52
  let tooSmall : Bool :=
    if 0 ≤ guess + 52 then num < den * twoTo (guess + 52).toNat else num * twoTo (-(guess + 52)).toNat < den
  let e := max leastExponent (if tooSmall then guess - 1 else guess)
  let m := roundScaled num den e
  if m = 0 then zero negative
  else if m = twoTo 53 then (if greatestExponent < e + 1 then largest negative else ⟨negative, twoTo 52, e + 1⟩)
  else if greatestExponent < e then largest negative
  else ⟨negative, m, e⟩

/-- The number nearest to `± digits * 10 ^ power`. -/
def ofDecimal (negative : Bool) (digits : Nat) (power : Int) : Binary64 :=
  let magnitude := (Nat.toDigits 10 digits).length + power
  if digits = 0 ∨ magnitude < -330 then zero negative
  else if 310 < magnitude then largest negative
  else if 0 ≤ power then ofFraction negative (digits * tenTo power.toNat) 1
  else ofFraction negative digits (tenTo (-power).toNat)

/-- Whether a number is zero. -/
def isZero (x : Binary64) : Bool := x.mantissa == 0

/-- The whole number a number stands for, if it has no fractional part. -/
def toInt? (x : Binary64) : Option Int :=
  let sign : Int := if x.negative then -1 else 1
  if 0 ≤ x.exponent then some (sign * (x.mantissa * twoTo x.exponent.toNat : Nat))
  else
    let unit := twoTo (-x.exponent).toNat
    if x.mantissa % unit = 0 then some (sign * (x.mantissa / unit : Nat)) else none

/-- Whether two numbers have one value: the two zeros do. -/
def sameValue (x y : Binary64) : Bool := x == y || (x.isZero && y.isZero)

end Binary64

end EntitySearch
