import EntitySearch.Number.Decimal

/-!
# Decimals of fifteen significant digits

The decimal text of a number in a backend that rounds to fifteen significant digits, a half away from zero. Trailing zeros go,
but one digit stays behind the point. Numbers of sixteen digits before the point or more, and numbers with more than four zeros
behind it, are written with a power of ten.
-/

namespace EntitySearch.Binary64

/-- The number of significant digits. -/
def significantDigits : Nat := 15

/-- The digits of a positive number, rounded, with the power of ten of the last digit. -/
def roundedDigits (x : Binary64) : Nat × Int :=
  let n := x.neighbourhood
  let unit := powerAbove n.value n.denominator - (significantDigits : Nat)
  let (num, den) := onGrid unit n.value n.denominator
  ((2 * num + den) / (2 * den), unit)

/-- Digits without the zeros at their end. -/
def dropLastZeros (ds : List Char) : List Char := (ds.reverse.dropWhile (· == '0')).reverse

/-- Digits behind a point, at least one. -/
def fractionDigits (ds : List Char) : List Char := if ds.isEmpty then ['0'] else ds

/-- The digits of a decimal `digits * 10 ^ power` laid out with a point or a power of ten. -/
def layoutSignificant (digits : Nat) (power : Int) : List Char :=
  let all := Nat.toDigits 10 digits
  let point : Int := all.length + power
  let ds := dropLastZeros all
  if point - 1 < -4 || (significantDigits : Int) ≤ point - 1 then
    let e := point - 1
    let exponent := Nat.toDigits 10 e.natAbs
    let padded := if exponent.length < 2 then '0' :: exponent else exponent
    ds.take 1 ++ '.' :: fractionDigits (ds.drop 1) ++ 'e' :: (if e < 0 then '-' else '+') :: padded
  else if point ≤ 0 then '0' :: '.' :: List.replicate (-point).toNat '0' ++ ds
  else
    ds.take point.toNat ++ List.replicate (point.toNat - ds.length) '0' ++ '.' :: fractionDigits (ds.drop point.toNat)

/-- The text of a number with fifteen significant digits; zero has no sign. -/
def toSignificantText (x : Binary64) : String :=
  if x.isZero then "0.0"
  else
    let (digits, power) := x.roundedDigits
    String.ofList ((if x.negative then ['-'] else []) ++ layoutSignificant digits power)

end EntitySearch.Binary64
