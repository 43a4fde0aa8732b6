import EntitySearch.Number.Binary64

/-!
# The shortest decimal of a binary fraction

The decimal text of a binary64 number has the fewest digits that read back as the number, and of those the nearest to it.
Magnitudes from `10 ^ -4` up to `10 ^ 16` are written positionally, others with a power of ten of at least two digits; a
whole number keeps a zero after its point.
-/

namespace EntitySearch.Binary64

/-- The reals that round to a number, over a common denominator; the ends belong to them when the mantissa is even. -/
structure Neighbourhood where
  low : Nat
  value : Nat
  high : Nat
  denominator : Nat
  closed : Bool

/-- The neighbourhood of a magnitude: half a unit of the mantissa to each side, a quarter below a power of two. -/
def neighbourhood (x : Binary64) : Neighbourhood :=
  let m := x.mantissa
  let below := if m = twoTo 52 && leastExponent < x.exponent then 1 else 2
  let scale := if 2 ≤ x.exponent then twoTo (x.exponent - 2).toNat else 1
  let denominator := if 2 ≤ x.exponent then 1 else twoTo (2 - x.exponent).toNat
  ⟨(4 * m - below) * scale, 4 * m * scale, (4 * m + 2) * scale, denominator, m % 2 == 0⟩

/-- The least power of ten above a positive fraction. -/
def powerAbove (num den : Nat) : Int :=
  if den ≤ num then (Nat.toDigits 10 (num / den)).length
  else
    match (List.range 340).find? fun j => decide (den ≤ num * tenTo (j + 1)) with
    | some j => -(j : Int)
    | none => -340

/-- A fraction with both sides scaled so that a multiple of `10 ^ unit` becomes a natural number. -/
def onGrid (unit : Int) (num den : Nat) : Nat × Nat :=
  if 0 ≤ unit then (num, den * tenTo unit.toNat) else (num * tenTo (-unit).toNat, den)

/-- The multiple of `10 ^ unit` nearest to the value among those that read back as it. -/
def nearestOnGrid (n : Neighbourhood) (unit : Int) : Option Nat :=
  let (value, den) := onGrid unit n.value n.denominator
  let (low, _) := onGrid unit n.low n.denominator
  let (high, _) := onGrid unit n.high n.denominator
  let inside (q : Nat) : Bool :=
    if n.closed then low ≤ q * den && q * den ≤ high else low < q * den && q * den < high
  let q := value / den
  let r := value % den
  let up := den < 2 * r || (2 * r == den && q % 2 == 1)
  if up then (if inside (q + 1) then some (q + 1) else if inside q then some q else none)
  else (if inside q then some q else if inside (q + 1) then some (q + 1) else none)

/-- The fewest digits that read back as a positive number, with the power of ten of the last digit. -/
def shortestDigits (x : Binary64) : Nat × Int :=
  let n := x.neighbourhood
  let top := powerAbove n.value n.denominator
  let found := (List.range 17).findSome? fun i =>
    let unit := top - (i + 1 : Nat)
    (nearestOnGrid n unit).map fun q => (q, unit)
  found.getD (0, 0)

/-- The digits of a decimal `digits * 10 ^ power` laid out with a point or a power of ten. -/
def layout (digits : Nat) (power : Int) : List Char :=
  let ds := Nat.toDigits 10 digits
  let point : Int := ds.length + power
  if point - 1 < -4 || 16 ≤ point - 1 then
    let e := point - 1
    let significant := (ds.reverse.dropWhile (· == '0')).reverse
    let fraction := match significant.tail with
      | [] => []
      | rest => '.' :: rest
    let exponentDigits := Nat.toDigits 10 e.natAbs
    let padded := if exponentDigits.length < 2 then '0' :: exponentDigits else exponentDigits
    significant.take 1 ++ fraction ++ 'e' :: (if e < 0 then '-' else '+') :: padded
  else if point ≤ 0 then '0' :: '.' :: List.replicate (-point).toNat '0' ++ ds
  else if 0 ≤ power then ds ++ List.replicate power.toNat '0' ++ ['.', '0']
  else ds.take point.toNat ++ '.' :: ds.drop point.toNat

/-- The decimal text of a number. -/
def toText (x : Binary64) : String :=
  let sign := if x.negative then ['-'] else []
  if x.isZero then String.ofList (sign ++ ['0', '.', '0'])
  else
    let (digits, power) := x.shortestDigits
    String.ofList (sign ++ layout digits power)

end EntitySearch.Binary64
