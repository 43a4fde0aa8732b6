import EntitySearch.Number.Decimal
import Mathlib.Algebra.Order.Field.Power
import Mathlib.Data.Rat.Cast.Order
import Mathlib.Tactic.FieldSimp
import Mathlib.Tactic.Linarith
import Mathlib.Tactic.Positivity
import Mathlib.Tactic.Ring

/-!
# Rounding to the nearest number

A fraction is rounded to the number whose neighbourhood it lies in (`Binary64.ofFraction_eq`): half a unit of the mantissa to
each side of the number, a quarter below a power of two, the ends included where the mantissa is even. Magnitudes are
compared as rational numbers.
-/

namespace EntitySearch.Binary64

/-- Whether a number is in normal form: zero has the exponent zero, and every other number as large a mantissa as the
exponents allow. -/
structure IsNormal (x : Binary64) : Prop where
  mantissa_lt : x.mantissa < 2 ^ 53
  least_le : leastExponent ≤ x.exponent
  le_greatest : x.exponent ≤ greatestExponent
  full : x.mantissa = 0 ∧ x.exponent = 0 ∨ 0 < x.mantissa ∧ (2 ^ 52 ≤ x.mantissa ∨ x.exponent = leastExponent)

/-- The lower end of the neighbourhood of a magnitude. -/
def lowerEnd (x : Binary64) : ℚ :=
  (x.mantissa - if x.mantissa = 2 ^ 52 ∧ leastExponent < x.exponent then 1 / 4 else 1 / 2) * 2 ^ x.exponent

/-- The upper end of the neighbourhood of a magnitude. -/
def upperEnd (x : Binary64) : ℚ := (x.mantissa + 1 / 2) * 2 ^ x.exponent

/-- Whether a magnitude rounds to that of a number. -/
structure Near (x : Binary64) (v : ℚ) : Prop where
  low : x.lowerEnd ≤ v
  high : v ≤ x.upperEnd
  even : v = x.lowerEnd ∨ v = x.upperEnd → x.mantissa % 2 = 0

theorem twoTo_eq (n : ℕ) : twoTo n = 2 ^ n := rfl

theorem two_zpow_pos (k : ℤ) : (0 : ℚ) < 2 ^ k := zpow_pos (by norm_num) k

theorem two_zpow_add (e : ℤ) (n : ℕ) : (2 : ℚ) ^ (e + n) = 2 ^ e * 2 ^ n := by
  rw [zpow_add₀ (by norm_num), zpow_natCast]

theorem two_zpow_lt_iff {j k : ℤ} : (2 : ℚ) ^ j < 2 ^ k ↔ j < k := zpow_lt_zpow_iff_right₀ (by norm_num)

/-! ## Quotients -/

/-- A natural number no further than half a divisor from a dividend is the rounded quotient, if it is even at that distance.
-/
theorem roundDiv_of_bounds {num den k : ℕ} (hden : 0 < den) (hlow : 2 * (k * den) ≤ 2 * num + den)
    (hhigh : 2 * num ≤ 2 * (k * den) + den) (hlower : 2 * num + den = 2 * (k * den) → k % 2 = 0)
    (hupper : 2 * num = 2 * (k * den) + den → k % 2 = 0) : roundDiv num den = k := by
  have hdiv : den * (num / den) + num % den = num := Nat.div_add_mod num den
  have hmod : num % den < den := Nat.mod_lt num hden
  rw [roundDiv]
  generalize num / den = q at *
  generalize num % den = r at *
  have hcases : k = q ∨ k = q + 1 := by
    have hle : q ≤ k := by
      by_contra hlt
      have hmul : (k + 1) * den ≤ q * den := Nat.mul_le_mul_right den (by omega)
      rw [Nat.add_mul, Nat.one_mul, Nat.mul_comm q den] at hmul
      omega
    have hge : k ≤ q + 1 := by
      by_contra hlt
      have hmul : (q + 2) * den ≤ k * den := Nat.mul_le_mul_right den (by omega)
      rw [Nat.add_mul, Nat.mul_comm q den] at hmul
      omega
    omega
  rcases hcases with rfl | rfl
  · rw [Nat.mul_comm k den] at hlower hupper hlow hhigh
    split
    · rfl
    · split
      · omega
      · rw [if_pos (hupper (by omega))]
  · rw [Nat.add_mul, Nat.one_mul, Nat.mul_comm q den] at hlower hupper hlow hhigh
    split
    · omega
    · split
      · rfl
      · have hodd := hlower (by omega)
        rw [if_neg (by omega)]

/-- The natural number within half a unit of a quotient is the rounded one; at the distance of half a unit it is even. -/
theorem roundDiv_eq {num den k : ℕ} (hden : 0 < den) (hlow : (k : ℚ) - 1 / 2 ≤ num / den)
    (hhigh : (num : ℚ) / den ≤ k + 1 / 2)
    (heven : (num : ℚ) / den = k - 1 / 2 ∨ (num : ℚ) / den = k + 1 / 2 → k % 2 = 0) : roundDiv num den = k := by
  have hd : (0 : ℚ) < den := by exact_mod_cast hden
  refine roundDiv_of_bounds hden ?_ ?_ (fun htie => heven (.inl ?_)) fun htie => heven (.inr ?_)
  · have h := (le_div_iff₀ hd).mp hlow
    have hq : (2 * (k * den) : ℚ) ≤ 2 * num + den := by linarith
    exact_mod_cast hq
  · have h := (div_le_iff₀ hd).mp hhigh
    have hq : (2 * num : ℚ) ≤ 2 * (k * den) + den := by linarith
    exact_mod_cast hq
  · have hq : (2 * num + den : ℚ) = 2 * (k * den) := by exact_mod_cast htie
    rw [div_eq_iff hd.ne']
    linarith
  · have hq : (2 * num : ℚ) = 2 * (k * den) + den := by exact_mod_cast htie
    rw [div_eq_iff hd.ne']
    linarith

/-- Rounding a quotient by a power of two is rounding one fraction of that value. -/
theorem exists_roundScaled (num : ℕ) {den : ℕ} (hden : 0 < den) (e : ℤ) :
    ∃ num' den' : ℕ, 0 < den' ∧ (num' : ℚ) / den' = num / den / 2 ^ e ∧ roundScaled num den e = roundDiv num' den' := by
  rw [roundScaled]
  split
  · rename_i he
    obtain ⟨n, rfl⟩ := Int.eq_ofNat_of_zero_le he
    refine ⟨num, den * twoTo n, Nat.mul_pos hden (Nat.pow_pos (by decide)), ?_, rfl⟩
    rw [zpow_natCast, div_div]
    simp [twoTo]
  · rename_i he
    obtain ⟨n, rfl⟩ : ∃ n : ℕ, e = -n := ⟨(-e).toNat, by omega⟩
    refine ⟨num * twoTo n, den, hden, ?_, by simp⟩
    rw [zpow_neg, zpow_natCast, div_inv_eq_mul]
    simp [twoTo]
    ring

/-- The comparison of a fraction with a power of two, in natural numbers. -/
theorem lt_twoTo_iff (num : ℕ) {den : ℕ} (hden : 0 < den) (k : ℤ) :
    (if 0 ≤ k then decide (num < den * twoTo k.toNat) else decide (num * twoTo (-k).toNat < den)) = true ↔
      (num : ℚ) / den < 2 ^ k := by
  have hd : (0 : ℚ) < den := by exact_mod_cast hden
  split
  · rename_i hk
    obtain ⟨n, rfl⟩ := Int.eq_ofNat_of_zero_le hk
    rw [decide_eq_true_eq, zpow_natCast, div_lt_iff₀ hd]
    have hcast : ((den * twoTo n : ℕ) : ℚ) = 2 ^ n * den := by simp [twoTo, mul_comm]
    rw [← hcast, Nat.cast_lt]
    rfl
  · rename_i hk
    obtain ⟨n, rfl⟩ : ∃ n : ℕ, k = -n := ⟨(-k).toNat, by omega⟩
    have hpos : (0 : ℚ) < 2 ^ n := by positivity
    rw [decide_eq_true_eq, zpow_neg, zpow_natCast, div_lt_iff₀ hd, inv_mul_eq_div, lt_div_iff₀ hpos]
    have hcast : ((num * twoTo n : ℕ) : ℚ) = num * 2 ^ n := by simp [twoTo]
    rw [← hcast, Nat.cast_lt]
    simp

/-! ## The power of two that fits -/

/-- The quotient of two natural numbers lies between the powers of two that their lengths give. -/
theorem log2_bounds {num den : ℕ} (hnum : 0 < num) (hden : 0 < den) :
    (2 : ℚ) ^ ((num.log2 : ℤ) - den.log2 - 1) < num / den ∧ (num : ℚ) / den < 2 ^ ((num.log2 : ℤ) - den.log2 + 1) := by
  have hd : (0 : ℚ) < den := by exact_mod_cast hden
  have hnumlow : (2 : ℚ) ^ (num.log2 : ℤ) ≤ num := by
    rw [zpow_natCast]
    exact_mod_cast Nat.log2_self_le hnum.ne'
  have hnumhigh : (num : ℚ) < 2 ^ ((num.log2 : ℤ) + 1) := by
    rw [← Nat.cast_succ, zpow_natCast]
    exact_mod_cast Nat.lt_log2_self
  have hdenlow : (2 : ℚ) ^ (den.log2 : ℤ) ≤ den := by
    rw [zpow_natCast]
    exact_mod_cast Nat.log2_self_le hden.ne'
  have hdenhigh : (den : ℚ) < 2 ^ ((den.log2 : ℤ) + 1) := by
    rw [← Nat.cast_succ, zpow_natCast]
    exact_mod_cast Nat.lt_log2_self
  constructor
  · rw [lt_div_iff₀ hd]
    calc (2 : ℚ) ^ ((num.log2 : ℤ) - den.log2 - 1) * den
        < 2 ^ ((num.log2 : ℤ) - den.log2 - 1) * 2 ^ ((den.log2 : ℤ) + 1) :=
          mul_lt_mul_of_pos_left hdenhigh (two_zpow_pos _)
      _ = 2 ^ (num.log2 : ℤ) := by rw [← zpow_add₀ (by norm_num)]; ring_nf
      _ ≤ num := hnumlow
  · rw [div_lt_iff₀ hd]
    calc (num : ℚ) < 2 ^ ((num.log2 : ℤ) + 1) := hnumhigh
      _ = 2 ^ ((num.log2 : ℤ) - den.log2 + 1) * 2 ^ (den.log2 : ℤ) := by rw [← zpow_add₀ (by norm_num)]; ring_nf
      _ ≤ 2 ^ ((num.log2 : ℤ) - den.log2 + 1) * den := mul_le_mul_of_nonneg_left hdenlow (two_zpow_pos _).le

/-- The number made of a rounded mantissa and its exponent. -/
def ofMantissa (negative : Bool) (m : ℕ) (e : ℤ) : Binary64 :=
  if m = 0 then zero negative
  else if m = twoTo 53 then (if greatestExponent < e + 1 then largest negative else ⟨negative, twoTo 52, e + 1⟩)
  else if greatestExponent < e then largest negative
  else ⟨negative, m, e⟩

/-- A fraction is rounded at the exponent at which it has 53 digits before the point, or at the least one. -/
theorem exists_ofFraction (negative : Bool) {num den : ℕ} (hnum : 0 < num) (hden : 0 < den) :
    ∃ e : ℤ, (2 : ℚ) ^ (e + (52 : ℕ)) ≤ num / den ∧ (num : ℚ) / den < 2 ^ (e + (53 : ℕ)) ∧
      ofFraction negative num den =
        ofMantissa negative (roundScaled num den (max leastExponent e)) (max leastExponent e) := by
  obtain ⟨hlow, hhigh⟩ := log2_bounds hnum hden
  have htest := lt_twoTo_iff num hden ((num.log2 : ℤ) - den.log2 - 52 + 52)
  cases hsmall : (if 0 ≤ (num.log2 : ℤ) - den.log2 - 52 + 52 then
      decide (num < den * twoTo ((num.log2 : ℤ) - den.log2 - 52 + 52).toNat)
    else decide (num * twoTo (-((num.log2 : ℤ) - den.log2 - 52 + 52)).toNat < den)) with
  | true =>
    refine ⟨(num.log2 : ℤ) - den.log2 - 52 - 1, ?_, ?_, ?_⟩
    · refine hlow.le.trans' (le_of_eq ?_)
      congr 1
      push_cast
      ring
    · refine (htest.mp hsmall).trans_eq ?_
      congr 1
      push_cast
      ring
    · simp only [ofFraction, hsmall, if_true, ofMantissa]
  | false =>
    refine ⟨(num.log2 : ℤ) - den.log2 - 52, ?_, ?_, ?_⟩
    · have hge : ¬ (num : ℚ) / den < 2 ^ ((num.log2 : ℤ) - den.log2 - 52 + 52) := by
        rw [← htest, hsmall]
        decide
      exact not_lt.mp hge
    · refine hhigh.trans_eq ?_
      congr 1
      push_cast
      ring
    · simp only [ofFraction, hsmall, Bool.false_eq_true, if_false, ofMantissa]

/-! ## Neighbourhoods -/

section Near

variable {x : Binary64} {v : ℚ}

/-- A magnitude that rounds to that of a number, in units of its mantissa. -/
theorem Near.scaled (h : x.Near v) :
    (x.mantissa : ℚ) - 1 / 2 ≤ v / 2 ^ x.exponent ∧ v / 2 ^ x.exponent ≤ x.mantissa + 1 / 2 := by
  have hp := two_zpow_pos x.exponent
  rw [le_div_iff₀ hp, div_le_iff₀ hp]
  refine ⟨h.low.trans' ?_, h.high⟩
  rw [lowerEnd]
  refine mul_le_mul_of_nonneg_right ?_ hp.le
  split <;> linarith

/-- A magnitude that rounds to that of a number lies below the end of its binade. -/
theorem Near.lt_binade (hx : x.IsNormal) (h : x.Near v) : v < 2 ^ (x.exponent + (53 : ℕ)) := by
  have hp := two_zpow_pos x.exponent
  have hle : x.mantissa + 1 ≤ 2 ^ 53 := hx.mantissa_lt
  have hq : (x.mantissa + 1 : ℚ) ≤ 2 ^ 53 := by exact_mod_cast hle
  rw [two_zpow_add]
  refine h.high.trans_lt ?_
  rw [upperEnd, mul_comm]
  exact mul_lt_mul_of_pos_left (by linarith) hp

/-- Only just before a power of two can a magnitude leave the binade of the number that it rounds to. -/
theorem Near.below_binade (hfull : 2 ^ 52 ≤ x.mantissa) (hleast : leastExponent < x.exponent) (h : x.Near v)
    (hbelow : v < 2 ^ (x.exponent + (52 : ℕ))) : x.mantissa = 2 ^ 52 ∧ (2 : ℚ) ^ (x.exponent + (51 : ℕ)) ≤ v := by
  have hp := two_zpow_pos x.exponent
  have hlowend := h.low.trans_lt hbelow
  rw [two_zpow_add, lowerEnd, mul_comm ((2 : ℚ) ^ x.exponent)] at hlowend
  have hunits := lt_of_mul_lt_mul_right hlowend hp.le
  -- A larger mantissa would have its whole neighbourhood within the binade.
  have hpower : x.mantissa = 2 ^ 52 := by
    by_contra hne
    have hge : 2 ^ 52 + 1 ≤ x.mantissa := by omega
    have hq : (2 ^ 52 + 1 : ℚ) ≤ x.mantissa := by exact_mod_cast hge
    rw [if_neg fun hand => hne hand.1] at hunits
    linarith
  refine ⟨hpower, h.low.trans' ?_⟩
  rw [two_zpow_add, lowerEnd, mul_comm, if_pos ⟨hpower, hleast⟩, hpower]
  refine mul_le_mul_of_nonneg_right ?_ hp.le
  norm_num

/-- A magnitude that rounds to that of a number has the exponent of the number, or the one below it just before a power of
two. -/
theorem Near.exponent (hx : x.IsNormal) (hpos : 0 < x.mantissa) (h : x.Near v) {e : ℤ}
    (hlow : (2 : ℚ) ^ (e + (52 : ℕ)) ≤ v) (hhigh : v < 2 ^ (e + (53 : ℕ))) :
    max leastExponent e = x.exponent ∨
      x.mantissa = 2 ^ 52 ∧ leastExponent < x.exponent ∧ max leastExponent e = x.exponent - 1 := by
  have hle := two_zpow_lt_iff.mp (hlow.trans_lt (h.lt_binade hx))
  have hleast := hx.least_le
  push_cast at hle
  by_cases hfits : (2 : ℚ) ^ (x.exponent + (52 : ℕ)) ≤ v
  · have hlt := two_zpow_lt_iff.mp (hfits.trans_lt hhigh)
    push_cast at hlt
    exact .inl (by omega)
  · rcases hx.full with ⟨hzero, -⟩ | ⟨-, hfull | hleast⟩
    · omega
    · rcases hleast.eq_or_lt with hleast | hleast
      · exact .inl (by omega)
      · obtain ⟨hpower, hhalf⟩ := h.below_binade hfull hleast (not_le.mp hfits)
        have hge := two_zpow_lt_iff.mp (hhalf.trans_lt hhigh)
        have hlt := two_zpow_lt_iff.mp (hlow.trans_lt (not_le.mp hfits))
        push_cast at hge hlt
        exact .inr ⟨hpower, hleast, by omega⟩
    · exact .inl (by omega)

/-- The mantissa of a number is what a magnitude that rounds to it is rounded to, in units of the mantissa. -/
theorem Near.roundScaled {num den : ℕ} (hden : 0 < den) (h : x.Near (num / den)) :
    roundScaled num den x.exponent = x.mantissa := by
  have hp := two_zpow_pos x.exponent
  obtain ⟨hlow, hhigh⟩ := h.scaled
  obtain ⟨num', den', hden', hquotient, hround⟩ := exists_roundScaled num hden x.exponent
  rw [← hquotient] at hlow hhigh
  rw [hround]
  refine roundDiv_eq hden' hlow hhigh fun htie => ?_
  rw [hquotient, div_eq_iff hp.ne', div_eq_iff hp.ne'] at htie
  refine h.even (htie.imp_left fun hlower => le_antisymm ?_ h.low)
  rw [hlower, lowerEnd]
  refine mul_le_mul_of_nonneg_right ?_ hp.le
  split <;> linarith

/-- **A fraction in the neighbourhood of a number is rounded to the number.** -/
theorem ofFraction_eq {num den : ℕ} (hnum : 0 < num) (hden : 0 < den) (hx : x.IsNormal) (hpos : 0 < x.mantissa)
    (h : x.Near (num / den)) : ofFraction x.negative num den = x := by
  obtain ⟨e, hlow, hhigh, hround⟩ := exists_ofFraction x.negative hnum hden
  have hgreatest := hx.le_greatest
  have hmantissa := hx.mantissa_lt
  rw [hround]
  rcases h.exponent hx hpos hlow hhigh with hexponent | ⟨hpower, hleast, hexponent⟩
  · rw [hexponent, h.roundScaled hden, ofMantissa, if_neg (by omega), if_neg (by rw [twoTo_eq]; exact hmantissa.ne),
      if_neg (by omega)]
  · have hcarry : Binary64.roundScaled num den (x.exponent - 1) = 2 ^ 53 := by
      have hp := two_zpow_pos (x.exponent - 1)
      have hdouble : (2 : ℚ) ^ x.exponent = 2 ^ (x.exponent - 1) * 2 := by
        rw [← zpow_add_one₀ (by norm_num)]
        congr 1
        ring
      obtain ⟨num', den', hden', hquotient, hround⟩ := exists_roundScaled num hden (x.exponent - 1)
      rw [hround]
      refine roundDiv_eq hden' ?_ ?_ fun _ => by norm_num
      · rw [hquotient, le_div_iff₀ hp]
        refine h.low.trans' ?_
        rw [lowerEnd, if_pos ⟨hpower, hleast⟩, hpower, hdouble]
        push_cast
        linarith
      · rw [hquotient, div_le_iff₀ hp]
        refine hhigh.le.trans ?_
        have hle : (2 : ℚ) ^ (e + (53 : ℕ)) ≤ 2 ^ (x.exponent - 1 + (53 : ℕ)) :=
          zpow_le_zpow_right₀ (by norm_num) (by omega)
        refine hle.trans ?_
        rw [two_zpow_add]
        push_cast
        linarith
    rw [hexponent, hcarry, ofMantissa, if_neg (by norm_num), if_pos (twoTo_eq 53).symm, if_neg (by omega), twoTo_eq, ← hpower,
      sub_add_cancel]

end Near

end EntitySearch.Binary64
