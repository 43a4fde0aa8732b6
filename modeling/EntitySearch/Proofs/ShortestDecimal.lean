import EntitySearch.Proofs.Rounding

/-!
# The shortest decimal rounds to its number

The digits that a number is written with are those of a decimal in its neighbourhood (`Binary64.near_shortestDigits`): each
candidate is tried before it is taken, and among the decimals of seventeen digits there is always one to take. Read as a
decimal, they give the number back (`Binary64.ofDecimal_eq`).
-/

namespace EntitySearch.Binary64

/-- Whether a magnitude lies in a neighbourhood; its ends do only when it is closed. -/
structure Neighbourhood.Holds (n : Neighbourhood) (v : ℚ) : Prop where
  low : (n.low : ℚ) / n.denominator ≤ v
  high : v ≤ (n.high : ℚ) / n.denominator
  closed : v = (n.low : ℚ) / n.denominator ∨ v = (n.high : ℚ) / n.denominator → n.closed = true

theorem tenTo_eq (n : ℕ) : tenTo n = 10 ^ n := rfl

theorem ten_zpow_pos (k : ℤ) : (0 : ℚ) < 10 ^ k := zpow_pos (by norm_num) k

/-! ## Decimals in a neighbourhood -/

section Grid

variable {unit : ℤ} {num den : ℕ}

theorem onGrid_pos (hden : 0 < den) : 0 < (onGrid unit num den).2 := by
  unfold onGrid
  split
  · exact Nat.mul_pos hden (Nat.pow_pos (by decide))
  · exact hden

/-- On the grid of a power of ten a fraction is measured in units of that power. -/
theorem onGrid_div : ((onGrid unit num den).1 : ℚ) / (onGrid unit num den).2 = num / den / 10 ^ unit := by
  unfold onGrid
  split
  · rename_i hunit
    obtain ⟨n, rfl⟩ := Int.eq_ofNat_of_zero_le hunit
    rw [zpow_natCast, div_div]
    simp [tenTo]
  · rename_i hunit
    obtain ⟨n, rfl⟩ : ∃ n : ℕ, unit = -n := ⟨(-unit).toNat, by omega⟩
    rw [zpow_neg, zpow_natCast, div_inv_eq_mul]
    simp [tenTo]
    ring

theorem onGrid_snd (num num' : ℕ) : (onGrid unit num den).2 = (onGrid unit num' den).2 := by
  unfold onGrid
  split <;> rfl

end Grid

/-- Whether a multiple of a power of ten lies in a neighbourhood. -/
def Neighbourhood.insideGrid (n : Neighbourhood) (unit : ℤ) (q : ℕ) : Bool :=
  let den := (onGrid unit n.value n.denominator).2
  let low := (onGrid unit n.low n.denominator).1
  let high := (onGrid unit n.high n.denominator).1
  if n.closed then low ≤ q * den && q * den ≤ high else low < q * den && q * den < high

/-- The multiple of a power of ten that is nearest to the value, the even one of two. -/
def Neighbourhood.roundsUp (n : Neighbourhood) (unit : ℤ) : Bool :=
  let value := (onGrid unit n.value n.denominator).1
  let den := (onGrid unit n.value n.denominator).2
  den < 2 * (value % den) || (2 * (value % den) == den && value / den % 2 == 1)

/-- The nearest point of a grid that stays inside the neighbourhood: the one below or the one above. -/
theorem nearestOnGrid_eq (n : Neighbourhood) (unit : ℤ) :
    nearestOnGrid n unit =
      let q := (onGrid unit n.value n.denominator).1 / (onGrid unit n.value n.denominator).2
      if n.roundsUp unit then
        (if n.insideGrid unit (q + 1) then some (q + 1) else if n.insideGrid unit q then some q else none)
      else (if n.insideGrid unit q then some q else if n.insideGrid unit (q + 1) then some (q + 1) else none) := rfl

/-- The test for points of a grid decides whether the neighbourhood holds one. -/
theorem Neighbourhood.insideGrid_iff {n : Neighbourhood} (hden : 0 < n.denominator) {unit : ℤ} {q : ℕ} :
    n.insideGrid unit q = true ↔ n.Holds (q * 10 ^ unit) := by
  have hp := ten_zpow_pos unit
  have hd : (0 : ℚ) < (onGrid unit n.value n.denominator).2 := by exact_mod_cast onGrid_pos hden
  have hunits : ∀ num : ℕ, (num : ℚ) / n.denominator =
      (onGrid unit num n.denominator).1 / (onGrid unit n.value n.denominator).2 * 10 ^ unit := by
    intro num
    rw [onGrid_snd n.value num, onGrid_div, div_mul_cancel₀ _ hp.ne']
  have hle : ∀ num : ℕ, (num : ℚ) / n.denominator ≤ q * 10 ^ unit ↔
      (onGrid unit num n.denominator).1 ≤ q * (onGrid unit n.value n.denominator).2 := by
    intro num
    rw [hunits, mul_le_mul_iff_left₀ hp, div_le_iff₀ hd]
    exact_mod_cast Iff.rfl
  have hge : ∀ num : ℕ, q * 10 ^ unit ≤ (num : ℚ) / n.denominator ↔
      q * (onGrid unit n.value n.denominator).2 ≤ (onGrid unit num n.denominator).1 := by
    intro num
    rw [hunits, mul_le_mul_iff_left₀ hp, le_div_iff₀ hd]
    exact_mod_cast Iff.rfl
  unfold insideGrid
  cases hclosed : n.closed with
  | true =>
    simp only [if_true, Bool.and_eq_true, decide_eq_true_eq]
    rw [← hle, ← hge]
    exact ⟨fun h => ⟨h.1, h.2, fun _ => hclosed⟩, fun h => ⟨h.low, h.high⟩⟩
  | false =>
    simp only [Bool.false_eq_true, if_false, Bool.and_eq_true, decide_eq_true_eq]
    rw [← not_le, ← not_le, ← hle, ← hge, not_le, not_le]
    constructor
    · rintro ⟨hlow, hhigh⟩
      exact ⟨hlow.le, hhigh.le, fun hend => absurd hend (not_or.mpr ⟨hlow.ne', hhigh.ne⟩)⟩
    · intro h
      have hends : ¬ (_ ∨ _) := fun hend => absurd (h.closed hend) (by rw [hclosed]; decide)
      obtain ⟨hlow, hhigh⟩ := not_or.mp hends
      exact ⟨lt_of_le_of_ne h.low (Ne.symm hlow), lt_of_le_of_ne h.high hhigh⟩

/-- The nearest point of a grid lies inside the neighbourhood. -/
theorem holds_of_nearestOnGrid {n : Neighbourhood} (hden : 0 < n.denominator) {unit : ℤ} {q : ℕ}
    (h : nearestOnGrid n unit = some q) : n.Holds (q * 10 ^ unit) := by
  have hfirst : ∀ {a b : ℕ},
      (if n.insideGrid unit a then some a else if n.insideGrid unit b then some b else none) = some q →
      n.insideGrid unit q = true := by
    intro a b hab
    split at hab
    · rwa [← Option.some.inj hab]
    · split at hab
      · rwa [← Option.some.inj hab]
      · cases hab
  rw [nearestOnGrid_eq] at h
  dsimp only at h
  split at h
  · exact (Neighbourhood.insideGrid_iff hden).mp (hfirst h)
  · exact (Neighbourhood.insideGrid_iff hden).mp (hfirst h)

/-- A multiple of a power of ten lies in a neighbourhood that holds everything up to half that power away from its value, if
it is no further away, in units of the power. -/
theorem insideGrid_of_close {n : Neighbourhood} (hden : 0 < n.denominator) {unit : ℤ}
    (h : ∀ v : ℚ, |v - n.value / n.denominator| ≤ 10 ^ unit / 2 → n.Holds v) {q : ℕ}
    (hclose : |(q : ℚ) * (onGrid unit n.value n.denominator).2 - (onGrid unit n.value n.denominator).1| ≤
      (onGrid unit n.value n.denominator).2 / 2) : n.insideGrid unit q = true := by
  have hp := ten_zpow_pos unit
  have hd : (0 : ℚ) < (onGrid unit n.value n.denominator).2 := by exact_mod_cast onGrid_pos hden
  have hvalue : (n.value : ℚ) / n.denominator =
      (onGrid unit n.value n.denominator).1 / (onGrid unit n.value n.denominator).2 * 10 ^ unit := by
    rw [onGrid_div, div_mul_cancel₀ _ hp.ne']
  refine (Neighbourhood.insideGrid_iff hden).mpr (h _ ?_)
  generalize (onGrid unit n.value n.denominator).1 = num at *
  generalize (onGrid unit n.value n.denominator).2 = den at *
  have hunits : (q : ℚ) * 10 ^ unit - num / den * 10 ^ unit = (q * den - num) / den * 10 ^ unit := by
    field_simp
  have hratio : |(q : ℚ) * den - num| / den ≤ 1 / 2 := by
    rw [div_le_iff₀ hd]
    linarith
  rw [hvalue, hunits, abs_mul, abs_div, abs_of_pos hd, abs_of_pos hp]
  linarith [mul_le_mul_of_nonneg_right hratio hp.le]

/-- When the nearest multiple of a power of ten lies in a neighbourhood, one is found. -/
theorem exists_nearestOnGrid {n : Neighbourhood} (hden : 0 < n.denominator) {unit : ℤ}
    (h : ∀ v : ℚ, |v - n.value / n.denominator| ≤ 10 ^ unit / 2 → n.Holds v) : ∃ q, nearestOnGrid n unit = some q := by
  have hdnat : 0 < (onGrid unit n.value n.denominator).2 := onGrid_pos hden
  have hclose := fun q : ℕ => insideGrid_of_close hden h (q := q)
  have hround := nearestOnGrid_eq n unit
  rw [Neighbourhood.roundsUp] at hround
  generalize (onGrid unit n.value n.denominator).1 = num at *
  generalize (onGrid unit n.value n.denominator).2 = den at *
  have hdiv : (num : ℚ) = den * (num / den : ℕ) + (num % den : ℕ) := by exact_mod_cast (Nat.div_add_mod num den).symm
  have hmod : num % den < den := Nat.mod_lt num hdnat
  generalize num / den = q at *
  generalize num % den = r at *
  dsimp only at hround
  split at hround
  · rename_i hup
    have hhalf : den ≤ 2 * r := by
      simp only [Bool.or_eq_true, Bool.and_eq_true, decide_eq_true_eq, beq_iff_eq] at hup
      omega
    have hnear : n.insideGrid unit (q + 1) = true := by
      refine hclose (q + 1) ?_
      have hq : (den : ℚ) ≤ 2 * r := by exact_mod_cast hhalf
      have hlt : (r : ℚ) < den := by exact_mod_cast hmod
      rw [hdiv]
      push_cast
      rw [abs_of_nonneg (by linarith)]
      linarith
    rw [if_pos hnear] at hround
    exact ⟨_, hround⟩
  · rename_i hup
    have hhalf : 2 * r ≤ den := by
      simp only [Bool.or_eq_true, Bool.and_eq_true, decide_eq_true_eq, beq_iff_eq, not_or, not_and] at hup
      omega
    have hnear : n.insideGrid unit q = true := by
      refine hclose q ?_
      have hq : (2 * r : ℚ) ≤ den := by exact_mod_cast hhalf
      rw [hdiv, abs_sub_comm, abs_of_nonneg (by linarith [Nat.cast_nonneg (α := ℚ) r])]
      linarith
    rw [if_pos hnear] at hround
    exact ⟨_, hround⟩

/-! ## The neighbourhood of a number -/

section Number

variable {x : Binary64}

/-- A neighbourhood has a positive denominator. -/
theorem neighbourhood_pos (x : Binary64) : 0 < x.neighbourhood.denominator := by
  simp only [neighbourhood]
  split
  · decide
  · exact Nat.pow_pos (by decide)

/-- A quarter of the last unit of the mantissa, as the neighbourhood measures it. -/
theorem neighbourhood_div (x : Binary64) (k : ℕ) :
    ((k * if 2 ≤ x.exponent then twoTo (x.exponent - 2).toNat else 1 : ℕ) : ℚ) / x.neighbourhood.denominator =
      k / 4 * 2 ^ x.exponent := by
  simp only [neighbourhood]
  split
  · rename_i h
    obtain ⟨n, hn⟩ : ∃ n : ℕ, x.exponent = n + (2 : ℕ) := ⟨(x.exponent - 2).toNat, by omega⟩
    have hcast : (x.exponent - 2).toNat = n := by omega
    rw [hcast, twoTo_eq, hn, two_zpow_add, zpow_natCast]
    push_cast
    ring
  · rename_i h
    obtain ⟨n, hn⟩ : ∃ n : ℕ, x.exponent = 2 - n := ⟨(2 - x.exponent).toNat, by omega⟩
    have hcast : (2 - x.exponent).toNat = n := by omega
    rw [hcast, twoTo_eq, hn, zpow_sub₀ (by norm_num), zpow_natCast]
    push_cast
    field_simp

/-- A neighbourhood is around the value of the number. -/
theorem neighbourhood_value (x : Binary64) :
    (x.neighbourhood.value : ℚ) / x.neighbourhood.denominator = x.mantissa * 2 ^ x.exponent := by
  have h := neighbourhood_div x (4 * x.mantissa)
  push_cast at h
  rw [mul_div_cancel_left₀ _ (by norm_num)] at h
  exact_mod_cast h

/-- The upper end of a neighbourhood is where numbers round up. -/
theorem neighbourhood_high (x : Binary64) :
    (x.neighbourhood.high : ℚ) / x.neighbourhood.denominator = x.upperEnd := by
  have h := neighbourhood_div x (4 * x.mantissa + 2)
  rw [upperEnd, show (x.mantissa + 1 / 2 : ℚ) = ((4 * x.mantissa + 2 : ℕ) : ℚ) / 4 by push_cast; ring, ← h]
  rfl

/-- The lower end of a neighbourhood is where numbers round down. -/
theorem neighbourhood_low (hpos : 0 < x.mantissa) :
    (x.neighbourhood.low : ℚ) / x.neighbourhood.denominator = x.lowerEnd := by
  have hbelow : x.neighbourhood.low = (4 * x.mantissa - if x.mantissa = 2 ^ 52 ∧ leastExponent < x.exponent then 1 else 2) *
      if 2 ≤ x.exponent then twoTo (x.exponent - 2).toNat else 1 := by
    simp only [neighbourhood, Bool.and_eq_true, decide_eq_true_eq]
    rfl
  rw [hbelow, neighbourhood_div, lowerEnd]
  congr 1
  split
  · rw [Nat.cast_sub (by omega)]
    push_cast
    ring
  · rw [Nat.cast_sub (by omega)]
    push_cast
    ring

/-- The neighbourhood of a number holds what rounds to the number. -/
theorem Neighbourhood.Holds.near (hpos : 0 < x.mantissa) {v : ℚ} (h : x.neighbourhood.Holds v) : x.Near v := by
  refine ⟨neighbourhood_low hpos ▸ h.low, neighbourhood_high x ▸ h.high, fun hend => ?_⟩
  rw [← neighbourhood_low hpos, ← neighbourhood_high x] at hend
  exact beq_iff_eq.mp (h.closed hend)

/-- What is nearer to a number than its own magnitude divided by `2 ^ 54` lies in its neighbourhood. -/
theorem holds_of_near (hx : x.IsNormal) (hpos : 0 < x.mantissa) {v : ℚ}
    (h : |v - x.mantissa * 2 ^ x.exponent| * 2 ^ 54 < x.mantissa * 2 ^ x.exponent) : x.neighbourhood.Holds v := by
  have hp := two_zpow_pos x.exponent
  have hlt : (x.mantissa : ℚ) < 2 ^ 53 := by exact_mod_cast hx.mantissa_lt
  have hunit : (x.mantissa : ℚ) * 2 ^ x.exponent < 2 ^ 53 * 2 ^ x.exponent := mul_lt_mul_of_pos_right hlt hp
  have hhigh : v < x.upperEnd := by
    have habs := le_abs_self (v - x.mantissa * 2 ^ x.exponent)
    rw [upperEnd]
    linarith
  have hlow : x.lowerEnd < v := by
    have habs := neg_abs_le (v - x.mantissa * 2 ^ x.exponent)
    rw [lowerEnd]
    split
    · rename_i hpower
      have hq : (x.mantissa : ℚ) = 2 ^ 52 := by exact_mod_cast hpower.1
      rw [hq] at h habs ⊢
      linarith
    · linarith
  rw [← neighbourhood_low hpos] at hlow
  rw [← neighbourhood_high x] at hhigh
  exact ⟨hlow.le, hhigh.le, fun hend => absurd hend (not_or.mpr ⟨hlow.ne', hhigh.ne⟩)⟩

/-- No number but zero is smaller than the least one. -/
theorem least_le_value (hx : x.IsNormal) (hpos : 0 < x.mantissa) : (2 : ℚ) ^ leastExponent ≤ x.mantissa * 2 ^ x.exponent := by
  have hone : (1 : ℚ) ≤ x.mantissa := by exact_mod_cast hpos
  calc (2 : ℚ) ^ leastExponent ≤ 2 ^ x.exponent := zpow_le_zpow_right₀ (by norm_num) hx.least_le
    _ = 1 * 2 ^ x.exponent := (one_mul _).symm
    _ ≤ x.mantissa * 2 ^ x.exponent := mul_le_mul_of_nonneg_right hone (two_zpow_pos _).le

end Number

/-! ## The number of digits -/

/-- A natural number has as many digits as the powers of ten around it say. -/
theorem toDigits_bounds {n : ℕ} (hn : 0 < n) :
    10 ^ ((Nat.toDigits 10 n).length - 1) ≤ n ∧ n < 10 ^ (Nat.toDigits 10 n).length := by
  have hpos : 0 < (Nat.toDigits 10 n).length := Nat.length_toDigits_pos
  refine ⟨?_, (Nat.length_toDigits_le_iff (by decide) hpos).mp (Nat.le_refl _)⟩
  by_cases hone : (Nat.toDigits 10 n).length = 1
  · rw [hone]
    exact hn
  · refine Nat.le_of_not_lt fun hlt => ?_
    have hle := (Nat.length_toDigits_le_iff (by decide) (by omega)).mpr hlt
    omega

/-- The power of ten above a fraction is the next one: the power before it is not above. -/
theorem ten_zpow_powerAbove_le {num den : ℕ} (hden : 0 < den) (hleast : (10 : ℚ) ^ (-341 : ℤ) ≤ num / den) :
    (10 : ℚ) ^ (powerAbove num den - 1) ≤ num / den := by
  have hd : (0 : ℚ) < den := by exact_mod_cast hden
  unfold powerAbove
  split
  · rename_i hle
    have hq : 0 < num / den := Nat.div_pos hle hden
    have hlen : 0 < (Nat.toDigits 10 (num / den)).length := Nat.length_toDigits_pos
    obtain ⟨k, hk⟩ : ∃ k, (Nat.toDigits 10 (num / den)).length = k + 1 := ⟨_, (Nat.succ_pred_eq_of_pos hlen).symm⟩
    have hbound := (toDigits_bounds hq).1
    rw [hk, Nat.add_sub_cancel] at hbound
    have hmul : 10 ^ k * den ≤ num := (Nat.le_div_iff_mul_le hden).mp hbound
    rw [hk, Nat.cast_add_one, add_sub_cancel_right, zpow_natCast, le_div_iff₀ hd]
    exact_mod_cast hmul
  · split
    · rename_i j hfound
      have htest : den ≤ num * 10 ^ (j + 1) :=
        of_decide_eq_true (List.find?_some (p := fun j => decide (den ≤ num * tenTo (j + 1))) hfound)
      have hq : (den : ℚ) ≤ num * 10 ^ (j + 1) := by exact_mod_cast htest
      rw [le_div_iff₀ hd, show -(j : ℤ) - 1 = -((j + 1 : ℕ) : ℤ) by push_cast; ring, zpow_neg, zpow_natCast,
        inv_mul_le_iff₀ (by positivity)]
      linarith
    · exact hleast

theorem ten_zpow_le_least : (10 : ℚ) ^ (-330 : ℤ) ≤ 2 ^ (leastExponent - 2) := by
  have hnat : 2 ^ 1076 ≤ 10 ^ 330 := by decide +kernel
  have hq : (2 : ℚ) ^ 1076 ≤ 10 ^ 330 := by exact_mod_cast hnat
  have hten : (10 : ℚ) ^ (-330 : ℤ) = (10 ^ 330)⁻¹ := by
    rw [show (-330 : ℤ) = -((330 : ℕ) : ℤ) by norm_num, zpow_neg, zpow_natCast]
  have htwo : (2 : ℚ) ^ (leastExponent - 2) = (2 ^ 1076)⁻¹ := by
    rw [show leastExponent - 2 = -((1076 : ℕ) : ℤ) by decide, zpow_neg, zpow_natCast]
  rw [hten, htwo]
  exact inv_anti₀ (by positivity) hq

theorem greatest_lt_ten_zpow : (2 : ℚ) ^ (greatestExponent + (53 : ℕ)) < 10 ^ (309 : ℤ) := by
  have hnat : 2 ^ 1024 < 10 ^ 309 := by decide +kernel
  have hq : (2 : ℚ) ^ 1024 < 10 ^ 309 := by exact_mod_cast hnat
  exact hq

/-! ## The shortest digits -/

section Number

variable {x : Binary64}

/-- With seventeen digits the grid is fine enough for the neighbourhood of every number. -/
theorem exists_nearestOnGrid_seventeen (hx : x.IsNormal) (hpos : 0 < x.mantissa) :
    ∃ q, nearestOnGrid x.neighbourhood (powerAbove x.neighbourhood.value x.neighbourhood.denominator - 17) = some q := by
  have hvalue := neighbourhood_value x
  have hleast : (10 : ℚ) ^ (-341 : ℤ) ≤ x.neighbourhood.value / x.neighbourhood.denominator := by
    rw [hvalue]
    calc (10 : ℚ) ^ (-341 : ℤ) ≤ 10 ^ (-330 : ℤ) := zpow_le_zpow_right₀ (by norm_num) (by norm_num)
      _ ≤ 2 ^ (leastExponent - 2) := ten_zpow_le_least
      _ ≤ 2 ^ leastExponent := zpow_le_zpow_right₀ (by norm_num) (by omega)
      _ ≤ x.mantissa * 2 ^ x.exponent := least_le_value hx hpos
  have habove := ten_zpow_powerAbove_le (neighbourhood_pos x) hleast
  refine exists_nearestOnGrid (neighbourhood_pos x) fun v hv => holds_of_near hx hpos ?_
  rw [hvalue] at hv habove
  generalize powerAbove x.neighbourhood.value x.neighbourhood.denominator = top at *
  have hten := ten_zpow_pos (top - 17)
  have hshift : (10 : ℚ) ^ (top - 1) = 10 ^ 16 * 10 ^ (top - 17) := by
    rw [show top - 1 = 16 + (top - 17) by ring, zpow_add₀ (by norm_num)]
    rfl
  calc |v - x.mantissa * 2 ^ x.exponent| * 2 ^ 54
      ≤ 10 ^ (top - 17) / 2 * 2 ^ 54 := mul_le_mul_of_nonneg_right hv (by norm_num)
    _ = 2 ^ 53 * 10 ^ (top - 17) := by ring
    _ < 10 ^ 16 * 10 ^ (top - 17) := mul_lt_mul_of_pos_right (by norm_num) hten
    _ ≤ x.mantissa * 2 ^ x.exponent := hshift ▸ habove

/-- The decimal that a number is written with rounds to the number. -/
theorem near_shortestDigits (hx : x.IsNormal) (hpos : 0 < x.mantissa) :
    x.Near (x.shortestDigits.1 * 10 ^ x.shortestDigits.2) := by
  obtain ⟨last, hlast⟩ := exists_nearestOnGrid_seventeen hx hpos
  rw [shortestDigits]
  cases hfound : (List.range 17).findSome? fun i =>
      (nearestOnGrid x.neighbourhood (powerAbove x.neighbourhood.value x.neighbourhood.denominator - (i + 1 : ℕ))).map fun q =>
        (q, powerAbove x.neighbourhood.value x.neighbourhood.denominator - (i + 1 : ℕ)) with
  | none =>
    -- The last precision that is tried always has a candidate.
    have hnone := List.findSome?_eq_none_iff.mp hfound 16 (by decide)
    rw [Option.map_eq_none_iff] at hnone
    exact absurd (hlast.symm.trans hnone) (by simp)
  | some found =>
    obtain ⟨i, -, hi⟩ := List.exists_of_findSome?_eq_some hfound
    obtain ⟨q, hq, rfl⟩ := Option.map_eq_some_iff.mp hi
    exact (holds_of_nearestOnGrid (neighbourhood_pos x) hq).near hpos

/-- What rounds to a positive number is not below the smallest halfway point. -/
theorem lowerEnd_ge (hx : x.IsNormal) (hpos : 0 < x.mantissa) : (2 : ℚ) ^ (leastExponent - 2) ≤ x.lowerEnd := by
  have hone : (1 : ℚ) ≤ x.mantissa := by exact_mod_cast hpos
  have hquarter : (2 : ℚ) ^ (x.exponent - 2) = 1 / 4 * 2 ^ x.exponent := by
    rw [zpow_sub₀ (by norm_num)]
    norm_num
    ring
  calc (2 : ℚ) ^ (leastExponent - 2) ≤ 2 ^ (x.exponent - 2) :=
        zpow_le_zpow_right₀ (by norm_num) (by linarith [hx.least_le])
    _ = 1 / 4 * 2 ^ x.exponent := hquarter
    _ ≤ x.lowerEnd := by
      refine mul_le_mul_of_nonneg_right ?_ (two_zpow_pos _).le
      split <;> linarith

/-- What rounds to a number is below the power of two beyond the largest one. -/
theorem upperEnd_lt (hx : x.IsNormal) : x.upperEnd < 2 ^ (greatestExponent + (53 : ℕ)) := by
  have hle : x.mantissa + 1 ≤ 2 ^ 53 := hx.mantissa_lt
  have hq : (x.mantissa + 1 : ℚ) ≤ 2 ^ 53 := by exact_mod_cast hle
  calc x.upperEnd < 2 ^ 53 * 2 ^ x.exponent := mul_lt_mul_of_pos_right (by linarith) (two_zpow_pos _)
    _ = 2 ^ (x.exponent + (53 : ℕ)) := by rw [two_zpow_add, mul_comm]
    _ ≤ 2 ^ (greatestExponent + (53 : ℕ)) := zpow_le_zpow_right₀ (by norm_num) (by linarith [hx.le_greatest])

/-- A decimal that rounds to a number other than zero has digits. -/
theorem pos_of_near (hx : x.IsNormal) (hpos : 0 < x.mantissa) {digits : ℕ} {power : ℤ} (h : x.Near (digits * 10 ^ power)) :
    0 < digits := by
  rcases Nat.eq_zero_or_pos digits with rfl | hdigits
  · have hlow := (lowerEnd_ge hx hpos).trans h.low
    rw [Nat.cast_zero, zero_mul] at hlow
    exact absurd hlow (not_le.mpr (two_zpow_pos _))
  · exact hdigits

/-- A decimal of a magnitude that the format has is neither taken for zero nor for the largest number. -/
theorem magnitude_bounds {digits : ℕ} {power : ℤ} (hdigits : 0 < digits) (hlow : (10 : ℚ) ^ (-330 : ℤ) ≤ digits * 10 ^ power)
    (hhigh : digits * (10 : ℚ) ^ power < 10 ^ (309 : ℤ)) :
    -330 ≤ (Nat.toDigits 10 digits).length + power ∧ (Nat.toDigits 10 digits).length + power ≤ 310 := by
  have hp := ten_zpow_pos power
  have hlen : 0 < (Nat.toDigits 10 digits).length := Nat.length_toDigits_pos
  obtain ⟨hge, hlt⟩ := toDigits_bounds hdigits
  generalize (Nat.toDigits 10 digits).length = len at *
  have habove : (digits : ℚ) * 10 ^ power < 10 ^ (len + power) := by
    rw [zpow_add₀ (by norm_num), zpow_natCast]
    exact mul_lt_mul_of_pos_right (by exact_mod_cast hlt) hp
  have hbelow : (10 : ℚ) ^ ((len - 1 : ℕ) + power) ≤ digits * 10 ^ power := by
    rw [zpow_add₀ (by norm_num), zpow_natCast]
    exact mul_le_mul_of_nonneg_right (by exact_mod_cast hge) hp.le
  have hleast := (zpow_lt_zpow_iff_right₀ (by norm_num)).mp (hlow.trans_lt habove)
  have hgreatest := (zpow_lt_zpow_iff_right₀ (by norm_num)).mp (hbelow.trans_lt hhigh)
  omega

/-- **A decimal that rounds to a number is read as the number.** -/
theorem ofDecimal_eq (hx : x.IsNormal) (hpos : 0 < x.mantissa) {digits : ℕ} {power : ℤ} (h : x.Near (digits * 10 ^ power)) :
    ofDecimal x.negative digits power = x := by
  have hlow := (ten_zpow_le_least.trans (lowerEnd_ge hx hpos)).trans h.low
  have hhigh := h.high.trans_lt ((upperEnd_lt hx).trans greatest_lt_ten_zpow)
  have hdigits := pos_of_near hx hpos h
  obtain ⟨hleast, hgreatest⟩ := magnitude_bounds hdigits hlow hhigh
  rw [ofDecimal, if_neg (by omega), if_neg (by omega)]
  split
  · rename_i hpower
    obtain ⟨n, rfl⟩ := Int.eq_ofNat_of_zero_le hpower
    refine ofFraction_eq (Nat.mul_pos hdigits (Nat.pow_pos (by decide))) (by decide) hx hpos ?_
    rw [zpow_natCast] at h
    simpa [tenTo_eq] using h
  · rename_i hpower
    obtain ⟨n, rfl⟩ : ∃ n : ℕ, power = -n := ⟨(-power).toNat, by omega⟩
    refine ofFraction_eq hdigits (Nat.pow_pos (by decide)) hx hpos ?_
    rw [zpow_neg, zpow_natCast, ← div_eq_mul_inv] at h
    simpa [tenTo_eq] using h

end Number

end EntitySearch.Binary64
