import Mathlib.Data.List.TakeWhile
import EntitySearch.Value
import EntitySearch.Proofs.ShortestDecimal

/-!
# Numbers read from their texts

A number in a statement is a sign, digits, and a fraction or a power of ten or both; without both it is a whole number. A
number of either kind is read from its own text as it is (`readNumber_int`, `readNumber_real`): the layout of a decimal keeps
its value (`exists_readUnsigned_layout`), whichever of the forms it takes.
-/

namespace EntitySearch.Sql

/-- The number that digits spell in base ten. -/
def ofDigits (ds : List Char) : ℕ := Nat.ofDigitChars 10 ds 0

/-- The power of ten at the end of a number: the letter, a sign and digits. Where there is none, the power is zero. -/
def readPower : List Char → Option ℤ
  | [] => some 0
  | 'e' :: '-' :: ds => if ds ≠ [] ∧ ds.all Char.isDigit then some (-(ofDigits ds : ℤ)) else none
  | 'e' :: '+' :: ds => if ds ≠ [] ∧ ds.all Char.isDigit then some (ofDigits ds) else none
  | _ => none

/-- The number that a text spells whose sign is known. -/
def readUnsigned (negative : Bool) (cs : List Char) : Option Value :=
  let whole := cs.takeWhile Char.isDigit
  if whole = [] then none
  else
    match cs.dropWhile Char.isDigit with
    | [] => some (.int (if negative then -(ofDigits whole : ℤ) else ofDigits whole))
    | '.' :: behind =>
      let fraction := behind.takeWhile Char.isDigit
      (readPower (behind.dropWhile Char.isDigit)).map fun p =>
        .real (.ofDecimal negative (ofDigits (whole ++ fraction)) (p - fraction.length))
    | behind => (readPower behind).map fun p => .real (.ofDecimal negative (ofDigits whole) p)

/-- The number that a text spells. -/
def readNumber : List Char → Option Value
  | '-' :: cs => readUnsigned true cs
  | cs => readUnsigned false cs

/-- Whether a character may stand in a number. -/
def isNumberChar (c : Char) : Bool := c.isDigit || c == '.' || c == 'e' || c == '+' || c == '-'

/-! ## The characters of a number -/

/-- A run of items ends where one that does not belong to it stands. -/
theorem run_append {α : Type} {p : α → Bool} {cs : List α} (rest : List α) (hcs : ∀ c ∈ cs, p c = true)
    (hrest : ∀ c ∈ rest.head?, p c = false) :
    (cs ++ rest).takeWhile p = cs ∧ (cs ++ rest).dropWhile p = rest := by
  have htake : rest.takeWhile p = [] ∧ rest.dropWhile p = rest := by
    cases rest with
    | nil => exact ⟨rfl, rfl⟩
    | cons c rest =>
      have hc := hrest c rfl
      exact ⟨List.takeWhile_cons_of_neg (by simp [hc]), List.dropWhile_cons_of_neg (by simp [hc])⟩
  rw [List.takeWhile_append_of_pos hcs, List.dropWhile_append_of_pos hcs, htake.1, htake.2, List.append_nil]
  exact ⟨rfl, rfl⟩

/-- A power of ten is written in characters of numbers. -/
theorem readPower_chars {cs : List Char} {p : ℤ} (h : readPower cs = some p) : ∀ c ∈ cs, isNumberChar c = true := by
  have hdigits : ∀ {ds : List Char}, ds.all Char.isDigit = true → ∀ c ∈ ds, isNumberChar c = true := by
    intro ds hds c hc
    simp [isNumberChar, List.all_eq_true.mp hds c hc]
  unfold readPower at h
  split at h
  · exact List.forall_mem_nil _
  · rename_i ds
    split at h
    · rename_i hds
      exact List.forall_mem_cons.mpr ⟨by decide, List.forall_mem_cons.mpr ⟨by decide, hdigits hds.2⟩⟩
    · cases h
  · rename_i ds
    split at h
    · rename_i hds
      exact List.forall_mem_cons.mpr ⟨by decide, List.forall_mem_cons.mpr ⟨by decide, hdigits hds.2⟩⟩
    · cases h
  · cases h

theorem isNumberChar_of_mem_takeWhile {cs : List Char} : ∀ c ∈ cs.takeWhile Char.isDigit, isNumberChar c = true := by
  intro c hc
  simp [isNumberChar, List.mem_takeWhile_imp hc]

/-- A number starts with a digit and is written in characters of numbers. -/
theorem readUnsigned_chars {negative : Bool} {cs : List Char} {v : Value} (h : readUnsigned negative cs = some v) :
    (∃ c ∈ cs.head?, c.isDigit = true) ∧ ∀ c ∈ cs, isNumberChar c = true := by
  rw [readUnsigned] at h
  dsimp only at h
  split at h
  · cases h
  · rename_i hne
    constructor
    · cases cs with
      | nil => exact absurd rfl hne
      | cons c rest =>
        refine ⟨c, rfl, ?_⟩
        by_contra hc
        exact hne (List.takeWhile_cons_of_neg hc)
    · rw [← List.takeWhile_append_dropWhile (p := Char.isDigit) (l := cs), List.forall_mem_append]
      refine ⟨isNumberChar_of_mem_takeWhile, ?_⟩
      split at h
      · rename_i hbehind
        rw [hbehind]
        exact List.forall_mem_nil _
      · rename_i behind hbehind
        obtain ⟨p, hp, -⟩ := Option.map_eq_some_iff.mp h
        rw [hbehind, List.forall_mem_cons, ← List.takeWhile_append_dropWhile (p := Char.isDigit) (l := behind),
          List.forall_mem_append]
        exact ⟨by decide, isNumberChar_of_mem_takeWhile, readPower_chars hp⟩
      · obtain ⟨p, hp, -⟩ := Option.map_eq_some_iff.mp h
        exact readPower_chars hp

/-- What is read as a number starts with a sign or a digit and holds nothing foreign to numbers. -/
theorem readNumber_chars {cs : List Char} {v : Value} (h : readNumber cs = some v) :
    (∃ c ∈ cs.head?, c = '-' ∨ c.isDigit = true) ∧ ∀ c ∈ cs, isNumberChar c = true := by
  unfold readNumber at h
  split at h
  · exact ⟨⟨'-', rfl, .inl rfl⟩, List.forall_mem_cons.mpr ⟨by decide, (readUnsigned_chars h).2⟩⟩
  · obtain ⟨⟨c, hc, hdigit⟩, hall⟩ := readUnsigned_chars h
    exact ⟨⟨c, hc, .inr hdigit⟩, hall⟩

/-! ## The forms of a number -/

section Forms

variable (negative : Bool) {whole fraction tail : List Char} {p : ℤ}

/-- Digits alone read as a whole number. -/
theorem readUnsigned_whole (hne : whole ≠ []) (hwhole : ∀ c ∈ whole, c.isDigit = true) :
    readUnsigned negative whole = some (.int (if negative then -(ofDigits whole : ℤ) else ofDigits whole)) := by
  obtain ⟨htake, hdrop⟩ := run_append [] hwhole (by simp)
  rw [List.append_nil] at htake hdrop
  simp only [readUnsigned, htake, hdrop, if_neg hne]

/-- Digits, a point and digits read as a decimal, with the power of ten behind them. -/
theorem readUnsigned_fraction (hne : whole ≠ []) (hwhole : ∀ c ∈ whole, c.isDigit = true)
    (hfraction : ∀ c ∈ fraction, c.isDigit = true) (htail : ∀ c ∈ tail.head?, c.isDigit = false)
    (hp : readPower tail = some p) :
    readUnsigned negative (whole ++ '.' :: (fraction ++ tail)) =
      some (.real (.ofDecimal negative (ofDigits (whole ++ fraction)) (p - fraction.length))) := by
  obtain ⟨htake, hdrop⟩ := run_append ('.' :: (fraction ++ tail)) hwhole (by simp)
  obtain ⟨htake', hdrop'⟩ := run_append tail hfraction htail
  simp only [readUnsigned, htake, hdrop, if_neg hne, htake', hdrop', hp, Option.map_some]

/-- Digits and a power of ten read as a decimal. -/
theorem readUnsigned_power {rest : List Char} (hne : whole ≠ []) (hwhole : ∀ c ∈ whole, c.isDigit = true)
    (hp : readPower ('e' :: rest) = some p) :
    readUnsigned negative (whole ++ 'e' :: rest) = some (.real (.ofDecimal negative (ofDigits whole) p)) := by
  obtain ⟨htake, hdrop⟩ := run_append ('e' :: rest) hwhole (by simp)
  simp [readUnsigned, htake, hdrop, hne, hp]

end Forms

theorem isDigit_of_mem_toDigits {n : ℕ} : ∀ c ∈ Nat.toDigits 10 n, c.isDigit = true := by
  intro c hc
  exact Nat.isDigit_of_mem_toDigits (by decide) (by decide) hc

theorem ofDigits_toDigits (n : ℕ) : ofDigits (Nat.toDigits 10 n) = n := Nat.ofDigitChars_ten_toDigits

/-- Zeros behind digits multiply their value. -/
theorem ofDigits_append_zeros (ds : List Char) (n : ℕ) : ofDigits (ds ++ List.replicate n '0') = 10 ^ n * ofDigits ds := by
  rw [ofDigits, Nat.ofDigitChars_append, Nat.ofDigitChars_replicate_zero, ofDigits]

/-- Zeros in front of digits change nothing. -/
theorem ofDigits_zeros_append (n : ℕ) (ds : List Char) : ofDigits (List.replicate n '0' ++ ds) = ofDigits ds := by
  rw [ofDigits, Nat.ofDigitChars_append, Nat.ofDigitChars_replicate_zero, Nat.mul_zero, ofDigits]

/-! ## Whole numbers -/

/-- **A whole number is read from its text.** -/
theorem readNumber_int (i : ℤ) : readNumber (toString i).toList = some (.int i) := by
  have hread : ∀ (negative : Bool) (n : ℕ),
      readUnsigned negative (Nat.toDigits 10 n) = some (.int (if negative then -(n : ℤ) else n)) := by
    intro negative n
    rw [readUnsigned_whole _ Nat.toDigits_ne_nil isDigit_of_mem_toDigits, ofDigits_toDigits]
  rw [Int.toString_eq_repr]
  cases i with
  | ofNat n =>
    have htext : (Int.repr (Int.ofNat n)).toList = Nat.toDigits 10 n := Nat.toList_repr
    rw [htext, readNumber]
    · exact hread false n
    · intro rest hrest
      have hdigit := isDigit_of_mem_toDigits (n := n) '-' (by rw [hrest]; exact List.mem_cons_self)
      exact absurd hdigit (by decide)
  | negSucc n =>
    have htext : (Int.repr (Int.negSucc n)).toList = '-' :: Nat.toDigits 10 (n + 1) := by
      rw [Int.repr, String.toList_append, Nat.toList_repr]
      rfl
    rw [htext, readNumber, hread]
    rfl

/-! ## Numbers with a fraction -/

/-- The power of ten behind the digits of a number is read as it is. -/
theorem readPower_layout (e : ℤ) :
    readPower ('e' :: (if e < 0 then '-' else '+') ::
      if (Nat.toDigits 10 e.natAbs).length < 2 then '0' :: Nat.toDigits 10 e.natAbs else Nat.toDigits 10 e.natAbs) =
      some e := by
  have hpadded : ∀ n : ℕ, ∃ ds : List Char,
      (if (Nat.toDigits 10 n).length < 2 then '0' :: Nat.toDigits 10 n else Nat.toDigits 10 n) = ds ∧
      (ds ≠ [] ∧ ds.all Char.isDigit = true) ∧ ofDigits ds = n := by
    intro n
    refine ⟨_, rfl, ?_⟩
    split
    · have hall : ∀ c ∈ '0' :: Nat.toDigits 10 n, c.isDigit = true :=
        List.forall_mem_cons.mpr ⟨by decide, isDigit_of_mem_toDigits⟩
      refine ⟨⟨List.cons_ne_nil _ _, List.all_eq_true.mpr hall⟩, ?_⟩
      exact (ofDigits_zeros_append 1 _).trans (ofDigits_toDigits n)
    · exact ⟨⟨Nat.toDigits_ne_nil, List.all_eq_true.mpr isDigit_of_mem_toDigits⟩, ofDigits_toDigits n⟩
  obtain ⟨ds, hds, hdigits, hvalue⟩ := hpadded e.natAbs
  rw [hds]
  split
  · rename_i hneg
    simp only [readPower, if_pos hdigits, hvalue]
    congr 1
    omega
  · rename_i hneg
    simp only [readPower, if_pos hdigits, hvalue]
    congr 1
    omega

/-- Digits with those at their end that are zero apart. -/
theorem dropLastZeros_append (ds : List Char) :
    ∃ n : ℕ, ds = (ds.reverse.dropWhile (· == '0')).reverse ++ List.replicate n '0' := by
  have hzeros : ∀ c ∈ ds.reverse.takeWhile (· == '0'), c = '0' := by
    intro c hc
    exact beq_iff_eq.mp (List.mem_takeWhile_imp (p := (· == '0')) hc)
  refine ⟨(ds.reverse.takeWhile (· == '0')).length, ?_⟩
  rw [← List.reverse_replicate, ← List.eq_replicate_of_mem hzeros, ← List.reverse_append, List.takeWhile_append_dropWhile,
    List.reverse_reverse]

/-- A decimal with a power of ten is read as a decimal of the same value, its last zeros left out. -/
theorem readUnsigned_exponential (negative : Bool) {q : ℕ} (hq : 0 < q) (power : ℤ) {significant : List Char} {n : ℕ}
    (hsplit : Nat.toDigits 10 q = significant ++ List.replicate n '0') {behind : List Char}
    (hp : readPower ('e' :: behind) = some ((Nat.toDigits 10 q).length + power - 1)) :
    ∃ (digits : ℕ) (power' : ℤ),
      readUnsigned negative (significant.take 1 ++ (match significant.tail with
        | [] => []
        | rest => '.' :: rest) ++ 'e' :: behind) = some (.real (.ofDecimal negative digits power')) ∧
      (digits : ℚ) * 10 ^ power' = q * 10 ^ power := by
  have hvalue : q = 10 ^ n * ofDigits significant := by
    rw [← ofDigits_append_zeros, ← hsplit, ofDigits_toDigits]
  have hdigit : ∀ c ∈ significant, c.isDigit = true := by
    intro c hc
    exact isDigit_of_mem_toDigits c (hsplit ▸ List.mem_append_left _ hc)
  have hlength : (Nat.toDigits 10 q).length = significant.length + n := by
    rw [hsplit, List.length_append, List.length_replicate]
  have hshift : (ofDigits significant : ℚ) * 10 ^ (n + power) = q * 10 ^ power := by
    rw [zpow_add₀ (by norm_num), zpow_natCast, hvalue]
    push_cast
    ring
  rw [hlength] at hp
  cases significant with
  | nil =>
    rw [hvalue] at hq
    exact absurd hq (by simp [ofDigits])
  | cons c fraction =>
    have hc : ∀ d ∈ [c], d.isDigit = true := by simpa using hdigit c List.mem_cons_self
    have hfraction : ∀ d ∈ fraction, d.isDigit = true := fun d hd => hdigit d (List.mem_cons_of_mem c hd)
    refine ⟨ofDigits (c :: fraction), n + power, ?_, hshift⟩
    cases fraction with
    | nil =>
      have hread := readUnsigned_power negative (List.cons_ne_nil c []) hc hp
      have hpower : (([c].length + n : ℕ) : ℤ) + power - 1 = n + power := by
        simp only [List.length_singleton]
        omega
      rw [hpower] at hread
      exact hread
    | cons d fraction =>
      have hread := readUnsigned_fraction negative (List.cons_ne_nil c []) hc hfraction (by simp) hp
      have hpower : (((c :: d :: fraction).length + n : ℕ) : ℤ) + power - 1 - (d :: fraction).length = n + power := by
        simp only [List.length_cons]
        omega
      rw [hpower] at hread
      exact hread

section Layout

variable (negative : Bool) {ds : List Char} {power : ℤ}

theorem isDigit_of_mem_zeros (n : ℕ) : ∀ c ∈ List.replicate n '0', c.isDigit = true := by
  intro c hc
  rw [(List.mem_replicate.mp hc).2]
  decide

theorem no_digit_behind : ∀ c ∈ ([] : List Char).head?, c.isDigit = false := by
  simp

/-- A decimal whose digits all stand behind the point is read as its digits. -/
theorem readUnsigned_behind_point (hdigits : ∀ c ∈ ds, c.isDigit = true) (hpoint : ds.length + power ≤ 0) :
    readUnsigned negative ('0' :: '.' :: List.replicate (-(ds.length + power)).toNat '0' ++ ds) =
      some (.real (.ofDecimal negative (ofDigits ds) power)) := by
  have hread := readUnsigned_fraction negative (p := 0) (List.cons_ne_nil '0' []) (isDigit_of_mem_zeros 1)
    (List.forall_mem_append.mpr ⟨isDigit_of_mem_zeros (-(ds.length + power)).toNat, hdigits⟩) no_digit_behind rfl
  have hspelled : ofDigits (['0'] ++ (List.replicate (-(ds.length + power)).toNat '0' ++ ds)) = ofDigits ds :=
    (ofDigits_zeros_append 1 _).trans (ofDigits_zeros_append _ ds)
  have hpower : (0 : ℤ) - (List.replicate (-(ds.length + power)).toNat '0' ++ ds).length = power := by
    rw [List.length_append, List.length_replicate]
    omega
  rw [List.append_nil, hspelled, hpower] at hread
  exact hread

/-- A decimal without a digit behind the point is read as its digits and the zeros behind them, one of them behind the point.
-/
theorem readUnsigned_before_point (hne : ds ≠ []) (hdigits : ∀ c ∈ ds, c.isDigit = true) (k : ℕ) :
    readUnsigned negative (ds ++ List.replicate k '0' ++ ['.', '0']) =
      some (.real (.ofDecimal negative (10 * (10 ^ k * ofDigits ds)) (-1))) := by
  have hread := readUnsigned_fraction negative (p := 0) (List.append_ne_nil_of_left_ne_nil hne _)
    (List.forall_mem_append.mpr ⟨hdigits, isDigit_of_mem_zeros k⟩) (isDigit_of_mem_zeros 1) no_digit_behind rfl
  have hspelled : ofDigits (ds ++ List.replicate k '0' ++ List.replicate 1 '0') = 10 * (10 ^ k * ofDigits ds) := by
    rw [ofDigits_append_zeros, ofDigits_append_zeros, pow_one]
  rw [List.append_nil, hspelled] at hread
  exact hread

/-- A decimal with its point between the digits is read as its digits. -/
theorem readUnsigned_between (hne : ds ≠ []) (hdigits : ∀ c ∈ ds, c.isDigit = true) (hpoint : 0 < ds.length + power)
    (hpower : power < 0) :
    readUnsigned negative (ds.take (ds.length + power).toNat ++ '.' :: ds.drop (ds.length + power).toNat) =
      some (.real (.ofDecimal negative (ofDigits ds) power)) := by
  obtain ⟨k, hk⟩ : ∃ k : ℕ, (ds.length + power).toNat = k + 1 := ⟨(ds.length + power).toNat - 1, by omega⟩
  have hfront : ds.take (ds.length + power).toNat ≠ [] := by
    rw [hk]
    simpa using hne
  have hread := readUnsigned_fraction negative (p := 0) hfront (fun c hc => hdigits c (List.mem_of_mem_take hc))
    (fun c (hc : c ∈ ds.drop (ds.length + power).toNat) => hdigits c (List.mem_of_mem_drop hc)) no_digit_behind rfl
  have hrear : (0 : ℤ) - (ds.drop (ds.length + power).toNat).length = power := by
    rw [List.length_drop]
    omega
  rw [List.append_nil, List.take_append_drop, hrear] at hread
  exact hread

end Layout

/-- **The layout of a decimal is read as a decimal of the same value.** -/
theorem exists_readUnsigned_layout (negative : Bool) {q : ℕ} (hq : 0 < q) (power : ℤ) :
    ∃ (digits : ℕ) (power' : ℤ),
      readUnsigned negative (Binary64.layout q power) = some (.real (.ofDecimal negative digits power')) ∧
      (digits : ℚ) * 10 ^ power' = q * 10 ^ power := by
  have hdigits := isDigit_of_mem_toDigits (n := q)
  have hvalue := ofDigits_toDigits q
  have hne : Nat.toDigits 10 q ≠ [] := Nat.toDigits_ne_nil
  rw [Binary64.layout]
  dsimp only
  split
  · obtain ⟨n, hsplit⟩ := dropLastZeros_append (Nat.toDigits 10 q)
    exact readUnsigned_exponential negative hq power hsplit (readPower_layout _)
  · split
    · rename_i hpoint
      exact ⟨_, power, readUnsigned_behind_point negative hdigits hpoint, by rw [hvalue]⟩
    · rename_i hpoint
      split
      · rename_i hpower
        obtain ⟨k, rfl⟩ := Int.eq_ofNat_of_zero_le hpower
        refine ⟨_, _, readUnsigned_before_point negative hne hdigits k, ?_⟩
        rw [hvalue, zpow_natCast]
        push_cast
        norm_num
        ring
      · rename_i hpower
        exact ⟨_, power, readUnsigned_between negative hne hdigits (not_le.mp hpoint) (not_le.mp hpower), by rw [hvalue]⟩

/-- **A number with a fraction is read from its text.** -/
theorem readNumber_real {x : Binary64} (hx : x.IsNormal) : readNumber x.toText.toList = some (.real x) := by
  have hsign : ∀ (negative : Bool) (cs : List Char) {v : Value}, readUnsigned negative cs = some v →
      readNumber ((if negative then ['-'] else []) ++ cs) = some v := by
    intro negative cs v h
    cases negative with
    | true => exact h
    | false =>
      obtain ⟨⟨c, hc, hdigit⟩, -⟩ := readUnsigned_chars h
      rw [if_neg (by decide), List.nil_append, readNumber]
      · exact h
      · rintro rest rfl
        rw [← Option.some.inj hc] at hdigit
        exact absurd hdigit (by decide)
  rw [Binary64.toText]
  dsimp only
  split
  · rename_i hzero
    have hmantissa : x.mantissa = 0 := beq_iff_eq.mp hzero
    have hexponent : x.exponent = 0 := by
      rcases hx.full with ⟨-, he⟩ | ⟨hpos, -⟩
      · exact he
      · omega
    have hx0 : Binary64.zero x.negative = x := by
      cases x
      simp_all [Binary64.zero]
    rw [String.toList_ofList]
    exact hsign x.negative ['0', '.', '0'] (congrArg (some ∘ Value.real) hx0)
  · rename_i hzero
    have hpos : 0 < x.mantissa := Nat.pos_of_ne_zero fun h => hzero (beq_iff_eq.mpr h)
    have hnear := Binary64.near_shortestDigits hx hpos
    obtain ⟨digits, power, hread, hvalue⟩ :=
      exists_readUnsigned_layout x.negative (Binary64.pos_of_near hx hpos hnear) x.shortestDigits.2
    rw [← hvalue] at hnear
    rw [Binary64.ofDecimal_eq hx hpos hnear] at hread
    rw [String.toList_ofList]
    exact hsign x.negative _ hread

end EntitySearch.Sql
