import Mathlib.Data.List.DropRight
import EntitySearch.Proofs.PhoneShape
import EntitySearch.Text.LowerCase

/-!
# Lower case is final

The lower-case form of a text is its own lower-case form (`Text.lowerCase_lowerCase`): what the case data map a character to
lies outside all their runs. None of these forms is a blank, nor is any character that has one, so that a text without blanks
at its ends has none in lower case either (`Text.isTrimmed_lowerCase`).
-/

namespace EntitySearch.Text

namespace LowerCase

/-! ## The runs of the case data -/

namespace Shift

/-- The code point a run maps a code point to. -/
def form (s : Shift) (n : Nat) : Nat := (n + s.shift).toNat

/-- Whether what a run maps to lies outside another run: before it, behind it, or on the code points it skips. -/
def misses (s t : Shift) : Bool :=
  Nat.blt (s.form s.last) t.first || Nat.blt t.last (s.form s.first) ||
    (t.stride == 2 && (s.stride == 2 || s.first == s.last) && (s.form s.first + t.first) % 2 == 1)

/-- Whether no code point from one to another lies in a run. -/
def avoids (first last : Nat) (r : CodeRange) : Bool := Nat.blt last r.1 || Nat.blt r.2 first

/-- Whether the members of a run are no blanks, and what it maps them to are characters, and neither blanks nor one of the two
whose lower-case form is not told by a run. -/
def isSettled (s : Shift) : Bool :=
  decide (0 ≤ s.first + s.shift) && Nat.blt (s.form s.last) 0x110000 && blankRanges.all (avoids s.first s.last) &&
    (blankRanges ++ [(0x0130, 0x0130), (0x03A3, 0x03A3), (0xD800, 0xDFFF)]).all (avoids (s.form s.first) (s.form s.last))

end Shift

/-- What a run of the case data maps to lies outside all of them. -/
theorem all_misses : (shifts.all fun s => shifts.all fun t => s.misses t) = true := by decide +kernel

/-- All runs of the case data stay clear of blanks and of the letters with a rule of their own. -/
theorem all_isSettled : (shifts.all fun s => s.isSettled) = true := by decide +kernel

theorem misses_of_mem {s t : Shift} (hs : s ∈ shifts) (ht : t ∈ shifts) : s.misses t = true :=
  List.all_eq_true.mp (List.all_eq_true.mp all_misses s hs) t ht

namespace Shift

variable {s t : Shift} {n : Nat}

/-- A run applies to the code points from its first to its last, at its stride. -/
theorem applies_iff : s.applies n = true ↔ s.first ≤ n ∧ n ≤ s.last ∧ (n - s.first) % s.stride = 0 := by
  simp [applies, and_assoc]

/-- A settled run in inequalities: its forms are code points, and neither they nor its members are blanks. -/
theorem isSettled_iff : s.isSettled = true ↔ 0 ≤ s.first + s.shift ∧ s.form s.last < 0x110000 ∧
    (∀ r ∈ blankRanges, s.last < r.1 ∨ r.2 < s.first) ∧
    ∀ r ∈ blankRanges ++ [(0x0130, 0x0130), (0x03A3, 0x03A3), (0xD800, 0xDFFF)], s.form s.last < r.1 ∨ r.2 < s.form s.first := by
  simp only [isSettled, avoids, Bool.and_eq_true, Bool.or_eq_true, decide_eq_true_eq, Nat.blt_eq, List.all_eq_true, and_assoc]

/-- The forms of a run lie between those of its ends. -/
theorem form_bounds (hs : s.isSettled = true) (hn : s.applies n = true) :
    s.form s.first ≤ s.form n ∧ s.form n ≤ s.form s.last ∧ (s.form n : Int) = n + s.shift := by
  obtain ⟨hfirst, hlast, -⟩ := applies_iff.mp hn
  obtain ⟨hnonneg, -⟩ := isSettled_iff.mp hs
  unfold form
  omega

/-- A run does not apply to what a run that misses it maps to. -/
theorem not_applies_form (hs : s.isSettled = true) (hmiss : s.misses t = true) (hn : s.applies n = true) :
    t.applies (s.form n) = false := by
  refine Bool.eq_false_iff.mpr fun happlies => ?_
  obtain ⟨hlow, hhigh, hform⟩ := form_bounds hs hn
  obtain ⟨hfirst, -, hstride⟩ := applies_iff.mp hn
  obtain ⟨hfirst', hlast', hstride'⟩ := applies_iff.mp happlies
  obtain ⟨hnonneg, -⟩ := isSettled_iff.mp hs
  simp only [misses, Bool.or_eq_true, Bool.and_eq_true, beq_iff_eq, Nat.blt_eq] at hmiss
  rcases hmiss with (hbefore | hbehind) | ⟨⟨htwo, hodd⟩, hparity⟩
  · omega
  · omega
  · -- Both runs keep to one parity, and the parities differ.
    have hfirstForm : (s.form s.first : Int) = s.first + s.shift := by unfold form; omega
    rw [htwo] at hstride'
    rcases hodd with hsteps | hsingle
    · rw [hsteps] at hstride
      omega
    · rw [← hsingle] at hhigh
      omega

end Shift

/-! ## Characters -/

/-- Whether a character is its own lower-case form, whatever stands around it. -/
def IsFinal (c : Char) : Prop := c ≠ 'İ' ∧ c ≠ 'Σ' ∧ ofChar c = c

theorem toNat_ofNat {n : Nat} (h : n.isValidChar) : (Char.ofNat n).toNat = n := by
  rw [Char.ofNat, dif_pos h]
  rfl

/-- A character in no run is its own lower-case form. -/
theorem ofChar_eq_self {c : Char} (h : ∀ s ∈ shifts, s.applies c.toNat = false) : ofChar c = c := by
  have hnone : shifts.find? (·.applies c.toNat) = none := List.find?_eq_none.mpr fun s hs => by simp [h s hs]
  rw [ofChar, hnone]

/-- What a run maps a character to is a character. -/
theorem toNat_ofChar {c : Char} {s : Shift} (h : shifts.find? (·.applies c.toNat) = some s) :
    (ofChar c).toNat = s.form c.toNat := by
  have hsettled := List.all_eq_true.mp all_isSettled s (List.mem_of_find?_eq_some h)
  obtain ⟨hlow, hhigh, -⟩ := Shift.form_bounds hsettled (List.find?_some (p := fun t : Shift => t.applies c.toNat) h)
  obtain ⟨-, hbound, -, havoids⟩ := Shift.isSettled_iff.mp hsettled
  have hsurrogate := havoids (0xD800, 0xDFFF) (by simp)
  rw [ofChar, h]
  refine toNat_ofNat ?_
  change s.form c.toNat < 55296 ∨ 57343 < s.form c.toNat ∧ s.form c.toNat < 1114112
  omega

/-- A character either has no lower-case form by itself, or one that is final, and then neither of the two is a blank. -/
theorem ofChar_cases (c : Char) :
    ofChar c = c ∨ IsFinal (ofChar c) ∧ isBlank (ofChar c) = false ∧ isBlank c = false := by
  cases hfind : shifts.find? (·.applies c.toNat) with
  | none => exact .inl (ofChar_eq_self fun s hs => by simpa using List.find?_eq_none.mp hfind s hs)
  | some s =>
    have hmem := List.mem_of_find?_eq_some hfind
    have hsettled := List.all_eq_true.mp all_isSettled s hmem
    have happlies : s.applies c.toNat = true := List.find?_some (p := fun t : Shift => t.applies c.toNat) hfind
    have hform := toNat_ofChar hfind
    obtain ⟨hlow, hhigh, -⟩ := Shift.form_bounds hsettled happlies
    obtain ⟨hfirst, hlast, -⟩ := Shift.applies_iff.mp happlies
    obtain ⟨-, -, hblank, havoids⟩ := Shift.isSettled_iff.mp hsettled
    have hne : ∀ d, (d.toNat, d.toNat) ∈ [(0x0130, 0x0130), (0x03A3, 0x03A3), (0xD800, 0xDFFF)] → ofChar c ≠ d := by
      rintro d hd rfl
      have := havoids _ (List.mem_append_right _ hd)
      omega
    refine .inr ⟨⟨hne 'İ' (by decide), hne 'Σ' (by decide), ?_⟩, ?_, ?_⟩
    · refine ofChar_eq_self fun t ht => ?_
      rw [hform]
      exact Shift.not_applies_form hsettled (misses_of_mem hmem ht) happlies
    · refine Bool.eq_false_iff.mpr fun hcovers => ?_
      obtain ⟨r, hr, hrange⟩ := (CodeRange.covers_iff _ _).mp hcovers
      have := havoids r (List.mem_append_left _ hr)
      omega
    · refine Bool.eq_false_iff.mpr fun hcovers => ?_
      obtain ⟨r, hr, hrange⟩ := (CodeRange.covers_iff _ _).mp hcovers
      have := hblank r hr
      omega

/-- Both small sigmas stay as they are, and neither is a blank. -/
theorem isFinal_sigma (before after : List Char) : IsFinal (sigma before after) ∧ isBlank (sigma before after) = false := by
  have hfinal : IsFinal 'ς' ∧ IsFinal 'σ' := by
    refine ⟨⟨by decide, by decide, by decide +kernel⟩, by decide, by decide, by decide +kernel⟩
  unfold sigma
  split
  · exact ⟨hfinal.1, by decide⟩
  · exact ⟨hfinal.2, by decide⟩

/-! ## Texts -/

/-- Lower-casing turns the first character into one or two final ones, all of them blanks or none as it is. -/
theorem exists_form (before : List Char) (c : Char) (rest : List Char) :
    ∃ form, chars before (c :: rest) = form ++ chars (c :: before) rest ∧ form ≠ [] ∧
      ∀ d ∈ form, IsFinal d ∧ isBlank d = isBlank c := by
  rw [chars]
  split
  · rename_i hc
    refine ⟨_, rfl, List.cons_ne_nil _ _, ?_⟩
    have hblank : isBlank 'i' = isBlank 'İ' ∧ isBlank '\u0307' = isBlank 'İ' := by decide
    have hfinal : ofChar 'i' = 'i' ∧ ofChar '\u0307' = '\u0307' := by decide +kernel
    rw [hc, List.forall_mem_cons, List.forall_mem_singleton]
    exact ⟨⟨⟨by decide, by decide, hfinal.1⟩, hblank.1⟩, ⟨by decide, by decide, hfinal.2⟩, hblank.2⟩
  · rename_i hdotted
    split
    · rename_i hc
      have hblank : isBlank 'Σ' = false := by decide
      obtain ⟨hfinal, hsigma⟩ := isFinal_sigma before rest
      exact ⟨_, rfl, List.cons_ne_nil _ _, by rw [hc, List.forall_mem_singleton, hsigma, hblank]; exact ⟨hfinal, rfl⟩⟩
    · rename_i hsigma
      refine ⟨_, rfl, List.cons_ne_nil _ _, (List.forall_mem_singleton ..).mpr ?_⟩
      rcases ofChar_cases c with hself | ⟨hfinal, hform, hc⟩
      · rw [hself]
        exact ⟨⟨hdotted, hsigma, hself⟩, rfl⟩
      · exact ⟨hfinal, hform.trans hc.symm⟩

/-- Every character of a text in lower case stays as it is. -/
theorem isFinal_of_mem_chars {before cs : List Char} : ∀ d ∈ chars before cs, IsFinal d := by
  induction cs generalizing before with
  | nil => exact List.forall_mem_nil _
  | cons c rest ih =>
    obtain ⟨form, heq, -, hform⟩ := exists_form before c rest
    rw [heq, List.forall_mem_append]
    exact ⟨fun d hd => (hform d hd).1, ih⟩

/-- A text of such characters is its own lower case. -/
theorem chars_of_isFinal {before cs : List Char} (h : ∀ c ∈ cs, IsFinal c) : chars before cs = cs := by
  induction cs generalizing before with
  | nil => rfl
  | cons c rest ih =>
    obtain ⟨⟨hdotted, hsigma, hself⟩, hrest⟩ := List.forall_mem_cons.mp h
    rw [chars, if_neg hdotted, if_neg hsigma, hself, ih hrest]
    rfl

/-- A text in lower case starts with a blank when the text does. -/
theorem exists_head_of_chars {before cs : List Char} {d : Char} (h : (chars before cs).head? = some d) :
    ∃ c, cs.head? = some c ∧ isBlank d = isBlank c := by
  cases cs with
  | nil => cases h
  | cons c rest =>
    obtain ⟨form, heq, hne, hform⟩ := exists_form before c rest
    obtain ⟨e, form, rfl⟩ := List.exists_cons_of_ne_nil hne
    rw [heq, List.cons_append, List.head?_cons, Option.some.injEq] at h
    exact ⟨c, rfl, h ▸ (hform e List.mem_cons_self).2⟩

/-- A text in lower case ends with a blank when the text does. -/
theorem exists_last_of_chars {before cs : List Char} {d : Char} (h : (chars before cs).getLast? = some d) :
    ∃ c, cs.getLast? = some c ∧ isBlank d = isBlank c := by
  induction cs generalizing before d with
  | nil => cases h
  | cons c rest ih =>
    obtain ⟨form, heq, hne, hform⟩ := exists_form before c rest
    rw [heq, List.getLast?_append] at h
    cases hlast : (chars (c :: before) rest).getLast? with
    | some e =>
      rw [hlast, Option.some_or, Option.some.injEq] at h
      obtain ⟨c', hc', hblank⟩ := ih hlast
      exact ⟨c', by rw [List.getLast?_cons, hc']; rfl, h ▸ hblank⟩
    | none =>
      rw [hlast, Option.none_or] at h
      cases rest with
      | nil => exact ⟨c, rfl, (hform d (List.mem_of_getLast? h)).2⟩
      | cons c' rest =>
        obtain ⟨form', heq', hne', -⟩ := exists_form (c :: before) c' rest
        rw [List.getLast?_eq_none_iff, heq', List.append_eq_nil_iff] at hlast
        exact absurd hlast.1 hne'

end LowerCase

/-- The lower-case form of a text is its own lower-case form. -/
theorem lowerCase_lowerCase (cs : List Char) : lowerCase (lowerCase cs) = lowerCase cs :=
  LowerCase.chars_of_isFinal LowerCase.isFinal_of_mem_chars

/-- Whether no blank stands at either end of a text. -/
def IsTrimmed (cs : List Char) : Prop :=
  (∀ c, cs.head? = some c → isBlank c = false) ∧ ∀ c, cs.getLast? = some c → isBlank c = false

/-- Without the blanks around it a text has none at its ends. -/
theorem isTrimmed_trim (cs : List Char) : IsTrimmed (trim cs) := by
  refine ⟨fun c hc => ?_, fun c hc => ?_⟩
  · obtain ⟨rest, hcons⟩ := List.head?_eq_some_iff.mp hc
    exact isBlank_of_trim_eq_cons hcons
  · have hne : List.rdropWhile isBlank (cs.dropWhile isBlank) ≠ [] := List.ne_nil_of_mem (List.mem_of_getLast? hc)
    have hlast : (trim cs).getLast? = some ((List.rdropWhile isBlank (cs.dropWhile isBlank)).getLast hne) :=
      List.getLast?_eq_getLast_of_ne_nil hne
    rw [hlast, Option.some.injEq] at hc
    rw [← hc]
    exact Bool.eq_false_iff.mpr (List.rdropWhile_last_not isBlank _ hne)

/-- A text without blanks at its ends is left alone. -/
theorem trim_of_isTrimmed {cs : List Char} (h : IsTrimmed cs) : trim cs = cs := by
  have hfront : cs.dropWhile isBlank = cs := by
    cases cs with
    | nil => rfl
    | cons c rest => exact List.dropWhile_cons_of_neg (by simp [h.1 c rfl])
  have hrear : List.rdropWhile isBlank cs = cs :=
    List.rdropWhile_eq_self_iff.mpr fun hne => by simp [h.2 _ (List.getLast?_eq_getLast_of_ne_nil hne)]
  rw [trim, hfront]
  exact hrear

/-- Lower case brings no blanks to the ends of a text. -/
theorem isTrimmed_lowerCase {cs : List Char} (h : IsTrimmed cs) : IsTrimmed (lowerCase cs) := by
  refine ⟨fun d hd => ?_, fun d hd => ?_⟩
  · obtain ⟨c, hc, hblank⟩ := LowerCase.exists_head_of_chars hd
    rw [hblank, h.1 c hc]
  · obtain ⟨c, hc, hblank⟩ := LowerCase.exists_last_of_chars hd
    rw [hblank, h.2 c hc]

end EntitySearch.Text
