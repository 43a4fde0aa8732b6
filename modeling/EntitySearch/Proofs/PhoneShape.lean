import EntitySearch.Phone
import EntitySearch.Proofs.Words

/-!
# Blanks do not change the shape of a query

A query is phone-shaped or not by its characters other than blanks, in their order (`Phone.isShaped_eq`): blanks may stand
anywhere in a phone number, and none of them is a digit. A raw query is therefore phone-shaped just when its normalized form is
(`Phone.isShaped_normalize`).
-/

namespace EntitySearch

namespace Text

/-- The characters of a text that are no blanks. -/
def solid (cs : List Char) : List Char := cs.filter fun c => !isBlank c

/-- No digit is a blank. -/
theorem isBlank_of_isDecimalDigit {c : Char} (h : isDecimalDigit c = true) : isBlank c = false := by
  have hapart : ∀ r ∈ decimalDigitRanges, ∀ s ∈ blankRanges, r.2 < s.1 ∨ s.2 < r.1 := by decide
  obtain ⟨r, hr, hlow, hhigh⟩ := (CodeRange.covers_iff _ c).mp h
  refine Bool.eq_false_iff.mpr fun hblank => ?_
  obtain ⟨s, hs, hlow', hhigh'⟩ := (CodeRange.covers_iff _ c).mp hblank
  rcases hapart r hr s hs with hlt | hlt
  · omega
  · omega

/-- Blanks at the front do not count. -/
theorem solid_dropWhile (cs : List Char) : solid (cs.dropWhile isBlank) = solid cs := by
  induction cs with
  | nil => rfl
  | cons c cs ih =>
    by_cases hc : isBlank c = true
    · rw [List.dropWhile_cons_of_pos hc, ih]
      simp [solid, hc]
    · rw [List.dropWhile_cons_of_neg hc]

theorem solid_trim (cs : List Char) : solid (trim cs) = solid cs := by
  calc solid (trim cs) = (solid ((cs.dropWhile isBlank).reverse.dropWhile isBlank)).reverse := List.filter_reverse
    _ = (solid (cs.dropWhile isBlank).reverse).reverse := by rw [solid_dropWhile]
    _ = solid (cs.dropWhile isBlank) := by rw [solid, List.filter_reverse, List.reverse_reverse]; rfl
    _ = solid cs := solid_dropWhile cs

/-- A trimmed text does not start with a blank. -/
theorem isBlank_of_trim_eq_cons {cs rest : List Char} {c : Char} (h : trim cs = c :: rest) : isBlank c = false := by
  have hpre : trim cs <+: cs.dropWhile isBlank := by
    have hreverse := List.reverse_prefix.mpr (List.dropWhile_suffix (l := (cs.dropWhile isBlank).reverse) isBlank)
    rwa [List.reverse_reverse] at hreverse
  rw [h] at hpre
  obtain ⟨after, hcons⟩ := hpre
  have hhead := List.head_dropWhile_not isBlank (l := cs) (by rw [← hcons]; exact List.cons_ne_nil _ _)
  simpa [← hcons] using hhead

/-- Blanks between words do not count. -/
theorem solid_joinWith {separator : List Char} (hsep : solid separator = []) (ws : List (List Char)) :
    solid (joinWith separator ws) = solid ws.flatten := by
  induction ws with
  | nil => rfl
  | cons w ws ih =>
    cases ws with
    | nil => simp [joinWith]
    | cons v vs =>
      rw [joinWith]
      · simp only [solid, List.filter_append, List.flatten_cons] at ih hsep ⊢
        rw [hsep, List.append_nil, ih]
      · simp

/-- Normalizing a query touches blanks only. -/
theorem solid_normalize (cs : List Char) : solid (Query.normalize cs) = solid cs := by
  have hsep : solid [' '] = [] := by decide
  rw [Query.normalize, solid_joinWith hsep, words_flatten]
  simp [solid]

end Text

namespace Phone

open Text

/-- A text is phone-shaped by its characters that are no blanks. -/
theorem isShaped_eq (cs : List Char) :
    isShaped cs = ((dropSign (solid cs)).all isPhoneChar && (dropSign (solid cs)).any isDecimalDigit) := by
  have hbody : dropSign (solid cs) = solid (dropSign (trim cs)) := by
    rw [← solid_trim]
    cases htrim : trim cs with
    | nil => rfl
    | cons c rest =>
      have hc := isBlank_of_trim_eq_cons htrim
      have hsolid : solid (c :: rest) = c :: solid rest := by simp [solid, hc]
      rw [hsolid, dropSign, dropSign]
      split
      · rfl
      · exact hsolid.symm
  have hall : (solid (dropSign (trim cs))).all isPhoneChar = (dropSign (trim cs)).all isPhoneChar := by
    rw [solid, List.all_filter]
    refine congrArg (List.all _) (funext fun c => ?_)
    by_cases hc : isBlank c = true
    · simp [hc, isPhoneChar]
    · simp [hc]
  have hany : (solid (dropSign (trim cs))).any isDecimalDigit = (dropSign (trim cs)).any isDecimalDigit := by
    rw [solid, List.any_filter]
    refine congrArg (List.any _) (funext fun c => ?_)
    by_cases hc : isDecimalDigit c = true
    · simp [isBlank_of_isDecimalDigit hc]
    · simp [hc]
  rw [hbody, hall, hany]
  rfl

/-- A raw query is phone-shaped just when its normalized form is. -/
theorem isShaped_normalize (cs : List Char) : isShaped (Query.normalize cs) = isShaped cs := by
  rw [isShaped_eq, isShaped_eq, solid_normalize]

/-- A phone-shaped text is made of characters of phone numbers behind blanks and a plus sign that may be missing. -/
theorem exists_of_isShaped {cs : List Char} (h : isShaped cs = true) : ∃ lead rest, cs = lead ++ rest ∧
    (∀ c ∈ lead, (c = '+' ∨ isPhoneChar c = true) ∧ isDecimalDigit c = false) ∧ ∀ c ∈ rest, isPhoneChar c = true := by
  have hblank : ∀ c, isBlank c = true → isPhoneChar c = true ∧ isDecimalDigit c = false := by
    intro c hc
    refine ⟨by simp [isPhoneChar, hc], Bool.eq_false_iff.mpr fun hd => ?_⟩
    rw [isBlank_of_isDecimalDigit hd] at hc
    cases hc
  obtain ⟨before, after, hcs, hbefore, hafter⟩ := exists_trim cs
  obtain ⟨sign, htrim, hsign⟩ := exists_dropSign (trim cs)
  have hbody : ∀ c ∈ dropSign (trim cs), isPhoneChar c = true := List.all_eq_true.mp (Bool.and_eq_true_iff.mp h).1
  refine ⟨before ++ sign, dropSign (trim cs) ++ after, ?_, ?_, ?_⟩
  · rw [List.append_assoc, ← List.append_assoc sign, ← htrim]
    exact hcs
  · intro c hc
    rcases List.mem_append.mp hc with hc | hc
    · exact (hblank c (hbefore c hc)).imp_left .inr
    · rw [hsign c hc]
      decide
  · intro c hc
    rcases List.mem_append.mp hc with hc | hc
    · exact hbody c hc
    · exact (hblank c (hafter c hc)).1

end Phone

end EntitySearch
