import Mathlib.Data.List.Basic
import EntitySearch.Proofs.StoredPhone

/-!
# Digits of other scripts

Phones may be written with the decimal digits of any script, and are stored with the very digits they are written with: the
stored form is made of ASCII digits just when the text has no others (`Phone.isDigit_withCountryCode_iff`). Texts that spell the
same digits, each with its value, are stored alike just when they use the same characters for them
(`Phone.digits_are_stored_as_written`), and the trunk digit is the one of ASCII (`Phone.devanagari_digits_are_kept`).
-/

namespace EntitySearch

namespace Text

variable {c : Char}

/-- Decimal digits, and no other characters, have a value. -/
theorem isSome_digitValue? (c : Char) : (digitValue? c).isSome = isDecimalDigit c := by
  rw [Bool.eq_iff_iff]
  simp [digitValue?, isDecimalDigit, CodeRange.covers_iff, List.find?_isSome]

theorem toNat_of_isDigit (h : c.isDigit = true) : 48 ≤ c.toNat ∧ c.toNat ≤ 57 := by
  simp only [Char.isDigit, Bool.and_eq_true, decide_eq_true_eq] at h
  exact ⟨UInt32.le_iff_toNat_le.mp h.1, UInt32.le_iff_toNat_le.mp h.2⟩

theorem digitValue?_of_isDigit (h : c.isDigit = true) : digitValue? c = some (c.toNat - 48) := by
  obtain ⟨hlow, hhigh⟩ := toNat_of_isDigit h
  have hfind : decimalDigitRanges.find? (fun r => decide (r.1 ≤ c.toNat) && decide (c.toNat ≤ r.2)) = some (48, 57) := by
    rw [decimalDigitRanges, List.find?_cons_of_pos]
    simp [hlow, hhigh]
  have hvalue : (c.toNat - 48) % 10 = c.toNat - 48 := Nat.mod_eq_of_lt (by omega)
  rw [digitValue?, hfind, Option.map_some, hvalue]

/-- An ASCII digit is the one that its value is written with. -/
theorem map_digitChar_digitValue? (h : c.isDigit = true) : (digitValue? c).map Nat.digitChar = some c := by
  have hdigit : ∀ k < 10, Nat.digitChar k = Char.ofNat (48 + k) := by decide
  obtain ⟨hlow, hhigh⟩ := toNat_of_isDigit h
  obtain ⟨k, hk⟩ := Nat.exists_eq_add_of_le hlow
  rw [digitValue?_of_isDigit h, Option.map_some, hk, Nat.add_sub_cancel_left, hdigit k (by omega), ← hk, Char.ofNat_toNat]

end Text

namespace Phone

open Text

variable {cs cs' ds : List Char}

/-- The values of the digits of a text, in order. -/
def values (cs : List Char) : List Nat := (digits cs).filterMap digitValue?

/-- Every digit of a text has a value. -/
theorem map_digitValue? (cs : List Char) : (digits cs).map digitValue? = (values cs).map some := by
  have hvalue : (digits cs).filterMap (fun c => (digitValue? c).map some) = (digits cs).filterMap (some ∘ digitValue?) := by
    refine List.filterMap_congr ?_
    intro c hc
    obtain ⟨v, hv⟩ := Option.isSome_iff_exists.mp ((isSome_digitValue? c).trans (List.mem_filter.mp hc).2)
    rw [Function.comp_apply, hv, Option.map_some]
  rw [values, List.map_filterMap, hvalue, List.filterMap_eq_map]

/-- ASCII digits are known by their values. -/
theorem digits_eq_map_values (h : ∀ c ∈ digits cs, c.isDigit = true) : digits cs = (values cs).map Nat.digitChar := by
  have hwritten : (digits cs).filterMap (fun c => (digitValue? c).map Nat.digitChar) = (digits cs).filterMap some := by
    refine List.filterMap_congr ?_
    intro c hc
    exact map_digitChar_digitValue? (h c hc)
  rw [values, List.map_filterMap, hwritten, List.filterMap_some]

/-- The two forms of a full number differ in the values of their digits. -/
theorem not_isDomesticFormOf (h : values cs = values cs') : ¬IsDomesticFormOf (digits cs) (digits cs') := by
  have hdigits : (digits cs).map digitValue? = (digits cs').map digitValue? := by
    rw [map_digitValue?, map_digitValue?, h]
  rw [isDomesticFormOf_iff]
  rintro ⟨rest, -, hds, hes⟩
  rw [hds, hes, List.map_cons, List.map_cons, List.cons.injEq] at hdigits
  exact absurd hdigits.1 (by decide)

/-- With the country code, digits are those of ASCII just when they are so without it. -/
theorem isDigit_withCountryCode_iff : (∀ c ∈ withCountryCode ds, c.isDigit = true) ↔ ∀ c ∈ ds, c.isDigit = true := by
  constructor
  · intro h c hc
    by_cases hdomestic : IsDomestic ds
    · obtain ⟨rest, rfl⟩ := List.head?_eq_some_iff.mp hdomestic.1
      rw [withCountryCode_of_isDomestic hdomestic] at h
      rcases List.mem_cons.mp hc with rfl | hc
      · decide
      · exact h c (List.mem_cons_of_mem _ hc)
    · rw [withCountryCode_of_not_isDomestic hdomestic] at h
      exact h c hc
  · have hcode : countryCode.isDigit = true := by decide
    exact forall_mem_withCountryCode hcode

/-- **Digits are stored as they are written.** Phone-shaped texts have stored forms, which are made of decimal digits and are not
empty. A stored form has ASCII digits only just when the text has no others. Texts whose digits have the same values are stored
alike just when their digits are the same characters, and so always when all of them are digits of ASCII. -/
theorem digits_are_stored_as_written (h : isShaped cs = true) (h' : isShaped cs' = true) :
    ∃ stored stored', normalize cs = some stored ∧ normalize cs' = some stored' ∧
      stored ≠ [] ∧ (∀ c ∈ stored, isDecimalDigit c = true) ∧
      ((∀ c ∈ stored, c.isDigit = true) ↔ ∀ c ∈ digits cs, c.isDigit = true) ∧
      (values cs = values cs' → (stored = stored' ↔ digits cs = digits cs')) ∧
      ((∀ c ∈ digits cs ++ digits cs', c.isDigit = true) → values cs = values cs' → stored = stored') := by
  obtain ⟨stored, hstored⟩ := exists_normalize h
  obtain ⟨stored', hstored'⟩ := exists_normalize h'
  refine ⟨stored, stored', hstored, hstored', ?_⟩
  have hdigit : ∀ c ∈ stored, isDecimalDigit c = true := by
    intro c hc
    exact isDecimalDigit_of_mem_normalize hstored hc
  obtain ⟨hne, rfl⟩ := normalize_eq_some_iff.mp hstored
  obtain ⟨-, rfl⟩ := normalize_eq_some_iff.mp hstored'
  have halike : values cs = values cs' →
      (withCountryCode (digits cs) = withCountryCode (digits cs') ↔ digits cs = digits cs') := by
    intro hvalues
    rw [withCountryCode_eq_iff]
    simp [not_isDomesticFormOf hvalues, not_isDomesticFormOf hvalues.symm]
  refine ⟨mt withCountryCode_eq_nil_iff.mp hne, hdigit, isDigit_withCountryCode_iff, halike, ?_⟩
  intro hascii hvalues
  obtain ⟨hds, hes⟩ := List.forall_mem_append.mp hascii
  rw [halike hvalues, digits_eq_map_values hds, digits_eq_map_values hes, hvalues]

/-- A number is stored alike with brackets and without them when its digits are written in one script. -/
theorem brackets_are_not_stored :
    isShaped "8 (700) 123-45-67".toList = true ∧ isShaped "+8 700 1234567".toList = true ∧
      values "8 (700) 123-45-67".toList = values "+8 700 1234567".toList ∧
      normalize "8 (700) 123-45-67".toList = some "77001234567".toList ∧
      normalize "+8 700 1234567".toList = some "77001234567".toList := by
  have hshaped : isShaped "8 (700) 123-45-67".toList = true := by decide
  have hshaped' : isShaped "+8 700 1234567".toList = true := by decide
  have hvalues : values "8 (700) 123-45-67".toList = values "+8 700 1234567".toList := by decide
  have hnormal : normalize "8 (700) 123-45-67".toList = some "77001234567".toList := by decide
  have hascii : ∀ c ∈ digits "8 (700) 123-45-67".toList ++ digits "+8 700 1234567".toList, c.isDigit = true :=
    List.all_eq_true.mp (by decide)
  obtain ⟨stored, stored', hstored, hstored', -, -, -, -, halike⟩ := digits_are_stored_as_written hshaped hshaped'
  refine ⟨hshaped, hshaped', hvalues, hnormal, ?_⟩
  rw [hstored', ← halike hascii hvalues, ← hstored, hnormal]

/-- A full number in Devanagari digits is stored in them, and its trunk digit is not replaced: it is stored in another form than
the same number in ASCII digits. -/
theorem devanagari_digits_are_kept :
    isShaped "८ (७००) १२३-४५-६७".toList = true ∧ isShaped "8 (700) 123-45-67".toList = true ∧
      values "८ (७००) १२३-४५-६७".toList = values "8 (700) 123-45-67".toList ∧
      normalize "८ (७००) १२३-४५-६७".toList = some "८७००१२३४५६७".toList ∧
      normalize "8 (700) 123-45-67".toList = some "77001234567".toList ∧
      ¬∀ c ∈ "८७००१२३४५६७".toList, c.isDigit = true := by
  refine ⟨by decide, by decide, by decide, by decide, by decide, fun h => ?_⟩
  exact absurd (h '८' (by decide)) (by decide)

end Phone

end EntitySearch
