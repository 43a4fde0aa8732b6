import EntitySearch.Phone

/-!
# Stored phones

The stored form of a phone has the digits of the phone, except that a full number that starts with the trunk digit has the
country code in its place (`withCountryCode_eq_self_iff`). Two phones are stored alike when they have the same digits, or when
one has the trunk digit where the other has the country code (`withCountryCode_eq_iff`), and a stored form is stored as it is
(`stored_form_is_canonical`). The plus sign of a number in international form is dropped before the digits are looked at, so the
same holds of such numbers (`international_number_is_stored`): one with a country code that starts with the trunk digit loses it
when it is as long as a full number (`country_code_84_is_lost`).
-/

namespace EntitySearch.Phone

open Text

/-- Without its sign a number has no new characters. -/
theorem dropSign_subset (cs : List Char) : dropSign cs ⊆ cs := by
  obtain ⟨sign, hcs, -⟩ := exists_dropSign cs
  intro c hc
  rw [hcs]
  exact List.mem_append_right _ hc

theorem trim_subset (cs : List Char) : trim cs ⊆ cs := by
  obtain ⟨before, after, hcs, -⟩ := exists_trim cs
  intro c hc
  rw [hcs]
  exact List.mem_append_right _ (List.mem_append_left _ hc)

/-- A phone-shaped text has a digit. -/
theorem digits_ne_nil_of_isShaped {cs : List Char} (h : isShaped cs = true) : digits cs ≠ [] := by
  rw [isShaped, Bool.and_eq_true, List.any_eq_true] at h
  obtain ⟨-, c, hc, hd⟩ := h
  exact List.ne_nil_of_mem (List.mem_filter.mpr ⟨trim_subset cs (dropSign_subset _ hc), hd⟩)

/-- A phone-shaped text has a stored form, because it has a digit. -/
theorem exists_normalize {cs : List Char} (h : isShaped cs = true) : ∃ ds, normalize cs = some ds :=
  ⟨_, normalize_eq_some (digits_ne_nil_of_isShaped h)⟩

/-! ## The trunk digit and the country code -/

/-- Whether digits are a full number that starts with the trunk digit. -/
def IsDomestic (ds : List Char) : Prop := ds.head? = some trunkDigit ∧ ds.length = fullLength

/-- Whether digits are a full number that starts with the trunk digit, and others are the same number with the country code. -/
def IsDomesticFormOf (ds es : List Char) : Prop := IsDomestic ds ∧ es = countryCode :: ds.tail

variable {ds es : List Char}

/-- A domestic number has the country code in place of its trunk digit. -/
theorem withCountryCode_of_isDomestic (h : IsDomestic ds) : withCountryCode ds = countryCode :: ds.tail := by
  obtain ⟨hhead, hlength⟩ := h
  obtain ⟨rest, rfl⟩ := List.head?_eq_some_iff.mp hhead
  rw [withCountryCode, if_pos ⟨rfl, hlength⟩, List.tail_cons]

/-- Any other number is left as it is. -/
theorem withCountryCode_of_not_isDomestic (h : ¬IsDomestic ds) : withCountryCode ds = ds := by
  cases ds with
  | nil => rfl
  | cons d ds =>
    rw [withCountryCode, if_neg]
    rintro ⟨rfl, hlength⟩
    exact h ⟨rfl, hlength⟩

/-- A number with the country code does not start with the trunk digit. -/
theorem not_isDomestic_countryCode (ds : List Char) : ¬IsDomestic (countryCode :: ds) := by
  rintro ⟨hhead, -⟩
  exact absurd (Option.some.inj hhead) (by decide)

/-- The stored form keeps all digits unless they are a full number that starts with the trunk digit. -/
theorem withCountryCode_eq_self_iff : withCountryCode ds = ds ↔ ¬IsDomestic ds := by
  constructor
  · intro hkept hdomestic
    rw [withCountryCode_of_isDomestic hdomestic] at hkept
    exact not_isDomestic_countryCode ds.tail (hkept ▸ hdomestic)
  · exact withCountryCode_of_not_isDomestic

/-- Full numbers that start with the trunk digit are equal when they agree behind it. -/
theorem IsDomestic.eq_of_tail_eq (hds : IsDomestic ds) (hes : IsDomestic es) (h : ds.tail = es.tail) : ds = es := by
  obtain ⟨rest, rfl⟩ := List.head?_eq_some_iff.mp hds.1
  obtain ⟨rest', rfl⟩ := List.head?_eq_some_iff.mp hes.1
  rw [List.tail_cons, List.tail_cons] at h
  rw [h]

/-- Digits are stored alike when they are equal, or the same full number with the trunk digit and with the country code. -/
theorem withCountryCode_eq_iff :
    withCountryCode ds = withCountryCode es ↔ ds = es ∨ IsDomesticFormOf ds es ∨ IsDomesticFormOf es ds := by
  constructor
  · intro h
    by_cases hds : IsDomestic ds <;> by_cases hes : IsDomestic es
    · rw [withCountryCode_of_isDomestic hds, withCountryCode_of_isDomestic hes, List.cons.injEq] at h
      exact .inl (hds.eq_of_tail_eq hes h.2)
    · rw [withCountryCode_of_isDomestic hds, withCountryCode_of_not_isDomestic hes] at h
      exact .inr (.inl ⟨hds, h.symm⟩)
    · rw [withCountryCode_of_not_isDomestic hds, withCountryCode_of_isDomestic hes] at h
      exact .inr (.inr ⟨hes, h⟩)
    · rw [withCountryCode_of_not_isDomestic hds, withCountryCode_of_not_isDomestic hes] at h
      exact .inl h
  · have hform : ∀ {ds es : List Char}, IsDomesticFormOf ds es → withCountryCode ds = withCountryCode es := by
      rintro ds _ ⟨hds, rfl⟩
      rw [withCountryCode_of_isDomestic hds, withCountryCode_of_not_isDomestic (not_isDomestic_countryCode ds.tail)]
    rintro (rfl | h | h)
    · rfl
    · exact hform h
    · exact (hform h).symm

/-! ## Stored forms -/

/-- Nothing is stored of a text just when it has no digit. -/
theorem normalize_eq_none_iff {cs : List Char} : normalize cs = none ↔ ∀ c ∈ cs, isDecimalDigit c = false := by
  rw [← digits_eq_nil_iff]
  constructor
  · intro h
    cases hds : digits cs with
    | nil => rfl
    | cons d ds =>
      rw [normalize, hds] at h
      nomatch h
  · intro h
    rw [normalize, h]

/-- What is stored of a text are its digits, with the country code. -/
theorem normalize_eq_some_iff {cs : List Char} : normalize cs = some ds ↔ digits cs ≠ [] ∧ ds = withCountryCode (digits cs) := by
  constructor
  · intro h
    have hne : digits cs ≠ [] := by
      intro hnil
      rw [normalize, hnil] at h
      nomatch h
    rw [normalize_eq_some hne] at h
    exact ⟨hne, (Option.some.inj h).symm⟩
  · rintro ⟨hne, rfl⟩
    exact normalize_eq_some hne

/-- The country code takes the place of one digit. -/
theorem length_withCountryCode (ds : List Char) : (withCountryCode ds).length = ds.length := by
  cases ds with
  | nil => rfl
  | cons d ds =>
    rw [withCountryCode]
    split <;> rfl

/-- Only an empty number stays empty. -/
theorem withCountryCode_eq_nil_iff : withCountryCode ds = [] ↔ ds = [] := by
  rw [← List.length_eq_zero_iff, length_withCountryCode, List.length_eq_zero_iff]

/-- With the country code, a full number does not start with the trunk digit. -/
theorem not_isDomestic_withCountryCode (ds : List Char) : ¬IsDomestic (withCountryCode ds) := by
  by_cases h : IsDomestic ds
  · rw [withCountryCode_of_isDomestic h]
    exact not_isDomestic_countryCode ds.tail
  · rwa [withCountryCode_of_not_isDomestic h]

/-- A property of the country code and of all digits is one of the digits with the country code. -/
theorem forall_mem_withCountryCode {P : Char → Prop} (hcode : P countryCode) (h : ∀ c ∈ ds, P c) :
    ∀ c ∈ withCountryCode ds, P c := by
  intro c hc
  by_cases hdomestic : IsDomestic ds
  · rw [withCountryCode_of_isDomestic hdomestic] at hc
    rcases List.mem_cons.mp hc with rfl | hc
    · exact hcode
    · exact h c (List.mem_of_mem_tail hc)
  · rw [withCountryCode_of_not_isDomestic hdomestic] at hc
    exact h c hc

/-- Every character of a stored form is a decimal digit. -/
theorem isDecimalDigit_of_mem_normalize {cs : List Char} (h : normalize cs = some ds) {c : Char} (hc : c ∈ ds) :
    isDecimalDigit c = true := by
  have hcode : isDecimalDigit countryCode = true := by decide
  have hdigits : ∀ d ∈ digits cs, isDecimalDigit d = true := by
    intro d hd
    exact (List.mem_filter.mp hd).2
  obtain ⟨-, rfl⟩ := normalize_eq_some_iff.mp h
  exact forall_mem_withCountryCode hcode hdigits c hc

/-- Texts are stored alike when their digits are the same with the country code. -/
theorem normalize_eq_iff {v w : List Char} :
    normalize v = normalize w ↔ withCountryCode (digits v) = withCountryCode (digits w) := by
  constructor
  · intro h
    cases hv : normalize v with
    | none =>
      rw [hv] at h
      rw [digits_eq_nil_iff.mpr (normalize_eq_none_iff.mp hv), digits_eq_nil_iff.mpr (normalize_eq_none_iff.mp h.symm)]
    | some ds =>
      rw [hv] at h
      rw [← (normalize_eq_some_iff.mp hv).2, ← (normalize_eq_some_iff.mp h.symm).2]
  · intro h
    by_cases hv : digits v = []
    · have hw : digits w = [] := by rwa [hv, withCountryCode, eq_comm, withCountryCode_eq_nil_iff] at h
      rw [normalize, normalize, hv, hw]
    · have hw : digits w ≠ [] := by rwa [Ne, ← withCountryCode_eq_nil_iff, ← h, withCountryCode_eq_nil_iff]
      rw [normalize_eq_some hv, normalize_eq_some hw, h]

/-- A stored form is stored as it is. -/
theorem normalize_of_normalize {cs : List Char} (h : normalize cs = some ds) : normalize ds = some ds := by
  have hdigits : digits ds = ds := by
    refine List.filter_eq_self.mpr ?_
    intro c hc
    exact isDecimalDigit_of_mem_normalize h hc
  obtain ⟨hne, rfl⟩ := normalize_eq_some_iff.mp h
  rw [normalize_eq_some_iff, hdigits]
  refine ⟨mt withCountryCode_eq_nil_iff.mp hne, ?_⟩
  rw [withCountryCode_of_not_isDomestic (not_isDomestic_withCountryCode _)]

/-- Two forms of a full number differ in its first digit. -/
theorem isDomesticFormOf_iff :
    IsDomesticFormOf ds es ↔ ∃ rest, rest.length = 10 ∧ ds = '8' :: rest ∧ es = '7' :: rest := by
  constructor
  · rintro ⟨⟨hhead, hlength⟩, rfl⟩
    obtain ⟨rest, rfl⟩ := List.head?_eq_some_iff.mp hhead
    exact ⟨rest, Nat.succ.inj hlength, rfl, rfl⟩
  · rintro ⟨rest, hlength, rfl, rfl⟩
    exact ⟨⟨rfl, congrArg Nat.succ hlength⟩, rfl⟩

/-- **The stored form is canonical.** Two texts are stored alike just when they have the same digits, or eleven of which the last
ten agree and the first is 8 in one text and 7 in the other. Nothing is stored of a text just when it has no digit. What is stored
of any other has as many characters as the text has digits, is no eleven of them with an 8 in front, and is stored as it is. -/
theorem stored_form_is_canonical (v w : List Char) :
    (normalize v = normalize w ↔ digits v = digits w ∨ ∃ rest, rest.length = 10 ∧
      ((digits v = '8' :: rest ∧ digits w = '7' :: rest) ∨ (digits v = '7' :: rest ∧ digits w = '8' :: rest))) ∧
      (normalize v = none ↔ ∀ c ∈ v, isDecimalDigit c = false) ∧
      ∀ stored, normalize v = some stored → stored.length = (digits v).length ∧
        ¬(stored.head? = some '8' ∧ stored.length = 11) ∧ normalize stored = some stored := by
  refine ⟨?_, normalize_eq_none_iff, ?_⟩
  · rw [normalize_eq_iff, withCountryCode_eq_iff, isDomesticFormOf_iff, isDomesticFormOf_iff]
    refine or_congr_right ?_
    constructor
    · rintro (⟨rest, hlength, hv, hw⟩ | ⟨rest, hlength, hw, hv⟩)
      · exact ⟨rest, hlength, .inl ⟨hv, hw⟩⟩
      · exact ⟨rest, hlength, .inr ⟨hv, hw⟩⟩
    · rintro ⟨rest, hlength, ⟨hv, hw⟩ | ⟨hv, hw⟩⟩
      · exact .inl ⟨rest, hlength, hv, hw⟩
      · exact .inr ⟨rest, hlength, hw, hv⟩
  · intro stored h
    have hagain := normalize_of_normalize h
    obtain ⟨-, rfl⟩ := normalize_eq_some_iff.mp h
    exact ⟨length_withCountryCode _, not_isDomestic_withCountryCode _, hagain⟩

/-- A number is stored alike with the trunk digit and with the country code, but not the part of it without its last digit. -/
theorem trunk_digit_is_replaced :
    normalize "8 (700) 123-45-67".toList = normalize "+7 700 1234567".toList ∧
      normalize "8 (700) 123-45-6".toList ≠ normalize "+7 700 123456".toList ∧
      normalize "+7 700 1234567".toList = some "77001234567".toList ∧
      normalize "77001234567".toList = some "77001234567".toList := by
  have hstored : normalize "+7 700 1234567".toList = some "77001234567".toList := by decide
  obtain ⟨halike, -, -⟩ := stored_form_is_canonical "8 (700) 123-45-67".toList "+7 700 1234567".toList
  obtain ⟨hpart, -, -⟩ := stored_form_is_canonical "8 (700) 123-45-6".toList "+7 700 123456".toList
  obtain ⟨-, -, hkept⟩ := stored_form_is_canonical "+7 700 1234567".toList []
  refine ⟨halike.mpr (.inr ⟨"7001234567".toList, rfl, .inl ⟨by decide, by decide⟩⟩), ?_, hstored, (hkept _ hstored).2.2⟩
  intro heq
  have hten : (digits "8 (700) 123-45-6".toList).length ≠ 11 := by decide
  rcases hpart.mp heq with hsame | ⟨rest, hlength, hforms⟩
  · exact absurd hsame (by decide)
  · refine hten ?_
    rcases hforms with ⟨hdigits, -⟩ | ⟨hdigits, -⟩ <;> rw [hdigits, List.length_cons, hlength]

/-! ## Numbers in international form -/

/-- Whether a text is phone-shaped and starts, behind blanks, with a plus sign. -/
structure IsInternational (cs : List Char) : Prop where
  shaped : isShaped cs = true
  signed : (cs.dropWhile isBlank).head? = some '+'

/-- **A number in international form is stored by its digits alone.** It has a stored form, which is made of its digits unless
they are a full number that starts with the trunk digit; then the country code stands in the place of that digit. Two such
numbers are stored alike when they have the same digits, or when one of them has lost its first digit in this way and the other
one has the country code there. -/
theorem international_number_is_stored {cs cs' : List Char} (h : IsInternational cs) (h' : IsInternational cs') :
    ∃ stored, normalize cs = some stored ∧
      (stored = digits cs ↔ ¬IsDomestic (digits cs)) ∧
      (IsDomestic (digits cs) → stored = countryCode :: (digits cs).tail) ∧
      (normalize cs' = some stored ↔ digits cs' = digits cs ∨ IsDomesticFormOf (digits cs') (digits cs) ∨
        IsDomesticFormOf (digits cs) (digits cs')) := by
  have hstored : normalize cs = some (withCountryCode (digits cs)) := normalize_eq_some (digits_ne_nil_of_isShaped h.shaped)
  have hstored' : normalize cs' = some (withCountryCode (digits cs')) :=
    normalize_eq_some (digits_ne_nil_of_isShaped h'.shaped)
  refine ⟨withCountryCode (digits cs), hstored, withCountryCode_eq_self_iff, withCountryCode_of_isDomestic, ?_⟩
  rw [hstored', Option.some.injEq]
  exact withCountryCode_eq_iff

/-- A number of another country keeps its digits, and one with the country code is stored in another form. -/
theorem digits_of_44_are_kept :
    IsInternational "+44 20 7946 0958".toList ∧ IsInternational " +7 (700) 123-45-67".toList ∧
      normalize "+44 20 7946 0958".toList = some "442079460958".toList ∧
      normalize " +7 (700) 123-45-67".toList ≠ some "442079460958".toList := by
  have h : IsInternational "+44 20 7946 0958".toList := ⟨by decide, by decide⟩
  have h' : IsInternational " +7 (700) 123-45-67".toList := ⟨by decide, by decide⟩
  have hdigits : digits "+44 20 7946 0958".toList = "442079460958".toList := by decide
  have hforeign : ¬IsDomestic (digits "+44 20 7946 0958".toList) := by
    rw [hdigits]
    rintro ⟨hhead, -⟩
    exact absurd hhead (by decide)
  obtain ⟨stored, hstored, hkept, -, halike⟩ := international_number_is_stored h h'
  rw [← hdigits, ← hkept.mpr hforeign]
  refine ⟨h, h', hstored, fun hsame => ?_⟩
  rcases halike.mp hsame with heq | ⟨⟨hhead, -⟩, -⟩ | ⟨hdomestic, -⟩
  · exact absurd heq (by decide)
  · exact absurd hhead (by decide)
  · exact hforeign hdomestic

/-- A number whose country code is 84 loses it: the number is as long as a full one and starts with the trunk digit, for which
its first digit is taken. It is stored like another number. -/
theorem country_code_84_is_lost :
    IsInternational "+84 912 345 678".toList ∧ digits "+84 912 345 678".toList = "84912345678".toList ∧
      normalize "+84 912 345 678".toList = some "74912345678".toList ∧
      IsInternational "+7 491 234 56 78".toList ∧
      normalize "+7 491 234 56 78".toList = normalize "+84 912 345 678".toList ∧
      digits "+7 491 234 56 78".toList ≠ digits "+84 912 345 678".toList :=
  ⟨⟨by decide, by decide⟩, by decide, by decide, ⟨by decide, by decide⟩, by decide, by decide⟩

end EntitySearch.Phone
