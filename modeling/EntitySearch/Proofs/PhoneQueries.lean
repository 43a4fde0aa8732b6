import EntitySearch.Proofs.Pattern
import EntitySearch.Proofs.PhoneShape
import EntitySearch.Proofs.Rules

/-!
# Queries that are phones

The pattern of phone-shaped texts asks for a digit between two runs of characters that may be digits themselves; whichever digit
it takes, it matches the texts that read as a phone (`Phone.shape_matches_iff`). A query that is phone-shaped has a digit, and so
has a stored form; a rule for phones searches for that form as it is, because no digit has a meaning in a pattern
(`Phone.containing_of_digits`). The rule yields a condition for phone-shaped queries and for no others
(`Phone.phone_rules_need_a_phone`).
-/

namespace EntitySearch

/-- A text without special characters is its own escaped form. -/
theorem LikePattern.escapeText_eq_self {e : Char} (h1 : e ≠ '%') (h2 : e ≠ '_') {cs : List Char}
    (h : ∀ c ∈ cs, c ≠ e ∧ c ≠ '%' ∧ c ≠ '_') : escapeText [e] cs = cs := by
  rw [escapeText_singleton h1 h2]
  induction cs with
  | nil => rfl
  | cons c cs ih =>
    obtain ⟨⟨he, hp, hu⟩, hcs⟩ := List.forall_mem_cons.mp h
    rw [List.flatMap_cons, ih hcs]
    simp [escapeChar, he, hp, hu]

namespace Phone

open Text Query

variable {cs : List Char}

/-! ## The shape of a phone -/

/-- The pattern of phone-shaped texts: a plus sign that may be missing, and a digit between characters of phone numbers. -/
def shape : Pattern :=
  [⟨(· == '+'), 0, some 1⟩, ⟨isPhoneChar, 0, none⟩, ⟨isDecimalDigit, 1, some 1⟩, ⟨isPhoneChar, 0, none⟩]

/-- Whether a text reads as a phone: it is a plus sign, which may be missing, and behind it digits, blanks, hyphens and round
brackets, with a digit among them. -/
def ReadsAsPhone (cs : List Char) : Prop :=
  ∃ sign body, cs = sign ++ body ∧ (sign = [] ∨ sign = ['+']) ∧
    (∀ c ∈ body, isDecimalDigit c = true ∨ isBlank c = true ∨ c ∈ ['-', '(', ')']) ∧ ∃ c ∈ body, isDecimalDigit c = true

theorem isPhoneChar_iff {c : Char} :
    isPhoneChar c = true ↔ isDecimalDigit c = true ∨ isBlank c = true ∨ c ∈ ['-', '(', ')'] := by
  simp [isPhoneChar, or_assoc]

/-- The pattern matches the texts that read as a phone. -/
theorem shape_matches_iff : shape.Matches cs ↔ ReadsAsPhone cs := by
  simp only [shape, Pattern.Matches, Repeat.matches_one, Repeat.matches_optional, Repeat.matches_many, beq_iff_eq, ReadsAsPhone,
    ← isPhoneChar_iff]
  constructor
  · rintro ⟨sign, _, rfl, hsign, front, _, rfl, ⟨hfront, -⟩, _, _, rfl, ⟨d, rfl, hd⟩, back, _, rfl, ⟨hback, -⟩, rfl⟩
    refine ⟨sign, _, rfl, ?_, ?_, d, by simp, hd⟩
    · rcases hsign with rfl | ⟨c, rfl, rfl⟩
      · exact .inl rfl
      · exact .inr rfl
    · intro c hc
      simp only [List.mem_append, List.mem_singleton, List.append_nil] at hc
      rcases hc with hc | rfl | hc
      · exact hfront c hc
      · exact PhoneNumber.isPhoneChar_of_isDecimalDigit hd
      · exact hback c hc
  · -- Any digit of the body will do for the one that the pattern asks for.
    rintro ⟨sign, body, rfl, hsign, hbody, d, hd, hdigit⟩
    obtain ⟨front, back, rfl⟩ := List.append_of_mem hd
    refine ⟨sign, _, rfl, ?_, front, _, rfl, ⟨?_, Nat.zero_le _⟩, [d], back, rfl, ⟨d, rfl, hdigit⟩, back, [], by simp,
      ⟨?_, Nat.zero_le _⟩, rfl⟩
    · rcases hsign with rfl | rfl
      · exact .inl rfl
      · exact .inr ⟨'+', rfl, rfl⟩
    · intro c hc
      exact hbody c (List.mem_append_left _ hc)
    · intro c hc
      exact hbody c (List.mem_append_right _ (List.mem_cons_of_mem d hc))

/-- A text reads as a phone when what follows its plus sign does. -/
theorem readsAsPhone_iff :
    ReadsAsPhone cs ↔ (∀ c ∈ dropSign cs, isPhoneChar c = true) ∧ ∃ c ∈ dropSign cs, isDecimalDigit c = true := by
  simp only [ReadsAsPhone, ← isPhoneChar_iff]
  constructor
  · rintro ⟨sign, body, rfl, hsign, hbody, hdigit⟩
    have hdrop : dropSign (sign ++ body) = body := by
      rcases hsign with rfl | rfl
      · cases body with
        | nil => rfl
        | cons c body =>
          have hc : c ≠ '+' := by
            rintro rfl
            exact absurd (hbody '+' List.mem_cons_self) (by decide)
          rw [List.nil_append, dropSign, if_neg hc]
      · rfl
    rw [hdrop]
    exact ⟨hbody, hdigit⟩
  · rintro ⟨hbody, hdigit⟩
    cases cs with
    | nil => exact ⟨[], [], rfl, .inl rfl, hbody, hdigit⟩
    | cons c cs =>
      by_cases hc : c = '+'
      · subst hc
        exact ⟨['+'], cs, rfl, .inr rfl, hbody, hdigit⟩
      · rw [dropSign, if_neg hc] at hbody hdigit
        exact ⟨[], c :: cs, rfl, .inl rfl, hbody, hdigit⟩

/-- A text is phone-shaped when it reads as a phone between blanks. -/
theorem isShaped_iff : isShaped cs = true ↔ ReadsAsPhone (trim cs) := by
  rw [readsAsPhone_iff, isShaped, Bool.and_eq_true, List.all_eq_true, List.any_eq_true]

/-! ## What rules for phones search for -/

theorem digits_solid (cs : List Char) : digits (solid cs) = digits cs := by
  rw [digits, solid, List.filter_filter]
  refine List.filter_congr ?_
  intro c _
  by_cases hc : isDecimalDigit c = true
  · simp [hc, isBlank_of_isDecimalDigit hc]
  · simp [hc]

/-- Normalizing a query keeps its digits. -/
theorem digits_normalize (cs : List Char) : digits (Query.normalize cs) = digits cs := by
  rw [← digits_solid, solid_normalize, digits_solid]

/-- Digits are searched for as they are. -/
theorem containing_of_digits {ds : List Char} (h : ∀ c ∈ ds, isDecimalDigit c = true) (e : Expr) :
    e.containing (String.ofList ds) = .matching e (String.ofList ('%' :: (ds ++ ['%']))) (some "\\") := by
  have hplain : ∀ c ∈ ds, c ≠ '\\' ∧ c ≠ '%' ∧ c ≠ '_' := by
    intro c hc
    have hd := h c hc
    refine ⟨?_, ?_, ?_⟩ <;> rintro rfl <;> exact absurd hd (by decide)
  have hescape : LikePattern.defaultEscape.toList = ['\\'] := by decide
  rw [Expr.containing, LikePattern.containing, String.toList_ofList, hescape,
    LikePattern.escapeText_eq_self (by decide) (by decide) hplain]
  rfl

/-- A phone-shaped query is searched for by its stored form, which is not empty. -/
theorem exists_condition?_phone {query : String} (hs : isShaped query.toList = true) (e : Expr) :
    ∃ ds, ds ≠ [] ∧ (∀ c ∈ ds, isDecimalDigit c = true) ∧ normalize query.toList = some ds ∧
      (Criterion.phone e).condition? query = some (.matching e (String.ofList ('%' :: (ds ++ ['%']))) (some "\\")) := by
  have hne := digits_ne_nil_of_isShaped hs
  have hstored := normalize_eq_some hne
  have hdigit : ∀ c ∈ withCountryCode (digits query.toList), isDecimalDigit c = true := by
    intro c hc
    exact isDecimalDigit_of_mem_normalize hstored hc
  refine ⟨_, mt withCountryCode_eq_nil_iff.mp hne, hdigit, hstored, ?_⟩
  rw [Criterion.condition?_phone_of_isShaped hs, containing_of_digits hdigit]

/-- **A rule for phones needs a phone.** A raw query is phone-shaped just when its normal form is, just when the pattern matches
it between its blanks, and just when it reads as a phone there. A rule for phones yields no condition for the normal form of any
other query. For the normal form of such a query, it asks whether an expression has the stored form of the raw query in it: that
form is there and has a digit, and none of its characters is escaped. -/
theorem phone_rules_need_a_phone (raw : List Char) (e : Expr) :
    isShaped (Query.normalize raw) = isShaped raw ∧
      (isShaped raw = true ↔ shape.Matches (trim raw)) ∧
      (isShaped raw = true ↔ ReadsAsPhone (trim raw)) ∧
      ((Criterion.phone e).condition? (String.ofList (Query.normalize raw)) = none ↔ ¬ReadsAsPhone (trim raw)) ∧
      (ReadsAsPhone (trim raw) → ∃ ds, ds ≠ [] ∧ (∀ c ∈ ds, isDecimalDigit c = true) ∧
        normalize raw = some ds ∧ normalize (Query.normalize raw) = some ds ∧
        (Criterion.phone e).condition? (String.ofList (Query.normalize raw)) =
          some (.matching e (String.ofList ('%' :: (ds ++ ['%']))) (some "\\"))) := by
  have hshape : isShaped (String.ofList (Query.normalize raw)).toList = isShaped raw := by
    rw [String.toList_ofList, isShaped_normalize]
  refine ⟨isShaped_normalize raw, isShaped_iff.trans shape_matches_iff.symm, isShaped_iff, ?_, ?_⟩
  · rw [Criterion.condition?_phone_eq_none_iff, hshape, ← isShaped_iff, Bool.not_eq_true]
  · intro hphone
    obtain ⟨ds, hne, hdigit, hds, hcondition⟩ := exists_condition?_phone (hshape.trans (isShaped_iff.mpr hphone)) e
    rw [String.toList_ofList] at hds
    have hraw : normalize raw = some ds := by
      rw [← hds, normalize_eq_iff, digits_normalize]
    exact ⟨ds, hne, hdigit, hraw, hds, hcondition⟩

/-- A number on two lines is searched for by its digits behind the country code; a house number is no phone. -/
theorem phone_on_two_lines_is_searched_for :
    ReadsAsPhone (trim "\t+8 (700)\n 123-45-67 ".toList) ∧
      (Criterion.phone (.column "person" "normalized_phone")).condition? "+8 (700) 123-45-67" =
        some (.matching (.column "person" "normalized_phone") "%77001234567%" (some "\\")) ∧
      (Criterion.phone (.column "person" "normalized_phone")).condition? "Lenina 7" = none := by
  have hphone : ReadsAsPhone (trim "\t+8 (700)\n 123-45-67 ".toList) := isShaped_iff.mp (by decide)
  obtain ⟨-, -, -, -, hfound⟩ :=
    phone_rules_need_a_phone "\t+8 (700)\n 123-45-67 ".toList (.column "person" "normalized_phone")
  obtain ⟨-, -, hhouse, hnone, -⟩ := phone_rules_need_a_phone "Lenina  7".toList (.column "person" "normalized_phone")
  obtain ⟨ds, -, -, hds, -, hcondition⟩ := hfound hphone
  have hdigits : ds = "77001234567".toList := Option.some.inj (hds.symm.trans (by decide))
  subst hdigits
  exact ⟨hphone, hcondition, hnone.mpr fun h => absurd (hhouse.mpr h) (by decide)⟩

end Phone

end EntitySearch
