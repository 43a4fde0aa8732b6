import EntitySearch.Text.Blank
import EntitySearch.Text.Digit

/-!
# Phone numbers

Stored phones are decimal digits with the country code. A query is phone-shaped when it is made of digits, blanks, hyphens
and round brackets behind an optional plus sign, with at least one digit; its stored form keeps the digits and replaces the
domestic trunk digit of a full-length number by the country code.
-/

namespace EntitySearch.Phone

open Text

/-- The digit dialled before a domestic number. -/
def trunkDigit : Char := '8'

/-- The country code that stands in its place in stored phones. -/
def countryCode : Char := '7'

/-- The number of digits of a full number. -/
def fullLength : Nat := 11

/-- Whether a character may stand inside a phone number behind its sign. -/
def isPhoneChar (c : Char) : Bool := isDecimalDigit c || isBlank c || c == '-' || c == '(' || c == ')'

/-- The decimal digits of a text, in order. -/
def digits (cs : List Char) : List Char := cs.filter isDecimalDigit

/-- Digits with the trunk digit of a full number replaced by the country code. -/
def withCountryCode : List Char → List Char
  | d :: ds => if d = trunkDigit ∧ (d :: ds).length = fullLength then countryCode :: ds else d :: ds
  | [] => []

/-- The stored form of a phone, if the text holds a digit. -/
def normalize (cs : List Char) : Option (List Char) :=
  match digits cs with
  | [] => none
  | ds => some (withCountryCode ds)

/-- A text without a plus sign at its start. -/
def dropSign : List Char → List Char
  | [] => []
  | c :: cs => if c = '+' then cs else c :: cs

/-- Whether a text reads as a phone number, or part of one, and nothing else. -/
def isShaped (cs : List Char) : Bool :=
  let body := dropSign (trim cs)
  body.all isPhoneChar && body.any isDecimalDigit

theorem digits_append (cs cs' : List Char) : digits (cs ++ cs') = digits cs ++ digits cs' := List.filter_append ..

theorem digits_eq_nil_iff {cs : List Char} : digits cs = [] ↔ ∀ c ∈ cs, isDecimalDigit c = false := by
  simp [digits, List.filter_eq_nil_iff]

/-- A text with a digit has a stored form. -/
theorem normalize_eq_some {cs : List Char} (h : digits cs ≠ []) : normalize cs = some (withCountryCode (digits cs)) := by
  unfold normalize
  split
  · contradiction
  · rfl

theorem exists_dropSign (cs : List Char) : ∃ sign, cs = sign ++ dropSign cs ∧ ∀ c ∈ sign, c = '+' := by
  cases cs with
  | nil => exact ⟨[], rfl, fun c hc => absurd hc List.not_mem_nil⟩
  | cons c cs =>
    rw [dropSign]
    split
    · exact ⟨[c], rfl, by simpa⟩
    · exact ⟨[], rfl, fun c hc => absurd hc List.not_mem_nil⟩

end EntitySearch.Phone
