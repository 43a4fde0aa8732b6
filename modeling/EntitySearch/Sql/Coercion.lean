import EntitySearch.Number.Numeral
import EntitySearch.Number.Significant
import EntitySearch.Sql.Truth
import EntitySearch.Value

/-!
# Values in each other's place

A backend that stores text takes a number for a text where a text is asked for, and a text for a number where a condition is.
Comparison is stricter: a text and a number are equal only if the text comes from where texts are kept, so that the number is
compared as a text. A truth value is the number zero or one.
-/

namespace EntitySearch.Sql

/-- The whole numbers that a backend can hold are less than this, and not less than its negation. -/
def integerBound : Int := 9223372036854775808

/-- Whether a backend can hold a value. -/
def isStorable : Value → Bool
  | .int i => -integerBound ≤ i && i < integerBound
  | _ => true

/-- A truth value as a number; every other value is itself. -/
def asNumber : Value → Value
  | .bool b => .int (if b then 1 else 0)
  | v => v

/-- The text of a value; null has none. -/
def asText? (v : Value) : Option String :=
  match asNumber v with
  | .null => none
  | .real x => some x.toSignificantText
  | w => some w.display

/-- A truth value as a value. -/
def ofTruth : Truth → Value
  | some b => .bool b
  | none => .null

/-- The blanks that may stand before a number. -/
def isNumberBlank (c : Char) : Bool := c == ' ' || (0x09 ≤ c.toNat && c.toNat ≤ 0x0D)

/-- The power of ten that a text starts with: a letter, a sign and digits; zero if anything of it but the sign is missing. -/
def leadingPower : List Char → Int
  | c :: rest =>
    if c = 'e' ∨ c = 'E' then
      match rest with
      | '-' :: digits => -(Numeral.ofDigits (digits.takeWhile Char.isDigit) : Int)
      | '+' :: digits => Numeral.ofDigits (digits.takeWhile Char.isDigit)
      | digits => Numeral.ofDigits (digits.takeWhile Char.isDigit)
    else 0
  | [] => 0

/-- The number that a text starts with, its sign left out; zero if it starts with none. -/
def leadingNumber (cs : List Char) : Binary64 :=
  let unsigned := match cs.dropWhile isNumberBlank with
    | '-' :: rest => rest
    | '+' :: rest => rest
    | rest => rest
  let whole := unsigned.takeWhile Char.isDigit
  let behind := unsigned.drop whole.length
  let fraction := match behind with
    | '.' :: rest => rest.takeWhile Char.isDigit
    | _ => []
  let rest := match behind with
    | '.' :: rest => rest.drop fraction.length
    | rest => rest
  if whole.isEmpty && fraction.isEmpty then .zero false
  else .ofDecimal false (Numeral.ofDigits (whole ++ fraction)) (leadingPower rest - fraction.length)

/-- Whether a value in the place of a condition holds: a number unless it is zero, a text as the number it starts with. -/
def truth : Value → Truth
  | .null => none
  | .bool b => some b
  | .text s => some !(leadingNumber s.toList).isZero
  | v => some !v.isBlank

/-- Whether two values are equal; unknown when one of them is null. A number is compared with a kept text as a text. -/
def equalTo (kept : Bool) (v w : Value) : Truth :=
  match v, w with
  | .null, _ => none
  | _, .null => none
  | .text s, .text t => some (s == t)
  | .text s, w => some (kept && asText? w == some s)
  | v, w => some ((asNumber v).equal (asNumber w))

/-- The texts of several values one after the other; none if one of the values is null. -/
def concatTexts : List Value → Option String
  | [] => some ""
  | v :: vs => do return (← asText? v) ++ (← concatTexts vs)

/-- What a chain of texts is worth: a single value is itself. -/
def concatValues : List Value → Value
  | [v] => v
  | vs => .ofText? (concatTexts vs)

/-- What a chain of conditions is worth whose truth values are combined in some way: a single value is itself. -/
def chainValues (combine : List Truth → Truth) : List Value → Value
  | [v] => v
  | vs => ofTruth (combine (vs.map truth))

/-- A single value holds, or else the combination of the truth values does. -/
theorem truth_chainValues {combine : List Truth → Truth} (h : ∀ t, combine [t] = t) (vs : List Value) :
    truth (chainValues combine vs) = combine (vs.map truth) := by
  match vs with
  | [] => simp only [chainValues]; cases combine ([].map truth) <;> rfl
  | [v] => simp [chainValues, h]
  | v :: w :: vs => simp only [chainValues]; cases combine ((v :: w :: vs).map truth) <;> rfl

end EntitySearch.Sql
