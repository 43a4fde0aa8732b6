import EntitySearch.Phone
import EntitySearch.Query.Pieces

/-!
# Phone numbers in a text

A number starts with a digit, which a bracket and before it a plus sign may precede, goes on with digits, blanks, hyphens
and brackets, and ends in a digit. It is replaced when it has at least eight digits; a shorter one is left as it stands, and
the search goes on behind it.
-/

namespace EntitySearch.Query.PhoneNumber

open Text Phone

/-- The text put in place of a number. -/
def placeholder : List Char := ['[', 'p', 'h', 'o', 'n', 'e', ']']

/-- The number of digits from which a number is replaced. -/
def leastDigits : Nat := 8

/-- A text up to its last digit. -/
def upToLastDigit (cs : List Char) : List Char := (cs.reverse.dropWhile fun c => !isDecimalDigit c).reverse

/-- The length of a number that starts with a digit, at the start of a text; zero unless it has a second digit. -/
def bodyLength : List Char → Nat
  | [] => 0
  | c :: rest =>
    if isDecimalDigit c then
      match upToLastDigit (rest.takeWhile isPhoneChar) with
      | [] => 0
      | tail => 1 + tail.length
    else 0

/-- The length of the plus sign and the bracket at the start of a text. -/
def leadLength : List Char → Nat
  | '+' :: '(' :: _ => 2
  | '+' :: _ => 1
  | '(' :: _ => 1
  | _ => 0

/-- The length of the number at the start of a text, or zero. -/
def matchLength (cs : List Char) : Nat :=
  match bodyLength (cs.drop (leadLength cs)) with
  | 0 => 0
  | n + 1 => leadLength cs + (n + 1)

/-- What a number is replaced by: itself when it is short. -/
def replacement (m : List Char) : List Char := if (digits m).length < leastDigits then m else placeholder

/-- A text with every long enough number replaced. -/
def mask (cs : List Char) : List Char := replaceMatches matchLength replacement cs

end EntitySearch.Query.PhoneNumber
