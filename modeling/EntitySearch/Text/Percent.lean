import EntitySearch.Text.Utf8

/-!
# Percent encoding

In a URL a byte may be written as a percent sign and two hexadecimal digits. Letters, digits and four signs always stand for
themselves, and each part of a URL names a few more that do.
-/

namespace EntitySearch.Text.Percent

/-- The value of a hexadecimal digit. -/
def hexValue? (c : Char) : Option Nat :=
  if c.isDigit then some (c.toNat - 48)
  else if 'a' ≤ c ∧ c ≤ 'f' then some (c.toNat - 87)
  else if 'A' ≤ c ∧ c ≤ 'F' then some (c.toNat - 55)
  else none

/-- The upper-case hexadecimal digit of a value below sixteen. -/
def hexDigit (n : Nat) : Char := if n < 10 then Char.ofNat (48 + n) else Char.ofNat (55 + n)

/-- The byte that two hexadecimal digits write. -/
def byte? (high low : Char) : Option Nat :=
  match hexValue? high, hexValue? low with
  | some h, some l => some (16 * h + l)
  | _, _ => none

/-- The bytes of an encoded text; a percent sign without two digits behind it stands for itself. -/
def bytes : List Char → List Nat
  | '%' :: high :: low :: rest =>
    match byte? high low with
    | some b => b :: bytes rest
    | none => 0x25 :: bytes (high :: low :: rest)
  | c :: rest => Utf8.ofChar c ++ bytes rest
  | [] => []

/-- The text that an encoded text stands for. -/
def decode (cs : List Char) : List Char := Utf8.toChars (bytes cs)

/-- Whether a character always stands for itself. -/
def isUnreserved (c : Char) : Bool := c.isAlphanum || c == '_' || c == '.' || c == '-' || c == '~'

/-- A byte in its encoded form. -/
def encodeByte (b : Nat) : List Char := ['%', hexDigit (b / 16), hexDigit (b % 16)]

/-- The encoded form of a text in which some more characters stand for themselves. -/
def encode (safe : List Char) (cs : List Char) : List Char :=
  cs.flatMap fun c => if isUnreserved c || safe.contains c then [c] else (Utf8.ofChar c).flatMap encodeByte

end EntitySearch.Text.Percent
