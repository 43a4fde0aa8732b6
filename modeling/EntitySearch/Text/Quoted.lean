import EntitySearch.Text.Printable

/-!
# Quoted text

A text in quotes, as messages show it: between apostrophes, or between quotation marks when it holds an apostrophe and no
quotation mark. The backslash and the mark in use are escaped by a backslash, line feed, carriage return and tab by a
letter, other characters that are not printable by their code point in hexadecimal.
-/

namespace EntitySearch.Text

namespace Quoted

/-- The lower-case hexadecimal digit of a value below sixteen. -/
def hexDigit (n : Nat) : Char := if n < 10 then Char.ofNat (48 + n) else Char.ofNat (87 + n)

/-- A code point in hexadecimal, with at least the given number of digits. -/
def hex : Nat → Nat → List Char
  | 0, _ => []
  | width + 1, n => hex width (n / 16) ++ [hexDigit (n % 16)]

/-- The escape of a character that is not printable: as short as its code point allows. -/
def codePointEscape (c : Char) : List Char :=
  let n := c.toNat
  if n < 0x100 then '\\' :: 'x' :: hex 2 n
  else if n < 0x10000 then '\\' :: 'u' :: hex 4 n
  else '\\' :: 'U' :: hex 8 n

/-- One character between quotes. -/
def encodeChar (mark c : Char) : List Char :=
  if c = mark || c = '\\' then ['\\', c]
  else if c = '\n' then ['\\', 'n']
  else if c = '\r' then ['\\', 'r']
  else if c = '\t' then ['\\', 't']
  else if isPrintable c then [c]
  else codePointEscape c

/-- The mark a text is put between. -/
def markFor (cs : List Char) : Char := if cs.contains '\'' && !cs.contains '"' then '"' else '\''

end Quoted

/-- A text in quotes. -/
def quoted (s : String) : String :=
  let cs := s.toList
  let mark := Quoted.markFor cs
  String.ofList (mark :: cs.flatMap (Quoted.encodeChar mark) ++ [mark])

end EntitySearch.Text
