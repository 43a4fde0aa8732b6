import EntitySearch.Text.LowerCase.Table

/-!
# Lower case

Full lower-casing of a text. Three rules go beyond mapping one character to one: capital I with a dot above becomes a small
i and a combining dot, and a capital sigma becomes the final form at the end of a word (a cased character stands before it
and none after it, passing over the characters that do not count).
-/

namespace EntitySearch.Text

namespace LowerCase

/-- Whether a character is passed over when looking for a cased neighbour. -/
def isIgnorable (c : Char) : Bool := CodeRange.covers ignorableRanges c

/-- Whether a character is cased and counts as a neighbour. -/
def isCased (c : Char) : Bool := CodeRange.covers casedRanges c

/-- Whether a run applies to a code point. -/
def Shift.applies (s : Shift) (n : Nat) : Bool := s.first ≤ n && n ≤ s.last && (n - s.first) % s.stride == 0

/-- The lower-case form of a character, taken by itself. -/
def ofChar (c : Char) : Char :=
  match shifts.find? (·.applies c.toNat) with
  | some s => Char.ofNat (c.toNat + s.shift).toNat
  | none => c

/-- Whether the nearest character that counts is cased, in a list that starts next to the place looked from. -/
def nextIsCased (neighbours : List Char) : Bool :=
  match neighbours.dropWhile isIgnorable with
  | c :: _ => isCased c
  | [] => false

/-- The lower-case form of a capital sigma between two contexts, the one before it reversed. -/
def sigma (before after : List Char) : Char := if nextIsCased before && !nextIsCased after then 'ς' else 'σ'

/-- Lower-casing of a text whose earlier part, reversed, is at hand. -/
def chars (before : List Char) : List Char → List Char
  | [] => []
  | c :: rest =>
    (if c = 'İ' then ['i', '\u0307'] else if c = 'Σ' then [sigma before rest] else [ofChar c]) ++ chars (c :: before) rest

end LowerCase

/-- The lower-case form of a text. -/
def lowerCase (cs : List Char) : List Char := LowerCase.chars [] cs

end EntitySearch.Text
