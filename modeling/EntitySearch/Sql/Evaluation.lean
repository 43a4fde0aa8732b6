import EntitySearch.Sql.Clause
import EntitySearch.Sql.Coercion

/-!
# The value of a condition on a row

What a clause is worth where the contents of the columns are known, in a backend that stores text. A null part makes a chain
of texts null, a null side makes a comparison unknown. Pattern matching folds the case of the text and of the pattern
before it compares them character by character; the folding is the backend's. Clauses that hold nothing do not count, and a
chain in which one clause is left is worth what that clause is worth.
-/

namespace EntitySearch

/-- A backend, as far as the value of a condition depends on it. -/
structure Backend where
  /-- The folding of case, character by character. -/
  fold : Char → Char
  /-- Whether a null character ends a text in the eyes of patterns; it is an ordinary character otherwise. -/
  endsAtNull : Bool

namespace Backend

/-- The lower-case form of a capital letter of ASCII; every other character is its own. -/
def lowerAscii (c : Char) : Char := c.toLower

/-- A backend that takes the letters of ASCII for equal in either case, and only them, and ends texts at a null character. -/
def ascii : Backend := ⟨lowerAscii, true⟩

/-- The part of a text that patterns see. -/
def visible (b : Backend) (cs : List Char) : List Char :=
  if b.endsAtNull then cs.takeWhile fun c => c != '\x00' else cs

/-- A text as patterns compare it: the part of it that they see, with the case of its letters folded. -/
def seen (b : Backend) (cs : List Char) : List Char := (b.visible cs).map b.fold

end Backend

/-- The contents of columns, by table and column. -/
abbrev Contents := String → String → Option String

namespace Sql

/-- The escape character of a pattern: the only character of the escape text. -/
def escapeChar (escape : Option String) : Option Char :=
  match escape.map String.toList with
  | some [c] => some c
  | _ => none

/-- Whether a value matches a pattern up to the folding of case. -/
def likeTruth (b : Backend) (v : Value) (pattern : String) (escape : Option String) : Truth :=
  (asText? v).map fun s => LikePattern.isMatch (escapeChar escape) (b.seen pattern.toList) (b.seen s.toList)

end Sql

namespace Clause

mutual

/-- Whether the value of a clause comes from where texts are kept: from a column of texts, or from a conversion to text. -/
def isKeptText : Clause → Bool
  | .column table name => ClauseType.ofColumn table name == .text
  | .cast _ => true
  | .chain _ cs => areKeptTexts cs == [true]
  | .concat cs => areKeptTexts cs == [true]
  | .group c => c.isKeptText
  | _ => false

/-- Whether the values come from where texts are kept, for each clause that holds anything. -/
def areKeptTexts : List Clause → List Bool
  | [] => []
  | c :: cs => if c.isVoid then areKeptTexts cs else c.isKeptText :: areKeptTexts cs

end

mutual

/-- The value of a clause. -/
def value (b : Backend) (cells : Contents) : Clause → Value
  | .column table name => .ofText? (cells table name)
  | .constant v => v
  | .coalesce c fallback =>
    match c.value b cells with
    | .null => .text fallback
    | v => v
  | .concat cs => Sql.concatValues (values b cells cs)
  | .cast c => .ofText? (Sql.asText? (c.value b cells))
  | .like c pattern escape => Sql.ofTruth (Sql.likeTruth b (c.value b cells) pattern escape)
  | .equals c .null =>
    match c.value b cells with
    | .null => .bool true
    | _ => .bool false
  | .equals c v => Sql.ofTruth (Sql.equalTo c.isKeptText (c.value b cells) v)
  | .chain .conjunction cs => Sql.chainValues Truth.all (values b cells cs)
  | .chain .disjunction cs =>
    if areVoid cs then .bool true else Sql.chainValues Truth.any (values b cells cs)
  | .flag c => Sql.ofTruth (Sql.equalTo c.isKeptText (c.value b cells) (.bool true))
  | .group c => c.value b cells

/-- The values of the clauses that hold anything. -/
def values (b : Backend) (cells : Contents) : List Clause → List Value
  | [] => []
  | c :: cs => if c.isVoid then values b cells cs else c.value b cells :: values b cells cs

end

/-- Whether a clause holds where the contents of the columns are known. -/
def holds (b : Backend) (cells : Contents) (c : Clause) : Bool := Sql.truth (c.value b cells) == some true

end Clause

end EntitySearch
