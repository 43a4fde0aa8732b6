import EntitySearch.Text.Digit

/-!
# Numerals

Numbers as people type them into an address: blanks around, a sign, digits of any script, and single underscores between
digits. A whole number of too many digits is refused; a number with a point or a power of ten is only recognized.
-/

namespace EntitySearch.Numeral

/-- Why a text is no whole number. -/
inductive Fault where
  | unreadable (text : String)
  /-- There are more digits than are read. -/
  | oversized (digits : Nat)
  deriving Repr, DecidableEq

/-- The blanks that may surround a number. -/
def isBlank (c : Char) : Bool :=
  Text.CodeRange.covers
    [(0x0009, 0x000D), (0x0020, 0x0020), (0x0085, 0x0085), (0x00A0, 0x00A0), (0x1680, 0x1680), (0x2000, 0x200A),
     (0x2028, 0x2029), (0x202F, 0x202F), (0x205F, 0x205F), (0x3000, 0x3000)] c

/-- A text without surrounding number blanks. -/
def trim (cs : List Char) : List Char := ((cs.dropWhile isBlank).reverse.dropWhile isBlank).reverse

/-- The most digits a whole number may have. -/
def mostDigits : Nat := 4300

/-- A sign, true for minus, and what is behind it. -/
def splitSign : List Char → Bool × List Char
  | '-' :: rest => (true, rest)
  | '+' :: rest => (false, rest)
  | cs => (false, cs)

/-- Whether underscores stand only between digits, one at a time. -/
def isGrouped : List Char → Bool
  | [] => true
  | [c] => c != '_'
  | '_' :: _ => false
  | _ :: '_' :: d :: rest => d != '_' && isGrouped (d :: rest)
  | _ :: rest => isGrouped rest

/-- The number that digits spell in base ten. -/
def ofDigits (cs : List Char) : Nat := cs.foldl (fun n c => 10 * n + (Text.digitValue? c).getD 0) 0

/-- The whole number that a text spells. The digits are counted before what is behind them is looked at. -/
def integer (cs : List Char) : Except Fault Int :=
  let (negative, unsigned) := splitSign (trim cs)
  let run := unsigned.takeWhile fun c => Text.isDecimalDigit c || c == '_'
  let digits := run.filter (· != '_')
  if !isGrouped run then .error (.unreadable (String.ofList cs))
  else if mostDigits < digits.length then .error (.oversized digits.length)
  else if digits.isEmpty || run.length != unsigned.length then .error (.unreadable (String.ofList cs))
  else .ok (if negative then -(ofDigits digits : Int) else ofDigits digits)

/-- Whether a text is made of digits, with single underscores between them or without; it may be empty. -/
def isDigits (cs : List Char) : Bool := cs.all (fun c => Text.isDecimalDigit c || c == '_') && isGrouped cs

/-- Whether a text is a power of ten: a sign and at least one digit. -/
def isExponent (cs : List Char) : Bool :=
  let (_, digits) := splitSign cs
  !digits.isEmpty && isDigits digits

/-- Whether a text is digits with at most one point among them and at least one digit. -/
def isDecimal (cs : List Char) : Bool :=
  let whole := cs.takeWhile (· != '.')
  let fraction := (cs.drop whole.length).drop 1
  isDigits whole && isDigits fraction && !(whole.isEmpty && fraction.isEmpty)

/-- Whether a text spells a number, which may be infinite or not a number at all. -/
def isReal (cs : List Char) : Bool :=
  let (_, unsigned) := splitSign (trim cs)
  let lower := unsigned.map Char.toLower
  let mantissa := lower.takeWhile (· != 'e')
  let behind := lower.drop mantissa.length
  ["inf", "infinity", "nan"].contains (String.ofList lower) ||
    (isDecimal mantissa && (behind.isEmpty || isExponent (behind.drop 1)))

end EntitySearch.Numeral
