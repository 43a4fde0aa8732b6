import EntitySearch.Failure

/-!
# Reading fields of the settings

A field is read leniently from a value: truth values and numbers without fraction pass for whole numbers, and texts are read
as the numbers or truth values they spell. Each reader says why it refuses a value.
-/

namespace EntitySearch.Settings

/-- Whether a number starts here: a minus sign or a digit that is not zero. -/
def startsNumber (c : Char) : Bool := c == '-' || (c.isDigit && c != '0')

/-- What is left of a number behind its leading zeros and the underscores among them, the last of which is given. When
nothing but these is there, the last one is left; a point keeps the one before it. -/
def behindZeros (last : Char) : List Char → Option (List Char)
  | [] => some [last]
  | c :: rest =>
    if startsNumber c then some (c :: rest)
    else if c = '.' then some (last :: c :: rest)
    else if c = '0' ∨ c = '_' then behindZeros c rest
    else none

/-- A number without its leading zeros; nothing when it starts with anything but a minus sign or a digit. -/
def dropLeadingZeros : List Char → Option (List Char)
  | [] => none
  | c :: rest => if startsNumber c then some (c :: rest) else if c = '0' then behindZeros c rest else none

/-- A number without a fraction of zeros; a point without digits behind it stays. -/
def dropZeroFraction (cs : List Char) : List Char :=
  match cs.dropWhile (· != '.') with
  | _ :: c :: fraction => if (c :: fraction).all (· == '0') then cs.takeWhile (· != '.') else cs
  | _ => cs

/-- Whether underscores stand only between other characters, one at a time. -/
def singleUnderscores : List Char → Bool
  | [] => true
  | ['_'] => false
  | '_' :: '_' :: _ => false
  | _ :: rest => singleUnderscores rest

/-- A number without underscores, if these stand only between other characters. -/
def dropUnderscores (cs : List Char) : Option (List Char) :=
  if cs.head? != some '_' && singleUnderscores cs then some (cs.filter (· != '_')) else none

/-- A number without a plus sign, which no minus sign may follow. -/
def dropPlus : List Char → Option (List Char)
  | '+' :: '-' :: _ => none
  | '+' :: rest => some rest
  | cs => some cs

/-- The sign and the digits of a number as they remain without the decorations it may have. -/
def plainNumber? (cs : List Char) : Option (List Char) := do
  dropUnderscores (dropZeroFraction (← dropLeadingZeros (← dropPlus cs)))

/-- The most characters, a minus sign among them, that a plain number may have. -/
def mostCharacters : Nat := 4300

/-- Reads a plain number: no zero stands before another digit. -/
def plainInteger (cs : List Char) : Except SettingsFault Int :=
  let (negative, unsigned) := match cs with
    | '-' :: rest => (true, rest)
    | rest => (false, rest)
  let digits := unsigned.takeWhile Char.isDigit
  match digits with
  | [] => .error .unreadableInteger
  | '0' :: _ :: _ => .error .unreadableInteger
  | _ =>
    if mostCharacters < digits.length + (if negative then 1 else 0) then .error .oversizedInteger
    else if digits.length ≠ unsigned.length then .error .unreadableInteger
    else .ok (if negative then -(Numeral.ofDigits digits : Int) else Numeral.ofDigits digits)

/-- The number a text spells: blanks around it, a sign, leading zeros, single underscores and a fraction of zeros are
allowed. The zeros stand in front of a minus sign, if there is one. -/
def integerOfText (cs : List Char) : Except SettingsFault Int :=
  match plainNumber? (Numeral.trim cs) with
  | none => .error .unreadableInteger
  | some plain => plainInteger plain

/-- The greatest magnitude of a fraction read as a whole number, which it must stay below. -/
def fractionBound : Int := 9223372036854775808

/-- Reads a whole number. -/
def integer : Value → Except SettingsFault Int
  | .bool b => .ok (if b then 1 else 0)
  | .int i => .ok i
  | .real x =>
    match x.toInt? with
    | none => .error .fractional
    | some i => if -fractionBound < i ∧ i < fractionBound then .ok i else .error .oversizedInteger
  | .text s => integerOfText s.toList
  | _ => .error .notInteger

/-- The texts that are read as true, in lower case. -/
def trueWords : List String := ["1", "on", "t", "true", "y", "yes"]

/-- The texts that are read as false, in lower case. -/
def falseWords : List String := ["0", "off", "f", "false", "n", "no"]

/-- The truth value a text spells, whatever the case of its ASCII letters. -/
def booleanOfText (s : String) : Except SettingsFault Bool :=
  let word := String.ofList (s.toList.map Char.toLower)
  if trueWords.contains word then .ok true
  else if falseWords.contains word then .ok false
  else .error .unreadableBoolean

/-- The truth value a whole number stands for. -/
def booleanOfInt (i : Int) : Except SettingsFault Bool :=
  if i = 0 then .ok false else if i = 1 then .ok true else .error .unreadableBoolean

/-- Reads a truth value; whole numbers beyond 64 bits and fractions are none. -/
def boolean : Value → Except SettingsFault Bool
  | .bool b => .ok b
  | .int i => if -fractionBound ≤ i ∧ i < fractionBound then booleanOfInt i else .error .notBoolean
  | .real x =>
    match x.toInt? with
    | none => .error .notBoolean
    | some i => if -fractionBound < i ∧ i < fractionBound then booleanOfInt i else .error .notBoolean
  | .text s => booleanOfText s
  | _ => .error .notBoolean

/-- Reads a text. -/
def text : Value → Except SettingsFault String
  | .text s => .ok s
  | _ => .error .notText

end EntitySearch.Settings
