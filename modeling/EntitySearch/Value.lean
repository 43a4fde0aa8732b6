import EntitySearch.Number.Decimal
import EntitySearch.Text.Quoted

/-!
# Dynamic values

Search keys, constants of predicates, constructor arguments of the settings and attributes of spans are values of no fixed
kind. A value has two texts: the one it has when it stands alone, where a text is itself, and the one it has inside a
message or another value, where a text is quoted. Truth values count as the numbers zero and one in comparisons.

A real is finite: an infinity, or what is not a number, is no value here (`Binary64`), neither as a constant nor inside a list.
-/

namespace EntitySearch

/-- A value of no fixed kind. The entries of a dictionary keep their order. -/
inductive Value where
  | null
  | bool (b : Bool)
  | int (i : Int)
  | real (x : Binary64)
  | text (s : String)
  | list (items : List Value)
  | dict (entries : List (String × Value))
  deriving Repr, Inhabited

namespace Value

mutual

/-- The text of a value inside a message. -/
def quoted : Value → String
  | .null => "None"
  | .bool true => "True"
  | .bool false => "False"
  | .int i => toString i
  | .real x => x.toText
  | .text s => Text.quoted s
  | .list items => "[" ++ ", ".intercalate (quotedItems items) ++ "]"
  | .dict entries => "\x7b" ++ ", ".intercalate (quotedEntries entries) ++ "\x7d"

/-- The texts of the items of a list. -/
def quotedItems : List Value → List String
  | [] => []
  | v :: vs => v.quoted :: quotedItems vs

/-- The texts of the entries of a dictionary. -/
def quotedEntries : List (String × Value) → List String
  | [] => []
  | (k, v) :: es => (Text.quoted k ++ ": " ++ v.quoted) :: quotedEntries es

end

/-- The text of a value that stands alone. -/
def display : Value → String
  | .text s => s
  | v => v.quoted

/-- A text, or null. -/
def ofText? : Option String → Value
  | some s => .text s
  | none => .null

/-- A whole number, or null. -/
def ofInt? : Option Int → Value
  | some i => .int i
  | none => .null

/-- Whether a value counts as absent: null, false, zero, or empty. -/
def isBlank : Value → Bool
  | .null => true
  | .bool b => !b
  | .int i => i == 0
  | .real x => x.isZero
  | .text s => s.isEmpty
  | .list items => items.isEmpty
  | .dict entries => entries.isEmpty

/-- The whole number that a truth value, a whole number or a number without fraction stands for. -/
def toInt? : Value → Option Int
  | .bool b => some (if b then 1 else 0)
  | .int i => some i
  | .real x => x.toInt?
  | _ => none

mutual

/-- Whether two values are equal: numbers by value, truth values as zero and one, dictionaries whatever their order. -/
def equal : Value → Value → Bool
  | .null, .null => true
  | .text s, .text t => s == t
  | .list vs, .list ws => equalItems vs ws
  | .dict es, .dict fs => es.length == fs.length && equalEntries es fs
  | .bool b, w => w.toInt? == some (if b then 1 else 0)
  | .int i, w => w.toInt? == some i
  | .real x, w =>
    match w with
    | .real y => x.sameValue y
    | _ => x.toInt?.isSome && w.toInt? == x.toInt?
  | _, _ => false

/-- Whether two lists are equal item by item. -/
def equalItems : List Value → List Value → Bool
  | [], [] => true
  | v :: vs, w :: ws => v.equal w && equalItems vs ws
  | _, _ => false

/-- Whether every entry has an equal one in another dictionary. -/
def equalEntries : List (String × Value) → List (String × Value) → Bool
  | [], _ => true
  | (k, v) :: es, fs =>
    (match fs.lookup k with
      | some w => v.equal w
      | none => false) && equalEntries es fs

end

/-- The kinds of values. -/
inductive Kind where
  | null
  | bool
  | int
  | real
  | text
  | list
  | dict
  deriving Repr, DecidableEq, Inhabited

/-- The kind of a value. -/
def kind : Value → Kind
  | .null => .null
  | .bool _ => .bool
  | .int _ => .int
  | .real _ => .real
  | .text _ => .text
  | .list _ => .list
  | .dict _ => .dict

/-- The name of a kind in messages. -/
def Kind.name : Kind → String
  | .null => "NoneType"
  | .bool => "bool"
  | .int => "int"
  | .real => "float"
  | .text => "str"
  | .list => "list"
  | .dict => "dict"

end Value

end EntitySearch
