import EntitySearch.Failure
import EntitySearch.Text.LowerCase

/-!
# Spans

A span records one traced call: its name, the span it ran inside, its attributes and whether it failed. Of the arguments
given by keyword only those with a name known to be harmless become attributes; the text of a query is not among them.
-/

namespace EntitySearch

/-- The attributes of a span. -/
abbrev Attributes := List (String × Value)

namespace Attributes

/-- Whether the items of a list can stand in one attribute: texts, truth values or numbers, all of one kind. -/
def uniform (items : List Value) : Bool :=
  match (items.map Value.kind).filter (· != .null) with
  | [] => true
  | k :: ks => k != .list && k != .dict && ks.all (· == k)

/-- Whether a value can be an attribute. -/
def admissible : Value → Bool
  | .null => false
  | .dict _ => false
  | .list items => uniform items
  | _ => true

/-- The attributes with one more; an earlier one of the same name gives way. A value that cannot be an attribute, or a
nameless one, is left out. -/
def set (attributes : Attributes) (name : String) (value : Value) : Attributes :=
  if name.isEmpty || !admissible value then attributes
  else attributes.filter (fun a => a.1 != name) ++ [(name, value)]

/-- The attributes with several more, in order. -/
def setAll (attributes : Attributes) (more : List (String × Value)) : Attributes :=
  more.foldl (fun as a => as.set a.1 a.2) attributes

/-- The attributes that have a value. -/
def given (attributes : List (String × Value)) : List (String × Value) := attributes.filter fun a => a.2.kind != .null

/-- The names of arguments that are recorded, in lower case. -/
def recordedNames : List String := ["id", "name", "count", "limit", "kind", "entity", "tenant_id", "user_id", "provider"]

/-- Whether an argument given by keyword is recorded: it has a value, its name does not start with an underscore and is, in
lower case, among the recorded ones. -/
def isRecorded (name : String) (value : Value) : Bool :=
  match value with
  | .null => false
  | _ => !name.toList.head?.any (· == '_') && recordedNames.contains (String.ofList (Text.lowerCase name.toList))

/-- The attributes of arguments given by keyword. -/
def ofArguments (arguments : List (String × Value)) : List (String × Value) :=
  (arguments.filter fun a => isRecorded a.1 a.2).map fun a => ("arg." ++ a.1, .text a.2.display)

end Attributes

/-- A finished span. -/
structure Span where
  name : String
  /-- The name of the span it ran inside. -/
  parent : Option String
  attributes : Attributes
  /-- The failure that left the call, if one did. -/
  failure : Option Failure
  deriving Repr, Inhabited

/-- The failures recorded as events of a span: a failure is recorded when it is seen and once more when the span ends. -/
def Span.events (s : Span) : List Failure :=
  match s.failure with
  | some e => [e, e]
  | none => []

/-- The failure of a result. -/
def failure? {α : Type} : Except Failure α → Option Failure
  | .ok _ => none
  | .error e => some e

end EntitySearch
