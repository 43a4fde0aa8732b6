import EntitySearch.Expr
import EntitySearch.Failure

/-!
# Equality of expressions

Two expressions are equal when they are of one kind and equal part by part, constants being compared as values. An
expression can be a member of a set unless a list or a dictionary stands in it.
-/

namespace EntitySearch.Expr

mutual

/-- Whether two expressions are equal. -/
def equal : Expr → Expr → Bool
  | .column t c, .column t' c' => t == t' && c == c'
  | .literal v, .literal w => v.equal w
  | .coalesce e d, .coalesce e' d' => e.equal e' && d == d'
  | .concat ps, .concat qs => equalLists ps qs
  | .asText e, .asText e' => e.equal e'
  | .matching e p x, .matching e' p' x' => e.equal e' && p == p' && x == x'
  | .equals e v, .equals e' w => e.equal e' && v.equal w
  | .allOf ps, .allOf qs => equalLists ps qs
  | .anyOf ps, .anyOf qs => equalLists ps qs
  | .foreign v, .foreign w => v.equal w
  | _, _ => false

/-- Whether two lists of expressions are equal one by one. -/
def equalLists : List Expr → List Expr → Bool
  | [], [] => true
  | p :: ps, q :: qs => p.equal q && equalLists ps qs
  | _, _ => false

end

/-- The kind of a value that no set can hold. -/
def unhashableValue? (v : Value) : Option Value.Kind :=
  match v.kind with
  | .list => some .list
  | .dict => some .dict
  | _ => none

mutual

/-- The kind of the first value that keeps an expression out of every set. -/
def unhashable? : Expr → Option Value.Kind
  | .column _ _ => none
  | .literal v => unhashableValue? v
  | .coalesce e _ => e.unhashable?
  | .concat ps => unhashableList? ps
  | .asText e => e.unhashable?
  | .matching e _ _ => e.unhashable?
  | .equals e v => (e.unhashable?).or (unhashableValue? v)
  | .allOf ps => unhashableList? ps
  | .anyOf ps => unhashableList? ps
  | .foreign v => unhashableValue? v

/-- The kind of the first value that keeps one of several expressions out of every set. -/
def unhashableList? : List Expr → Option Value.Kind
  | [] => none
  | p :: ps => (p.unhashable?).or (unhashableList? ps)

end

/-- How a list of expressions falls into classes of equal ones. -/
structure Classes where
  /-- For each expression the position of the first one equal to it. -/
  firstEqual : List Nat
  /-- The number of classes. -/
  count : Nat
  deriving Repr, DecidableEq

/-- The classes of equal expressions of a list. -/
def classes (es : List Expr) : Except Failure Classes :=
  let firstEqual := es.map fun e => es.findIdx fun d => d.equal e
  match unhashableList? es with
  | some kind => .error (.unhashable kind)
  | none => .ok ⟨firstEqual, firstEqual.eraseDups.length⟩

end EntitySearch.Expr
