import EntitySearch.Select
import EntitySearch.Sql.Evaluation
import EntitySearch.Store.Database

/-!
# Running statements

What a statement selects from a database. Joined rows bind a row, or nothing, to each table; an outer join extends each by
every related row, and by nothing where there is none. Tables beside the joined ones contribute every combination of their
rows. Then come the condition, the dropping of repeated rows and the limit, in this order.
-/

namespace EntitySearch

/-- A combination of rows: for each table that takes part its row, or nothing. -/
abbrev Binding := List (Table × Option Row)

namespace Binding

/-- The row of a table; none when it is absent. -/
def row? (bound : Binding) (t : Table) : Option Row := (bound.lookup t).join

/-- The contents of the columns of a combination; the columns of an absent row are null. -/
def contents (bound : Binding) : Contents := fun table column =>
  (Table.ofName? table).bind fun t => (bound.row? t).bind fun r => r.get column

end Binding

/-- Whether a row of the child side of a link refers to a row of the parent side. -/
def Link.connects (l : Link) (child parent : Row) : Bool :=
  match child.get l.column, parent.id with
  | some reference, some id => reference == id
  | _, _ => false

/-- Whether a relationship connects a row of its entity to a row of its target. -/
def Relation.connects (r : Relation) (source target : Row) : Bool :=
  if r.link.child = r.target then r.link.connects target source else r.link.connects source target

/-- The table a relationship starts from. -/
def Relation.source (r : Relation) : Table := if r.link.child = r.target then r.link.parent else r.link.child

namespace Select

/-- A combination extended along a relationship. -/
def extend (db : Database) (r : Relation) (bound : Binding) : List Binding :=
  let related := match bound.row? r.source with
    | some row => (db.rows r.target).filter (r.connects row)
    | none => []
  match related with
  | [] => [bound ++ [(r.target, none)]]
  | rows => rows.map fun row => bound ++ [(r.target, some row)]

/-- The combinations of the joined tables. -/
def joinedBindings (db : Database) (s : Select) : List Binding :=
  s.relations.foldl (fun bs r => bs.flatMap (extend db r)) ((db.rows s.root).map fun r => [(s.root, some r)])

/-- Combinations extended by every row of a table. -/
def cross (db : Database) (bs : List Binding) (t : Table) : List Binding :=
  bs.flatMap fun b => (db.rows t).map fun r => b ++ [(t, some r)]

/-- The combinations that a statement chooses from. -/
def bindings (db : Database) (s : Select) : List Binding :=
  let others := s.otherTables.filterMap Table.ofName?
  if s.joins.isEmpty then others.foldl (cross db) [[]] else others.foldl (cross db) (s.joinedBindings db)

/-- Whether a combination meets the condition of a statement. -/
def admits (b : Backend) (s : Select) (bound : Binding) : Bool :=
  s.condition.isVoid || s.condition.holds b bound.contents

/-- The rows of the root entity that a statement selects. -/
def run (b : Backend) (db : Database) (s : Select) : List Row :=
  let found := ((s.bindings db).filter (s.admits b)).filterMap fun bound => bound.row? s.root
  let kept := if s.distinct then found.eraseDups else found
  match s.limit with
  | some n => if n < 0 then kept else kept.take n.toNat
  | none => kept

/-- Whether a backend can take a statement: it can hold every constant and the limit. -/
def isStorable (s : Select) : Bool :=
  (Clause.constantsOf s.conditions).all Sql.isStorable && (s.limit.all fun n => Sql.isStorable (.int n))

/-- The identifiers of the rows that a statement selects, in alphabetical order. -/
def ids (b : Backend) (db : Database) (s : Select) : List String :=
  ((s.run b db).filterMap Row.id).mergeSort fun x y => decide (x ≤ y)

/-- The identifiers that a statement finds, unless the backend cannot take it. -/
def find (b : Backend) (db : Database) (s : Select) : Except Failure (List String) :=
  if s.isStorable then .ok (s.ids b db) else .error .oversizedInteger

end Select

end EntitySearch
