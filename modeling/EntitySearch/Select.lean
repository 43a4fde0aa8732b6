import EntitySearch.Schema.Relation
import EntitySearch.Sql.Clause

/-!
# Select statements

A statement selects something of the rows of an entity, joined to related rows along relationship paths and narrowed by
conditions. Statements are values: each step gives a new one. A path is walked segment by segment from the root entity; a
segment that an earlier path has already walked is not joined again.
-/

namespace EntitySearch

/-- What a statement selects. -/
inductive Projection where
  /-- All columns of one entity. -/
  | entity (t : Table)
  /-- All columns of two entities. -/
  | pair (t u : Table)
  /-- One column of an entity. -/
  | column (t : Table) (name : String)
  /-- The number of values in a column. -/
  | count (t : Table) (name : String)
  /-- All columns of a table that is not taken as an entity. -/
  | plain (t : Table)
  /-- A piece of text. -/
  | text (s : String)
  | nothing
  deriving Repr, DecidableEq

/-- The tables that what is selected belongs to. -/
def Projection.tables : Projection → List Table
  | .entity t => [t]
  | .pair t u => [t, u]
  | .column t _ => [t]
  | .count t _ => [t]
  | .plain t => [t]
  | .text _ => []
  | .nothing => []

/-- The entity that comes first in what is selected. -/
def Projection.entity? : Projection → Option Table
  | .entity t => some t
  | .pair t _ => some t
  | .column t _ => some t
  | .count t _ => some t
  | .plain _ => none
  | .text _ => none
  | .nothing => none

/-- An outer join of a statement: the path that asked for it and the relationship it follows. -/
structure Join where
  path : String
  relation : Relation
  deriving Repr, DecidableEq

/-- A statement over the rows of a root entity. -/
structure Select where
  projection : Projection
  root : Table
  /-- The outer joins, in the order in which they were made. -/
  joins : List Join := []
  /-- The conditions that rows must meet, in order. -/
  conditions : List Clause := []
  distinct : Bool := false
  limit : Option Int := none
  deriving Repr

/-- The segments of a path: the runs between its dots. -/
def pathSegments : List Char → List (List Char)
  | [] => [[]]
  | c :: cs =>
    if c = '.' then [] :: pathSegments cs
    else
      match pathSegments cs with
      | [] => [[c]]
      | s :: ss => (c :: s) :: ss

namespace Select

/-- The statement that selects every row of an entity. -/
def all (t : Table) : Select := { projection := .entity t, root := t }

/-- A statement as the start of a collection; its root is the entity given, or else the first one selected. -/
def ofProjection (p : Projection) (entity : Option Table) : Except Failure Select :=
  match entity.or p.entity? with
  | some t => .ok { projection := p, root := t }
  | none => .error .unmappedSelect

/-- The paths that have been joined, in the order of their joins. -/
def joinedPaths (s : Select) : List String := s.joins.map (·.path)

/-- The statement with one more join, unless the path is joined already. -/
def addJoin (s : Select) (path : String) (r : Relation) : Select :=
  if s.joinedPaths.contains path then s else { s with joins := s.joins ++ [⟨path, r⟩] }

/-- Walks the segments of a path from an entity, behind the part of the path walked so far. -/
def walk (full : String) (s : Select) (t : Table) (walked : List Char) : List (List Char) → Except Failure Select
  | [] => .ok s
  | name :: rest =>
    match t.relation? (String.ofList name) with
    | none => .error (.noRelationship t.entityName (String.ofList name) full)
    | some r =>
      let path := walked ++ name
      walk full (s.addJoin (String.ofList path) r) r.target (path ++ ['.']) rest

/-- The statement with the outer joins along a path. -/
def outerJoin (s : Select) (path : String) : Except Failure Select :=
  walk path s s.root [] (pathSegments path.toList)

/-- The statement with repeated rows dropped. -/
def dropRepeated (s : Select) : Select := { s with distinct := true }

/-- The statement with one more condition. -/
def filter (s : Select) (c : Clause) : Select := { s with conditions := s.conditions ++ [c] }

/-- The statement with a greatest number of rows, in place of an earlier one. -/
def withLimit (s : Select) (n : Int) : Select := { s with limit := some n }

/-- The relationships that the statement follows, each once: a path that ends in one followed before adds none. -/
def relations (s : Select) : List Relation := (s.joins.map (·.relation)).eraseDups

/-- The condition that rows must meet. -/
def condition (s : Select) : Clause := Clause.chainAll .conjunction s.conditions

/-- The tables reached from the root by joins, the root among them; none when nothing is joined. -/
def joinedTables (s : Select) : List Table :=
  if s.joins.isEmpty then [] else s.root :: s.relations.map (·.target)

/-- The tables beside the joined ones: those selected from and those the conditions mention, in this order. -/
def otherTables (s : Select) : List String :=
  let joined := s.joinedTables.map Table.name
  ((s.projection.tables.map Table.name ++ Clause.tablesOf s.conditions).filter fun t => !joined.contains t).eraseDups

end Select

end EntitySearch
