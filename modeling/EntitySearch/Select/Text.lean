import EntitySearch.Select
import EntitySearch.Sql.Text

/-!
# The text of statements

Statements as they are written, clause after clause, and the short description of a statement by its root entity and the
paths joined.
-/

namespace EntitySearch

/-- Column names with the table they belong to; a name that came before gets a numbered alias. -/
def Projection.numbered (seen : List String) : List (String × String) → List String
  | [] => []
  | (table, name) :: rest =>
    let earlier := seen.count name
    let shown := table ++ "." ++ name
    (if earlier = 0 then shown else shown ++ " AS " ++ name ++ "_" ++ toString earlier) ::
      Projection.numbered (name :: seen) rest

/-- The list of what is selected. -/
def Projection.toText : Projection → String
  | .column t name => t.name ++ "." ++ name
  | .count t name => "count(" ++ t.name ++ "." ++ name ++ ") AS count_1"
  | .text s => s
  | .nothing => ""
  | p =>
    ", ".intercalate (Projection.numbered [] (p.tables.flatMap fun t => t.columnNames.map fun c => (t.name, c)))

/-- An outer join, the side that is referred to first. -/
def Relation.joinText (r : Relation) : String :=
  let link := r.link
  " LEFT OUTER JOIN " ++ r.target.name ++ " ON " ++ link.parent.name ++ ".id = " ++ link.child.name ++ "." ++
    link.column

namespace Select

/-- The sources of rows: the joined tables, then the others. -/
def sources (s : Select) : List String :=
  let joined := if s.joins.isEmpty then [] else [s.root.name ++ String.join (s.relations.map Relation.joinText)]
  joined ++ s.otherTables

/-- What a statement selects, behind the word that says so; a blank stands before each part. -/
def selection (s : Select) : String :=
  let shown := s.projection.toText
  (if s.distinct then " DISTINCT" else "") ++ if shown.isEmpty then "" else " " ++ shown

/-- The text of a statement. -/
def toText (s : Select) : String :=
  let sources := s.sources
  let condition := s.condition.toText
  "SELECT" ++ s.selection ++ (if sources.isEmpty then "" else " \nFROM " ++ ", ".intercalate sources) ++
    (if condition.isEmpty then "" else " \nWHERE " ++ condition) ++
    match s.limit with
    | some n => " \n LIMIT " ++ toString n
    | none => ""

/-- The text of a statement that can be written: one that follows a relationship must select something. -/
def written (s : Select) : Except Failure String :=
  if s.projection = .nothing ∧ s.joins ≠ [] then .error .noColumns else .ok s.toText

/-- The joined paths in alphabetical order. -/
def sortedPaths (s : Select) : List String := s.joinedPaths.mergeSort fun a b => decide (a ≤ b)

/-- The description of a statement by its root entity and the paths joined. -/
def describe (s : Select) : String :=
  "SelectCollection(" ++ s.root.entityName ++ ", joined=" ++ (Value.list (s.sortedPaths.map .text)).quoted ++ ")"

end Select

end EntitySearch
