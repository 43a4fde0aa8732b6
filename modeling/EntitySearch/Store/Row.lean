/-!
# Rows

A row holds a text or null in each of its columns.
-/

namespace EntitySearch

/-- A row: for each column, in order, a text or null. -/
structure Row where
  cells : List (String × Option String)
  deriving Repr, DecidableEq, Inhabited

namespace Row

/-- The content of a column; null when there is no such column. -/
def get (r : Row) (column : String) : Option String := (r.cells.lookup column).join

/-- The identifier of a row. -/
def id (r : Row) : Option String := r.get "id"

/-- The row with the contents of some of its columns replaced. -/
def update (r : Row) (changes : List (String × Option String)) : Row :=
  ⟨r.cells.map fun cell => (cell.1, (changes.lookup cell.1).getD cell.2)⟩

/-- The contents of several columns that are all present; none when one of them is null. -/
def key? (r : Row) (columns : List String) : Option (List String) := columns.mapM r.get

end Row

end EntitySearch
