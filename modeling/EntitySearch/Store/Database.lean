import EntitySearch.Schema.Table
import EntitySearch.Store.Row

/-!
# Databases

A database holds a list of rows for each table.
-/

namespace EntitySearch

/-- The rows of every table. -/
structure Database where
  rows : Table → List Row

namespace Database

/-- A database without rows. -/
def empty : Database := ⟨fun _ => []⟩

/-- The database with the rows of one table replaced. -/
def withRows (db : Database) (t : Table) (rs : List Row) : Database := ⟨fun u => if u = t then rs else db.rows u⟩

@[simp] theorem rows_empty (t : Table) : empty.rows t = [] := rfl

@[simp] theorem rows_withRows_self (db : Database) (t : Table) (rs : List Row) : (db.withRows t rs).rows t = rs := by
  simp [withRows]

theorem rows_withRows_of_ne (db : Database) {t u : Table} (rs : List Row) (h : u ≠ t) :
    (db.withRows t rs).rows u = db.rows u := by
  simp [withRows, h]

end Database

end EntitySearch
