import EntitySearch.Failure
import EntitySearch.Schema.Column
import EntitySearch.Store.Row

/-!
# Constraints on rows

A row fits into a table beside other rows when every required column has a value and it agrees with none of them in columns
that are unique together. Two rows that hold a null in such columns never agree there.
-/

namespace EntitySearch

/-- Whether two rows hold the same values, and no null, in columns that are unique together. -/
def Row.agree (r s : Row) (columns : List String) : Bool :=
  match r.key? columns with
  | some key => s.key? columns == some key
  | none => false

namespace Table

/-- The first column of a row that must have a value and is null. -/
def missingColumn? (t : Table) (r : Row) : Option Column := t.columns.find? fun c => !c.nullable && (r.get c.name).isNone

/-- The first columns, unique together, in which a row agrees with one of the others. -/
def sharedKey? (t : Table) (others : List Row) (r : Row) : Option (List String) :=
  t.uniqueSets.find? fun columns => others.any fun other => r.agree other columns

/-- The constraint that a row violates beside other rows; a required value comes before uniqueness. -/
def violation? (t : Table) (others : List Row) (r : Row) : Option Violation :=
  match t.missingColumn? r, t.sharedKey? others r with
  | some c, _ => some (.notNull t.name c.name)
  | none, some columns => some (.unique t.name columns)
  | none, none => none

/-- A row violates nothing exactly when every required column has a value and no other row agrees with it in columns that
are unique together. -/
theorem violation?_eq_none {t : Table} {others : List Row} {r : Row} :
    t.violation? others r = none ↔
      (∀ c ∈ t.columns, c.nullable = false → (r.get c.name).isSome = true) ∧
        ∀ columns ∈ t.uniqueSets, ∀ other ∈ others, r.agree other columns = false := by
  have hm : t.missingColumn? r = none ↔ ∀ c ∈ t.columns, c.nullable = false → (r.get c.name).isSome = true := by
    simp only [missingColumn?, List.find?_eq_none, Bool.and_eq_true, Bool.not_eq_true', not_and]
    refine forall_congr' fun c => forall_congr' fun _ => forall_congr' fun _ => ?_
    cases r.get c.name <;> simp
  have hs : t.sharedKey? others r = none ↔
      ∀ columns ∈ t.uniqueSets, ∀ other ∈ others, r.agree other columns = false := by
    simp [sharedKey?]
  rw [← hm, ← hs]
  unfold violation?
  split <;> simp_all

end Table

end EntitySearch
