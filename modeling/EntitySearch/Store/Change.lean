import EntitySearch.Identifier
import EntitySearch.Store.Constraint
import EntitySearch.Store.Database

/-!
# Changes of the stored rows

Rows are inserted, changed and removed one at a time, and a change that violates a constraint is refused and leaves the
database as it is. An inserted row takes its defaults where it says nothing, not where it says null; references to other rows
are not checked.
-/

namespace EntitySearch

/-- What an inserted row holds in a column it says nothing of: the present time, a fresh identifier, a constant or null. -/
def Column.initial (now fresh : String) (c : Column) : Option String :=
  if c.stampedOnInsert then some now
  else
    match c.default with
    | .none => none
    | .freshId => some fresh
    | .constant text => some text

/-- The row of a table with the given contents; a column that is left out takes its initial content. -/
def Table.newRow (t : Table) (now fresh : String) (given : List (String × Option String)) : Row :=
  ⟨t.columns.map fun c => (c.name, (given.lookup c.name).getD (c.initial now fresh))⟩

/-- The changes of a row together with those the database makes by itself where nothing else is said. -/
def Table.withStamps (t : Table) (now : String) (changes : List (String × Option String)) : List (String × Option String) :=
  changes ++ (t.columns.filter (·.stampedOnUpdate)).map fun c => (c.name, some now)

namespace Database

/-- The row of an identifier. -/
def find? (db : Database) (t : Table) (id : String) : Option Row := (db.rows t).find? fun r => r.id == some id

/-- The identifiers of the rows of a table. -/
def ids (db : Database) (t : Table) : List String := (db.rows t).filterMap Row.id

/-- The database with one more row, behind the others of its table. -/
def insertRow (db : Database) (t : Table) (r : Row) : Except Failure Database :=
  match t.violation? (db.rows t) r with
  | some v => .error (.constraint v)
  | none => .ok (db.withRows t (db.rows t ++ [r]))

/-- The database with a row of the given contents inserted. -/
def insert (db : Database) (now : String) (t : Table) (given : List (String × Option String)) : Except Failure Database :=
  db.insertRow t (t.newRow now (Identifier.fresh (db.ids t)) given)

/-- The database with several rows inserted, all of them or none. -/
def insertAll (now : String) :
    List (Table × List (String × Option String)) → Database → Except Failure Database
  | [], db => .ok db
  | (t, given) :: rest, db =>
    match db.insert now t given with
    | .ok db' => insertAll now rest db'
    | .error e => .error e

/-- The database with the row of an identifier changed, if there is one, and the number of rows changed. -/
def update (db : Database) (now : String) (t : Table) (id : String) (changes : List (String × Option String)) :
    Except Failure (Database × Nat) :=
  match db.find? t id with
  | none => .ok (db, 0)
  | some r =>
    let changed := r.update (t.withStamps now changes)
    let others := (db.rows t).filter fun s => s.id != some id
    match t.violation? others changed with
    | some v => .error (.constraint v)
    | none => .ok (db.withRows t ((db.rows t).map fun s => if s.id == some id then changed else s), 1)

/-- The database without the row of an identifier, and the number of rows removed. -/
def delete (db : Database) (t : Table) (id : String) : Database × Nat :=
  (db.withRows t ((db.rows t).filter fun r => r.id != some id), ((db.rows t).filter fun r => r.id == some id).length)

/-- A row is inserted exactly when it violates no constraint. -/
theorem insertRow_eq_ok {db db' : Database} {t : Table} {r : Row} :
    db.insertRow t r = .ok db' ↔ t.violation? (db.rows t) r = none ∧ db' = db.withRows t (db.rows t ++ [r]) := by
  cases h : t.violation? (db.rows t) r <;> simp [insertRow, h, eq_comm]

/-- An insertion appends to its own table. -/
theorem rows_of_insertRow {db db' : Database} {t : Table} {r : Row} (h : db.insertRow t r = .ok db') :
    db'.rows t = db.rows t ++ [r] := by
  rw [(insertRow_eq_ok.mp h).2, rows_withRows_self]

end Database

end EntitySearch
