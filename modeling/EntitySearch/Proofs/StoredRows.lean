import EntitySearch.Proofs.OuterJoin
import EntitySearch.Store.Change

/-!
# Stored rows

Rows are inserted one at a time into empty tables, and an insertion that violates a declared constraint is refused and changes
nothing. Every database that is reached in this way is sound (`Database.isSound_afterAll`): no required column is null and no two
rows of a table agree in columns that are unique together. Each key is therefore held once (`Database.IsSound.holdsOnce`), and a
relationship that is not declared to lead to many rows leads to at most one (`Database.IsSound.isToOne`), so that joins along it
neither drop nor repeat a row (`insertions_keep_keys`).
-/

namespace EntitySearch

/-- Items of which every two are related are one at most when no two of them are. -/
theorem length_le_one_of_pairwise {α : Type} {p : α → α → Prop} {l : List α} (h : l.Pairwise p)
    (hnone : ∀ a ∈ l, ∀ b ∈ l, ¬p a b) : l.length ≤ 1 := by
  match l with
  | [] => exact Nat.zero_le 1
  | [_] => exact Nat.le_refl 1
  | a :: b :: rest =>
    have hab : p a b := List.rel_of_pairwise_cons h List.mem_cons_self
    exact absurd hab (hnone a List.mem_cons_self b (List.mem_cons_of_mem a List.mem_cons_self))

/-! ## Keys -/

namespace Row

variable {r s : Row} {c : String} {columns : List String}

theorem key?_cons : r.key? (c :: columns) = (r.get c).bind fun v => (r.key? columns).map (v :: ·) := by
  rw [key?, List.mapM_cons]
  cases r.get c with
  | none => rfl
  | some v =>
    cases hkey : r.key? columns with
    | none =>
      rw [key?] at hkey
      simp [hkey]
    | some key =>
      rw [key?] at hkey
      simp [hkey]

/-- Rows agree in columns when they have one key in them. -/
theorem agree_eq_true_iff : r.agree s columns = true ↔ ∃ key, r.key? columns = some key ∧ s.key? columns = some key := by
  rw [agree]
  cases r.key? columns with
  | none => simp
  | some key => simp

/-- Rows agree in columns when each of the columns holds one text in both. -/
theorem agree_eq_true_iff_forall :
    r.agree s columns = true ↔ ∀ c ∈ columns, ∃ v, r.get c = some v ∧ s.get c = some v := by
  rw [agree_eq_true_iff]
  induction columns with
  | nil => simp [key?]
  | cons c columns ih =>
    rw [List.forall_mem_cons, ← ih]
    constructor
    · rintro ⟨key, hr, hs⟩
      rw [key?_cons, Option.bind_eq_some_iff] at hr hs
      obtain ⟨v, hrv, hr⟩ := hr
      obtain ⟨w, hsw, hs⟩ := hs
      obtain ⟨vs, hvs, rfl⟩ := Option.map_eq_some_iff.mp hr
      obtain ⟨ws, hws, hkey⟩ := Option.map_eq_some_iff.mp hs
      obtain ⟨rfl, rfl⟩ := List.cons.inj hkey
      exact ⟨⟨w, hrv, hsw⟩, ws, hvs, hws⟩
    · rintro ⟨⟨v, hrv, hsv⟩, key, hr, hs⟩
      exact ⟨v :: key, by rw [key?_cons, hrv, hr]; rfl, by rw [key?_cons, hsv, hs]; rfl⟩

theorem agree_comm : r.agree s columns = s.agree r columns := by
  rw [Bool.eq_iff_iff, agree_eq_true_iff, agree_eq_true_iff]
  simp only [and_comm]

end Row

/-! ## Declared constraints -/

namespace Table

variable {t : Table} {others : List Row} {r : Row} {v : Violation}

/-- Whether a row violates a declared constraint of a table beside other rows: a required column of it is null, or it holds the
texts of another row in columns that are unique together. -/
def Violates (t : Table) (others : List Row) (r : Row) : Violation → Prop
  | .notNull table column => table = t.name ∧ ∃ c ∈ t.columns, c.nullable = false ∧ c.name = column ∧ r.get column = none
  | .unique table columns => table = t.name ∧ columns ∈ t.uniqueSets ∧
      ∃ other ∈ others, ∀ column ∈ columns, ∃ text, r.get column = some text ∧ other.get column = some text

/-- The violation that is found is one. -/
theorem violates_of_violation? (h : t.violation? others r = some v) : t.Violates others r v := by
  rw [violation?] at h
  split at h
  · rename_i c hmissing
    cases h
    rw [missingColumn?] at hmissing
    have hc := List.find?_some hmissing
    simp only [Bool.and_eq_true, Bool.not_eq_true', Option.isNone_iff_eq_none] at hc
    exact ⟨rfl, c, List.mem_of_find?_eq_some hmissing, hc.1, rfl, hc.2⟩
  · rename_i columns hshared
    cases h
    rw [sharedKey?] at hshared
    have hany := List.find?_some hshared
    obtain ⟨other, hother, hagree⟩ := List.any_eq_true.mp hany
    exact ⟨rfl, List.mem_of_find?_eq_some hshared, other, hother, Row.agree_eq_true_iff_forall.mp hagree⟩
  · cases h

/-- A violation is found when there is one, and only then. -/
theorem exists_violation?_iff : (∃ v, t.violation? others r = some v) ↔ ∃ v, t.Violates others r v := by
  refine ⟨fun ⟨v, hv⟩ => ⟨v, violates_of_violation? hv⟩, fun ⟨v, hv⟩ => ?_⟩
  rw [← Option.ne_none_iff_exists']
  intro hnone
  obtain ⟨hrequired, hunique⟩ := violation?_eq_none.mp hnone
  cases v with
  | notNull table column =>
    obtain ⟨-, c, hc, hnullable, rfl, hnull⟩ := hv
    have hsome := hrequired c hc hnullable
    rw [hnull] at hsome
    cases hsome
  | unique table columns =>
    obtain ⟨-, hcolumns, other, hother, hagree⟩ := hv
    have hnot := hunique columns hcolumns other hother
    rw [Row.agree_eq_true_iff_forall.mpr hagree] at hnot
    cases hnot

/-- Every table has an identifier that is required and unique. -/
theorem id_mem_columns (t : Table) : Column.id ∈ t.columns := by cases t <;> decide

/-- Identifiers are unique in every table. -/
theorem id_mem_uniqueSets (t : Table) : ["id"] ∈ t.uniqueSets := by cases t <;> decide

/-- A relationship that is not declared to lead to many rows leads to the row referred to, or to a row whose reference is
unique. -/
theorem parent_or_unique_of_not_many (t : Table) : ∀ r ∈ t.relations, r.many = false →
    r.link.child ≠ r.target ∨ [r.link.column] ∈ r.target.uniqueSets := by
  cases t <;> decide

end Table

/-! ## Insertions -/

/-- A row that is to be inserted: the contents it is given, and the time and the identifier it takes where it says nothing. -/
structure Insertion where
  table : Table
  given : List (String × Option String) := []
  now : String := ""
  fresh : String := ""

/-- The row that is to be inserted. -/
def Insertion.row (i : Insertion) : Row := i.table.newRow i.now i.fresh i.given

namespace Database

/-- The database after an insertion, unless it is refused. -/
def attempt (db : Database) (i : Insertion) : Except Failure Database := db.insertRow i.table i.row

/-- An insertion into the store is one that takes a fresh identifier. -/
example (db : Database) (now : String) (t : Table) (given : List (String × Option String)) :
    db.insert now t given = db.attempt ⟨t, given, now, Identifier.fresh (db.ids t)⟩ := rfl

/-- The database after an insertion; one that is refused leaves it as it is. -/
def after (db : Database) (i : Insertion) : Database :=
  match db.attempt i with
  | .ok db' => db'
  | .error _ => db

/-- The database after several insertions, one at a time. -/
def afterAll (db : Database) (is : List Insertion) : Database := is.foldl after db

variable {db db' : Database} {i : Insertion} {t : Table} {r : Row} {columns : List String} {f : Failure}

/-- An insertion is refused for a violated constraint, and only when there is one. -/
theorem exists_attempt_eq_error_iff :
    (∃ f, db.attempt i = .error f) ↔ ∃ v, i.table.Violates (db.rows i.table) i.row v := by
  rw [← Table.exists_violation?_iff, attempt, insertRow]
  cases i.table.violation? (db.rows i.table) i.row <;> simp

/-- A refused insertion violates the constraint that it is refused for. -/
theorem exists_violates_of_attempt (h : db.attempt i = .error f) :
    ∃ v, f = .constraint v ∧ i.table.Violates (db.rows i.table) i.row v := by
  rw [attempt, insertRow] at h
  split at h
  · rename_i v hv
    exact ⟨v, (Except.error.inj h).symm, Table.violates_of_violation? hv⟩
  · cases h

/-- An insertion adds its row to its table, and leaves the others alone. -/
theorem rows_of_attempt (h : db.attempt i = .ok db') :
    db'.rows i.table = db.rows i.table ++ [i.row] ∧ ∀ t, t ≠ i.table → db'.rows t = db.rows t := by
  refine ⟨rows_of_insertRow h, fun t ht => ?_⟩
  rw [(insertRow_eq_ok.mp h).2, rows_withRows_of_ne _ _ ht]

/-! ## Sound databases -/

/-- Whether no required column is null, and no two rows of a table agree in columns that are unique together. -/
structure IsSound (db : Database) : Prop where
  required : ∀ t, ∀ r ∈ db.rows t, ∀ c ∈ t.columns, c.nullable = false → (r.get c.name).isSome = true
  unique : ∀ t, ∀ columns ∈ t.uniqueSets, (db.rows t).Pairwise fun r s => r.agree s columns = false

theorem isSound_empty : empty.IsSound := ⟨fun _ _ hr => (List.not_mem_nil hr).elim, fun _ _ _ => List.Pairwise.nil⟩

/-- An insertion keeps a database sound. -/
theorem IsSound.insertRow (h : db.IsSound) (hrow : db.insertRow t r = .ok db') : db'.IsSound := by
  obtain ⟨hfits, rfl⟩ := insertRow_eq_ok.mp hrow
  obtain ⟨hrequired, hunique⟩ := Table.violation?_eq_none.mp hfits
  constructor
  · intro u s hs
    by_cases hu : u = t
    · subst hu
      rw [rows_withRows_self] at hs
      rcases List.mem_append.mp hs with hs | hs
      · exact h.required u s hs
      · rw [List.mem_singleton.mp hs]
        exact hrequired
    · rw [rows_withRows_of_ne _ _ hu] at hs
      exact h.required u s hs
  · intro u columns hcolumns
    by_cases hu : u = t
    · subst hu
      rw [rows_withRows_self, List.pairwise_append]
      refine ⟨h.unique u columns hcolumns, List.pairwise_singleton _ _, fun s hs s' hs' => ?_⟩
      rw [List.mem_singleton.mp hs', Row.agree_comm]
      exact hunique columns hcolumns s hs
    · rw [rows_withRows_of_ne _ _ hu]
      exact h.unique u columns hcolumns

/-- An insertion keeps a database sound, also when it is refused. -/
theorem IsSound.after (h : db.IsSound) (i : Insertion) : (db.after i).IsSound := by
  rw [Database.after]
  split
  · rename_i db' hdb'
    exact h.insertRow hdb'
  · exact h

/-- Insertions keep a database sound. -/
theorem IsSound.afterAll (h : db.IsSound) (is : List Insertion) : (db.afterAll is).IsSound := by
  induction is generalizing db with
  | nil => exact h
  | cons i is ih => exact ih (h.after i)

/-- Insertions into empty tables lead to a sound database. -/
theorem isSound_afterAll (is : List Insertion) : (empty.afterAll is).IsSound := isSound_empty.afterAll is

/-! ## What soundness gives -/

/-- Whether at most one row of a table holds any given texts in columns. -/
def HoldsOnce (db : Database) (t : Table) (columns : List String) : Prop :=
  ∀ key : List String, ((db.rows t).filter fun r => r.key? columns == some key).length ≤ 1

/-- Columns that are unique together hold each key once. -/
theorem IsSound.holdsOnce (h : db.IsSound) (hcolumns : columns ∈ t.uniqueSets) : db.HoldsOnce t columns := by
  intro key
  refine length_le_one_of_pairwise ((h.unique t columns hcolumns).sublist List.filter_sublist) fun r hr s hs hdiffer => ?_
  rw [List.mem_filter, beq_iff_eq] at hr hs
  rw [Row.agree_eq_true_iff.mpr ⟨key, hr.2, hs.2⟩] at hdiffer
  cases hdiffer

/-- Every row has an identifier. -/
theorem IsSound.exists_id (h : db.IsSound) (hr : r ∈ db.rows t) : ∃ id, r.id = some id :=
  Option.isSome_iff_exists.mp (h.required t r hr Column.id t.id_mem_columns rfl)

/-- In a sound database identifiers are unique. -/
theorem IsSound.hasUniqueIds (h : db.IsSound) : db.HasUniqueIds := by
  intro t
  rw [List.nodup_iff_pairwise_ne, List.pairwise_map]
  refine (h.unique t ["id"] t.id_mem_uniqueSets).imp_of_mem fun {r s} hr hs hdiffer hid => ?_
  obtain ⟨id, hrid⟩ := h.exists_id hr
  have hagree : r.agree s ["id"] = true :=
    Row.agree_eq_true_iff_forall.mpr (List.forall_mem_singleton.mpr ⟨id, hrid, hid.symm.trans hrid⟩)
  rw [hagree] at hdiffer
  cases hdiffer

end Database

/-- A relationship that leads to a row whose reference is unique leads to at most one row. -/
theorem Relation.isToOne_of_unique {r : Relation} {db : Database} (h : db.HoldsOnce r.target [r.link.column])
    (hr : r.link.child = r.target) : r.IsToOne db := by
  intro row
  refine Nat.le_trans (List.Sublist.length_le (List.monotone_filter_right _ fun x hx => ?_)) (h (row.id.toList))
  rw [Relation.connects, if_pos hr, Link.connects] at hx
  split at hx
  · rename_i reference id hcolumn hid
    rw [beq_iff_eq, Row.key?_cons, hcolumn, hid, beq_iff_eq.mp hx]
    rfl
  · cases hx

/-- In a sound database a relationship that is not declared to lead to many rows leads to at most one. -/
theorem Database.IsSound.isToOne {db : Database} (h : db.IsSound) {t : Table} {r : Relation} (hr : r ∈ t.relations)
    (hmany : r.many = false) : r.IsToOne db := by
  by_cases hchild : r.link.child = r.target
  · have hunique := (t.parent_or_unique_of_not_many r hr hmany).resolve_left (not_not_intro hchild)
    exact Relation.isToOne_of_unique (h.holdsOnce hunique) hchild
  · exact Relation.isToOne_of_parent h.hasUniqueIds hchild

/-- From a listing to its location, from an account to its profile and its person, from an owner link and from an inquiry to the
contact, and from a contact card to its person. -/
def Relation.single : List Relation := [.location, .profile, .userPerson, .ownerContact, .inquiryContact, .contactPerson]

/-- The relationships to one row are relationships of the schema. -/
theorem Relation.mem_relations_of_single : ∀ r ∈ Relation.single, r ∈ r.source.relations ∧ r.many = false := by decide

/-- **Insertions keep keys.** Rows are inserted one at a time into empty tables. A further insertion is refused for a declared
constraint that it violates, and only if there is one; refused, it changes no table. In the database that is reached every row has
an identifier that no other row of its table has; a listing has at most one location, a user at most one profile, a tenant at most
one contact for a person and a listing at most one owner link to a contact; no two rows share a phone, an e-mail address of an
account or a code of a tenant. Every join along a relationship to one row therefore goes on from a combination of rows to exactly
one, and so do several such joins. -/
theorem insertions_keep_keys (insertions : List Insertion) :
    let db := Database.empty.afterAll insertions
    (∀ i : Insertion,
      ((∃ f, db.attempt i = .error f) ↔ ∃ v, i.table.Violates (db.rows i.table) i.row v) ∧
      (∀ f, db.attempt i = .error f →
        db.after i = db ∧ ∃ v, f = .constraint v ∧ i.table.Violates (db.rows i.table) i.row v) ∧
      ∀ db', db.attempt i = .ok db' → db.after i = db' ∧ db'.rows i.table = db.rows i.table ++ [i.row] ∧
        ∀ t, t ≠ i.table → db'.rows t = db.rows t) ∧
    (∀ t, (∀ r ∈ db.rows t, ∃ id, r.id = some id) ∧ ((db.rows t).map Row.id).Nodup) ∧
    db.HoldsOnce .listingLocation ["listing_id"] ∧ db.HoldsOnce .userProfile ["user_id"] ∧
    db.HoldsOnce .contact ["tenant_id", "person_id"] ∧ db.HoldsOnce .listingOwner ["listing_id", "contact_id"] ∧
    db.HoldsOnce .person ["normalized_phone"] ∧ db.HoldsOnce .user ["email"] ∧ db.HoldsOnce .tenant ["code"] ∧
    (∀ r ∈ Relation.single, ∀ bound, ∃ o, Select.Pairs db r (bound.row? r.source) o ∧
      Select.extend db r bound = [bound ++ [(r.target, o)]]) ∧
    ∀ rs, (∀ r ∈ rs, r ∈ Relation.single) → ∀ (t : Table) (row : Row),
      ∃ bound, [(t, some row)] <+: bound ∧ Select.extendAll db rs [[(t, some row)]] = [bound] := by
  intro db
  have hsound : db.IsSound := Database.isSound_afterAll insertions
  have htoOne : ∀ r ∈ Relation.single, r.IsToOne db := fun r hr =>
    let ⟨hmem, hmany⟩ := Relation.mem_relations_of_single r hr
    hsound.isToOne hmem hmany
  refine ⟨fun i => ⟨Database.exists_attempt_eq_error_iff, fun f hf => ?_, fun db' hdb' => ?_⟩,
    fun t => ⟨fun r hr => hsound.exists_id hr, hsound.hasUniqueIds t⟩, hsound.holdsOnce (by decide),
    hsound.holdsOnce (by decide), hsound.holdsOnce (by decide), hsound.holdsOnce (by decide), hsound.holdsOnce (by decide),
    hsound.holdsOnce (by decide), hsound.holdsOnce (by decide), fun r hr bound => ?_, fun rs hrs t row => ?_⟩
  · exact ⟨by rw [Database.after, hf], Database.exists_violates_of_attempt hf⟩
  · exact ⟨by rw [Database.after, hdb'], Database.rows_of_attempt hdb'⟩
  · obtain ⟨o, ho⟩ := Select.exists_extend_eq (htoOne r hr) bound
    have hmem : bound ++ [(r.target, o)] ∈ Select.extend db r bound := by
      rw [ho]
      exact List.mem_singleton_self _
    obtain ⟨o', hpairs, hsame⟩ := Select.mem_extend.mp hmem
    obtain rfl : o = o' := by simpa using hsame
    exact ⟨o, hpairs, ho⟩
  · obtain ⟨f, hfront, hmap⟩ := Select.exists_extendAll_eq_map fun r hr => htoOne r (hrs r hr)
    exact ⟨f [(t, some row)], hfront _, hmap [[(t, some row)]]⟩

namespace Sample

/-- A location of a listing. -/
def firstLocation : Insertion :=
  { table := .listingLocation, given := [("listing_id", some "l1"), ("city", some "Almaty")], fresh := "w1" }

/-- Another location of the same listing. -/
def secondLocation : Insertion := { table := .listingLocation, given := [("listing_id", some "l1")], fresh := "w2" }

/-- The listing and its location. -/
def insertions : List Insertion :=
  [{ table := .listing, given := [("title", some "Flat"), ("tenant_id", some "alpha")], fresh := "l1" }, firstLocation]

end Sample

/-- A second location of a listing is refused, and the listing still goes with its first one only. -/
theorem second_location_is_refused :
    (∃ f, (Database.empty.afterAll Sample.insertions).attempt Sample.secondLocation = .error f) ∧
      ((Database.empty.afterAll (Sample.insertions ++ [Sample.secondLocation])).rows .listingLocation).length = 1 ∧
      ∀ row, ∃ bound, Select.extendAll (Database.empty.afterAll Sample.insertions) [.location] [[(.listing, some row)]] =
        [bound] := by
  obtain ⟨hinserts, -, -, -, -, -, -, -, -, -, hjoins⟩ := insertions_keep_keys Sample.insertions
  refine ⟨(hinserts Sample.secondLocation).1.mpr ⟨.unique "listing_location" ["listing_id"], ?_⟩, by decide +kernel, ?_⟩
  · exact ⟨rfl, by decide, Sample.firstLocation.row, by decide +kernel,
      List.forall_mem_singleton.mpr ⟨"l1", by decide +kernel, by decide +kernel⟩⟩
  · intro row
    obtain ⟨bound, -, hbound⟩ := hjoins [.location] (by decide) .listing row
    exact ⟨bound, hbound⟩

end EntitySearch
