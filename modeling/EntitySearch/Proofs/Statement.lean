import EntitySearch.Proofs.Condition
import EntitySearch.Proofs.OuterJoin

/-!
# What statements select

A statement that selects its root entity, has no limit and mentions only tables it has joined (`Select.IsClosed`) selects the
rows of the root that some full combination of joined rows lets through (`mem_run`). It selects each of them once when it
drops repeated rows (`nodup_run_of_distinct`), and also when every relationship it follows leads to at most one row
(`nodup_run_of_toOne`).
-/

namespace EntitySearch

/-- Dropping repeated items leaves none that is repeated. -/
theorem nodup_eraseDups {α : Type} [BEq α] [LawfulBEq α] : ∀ l : List α, l.eraseDups.Nodup
  | [] => List.nodup_nil
  | a :: l => by
    have hlt : (l.filter fun x => !x == a).length < l.length + 1 := Nat.lt_succ_of_le (List.length_filter_le _ _)
    rw [List.eraseDups_cons, List.nodup_cons, List.mem_eraseDups]
    exact ⟨by simp, nodup_eraseDups _⟩
termination_by l => l.length

namespace Select

variable {b : Backend} {db : Database} {s : Select}

/-- Whether a statement selects its root entity, without a limit, and mentions only tables that it has joined. -/
structure IsClosed (s : Select) : Prop where
  projection : s.projection = .entity s.root
  limit : s.limit = none
  tables : ∀ name ∈ Clause.tablesOf s.conditions, name ∈ (s.root :: s.relations.map (·.target)).map Table.name

/-! ## Conditions -/

/-- A chain of conditions is a condition. -/
theorem asCondition_chainAll (k : Connective) (cs : List Clause) :
    (Clause.chainAll k cs).asCondition = Clause.chainAll k cs := by
  unfold Clause.chainAll
  split
  · exact Clause.asCondition_asCondition _
  · rfl

/-- A combination is admitted when every condition lets it through. -/
theorem admits_eq_true {bound : Binding} :
    s.admits b bound = true ↔ ∀ c ∈ s.conditions, c.passes b bound.contents = true := by
  rw [← Clause.passes_conjunction, Clause.passes, asCondition_chainAll]
  rfl

/-! ## Combinations -/

/-- With joins a closed statement selects from nothing beside them. -/
theorem otherTables_of_joins (h : s.IsClosed) (hj : s.joins ≠ []) : s.otherTables = [] := by
  have hfilter : (s.projection.tables.map Table.name ++ Clause.tablesOf s.conditions).filter
      (fun t => !(s.joinedTables.map Table.name).contains t) = [] := by
    rw [List.filter_eq_nil_iff]
    intro name hname
    have hmem : name ∈ s.joinedTables.map Table.name := by
      rw [joinedTables, if_neg (by simpa using hj)]
      rcases List.mem_append.mp hname with hname | hname
      · rw [h.projection, Projection.tables, List.map_singleton, List.mem_singleton] at hname
        simp [hname]
      · exact h.tables name hname
    simpa using hmem
  simp only [otherTables, hfilter, List.eraseDups_nil]

theorem relations_of_no_joins (hj : s.joins = []) : s.relations = [] := by
  simp [relations, hj]

/-- Without joins a closed statement selects from its root. -/
theorem otherTables_of_no_joins (h : s.IsClosed) (hj : s.joins = []) : s.otherTables = [s.root.name] := by
  have hall : ∀ name ∈ Clause.tablesOf s.conditions, name = s.root.name := by
    intro name hname
    simpa [relations_of_no_joins hj] using h.tables name hname
  have hrest : (Clause.tablesOf s.conditions).filter (fun name => !name == s.root.name) = [] := by
    rw [List.filter_eq_nil_iff]
    intro name hname
    simp [hall name hname]
  have hjoined : s.joinedTables = [] := by simp [joinedTables, hj]
  simp only [otherTables, hjoined, h.projection, Projection.tables, List.map_nil, List.contains_nil, Bool.not_false,
    List.filter_true, List.map_singleton, List.singleton_append, List.eraseDups_cons, hrest, List.eraseDups_nil]

/-- The combinations of a closed statement are those of its joins. -/
theorem bindings_eq (h : s.IsClosed) :
    s.bindings db = extendAll db s.relations ((db.rows s.root).map fun r => [(s.root, some r)]) := by
  by_cases hj : s.joins = []
  · simp only [bindings, otherTables_of_no_joins h hj, hj, List.isEmpty_nil, if_true, relations_of_no_joins hj]
    simp [extendAll, cross, Table.ofName?_name]
  · have hne : s.joins.isEmpty = false := by simpa using hj
    simp only [bindings, otherTables_of_joins h hj, hne, Bool.false_eq_true, if_false]
    rfl

/-- Joins leave the row of the root in its place. -/
theorem row?_root_of_joined {rs : List Relation} {t : Table} {r : Row} {bound : Binding}
    (h : Joined db rs [(t, some r)] bound) : bound.row? t = some r := by
  rw [row?_of_joined h (by simp), Binding.row?_cons_self]

/-! ## The rows selected -/

/-- The statement of all rows of an entity selects them as they stand. -/
theorem run_all (t : Table) : (all t).run b db = db.rows t := by
  have hclosed : (all t).IsClosed := ⟨rfl, rfl, by simp [all, Clause.tablesOf]⟩
  have hadmits : ∀ bound ∈ (all t).bindings db, (all t).admits b bound = true :=
    fun bound _ => admits_eq_true.mpr (by simp [all])
  have hbindings : (all t).bindings db = (db.rows t).map fun r => [(t, some r)] := bindings_eq hclosed
  have hfound : (((all t).bindings db).filter ((all t).admits b)).filterMap (fun bound => bound.row? t) = db.rows t := by
    rw [List.filter_eq_self.mpr hadmits, hbindings, List.filterMap_map]
    simp [Binding.row?_cons_self]
  exact hfound

/-- Without a limit the rows selected are those of the combinations admitted, whether repeated rows are dropped or not. -/
theorem mem_run_of_no_limit (hl : s.limit = none) {r : Row} :
    r ∈ s.run b db ↔ ∃ bound ∈ s.bindings db, s.admits b bound = true ∧ bound.row? s.root = some r := by
  have hfound : r ∈ ((s.bindings db).filter (s.admits b)).filterMap (fun bound => bound.row? s.root) ↔
      ∃ bound ∈ s.bindings db, s.admits b bound = true ∧ bound.row? s.root = some r := by
    simp only [List.mem_filterMap, List.mem_filter, and_assoc]
  rw [← hfound]
  simp only [run, hl]
  split
  · rw [List.mem_eraseDups]
  · rfl

/-- A closed statement selects the rows of its root that some full combination lets through. -/
theorem mem_run (h : s.IsClosed) {r : Row} :
    r ∈ s.run b db ↔ r ∈ db.rows s.root ∧ ∃ bound, Joined db s.relations [(s.root, some r)] bound ∧
      ∀ c ∈ s.conditions, c.passes b bound.contents = true := by
  rw [mem_run_of_no_limit h.limit, bindings_eq h]
  constructor
  · rintro ⟨bound, hbound, had, hr⟩
    obtain ⟨start, hstart, hj⟩ := mem_extendAll.mp hbound
    obtain ⟨x, hx, rfl⟩ := List.mem_map.mp hstart
    rw [row?_root_of_joined hj, Option.some.injEq] at hr
    subst hr
    exact ⟨hx, bound, hj, admits_eq_true.mp had⟩
  · rintro ⟨hr, bound, hj, hc⟩
    exact ⟨bound, mem_extendAll.mpr ⟨_, List.mem_map_of_mem hr, hj⟩, admits_eq_true.mpr hc, row?_root_of_joined hj⟩

/-- Repeated rows are dropped when the statement asks for it. -/
theorem nodup_run_of_distinct (hl : s.limit = none) (hd : s.distinct = true) : (s.run b db).Nodup := by
  simp only [run, hl, hd, if_true]
  exact nodup_eraseDups _

/-- Along relationships to at most one row each row of the root has one combination, so that none is selected twice. -/
theorem nodup_run_of_toOne (h : s.IsClosed) (hdb : db.HasUniqueIds) (hr : ∀ r ∈ s.relations, r.IsToOne db) :
    (s.run b db).Nodup := by
  obtain ⟨f, hf, hmap⟩ := exists_extendAll_eq_map hr
  have hroot : ∀ r, (f [(s.root, some r)]).row? s.root = some r := by
    intro r
    obtain ⟨rest, hrest⟩ := hf [(s.root, some r)]
    rw [← hrest, Binding.row?_append (by simp), Binding.row?_cons_self]
  have hfound : ((s.bindings db).filter (s.admits b)).filterMap (fun bound => bound.row? s.root) =
      (db.rows s.root).filter fun r => s.admits b (f [(s.root, some r)]) := by
    rw [bindings_eq h, hmap, List.map_map, List.filter_map, List.filterMap_map]
    simp [Function.comp_def, hroot]
  have hnodup : ((s.bindings db).filter (s.admits b)).filterMap (fun bound => bound.row? s.root) |>.Nodup := by
    rw [hfound]
    exact ((hdb s.root).of_map _).filter _
  simp only [run, h.limit]
  split
  · exact nodup_eraseDups _
  · exact hnodup

end Select

end EntitySearch
