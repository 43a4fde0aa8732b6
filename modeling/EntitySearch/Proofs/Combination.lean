import EntitySearch.Proofs.Statement

/-!
# Combinations that statements choose from

A statement may select from tables that it has not joined; each of them contributes every one of its rows. `of_mem_bindings`
says what a combination is made of, whatever the conditions of the statement mention. A statement whose conditions mention only
joined tables (`Select.IsRooted`) selects a row of its root exactly when some full combination of joined rows lets the row
through and no table beside the joined ones is empty (`mem_run_iff`).
-/

namespace EntitySearch

/-- No two tables have the same name. -/
theorem Table.name_injective {t u : Table} (h : t.name = u.name) : t = u := by
  have hname := congrArg Table.ofName? h
  rw [Table.ofName?_name, Table.ofName?_name] at hname
  exact Option.some.inj hname

namespace Select

variable {b : Backend} {db : Database} {s : Select} {r : Row}

/-! ## Joins one after the other -/

/-- Joins lead to what the first of them lead to and the others lead on to. -/
theorem joined_append {rs ss : List Relation} {start bound : Binding} :
    Joined db (rs ++ ss) start bound ↔ ∃ mid, Joined db rs start mid ∧ Joined db ss mid bound := by
  induction rs generalizing start with
  | nil => exact ⟨fun h => ⟨start, rfl, h⟩, fun ⟨_, hmid, h⟩ => hmid ▸ h⟩
  | cons r rs ih =>
    simp only [List.cons_append, Joined, ih]
    constructor
    · rintro ⟨o, ho, mid, hmid, hj⟩
      exact ⟨mid, ⟨o, ho, hmid⟩, hj⟩
    · rintro ⟨mid, ⟨o, ho, hmid⟩, hj⟩
      exact ⟨o, ho, mid, hmid, hj⟩

theorem lookup_single (t u : Table) (o : Option Row) : (List.lookup t [(u, o)]).isSome = decide (t = u) := by
  by_cases h : t = u
  · simp [h]
  · have hne : (t == u) = false := by simp [h]
    simp [List.lookup_cons, hne, h]

/-- A combination binds the tables it starts from and the targets of its joins, and no others. -/
theorem lookup_isSome_of_joined {rs : List Relation} {start bound : Binding} (h : Joined db rs start bound) {t : Table} :
    (bound.lookup t).isSome = true ↔ (start.lookup t).isSome = true ∨ t ∈ rs.map (·.target) := by
  induction rs generalizing start with
  | nil => simp [show bound = start from h]
  | cons r rs ih =>
    obtain ⟨o, -, hj⟩ := h
    rw [ih hj, List.lookup_append, Option.isSome_or, Bool.or_eq_true, lookup_single, decide_eq_true_eq, List.map_cons,
      List.mem_cons, or_assoc]

/-! ## Tables beside the joined ones -/

/-- A combination extended by rows of several tables goes on from where it started and has a row of each of the tables that it
did not bind. -/
theorem of_mem_cross {ts : List Table} {bs : List Binding} {bound : Binding} (h : bound ∈ ts.foldl (cross db) bs) :
    ∃ start ∈ bs, start <+: bound ∧
      ∀ t ∈ ts, start.lookup t = none → ∃ row ∈ db.rows t, bound.row? t = some row := by
  induction ts generalizing bs with
  | nil => exact ⟨bound, h, List.prefix_rfl, by simp⟩
  | cons t ts ih =>
    obtain ⟨mid, hmid, hpre, hrows⟩ := ih h
    obtain ⟨start, hstart, hmid⟩ := List.mem_flatMap.mp hmid
    obtain ⟨row, hrow, rfl⟩ := List.mem_map.mp hmid
    refine ⟨start, hstart, (List.prefix_append _ _).trans hpre, fun u hu hnone => ?_⟩
    by_cases hut : u = t
    · subst hut
      obtain ⟨rest, rfl⟩ := hpre
      refine ⟨row, hrow, ?_⟩
      rw [Binding.row?_append (by simp [List.lookup_append, hnone])]
      simp [Binding.row?, List.lookup_append, hnone]
    · have hu := (List.mem_cons.mp hu).resolve_left hut
      refine hrows u hu (Option.not_isSome_iff_eq_none.mp ?_)
      simp [List.lookup_append, lookup_single, hnone, hut]

/-- A combination extended by a chosen row of each of several tables is among the combinations extended by them. -/
theorem append_mem_cross {f : Table → Row} {ts : List Table} (hf : ∀ t ∈ ts, f t ∈ db.rows t) {bs : List Binding}
    {start : Binding} (h : start ∈ bs) : start ++ ts.map (fun t => (t, some (f t))) ∈ ts.foldl (cross db) bs := by
  induction ts generalizing bs start with
  | nil => simpa using h
  | cons t ts ih =>
    have hmid : start ++ [(t, some (f t))] ∈ cross db bs t :=
      List.mem_flatMap.mpr ⟨start, h, List.mem_map_of_mem (hf t List.mem_cons_self)⟩
    have hrest := ih (fun u hu => hf u (List.mem_cons_of_mem _ hu)) hmid
    rwa [List.append_assoc] at hrest

/-- In a binding of rows to tables each table has its row. -/
theorem row?_map_some {f : Table → Row} {ts : List Table} {t : Table} (h : t ∈ ts) :
    Binding.row? (ts.map fun u => (u, some (f u))) t = some (f t) := by
  induction ts with
  | nil => cases h
  | cons u us ih =>
    by_cases htu : t = u
    · subst htu
      exact Binding.row?_cons_self _ _ _
    · have hne : (t == u) = false := by simp [htu]
      have hmem := (List.mem_cons.mp h).resolve_left htu
      simpa [Binding.row?, List.lookup_cons, hne] using ih hmem

/-- The tables beside the joined ones, the root among them when nothing is joined. -/
def aside (s : Select) : List Table := s.otherTables.filterMap Table.ofName?

/-- A table stands aside when it is selected from or mentioned, and not joined. -/
theorem mem_aside {t : Table} :
    t ∈ s.aside ↔ (t ∈ s.projection.tables ∨ t.name ∈ Clause.tablesOf s.conditions) ∧ t ∉ s.joinedTables := by
  have hname : t ∈ s.aside ↔ t.name ∈ s.otherTables := by
    rw [aside, List.mem_filterMap]
    constructor
    · rintro ⟨name, hname, ht⟩
      have heq : t.name = name := by simpa using List.find?_some ht
      rwa [heq]
    · exact fun h => ⟨t.name, h, Table.ofName?_name t⟩
  have hmap : ∀ ts : List Table, t.name ∈ ts.map Table.name ↔ t ∈ ts := by
    intro ts
    rw [List.mem_map]
    exact ⟨fun ⟨u, hu, he⟩ => Table.name_injective he ▸ hu, fun h => ⟨t, h, rfl⟩⟩
  rw [hname, otherTables, List.mem_eraseDups, List.mem_filter, List.mem_append, hmap]
  simp only [Bool.not_eq_true', List.contains_eq_mem, decide_eq_false_iff_not, hmap]

/-- Whether none of the tables that a statement selects from beside its joins is empty. -/
def HasRowsAside (db : Database) (s : Select) : Prop :=
  ∀ t ∈ s.projection.tables, t ≠ s.root → t ∉ s.relations.map (·.target) → db.rows t ≠ []

/-- A statement without relationships is one without joins. -/
theorem relations_eq_nil_iff : s.relations = [] ↔ s.joins = [] := by
  cases hj : s.joins <;> simp [relations, hj, List.eraseDups_cons]

/-! ## What combinations are made of -/

/-- A combination of a statement that selects from its root extends a combination of joined rows by a row of each table
beside them. -/
theorem of_mem_bindings (hsel : s.root ∈ s.projection.tables) {bound : Binding} (h : bound ∈ s.bindings db)
    (hroot : bound.row? s.root = some r) :
    r ∈ db.rows s.root ∧ HasRowsAside db s ∧ ∃ start, Joined db s.relations [(s.root, some r)] start ∧
      ∀ t, (start.lookup t).isSome = true → bound.row? t = start.row? t := by
  have haside : ∀ t ∈ s.projection.tables, t ∉ s.joinedTables → t ∈ s.aside :=
    fun t ht hj => mem_aside.mpr ⟨Or.inl ht, hj⟩
  by_cases hj : s.joins = []
  · have hnone : s.joinedTables = [] := by simp [joinedTables, hj]
    have hbindings : s.bindings db = s.aside.foldl (cross db) [[]] := by simp [bindings, aside, hj]
    obtain ⟨start, hstart, -, hrows⟩ := of_mem_cross (hbindings ▸ h)
    rw [List.mem_singleton.mp hstart] at hrows
    obtain ⟨row, hrow, hbound⟩ := hrows s.root (haside _ hsel (by simp [hnone])) rfl
    rw [hroot] at hbound
    rw [← Option.some.inj hbound] at hrow
    refine ⟨hrow, fun t ht _ _ hempty => ?_, [(s.root, some r)], ?_, fun t ht => ?_⟩
    · obtain ⟨row, hrow, -⟩ := hrows t (haside _ ht (by simp [hnone])) rfl
      rw [hempty] at hrow
      cases hrow
    · rw [relations_eq_nil_iff.mpr hj]
      rfl
    · have htr : t = s.root := by
        simpa [lookup_single] using ht
      rw [htr, hroot, Binding.row?_cons_self]
  · have hjoined : s.joinedTables = s.root :: s.relations.map (·.target) := by simp [joinedTables, hj]
    have hbindings : s.bindings db = s.aside.foldl (cross db) (s.joinedBindings db) := by simp [bindings, aside, hj]
    obtain ⟨start, hstart, ⟨rest, hrest⟩, hrows⟩ := of_mem_cross (hbindings ▸ h)
    obtain ⟨first, hfirst, hjn⟩ := mem_extendAll.mp hstart
    obtain ⟨x, hx, rfl⟩ := List.mem_map.mp hfirst
    have hagree : ∀ t, (start.lookup t).isSome = true → bound.row? t = start.row? t :=
      fun t ht => hrest ▸ Binding.row?_append ht rest
    have hstartroot : (start.lookup s.root).isSome = true := (lookup_isSome_of_joined hjn).mpr (Or.inl (by simp))
    rw [hagree _ hstartroot, row?_root_of_joined hjn] at hroot
    rw [Option.some.inj hroot] at hx hjn
    refine ⟨hx, fun t ht hne hnt hempty => ?_, start, hjn, hagree⟩
    have hlook : start.lookup t = none := by
      rw [← Option.not_isSome_iff_eq_none, lookup_isSome_of_joined hjn, lookup_single, decide_eq_true_eq]
      exact not_or.mpr ⟨hne, hnt⟩
    obtain ⟨row, hrow, -⟩ := hrows t (haside _ ht (by rw [hjoined]; simpa [hne] using hnt)) hlook
    rw [hempty] at hrow
    cases hrow

/-- A full combination of joined rows is part of a combination of the statement when no table beside the joined ones is
empty. -/
theorem exists_mem_bindings (hsel : s.root ∈ s.projection.tables) (hr : r ∈ db.rows s.root)
    (haside : ∀ t ∈ s.aside, t ≠ s.root → db.rows t ≠ []) {start : Binding}
    (hj : Joined db s.relations [(s.root, some r)] start) :
    ∃ bound ∈ s.bindings db, ∀ t, (start.lookup t).isSome = true → bound.row? t = start.row? t := by
  have hchoice : ∀ t, ∃ row, t ∈ s.aside → (t = s.root → row = r) ∧ row ∈ db.rows t := by
    intro t
    by_cases ht : t = s.root
    · exact ⟨r, fun _ => ⟨fun _ => rfl, ht ▸ hr⟩⟩
    · by_cases hmem : t ∈ s.aside
      · obtain ⟨row, hrow⟩ := List.exists_mem_of_ne_nil _ (haside t hmem ht)
        exact ⟨row, fun _ => ⟨fun h => absurd h ht, hrow⟩⟩
      · exact ⟨r, fun h => absurd h hmem⟩
  choose f hf using hchoice
  have hrows : ∀ t ∈ s.aside, f t ∈ db.rows t := fun t ht => (hf t ht).2
  by_cases hjoins : s.joins = []
  · have hbindings : s.bindings db = s.aside.foldl (cross db) [[]] := by simp [bindings, aside, hjoins]
    have hroot : s.root ∈ s.aside := mem_aside.mpr ⟨Or.inl hsel, by simp [joinedTables, hjoins]⟩
    rw [relations_eq_nil_iff.mpr hjoins] at hj
    rw [show start = [(s.root, some r)] from hj]
    refine ⟨_, hbindings ▸ append_mem_cross hrows (List.mem_singleton_self []), fun t ht => ?_⟩
    have htr : t = s.root := by simpa [lookup_single] using ht
    rw [htr, List.nil_append, row?_map_some hroot, (hf _ hroot).1 rfl, Binding.row?_cons_self]
  · have hbindings : s.bindings db = s.aside.foldl (cross db) (s.joinedBindings db) := by
      simp [bindings, aside, hjoins]
    have hstart : start ∈ s.joinedBindings db := mem_extendAll.mpr ⟨_, List.mem_map_of_mem hr, hj⟩
    exact ⟨_, hbindings ▸ append_mem_cross hrows hstart, fun t ht => Binding.row?_append ht _⟩

/-! ## Statements with conditions on joined tables -/

/-- Whether a statement sets no limit and has conditions on its root and the tables it has joined only. -/
structure IsScope (s : Select) : Prop where
  limit : s.limit = none
  tables : ∀ name ∈ Clause.tablesOf s.conditions, name ∈ (s.root :: s.relations.map (·.target)).map Table.name

/-- Whether a scope selects from its root. -/
structure IsRooted (s : Select) : Prop extends s.IsScope where
  selected : s.root ∈ s.projection.tables

/-- The tables beside the joined ones are those selected from, when the conditions mention joined tables only. -/
theorem IsRooted.mem_aside_iff (h : s.IsRooted) {t : Table} (ht : t ≠ s.root) :
    t ∈ s.aside ↔ t ∈ s.projection.tables ∧ t ∉ s.relations.map (·.target) := by
  have hjoined : t ∉ s.joinedTables ↔ t ∉ s.relations.map (·.target) := by
    unfold joinedTables
    split
    · rename_i hj
      simp [relations_eq_nil_iff.mpr (List.isEmpty_iff.mp hj)]
    · simp [ht]
  rw [mem_aside, hjoined]
  refine and_congr_left fun hnt => or_iff_left fun hmem => ?_
  obtain ⟨u, hu, hname⟩ := List.mem_map.mp (h.tables _ hmem)
  rw [Table.name_injective hname, List.mem_cons] at hu
  exact hu.elim ht hnt

/-- What a combination is worth to the conditions of a statement depends on its joined rows only. -/
theorem IsRooted.passes_congr (h : s.IsRooted) {start bound : Binding}
    (hj : Joined db s.relations [(s.root, some r)] start)
    (hagree : ∀ t, (start.lookup t).isSome = true → bound.row? t = start.row? t) {c : Clause} (hc : c ∈ s.conditions) :
    c.passes b bound.contents = c.passes b start.contents := by
  refine Clause.passes_congr fun name hname => ?_
  obtain ⟨t, ht, rfl⟩ := List.mem_map.mp (h.tables name (Clause.mem_tablesOf.mpr ⟨c, hc, hname⟩))
  have hlook : (start.lookup t).isSome = true := by
    rw [lookup_isSome_of_joined hj, lookup_single, decide_eq_true_eq]
    exact List.mem_cons.mp ht
  rw [Binding.contents_name, Binding.contents_name, hagree t hlook]

/-- A statement with conditions on joined tables selects the rows of its root that some full combination of joined rows lets
through, unless it selects from an empty table beside them. -/
theorem mem_run_iff (h : s.IsRooted) :
    r ∈ s.run b db ↔ r ∈ db.rows s.root ∧ HasRowsAside db s ∧ ∃ start,
      Joined db s.relations [(s.root, some r)] start ∧ ∀ c ∈ s.conditions, c.passes b start.contents = true := by
  rw [mem_run_of_no_limit h.limit]
  constructor
  · rintro ⟨bound, hbound, hadmits, hroot⟩
    obtain ⟨hr, haside, start, hj, hagree⟩ := of_mem_bindings h.selected hbound hroot
    refine ⟨hr, haside, start, hj, fun c hc => ?_⟩
    rw [← h.passes_congr hj hagree hc]
    exact admits_eq_true.mp hadmits c hc
  · rintro ⟨hr, haside, start, hj, hpass⟩
    have hrows : ∀ t ∈ s.aside, t ≠ s.root → db.rows t ≠ [] := by
      intro t ht hne
      obtain ⟨hmem, hnt⟩ := (h.mem_aside_iff hne).mp ht
      exact haside t hmem hne hnt
    obtain ⟨bound, hbound, hagree⟩ := exists_mem_bindings h.selected hr hrows hj
    refine ⟨bound, hbound, admits_eq_true.mpr fun c hc => ?_, ?_⟩
    · rw [h.passes_congr hj hagree hc]
      exact hpass c hc
    · rw [hagree _ ((lookup_isSome_of_joined hj).mpr (Or.inl (by simp))), row?_root_of_joined hj]

end Select

end EntitySearch
