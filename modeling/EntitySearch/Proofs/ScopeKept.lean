import EntitySearch.Proofs.Combination
import EntitySearch.Proofs.Narrowing

/-!
# Searches keep to the scope they are given

How each step of a search changes the rows that a statement selects. A condition takes rows away, whatever tables it mentions
(`Select.mem_run_of_filter`). An outer join neither takes a row of the root away nor brings one in, unless it joins a table that
the statement selects from beside its joins (`Select.mem_run_addJoin`), and dropping repeated rows leaves the set of rows as it
is. A search therefore ends in a statement that selects some of the rows it was given, and all of them when there is nothing to
test (`search_narrows`).
-/

namespace EntitySearch

namespace Select

variable {b : Backend} {db : Database} {s s' s'' : Select} {r : Row}

/-! ## What steps leave in place -/

/-- Whether a statement becomes another one by more joins and more conditions. -/
structure GrowsInto (s s' : Select) : Prop where
  projection : s'.projection = s.projection
  root : s'.root = s.root
  limit : s'.limit = s.limit
  joins : s.joins <+: s'.joins
  conditions : s.conditions <+: s'.conditions

theorem GrowsInto.refl (s : Select) : s.GrowsInto s := ⟨rfl, rfl, rfl, List.prefix_rfl, List.prefix_rfl⟩

theorem GrowsInto.trans (h : s.GrowsInto s') (h' : s'.GrowsInto s'') : s.GrowsInto s'' :=
  ⟨h'.projection.trans h.projection, h'.root.trans h.root, h'.limit.trans h.limit, h.joins.trans h'.joins,
    h.conditions.trans h'.conditions⟩

/-- A statement grows by a join. -/
theorem growsInto_addJoin (s : Select) (path : String) (rel : Relation) : s.GrowsInto (s.addJoin path rel) := by
  unfold addJoin
  split
  · exact .refl s
  · exact ⟨rfl, rfl, rfl, List.prefix_append _ _, List.prefix_rfl⟩

theorem growsInto_walk {full : String} {t : Table} {walked : List Char} {names : List (List Char)}
    (h : walk full s t walked names = .ok s') : s.GrowsInto s' := by
  induction names generalizing s t walked with
  | nil =>
    rw [← Except.ok.inj h]
    exact .refl s
  | cons name names ih =>
    rw [walk] at h
    split at h
    · cases h
    · exact (growsInto_addJoin s _ _).trans (ih h)

/-- A statement grows by conditions. -/
theorem growsInto_narrowedBy (s : Select) (cs : List Clause) : s.GrowsInto (s.narrowedBy cs) := by
  unfold narrowedBy
  split
  · exact .refl s
  · exact ⟨rfl, rfl, rfl, List.prefix_rfl, List.prefix_append _ _⟩

/-! ## Conditions -/

/-- A statement that is given one more condition selects no more rows, whatever the condition mentions: further tables only
multiply the combinations. -/
theorem mem_run_of_filter (h : s.IsRooted) {c : Clause} (hr : r ∈ (s.filter c).run b db) : r ∈ s.run b db := by
  obtain ⟨bound, hbound, hadmits, hroot⟩ := (mem_run_of_no_limit (s := s.filter c) h.limit).mp hr
  obtain ⟨hrow, haside, start, hj, hagree⟩ := of_mem_bindings (s := s.filter c) h.selected hbound hroot
  refine (mem_run_iff h).mpr ⟨hrow, haside, start, hj, fun d hd => ?_⟩
  rw [← h.passes_congr hj hagree hd]
  exact admits_eq_true.mp hadmits d (List.mem_append_left _ hd)

/-- A narrowed statement selects rows of the statement. -/
theorem mem_run_of_narrowedBy (h : s.IsRooted) {cs : List Clause} (hr : r ∈ (s.narrowedBy cs).run b db) :
    r ∈ s.run b db := by
  unfold narrowedBy at hr
  split at hr
  · exact hr
  · exact mem_run_of_filter h hr

/-! ## Joins -/

/-- A join follows a relationship that the statement follows already, or one more. -/
theorem relations_addJoin (s : Select) (path : String) (rel : Relation) :
    (s.addJoin path rel).relations = s.relations ∨ (s.addJoin path rel).relations = s.relations ++ [rel] := by
  unfold addJoin
  split
  · exact Or.inl rfl
  · rw [relations, List.map_append, List.eraseDups_append, List.removeAll, List.map_singleton, List.filter_singleton]
    cases (!List.elem rel (s.joins.map (·.relation)))
    · exact Or.inl (List.append_nil _)
    · exact Or.inr rfl

/-- A join leaves the root in its place. -/
theorem IsRooted.addJoin (h : s.IsRooted) (path : String) (rel : Relation) : (s.addJoin path rel).IsRooted := by
  have hgrow := growsInto_addJoin s path rel
  have hconditions : (s.addJoin path rel).conditions = s.conditions := by
    unfold Select.addJoin
    split <;> rfl
  refine ⟨⟨hgrow.limit.trans h.limit, fun name hname => ?_⟩, ?_⟩
  · rw [hconditions] at hname
    rw [hgrow.root]
    rcases relations_addJoin s path rel with hrel | hrel
    · rw [hrel]
      exact h.tables name hname
    · rw [hrel, List.map_append, ← List.cons_append, List.map_append]
      exact List.mem_append_left _ (h.tables name hname)
  · rw [hgrow.root, hgrow.projection]
    exact h.selected

/-- An outer join of a table that the statement does not select from beside its joins leaves the selected rows of the root as
they are. -/
theorem mem_run_addJoin (h : s.IsRooted) {path : String} {rel : Relation} (hrel : rel.target ∉ s.projection.tables) :
    r ∈ (s.addJoin path rel).run b db ↔ r ∈ s.run b db := by
  have hgrow := growsInto_addJoin s path rel
  have hconditions : (s.addJoin path rel).conditions = s.conditions := by
    unfold Select.addJoin
    split <;> rfl
  rw [mem_run_iff (h.addJoin path rel), mem_run_iff h, HasRowsAside, hgrow.root, hgrow.projection, hconditions]
  refine and_congr_right fun _ => ?_
  rcases relations_addJoin s path rel with heq | heq
  · rw [heq, HasRowsAside]
  · rw [heq]
    refine and_congr ?_ ?_
    · refine forall₂_congr fun t ht => forall_congr' fun _ => ?_
      have hne : t ≠ rel.target := fun he => hrel (he ▸ ht)
      simp [hne]
    · constructor
      · rintro ⟨bound, hj, hpass⟩
        obtain ⟨start, hstart, o, -, rfl⟩ := joined_append.mp hj
        have hagree : ∀ t, (start.lookup t).isSome = true → Binding.row? (start ++ [(rel.target, o)]) t = start.row? t :=
          fun t ht => Binding.row?_append ht _
        refine ⟨start, hstart, fun c hc => ?_⟩
        rw [← h.passes_congr hstart hagree hc]
        exact hpass c hc
      · rintro ⟨start, hstart, hpass⟩
        -- The row that is joined may be missing: the combination goes on in any case.
        obtain ⟨o, ho⟩ := exists_pairs db rel (start.row? rel.source)
        have hagree : ∀ t, (start.lookup t).isSome = true → Binding.row? (start ++ [(rel.target, o)]) t = start.row? t :=
          fun t ht => Binding.row?_append ht _
        refine ⟨_, joined_append.mpr ⟨start, hstart, o, ho, rfl⟩, fun c hc => ?_⟩
        rw [h.passes_congr hstart hagree hc]
        exact hpass c hc

/-- Whether no join of a statement, apart from those of another, joins a table that the other selects from. -/
def JoinsAside (s s' : Select) : Prop := ∀ j ∈ s'.joins, j ∈ s.joins ∨ j.relation.target ∉ s.projection.tables

/-- Whether a statement has become another one that selects the same rows of the root from every database. -/
structure Keeps (s s' : Select) : Prop where
  rooted : s'.IsRooted
  mem_run : ∀ (b : Backend) (db : Database) (r : Row), r ∈ s'.run b db ↔ r ∈ s.run b db

theorem Keeps.trans (h : s.Keeps s') (h' : s'.Keeps s'') : s.Keeps s'' :=
  ⟨h'.rooted, fun b db r => (h'.mem_run b db r).trans (h.mem_run b db r)⟩

/-- A join aside keeps the rows of the root. -/
theorem keeps_addJoin (h : s.IsRooted) {path : String} {rel : Relation} (hjoins : s.JoinsAside (s.addJoin path rel)) :
    s.Keeps (s.addJoin path rel) := by
  refine ⟨h.addJoin path rel, fun b db r => ?_⟩
  by_cases hpath : s.joinedPaths.contains path = true
  · rw [addJoin, if_pos hpath]
  · have hnew : (⟨path, rel⟩ : Join) ∈ (s.addJoin path rel).joins := by
      rw [addJoin, if_neg hpath]
      exact List.mem_append_right _ (List.mem_singleton_self _)
    refine mem_run_addJoin h ((hjoins _ hnew).resolve_left fun hold => ?_)
    exact hpath (by simpa [joinedPaths] using ⟨_, hold, rfl⟩)

/-- The joins along a path leave the selected rows of the root as they are. -/
theorem keeps_walk {full : String} {t : Table} {walked : List Char} {names : List (List Char)} (h : s.IsRooted)
    (hwalk : walk full s t walked names = .ok s') (hjoins : s.JoinsAside s') : s.Keeps s' := by
  induction names generalizing s t walked with
  | nil =>
    rw [← Except.ok.inj hwalk]
    exact ⟨h, fun _ _ _ => Iff.rfl⟩
  | cons name names ih =>
    rw [walk] at hwalk
    split at hwalk
    · cases hwalk
    · rename_i rel _
      have hgrow := growsInto_walk hwalk
      have hfirst : s.Keeps (s.addJoin (String.ofList (walked ++ name)) rel) :=
        keeps_addJoin h fun j hj => hjoins j (hgrow.joins.subset hj)
      refine hfirst.trans (ih hfirst.rooted hwalk fun j hj => ?_)
      rw [(growsInto_addJoin s _ _).projection]
      exact (hjoins j hj).imp_left fun hold => (growsInto_addJoin s _ _).joins.subset hold

/-- Dropping repeated rows keeps the rows. -/
theorem keeps_dropRepeated (h : s.IsRooted) : s.Keeps s.dropRepeated := by
  refine ⟨⟨⟨h.limit, h.tables⟩, h.selected⟩, fun b db r => ?_⟩
  rw [mem_run_of_no_limit (s := s.dropRepeated) h.limit, mem_run_of_no_limit h.limit]
  exact Iff.rfl

/-! ## What a definition prepares -/

/-- The paths of a definition lead from a statement to a statement that has grown by joins. -/
theorem growsInto_performAll {ops : List Operation} (hops : ∀ o ∈ ops, o = .distinct ∨ ∃ path, o = .outerJoin path)
    {c : Collection} (h : (Collection.select s).performAll ops = .ok c) : ∃ s', c = .select s' ∧ s.GrowsInto s' := by
  induction ops generalizing s with
  | nil => exact ⟨s, (Except.ok.inj h).symm, .refl s⟩
  | cons o ops ih =>
    have hrest : ∀ o ∈ ops, o = .distinct ∨ ∃ path, o = .outerJoin path :=
      fun o ho => hops o (List.mem_cons_of_mem _ ho)
    rcases hops o List.mem_cons_self with rfl | ⟨path, rfl⟩
    · obtain ⟨s', hs', hgrow⟩ := ih (s := s.dropRepeated) hrest h
      exact ⟨s', hs', hgrow.projection, hgrow.root, hgrow.limit, hgrow.joins, hgrow.conditions⟩
    · rw [Collection.performAll, Collection.perform] at h
      cases hjoin : s.outerJoin path with
      | error e =>
        rw [hjoin] at h
        cases h
      | ok mid =>
        rw [hjoin] at h
        obtain ⟨s', hs', hgrow⟩ := ih hrest h
        exact ⟨s', hs', (growsInto_walk hjoin).trans hgrow⟩

/-- The paths of a definition leave the selected rows of the root as they are. -/
theorem keeps_performAll {ops : List Operation} (hops : ∀ o ∈ ops, o = .distinct ∨ ∃ path, o = .outerJoin path)
    (h : s.IsRooted) (hperform : (Collection.select s).performAll ops = .ok (.select s')) (hjoins : s.JoinsAside s') :
    s.Keeps s' := by
  induction ops generalizing s with
  | nil =>
    rw [← Collection.select.inj (Except.ok.inj hperform)]
    exact ⟨h, fun _ _ _ => Iff.rfl⟩
  | cons o ops ih =>
    have hrest : ∀ o ∈ ops, o = .distinct ∨ ∃ path, o = .outerJoin path :=
      fun o ho => hops o (List.mem_cons_of_mem _ ho)
    rcases hops o List.mem_cons_self with rfl | ⟨path, rfl⟩
    · have hfirst := keeps_dropRepeated h
      exact hfirst.trans (ih (s := s.dropRepeated) hrest hfirst.rooted hperform hjoins)
    · rw [Collection.performAll, Collection.perform] at hperform
      cases hjoin : s.outerJoin path with
      | error e =>
        rw [hjoin] at hperform
        cases hperform
      | ok mid =>
        rw [hjoin] at hperform
        obtain ⟨_, hs', hgrow⟩ := growsInto_performAll hrest hperform
        rw [← Collection.select.inj hs'] at hgrow
        have hfirst : s.Keeps mid := keeps_walk h hjoin fun j hj => hjoins j (hgrow.joins.subset hj)
        refine hfirst.trans (ih hrest hfirst.rooted hperform fun j hj => ?_)
        rw [(growsInto_walk hjoin).projection]
        exact (hjoins j hj).imp_left fun hold => (growsInto_walk hjoin).joins.subset hold

/-- The tables that a statement takes rows from: its root and the targets of its joins, each as often as a path visits it, and
the tables that it selects from beside them. -/
def taken (s : Select) : List Table :=
  let visited := s.root :: s.joins.map (·.relation.target)
  visited ++ (s.projection.tables.filter fun t => !visited.contains t).eraseDups

/-- A table that is selected from is taken. -/
theorem mem_taken_of_selected {t : Table} (h : t ∈ s.projection.tables) : t ∈ s.taken := by
  simp only [taken, List.mem_append, List.mem_eraseDups, List.mem_filter, Bool.not_eq_true', List.contains_eq_mem,
    decide_eq_false_iff_not]
  exact (Classical.em _).imp_right fun hnot => ⟨h, hnot⟩

end Select

namespace Definition

/-- Whether the paths of a definition, together with those of a statement, visit no table twice. -/
def VisitsOnce (d : Definition) (s : Select) : Prop :=
  ∀ prepared, (Collection.select s).performAll d.preparation = .ok (.select prepared) →
    (s.taken ++ (prepared.joins.drop s.joins.length).map (·.relation.target)).Nodup

/-- A definition prepares by joins, and by dropping repeated rows. -/
theorem preparation_joins (d : Definition) : ∀ o ∈ d.preparation, o = .distinct ∨ ∃ path, o = .outerJoin path := by
  intro o ho
  rcases List.mem_append.mp ho with ho | ho
  · obtain ⟨path, -, rfl⟩ := List.mem_map.mp ho
    exact Or.inr ⟨path, rfl⟩
  · split at ho
    · exact Or.inl (List.mem_singleton.mp ho)
    · cases ho

/-- What a definition prepares selects the rows that are selected without it. -/
theorem keeps_preparation {d : Definition} {s prepared : Select} (h : s.IsRooted) (hd : d.VisitsOnce s)
    (hprep : (Collection.select s).performAll d.preparation = .ok (.select prepared)) : s.Keeps prepared := by
  refine Select.keeps_performAll d.preparation_joins h hprep fun j hj => ?_
  obtain ⟨_, hs', hgrow⟩ := Select.growsInto_performAll d.preparation_joins hprep
  rw [← Collection.select.inj hs'] at hgrow
  obtain ⟨new, hnew⟩ := hgrow.joins
  have hnodup := hd prepared hprep
  rw [← hnew, List.drop_left] at hnodup
  rw [← hnew, List.mem_append] at hj
  refine hj.imp_right fun hj hsel => ?_
  exact (List.nodup_append.mp hnodup).2.2 _ (Select.mem_taken_of_selected hsel) _ (List.mem_map_of_mem hj) rfl

end Definition

/-! ## Searches -/

/-- The rows of the root that running a statement gives; none when it does not select from its root. -/
def Select.rootRows (b : Backend) (db : Database) (s : Select) : List Row :=
  if s.root ∈ s.projection.tables then s.run b db else []

variable {service : Service} {around : Surroundings} {request : SearchRequest} {s : Select} {n : Narrowed}

/-- Filtering a statement by predicates ends in a statement. -/
theorem Provider.filterByAny_select {ps : List Expr} {ops : List Operation}
    (h : Provider.filterByAny ps ⟨ops, .select s⟩ = .ok n) : ∃ found, n.collection = .select found := by
  unfold filterByAny at h
  split at h
  · rw [← Except.ok.inj h]
    exact ⟨s, rfl⟩
  · split at h
    · cases h
    · rw [← Except.ok.inj h]
      exact ⟨_, rfl⟩

/-- A search by the trigram provider that succeeds ends in what its definition prepares, narrowed by its predicates. -/
theorem Service.search_eq_ok_of_takes {d : Definition} (hcol : request.collection = .select s)
    (htakes : service.Takes around request d) (hread : service.Reads request)
    (h : (service.search around request).result = .ok n) :
    ∃ prepared cs, (Collection.select s).performAll d.preparation = .ok (.select prepared) ∧
      List.Forall₂ (fun p c => Clause.ofExpr Catalog.ofSchema p = .ok c)
        (d.conditions request.text (request.contextIn around)) cs ∧
      n.collection = .select (prepared.narrowedBy cs) := by
  have hresult := (result_search htakes hread).symm.trans h
  rw [Provider.applyTrigram, hcol] at hresult
  cases hprep : (Collection.select s).performAll d.preparation with
  | error e =>
    rw [hprep] at hresult
    cases hresult
  | ok c =>
    obtain ⟨prepared, rfl, -⟩ := Select.growsInto_performAll d.preparation_joins hprep
    rw [hprep] at hresult
    obtain ⟨found, hfound⟩ := Provider.filterByAny_select hresult
    have hstatement := SearchOutcome.statement?_eq_some h hfound
    obtain ⟨cs, hcs, rfl⟩ := (statement?_search_eq_some htakes hread (hcol ▸ hprep)).mp hstatement
    exact ⟨prepared, cs, rfl, hcs, hfound⟩

/-- A search over a statement that sets no limit and succeeds leaves the statement as it is, or ends in what its definition
prepares, narrowed by its predicates. -/
theorem Service.search_eq_ok (hcol : request.collection = .select s) (hlimit : request.limit = none)
    (h : (service.search around request).result = .ok n) :
    n.collection = .select s ∨ service.Reads request ∧ ∃ d prepared cs,
      service.registry.definitionFor request.entity = .ok d ∧
      (Collection.select s).performAll d.preparation = .ok (.select prepared) ∧
      List.Forall₂ (fun p c => Clause.ofExpr Catalog.ofSchema p = .ok c)
        (d.conditions request.text (request.contextIn around)) cs ∧
      n.collection = .select (prepared.narrowedBy cs) := by
  rcases blank_or_refuses_or_reads service request with hblank | hrefuse | hread
  · left
    rw [search, ParsedQuery.ofRaw_of_blank hblank] at h
    rw [← Except.ok.inj h]
    exact hcol
  · obtain ⟨hgiven, hne, hlen⟩ := hrefuse
    rw [search, ParsedQuery.ofRaw_of_exceeds hgiven hne hlen] at h
    cases h
  · obtain ⟨d, p, hd, hp, happly⟩ := found_of_search_eq_ok hread h
    cases p with
    | trigram =>
      obtain ⟨prepared, cs, hprep, hcs, hn⟩ := search_eq_ok_of_takes hcol ⟨hd, hp, hlimit⟩ hread h
      exact Or.inr ⟨hread, d, prepared, cs, hd, hprep, hcs, hn⟩
    | stub =>
      rw [hlimit] at happly
      rw [← Except.ok.inj happly]
      exact Or.inl hcol
    | echo =>
      rw [hcol] at happly
      cases happly

/-- What a definition prepares from a statement and narrows gives only rows of the root that the statement gives, and all of
them when nothing narrows it. -/
theorem Select.rootRows_narrowedBy {d : Definition} {prepared : Select} (cs : List Clause) (h : s.IsScope)
    (hd : d.VisitsOnce s) (hprep : (Collection.select s).performAll d.preparation = .ok (.select prepared))
    (b : Backend) (db : Database) (r : Row) :
    (r ∈ (prepared.narrowedBy cs).rootRows b db → r ∈ s.rootRows b db) ∧
      (cs = [] → (r ∈ (prepared.narrowedBy cs).rootRows b db ↔ r ∈ s.rootRows b db)) := by
  obtain ⟨_, hs', hgrow⟩ := growsInto_performAll d.preparation_joins hprep
  rw [← Collection.select.inj hs'] at hgrow
  have hall := hgrow.trans (growsInto_narrowedBy prepared cs)
  rw [rootRows, rootRows, hall.root, hall.projection]
  split
  · rename_i hsel
    have hkeeps : s.Keeps prepared := d.keeps_preparation ⟨h, hsel⟩ hd hprep
    refine ⟨fun hr => (hkeeps.mem_run b db r).mp (mem_run_of_narrowedBy hkeeps.rooted hr), ?_⟩
    rintro rfl
    exact hkeeps.mem_run b db r
  · exact ⟨id, fun _ => Iff.rfl⟩

/-- **A search only narrows.** Take a statement without a limit whose conditions mention its root and the tables it has joined,
and a search over it without a limit, by any definition whose paths, together with those of the statement, visit no table
twice. If the search succeeds, it ends in a statement that has all conditions of the first one and gives, from every database,
only rows of the root that the first one gives; it gives all of them when the query is blank or no rule yields a predicate. -/
theorem search_narrows (hcol : request.collection = .select s) (hscope : s.IsScope) (hlimit : request.limit = none)
    (hvisits : ∀ d, service.registry.definitionFor request.entity = .ok d → d.VisitsOnce s)
    (h : (service.search around request).result = .ok n) :
    ∃ found, n.collection = .select found ∧ s.conditions <+: found.conditions ∧
      ∀ (b : Backend) (db : Database),
        (∀ r, r ∈ found.rootRows b db → r ∈ s.rootRows b db) ∧
        ((request.query = .null ∨ request.text = []) ∨
          (∃ d, service.registry.definitionFor request.entity = .ok d ∧
            d.conditions request.text (request.contextIn around) = []) →
          ∀ r, r ∈ found.rootRows b db ↔ r ∈ s.rootRows b db) := by
  rcases Service.search_eq_ok hcol hlimit h with hn | ⟨hread, d, prepared, cs, hd, hprep, hcs, hn⟩
  · exact ⟨s, hn, List.prefix_rfl, fun _ _ => ⟨fun _ => id, fun _ _ => Iff.rfl⟩⟩
  · obtain ⟨_, hs', hgrow⟩ := Select.growsInto_performAll d.preparation_joins hprep
    rw [← Collection.select.inj hs'] at hgrow
    have hall := hgrow.trans (Select.growsInto_narrowedBy prepared cs)
    have hrows := Select.rootRows_narrowedBy cs hscope (hvisits d hd) hprep
    refine ⟨_, hn, hall.conditions, fun b db => ⟨fun r => (hrows b db r).1, fun hnothing r => (hrows b db r).2 ?_⟩⟩
    rcases hnothing with hblank | ⟨d', hd', hnone⟩
    · exact absurd hblank (not_or.mpr ⟨hread.given, hread.nonempty⟩)
    · rw [hd] at hd'
      rw [← Except.ok.inj hd'] at hnone
      rw [hnone] at hcs
      exact List.forall₂_nil_left_iff.mp hcs

/-- The listings with an owner whose contact belongs to the tenant alpha. -/
def Select.ownedInAlpha : Select where
  projection := .entity .listing
  root := .listing
  joins := [⟨"owners", .owners⟩, ⟨"owners.contact", .ownerContact⟩]
  conditions := [.equals (.column "contact" "tenant_id") (.text "alpha")]

/-- Listings by a rule on a table that no path leads to. -/
def Definition.byCategory : Definition where
  name := "ByCategory"
  entity := .listings
  joins := ["location", "owners.contact"]
  rules := [columnText "category" "title"]

/-- A request for listings of the tenant alpha by a definition of its own. -/
def SearchRequest.byCategory : SearchRequest where
  entity := .entity .listings
  collection := .select .ownedInAlpha
  query := .text "Flats"

/-- A service that knows this definition only. -/
def Service.byCategory : Service := ⟨{}, ⟨[.byCategory], by decide⟩⟩

/-- A search that shares joins with its scope and multiplies it by the rows of another table stays within it. -/
theorem ownedInAlpha_narrowed :
    Select.ownedInAlpha.IsScope ∧ Definition.byCategory.VisitsOnce .ownedInAlpha ∧
    ∃ n found, (Service.byCategory.search {} .byCategory).result = .ok n ∧
      n.collection = .select found ∧ Select.ownedInAlpha.conditions <+: found.conditions ∧
      ∀ b db r, r ∈ found.rootRows b db → r ∈ Select.ownedInAlpha.rootRows b db := by
  have hscope : Select.ownedInAlpha.IsScope := ⟨rfl, by decide⟩
  have hprep : (Collection.select .ownedInAlpha).performAll Definition.byCategory.preparation =
      .ok (.select { Select.ownedInAlpha with joins := Select.ownedInAlpha.joins ++ [⟨"location", .location⟩] }) := rfl
  have hvisits : Definition.byCategory.VisitsOnce .ownedInAlpha := by
    intro prepared h
    rw [hprep] at h
    rw [← Collection.select.inj (Except.ok.inj h)]
    decide
  have hdefinition : ∀ d, Service.byCategory.registry.definitionFor SearchRequest.byCategory.entity = .ok d →
      d.VisitsOnce .ownedInAlpha := by
    intro d hd
    rw [show d = .byCategory from (Except.ok.inj hd).symm]
    exact hvisits
  obtain ⟨n, hn⟩ : ∃ n, (Service.byCategory.search {} .byCategory).result = .ok n := ⟨_, rfl⟩
  obtain ⟨found, hfound, hconditions, hrows⟩ := search_narrows rfl hscope rfl hdefinition hn
  exact ⟨hscope, hvisits, n, found, hn, hfound, hconditions, fun b db => (hrows b db).1⟩

end EntitySearch
