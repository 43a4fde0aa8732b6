import EntitySearch.Proofs.Stages
import EntitySearch.Select.Text

/-!
# What a statement remembers of the paths it joins

A path visits each of its starts: the part before each of its dots, and then the whole (`mem_pathStarts`). A statement remembers
the starts of the paths it was asked to join, each once and in the order of first visits, and for each of them the relationship
that it ends in (`Select.Remembers`): a walk along a path keeps this (`Remembers.walk`), and so does a run of operations
(`HasJoined.performAll`). What is remembered therefore does not depend on the order of the requests (`HasJoined.perm`). A
relationship that several starts end in is written once all the same (`joined_paths_are_kept`,
`revisited_relation_is_written_once`).
-/

namespace EntitySearch

/-! ## Starts of paths -/

/-- Whether a path is a start of another one: the whole of it, or what stands before one of its dots. -/
def IsPathStart (start path : String) : Prop := start = path ∨ start.toList ++ ['.'] <+: path.toList

/-- The paths that segments visit one after the other, behind the part of a path walked so far. -/
def visits (walked : List Char) : List (List Char) → List String
  | [] => []
  | name :: names => String.ofList (walked ++ name) :: visits (walked ++ name ++ ['.']) names

/-- The starts of a path, the shortest first. -/
def pathStarts (path : String) : List String := visits [] (pathSegments path.toList)

section

variable {cs ds walked : List Char} {c : Char}

/-- A character that is no dot goes to the first segment of what follows. -/
theorem exists_pathSegments_cons (h : c ≠ '.') (cs : List Char) :
    ∃ name names, pathSegments cs = name :: names ∧ pathSegments (c :: cs) = (c :: name) :: names := by
  cases hcs : pathSegments cs with
  | nil =>
    cases cs with
    | nil => simp [pathSegments] at hcs
    | cons d ds =>
      rw [pathSegments] at hcs
      split at hcs
      · cases hcs
      · split at hcs <;> nomatch hcs
  | cons name names => exact ⟨name, names, rfl, by rw [pathSegments, if_neg h, hcs]⟩

theorem pathSegments_dot (cs : List Char) : pathSegments ('.' :: cs) = [] :: pathSegments cs := by
  rw [pathSegments, if_pos rfl]

/-- A dot ends a segment. -/
theorem pathSegments_append_dot (cs ds : List Char) :
    pathSegments (cs ++ '.' :: ds) = pathSegments cs ++ pathSegments ds := by
  induction cs with
  | nil => rw [List.nil_append, pathSegments_dot, pathSegments, List.singleton_append]
  | cons c cs ih =>
    by_cases h : c = '.'
    · rw [h, List.cons_append, pathSegments_dot, ih, pathSegments_dot, List.cons_append]
    · obtain ⟨name, names, hcs, hcons⟩ := exists_pathSegments_cons h cs
      rw [hcs, List.cons_append] at ih
      rw [List.cons_append, pathSegments, if_neg h, ih, hcons, List.cons_append]

/-- A text without dots is its only segment. -/
theorem pathSegments_of_notMem (h : '.' ∉ cs) : pathSegments cs = [cs] := by
  induction cs with
  | nil => rfl
  | cons c cs ih =>
    rw [List.mem_cons, not_or] at h
    rw [pathSegments, if_neg (Ne.symm h.1), ih h.2]

/-- No segment has a dot in it. -/
theorem dot_notMem_of_mem_pathSegments {name : List Char} (h : name ∈ pathSegments cs) : '.' ∉ name := by
  induction cs generalizing name with
  | nil =>
    rw [pathSegments, List.mem_singleton] at h
    exact h ▸ List.not_mem_nil
  | cons c cs ih =>
    by_cases hc : c = '.'
    · rw [hc, pathSegments_dot] at h
      rcases List.mem_cons.mp h with rfl | h
      · exact List.not_mem_nil
      · exact ih h
    · obtain ⟨first, names, hcs, hcons⟩ := exists_pathSegments_cons hc cs
      rw [hcs] at ih
      rw [hcons] at h
      rcases List.mem_cons.mp h with rfl | h
      · rw [List.mem_cons, not_or]
        exact ⟨Ne.symm hc, ih List.mem_cons_self⟩
      · exact ih (List.mem_cons_of_mem _ h)

/-- The empty text is a start of a text when that begins with a dot. -/
theorem nil_starts_cons : ([] = c :: cs ∨ [] ++ ['.'] <+: c :: cs) ↔ c = '.' := by
  simp [List.cons_prefix_cons, eq_comm]

theorem cons_starts_cons {d : Char} : (d :: ds = c :: cs ∨ d :: ds ++ ['.'] <+: c :: cs) ↔
    d = c ∧ (ds = cs ∨ ds ++ ['.'] <+: cs) := by
  rw [List.cons_append, List.cons_prefix_cons, List.cons.injEq, and_or_left]

/-- The segments of a text visit what is walked so far when the text begins with a dot, and then what the segments behind its
first character visit. -/
theorem mem_visits_cons {p : String} : p ∈ visits walked (pathSegments (c :: cs)) ↔
    c = '.' ∧ p = String.ofList walked ∨ p ∈ visits (walked ++ [c]) (pathSegments cs) := by
  by_cases hc : c = '.'
  · rw [hc, pathSegments_dot, visits, List.mem_cons, List.append_nil]
    simp only [true_and]
  · obtain ⟨name, names, hcs, hcons⟩ := exists_pathSegments_cons hc cs
    rw [hcs, hcons, visits, visits, List.append_assoc walked [c], List.singleton_append]
    simp only [hc, false_and, false_or]

/-- Segments visit the starts of their text. -/
theorem mem_visits {p : String} : p ∈ visits walked (pathSegments cs) ↔
    ∃ ds, p = String.ofList (walked ++ ds) ∧ (ds = cs ∨ ds ++ ['.'] <+: cs) := by
  induction cs generalizing walked with
  | nil => simp [pathSegments, visits]
  | cons c cs ih =>
    rw [mem_visits_cons, ih]
    constructor
    · rintro (⟨hc, rfl⟩ | ⟨ds, rfl, hds⟩)
      · exact ⟨[], by rw [List.append_nil], nil_starts_cons.mpr hc⟩
      · exact ⟨c :: ds, by rw [List.append_assoc, List.singleton_append], cons_starts_cons.mpr ⟨rfl, hds⟩⟩
    · rintro ⟨ds, rfl, hds⟩
      cases ds with
      | nil => exact .inl ⟨nil_starts_cons.mp hds, by rw [List.append_nil]⟩
      | cons d ds =>
        obtain ⟨rfl, hrest⟩ := cons_starts_cons.mp hds
        exact .inr ⟨ds, by rw [List.append_assoc, List.singleton_append], hrest⟩

/-- The starts of a path are the paths that it goes on from, and itself. -/
theorem mem_pathStarts {p path : String} : p ∈ pathStarts path ↔ IsPathStart p path := by
  rw [pathStarts, mem_visits, IsPathStart]
  constructor
  · rintro ⟨ds, rfl, hds⟩
    rw [List.nil_append, String.toList_ofList]
    exact hds.imp_left fun h => by rw [h, String.ofList_toList]
  · intro h
    exact ⟨p.toList, by rw [List.nil_append, String.ofList_toList], h.imp_left (congrArg String.toList)⟩

end

theorem IsPathStart.refl (path : String) : IsPathStart path path := .inl rfl

/-- A start of a start is a start. -/
theorem IsPathStart.trans {p q path : String} (h : IsPathStart p q) (h' : IsPathStart q path) : IsPathStart p path := by
  rcases h with rfl | h
  · exact h'
  · rcases h' with rfl | h'
    · exact .inr h
    · exact .inr (h.trans ((List.prefix_append _ _).trans h'))

/-! ## Where paths end -/

namespace Table

/-- Whether a path leads from a table along relationships, the last of which is the one given. -/
def Ends (t : Table) (path : String) (r : Relation) : Prop := ∃ names name u,
  pathSegments path.toList = names ++ [name] ∧ t.Leads names u ∧ u.relation? (String.ofList name) = some r

variable {t u v : Table} {names : List (List Char)}

/-- Segments lead from a table to one table at most. -/
theorem Leads.unique (h : t.Leads names u) (h' : t.Leads names v) : u = v := by
  induction h with
  | here t =>
    cases h'
    rfl
  | along hr _ ih =>
    cases h' with
    | along hr' h' =>
      rw [hr, Option.some.injEq] at hr'
      exact ih (hr' ▸ h')

/-- One more segment leads on to the target of its relationship. -/
theorem Leads.concat (h : t.Leads names u) {name : List Char} {r : Relation}
    (hr : u.relation? (String.ofList name) = some r) : t.Leads (names ++ [name]) r.target := by
  induction h with
  | here t => exact .along hr (.here _)
  | along hfirst _ ih => exact .along hfirst (ih hr)

/-- A path ends with one relationship at most. -/
theorem Ends.unique {path : String} {r r' : Relation} (h : t.Ends path r) (h' : t.Ends path r') : r = r' := by
  obtain ⟨names, name, u, hcut, hleads, hr⟩ := h
  obtain ⟨names', name', u', hcut', hleads', hr'⟩ := h'
  obtain ⟨rfl, hname⟩ := List.append_inj' (hcut.symm.trans hcut') rfl
  rw [hleads.unique hleads', List.singleton_inj.mp hname, hr', Option.some.injEq] at hr
  exact hr.symm

/-- A path that ends with a relationship leads somewhere. -/
theorem Ends.hasPath {path : String} {r : Relation} (h : t.Ends path r) : t.HasPath path := by
  obtain ⟨names, name, u, hcut, hleads, hr⟩ := h
  exact ⟨r.target, hcut ▸ hleads.concat hr⟩

end Table

/-! ## What is remembered -/

theorem eraseDups_concat {α : Type} [DecidableEq α] (l : List α) (a : α) :
    (l ++ [a]).eraseDups = l.eraseDups ++ if a ∈ l then [] else [a] := by
  rw [List.eraseDups_append, List.removeAll, List.filter_singleton, List.elem_eq_contains, List.contains_eq_mem]
  by_cases h : a ∈ l
  · simp [h]
  · simp [h, List.eraseDups_cons]

/-- Whether each path of a list stands behind its other starts. -/
def StartsFirst (paths : List String) : Prop := ∀ before q after, paths = before ++ q :: after →
  ∀ p, IsPathStart p q → p ≠ q → p ∈ before

/-- A path may come last when all its starts have come before. -/
theorem StartsFirst.concat {paths : List String} {path : String} (h : StartsFirst paths)
    (hpath : ∀ p, IsPathStart p path → p ≠ path → p ∈ paths) : StartsFirst (paths ++ [path]) := by
  intro before q after hsplit
  rcases List.eq_nil_or_concat' after with rfl | ⟨init, last, rfl⟩
  · obtain ⟨rfl, hq⟩ := List.append_inj' hsplit rfl
    rw [← List.singleton_inj.mp hq]
    exact hpath
  · rw [← List.cons_append, ← List.append_assoc] at hsplit
    obtain ⟨rfl, -⟩ := List.append_inj' hsplit rfl
    exact h before q init rfl

/-- The paths that operations ask to join, in order. -/
def Operation.paths (ops : List Operation) : List String := ops.filterMap fun
  | .outerJoin path => some path
  | _ => none

theorem Operation.paths_append (ops os : List Operation) : paths (ops ++ os) = paths ops ++ paths os :=
  List.filterMap_append

namespace Select

/-- Whether the joins of a statement are what visits of paths leave behind: one join for each path visited, in the order of first
visits and behind those of its starts, along the relationship that the path ends in. -/
structure Remembers (s : Select) (visited : List String) : Prop where
  joinedPaths : s.joinedPaths = visited.eraseDups
  startsFirst : StartsFirst s.joinedPaths
  ends : ∀ j ∈ s.joins, s.root.Ends j.path j.relation

/-- Whether a part of a path has been walked from the root of a statement: it has come to a table and stands behind a dot, and
what stands before each of its dots is joined. -/
structure HasWalked (s : Select) (walked : List Char) (t : Table) : Prop where
  leads : ∃ names, s.root.Leads names t ∧ ∀ cs, pathSegments (walked ++ cs) = names ++ pathSegments cs
  joined : ∀ p : String, p.toList ++ ['.'] <+: walked → p ∈ s.joinedPaths

variable {s s' : Select} {visited : List String} {path full : String} {r : Relation} {t : Table} {walked name : List Char}
  {names : List (List Char)}

/-- A join brings in no other join than itself. -/
theorem mem_joins_addJoin {j : Join} (h : j ∈ (s.addJoin path r).joins) : j ∈ s.joins ∨ j = ⟨path, r⟩ := by
  unfold addJoin at h
  split at h
  · exact .inl h
  · rwa [List.mem_append, List.mem_singleton] at h

/-- A join adds its path when that is not joined yet. -/
theorem joinedPaths_addJoin (s : Select) (path : String) (r : Relation) :
    (s.addJoin path r).joinedPaths = s.joinedPaths ++ if path ∈ s.joinedPaths then [] else [path] := by
  rw [addJoin, List.contains_eq_mem]
  by_cases h : path ∈ s.joinedPaths
  · simp [h]
  · rw [if_neg (by simpa using h), if_neg h, joinedPaths, List.map_append, joinedPaths, List.map_singleton]

/-- A text that ends in a dot and starts another one lies before the last segment of that. -/
theorem prefix_of_dot_notMem {cs ds : List Char} (h : cs ++ ['.'] <+: walked ++ ds) (hds : '.' ∉ ds) :
    cs ++ ['.'] <+: walked := by
  rcases List.prefix_or_prefix_of_prefix h (List.prefix_append walked ds) with h' | ⟨rest, hrest⟩
  · exact h'
  · rw [← hrest, List.prefix_append_right_inj] at h
    rcases List.eq_nil_or_concat' rest with rfl | ⟨init, last, rfl⟩
    · have hsame : cs ++ ['.'] = walked := hrest.symm.trans (List.append_nil walked)
      exact hsame ▸ List.prefix_rfl
    · rw [← List.append_assoc] at hrest
      obtain ⟨-, hlast⟩ := List.append_inj' hrest rfl
      have hmem : last ∈ ds := h.subset (List.mem_append_right _ (List.mem_singleton_self last))
      exact absurd (List.singleton_inj.mp hlast ▸ hmem) hds

/-- A walk that goes on by one segment has joined what it has come to. -/
theorem HasWalked.addJoin (h : s.HasWalked walked t) (hname : '.' ∉ name) (hr : t.relation? (String.ofList name) = some r) :
    (s.addJoin (String.ofList (walked ++ name)) r).HasWalked (walked ++ name ++ ['.']) r.target := by
  obtain ⟨names, hleads, hcut⟩ := h.leads
  refine ⟨⟨names ++ [name], ?_, fun cs => ?_⟩, fun p hp => ?_⟩
  · rw [(growsInto_addJoin s _ r).root]
    exact hleads.concat hr
  · rw [List.append_assoc, List.singleton_append, List.append_assoc, hcut, pathSegments_append_dot,
      pathSegments_of_notMem hname, List.append_assoc]
  · rw [joinedPaths_addJoin, List.mem_append]
    rcases List.prefix_concat_iff.mp hp with hp | hp
    · obtain ⟨hp, -⟩ := List.append_inj' hp rfl
      have hpath : p = String.ofList (walked ++ name) := by rw [← hp, String.ofList_toList]
      rw [hpath]
      by_cases hmem : String.ofList (walked ++ name) ∈ s.joinedPaths
      · exact .inl hmem
      · exact .inr (by rw [if_neg hmem]; exact List.mem_singleton_self _)
    · exact .inl (h.joined p (prefix_of_dot_notMem hp hname))

/-- A walk that goes on by one segment leaves one more visit behind. -/
theorem Remembers.addJoin (h : s.Remembers visited) (hw : s.HasWalked walked t) (hname : '.' ∉ name)
    (hr : t.relation? (String.ofList name) = some r) :
    (s.addJoin (String.ofList (walked ++ name)) r).Remembers (visited ++ [String.ofList (walked ++ name)]) := by
  have hpaths := s.joinedPaths_addJoin (String.ofList (walked ++ name)) r
  refine ⟨?_, ?_, fun j hj => ?_⟩
  · rw [hpaths, eraseDups_concat, h.joinedPaths]
    simp only [List.mem_eraseDups]
  · rw [hpaths]
    split
    · rw [List.append_nil]
      exact h.startsFirst
    · refine h.startsFirst.concat fun p hp hne => ?_
      have hdot := hp.resolve_left hne
      rw [String.toList_ofList] at hdot
      exact hw.joined p (prefix_of_dot_notMem hdot hname)
  · rw [(growsInto_addJoin s _ r).root]
    rcases mem_joins_addJoin hj with hj | rfl
    · exact h.ends j hj
    · obtain ⟨names, hleads, hcut⟩ := hw.leads
      refine ⟨names, name, t, ?_, hleads, hr⟩
      rw [String.toList_ofList, hcut, pathSegments_of_notMem hname]

/-- A walk along segments leaves what they visit behind. -/
theorem Remembers.walk (h : s.Remembers visited) (hw : s.HasWalked walked t) (hnames : ∀ name ∈ names, '.' ∉ name)
    (hwalk : walk full s t walked names = .ok s') : s'.Remembers (visited ++ visits walked names) := by
  induction names generalizing s t walked visited with
  | nil =>
    rw [← Except.ok.inj hwalk, visits, List.append_nil]
    exact h
  | cons name names ih =>
    rw [List.forall_mem_cons] at hnames
    rw [Select.walk] at hwalk
    split at hwalk
    · cases hwalk
    · rename_i r hr
      have hrest := ih (h.addJoin hw hnames.1 hr) (hw.addJoin hnames.1 hr) hnames.2 hwalk
      rwa [List.append_assoc, List.singleton_append] at hrest

/-- A statement remembers what it has joined when a further path is joined. -/
theorem Remembers.outerJoin (h : s.Remembers visited) (hjoin : s.outerJoin path = .ok s') :
    s'.Remembers (visited ++ pathStarts path) :=
  h.walk ⟨⟨[], .here _, fun _ => rfl⟩, fun p hp => absurd (List.prefix_nil.mp hp) (by simp)⟩
    (fun _ hname => dot_notMem_of_mem_pathSegments hname) hjoin

/-! ## Refusals -/

/-- Whether a path is refused, and why, depends on the table it starts from. -/
theorem walk_eq_error_congr (s s' : Select) (walked walked' : List Char) {e : Failure} :
    walk full s t walked names = .error e ↔ walk full s' t walked' names = .error e := by
  induction names generalizing s s' t walked walked' with
  | nil => simp [walk]
  | cons name names ih =>
    rw [walk, walk]
    cases t.relation? (String.ofList name) with
    | none => exact Iff.rfl
    | some r => exact ih _ _ _ _

/-- Whether a path is refused, and why, depends on the root alone. -/
theorem outerJoin_eq_error_congr (h : s.root = s'.root) {e : Failure} :
    s.outerJoin path = .error e ↔ s'.outerJoin path = .error e := by
  rw [outerJoin, outerJoin, h]
  exact walk_eq_error_congr s s' [] []

/-! ## Paths joined before -/

/-- A walk that visits joined paths only changes nothing. -/
theorem walk_eq_self {u : Table} (h : t.Leads names u) (hjoined : ∀ p ∈ visits walked names, p ∈ s.joinedPaths) :
    walk full s t walked names = .ok s := by
  induction h generalizing walked with
  | here t => rfl
  | along hr _ ih =>
    rw [visits, List.forall_mem_cons] at hjoined
    rw [walk, hr]
    simp only [addJoin, List.contains_eq_mem, hjoined.1, decide_true, if_true]
    exact ih hjoined.2

/-! ## Runs of operations -/

/-- Whether the joins of a statement are those that several paths ask for. -/
def HasJoined (s : Select) (paths : List String) : Prop := s.Remembers (paths.flatMap pathStarts)

variable {paths paths' : List String} {ops : List Operation} {o : Operation} {c : Collection}

theorem hasJoined_all (root : Table) : (all root).HasJoined [] :=
  ⟨rfl, fun _ _ _ h => absurd h (by simp [all, joinedPaths]), fun _ hj => nomatch hj⟩

/-- What is joined are the starts of the paths that were asked for. -/
theorem HasJoined.mem_joinedPaths (h : s.HasJoined paths) {p : String} :
    p ∈ s.joinedPaths ↔ ∃ path ∈ paths, IsPathStart p path := by
  simp only [h.joinedPaths, List.mem_eraseDups, List.mem_flatMap, mem_pathStarts]

/-- No path is joined twice. -/
theorem HasJoined.nodup (h : s.HasJoined paths) : s.joinedPaths.Nodup := by
  rw [h.joinedPaths]
  exact nodup_eraseDups _

/-- Joining a path that is joined changes nothing. -/
theorem HasJoined.outerJoin_eq_self (h : s.HasJoined paths) (hpath : path ∈ s.joinedPaths) : s.outerJoin path = .ok s := by
  obtain ⟨j, hj, rfl⟩ := List.mem_map.mp hpath
  obtain ⟨u, hu⟩ := (h.ends j hj).hasPath
  obtain ⟨asked, hasked, hstart⟩ := h.mem_joinedPaths.mp hpath
  refine walk_eq_self hu fun p hp => ?_
  exact h.mem_joinedPaths.mpr ⟨asked, hasked, (mem_pathStarts.mp hp).trans hstart⟩

/-- An operation adds the path that it asks to join, if it is a join, and leaves the joins alone otherwise. -/
theorem HasJoined.perform (h : s.HasJoined paths) (hperform : (Collection.select s).perform o = .ok c) :
    ∃ s', c = .select s' ∧ s'.root = s.root ∧ s'.HasJoined (paths ++ Operation.paths [o]) := by
  have hnone : s.HasJoined (paths ++ []) := (List.append_nil paths).symm ▸ h
  cases o with
  | outerJoin path =>
    obtain ⟨s', hjoin, hc⟩ := map_eq_ok.mp hperform
    refine ⟨s', hc.symm, (growsInto_walk hjoin).root, ?_⟩
    have hvisits : (paths ++ Operation.paths [.outerJoin path]).flatMap pathStarts =
        paths.flatMap pathStarts ++ pathStarts path := by
      rw [List.flatMap_append]
      exact congrArg _ (List.flatMap_singleton _ _)
    rw [HasJoined, hvisits]
    exact Remembers.outerJoin h hjoin
  | distinct => exact ⟨s.dropRepeated, (Except.ok.inj hperform).symm, rfl, hnone.1, hnone.2, hnone.3⟩
  | limit n => exact ⟨s.withLimit n, (Except.ok.inj hperform).symm, rfl, hnone.1, hnone.2, hnone.3⟩
  | filter condition =>
    cases condition with
    | clause d => exact ⟨s.filter d, (Except.ok.inj hperform).symm, rfl, hnone.1, hnone.2, hnone.3⟩
    | text condition => cases hperform

/-- Operations add the paths that they ask to join. -/
theorem HasJoined.performAll (h : s.HasJoined paths) (hperform : (Collection.select s).performAll ops = .ok c) :
    ∃ s', c = .select s' ∧ s'.root = s.root ∧ s'.HasJoined (paths ++ Operation.paths ops) := by
  have hstep : ∀ os o mid c', (mid.root = s.root ∧ mid.HasJoined (paths ++ Operation.paths os)) →
      (Collection.select mid).perform o = .ok c' →
      ∃ s', c' = .select s' ∧ s'.root = s.root ∧ s'.HasJoined (paths ++ Operation.paths (os ++ [o])) := by
    rintro os o mid c' ⟨hroot, hmid⟩ hperform
    obtain ⟨s', rfl, hroot', hjoined⟩ := hmid.perform hperform
    rw [List.append_assoc, ← Operation.paths_append] at hjoined
    exact ⟨s', rfl, hroot'.trans hroot, hjoined⟩
  exact Collection.performAll_keeps hstep [] ⟨rfl, (List.append_nil paths).symm ▸ h⟩ hperform

/-- Each joined path has one join, along the relationship that it ends in. -/
theorem HasJoined.mem_joins (h : s.HasJoined paths) {j : Join} :
    j ∈ s.joins ↔ j.path ∈ s.joinedPaths ∧ s.root.Ends j.path j.relation := by
  constructor
  · exact fun hj => ⟨List.mem_map_of_mem hj, h.ends j hj⟩
  · rintro ⟨hpath, hends⟩
    obtain ⟨i, hi, hpath⟩ := List.mem_map.mp hpath
    have hrelation : i.relation = j.relation := (hpath ▸ h.ends i hi).unique hends
    have heq : i = j := by
      cases i
      cases j
      simp_all
    exact heq ▸ hi

/-- The joins depend on which paths are asked for, and not on their order. -/
theorem HasJoined.perm (h : s.HasJoined paths) (h' : s'.HasJoined paths') (hroot : s'.root = s.root)
    (hpaths : ∀ path, path ∈ paths' ↔ path ∈ paths) : s'.joins.Perm s.joins := by
  rw [List.perm_ext_iff_of_nodup h'.nodup.of_map h.nodup.of_map]
  intro j
  simp only [h.mem_joins, h'.mem_joins, h.mem_joinedPaths, h'.mem_joinedPaths, hpaths, hroot]

/-! ## Which runs succeed -/

/-- Whether an operation is refused, and why, depends on the root alone. -/
theorem perform_eq_error_congr (h : s.root = s'.root) (o : Operation) {e : Failure} :
    (Collection.select s).perform o = .error e ↔ (Collection.select s').perform o = .error e := by
  cases o with
  | outerJoin path => exact map_eq_error.trans ((outerJoin_eq_error_congr h).trans map_eq_error.symm)
  | distinct => simp only [Collection.perform, reduceCtorEq]
  | limit n => simp only [Collection.perform, reduceCtorEq]
  | filter condition =>
    cases condition with
    | clause d => simp only [Collection.perform, reduceCtorEq]
    | text condition => exact Iff.rfl

/-- Whether an operation is accepted depends on the root. -/
theorem exists_perform_congr (h : s.root = s'.root) (o : Operation) :
    (∃ c, (Collection.select s).perform o = .ok c) ↔ ∃ c, (Collection.select s').perform o = .ok c := by
  have hok : ∀ x : Except Failure Collection, (∃ c, x = .ok c) ↔ ∀ e, x ≠ .error e := by
    intro x
    cases x <;> simp
  rw [hok, hok]
  exact forall_congr' fun e => not_congr (perform_eq_error_congr h o)

/-- A run succeeds when each of its operations would be accepted at the start. -/
theorem HasJoined.exists_performAll_iff (h : s.HasJoined paths) : (∃ c, (Collection.select s).performAll ops = .ok c) ↔
    ∀ o ∈ ops, ∃ c, (Collection.select s).perform o = .ok c := by
  induction ops generalizing s paths with
  | nil => simp [Collection.performAll]
  | cons o ops ih =>
    rw [List.forall_mem_cons, Collection.performAll]
    cases hfirst : (Collection.select s).perform o with
    | error e => simp
    | ok c =>
      obtain ⟨s', rfl, hroot, hjoined⟩ := h.perform hfirst
      simp only [ih hjoined, exists_perform_congr hroot, Except.ok.injEq, exists_eq', true_and]

/-! ## The joins that are written -/

theorem mem_relations : r ∈ s.relations ↔ ∃ j ∈ s.joins, j.relation = r := by
  rw [relations, List.mem_eraseDups, List.mem_map]

theorem nodup_relations (s : Select) : s.relations.Nodup := nodup_eraseDups _

/-- The same joins in another order have the same relationships. -/
theorem relations_perm (h : s'.joins.Perm s.joins) : s'.relations.Perm s.relations := by
  rw [List.perm_ext_iff_of_nodup s'.nodup_relations s.nodup_relations]
  intro r
  simp only [mem_relations, h.mem_iff]

/-- The relationships written are those of the first joins, then that of the next one unless it is among them, then others. -/
theorem exists_relations_eq {before after : List Join} {j : Join} (h : s.joins = before ++ j :: after) :
    ∃ rest, s.relations = (before.map (·.relation)).eraseDups ++
      (if j.relation ∈ before.map (·.relation) then [] else [j.relation]) ++ rest := by
  rw [← eraseDups_concat, relations, h, List.map_append, List.map_cons, List.append_cons, List.eraseDups_append]
  exact ⟨_, rfl⟩

/-- Whether a statement has kept the paths that operations asked to join, starting from all rows of a table. -/
structure KeepsPaths (s : Select) (root : Table) (ops : List Operation) : Prop where
  /-- A further path is refused, and for the same reason, when it would be refused at the start. -/
  refused : ∀ path e, s.outerJoin path = .error e ↔ (all root).outerJoin path = .error e
  /-- The joined paths are the starts of the paths asked for. -/
  starts : ∀ p, p ∈ s.joinedPaths ↔ ∃ path ∈ Operation.paths ops, IsPathStart p path
  /-- They come in the order of first visits. -/
  firstVisits : s.joinedPaths = ((Operation.paths ops).flatMap pathStarts).eraseDups
  /-- Each of them comes once. -/
  nodup : s.joinedPaths.Nodup
  /-- Each of them comes behind its other starts. -/
  startsFirst : ∀ before q after, s.joinedPaths = before ++ q :: after → ∀ p, IsPathStart p q → p ≠ q → p ∈ before
  /-- The joins written are the relationships that the joined paths end in. -/
  written : ∀ r, r ∈ s.relations ↔ ∃ p ∈ s.joinedPaths, root.Ends p r
  /-- Each of them is written once. -/
  writtenOnce : s.relations.Nodup
  /-- A path adds its relationship behind those of the paths before it, unless one of these ends in the same one. -/
  inOrder : ∀ before j after, s.joins = before ++ j :: after → root.Ends j.path j.relation ∧
    ∃ rest, s.relations = (before.map (·.relation)).eraseDups ++
      (if j.relation ∈ before.map (·.relation) then [] else [j.relation]) ++ rest
  /-- The text of the statement has an outer join for each of them, in this order. -/
  text : s.joins ≠ [] → ∃ others, s.sources = (root.name ++ String.join (s.relations.map Relation.joinText)) :: others
  /-- Asking for a joined path again changes nothing. -/
  again : ∀ path ∈ s.joinedPaths, s.outerJoin path = .ok s

/-- A statement that has joined the paths of operations keeps them. -/
theorem HasJoined.keepsPaths {root : Table} (h : s.HasJoined (Operation.paths ops)) (hroot : s.root = root) :
    s.KeepsPaths root ops where
  refused path e := outerJoin_eq_error_congr hroot
  starts p := h.mem_joinedPaths
  firstVisits := h.joinedPaths
  nodup := h.nodup
  startsFirst := h.startsFirst
  written r := by
    rw [mem_relations]
    constructor
    · rintro ⟨j, hj, rfl⟩
      exact ⟨j.path, List.mem_map_of_mem hj, hroot ▸ h.ends j hj⟩
    · rintro ⟨p, hp, hends⟩
      exact ⟨⟨p, r⟩, h.mem_joins.mpr ⟨hp, hroot ▸ hends⟩, rfl⟩
  writtenOnce := s.nodup_relations
  inOrder before j after hsplit :=
    ⟨hroot ▸ h.ends j (hsplit ▸ List.mem_append_right _ List.mem_cons_self), exists_relations_eq hsplit⟩
  text hjoins := ⟨s.otherTables, by rw [sources, if_neg (by simpa using hjoins), hroot, List.singleton_append]⟩
  again path hpath := h.outerJoin_eq_self hpath

end Select

/-! ## Runs from all rows of a table -/

/-- **Paths are joined once, in whatever order they are asked for.** Operations on all rows of a table succeed when each of them
would succeed at the start. The statement they lead to has joined the starts of the paths asked for, each once, in the order of
first visits and behind its own starts; it is written with one outer join for each relationship that these end in. The same
operations in another order lead to the same joins. -/
theorem joined_paths_are_kept (root : Table) (ops : List Operation) :
    ((∃ c, (Collection.select (.all root)).performAll ops = .ok c) ↔
      ∀ o ∈ ops, ∃ c, (Collection.select (.all root)).perform o = .ok c) ∧
    ∀ s, (Collection.select (.all root)).performAll ops = .ok (.select s) → s.KeepsPaths root ops ∧
      ∀ ops', ops'.Perm ops → ∃ s', (Collection.select (.all root)).performAll ops' = .ok (.select s') ∧
        s'.joinedPaths.Perm s.joinedPaths ∧ s'.joins.Perm s.joins ∧ s'.relations.Perm s.relations := by
  have hstart := Select.hasJoined_all root
  refine ⟨hstart.exists_performAll_iff, fun s hs => ?_⟩
  obtain ⟨_, heq, hroot, hjoined⟩ := hstart.performAll hs
  cases heq
  refine ⟨hjoined.keepsPaths hroot, fun ops' hperm => ?_⟩
  obtain ⟨c, hc⟩ : ∃ c, (Collection.select (.all root)).performAll ops' = .ok c :=
    hstart.exists_performAll_iff.mpr fun o ho => hstart.exists_performAll_iff.mp ⟨_, hs⟩ o (hperm.mem_iff.mp ho)
  obtain ⟨s', rfl, hroot', hjoined'⟩ := hstart.performAll hc
  have hpaths : (Operation.paths ops').Perm (Operation.paths ops) := hperm.filterMap _
  have hjoins : s'.joins.Perm s.joins := hjoined.perm hjoined' (hroot'.trans hroot.symm) fun path => hpaths.mem_iff
  exact ⟨s', hc, hjoins.map _, hjoins, Select.relations_perm hjoins⟩

/-- A run that asks for a path through a listing back to its owners, and then for a start of it. -/
theorem owners_of_owners_are_kept : ∃ s, (Collection.select (.all .listing)).performAll
    [.outerJoin "owners.listing.owners", .distinct, .outerJoin "location", .limit 3, .outerJoin "owners"] = .ok (.select s) ∧
    s.KeepsPaths .listing
      [.outerJoin "owners.listing.owners", .distinct, .outerJoin "location", .limit 3, .outerJoin "owners"] ∧
    s.joinedPaths = ["owners", "owners.listing", "owners.listing.owners", "location"] ∧
    s.relations = [.owners, .ownerListing, .location] :=
  ⟨_, rfl, ((joined_paths_are_kept _ _).2 _ rfl).1, by decide, by decide⟩

/-- A relationship that two joined paths end in is written once: three paths are joined here, and two joins are written. -/
theorem revisited_relation_is_written_once : ∃ s,
    (Collection.select (.all .listing)).performAll [.outerJoin "location.listing.location"] = .ok (.select s) ∧
    s.joinedPaths = ["location", "location.listing", "location.listing.location"] ∧
    s.relations.length < s.joinedPaths.length ∧
    s.sources = ["listing LEFT OUTER JOIN listing_location ON listing.id = listing_location.listing_id" ++
      " LEFT OUTER JOIN listing ON listing.id = listing_location.listing_id"] :=
  ⟨_, rfl, by decide, by decide, by decide⟩

end EntitySearch
