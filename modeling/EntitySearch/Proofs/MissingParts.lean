import EntitySearch.Proofs.Answers

/-!
# Lines with missing parts

An address and a full name are lines of columns with a space between every two of them, whether they are null or not, while the
words of a query have single spaces between them. A line contains a query exactly when a stretch of neighbouring columns that
are all there does (`lineContains_iff_exists_stretch`). The parts of a line therefore find its row as long as no null lies
between two of them (`unbroken_parts_are_found`), and may miss it otherwise (`parts_around_null_are_missed`).
-/

namespace EntitySearch

/-! ## Stretches of a line -/

section

variable {α : Type} {cell : α → Option (List Char)} {columns : List α} {query : List Char}

/-- The contents of columns in one line; a null reads as the empty text. -/
def lineOf (cell : α → Option (List Char)) (columns : List α) : List Char :=
  [' '].intercalate (columns.map fun c => (cell c).getD [])

theorem lineOf_singleton (cell : α → Option (List Char)) (c : α) : lineOf cell [c] = (cell c).getD [] := by
  rw [lineOf, List.map_singleton, List.intercalate_singleton]

/-- A line goes on behind a space. -/
theorem lineOf_append {front rest : List α} (hf : front ≠ []) (hr : rest ≠ []) :
    lineOf cell (front ++ rest) = lineOf cell front ++ ' ' :: lineOf cell rest := by
  rw [lineOf, List.map_append, intercalate_append _ (by simpa using hf) (by simpa using hr)]
  rfl

/-- A line starts with the text of its first cell, and a space behind it. -/
theorem lineOf_cons {c : α} (h : columns ≠ []) : lineOf cell (c :: columns) = (cell c).getD [] ++ ' ' :: lineOf cell columns := by
  rw [← List.singleton_append, lineOf_append (by simp) h, lineOf_singleton]

/-- A stretch of a line stands in the line. -/
theorem lineOf_stretch {stretch : List α} (h : stretch <:+: columns) : lineOf cell stretch <:+: lineOf cell columns := by
  obtain ⟨before, after, rfl⟩ := h
  by_cases hs : stretch = []
  · rw [hs]
    exact List.nil_infix
  have hfront : lineOf cell stretch <+: lineOf cell (stretch ++ after) := by
    by_cases ha : after = []
    · simp [ha]
    · rw [lineOf_append hs ha]
      exact List.prefix_append _ _
  have hrear : lineOf cell (stretch ++ after) <:+ lineOf cell (before ++ (stretch ++ after)) := by
    by_cases hb : before = []
    · simp [hb]
    · rw [lineOf_append hb (by simp [hs])]
      exact (List.suffix_cons _ _).trans (List.suffix_append _ _)
  rw [List.append_assoc]
  exact hfront.isInfix.trans hrear.isInfix

/-- Whether each space of a text has another character right behind it. -/
def SpacesApart (query : List Char) : Prop := ∀ rest, ' ' :: rest <:+ query → ∃ c after, rest = c :: after ∧ c ≠ ' '

theorem SpacesApart.of_suffix {rest : List Char} (h : SpacesApart query) (hs : rest <:+ query) : SpacesApart rest :=
  fun _ hr => h _ (hr.trans hs)

/-- What starts a text ends before a character of it, or goes past it. -/
theorem prefix_append_cons {query front rest : List Char} {c : Char} (h : query <+: front ++ c :: rest) :
    query <+: front ∨ ∃ behind, query = front ++ c :: behind ∧ behind <+: rest := by
  rcases List.prefix_or_prefix_of_prefix h (List.prefix_append front _) with hfront | ⟨behind, rfl⟩
  · exact .inl hfront
  · rcases List.prefix_cons_iff.mp ((List.prefix_append_right_inj front).mp h) with rfl | ⟨after, rfl, hafter⟩
    · rw [List.append_nil]
      exact .inl List.prefix_rfl
    · exact .inr ⟨after, rfl, hafter⟩

/-- A query that starts a line, and not with a space, starts a stretch at the start of it that has no null. -/
theorem exists_stretch_of_prefix (hq : SpacesApart query) (hfirst : ∃ c rest, query = c :: rest ∧ c ≠ ' ')
    (h : query <+: lineOf cell columns) :
    ∃ stretch, stretch <+: columns ∧ (∀ c ∈ stretch, cell c ≠ none) ∧ query <+: lineOf cell stretch := by
  induction columns generalizing query with
  | nil =>
    obtain ⟨c, rest, rfl, -⟩ := hfirst
    exact absurd (List.prefix_nil.mp h) (List.cons_ne_nil c rest)
  | cons column columns ih =>
    obtain ⟨c, rest, rfl, hc⟩ := hfirst
    cases hcell : cell column with
    | none =>
      by_cases hcolumns : columns = []
      · rw [hcolumns, lineOf_singleton, hcell] at h
        exact absurd (List.prefix_nil.mp h) (List.cons_ne_nil c rest)
      · rw [lineOf_cons hcolumns, hcell] at h
        exact absurd (List.cons_prefix_cons.mp h).1 hc
    | some text =>
      have hone : c :: rest <+: text → ∃ stretch, stretch <+: column :: columns ∧ (∀ c ∈ stretch, cell c ≠ none) ∧
          c :: rest <+: lineOf cell stretch := by
        intro htext
        refine ⟨[column], by simp, ?_, ?_⟩
        · simp [hcell]
        · rwa [lineOf_singleton, hcell]
      by_cases hcolumns : columns = []
      · rw [hcolumns, lineOf_singleton, hcell] at h
        exact hone h
      · rw [lineOf_cons hcolumns, hcell, Option.getD_some] at h
        rcases prefix_append_cons h with htext | ⟨behind, hcut, hbehind⟩
        · exact hone htext
        · have hsuffix : ' ' :: behind <:+ c :: rest := hcut ▸ List.suffix_append text _
          obtain ⟨stretch, hstretch, hthere, hin⟩ :=
            ih (hq.of_suffix ((List.suffix_cons _ _).trans hsuffix)) (hq behind hsuffix) hbehind
          obtain ⟨d, after, rfl, -⟩ := hq behind hsuffix
          have hne : stretch ≠ [] := by
            rintro rfl
            exact absurd (List.prefix_nil.mp hin) (List.cons_ne_nil d after)
          refine ⟨column :: stretch, (List.prefix_cons_inj column).mpr hstretch, ?_, ?_⟩
          · exact List.forall_mem_cons.mpr ⟨by simp [hcell], hthere⟩
          · rw [lineOf_cons hne, hcell, Option.getD_some, hcut]
            exact (List.prefix_append_right_inj text).mpr ((List.prefix_cons_inj ' ').mpr hin)

/-- A query in a line stands in a stretch of it that has no null. -/
theorem exists_stretch_of_infix (hq : SpacesApart query) (hfirst : ∃ c rest, query = c :: rest ∧ c ≠ ' ')
    (h : query <:+: lineOf cell columns) :
    ∃ stretch, stretch <:+: columns ∧ (∀ c ∈ stretch, cell c ≠ none) ∧ query <:+: lineOf cell stretch := by
  obtain ⟨first, tail, hcons, hspace⟩ := hfirst
  have hthere : ∀ {column part}, part ≠ [] → part <:+: (cell column).getD [] → cell column ≠ none := by
    intro column part hne hpart hcell
    rw [hcell] at hpart
    exact hne (List.infix_nil.mp hpart)
  induction columns with
  | nil => exact ⟨[], List.infix_rfl, List.forall_mem_nil _, h⟩
  | cons column columns ih =>
    have hone : query <:+: (cell column).getD [] → ∃ stretch, stretch <:+: column :: columns ∧
        (∀ c ∈ stretch, cell c ≠ none) ∧ query <:+: lineOf cell stretch := by
      intro hin
      refine ⟨[column], List.IsPrefix.isInfix (by simp), ?_, by rwa [lineOf_singleton]⟩
      simpa using hthere (by simp [hcons]) hin
    by_cases hcolumns : columns = []
    · rw [hcolumns, lineOf_singleton] at h
      exact hone h
    rw [lineOf_cons hcolumns] at h
    rcases List.infix_append_iff.mp h with hin | hin | ⟨front, rear, hcut, hfront, hrear⟩
    · exact hone hin
    · rcases List.infix_cons_iff.mp hin with hin | hin
      · rw [hcons] at hin
        exact absurd (List.cons_prefix_cons.mp hin).1 hspace
      · obtain ⟨stretch, hstretch, hnull, hfound⟩ := ih hin
        exact ⟨stretch, hstretch.trans (List.suffix_cons _ _).isInfix, hnull, hfound⟩
    · rcases List.prefix_cons_iff.mp hrear with rfl | ⟨behind, rfl, hbehind⟩
      · rw [List.append_nil] at hcut
        exact hone (hcut ▸ hfront.isInfix)
      · -- The query goes on behind a separator, and so has a part of the first column before it.
        have hne : front ≠ [] := by
          rintro rfl
          rw [hcut] at hcons
          exact hspace (List.cons.inj hcons).1.symm
        have hsuffix : ' ' :: behind <:+ query := hcut ▸ List.suffix_append front _
        obtain ⟨stretch, hstretch, hnull, hfound⟩ :=
          exists_stretch_of_prefix (hq.of_suffix ((List.suffix_cons _ _).trans hsuffix)) (hq behind hsuffix) hbehind
        have hstretchNe : stretch ≠ [] := by
          obtain ⟨d, after, rfl, -⟩ := hq behind hsuffix
          rintro rfl
          exact absurd (List.prefix_nil.mp hfound) (List.cons_ne_nil d after)
        refine ⟨column :: stretch, ((List.prefix_cons_inj column).mpr hstretch).isInfix, ?_, ?_⟩
        · exact List.forall_mem_cons.mpr ⟨hthere hne hfront.isInfix, hnull⟩
        · obtain ⟨before, hbefore⟩ := hfront
          rw [lineOf_cons hstretchNe, hcut, ← hbefore, List.append_assoc]
          exact ((List.prefix_append_right_inj front).mpr ((List.prefix_cons_inj ' ').mpr hfound)).isInfix.trans
            (List.suffix_append before _).isInfix

end

/-! ## Queries with single spaces -/

/-- Folding that keeps spaces keeps them apart. -/
theorem SpacesApart.map {query : List Char} (h : SpacesApart query) {f : Char → Char} (hf : ∀ c, f c = ' ' ↔ c = ' ') :
    SpacesApart (query.map f) := by
  rintro rest ⟨front, hcut⟩
  obtain ⟨before, behind, rfl, -, hbehind⟩ := List.map_eq_append_iff.mp hcut.symm
  obtain ⟨c, after, rfl, hc, rfl⟩ := List.map_eq_cons_iff.mp hbehind
  have hsuffix : ' ' :: after <:+ before ++ c :: after := (hf c).mp hc ▸ List.suffix_append before _
  obtain ⟨d, rest, rfl, hd⟩ := h after hsuffix
  exact ⟨f d, rest.map f, rfl, mt (hf d).mp hd⟩

namespace Query

/-- No word has a space in it. -/
theorem space_notMem_of_mem_words {cs w : List Char} (h : w ∈ Text.words cs) : ' ' ∉ w := by
  intro hspace
  have hblank := Text.isBlank_of_mem_words h hspace
  rw [Text.isBlank_space] at hblank
  cases hblank

/-- A word starts with a character that is no space. -/
theorem exists_cons_of_mem_words {cs w : List Char} (h : w ∈ Text.words cs) : ∃ c rest, w = c :: rest ∧ c ≠ ' ' := by
  cases w with
  | nil => exact absurd h (Text.nil_notMem_words cs)
  | cons c rest => exact ⟨c, rest, rfl, (List.ne_of_not_mem_cons (space_notMem_of_mem_words h)).symm⟩

/-- Words with spaces between them start as the first word does. -/
theorem exists_cons_of_intercalate {w : List Char} {ws : List (List Char)} (hw : ∃ c rest, w = c :: rest ∧ c ≠ ' ') :
    ∃ c rest, [' '].intercalate (w :: ws) = c :: rest ∧ c ≠ ' ' := by
  obtain ⟨c, rest, rfl, hc⟩ := hw
  cases ws with
  | nil => exact ⟨c, rest, List.intercalate_singleton, hc⟩
  | cons v vs => exact ⟨c, _, List.intercalate_cons_cons, hc⟩

/-- The words of a query have single spaces between them. -/
theorem spacesApart_intercalate {ws : List (List Char)} (h : ∀ w ∈ ws, (∃ c rest, w = c :: rest ∧ c ≠ ' ') ∧ ' ' ∉ w) :
    SpacesApart ([' '].intercalate ws) := by
  intro rest hrest
  induction ws with
  | nil => exact absurd (List.suffix_nil.mp hrest) (List.cons_ne_nil _ _)
  | cons w ws ih =>
    obtain ⟨⟨-, hw⟩, hws⟩ := List.forall_mem_cons.mp h
    cases ws with
    | nil =>
      rw [List.intercalate_singleton] at hrest
      exact absurd (hrest.subset List.mem_cons_self) hw
    | cons v vs =>
      rw [List.intercalate_cons_cons, List.append_assoc, List.singleton_append] at hrest
      obtain ⟨front, hcut⟩ := hrest
      have hnext : ∃ c rest, [' '].intercalate (v :: vs) = c :: rest ∧ c ≠ ' ' :=
        exists_cons_of_intercalate (hws v List.mem_cons_self).1
      rcases List.append_eq_append_iff.mp hcut with ⟨_ | ⟨c, between⟩, hfront, hrear⟩ | ⟨_ | ⟨c, between⟩, hfront, hrear⟩
      · rwa [(List.cons.inj hrear).2]
      · obtain ⟨rfl, -⟩ := List.cons.inj hrear
        exact absurd (hfront ▸ List.mem_append_right front List.mem_cons_self) hw
      · rwa [← (List.cons.inj hrear).2]
      · rw [List.cons_append, List.cons.injEq] at hrear
        exact ih hws (hrear.2 ▸ List.suffix_append between _)

/-- In a normal form no two spaces are side by side. -/
theorem spacesApart_normalize (cs : List Char) : SpacesApart (normalize cs) := by
  rw [normalize, Text.joinWith_eq_intercalate]
  exact spacesApart_intercalate fun w hw => ⟨exists_cons_of_mem_words hw, space_notMem_of_mem_words hw⟩

/-- A normalized query that is not empty starts with a character that is no space. -/
theorem exists_cons_of_normalize {cs : List Char} (h : normalize cs ≠ []) : ∃ c rest, normalize cs = c :: rest ∧ c ≠ ' ' := by
  rw [normalize, Text.joinWith_eq_intercalate]
  cases hws : Text.words cs with
  | nil => exact absurd hws (words_ne_nil h)
  | cons w ws => exact exists_cons_of_intercalate (exists_cons_of_mem_words (hws ▸ List.mem_cons_self))

end Query

/-! ## Lines that contain a query -/

variable {b : Backend} {query : List Char} {columns : List String} {cells : String → Option String}

/-- A joined text as a line of columns. -/
theorem toList_joinedText (cells : String → Option String) (columns : List String) :
    (joinedText cells columns).toList = lineOf (fun c => (cells c).map String.toList) columns := by
  rw [joinedText, String.toList_intercalate, lineOf, List.map_map]
  refine congrArg (List.intercalate _) (List.map_congr_left fun c _ => ?_)
  cases h : cells c <;> simp [h]

/-- A folded line is the line of the folded cells. -/
theorem map_lineOf {α : Type} {f : Char → Char} (hf : f ' ' = ' ') (cell : α → Option (List Char)) (columns : List α) :
    (lineOf cell columns).map f = lineOf (fun c => (cell c).map (List.map f)) columns := by
  have hpart : ∀ o : Option (List Char), (o.getD []).map f = (o.map (List.map f)).getD [] := fun o => by cases o <;> rfl
  induction columns with
  | nil => rfl
  | cons column columns ih =>
    by_cases hcolumns : columns = []
    · rw [hcolumns, lineOf_singleton, lineOf_singleton, hpart]
    · rw [lineOf_cons hcolumns, lineOf_cons hcolumns, List.map_append, List.map_cons, hf, ih, hpart]

/-- What patterns see of a line without characters that end texts is the line of what they see of its parts. -/
theorem seen_joinedText (hb : b.fold ' ' = ' ')
    (hnul : b.endsAtNull = true → ∀ column ∈ columns, ∀ text, cells column = some text → '\x00' ∉ text.toList) :
    b.seen (joinedText cells columns).toList = lineOf (fun c => (cells c).map fun text => text.toList.map b.fold) columns := by
  have hvisible : b.visible (joinedText cells columns).toList = (joinedText cells columns).toList := by
    refine Backend.visible_eq_self fun hn hmem => ?_
    rw [joinedText, String.toList_intercalate] at hmem
    rcases mem_intercalate hmem with hmem | ⟨part, hpart, hmem⟩
    · exact absurd hmem (by decide)
    · obtain ⟨text, htext, rfl⟩ := List.mem_map.mp hpart
      obtain ⟨column, hcolumn, rfl⟩ := List.mem_map.mp htext
      cases hcell : cells column with
      | none =>
        rw [hcell] at hmem
        cases hmem
      | some text => exact hnul hn column hcolumn text hcell (by simpa [hcell] using hmem)
  rw [Backend.seen, hvisible, toList_joinedText, map_lineOf hb]
  simp only [Option.map_map, Function.comp_def]

/-- A line contains a query exactly when a stretch of neighbouring columns that are all there does. -/
theorem lineContains_iff_exists_stretch (hb : b.ReadsLiterally query) (hq : SpacesApart query)
    (hfirst : ∃ c rest, query = c :: rest ∧ c ≠ ' ')
    (hnul : b.endsAtNull = true → ∀ column ∈ columns, ∀ text, cells column = some text → '\x00' ∉ text.toList) :
    b.LineContains query columns cells ↔
      ∃ stretch, stretch <:+: columns ∧ (∀ c ∈ stretch, cells c ≠ none) ∧ b.LineContains query stretch cells := by
  have hfold : ∀ c, b.fold c = ' ' ↔ c = ' ' := hb.fold_eq_iff ' ' (by decide)
  have hline : ∀ {stretch}, stretch <:+: columns → (b.LineContains query stretch cells ↔
      query.map b.fold <:+: lineOf (fun c => (cells c).map fun text => text.toList.map b.fold) stretch) := by
    intro stretch hstretch
    rw [Backend.LineContains, Backend.contains_some, seen_joinedText ((hfold ' ').mpr rfl)]
    exact fun hn column hcolumn => hnul hn column (hstretch.subset hcolumn)
  rw [hline List.infix_rfl]
  constructor
  · intro h
    obtain ⟨c, rest, rfl, hc⟩ := hfirst
    obtain ⟨stretch, hstretch, hthere, hin⟩ :=
      exists_stretch_of_infix (hq.map hfold) ⟨b.fold c, rest.map b.fold, rfl, mt (hfold c).mp hc⟩ h
    exact ⟨stretch, hstretch, by simpa using hthere, (hline hstretch).mpr hin⟩
  · rintro ⟨stretch, hstretch, -, hin⟩
    exact ((hline hstretch).mp hin).trans (lineOf_stretch hstretch)

/-! ## Rows found by the parts of their lines -/

/-- The texts of some columns with single spaces between them; nulls are left out. -/
def partsText (cells : String → Option String) (choice : List String) : String := " ".intercalate (choice.filterMap cells)

/-- Whether no null lies between two texts of a choice of columns. -/
def IsUnbroken (cells : String → Option String) (choice : List String) : Prop :=
  ∃ before run after, choice = before ++ (run ++ after) ∧ (∀ c ∈ before ++ after, cells c = none) ∧ ∀ c ∈ run, cells c ≠ none

/-- Whether each column of a line that is not null holds a normalized text that is not empty and that the backend sees whole. -/
def Backend.SeesWhole (b : Backend) (cells : String → Option String) (columns : List String) : Prop :=
  ∀ column ∈ columns, ∀ text, cells column = some text →
    text.toList ≠ [] ∧ Query.normalize text.toList = text.toList ∧ (b.endsAtNull = true → '\x00' ∉ text.toList)

/-- Whether another row has a line of columns by which a row of an entity is found: the address of a listing, the full name of a
user in the profile. -/
inductive Entity.HasLine (db : Database) (u : Row) : Entity → Row → List String → Prop where
  | address {location : Row} : location ∈ db.rows .listingLocation → location.RefersTo "listing_id" u →
      HasLine db u .listings location addressColumns
  | profile {profile : Row} : profile ∈ db.rows .userProfile → profile.RefersTo "user_id" u →
      HasLine db u .agencyUsers profile nameColumns

/-- A row with a line that contains the query matches it. -/
theorem Entity.HasLine.matches {db : Database} {u line : Row} {e : Entity} (h : e.HasLine db u line columns)
    (hin : b.LineContains query columns line.get) (context : SearchContext) : e.Matches b db query context u := by
  cases h with
  | address hlocation hrefers => exact .inr (.inr ⟨line, hlocation, hrefers, hin⟩)
  | profile hprofile hrefers => exact .inr (.inr (.inl ⟨line, hprofile, hrefers, hin⟩))

/-- The texts of a choice that no null breaks are those of a run of neighbours, in one line. -/
theorem IsUnbroken.exists_run {choice : List String} (h : IsUnbroken cells choice) :
    ∃ run, run <:+: choice ∧ (∀ c ∈ run, cells c ≠ none) ∧ partsText cells choice = joinedText cells run := by
  obtain ⟨before, run, after, rfl, hnull, hrun⟩ := h
  have hnone : ∀ {cs : List String}, (∀ c ∈ cs, cells c = none) → cs.filterMap cells = [] := List.filterMap_eq_nil_iff.mpr
  refine ⟨run, ⟨before, after, List.append_assoc _ _ _⟩, hrun, ?_⟩
  have htexts : run.filterMap cells = run.map fun c => (cells c).getD "" := by
    rw [← List.filterMap_eq_map]
    refine List.filterMap_congr fun c hc => ?_
    obtain ⟨text, htext⟩ := Option.ne_none_iff_exists'.mp (hrun c hc)
    simp [htext]
  rw [partsText, joinedText, List.filterMap_append, List.filterMap_append,
    hnone fun c hc => hnull c (List.mem_append_left _ hc), hnone fun c hc => hnull c (List.mem_append_right _ hc), htexts,
    List.nil_append, List.append_nil]

variable {service : Service} {around : Surroundings} {request : SearchRequest} {e : Entity} {conditions : List Clause}

/-- The parts of a line with single spaces between them are read as they stand. -/
theorem text_of_parts {choice : List String} (hwhole : b.SeesWhole cells columns) (hchoice : choice <:+: columns)
    (hquery : request.query = .text (partsText cells choice)) : request.text = (partsText cells choice).toList := by
  rw [SearchRequest.text, hquery, Value.display, partsText, String.toList_intercalate]
  refine Query.normalize_intercalate fun t ht => ?_
  obtain ⟨text, htext, rfl⟩ := List.mem_map.mp ht
  obtain ⟨column, hcolumn, hcell⟩ := List.mem_filterMap.mp htext
  obtain ⟨hne, hnormal, -⟩ := hwhole column (hchoice.subset hcolumn) text hcell
  exact ⟨hne, hnormal⟩

/-- **Parts of a line find its row unless a null breaks them.** Take a search over a scope for the texts of some neighbouring
columns of the address of a listing, or of the full name of a user, nulls left out. The line contains the query exactly when a
stretch of it without nulls does; then the listing or the user is found. This is so whenever no null lies between two of the
texts. -/
theorem unbroken_parts_are_found {db : Database} {u line : Row} {choice : List String}
    (h : service.Accepts around request e conditions) (hu : u ∈ (Select.scope e.table conditions).run b db)
    (hline : e.HasLine db u line columns) (hwhole : b.SeesWhole line.get columns) (hb : b.ReadsLiterally request.text)
    (hchoice : choice <:+: columns) (hquery : request.query = .text (partsText line.get choice)) :
    ∃ found, (service.search around request).statement? = some found ∧
      (b.LineContains request.text columns line.get ↔ ∃ stretch, stretch <:+: columns ∧ (∀ c ∈ stretch, line.get c ≠ none) ∧
        b.LineContains request.text stretch line.get) ∧
      (b.LineContains request.text columns line.get → u ∈ found.run b db) ∧
      (IsUnbroken line.get choice → u ∈ found.run b db) := by
  obtain ⟨found, hfound, hfinds⟩ := Service.exists_found h
  have hnul : b.endsAtNull = true → ∀ column ∈ columns, ∀ text, line.get column = some text → '\x00' ∉ text.toList := by
    intro hn column hcolumn text hcell
    exact (hwhole column hcolumn text hcell).2.2 hn
  have hiff := lineContains_iff_exists_stretch hb (Query.spacesApart_normalize _)
    (Query.exists_cons_of_normalize h.reads.nonempty) hnul
  have hrow : b.LineContains request.text columns line.get → u ∈ found.run b db := fun hin =>
    (hfinds.mem_run_iff h.reads.exists_ne_space hb).mpr ⟨hu, hline.matches hin _⟩
  refine ⟨found, hfound, hiff, hrow, fun hunbroken => hrow (hiff.mpr ?_)⟩
  obtain ⟨run, hrun, hthere, hparts⟩ := hunbroken.exists_run
  refine ⟨run, hrun.trans hchoice, hthere, ?_⟩
  have htext : request.text = (joinedText line.get run).toList := by rw [text_of_parts hwhole hchoice hquery, hparts]
  have hseen : b.seen (joinedText line.get run).toList = request.text.map b.fold := by
    rw [← htext, Backend.seen, Backend.visible_eq_self hb.unbroken]
  exact Backend.contains_some.mpr (hseen ▸ List.infix_rfl)

namespace Sample

/-- The location of the listing, in a country that has no regions. -/
def location : Row :=
  ⟨[("listing_id", some "l1"), ("country", some "Kazakhstan"), ("region", none), ("city", some "Almaty"), ("street", some "Abay"),
    ("house_number", some "10"), ("id", some "a1")]⟩

/-- The small database with the location. -/
def located : Database := ⟨fun t => match t with
  | .listingLocation => [location]
  | t => database.rows t⟩

/-- A request for the listings at the texts of some columns of the location. -/
def requestAt (choice : List String) : SearchRequest where
  entity := .entity .listings
  collection := .select (.scope .listing [])
  query := .text (partsText location.get choice)

theorem seesWhole_location : Backend.ascii.SeesWhole location.get addressColumns := by
  intro column hcolumn text htext
  simp only [addressColumns, List.mem_cons, List.not_mem_nil, or_false] at hcolumn
  rcases hcolumn with rfl | rfl | rfl | rfl | rfl <;> cases htext <;> exact ⟨by decide, by decide, fun _ => by decide⟩

end Sample

/-- The city and the street find the listing, although the region before them is missing. -/
theorem city_and_street_are_found :
    Service.Accepts {} {} (Sample.requestAt ["region", "city", "street"]) .listings [] ∧
    Sample.listing ∈ (Select.scope Entity.listings.table []).run .ascii Sample.located ∧
    Entity.listings.HasLine Sample.located Sample.listing Sample.location addressColumns ∧
    Backend.ascii.SeesWhole Sample.location.get addressColumns ∧
    Backend.ascii.ReadsLiterally (Sample.requestAt ["region", "city", "street"]).text ∧
    ["region", "city", "street"] <:+: addressColumns ∧
    ∃ found, (Service.search {} {} (Sample.requestAt ["region", "city", "street"])).statement? = some found ∧
      Sample.listing ∈ found.run .ascii Sample.located := by
  have haccepts : Service.Accepts {} {} (Sample.requestAt ["region", "city", "street"]) .listings [] :=
    ⟨rfl, rfl, rfl, rfl, nofun, rfl, ⟨nofun, by decide, by decide⟩⟩
  have hrow : Sample.listing ∈ (Select.scope Entity.listings.table []).run .ascii Sample.located := by decide +kernel
  have hline : Entity.listings.HasLine Sample.located Sample.listing Sample.location addressColumns :=
    .address (by decide) ⟨"l1", rfl, rfl⟩
  have hb : Backend.ascii.ReadsLiterally (Sample.requestAt ["region", "city", "street"]).text :=
    Backend.ascii_readsLiterally (by decide)
  have hchoice : ["region", "city", "street"] <:+: addressColumns := by decide
  obtain ⟨found, hfound, -, -, hin⟩ :=
    unbroken_parts_are_found haccepts hrow hline Sample.seesWhole_location hb hchoice rfl
  exact ⟨haccepts, hrow, hline, Sample.seesWhole_location, hb, hchoice, found, hfound,
    hin ⟨["region"], ["city", "street"], [], rfl, by decide, by decide⟩⟩

/-- The country and the city do not find the listing: the line has two spaces where the region between them is missing. -/
theorem parts_around_null_are_missed :
    Service.Accepts {} {} (Sample.requestAt ["country", "region", "city"]) .listings [] ∧
    Sample.listing ∈ (Select.scope Entity.listings.table []).run .ascii Sample.located ∧
    Entity.listings.HasLine Sample.located Sample.listing Sample.location addressColumns ∧
    Backend.ascii.SeesWhole Sample.location.get addressColumns ∧
    ["country", "region", "city"] <:+: addressColumns ∧
    (Sample.requestAt ["country", "region", "city"]).query = .text "Kazakhstan Almaty" ∧
    ∃ found, (Service.search {} {} (Sample.requestAt ["country", "region", "city"])).statement? = some found ∧
      found.run .ascii Sample.located = [] := by
  have haccepts : Service.Accepts {} {} (Sample.requestAt ["country", "region", "city"]) .listings [] :=
    ⟨rfl, rfl, rfl, rfl, nofun, rfl, ⟨nofun, by decide, by decide⟩⟩
  obtain ⟨found, hfound, -⟩ := Service.exists_found haccepts
  have hnone : ((Service.search {} {} (Sample.requestAt ["country", "region", "city"])).statement?.map fun s =>
      s.run .ascii Sample.located) = some [] := by decide +kernel
  rw [hfound, Option.map_some, Option.some.injEq] at hnone
  exact ⟨haccepts, by decide +kernel, .address (by decide) ⟨"l1", rfl, rfl⟩, Sample.seesWhole_location, by decide, rfl, found,
    hfound, hnone⟩

end EntitySearch
