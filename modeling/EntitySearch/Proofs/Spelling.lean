import Mathlib
import EntitySearch.Proofs.Privacy
import EntitySearch.Proofs.ScopeKept

/-!
# Case and blanks of a query

Two queries with the same words are the same query to a service. Two queries that differ in the case of ASCII letters are equal
when one of them is phone-shaped, since a phone has no letters (`Phone.eq_of_isShaped`), and otherwise give patterns that a
backend which folds these letters sees alike (`Backend.seen_containing_ascii`). Conditions that differ in such patterns agree
(`Clause.Agrees`): they mention the same tables and let the same rows through. Agreement is kept by guards and by the disjunction
of a search, so that both searches end in statements that select the same rows (`case_and_blanks_do_not_matter`).
-/

namespace EntitySearch

/-! ## Phones have no letters -/

namespace Text

variable {c d : Char}

/-- A character that is no letter of ASCII has no other case. -/
theorem toLower_of_isAlpha_eq_false (hc : c.isAlpha = false) : c.toLower = c := by
  refine Char.toLower_eq_of_not_isUpper ?_
  rw [Char.isAlpha, Bool.or_eq_false_iff] at hc
  simp [hc.1]

/-- A character that is no letter of ASCII is the lower-case form of itself only. -/
theorem toLower_eq_iff (hd : d.isAlpha = false) : c.toLower = d ↔ c = d := by
  constructor
  · rintro rfl
    rw [Char.isAlpha_toLower_eq_isAlpha] at hd
    exact (toLower_of_isAlpha_eq_false hd).symm
  · rintro rfl
    exact toLower_of_isAlpha_eq_false hd

/-- A text without letters differs in case from no other one. -/
theorem eq_of_map_toLower_eq {cs ds : List Char} (hcs : ∀ c ∈ cs, c.isAlpha = false)
    (h : cs.map Char.toLower = ds.map Char.toLower) : cs = ds := by
  induction cs generalizing ds with
  | nil => exact (List.map_eq_nil_iff.mp h.symm).symm
  | cons c cs ih =>
    obtain ⟨d, ds, rfl, hd, hds⟩ := List.map_eq_cons_iff.mp h.symm
    have hc := hcs c List.mem_cons_self
    rw [(toLower_eq_iff hc).mpr rfl, toLower_eq_iff hc] at hd
    rw [hd, ih (fun x hx => hcs x (List.mem_cons_of_mem _ hx)) hds.symm]

/-- A class of characters whose runs lie beside the letters of ASCII has none of them. -/
theorem isAlpha_of_covers (ranges : List CodeRange) (hranges : ∀ r ∈ ranges, r.2 < 65 ∨ 90 < r.1 ∧ r.2 < 97 ∨ 122 < r.1)
    (h : CodeRange.covers ranges c = true) : c.isAlpha = false := by
  obtain ⟨r, hr, hlow, hhigh⟩ := (CodeRange.covers_iff _ _).mp h
  have hapart := hranges r hr
  have hletter : c.isAlpha = true → 65 ≤ c.toNat ∧ c.toNat ≤ 90 ∨ 97 ≤ c.toNat ∧ c.toNat ≤ 122 := by
    simp [Char.isAlpha, Char.isUpper, Char.isLower, UInt32.le_iff_toNat_le]
  rw [Bool.eq_false_iff]
  intro hc
  have hc := hletter hc
  omega

end Text

namespace Phone

open Text

variable {cs cs' : List Char} {c : Char}

/-- No letter stands in a phone number. -/
theorem isAlpha_of_isPhoneChar (h : isPhoneChar c = true) : c.isAlpha = false := by
  simp only [isPhoneChar, Bool.or_eq_true, beq_iff_eq] at h
  rcases h with (((h | h) | rfl) | rfl) | rfl
  · exact isAlpha_of_covers decimalDigitRanges (by decide) h
  · exact isAlpha_of_covers blankRanges (by decide) h
  all_goals rfl

/-- A phone-shaped text has no letters. -/
theorem isAlpha_of_isShaped (h : isShaped cs = true) : ∀ c ∈ cs, c.isAlpha = false := by
  obtain ⟨lead, rest, rfl, hlead, hrest⟩ := exists_of_isShaped h
  intro c hc
  rcases List.mem_append.mp hc with hc | hc
  · rcases (hlead c hc).1 with rfl | hphone
    · rfl
    · exact isAlpha_of_isPhoneChar hphone
  · exact isAlpha_of_isPhoneChar (hrest c hc)

/-- A text that differs from a phone-shaped one in the case of letters is the same. -/
theorem eq_of_isShaped (h : isShaped cs = true) (heq : cs.map Char.toLower = cs'.map Char.toLower) : cs = cs' :=
  eq_of_map_toLower_eq (isAlpha_of_isShaped h) heq

/-- Whether a text is phone-shaped does not depend on case. -/
theorem isShaped_eq_of_map_toLower_eq (h : cs.map Char.toLower = cs'.map Char.toLower) : isShaped cs = isShaped cs' := by
  by_cases hs : isShaped cs = true
  · rw [eq_of_isShaped hs h]
  · by_cases hs' : isShaped cs' = true
    · rw [eq_of_isShaped hs' h.symm]
    · rw [Bool.eq_false_iff.mpr hs, Bool.eq_false_iff.mpr hs']

end Phone

/-! ## Patterns that are seen alike -/

namespace Backend

/-- What a backend that folds the letters of ASCII sees of a text: its lower-case form up to the first null character. -/
theorem seen_ascii (cs : List Char) : ascii.seen cs = (cs.map Char.toLower).takeWhile fun c => c != '\x00' := by
  have hnull : ((fun c => c != '\x00') ∘ Char.toLower) = fun c => c != '\x00' := by
    funext c
    rw [Bool.eq_iff_iff]
    simp only [Function.comp_apply, bne_iff_ne, ne_eq, Text.toLower_eq_iff (show '\x00'.isAlpha = false by decide)]
  rw [List.takeWhile_map, hnull]
  rfl

/-- The patterns of queries that differ in the case of letters are seen alike. -/
theorem seen_containing_ascii {cs cs' : List Char} (h : cs.map Char.toLower = cs'.map Char.toLower) :
    ascii.seen (LikePattern.containing ['\\'] cs) = ascii.seen (LikePattern.containing ['\\'] cs') := by
  have hsigns : ∀ sign ∈ ['%', '_', '\\'], ∀ c : Char, c.toLower = sign ↔ c = sign := by
    intro sign hs c
    exact lowerAscii_eq_iff (List.mem_append_left [' '] hs) c
  rw [seen_ascii, seen_ascii, LikePattern.map_containing (by decide) (by decide) hsigns,
    LikePattern.map_containing (by decide) (by decide) hsigns, h]

end Backend

/-! ## Conditions that agree -/

namespace Clause

variable {b : Backend} {c d : Clause} {cs ds : List Clause}

/-- Whether two conditions agree: they mention the same tables and hold the same constants, both or neither hold anything, and
they let the same rows through. -/
structure Agrees (b : Backend) (c d : Clause) : Prop where
  tables : c.tables = d.tables
  constants : c.constants = d.constants
  isVoid : c.isVoid = d.isVoid
  passes : ∀ cells, c.passes b cells = d.passes b cells

theorem Agrees.refl (c : Clause) : c.Agrees b c := ⟨rfl, rfl, rfl, fun _ => rfl⟩

/-- Patterns that are seen alike agree. -/
theorem agrees_like {pattern pattern' : String} (h : b.seen pattern.toList = b.seen pattern'.toList) (c : Clause)
    (escape : Option String) : (like c pattern escape).Agrees b (like c pattern' escape) where
  tables := by rw [Clause.tables, Clause.tables]
  constants := by rw [Clause.constants, Clause.constants]
  isVoid := rfl
  passes cells := by
    rw [passes_eq_holds rfl rfl, passes_eq_holds rfl rfl]
    simp only [holds, value, Sql.likeTruth, h]

/-- Joined conditions are made of the same parts when the conditions are. -/
theorem ListsParts.chainAll_eq {α : Type} {f : Clause → List α} (hparts : ListsParts f)
    (hf : ∀ c d, c.Agrees b d → f c = f d) (k : Connective) (h : List.Forall₂ (Agrees b) cs ds) :
    f (Clause.chainAll k cs) = f (Clause.chainAll k ds) := by
  rw [hparts.chainAll, hparts.chainAll, List.flatMap_def, List.flatMap_def, map_eq_map_of_forall₂ h hf]

/-- Conditions stay in agreement behind a guard, which always holds something. -/
theorem agrees_guard (h : c.Agrees b d) (column : Clause) (v : Value) :
    (chainAll .conjunction [equals column v, c]).Agrees b (chainAll .conjunction [equals column v, d]) where
  tables := listsParts_tables.chainAll_eq (fun _ _ => Agrees.tables) _ (.cons (.refl _) (.cons h .nil))
  constants := listsParts_constants.chainAll_eq (fun _ _ => Agrees.constants) _ (.cons (.refl _) (.cons h .nil))
  isVoid := by
    simp [chainAll, asCondition, inPlace, needsGroup, operands, Clause.isVoid, areVoid]
  passes cells := by
    rw [Bool.eq_iff_iff, passes_conjunction, passes_conjunction]
    simp [h.passes]

theorem areVoid_eq_all (cs : List Clause) : areVoid cs = (cs.map isVoid).all id := by
  induction cs with
  | nil => rfl
  | cons c cs ih => rw [areVoid, ih, List.map_cons, List.all_cons, id]

/-- A disjunction holds nothing just when none of its alternatives holds anything. -/
theorem isVoid_disjunction (cs : List Clause) : (chainAll .disjunction cs).isVoid = areVoid cs := by
  unfold chainAll
  split
  · simp [isVoid_asCondition, areVoid]
  · rw [isVoid, areVoid_disjuncts]

/-- Alternatives that agree one by one agree together. -/
theorem agrees_disjunction (h : List.Forall₂ (Agrees b) cs ds) :
    (chainAll .disjunction cs).Agrees b (chainAll .disjunction ds) := by
  have hvoid : areVoid cs = areVoid ds := by
    rw [areVoid_eq_all, areVoid_eq_all, map_eq_map_of_forall₂ h fun _ _ => Agrees.isVoid]
  refine ⟨listsParts_tables.chainAll_eq (fun _ _ => Agrees.tables) _ h,
    listsParts_constants.chainAll_eq (fun _ _ => Agrees.constants) _ h, ?_, fun cells => ?_⟩
  · rw [isVoid_disjunction, isVoid_disjunction, hvoid]
  · have hpairs : cs.map (fun c => (c.isVoid, c.passes b cells)) = ds.map fun c => (c.isVoid, c.passes b cells) :=
      map_eq_map_of_forall₂ h fun _ _ hcd => Prod.ext hcd.isVoid (hcd.passes cells)
    have hsome : ∀ cs : List Clause, (∃ c ∈ cs, c.isVoid = false ∧ c.passes b cells = true) ↔
        (false, true) ∈ cs.map fun c => (c.isVoid, c.passes b cells) := by
      simp [List.mem_map]
    rw [Bool.eq_iff_iff, passes_disjunction, passes_disjunction, hsome, hsome, hpairs, hvoid]

end Clause

/-! ## Predicates that agree -/

namespace Expr

/-- Whether two expressions that are conditions over the schema are conditions that agree. -/
def Agrees (b : Backend) (e e' : Expr) : Prop :=
  ∀ c c', Clause.ofExpr Catalog.ofSchema e = .ok c → Clause.ofExpr Catalog.ofSchema e' = .ok c' → c.Agrees b c'

variable {b : Backend} {e e' : Expr} {es es' : List Expr}

theorem Agrees.refl (e : Expr) : e.Agrees b e := by
  intro c c' hc hc'
  rw [hc] at hc'
  rw [Except.ok.inj hc']
  exact .refl c'

/-- Searches for texts whose patterns are seen alike agree. -/
theorem agrees_containing {text text' : String} (h : b.seen (LikePattern.containing ['\\'] text.toList) =
    b.seen (LikePattern.containing ['\\'] text'.toList)) (e : Expr) : (e.containing text).Agrees b (e.containing text') := by
  have hescape : LikePattern.defaultEscape.toList = ['\\'] := by decide
  intro c c' hc hc'
  obtain ⟨d, hd, hc⟩ := bind_eq_ok.mp hc
  obtain ⟨d', hd', hc'⟩ := bind_eq_ok.mp hc'
  rw [hd] at hd'
  rw [← Except.ok.inj hc, ← Except.ok.inj hc', ← Except.ok.inj hd']
  refine Clause.agrees_like ?_ _ _
  rw [String.toList_ofList, String.toList_ofList, hescape]
  exact h

/-- Conditions that agree do so behind a guard. -/
theorem agrees_guarded (h : e.Agrees b e') (column : Expr) (tenant : Option String) :
    (guarded column tenant (some e)).Agrees b (guarded column tenant (some e')) := by
  intro c c' hc hc'
  obtain ⟨x, d, hx, hd, rfl⟩ := ofExpr_guarded_iff.mp hc
  obtain ⟨x', d', hx', hd', rfl⟩ := ofExpr_guarded_iff.mp hc'
  rw [hx] at hx'
  rw [← Except.ok.inj hx']
  exact Clause.agrees_guard (h d d' hd hd') _ _

/-- Conditions of expressions that agree one by one agree one by one. -/
theorem Agrees.clauses {cs cs' : List Clause} (h : List.Forall₂ (Agrees b) es es')
    (hcs : List.Forall₂ (fun e c => Clause.ofExpr Catalog.ofSchema e = .ok c) es cs)
    (hcs' : List.Forall₂ (fun e c => Clause.ofExpr Catalog.ofSchema e = .ok c) es' cs') :
    List.Forall₂ (Clause.Agrees b) cs cs' := by
  induction h generalizing cs cs' with
  | nil =>
    cases hcs
    cases hcs'
    exact .nil
  | cons he _ ih =>
    cases hcs with
    | cons hc hcs =>
      cases hcs' with
      | cons hc' hcs' => exact .cons (he _ _ hc hc') (ih hcs hcs')

end Expr

/-- A rule yields predicates that agree, or none, for two queries that differ in the case of letters. -/
theorem relatesRules_agrees {query query' : String}
    (h : query.toList.map Char.toLower = query'.toList.map Char.toLower) :
    RelatesRules (Expr.Agrees .ascii) query query' where
  refl := Expr.Agrees.refl
  containing := Expr.agrees_containing (Backend.seen_containing_ascii h)
  phone e := by
    -- A phone has no letters, so that two queries of which one is a phone are one query.
    by_cases hs : Phone.isShaped query.toList = true
    · rw [String.toList_inj.mp (Phone.eq_of_isShaped hs h)]
      cases (Criterion.phone e).condition? query' with
      | none => exact .none
      | some p => exact .some (Expr.Agrees.refl p)
    · have hnot : Phone.isShaped query.toList = false := Bool.eq_false_iff.mpr hs
      have hnot' : Phone.isShaped query'.toList = false := (Phone.isShaped_eq_of_map_toLower_eq h).symm.trans hnot
      rw [Criterion.condition?_phone_eq_none_iff.mpr hnot, Criterion.condition?_phone_eq_none_iff.mpr hnot']
      exact .none
  guarded column tenant _ _ hp := Expr.agrees_guarded hp column tenant

/-! ## Statements that agree -/

namespace Select

variable {b : Backend} {c d : Clause} {cs ds : List Clause}

/-- Whether two statements agree: a backend takes both or neither, and they select the same rows from every database. -/
structure Agrees (b : Backend) (s s' : Select) : Prop where
  isStorable : s.isStorable = s'.isStorable
  run : ∀ db, s.run b db = s'.run b db

theorem Agrees.refl (s : Select) : s.Agrees b s := ⟨rfl, fun _ => rfl⟩

/-- A statement that is given either of two conditions that agree selects the same rows. -/
theorem agrees_filter (h : c.Agrees b d) (s : Select) : (s.filter c).Agrees b (s.filter d) where
  isStorable := by
    simp [Select.isStorable, filter, Clause.constantsOf_eq_flatMap, h.constants]
  run db := by
    -- The tables that conditions mention decide which combinations of rows there are to choose from.
    have htables : Clause.tablesOf (s.filter c).conditions = Clause.tablesOf (s.filter d).conditions := by
      simp only [filter, Clause.tablesOf_append, Clause.tablesOf, h.tables]
    have hothers : (s.filter c).otherTables = (s.filter d).otherTables := by
      rw [otherTables, otherTables, htables]
      rfl
    have hbindings : (s.filter c).bindings db = (s.filter d).bindings db := by
      rw [bindings, bindings, hothers]
      rfl
    have hadmits : (s.filter c).admits b = (s.filter d).admits b := by
      funext bound
      rw [Bool.eq_iff_iff, admits_eq_true, admits_eq_true]
      simp [filter, or_imp, forall_and, h.passes]
    rw [Select.run, Select.run, hbindings, hadmits]
    rfl

theorem agrees_narrowedBy (h : List.Forall₂ (Clause.Agrees b) cs ds) (s : Select) :
    (s.narrowedBy cs).Agrees b (s.narrowedBy ds) := by
  have hempty : cs.isEmpty = ds.isEmpty := by cases h <;> rfl
  rw [narrowedBy, narrowedBy, hempty]
  split
  · exact .refl s
  · exact agrees_filter (Clause.agrees_disjunction h) s

end Select

/-! ## Searches -/

namespace Service

variable {service : Service} {around : Surroundings} {request : SearchRequest} {s : Select} {n n' : Narrowed}

/-- A query tells on a search only by what it is read as. -/
theorem search_eq_of_ofRaw_eq {q q' : Value} (around : Surroundings) (request : SearchRequest)
    (h : ParsedQuery.ofRaw service.config.queryMaxLength q = ParsedQuery.ofRaw service.config.queryMaxLength q') :
    service.search around (request.asking q) = service.search around (request.asking q') := by
  have hfinish : finish (request.asking q) = finish (request.asking q') := by
    funext logs added result
    rw [finish, finish, request.ofArguments_asking, request.ofArguments_asking]
  have hread : ParsedQuery.ofRaw service.config.queryMaxLength (request.asking q).query =
      ParsedQuery.ofRaw service.config.queryMaxLength (request.asking q').query := h
  rw [search, search, hread, hfinish]
  rfl

/-- Of two queries that differ in the case of letters, both are blank, or both are too long, or both are read. -/
theorem blank_or_refused_or_read (service : Service) {q q' : Value}
    (hcase : (request.asking q).text.map Char.toLower = (request.asking q').text.map Char.toLower) (hq : q ≠ .null)
    (hq' : q' ≠ .null) :
    ((request.asking q).text = [] ∧ (request.asking q').text = []) ∨
      (service.Refuses (request.asking q) ∧ service.Refuses (request.asking q')) ∨
      (service.Reads (request.asking q) ∧ service.Reads (request.asking q')) := by
  -- What becomes of a query before its words are looked at depends on its length only.
  have hlength : (request.asking q).text.length = (request.asking q').text.length := by
    simpa using congrArg List.length hcase
  have hnil : (request.asking q).text = [] ↔ (request.asking q').text = [] := by
    rw [← List.length_eq_zero_iff, hlength, List.length_eq_zero_iff]
  have hexceeds : ParsedQuery.exceeds service.config.queryMaxLength (request.asking q).text =
      ParsedQuery.exceeds service.config.queryMaxLength (request.asking q').text := by
    unfold ParsedQuery.exceeds
    rw [hlength]
  rcases blank_or_refuses_or_reads service (request.asking q) with hblank | ⟨-, hne, hlong⟩ | ⟨-, hne, hwithin⟩
  · have hblank : (request.asking q).text = [] := hblank.resolve_left hq
    exact Or.inl ⟨hblank, hnil.mp hblank⟩
  · exact Or.inr (Or.inl ⟨⟨hq, hne, hlong⟩, hq', mt hnil.mpr hne, hexceeds ▸ hlong⟩)
  · exact Or.inr (Or.inr ⟨⟨hq, hne, hwithin⟩, hq', mt hnil.mpr hne, hexceeds ▸ hwithin⟩)

/-- Searches for two queries that differ in the case of letters end in statements that agree, if both succeed. -/
theorem statements_agree {q q' : Value} (hcol : request.collection = .select s) (hlimit : request.limit = none)
    (hprovider : around.providers.create service.config.provider ≠ .ok .echo)
    (hread : service.Reads (request.asking q)) (hread' : service.Reads (request.asking q'))
    (hcase : (request.asking q).text.map Char.toLower = (request.asking q').text.map Char.toLower)
    (hn : (service.search around (request.asking q)).result = .ok n)
    (hn' : (service.search around (request.asking q')).result = .ok n') :
    ∃ found found', n.collection = .select found ∧ n'.collection = .select found' ∧ found.Agrees .ascii found' := by
  obtain ⟨d, p, hd, hp, happly⟩ := found_of_search_eq_ok hread hn
  obtain ⟨d', p', hd', hp', happly'⟩ := found_of_search_eq_ok hread' hn'
  rw [← Except.ok.inj (hp.symm.trans hp'), ← Except.ok.inj (hd.symm.trans hd')] at happly'
  cases p with
  | echo => exact absurd hp hprovider
  | stub =>
    have hstays : cap (effectiveLimit service.config.maxResults request.limit) (.untouched request.collection) =
        .ok (.untouched (.select s)) := by
      rw [hlimit, hcol]
      rfl
    have hn : n = .untouched (.select s) := Except.ok.inj (happly.symm.trans hstays)
    have hn' : n' = .untouched (.select s) := Except.ok.inj (happly'.symm.trans hstays)
    exact ⟨s, s, by rw [hn]; rfl, by rw [hn']; rfl, .refl s⟩
  | trigram =>
    have hstart : ∀ q, (request.asking q).collection = .select s := fun _ => hcol
    have htakes : ∀ q, service.Takes around (request.asking q) d := fun _ => ⟨hd, hp, hlimit⟩
    obtain ⟨prepared, cs, hprep, hcs, hfound⟩ := search_eq_ok_of_takes (hstart q) (htakes q) hread hn
    obtain ⟨prepared', cs', hprep', hcs', hfound'⟩ := search_eq_ok_of_takes (hstart q') (htakes q') hread' hn'
    have hsame : prepared' = prepared := Collection.select.inj (Except.ok.inj (hprep'.symm.trans hprep))
    rw [hsame] at hfound'
    have hrules : RelatesRules (Expr.Agrees .ascii) (String.ofList (request.asking q).text)
        (String.ofList (request.asking q').text) :=
      relatesRules_agrees (by rw [String.toList_ofList, String.toList_ofList, hcase])
    have hagree : List.Forall₂ (Clause.Agrees .ascii) cs cs' :=
      Expr.Agrees.clauses (hrules.predicates (request.contextIn around) d) hcs hcs'
    exact ⟨_, _, hfound, hfound', Select.agrees_narrowedBy hagree prepared⟩

end Service

/-- **Case and blanks of a query do not matter.** Two queries with the same words have the same outcome: the same lines in the
log, the same span, and the same result, whatever the service, the collection, the context and the limit. Two queries whose
normalized forms differ in the case of ASCII letters only have both the same failure or, over a statement and without a limit,
end in statements that a backend which folds the case of these letters takes both or neither, and that select the same rows from
every database; the provider must be none that puts the query into its conditions as it is. -/
theorem case_and_blanks_do_not_matter {service : Service} {around : Surroundings} {request : SearchRequest} (a b : String) :
    ((∃ ws, Text.SplitsInto a.toList ws ∧ Text.SplitsInto b.toList ws) →
      service.search around (request.asking (.text a)) = service.search around (request.asking (.text b))) ∧
    ∀ start, around.providers.create service.config.provider ≠ .ok .echo → request.limit = none →
      request.collection = .select start →
      (Query.normalize a.toList).map Char.toLower = (Query.normalize b.toList).map Char.toLower →
      (∃ e, (service.search around (request.asking (.text a))).result = .error e ∧
        (service.search around (request.asking (.text b))).result = .error e) ∨
      ∃ found found', (service.search around (request.asking (.text a))).statement? = some found ∧
        (service.search around (request.asking (.text b))).statement? = some found' ∧
        found.isStorable = found'.isStorable ∧ ∀ db, found.run .ascii db = found'.run .ascii db := by
  refine ⟨?_, fun start hprovider hlimit hcol hcase => ?_⟩
  · rintro ⟨ws, hws, hws'⟩
    have hwords : Query.normalize a.toList = Query.normalize b.toList := by
      rw [Query.normalize, hws.words_eq, Query.normalize, hws'.words_eq]
    refine Service.search_eq_of_ofRaw_eq around request ?_
    unfold ParsedQuery.ofRaw
    dsimp only [Value.display]
    rw [hwords]
  · have htexts : (request.asking (.text a)).text.map Char.toLower = (request.asking (.text b)).text.map Char.toLower := hcase
    have hgiven : ∀ q : String, Value.text q ≠ .null := by simp
    rcases Service.blank_or_refused_or_read service htexts (hgiven a) (hgiven b) with
      ⟨hblank, hblank'⟩ | ⟨hlong, hlong'⟩ | ⟨hread, hread'⟩
    · right
      exact ⟨start, start, Service.statement?_search_of_blank hcol (Or.inr hblank),
        Service.statement?_search_of_blank hcol (Or.inr hblank'), rfl, fun _ => rfl⟩
    · left
      rw [Service.search_of_refuses hlong, Service.search_of_refuses hlong']
      exact ⟨_, rfl, rfl⟩
    · have hfailure : failure? (service.search around (request.asking (.text a))).result =
          failure? (service.search around (request.asking (.text b))).result := by
        rw [Service.search_of_reads hread, Service.search_of_reads hread']
        exact (Service.narrow_alike (request.asking (.text a)) (.text b) hprovider
          (Phone.isShaped_eq_of_map_toLower_eq htexts)).2.1
      refine (error_or_ok_of_failure?_eq hfailure).imp_right ?_
      rintro ⟨n, n', hn, hn'⟩
      obtain ⟨found, found', hfound, hfound', hagree⟩ :=
        Service.statements_agree hcol hlimit hprovider hread hread' htexts hn hn'
      exact ⟨found, found', SearchOutcome.statement?_eq_some hn hfound, SearchOutcome.statement?_eq_some hn' hfound',
        hagree.isStorable, hagree.run⟩

/-- A request for listings. -/
def SearchRequest.forListings : SearchRequest where
  entity := .entity .listings
  collection := .select (.all .listing)
  query := .null

/-- An owner is found by a name in capitals and with blanks around its parts. -/
theorem petrov_is_found_in_capitals :
    (∃ ws, Text.SplitsInto "  Petrov\tIvan ".toList ws ∧ Text.SplitsInto "Petrov Ivan".toList ws) ∧
      Service.search {} {} (SearchRequest.forListings.asking (.text "  Petrov\tIvan ")) =
        Service.search {} {} (SearchRequest.forListings.asking (.text "Petrov Ivan")) ∧
      (Query.normalize "  PETROV ivan ".toList).map Char.toLower = (Query.normalize "Petrov Ivan".toList).map Char.toLower ∧
      ∃ found found',
        (Service.search {} {} (SearchRequest.forListings.asking (.text "  PETROV ivan "))).statement? = some found ∧
        (Service.search {} {} (SearchRequest.forListings.asking (.text "Petrov Ivan"))).statement? = some found' ∧
        found.isStorable = found'.isStorable ∧ ∀ db, found.run .ascii db = found'.run .ascii db := by
  have hwords : ∃ ws, Text.SplitsInto "  Petrov\tIvan ".toList ws ∧ Text.SplitsInto "Petrov Ivan".toList ws :=
    ⟨["Petrov".toList, "Ivan".toList], Text.splitsInto_iff.mpr (by decide), Text.splitsInto_iff.mpr (by decide)⟩
  have hcase : (Query.normalize "  PETROV ivan ".toList).map Char.toLower =
      (Query.normalize "Petrov Ivan".toList).map Char.toLower := by decide
  have hprovider : ({} : Surroundings).providers.create ({} : Service).config.provider ≠ .ok .echo := by
    rw [show ({} : Surroundings).providers.create ({} : Service).config.provider = .ok .trigram from rfl]
    nofun
  obtain ⟨n, hn⟩ :
      ∃ n, (Service.search {} {} (SearchRequest.forListings.asking (.text "Petrov Ivan"))).result = .ok n := ⟨_, rfl⟩
  refine ⟨hwords, (case_and_blanks_do_not_matter "  Petrov\tIvan " "Petrov Ivan").1 hwords, hcase, ?_⟩
  refine ((case_and_blanks_do_not_matter "  PETROV ivan " "Petrov Ivan").2 _ hprovider rfl rfl hcase).resolve_left ?_
  rintro ⟨e, -, he⟩
  rw [hn] at he
  cases he

end EntitySearch
