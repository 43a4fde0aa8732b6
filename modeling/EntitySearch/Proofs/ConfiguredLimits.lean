import EntitySearch.Proofs.LoadedSettings
import EntitySearch.Proofs.ResultCap
import EntitySearch.Proofs.Stages
import EntitySearch.Session

/-!
# Limits from the settings to the searches

A service that is set up from loaded settings (`Service.ofSettings`) refuses a query for its length only when that exceeds a
positive limit (`Service.tooLong_ofSettings_iff`). It puts a limit on a result when it is asked for a positive one, and then a
limit within what was asked for and within a positive cap (`settings_limit_searches`).
-/

namespace EntitySearch

/-! ## Limits of operations -/

namespace Operation

/-- The limits that operations set, in order. -/
def limits (ops : List Operation) : List Int := ops.filterMap fun
  | .limit n => some n
  | _ => none

theorem limits_append (ops os : List Operation) : limits (ops ++ os) = limits ops ++ limits os := List.filterMap_append

/-- A definition prepares a collection without limits. -/
theorem limits_preparation (d : Definition) : limits d.preparation = [] := by
  rw [limits, List.filterMap_eq_nil_iff]
  intro o ho
  rcases List.mem_append.mp ho with ho | ho
  · obtain ⟨path, -, rfl⟩ := List.mem_map.mp ho
    rfl
  · split at ho
    · rw [List.mem_singleton.mp ho]
    · cases ho

end Operation

/-! ## What providers fail with -/

/-- Whether a failure says that a query is too long. -/
def Failure.IsTooLong (f : Failure) : Prop := ∃ v, f = .domain (.queryTooLong v)

/-- A predicate that does not compile is no query that is too long. -/
theorem Failure.IsUncompilable.not_isTooLong {f : Failure} (h : f.IsUncompilable) : ¬f.IsTooLong := by
  rintro ⟨v, rfl⟩
  exact h

namespace Collection

variable {c c' : Collection} {s s' : Select} {o : Operation} {ops : List Operation} {f : Failure}

/-- No operation fails for the length of a query. -/
theorem not_isTooLong_of_perform (h : c.perform o = .error f) : ¬f.IsTooLong := by
  rintro ⟨v, rfl⟩
  cases c with
  | recording operations => cases h
  | select s =>
    cases o with
    | outerJoin path =>
      have hjoin : s.outerJoin path = .error (.domain (.queryTooLong v)) := map_eq_error.mp h
      by_cases hpath : s.root.HasPath path
      · obtain ⟨s', hs', -⟩ := Select.exists_outerJoin hpath
        cases hs'.symm.trans hjoin
      · obtain ⟨u, name, -, herror⟩ := Select.exists_outerJoin_eq_error hpath
        cases herror.symm.trans hjoin
    | distinct => cases h
    | limit n => cases h
    | filter condition => cases condition <;> cases h

/-- Several operations do not fail for the length of a query. -/
theorem not_isTooLong_of_performAll (h : c.performAll ops = .error f) : ¬f.IsTooLong := by
  induction ops generalizing c with
  | nil => cases h
  | cons o ops ih =>
    rw [performAll_cons] at h
    rcases bind_eq_error.mp h with hfirst | ⟨c', -, hrest⟩
    · exact not_isTooLong_of_perform hfirst
    · exact ih hrest

/-- An operation on a statement changes its limit when it sets one, and only then. -/
theorem exists_select_of_perform (h : (select s).perform o = .ok c) :
    ∃ s', c = .select s' ∧ s'.limit = (Operation.limits [o]).getLast?.or s.limit := by
  cases o with
  | outerJoin path =>
    obtain ⟨s', hjoin, rfl⟩ := map_eq_ok.mp h
    exact ⟨s', rfl, (Select.growsInto_walk hjoin).limit⟩
  | distinct => exact ⟨_, (Except.ok.inj h).symm, rfl⟩
  | limit n => exact ⟨_, (Except.ok.inj h).symm, rfl⟩
  | filter condition =>
    cases condition with
    | clause d => exact ⟨_, (Except.ok.inj h).symm, rfl⟩
    | text condition => cases h

/-- Operations on a statement leave it with the last limit that they set, or else with the one it had. -/
theorem limit_of_performAll (h : (select s).performAll ops = .ok c) :
    ∃ s', c = .select s' ∧ s'.limit = (Operation.limits ops).getLast?.or s.limit := by
  have hstep : ∀ os o mid c', mid.limit = (Operation.limits os).getLast?.or s.limit → (select mid).perform o = .ok c' →
      ∃ s', c' = .select s' ∧ s'.limit = (Operation.limits (os ++ [o])).getLast?.or s.limit := by
    intro os o mid c' hmid hperform
    obtain ⟨s', rfl, hlimit⟩ := exists_select_of_perform hperform
    exact ⟨s', rfl, by rw [hlimit, hmid, Operation.limits_append, List.getLast?_append, Option.or_assoc]⟩
  exact performAll_keeps hstep [] rfl h

end Collection

/-- No operation on a narrowed collection fails for the length of a query. -/
theorem Narrowed.not_isTooLong_of_perform {n : Narrowed} {o : Operation} {f : Failure} (h : n.perform o = .error f) :
    ¬f.IsTooLong :=
  Collection.not_isTooLong_of_perform (map_eq_error.mp h)

namespace Provider

variable {p : Provider} {c : Collection} {d : Definition} {query : String} {context : SearchContext} {ps : List Expr}
  {n n' : Narrowed} {f : Failure}

/-- Filtering by predicates limits nothing. -/
theorem follows_of_filterByAny (h : n.Follows c) (hn : filterByAny ps n = .ok n') :
    n'.Follows c ∧ Operation.limits n'.operations = Operation.limits n.operations := by
  rw [filterByAny] at hn
  split at hn
  · cases hn
    exact ⟨h, rfl⟩
  · split at hn
    · cases hn
    · rename_i clause hclause
      obtain ⟨hops, hfollows⟩ := h.perform hn
      exact ⟨hfollows, by rw [hops, Operation.limits_append]; exact List.append_nil _⟩

/-- Filtering does not fail for the length of a query. -/
theorem not_isTooLong_of_filterByAny (h : filterByAny ps n = .error f) : ¬f.IsTooLong := by
  rw [filterByAny] at h
  split at h
  · cases h
  · split at h
    · rename_i e hany
      rw [← Except.error.inj h]
      exact (Clause.isUncompilable_ofExpr _ hany).not_isTooLong
    · exact Narrowed.not_isTooLong_of_perform h

/-- What a provider makes of a collection is the collection after operations, none of which is a limit. -/
theorem follows_of_apply (h : (p.apply c d query context).result = .ok n) :
    n.Follows c ∧ Operation.limits n.operations = [] := by
  cases p with
  | trigram =>
    rw [apply, applyTrigram] at h
    split at h
    · cases h
    · rename_i prepared hprepared
      obtain ⟨hfollows, hlimits⟩ := follows_of_filterByAny (n := ⟨d.preparation, prepared⟩) hprepared h
      exact ⟨hfollows, hlimits.trans (Operation.limits_preparation d)⟩
  | stub =>
    cases h
    exact ⟨rfl, rfl⟩
  | echo =>
    obtain ⟨hops, hfollows⟩ := Narrowed.Follows.perform (n := .untouched c) rfl h
    exact ⟨hfollows, by rw [hops]; rfl⟩

/-- No provider fails for the length of a query. -/
theorem not_isTooLong_of_apply (h : (p.apply c d query context).result = .error f) : ¬f.IsTooLong := by
  cases p with
  | trigram =>
    rw [apply, applyTrigram] at h
    split at h
    · rename_i e hfirst
      rw [← Except.error.inj h]
      exact Collection.not_isTooLong_of_performAll hfirst
    · exact not_isTooLong_of_filterByAny h
  | stub => cases h
  | echo => exact Narrowed.not_isTooLong_of_perform h

end Provider

/-! ## What services fail with -/

namespace Service

variable {service : Service} {around : Surroundings} {request : SearchRequest} {cs : List Char} {f : Failure} {v : Value}

/-- Whatever the limit, narrowing fails before a provider is asked, or ends in what a provider makes of the collection, capped. -/
theorem narrow_withLimit (service : Service) (around : Surroundings) (request : SearchRequest) (cs : List Char) :
    (∃ f : Failure, ¬f.IsTooLong ∧
      ∀ k, (service.narrow around (request.withLimit k) (.ofNormalized cs)).result = .error f) ∨
    ∃ (d : Definition) (p : Provider), ∀ k, (service.narrow around (request.withLimit k) (.ofNormalized cs)).result =
      (p.apply request.collection d (String.ofList cs) (request.contextIn around)).result >>=
        cap (effectiveLimit service.config.maxResults k) := by
  cases hd : service.registry.definitionFor request.entity with
  | error e =>
    have hlost (k : Option Int) : service.registry.definitionFor (request.withLimit k).entity = .error e := hd
    refine .inl ⟨e, ?_, fun k => by rw [narrow, hlost]⟩
    rw [Registry.definitionFor] at hd
    split at hd <;> cases hd
    rintro ⟨v, hv⟩
    cases hv
  | ok d =>
    have hfound (k : Option Int) : service.registry.definitionFor (request.withLimit k).entity = .ok d := hd
    cases hp : around.providers.create service.config.provider with
    | error e =>
      refine .inl ⟨e, ?_, fun k => by rw [narrow, hfound, hp]⟩
      rw [ProviderTable.create] at hp
      split at hp <;> cases hp
      rintro ⟨v, hv⟩
      cases hv
    | ok p => exact .inr ⟨d, p, fun k => by rw [narrow_of_found (hfound k) hp]; rfl⟩

/-- Capping does not fail for the length of a query. -/
theorem not_isTooLong_of_cap {limit : Option Int} {n : Narrowed} (h : cap limit n = .error f) : ¬f.IsTooLong := by
  cases limit with
  | none => cases h
  | some k => exact Narrowed.not_isTooLong_of_perform h

/-- What is done with a query that has been read does not fail for its length. -/
theorem not_isTooLong_of_narrow (h : (service.narrow around request (.ofNormalized cs)).result = .error f) :
    ¬f.IsTooLong := by
  rcases narrow_withLimit service around request cs with ⟨e, he, hfails⟩ | ⟨d, p, hends⟩
  · rw [show request = request.withLimit request.limit from rfl, hfails] at h
    rwa [← Except.error.inj h]
  · rw [show request = request.withLimit request.limit from rfl, hends] at h
    rcases bind_eq_error.mp h with h | ⟨n, -, h⟩
    · exact Provider.not_isTooLong_of_apply h
    · exact not_isTooLong_of_cap h

/-- A search fails for the length of its query when the service refuses it, and only then. -/
theorem result_search_eq_queryTooLong_iff :
    (service.search around request).result = .error (.domain (.queryTooLong v)) ↔
      service.Refuses request ∧ v = Value.ofInt? service.config.queryMaxLength := by
  constructor
  · intro h
    rcases blank_or_refuses_or_reads service request with hblank | hrefuses | hreads
    · rw [search, ParsedQuery.ofRaw_of_blank hblank] at h
      cases h
    · rw [search_of_refuses hrefuses] at h
      cases h
      exact ⟨hrefuses, rfl⟩
    · rw [search_of_reads hreads] at h
      exact absurd ⟨v, rfl⟩ (not_isTooLong_of_narrow h)
  · rintro ⟨hrefuses, rfl⟩
    rw [search_of_refuses hrefuses]
    rfl

/-! ## Limits of services -/

/-- A search with a limit ends as the search without one does, capped. -/
theorem result_search_withLimit (service : Service) (around : Surroundings) (hgiven : request.query ≠ .null)
    (hne : request.text ≠ []) (limit : Option Int) :
    (service.search around (request.withLimit limit)).result =
      (service.search around (request.withLimit none)).result >>= cap (effectiveLimit service.config.maxResults limit) := by
  cases hlen : ParsedQuery.exceeds service.config.queryMaxLength request.text with
  | true =>
    have hrefuses (k : Option Int) : service.Refuses (request.withLimit k) := ⟨hgiven, hne, hlen⟩
    rw [search_of_refuses (hrefuses limit), search_of_refuses (hrefuses none)]
    rfl
  | false =>
    have hreads (k : Option Int) : service.Reads (request.withLimit k) := ⟨hgiven, hne, hlen⟩
    rw [search_of_reads (hreads limit), search_of_reads (hreads none)]
    show Application.result _ = Application.result _ >>= _
    rcases narrow_withLimit service around request request.text with ⟨e, -, hfails⟩ | ⟨d, p, hends⟩
    · exact (hfails limit).trans (congrArg (· >>= _) (hfails none).symm)
    · refine (hends limit).trans (congrArg (· >>= _) ?_)
      exact ((hends none).trans (bind_pure _)).symm

/-- Without a limit a search puts none on the collection. -/
theorem follows_of_search (hgiven : request.query ≠ .null) (hne : request.text ≠ []) {n : Narrowed}
    (h : (service.search around (request.withLimit none)).result = .ok n) :
    n.Follows request.collection ∧ Operation.limits n.operations = [] := by
  rcases blank_or_refuses_or_reads service (request.withLimit none) with hblank | hrefuses | hreads
  · exact absurd hblank (not_or.mpr ⟨hgiven, hne⟩)
  · rw [search_of_refuses hrefuses] at h
    cases h
  · rw [search_of_reads hreads] at h
    rcases narrow_withLimit service around request request.text with ⟨e, -, hfails⟩ | ⟨d, p, hends⟩
    · cases (hfails none).symm.trans h
    · obtain ⟨n', hn', hcap⟩ := bind_eq_ok.mp ((hends none).symm.trans h)
      cases hcap
      exact Provider.follows_of_apply hn'

/-- Without a limit, or with one that is not positive, a search ends as one without a limit does. -/
theorem result_search_of_no_limit (hgiven : request.query ≠ .null) (hne : request.text ≠ [])
    (hk : ∀ k, request.limit = some k → k ≤ 0) :
    (service.search around request).result = (service.search around (request.withLimit none)).result := by
  have hcapped := result_search_withLimit service around hgiven hne request.limit
  rw [effectiveLimit_eq_none hk] at hcapped
  exact hcapped.trans (bind_pure _)

/-- With a positive limit a search puts one more limit on what the search without one ends in, within the limit and within a
positive cap. -/
theorem exists_result_search_capped (hgiven : request.query ≠ .null) (hne : request.text ≠ []) {n : Narrowed}
    (hn : (service.search around (request.withLimit none)).result = .ok n) {k : Int} (hlimit : request.limit = some k)
    (hk : 0 < k) : ∃ j capped, 1 ≤ j ∧ j ≤ k ∧ (∀ m, service.config.maxResults = some m → 0 < m → j ≤ m) ∧
      (service.search around request).result = .ok capped ∧ capped.operations = n.operations ++ [.limit j] ∧
      capped.Follows request.collection := by
  obtain ⟨j, hj, hpos, hle, hcap⟩ := exists_effectiveLimit service.config.maxResults hk
  obtain ⟨hfollows, -⟩ := follows_of_search hgiven hne hn
  obtain ⟨capped, hok, hops, hall⟩ := exists_cap n (some j)
  have hcapped : (service.search around request).result = _ :=
    result_search_withLimit service around hgiven hne request.limit
  rw [hn, hlimit, hj] at hcapped
  exact ⟨j, capped, hpos, hle, hcap, hcapped.trans hok, hops, hfollows.append hops hall⟩

/-! ## Services from settings -/

/-- The service that is set up from settings. -/
def ofSettings (s : Settings) (registry : Registry) : Service := ⟨.ofSettings s, registry⟩

end Service

/-- A limit of the settings counts unless it is zero. -/
theorem SearchConfig.limit?_eq_some_iff {n m : Int} : limit? n = some m ↔ n = m ∧ n ≠ 0 := by
  rw [limit?]
  split <;> simp_all

/-- Sources of settings as a session sees them: with the variables of its own environment besides those given. -/
def SettingsSources.seenBy (given : SettingsSources) (session : Session) : SettingsSources :=
  { given with environment := session.settings.environment.assignAll (given.environment.map fun e => (e.1, some e.2)) }

namespace Session

/-- A session that builds a service from settings searches with the service that is set up from them. -/
theorem current_buildService {session : Session} {given : SettingsSources} {s : Settings} {registry : Registry}
    (h : Settings.load (given.seenBy session) = .ok s) :
    (session.buildService (.settings given) (.ok registry)).1.current =
      some ⟨session.built, .ofSettings s registry⟩ := by
  have hconfig : (ServiceSource.settings given).config? session.settings.environment = .ok (.ofSettings s) := by
    exact congrArg (Except.map SearchConfig.ofSettings) h
  simp only [buildService, hconfig]
  rfl

end Session

namespace Service

variable {s : Settings} {registry : Registry} {around : Surroundings} {request : SearchRequest}

/-- A service from settings refuses a query that is longer than a positive limit. -/
theorem refuses_ofSettings_iff (hgiven : request.query ≠ .null) (hne : request.text ≠ [])
    (hlength : 0 ≤ s.searchQueryMaxLength) : (ofSettings s registry).Refuses request ↔
      0 < s.searchQueryMaxLength ∧ s.searchQueryMaxLength < request.text.length := by
  have hexceeds : ParsedQuery.exceeds (SearchConfig.limit? s.searchQueryMaxLength) request.text = true ↔
      0 < s.searchQueryMaxLength ∧ s.searchQueryMaxLength < request.text.length := by
    rw [ParsedQuery.exceeds_eq_true_iff]
    constructor
    · rintro ⟨m, hm, hpos, hlt⟩
      obtain ⟨rfl, -⟩ := SearchConfig.limit?_eq_some_iff.mp hm
      exact ⟨by omega, hlt⟩
    · rintro ⟨hpos, hlt⟩
      exact ⟨_, SearchConfig.limit?_eq_some_iff.mpr ⟨rfl, by omega⟩, by omega, hlt⟩
  rw [← hexceeds]
  exact ⟨fun h => h.2.2, fun h => ⟨hgiven, hne, h⟩⟩

/-- A service from settings refuses a query for its length when that exceeds a positive limit, and only then. -/
theorem tooLong_ofSettings_iff (hgiven : request.query ≠ .null) (hne : request.text ≠ [])
    (hlength : 0 ≤ s.searchQueryMaxLength) {v : Value} :
    ((ofSettings s registry).search around request).result = .error (.domain (.queryTooLong v)) ↔
      v = .int s.searchQueryMaxLength ∧ 0 < s.searchQueryMaxLength ∧ s.searchQueryMaxLength < request.text.length := by
  rw [result_search_eq_queryTooLong_iff, refuses_ofSettings_iff hgiven hne hlength, and_comm]
  refine and_congr_left fun ⟨hpos, _⟩ => ?_
  have hlimit : (ofSettings s registry).config.queryMaxLength = some s.searchQueryMaxLength :=
    SearchConfig.limit?_eq_some_iff.mpr ⟨rfl, by omega⟩
  rw [hlimit]
  rfl

end Service

/-! ## The law of the limits -/

/-- Operations lead to a statement from a statement only, and the last limit among them is the one that it has. -/
theorem Narrowed.Follows.limit_eq {n : Narrowed} {c : Collection} {found : Select} (h : n.Follows c)
    (hfound : n.collection = .select found) :
    ∃ start, c = .select start ∧ found.limit = (Operation.limits n.operations).getLast?.or start.limit := by
  rw [Narrowed.Follows, hfound] at h
  cases c with
  | recording operations =>
    rw [Collection.performAll_recording] at h
    cases h
  | select start =>
    obtain ⟨s', hs', hlimit⟩ := Collection.limit_of_performAll h
    cases hs'
    exact ⟨start, rfl, hlimit⟩

/-- **From the settings to the searches.** Settings whose fields can be read are loaded when their provider has a name and
neither limit is negative, and else fail the first of these checks that they violate. The service that a session builds from
loaded settings refuses a query that is not blank for its length when that exceeds a positive greatest length, and only then.
Without a limit, or with one that is not positive, it puts none on what it finds; with a positive one it puts on exactly one,
which is positive, within what it was asked for and within a positive result cap. -/
theorem settings_limit_searches (sources : SettingsSources) :
    (∀ read, sources.Reads read →
      ((∃ s, Settings.load sources = .ok s) ↔
        ¬read.IsUnnamed ∧ 0 ≤ read.searchQueryMaxLength ∧ 0 ≤ read.searchMaxResults) ∧
      (∀ s, Settings.load sources = .ok s → s = read) ∧
      (read.IsUnnamed → Settings.load sources = .error (.settings [⟨none, .blankProvider⟩])) ∧
      (¬read.IsUnnamed → read.searchQueryMaxLength < 0 →
        Settings.load sources = .error (.settings [⟨none, .negativeQueryLength read.searchQueryMaxLength⟩])) ∧
      (¬read.IsUnnamed → 0 ≤ read.searchQueryMaxLength → read.searchMaxResults < 0 →
        Settings.load sources = .error (.settings [⟨none, .negativeResultCap read.searchMaxResults⟩]))) ∧
    ∀ s, Settings.load sources = .ok s → ∀ registry : Registry, let service := Service.ofSettings s registry
      (∀ (session : Session) (given : SettingsSources), given.seenBy session = sources →
        (session.buildService (.settings given) (.ok registry)).1.current = some ⟨session.built, service⟩) ∧
      ∀ (around : Surroundings) (request : SearchRequest),
        request.query ≠ .null → (∃ c ∈ request.query.display.toList, Text.isBlank c = false) →
        (∀ v, (service.search around request).result = .error (.domain (.queryTooLong v)) ↔
          v = .int s.searchQueryMaxLength ∧ 0 < s.searchQueryMaxLength ∧
            s.searchQueryMaxLength < request.text.length) ∧
        (∀ f, (service.search around (request.withLimit none)).result = .error f →
          (service.search around request).result = .error f) ∧
        ∀ n, (service.search around (request.withLimit none)).result = .ok n →
          n.Follows request.collection ∧ Operation.limits n.operations = [] ∧
          (∀ found, n.collection = .select found →
            ∃ start, request.collection = .select start ∧ found.limit = start.limit) ∧
          ((∀ k, request.limit = some k → k ≤ 0) → (service.search around request).result = .ok n) ∧
          ∀ k, request.limit = some k → 0 < k → ∃ j capped, 1 ≤ j ∧ j ≤ k ∧
            (0 < s.searchMaxResults → j ≤ s.searchMaxResults) ∧ (service.search around request).result = .ok capped ∧
            capped.operations = n.operations ++ [.limit j] ∧ capped.Follows request.collection ∧
            ∀ found, capped.collection = .select found → found.limit = some j := by
  refine ⟨fun read hread => ⟨?_, fun s hs => ((Settings.load_eq_ok_iff hread).mp hs).1, fun hname => ?_,
    fun hname hlength => ?_, fun hname hlength hresults => ?_⟩, fun s hload registry => ⟨fun session given hseen => ?_,
    fun around request hgiven hwords => ?_⟩⟩
  · simp only [Settings.load_eq_ok_iff hread, exists_eq_left]
  · exact Settings.load_of_fault? hread (Settings.fault?_of_isUnnamed hname)
  · exact Settings.load_of_fault? hread (Settings.fault?_of_negativeQueryLength hname hlength)
  · exact Settings.load_of_fault? hread (Settings.fault?_of_negativeResultCap hname hlength hresults)
  · exact Session.current_buildService (hseen ▸ hload)
  have hlength : 0 ≤ s.searchQueryMaxLength := (Settings.fault?_eq_none_iff.mp (Settings.reads_of_load hload).2).2.1
  have hne : request.text ≠ [] := by
    obtain ⟨c, hc, hblank⟩ := hwords
    intro hnil
    rw [Service.text_eq_nil_iff.mp hnil c hc] at hblank
    cases hblank
  refine ⟨fun v => Service.tooLong_ofSettings_iff hgiven hne hlength, fun f hf => ?_, fun n hn => ?_⟩
  · have hcapped := Service.result_search_withLimit (.ofSettings s registry) around hgiven hne request.limit
    rw [hf] at hcapped
    exact hcapped
  · obtain ⟨hfollows, hnone⟩ := Service.follows_of_search hgiven hne hn
    refine ⟨hfollows, hnone, fun found hfound => ?_, fun hk => ?_, fun k hlimit hk => ?_⟩
    · obtain ⟨start, hstart, hlast⟩ := hfollows.limit_eq hfound
      exact ⟨start, hstart, by rw [hlast, hnone]; rfl⟩
    · exact (Service.result_search_of_no_limit hgiven hne hk).trans hn
    · obtain ⟨j, capped, hpos, hle, hcap, hok, hops, hleads⟩ :=
        Service.exists_result_search_capped hgiven hne hn hlimit hk
      refine ⟨j, capped, hpos, hle, fun hM => ?_, hok, hops, hleads, fun found hfound => ?_⟩
      · exact hcap _ (SearchConfig.limit?_eq_some_iff.mpr ⟨rfl, by omega⟩) hM
      · obtain ⟨start, -, hlast⟩ := hleads.limit_eq hfound
        rw [hlast, hops, Operation.limits_append, hnone]
        rfl

namespace Sample

/-- An argument that allows queries of any length, a variable that caps results, and a file with a higher cap. -/
def sources : SettingsSources where
  arguments := [("search_query_max_length", .int 0)]
  environment := [("SEARCH_MAX_RESULTS", " 3 ")]
  file := [("search_max_results", some "50"), ("SEARCH_PROVIDER", some "postgres"), ("DEBUG", none)]

/-- What is read from them. -/
def settings : Settings := { searchQueryMaxLength := 0, searchMaxResults := 3 }

/-- The argument counts before the variables, and the variable before the file. -/
theorem sources_reads : sources.Reads settings where
  debug := Settings.field_eq_ok_iff.mp (by decide +kernel)
  databaseUrl := Settings.field_eq_ok_iff.mp (by decide +kernel)
  databaseEcho := Settings.field_eq_ok_iff.mp (by decide +kernel)
  searchProvider := Settings.field_eq_ok_iff.mp (by decide +kernel)
  searchQueryMaxLength := Settings.field_eq_ok_iff.mp (by decide +kernel)
  searchMaxResults := Settings.field_eq_ok_iff.mp (by decide +kernel)

end Sample

/-- A limit beyond the cap of the environment is put on as far as the cap lets it. -/
theorem environment_caps_limit : Sample.sources.Reads Sample.settings ∧ ∃ j capped,
    ((Service.ofSettings Sample.settings .standard).search {} ((Sample.request .listings []).withLimit (some 5))).result =
      .ok capped ∧ Operation.limits capped.operations = [j] ∧ 1 ≤ j ∧ j ≤ 3 := by
  obtain ⟨hloads, hsearches⟩ := settings_limit_searches Sample.sources
  obtain ⟨hiff, hsame, -⟩ := hloads Sample.settings Sample.sources_reads
  have hnamed : ¬Sample.settings.IsUnnamed := fun hblank => absurd (hblank 'p' (by decide +kernel)) (by decide +kernel)
  obtain ⟨s, hs⟩ := hiff.mpr ⟨hnamed, by decide, by decide⟩
  obtain rfl := hsame s hs
  have hsample : Service.Accepts {} {} (Sample.request .listings []) .listings [] :=
    Sample.accepts _ (List.forall_mem_nil _)
  have haccepts : (Service.ofSettings Sample.settings .standard).Accepts {} (Sample.request .listings []) .listings [] :=
    ⟨rfl, rfl, hsample.entity, hsample.collection, hsample.ownColumns, rfl,
      ⟨hsample.reads.given, hsample.reads.nonempty, rfl⟩⟩
  obtain ⟨-, hlaw⟩ := hsearches _ hs .standard
  obtain ⟨-, -, hlimits⟩ := hlaw {} ((Sample.request .listings []).withLimit (some 5))
    hsample.reads.given ⟨'s', by decide +kernel, by decide +kernel⟩
  obtain ⟨found, hfound, -⟩ := Service.exists_found haccepts
  cases hn : ((Service.ofSettings Sample.settings .standard).search {} (Sample.request .listings [])).result with
  | error e =>
    rw [SearchOutcome.statement?, hn] at hfound
    cases hfound
  | ok n =>
    obtain ⟨-, hnone, -, -, hpositive⟩ := hlimits n hn
    obtain ⟨j, capped, hpos, -, hcap, hok, hops, -⟩ := hpositive 5 rfl (by decide)
    exact ⟨Sample.sources_reads, j, capped, hok, by rw [hops, Operation.limits_append, hnone]; rfl, hpos, hcap (by decide)⟩

end EntitySearch
