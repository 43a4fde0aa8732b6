import EntitySearch.Service
import EntitySearch.Proofs.NormalForm
import EntitySearch.Proofs.Rules
import EntitySearch.Proofs.Statement

/-!
# From searches to statements

A search that reads its query, finds its definition and uses the trigram provider ends in the statement that the definition
prepares, narrowed by the conditions of the predicates (`Service.statement?_search`); a blank query leaves the statement as it
is. A narrowed statement selects what the statement does and one of the conditions lets through (`Select.mem_run_narrowedBy`).
Of the limits that are asked for only positive ones count, as far as a positive cap lets them (`Service.exists_effectiveLimit`).
-/

namespace EntitySearch

/-! ## What a search ends in -/

/-- The statement that a search ends in, if it ends in one. -/
def SearchOutcome.statement? (o : SearchOutcome) : Option Select :=
  match o.result with
  | .ok ⟨_, .select s⟩ => some s
  | _ => none

/-- A search that ends in a statement ends in that one. -/
theorem SearchOutcome.statement?_eq_some {o : SearchOutcome} {n : Narrowed} {s : Select} (h : o.result = .ok n)
    (hs : n.collection = .select s) : o.statement? = some s := by
  obtain ⟨ops, c⟩ := n
  rw [statement?, h, show c = .select s from hs]

/-- The text of the query of a request: its words, with single spaces between them. -/
def SearchRequest.text (r : SearchRequest) : List Char := Query.normalize r.query.display.toList

/-- Neither conditions that are clauses nor limits are refused. -/
theorem Narrowed.exists_perform (n : Narrowed) {o : Operation} (h : (∃ c, o = .filter (.clause c)) ∨ ∃ k, o = .limit k) :
    ∃ c, n.collection.perform o = .ok c ∧ n.perform o = .ok ⟨n.operations ++ [o], c⟩ := by
  obtain ⟨c, hc⟩ : ∃ c, n.collection.perform o = .ok c := by
    rcases h with ⟨d, rfl⟩ | ⟨k, rfl⟩
    · cases n.collection <;> exact ⟨_, rfl⟩
    · cases n.collection <;> exact ⟨_, rfl⟩
  refine ⟨c, hc, ?_⟩
  rw [perform, hc]
  rfl

/-! ## Limits -/

namespace Service

variable {maxResults limit : Option Int}

/-- Without a limit, or with one that is not positive, nothing is capped. -/
theorem effectiveLimit_eq_none (h : ∀ k, limit = some k → k ≤ 0) : effectiveLimit maxResults limit = none := by
  cases limit with
  | none => rfl
  | some k => exact if_pos (h k rfl)

/-- A positive cap bounds a positive limit. -/
theorem effectiveLimit_of_cap {k m : Int} (hk : 0 < k) (hm : 0 < m) : effectiveLimit (some m) (some k) = some (min k m) := by
  simp [effectiveLimit, Int.not_le.mpr hk, hm]

/-- Without a positive cap a positive limit counts as it is. -/
theorem effectiveLimit_of_no_cap {k : Int} (hk : 0 < k) (h : ∀ m, maxResults = some m → m ≤ 0) :
    effectiveLimit maxResults (some k) = some k := by
  cases maxResults with
  | none => simp [effectiveLimit, Int.not_le.mpr hk]
  | some m => simp [effectiveLimit, Int.not_le.mpr hk, Int.not_lt.mpr (h m rfl)]

/-- A positive limit leaves a positive one, within it and within a positive cap. -/
theorem exists_effectiveLimit (maxResults : Option Int) {k : Int} (hk : 0 < k) :
    ∃ j, effectiveLimit maxResults (some k) = some j ∧ 0 < j ∧ j ≤ k ∧ ∀ m, maxResults = some m → 0 < m → j ≤ m := by
  by_cases h : ∀ m, maxResults = some m → m ≤ 0
  · exact ⟨k, effectiveLimit_of_no_cap hk h, hk, Int.le_refl k, fun m hm hpos => absurd hpos (Int.not_lt.mpr (h m hm))⟩
  · simp only [not_forall] at h
    obtain ⟨m, rfl, hm⟩ := h
    have hm : 0 < m := Int.not_le.mp hm
    refine ⟨min k m, effectiveLimit_of_cap hk hm, Int.lt_min.mpr ⟨hk, hm⟩, Int.min_le_left k m, ?_⟩
    rintro m' hm' -
    rw [← Option.some.inj hm']
    exact Int.min_le_right k m

end Service

/-! ## Narrowed statements -/

namespace Select

/-- The statement narrowed to what one of several conditions lets through; without conditions it stays as it is. -/
def narrowedBy (s : Select) (cs : List Clause) : Select :=
  if cs.isEmpty then s else s.filter (Clause.chainAll .disjunction cs)

variable {b : Backend} {db : Database} {s : Select} {cs : List Clause}

/-- Conditions leave the relationships of a statement. -/
theorem relations_narrowedBy (s : Select) (cs : List Clause) : (s.narrowedBy cs).relations = s.relations := by
  unfold narrowedBy
  split <;> rfl

theorem root_narrowedBy (s : Select) (cs : List Clause) : (s.narrowedBy cs).root = s.root := by
  unfold narrowedBy
  split <;> rfl

theorem distinct_narrowedBy (s : Select) (cs : List Clause) : (s.narrowedBy cs).distinct = s.distinct := by
  unfold narrowedBy
  split <;> rfl

/-- A statement stays closed when it is narrowed by conditions on tables that it has joined. -/
theorem IsClosed.narrowedBy (h : s.IsClosed)
    (hcs : ∀ name ∈ Clause.tablesOf cs, name ∈ (s.root :: s.relations.map (·.target)).map Table.name) :
    (s.narrowedBy cs).IsClosed := by
  unfold Select.narrowedBy
  split
  · exact h
  · refine ⟨h.projection, h.limit, fun name hname => ?_⟩
    rw [filter, Clause.tablesOf_append, Clause.tablesOf, Clause.tablesOf, List.append_nil, Clause.tables_chainAll,
      List.mem_append] at hname
    exact hname.elim (h.tables name) (hcs name)

/-- A narrowed statement lets a combination through when the statement does and a condition that holds anything does. -/
theorem forall_passes_narrowedBy {cells : Contents} :
    (∀ c ∈ (s.narrowedBy cs).conditions, c.passes b cells = true) ↔
      (∀ c ∈ s.conditions, c.passes b cells = true) ∧
        (Clause.areVoid cs = true ∨ ∃ c ∈ cs, c.isVoid = false ∧ c.passes b cells = true) := by
  unfold narrowedBy
  cases cs with
  | nil => simp [Clause.areVoid]
  | cons c cs =>
    rw [← Clause.passes_disjunction]
    simp [filter, or_imp, forall_and]

/-- A narrowed statement selects the rows of its root for which some full combination meets the conditions of the statement
and one of the conditions it is narrowed by. -/
theorem mem_run_narrowedBy (h : (s.narrowedBy cs).IsClosed) {r : Row} :
    r ∈ (s.narrowedBy cs).run b db ↔ r ∈ db.rows s.root ∧ ∃ bound, Joined db s.relations [(s.root, some r)] bound ∧
      (∀ c ∈ s.conditions, c.passes b bound.contents = true) ∧
      (Clause.areVoid cs = true ∨ ∃ c ∈ cs, c.isVoid = false ∧ c.passes b bound.contents = true) := by
  rw [mem_run h, relations_narrowedBy, root_narrowedBy]
  simp only [forall_passes_narrowedBy]

end Select

/-! ## Searches -/

namespace Service

/-- Whether a service has a definition for the entity of a request and the trigram provider to search with, and the request
sets no limit. -/
structure Takes (service : Service) (around : Surroundings) (request : SearchRequest) (d : Definition) : Prop where
  definition : service.registry.definitionFor request.entity = .ok d
  provider : around.providers.create service.config.provider = .ok .trigram
  limit : request.limit = none

/-- Whether the query of a request is neither null nor blank, and not too long for the service. -/
structure Reads (service : Service) (request : SearchRequest) : Prop where
  given : request.query ≠ .null
  nonempty : request.text ≠ []
  within : ParsedQuery.exceeds service.config.queryMaxLength request.text = false

/-- Whether the query of a request is too long for the service. -/
def Refuses (service : Service) (request : SearchRequest) : Prop :=
  request.query ≠ .null ∧ request.text ≠ [] ∧ ParsedQuery.exceeds service.config.queryMaxLength request.text = true

variable {service : Service} {around : Surroundings} {request : SearchRequest} {d : Definition} {start prepared : Select}

/-- A blank query leaves the statement as it is. -/
theorem statement?_search_of_blank (hcol : request.collection = .select start)
    (hblank : request.query = .null ∨ request.text = []) : (service.search around request).statement? = some start := by
  simp only [search, ParsedQuery.ofRaw_of_blank hblank, finish, SearchOutcome.statement?, Narrowed.untouched, hcol]

/-- A search with a query that is too long fails and logs nothing. -/
theorem search_of_refuses (h : service.Refuses request) :
    service.search around request =
      finish request [] [] (.error (.domain (.queryTooLong (Value.ofInt? service.config.queryMaxLength)))) := by
  obtain ⟨hgiven, hne, hlen⟩ := h
  rw [search, ParsedQuery.ofRaw_of_exceeds hgiven hne hlen]

/-- A search with a query that is too long ends in no statement. -/
theorem statement?_search_of_refuses (h : service.Refuses request) : (service.search around request).statement? = none := by
  rw [search_of_refuses h]
  rfl

/-- A search whose query is read writes its audit line and then narrows the collection. -/
theorem search_of_reads (h : service.Reads request) :
    service.search around request =
      finish request
        (auditLine request.entity (request.contextIn around) (String.ofList (Query.mask request.text)) ::
          (service.narrow around request (.ofNormalized request.text)).logs)
        (searchAttributes request.entity (request.contextIn around))
        (service.narrow around request (.ofNormalized request.text)).result := by
  have hq : ParsedQuery.ofRaw service.config.queryMaxLength request.query = .ok (some (.ofNormalized request.text)) :=
    ParsedQuery.ofRaw_eq_some h.given h.nonempty h.within
  rw [search, hq]
  rfl

/-- With a definition and a provider at hand, the collection is what the provider makes of it, capped. -/
theorem narrow_of_found {p : Provider} (hd : service.registry.definitionFor request.entity = .ok d)
    (hp : around.providers.create service.config.provider = .ok p) (cs : List Char) :
    service.narrow around request (.ofNormalized cs) =
      ⟨(p.apply request.collection d (String.ofList cs) (request.contextIn around)).logs,
        (p.apply request.collection d (String.ofList cs) (request.contextIn around)).result >>=
          cap (effectiveLimit service.config.maxResults request.limit)⟩ := by
  simp only [narrow, hd, hp, ParsedQuery.ofNormalized]
  cases (p.apply request.collection d (String.ofList cs) (request.contextIn around)).result <;> rfl

/-- A search that reads its query and succeeds has found a definition and a provider, and ends in what the provider makes of
the collection, capped. -/
theorem found_of_search_eq_ok (hread : service.Reads request) {n : Narrowed}
    (h : (service.search around request).result = .ok n) :
    ∃ d p, service.registry.definitionFor request.entity = .ok d ∧
      around.providers.create service.config.provider = .ok p ∧
      ((p.apply request.collection d (String.ofList request.text) (request.contextIn around)).result >>=
        cap (effectiveLimit service.config.maxResults request.limit)) = .ok n := by
  rw [search_of_reads hread] at h
  cases hd : service.registry.definitionFor request.entity with
  | error e =>
    simp only [finish, narrow, hd] at h
    cases h
  | ok d =>
    cases hp : around.providers.create service.config.provider with
    | error e =>
      simp only [finish, narrow, hd, hp] at h
      cases h
    | ok p =>
      rw [narrow_of_found hd hp] at h
      exact ⟨d, p, rfl, rfl, h⟩

/-- A query is blank, too long or read. -/
theorem blank_or_refuses_or_reads (service : Service) (request : SearchRequest) :
    (request.query = .null ∨ request.text = []) ∨ service.Refuses request ∨ service.Reads request := by
  by_cases hblank : request.query = .null ∨ request.text = []
  · exact Or.inl hblank
  · obtain ⟨hgiven, hne⟩ := not_or.mp hblank
    cases hlen : ParsedQuery.exceeds service.config.queryMaxLength request.text with
    | true => exact Or.inr (Or.inl ⟨hgiven, hne, hlen⟩)
    | false => exact Or.inr (Or.inr ⟨hgiven, hne, hlen⟩)

/-- A search whose query is read does what the trigram provider does. -/
theorem result_search (h : service.Takes around request d) (hread : service.Reads request) :
    (service.search around request).result =
      (Provider.applyTrigram request.collection d (String.ofList request.text) (request.contextIn around)).result := by
  rw [search_of_reads hread, narrow_of_found h.definition h.provider, h.limit, finish]
  exact bind_pure _

/-- A search whose query is read ends in the statement its definition prepares, narrowed by the conditions that the predicates
compile to. -/
theorem statement?_search_eq_some (h : service.Takes around request d) (hread : service.Reads request)
    (hprep : request.collection.performAll d.preparation = .ok (.select prepared)) {found : Select} :
    (service.search around request).statement? = some found ↔
      ∃ cs, List.Forall₂ (fun p c => Clause.ofExpr Catalog.ofSchema p = .ok c)
        (d.conditions request.text (request.contextIn around)) cs ∧ found = prepared.narrowedBy cs := by
  have hresult := result_search h hread
  rw [Provider.applyTrigram, hprep] at hresult
  rw [SearchOutcome.statement?, hresult, Definition.conditions]
  simp only [Provider.filterByAny]
  generalize (d.predicates (String.ofList request.text) (request.contextIn around)).filterMap id = ps
  cases ps with
  | nil =>
    simp only [List.isEmpty_nil, if_true, List.forall₂_nil_left_iff, exists_eq_left, Option.some.injEq]
    exact eq_comm
  | cons p ps =>
    rw [List.isEmpty_cons, if_neg Bool.false_ne_true]
    constructor
    · intro hfound
      cases hany : Clause.ofExpr Catalog.ofSchema (.anyOf (p :: ps)) with
      | error e =>
        rw [hany] at hfound
        cases hfound
      | ok c =>
        rw [hany] at hfound
        obtain ⟨cs, hcs, hc⟩ := bind_eq_ok.mp hany
        have hforall := Clause.ofExprs_eq_ok.mp hcs
        refine ⟨cs, hforall, ?_⟩
        cases hforall
        rw [← Option.some.inj hfound, ← Except.ok.inj hc]
        rfl
    · rintro ⟨cs, hcs, rfl⟩
      have hany : Clause.ofExpr Catalog.ofSchema (.anyOf (p :: ps)) = .ok (Clause.chainAll .disjunction cs) :=
        bind_eq_ok.mpr ⟨_, Clause.ofExprs_eq_ok.mpr hcs, rfl⟩
      rw [hany]
      cases hcs
      rfl

/-- A search over a statement ends in one unless its query is too long, when the predicates are conditions. -/
theorem exists_statement (h : service.Takes around request d) (hcol : request.collection = .select start)
    (hprep : (Collection.select start).performAll d.preparation = .ok (.select prepared))
    (hc : d.Compiles request.text (request.contextIn around)) (hr : ¬service.Refuses request) :
    ∃ found, (service.search around request).statement? = some found := by
  rcases blank_or_refuses_or_reads service request with hblank | hrefuse | hread
  · exact ⟨start, statement?_search_of_blank hcol hblank⟩
  · exact absurd hrefuse hr
  · obtain ⟨cs, hcs⟩ := exists_forall₂ hc
    exact ⟨_, (statement?_search_eq_some h hread (hcol ▸ hprep)).mpr ⟨cs, hcs, rfl⟩⟩

end Service

end EntitySearch
