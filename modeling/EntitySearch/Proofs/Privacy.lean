import EntitySearch.Proofs.Narrowing
import EntitySearch.Proofs.PhoneShape

/-!
# What telemetry tells of a query

A rule yields predicates of one form for every two queries that are both or neither phone-shaped: they differ in patterns only,
and so compile both or fail both for the same reason (`relatesRules_alike`). Two searches that differ in such queries
therefore log the same number of predicates and end their spans with the same failure, if any; their audit lines differ exactly
when the masked queries do (`query_reaches_telemetry_masked`).
-/

namespace EntitySearch

/-! ## Failures -/

/-- Computations with the same failure, if any, fail both or succeed both. -/
theorem error_or_ok_of_failure?_eq {α β : Type} {x : Except Failure α} {y : Except Failure β} (h : failure? x = failure? y) :
    (∃ e, x = .error e ∧ y = .error e) ∨ ∃ a b, x = .ok a ∧ y = .ok b := by
  cases x with
  | error e =>
    cases y with
    | error e' => exact Or.inl ⟨e, rfl, congrArg Except.error (Option.some.inj h).symm⟩
    | ok b => cases h
  | ok a =>
    cases y with
    | error e' => cases h
    | ok b => exact Or.inr ⟨a, b, rfl, rfl⟩

/-- Computations that fail alike, step by step, fail alike. -/
theorem failure?_bind {α β : Type} {x y : Except Failure α} {f g : α → Except Failure β} (h : failure? x = failure? y)
    (hfg : ∀ a b, x = .ok a → y = .ok b → failure? (f a) = failure? (g b)) : failure? (x >>= f) = failure? (y >>= g) := by
  rcases error_or_ok_of_failure?_eq h with ⟨e, rfl, rfl⟩ | ⟨a, b, rfl, rfl⟩
  · rfl
  · exact hfg a b rfl rfl

/-! ## Predicates that differ in patterns only -/

/-- Whether two expressions compile both, or fail for the same reason. -/
def Expr.Alike (e e' : Expr) : Prop :=
  ∀ catalog, failure? (Clause.ofExpr catalog e) = failure? (Clause.ofExpr catalog e')

theorem Expr.Alike.refl (e : Expr) : e.Alike e := fun _ => rfl

/-- Several expressions that are alike fail to compile alike. -/
theorem Clause.failure?_ofExprs {catalog : Catalog} {es es' : List Expr} (h : List.Forall₂ Expr.Alike es es') :
    failure? (ofExprs catalog es) = failure? (ofExprs catalog es') := by
  induction h with
  | nil => rfl
  | cons he _ ih =>
    rw [ofExprs, ofExprs]
    refine failure?_bind (he catalog) fun _ _ _ _ => ?_
    exact failure?_bind ih fun _ _ _ _ => rfl

/-- A search for one text compiles, or fails to, as one for another text. -/
theorem Expr.alike_containing (e : Expr) (text text' : String) : (e.containing text).Alike (e.containing text') := by
  intro catalog
  rw [containing, containing, Clause.ofExpr, Clause.ofExpr]
  exact failure?_bind rfl fun _ _ _ _ => rfl

theorem Expr.alike_allOf {es es' : List Expr} (h : List.Forall₂ Expr.Alike es es') : (allOf es).Alike (allOf es') := by
  intro catalog
  rw [Clause.ofExpr, Clause.ofExpr]
  exact failure?_bind (Clause.failure?_ofExprs h) fun _ _ _ _ => rfl

theorem Expr.alike_anyOf {es es' : List Expr} (h : List.Forall₂ Expr.Alike es es') : (anyOf es).Alike (anyOf es') := by
  intro catalog
  rw [Clause.ofExpr, Clause.ofExpr]
  exact failure?_bind (Clause.failure?_ofExprs h) fun _ _ _ _ => rfl

variable {query query' : String} {context : SearchContext}

/-- A rule yields predicates that are alike, or none, for two queries that are both or neither phone-shaped. -/
theorem relatesRules_alike (h : Phone.isShaped query.toList = Phone.isShaped query'.toList) :
    RelatesRules Expr.Alike query query' where
  refl := Expr.Alike.refl
  containing e := Expr.alike_containing e query query'
  phone e := by
    by_cases hs : Phone.isShaped query.toList = true
    · rw [Criterion.condition?_phone_of_isShaped hs, Criterion.condition?_phone_of_isShaped (h ▸ hs)]
      exact .some (Expr.alike_containing e _ _)
    · have hnot : Phone.isShaped query.toList = false := Bool.eq_false_iff.mpr hs
      rw [Criterion.condition?_phone_eq_none_iff.mpr hnot, Criterion.condition?_phone_eq_none_iff.mpr (h ▸ hnot)]
      exact .none
  guarded column tenant _ _ hp := Expr.alike_allOf (.cons (Expr.Alike.refl _) (.cons hp .nil))

/-! ## Providers -/

/-- Neither conditions that are clauses nor limits fail. -/
theorem Narrowed.failure?_perform (n : Narrowed) {o : Operation} (h : (∃ c, o = .filter (.clause c)) ∨ ∃ k, o = .limit k) :
    failure? (n.perform o) = none := by
  obtain ⟨c, -, hn⟩ := n.exists_perform h
  rw [hn]
  rfl

namespace Provider

/-- Filtering compiles the disjunction and then puts it on; without predicates it does nothing. -/
theorem filterByAny_eq (ps : List Expr) (n : Narrowed) :
    filterByAny ps n =
      if ps.isEmpty then .ok n else Clause.ofExpr Catalog.ofSchema (.anyOf ps) >>= fun c => n.perform (.filter (.clause c)) := by
  rw [filterByAny]
  cases Clause.ofExpr Catalog.ofSchema (.anyOf ps) <;> rfl

/-- Filtering by predicates that are alike fails alike. -/
theorem failure?_filterByAny {ps ps' : List Expr} (h : List.Forall₂ Expr.Alike ps ps') (n : Narrowed) :
    failure? (filterByAny ps n) = failure? (filterByAny ps' n) := by
  have hempty : ps.isEmpty = ps'.isEmpty := by cases h <;> rfl
  rw [filterByAny_eq, filterByAny_eq, hempty]
  split
  · rfl
  · refine failure?_bind (Expr.alike_anyOf h Catalog.ofSchema) fun c c' _ _ => ?_
    rw [n.failure?_perform (.inl ⟨c, rfl⟩), n.failure?_perform (.inl ⟨c', rfl⟩)]

/-- What a provider logs is no audit line. -/
theorem level_of_mem_logs (p : Provider) (c : Collection) (d : Definition) (query : String) (context : SearchContext) :
    ∀ line ∈ (p.apply c d query context).logs, line.level = .debug := by
  cases p with
  | stub => exact List.forall_mem_nil _
  | echo => exact List.forall_mem_nil _
  | trigram =>
    simp only [apply, applyTrigram]
    split
    · exact List.forall_mem_nil _
    · intro line hline
      rw [List.mem_singleton.mp hline, countLine]

/-- A provider that does not repeat its query logs the same and fails with the same for two queries that are both or neither
phone-shaped. -/
theorem apply_alike {p : Provider} (hp : p ≠ .echo) (c : Collection) (d : Definition) (context : SearchContext)
    (h : Phone.isShaped query.toList = Phone.isShaped query'.toList) :
    (p.apply c d query context).logs = (p.apply c d query' context).logs ∧
      failure? (p.apply c d query context).result = failure? (p.apply c d query' context).result := by
  cases p with
  | stub => exact ⟨rfl, rfl⟩
  | echo => exact absurd rfl hp
  | trigram =>
    have halike := (relatesRules_alike h).predicates context d
    simp only [apply, applyTrigram]
    split
    · exact ⟨rfl, rfl⟩
    · exact ⟨by rw [halike.length_eq], failure?_filterByAny halike _⟩

end Provider

/-! ## Searches -/

/-- The request with another query. -/
def SearchRequest.asking (r : SearchRequest) (query : Value) : SearchRequest := { r with query := query }

/-- The lines a search logs at a level. -/
def SearchOutcome.linesAt (o : SearchOutcome) (level : LogLevel) : List LogLine :=
  o.logs.filter fun line => line.level = level

/-- The arguments of a search that its span records do not depend on the query. -/
theorem SearchRequest.ofArguments_asking (r : SearchRequest) (query : Value) :
    Attributes.ofArguments (r.asking query).keywordArguments = Attributes.ofArguments r.keywordArguments := by
  have hname : Attributes.recordedNames.contains (String.ofList (Text.lowerCase "query".toList)) = false := by decide
  have hquery : ∀ v, Attributes.isRecorded "query" v = false := by
    intro v
    unfold Attributes.isRecorded
    split
    · rfl
    · rw [hname, Bool.and_false]
  unfold keywordArguments asking
  cases r.style <;> simp [Attributes.ofArguments, List.filter_cons, hquery]

namespace Service

variable {service : Service} {around : Surroundings} {request : SearchRequest} {q : Value}

/-- Whether a service treats the queries of two requests alike: it refuses both as too long, or reads both, and both or neither
are phone-shaped. -/
def TreatsAlike (service : Service) (request request' : SearchRequest) : Prop :=
  (service.Refuses request ∧ service.Refuses request') ∨
    (service.Reads request ∧ service.Reads request' ∧
      Phone.isShaped request.query.display.toList = Phone.isShaped request'.query.display.toList)

/-- Capping does not fail. -/
theorem failure?_cap (limit : Option Int) (n : Narrowed) : failure? (cap limit n) = none := by
  cases limit with
  | none => rfl
  | some k => exact n.failure?_perform (.inr ⟨k, rfl⟩)

/-- Past the reading of the query, a search logs no audit line. -/
theorem level_of_mem_narrow (request : SearchRequest) (cs : List Char) :
    ∀ line ∈ (service.narrow around request (.ofNormalized cs)).logs, line.level = .debug := by
  cases hd : service.registry.definitionFor request.entity with
  | error e =>
    simp only [narrow, hd]
    exact List.forall_mem_nil _
  | ok d =>
    cases hp : around.providers.create service.config.provider with
    | error e =>
      simp only [narrow, hd, hp]
      exact List.forall_mem_nil _
    | ok p =>
      rw [narrow_of_found hd hp]
      exact p.level_of_mem_logs request.collection d _ _

/-- Past the reading of the query, a search logs the same and fails with the same for two queries that are both or neither
phone-shaped; what it logs there is no audit line. -/
theorem narrow_alike (request : SearchRequest) (q : Value)
    (hprovider : around.providers.create service.config.provider ≠ .ok .echo) {cs cs' : List Char}
    (h : Phone.isShaped cs = Phone.isShaped cs') :
    (service.narrow around request (.ofNormalized cs)).logs =
        (service.narrow around (request.asking q) (.ofNormalized cs')).logs ∧
      failure? (service.narrow around request (.ofNormalized cs)).result =
        failure? (service.narrow around (request.asking q) (.ofNormalized cs')).result ∧
      ∀ line ∈ (service.narrow around request (.ofNormalized cs)).logs, line.level = .debug := by
  have hfailure : ∀ {x : Except Failure Narrowed} {limit}, failure? (x >>= cap limit) = failure? x := by
    intro x limit
    cases x with
    | error e => rfl
    | ok n => exact failure?_cap limit n
  rw [← and_assoc]
  refine ⟨?_, level_of_mem_narrow request cs⟩
  cases hd : service.registry.definitionFor request.entity with
  | error e =>
    have hd' : service.registry.definitionFor (request.asking q).entity = .error e := hd
    simp only [narrow, hd, hd', and_self]
  | ok d =>
    cases hp : around.providers.create service.config.provider with
    | error e =>
      have hd' : service.registry.definitionFor (request.asking q).entity = .ok d := hd
      simp only [narrow, hd, hd', hp, and_self]
    | ok p =>
      have hne : p ≠ .echo := fun heq => hprovider (heq ▸ hp)
      have halike : Phone.isShaped (String.ofList cs).toList = Phone.isShaped (String.ofList cs').toList := by
        rw [String.toList_ofList, String.toList_ofList, h]
      obtain ⟨hlogs, hresult⟩ := Provider.apply_alike hne request.collection d (request.contextIn around) halike
      have hd' : service.registry.definitionFor (request.asking q).entity = .ok d := hd
      rw [narrow_of_found hd hp, narrow_of_found hd' hp]
      exact ⟨hlogs, hfailure.trans (hresult.trans hfailure.symm)⟩

/-- Of the lines of a search the audit line is at the info level, and the others at the debug level. -/
theorem linesAt_finish (r : SearchRequest) {key : EntityKey} {context : SearchContext} {masked : String} {logs : List LogLine}
    {added : List (String × Value)} {result : Except Failure Narrowed} (h : ∀ line ∈ logs, line.level = .debug) :
    (finish r (auditLine key context masked :: logs) added result).linesAt .debug = logs ∧
      (finish r (auditLine key context masked :: logs) added result).linesAt .info = [auditLine key context masked] := by
  have hdebug : logs.filter (fun line => line.level = .debug) = logs :=
    List.filter_eq_self.mpr fun line hline => decide_eq_true (h line hline)
  have hinfo : logs.filter (fun line => line.level = .info) = [] := by
    refine List.filter_eq_nil_iff.mpr fun line hline => ?_
    rw [h line hline]
    decide
  constructor
  · rw [SearchOutcome.linesAt, finish, List.filter_cons_of_neg (by simp [auditLine]), hdebug]
  · rw [SearchOutcome.linesAt, finish, List.filter_cons_of_pos (by simp [auditLine]), hinfo]

/-- Audit lines of one entity and tenant are the same just when the masked queries are. -/
theorem auditLine_inj {key : EntityKey} {context : SearchContext} {masked masked' : String} :
    auditLine key context masked = auditLine key context masked' ↔ masked = masked' := by
  constructor
  · intro h
    have htext := congrArg LogLine.text h
    simp only [auditLine] at htext
    exact (String.append_right_inj _).mp htext
  · rintro rfl
    rfl

end Service

/-- **The query reaches telemetry masked only.** Take a search with a provider that does not put the query into its conditions
as it is, and another search that differs in its query, which the service treats alike. The spans of both are the same, and so
are the lines they log for debugging. They log no audit line if their queries are too long; otherwise their audit lines are the
same just when the masked forms of their queries are. -/
theorem query_reaches_telemetry_masked {service : Service} {around : Surroundings} {request : SearchRequest} {query : Value}
    (hprovider : around.providers.create service.config.provider ≠ .ok .echo)
    (h : service.TreatsAlike request (request.asking query)) :
    (service.search around request).span = (service.search around (request.asking query)).span ∧
      (service.search around request).linesAt .debug = (service.search around (request.asking query)).linesAt .debug ∧
      (service.Refuses request → (service.search around request).linesAt .info = [] ∧
        (service.search around (request.asking query)).linesAt .info = []) ∧
      (service.Reads request →
        ((service.search around request).linesAt .info = (service.search around (request.asking query)).linesAt .info ↔
          Query.mask request.text = Query.mask (request.asking query).text)) := by
  rcases h with ⟨hlong, hlong'⟩ | ⟨hread, hread', hshape⟩
  · have hno : ¬ service.Reads request := fun hread => by
      have hwithin := hread.within
      rw [hlong.2.2] at hwithin
      cases hwithin
    rw [Service.search_of_refuses hlong, Service.search_of_refuses hlong']
    refine ⟨?_, rfl, fun _ => ⟨rfl, rfl⟩, fun hread => absurd hread hno⟩
    simp only [Service.finish, SearchRequest.ofArguments_asking]
  · have hno : ¬ service.Refuses request := fun hlong => by
      have hwithin := hread.within
      rw [hlong.2.2] at hwithin
      cases hwithin
    have htext : Phone.isShaped request.text = Phone.isShaped (request.asking query).text := by
      rw [SearchRequest.text, SearchRequest.text, Phone.isShaped_normalize, Phone.isShaped_normalize]
      exact hshape
    obtain ⟨hlogs, hfailure, hlevel⟩ := Service.narrow_alike request query hprovider htext
    rw [Service.search_of_reads hread, Service.search_of_reads hread']
    obtain ⟨hdebug, hinfo⟩ := Service.linesAt_finish request hlevel
    obtain ⟨hdebug', hinfo'⟩ := Service.linesAt_finish (request.asking query) (hlogs ▸ hlevel)
    refine ⟨?_, ?_, fun hlong => absurd hlong hno, fun _ => ?_⟩
    · simp only [Service.finish, SearchRequest.ofArguments_asking, hfailure]
      rfl
    · rw [hdebug, hdebug', hlogs]
    · rw [hinfo, hinfo', List.cons.injEq, and_iff_left rfl]
      exact Service.auditLine_inj.trans String.ofList_inj

/-- A request for users by a phone. -/
def SearchRequest.byPhone (phone : String) : SearchRequest where
  entity := .entity .agencyUsers
  collection := .select (.all .user)
  query := .text phone
  context := some ⟨some "alpha", none⟩
  style := .keyword

/-- Searches by two phones cannot be told apart from outside. -/
theorem byPhone_untraceable :
    Service.TreatsAlike {} (.byPhone "+7 900 123-45-67")
        ((SearchRequest.byPhone "+7 900 123-45-67").asking (.text "8(912)3456789")) ∧
      (Service.search {} {} (.byPhone "+7 900 123-45-67")).span = (Service.search {} {} (.byPhone "8(912)3456789")).span ∧
      (Service.search {} {} (.byPhone "+7 900 123-45-67")).linesAt .info =
        (Service.search {} {} (.byPhone "8(912)3456789")).linesAt .info := by
  have hread : Service.Reads {} (.byPhone "+7 900 123-45-67") := ⟨nofun, by decide, by decide⟩
  have hread' : Service.Reads {} (.byPhone "8(912)3456789") := ⟨nofun, by decide, by decide⟩
  have halike : Service.TreatsAlike {} (.byPhone "+7 900 123-45-67")
      ((SearchRequest.byPhone "+7 900 123-45-67").asking (.text "8(912)3456789")) := .inr ⟨hread, hread', by decide⟩
  have hprovider : ({} : Surroundings).providers.create ({} : Service).config.provider ≠ .ok .echo := by
    rw [show ({} : Surroundings).providers.create ({} : Service).config.provider = .ok .trigram from rfl]
    nofun
  obtain ⟨hspan, -, -, hinfo⟩ := query_reaches_telemetry_masked hprovider halike
  exact ⟨halike, hspan, (hinfo hread).mpr (by decide +kernel)⟩

end EntitySearch
