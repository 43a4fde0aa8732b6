import EntitySearch.Proofs.FirstItems
import EntitySearch.Proofs.ScopeKept
import EntitySearch.Proofs.Words

/-!
# The stages of a search

A search goes through stages: the query is read, the definition and the provider are found, paths are joined, predicates are
compiled. It ends at the first stage that has a reason to end it (`Service.EndsAt`), and what it has logged and gives then is
said by that stage alone (`Service.Answers`).
-/

namespace EntitySearch

/-! ## Paths -/

namespace Table

/-- Whether segments lead from a table to another one, each of them a relationship of the table it is taken from. -/
inductive Leads : Table → List (List Char) → Table → Prop where
  | here (t : Table) : Leads t [] t
  | along {t u : Table} {name : List Char} {names : List (List Char)} {r : Relation} :
      t.relation? (String.ofList name) = some r → Leads r.target names u → Leads t (name :: names) u

/-- Whether a path leads somewhere from a table. -/
def HasPath (t : Table) (path : String) : Prop := ∃ u, t.Leads (pathSegments path.toList) u

/-- Whether a path leads from a table to another one, where its next segment is no relationship. -/
def BreaksAt (t : Table) (path : String) (u : Table) (name : String) : Prop :=
  ∃ before segment after, pathSegments path.toList = before ++ segment :: after ∧ t.Leads before u ∧
    segment = name.toList ∧ u.relation? name = none

/-- Segments that lead nowhere lead somewhere up to one that is no relationship. -/
theorem exists_leads (t : Table) (names : List (List Char)) : (∃ u, t.Leads names u) ∨
    ∃ before segment after u, names = before ++ segment :: after ∧ t.Leads before u ∧
      u.relation? (String.ofList segment) = none := by
  induction names generalizing t with
  | nil => exact .inl ⟨t, .here t⟩
  | cons name names ih =>
    cases hr : t.relation? (String.ofList name) with
    | none => exact .inr ⟨[], name, names, t, rfl, .here t, hr⟩
    | some r =>
      rcases ih r.target with ⟨u, hu⟩ | ⟨before, segment, after, u, rfl, hu, hnone⟩
      · exact .inl ⟨u, .along hr hu⟩
      · exact .inr ⟨name :: before, segment, after, u, rfl, .along hr hu, hnone⟩

end Table

namespace Select

variable {s : Select} {path : String}

/-- A path that leads somewhere is joined. -/
theorem exists_walk {full : String} {t u : Table} {walked : List Char} {names : List (List Char)} (h : t.Leads names u) :
    ∃ s', walk full s t walked names = .ok s' := by
  induction h generalizing s walked with
  | here t => exact ⟨s, rfl⟩
  | along hr _ ih =>
    rw [walk, hr]
    exact ih

/-- A walk fails at the first segment that is no relationship. -/
theorem walk_eq_error {full : String} {t u : Table} {walked : List Char} {before after : List (List Char)} {segment : List Char}
    (h : t.Leads before u) (hnone : u.relation? (String.ofList segment) = none) :
    walk full s t walked (before ++ segment :: after) =
      .error (.noRelationship u.entityName (String.ofList segment) full) := by
  induction h generalizing s walked with
  | here t => rw [List.nil_append, walk, hnone]
  | along hr _ ih =>
    rw [List.cons_append, walk, hr]
    exact ih hnone

/-- A path that leads somewhere is joined, and the root stays. -/
theorem exists_outerJoin (h : s.root.HasPath path) : ∃ s', s.outerJoin path = .ok s' ∧ s'.root = s.root := by
  obtain ⟨u, hu⟩ := h
  obtain ⟨s', hs'⟩ : ∃ s', s.outerJoin path = .ok s' := exists_walk hu
  exact ⟨s', hs', (growsInto_walk hs').root⟩

/-- A path that leads nowhere is refused where it breaks. -/
theorem exists_outerJoin_eq_error (h : ¬s.root.HasPath path) :
    ∃ u name, s.root.BreaksAt path u name ∧ s.outerJoin path = .error (.noRelationship u.entityName name path) := by
  rcases s.root.exists_leads (pathSegments path.toList) with hleads | ⟨before, segment, after, u, hcut, hu, hnone⟩
  · exact absurd hleads h
  · refine ⟨u, String.ofList segment, ⟨before, segment, after, hcut, hu, String.toList_ofList.symm, hnone⟩, ?_⟩
    rw [outerJoin, hcut, walk_eq_error hu hnone]

end Select

/-! ## What a definition prepares -/

namespace Collection

theorem performAll_cons (o : Operation) (os : List Operation) (c : Collection) :
    c.performAll (o :: os) = c.perform o >>= fun c' => c'.performAll os := by
  rw [performAll]
  cases c.perform o <;> rfl

/-- Operations are performed one part after the other. -/
theorem performAll_append (os os' : List Operation) (c : Collection) :
    c.performAll (os ++ os') = c.performAll os >>= fun c' => c'.performAll os' := by
  induction os generalizing c with
  | nil => rfl
  | cons o os ih =>
    rw [List.cons_append, performAll_cons, performAll_cons]
    cases c.perform o with
    | error e => rfl
    | ok c' => exact ih c'

/-- What each accepted operation on a statement keeps, of the operations so far and the statement, a run of them keeps. -/
theorem performAll_keeps {P : List Operation → Select → Prop}
    (hstep : ∀ os o s c, P os s → (select s).perform o = .ok c → ∃ s', c = .select s' ∧ P (os ++ [o]) s')
    (os : List Operation) {ops : List Operation} {s : Select} {c : Collection} (h : P os s)
    (hrun : (select s).performAll ops = .ok c) : ∃ s', c = .select s' ∧ P (os ++ ops) s' := by
  induction ops generalizing os s with
  | nil => exact ⟨s, (Except.ok.inj hrun).symm, (List.append_nil os).symm ▸ h⟩
  | cons o ops ih =>
    rw [performAll_cons] at hrun
    obtain ⟨c₁, hfirst, hrest⟩ := bind_eq_ok.mp hrun
    obtain ⟨s₁, rfl, h₁⟩ := hstep os o s c₁ h hfirst
    rw [← List.singleton_append, ← List.append_assoc]
    exact ih (os ++ [o]) h₁ hrest

/-- A record accepts every operation. -/
theorem performAll_recording (os operations : List Operation) :
    (recording operations).performAll os = .ok (recording (operations ++ os)) := by
  induction os generalizing operations with
  | nil => rw [performAll, List.append_nil]
  | cons o os ih =>
    rw [performAll, perform]
    simp only [ih, List.append_assoc, List.singleton_append]

/-- The paths of a list are joined when each of them leads somewhere. -/
theorem exists_performAll_outerJoin {s : Select} {paths : List String} (h : ∀ path ∈ paths, s.root.HasPath path) :
    ∃ s', (select s).performAll (paths.map .outerJoin) = .ok (.select s') := by
  induction paths generalizing s with
  | nil => exact ⟨s, rfl⟩
  | cons path paths ih =>
    obtain ⟨s₁, hs₁, hroot⟩ := Select.exists_outerJoin (h path List.mem_cons_self)
    rw [List.map_cons, performAll, perform, hs₁]
    exact ih fun x hx => hroot ▸ h x (List.mem_cons_of_mem path hx)

/-- The first path of a list that leads nowhere ends the joins. -/
theorem exists_performAll_outerJoin_eq_error {s : Select} {paths : List String} {path : String}
    (h : IsFirst (fun path => ¬s.root.HasPath path) paths path) : ∃ u name, s.root.BreaksAt path u name ∧
      (select s).performAll (paths.map .outerJoin) = .error (.noRelationship u.entityName name path) := by
  induction paths generalizing s with
  | nil => exact absurd h not_isFirst_nil
  | cons first paths ih =>
    rw [List.map_cons, performAll, perform]
    rcases isFirst_cons.mp h with ⟨rfl, hbad⟩ | ⟨hgood, hrest⟩
    · obtain ⟨u, name, hbreaks, herror⟩ := Select.exists_outerJoin_eq_error hbad
      exact ⟨u, name, hbreaks, by rw [herror]; rfl⟩
    · obtain ⟨s₁, hs₁, hroot⟩ := Select.exists_outerJoin (not_not.mp hgood)
      rw [hs₁]
      obtain ⟨u, name, hbreaks, herror⟩ := ih (s := s₁) (by rwa [hroot])
      exact ⟨u, name, hroot ▸ hbreaks, herror⟩

end Collection

namespace Definition

variable {d : Definition} {c : Collection} {s : Select} {path : String}

/-- A definition prepares a collection when its paths lead somewhere. -/
theorem exists_preparation (h : ∀ s, c = .select s → ∀ path ∈ d.joins, s.root.HasPath path) :
    ∃ prepared, c.performAll d.preparation = .ok prepared := by
  rw [preparation, Collection.performAll_append]
  cases c with
  | recording operations =>
    rw [Collection.performAll_recording]
    exact ⟨_, Collection.performAll_recording _ _⟩
  | select s =>
    obtain ⟨s', hs'⟩ := Collection.exists_performAll_outerJoin (h s rfl)
    rw [hs']
    cases d.distinct with
    | true => exact ⟨.select s'.dropRepeated, rfl⟩
    | false => exact ⟨.select s', rfl⟩

/-- A definition fails to prepare a statement at its first path that leads nowhere. -/
theorem exists_preparation_eq_error (h : IsFirst (fun path => ¬s.root.HasPath path) d.joins path) :
    ∃ u name, s.root.BreaksAt path u name ∧
      (Collection.select s).performAll d.preparation = .error (.noRelationship u.entityName name path) := by
  obtain ⟨u, name, hbreaks, herror⟩ := Collection.exists_performAll_outerJoin_eq_error h
  refine ⟨u, name, hbreaks, ?_⟩
  rw [preparation, Collection.performAll_append, herror]
  rfl

end Definition

/-! ## Predicates -/

/-- Whether a failure says why an expression is no condition. -/
def Failure.IsUncompilable : Failure → Prop
  | .unsupportedNode _ | .unknownTable _ | .unknownColumn _ _ => True
  | _ => False

namespace Clause

variable {catalog : Catalog}

/-- A column is refused for its table or for its name. -/
theorem isUncompilable_columnIn {table name : String} {f : Failure} (h : columnIn catalog table name = .error f) :
    f.IsUncompilable := by
  unfold columnIn at h
  split at h
  · rw [← Except.error.inj h]
    trivial
  · split at h
    · nomatch h
    · rw [← Except.error.inj h]
      trivial

mutual

/-- An expression fails to compile only for what stands in it. -/
theorem isUncompilable_ofExpr : ∀ (e : Expr) {f : Failure}, ofExpr catalog e = .error f → f.IsUncompilable
  | .column table name, f, h => isUncompilable_columnIn h
  | .literal v, f, h => nomatch h
  | .coalesce e fallback, f, h => isUncompilable_ofExpr e (bind_pure_eq_error h)
  | .concat es, f, h => isUncompilable_ofExprs es (bind_pure_eq_error h)
  | .asText e, f, h => isUncompilable_ofExpr e (bind_pure_eq_error h)
  | .matching e pattern escape, f, h => isUncompilable_ofExpr e (bind_pure_eq_error h)
  | .equals e v, f, h => isUncompilable_ofExpr e (bind_pure_eq_error h)
  | .allOf es, f, h => isUncompilable_ofExprs es (bind_pure_eq_error h)
  | .anyOf es, f, h => isUncompilable_ofExprs es (bind_pure_eq_error h)
  | .foreign v, f, h => by
    rw [← Except.error.inj h]
    trivial

theorem isUncompilable_ofExprs : ∀ (es : List Expr) {f : Failure}, ofExprs catalog es = .error f → f.IsUncompilable
  | [], f, h => nomatch h
  | e :: es, f, h => by
    rcases bind_eq_error.mp h with h | ⟨c, -, h⟩
    · exact isUncompilable_ofExpr e h
    · exact isUncompilable_ofExprs es (bind_pure_eq_error h)

end

/-- Several expressions fail to compile for what stands in the first of them that fails. -/
theorem exists_ofExprs_eq_error {es : List Expr} {e : Expr} (h : IsFirst (fun e => ∀ c, ofExpr catalog e ≠ .ok c) es e) :
    ∃ f, ofExpr catalog e = .error f ∧ ofExprs catalog es = .error f := by
  induction es with
  | nil => exact absurd h not_isFirst_nil
  | cons first es ih =>
    rw [ofExprs]
    rcases isFirst_cons.mp h with ⟨rfl, hbad⟩ | ⟨hgood, hrest⟩
    · cases hf : ofExpr catalog e with
      | error f => exact ⟨f, rfl, rfl⟩
      | ok c => exact absurd hf (hbad c)
    · push Not at hgood
      obtain ⟨c, hc⟩ := hgood
      obtain ⟨f, hf, hes⟩ := ih hrest
      exact ⟨f, hf, by rw [hc, hes]; rfl⟩

end Clause

/-! ## Narrowed collections -/

namespace Narrowed

/-- Whether the operations of a narrowed collection lead to it from another collection. -/
def Follows (n : Narrowed) (c : Collection) : Prop := c.performAll n.operations = .ok n.collection

/-- An operation that is accepted is recorded behind those before it. -/
theorem Follows.perform {n n' : Narrowed} {c : Collection} {o : Operation} (h : n.Follows c)
    (ho : n.perform o = .ok n') : n'.operations = n.operations ++ [o] ∧ n'.Follows c := by
  obtain ⟨c', hc, rfl⟩ := map_eq_ok.mp ho
  refine ⟨rfl, ?_⟩
  rw [Narrowed.Follows, Collection.performAll_append, h]
  exact bind_eq_ok.mpr ⟨n.collection, rfl, by simp only [Collection.performAll, hc]⟩

/-- Operations on a narrowed collection go on from those that lead to it. -/
theorem Follows.append {n n' : Narrowed} {c : Collection} {os : List Operation} (h : n.Follows c)
    (hops : n'.operations = n.operations ++ os) (hos : n.collection.performAll os = .ok n'.collection) : n'.Follows c := by
  rw [Narrowed.Follows, hops, Collection.performAll_append, h]
  exact hos

/-- Conditions that are clauses and limits are accepted, one operation more. -/
theorem Follows.exists_perform {n : Narrowed} {c : Collection} (h : n.Follows c) {o : Operation}
    (ho : (∃ d, o = .filter (.clause d)) ∨ ∃ k, o = .limit k) :
    ∃ n', n.perform o = .ok n' ∧ n'.operations = n.operations ++ [o] ∧ n'.Follows c := by
  obtain ⟨_, -, hn⟩ := n.exists_perform ho
  exact ⟨_, hn, h.perform hn⟩

end Narrowed

namespace Provider

variable {ps : List Expr} {n : Narrowed} {c : Collection}

/-- The condition put on a collection for several clauses, if there are any. -/
def filters (cs : List Clause) : List Operation :=
  if cs = [] then [] else [.filter (.clause (Clause.chainAll .disjunction cs))]

/-- Predicates that all compile become one condition. -/
theorem exists_filterByAny (h : n.Follows c) {cs : List Clause}
    (hcs : List.Forall₂ (fun p c => Clause.ofExpr Catalog.ofSchema p = .ok c) ps cs) :
    ∃ n', filterByAny ps n = .ok n' ∧ n'.operations = n.operations ++ filters cs ∧ n'.Follows c := by
  cases hcs with
  | nil => exact ⟨n, rfl, (List.append_nil _).symm, h⟩
  | @cons p clause ps cs hp hps =>
    have hany : Clause.ofExpr Catalog.ofSchema (.anyOf (p :: ps)) = .ok (Clause.chainAll .disjunction (clause :: cs)) :=
      bind_eq_ok.mpr ⟨_, Clause.ofExprs_eq_ok.mpr (.cons hp hps), rfl⟩
    obtain ⟨n', hn', hops, hfollows⟩ := h.exists_perform (.inl ⟨Clause.chainAll .disjunction (clause :: cs), rfl⟩)
    refine ⟨n', ?_, by rw [hops, filters, if_neg (List.cons_ne_nil _ _)], hfollows⟩
    rw [filterByAny, List.isEmpty_cons, if_neg Bool.false_ne_true, hany]
    exact hn'

/-- The first predicate that does not compile ends the filtering. -/
theorem exists_filterByAny_eq_error {p : Expr} (h : IsFirst (fun p => ∀ c, Clause.ofExpr Catalog.ofSchema p ≠ .ok c) ps p)
    (n : Narrowed) : ∃ f, Clause.ofExpr Catalog.ofSchema p = .error f ∧ filterByAny ps n = .error f := by
  obtain ⟨f, hf, hps⟩ := Clause.exists_ofExprs_eq_error h
  refine ⟨f, hf, ?_⟩
  cases ps with
  | nil => exact absurd h not_isFirst_nil
  | cons first ps =>
    have hany : Clause.ofExpr Catalog.ofSchema (.anyOf (first :: ps)) = .error f := by
      rw [Clause.ofExpr, hps]
      rfl
    rw [filterByAny, List.isEmpty_cons, if_neg Bool.false_ne_true, hany]

end Provider

namespace Service

/-- A cap is put on after everything that was done before. -/
theorem exists_cap (n : Narrowed) (limit : Option Int) :
    ∃ n', cap limit n = .ok n' ∧ n'.operations = n.operations ++ limit.toList.map .limit ∧
      n.collection.performAll (limit.toList.map .limit) = .ok n'.collection := by
  cases limit with
  | none => exact ⟨n, rfl, (List.append_nil _).symm, rfl⟩
  | some k =>
    obtain ⟨c, hc, hn⟩ := n.exists_perform (.inr ⟨k, rfl⟩)
    exact ⟨_, hn, rfl, by simp only [Option.toList_some, List.map_cons, List.map_nil, Collection.performAll, hc]⟩

/-- Whether operations put on the limit that a request asks a service for: none when it asks for none or for one that is not
positive; otherwise a single one, which is the one it asks for or a positive result cap, whichever is less. -/
structure Caps (service : Service) (request : SearchRequest) (limits : List Operation) : Prop where
  unasked : (∀ k, request.limit = some k → k ≤ 0) → limits = []
  uncapped : ∀ k, request.limit = some k → 0 < k → (∀ m, service.config.maxResults = some m → m ≤ 0) → limits = [.limit k]
  capped : ∀ k m, request.limit = some k → 0 < k → service.config.maxResults = some m → 0 < m → limits = [.limit (min k m)]

/-- The limit that a service puts on is the one it is asked for. -/
theorem caps_effectiveLimit (service : Service) (request : SearchRequest) :
    service.Caps request ((effectiveLimit service.config.maxResults request.limit).toList.map .limit) where
  unasked h := by
    rw [effectiveLimit_eq_none h]
    rfl
  uncapped k hlimit hk hcap := by
    rw [hlimit, effectiveLimit_of_no_cap hk hcap]
    rfl
  capped k m hlimit hk hcap hm := by
    rw [hlimit, hcap, effectiveLimit_of_cap hk hm]
    rfl

/-- What is narrowed for a request is capped as the request asks for. -/
theorem exists_caps (service : Service) (request : SearchRequest) (n : Narrowed) :
    ∃ limits capped, service.Caps request limits ∧
      cap (effectiveLimit service.config.maxResults request.limit) n = .ok capped ∧
      capped.operations = n.operations ++ limits ∧ n.collection.performAll limits = .ok capped.collection := by
  obtain ⟨capped, hcap, hops, hall⟩ := exists_cap n (effectiveLimit service.config.maxResults request.limit)
  exact ⟨_, capped, caps_effectiveLimit service request, hcap, hops, hall⟩

end Service

/-! ## Stages -/

/-- What can end a search, in the order in which a search comes to it. -/
inductive Stage where
  /-- The query is missing or blank. -/
  | blank
  /-- The query is too long. -/
  | length
  /-- There is no definition for the entity. -/
  | entity
  /-- There is no provider of the name. -/
  | provider
  /-- The provider is not the trigram provider and does as it likes. -/
  | otherProvider
  /-- A path leads nowhere. -/
  | joins
  /-- A predicate is no condition. -/
  | predicates
  /-- Nothing ends the search early. -/
  | done
  deriving Repr, DecidableEq

/-- The stages in order. -/
def Stage.all : List Stage := [.blank, .length, .entity, .provider, .otherProvider, .joins, .predicates, .done]

/-- The audit line of a request: its entity, the tenant it is for, and its query with what is private masked. -/
def SearchRequest.audit (r : SearchRequest) (around : Surroundings) : LogLine :=
  ⟨.info, .search, "search entity=" ++ r.entity.toValue.display ++ " tenant_id=" ++
    (r.contextIn around).tenantId.getD "None" ++ " q=" ++ String.ofList (Query.mask r.text)⟩

/-- The line that counts the predicates that a definition has for a request. -/
def SearchRequest.countOf (r : SearchRequest) (around : Surroundings) (d : Definition) : LogLine :=
  ⟨.debug, .trigramProvider, "Search " ++ d.entity.key ++ ": " ++
    toString (d.conditions r.text (r.contextIn around)).length ++ " predicate(s)"⟩

/-- The audit line of a service is the one of its request. -/
theorem SearchRequest.audit_eq (r : SearchRequest) (around : Surroundings) :
    r.audit around = Service.auditLine r.entity (r.contextIn around) (String.ofList (Query.mask r.text)) := by
  have htenant : (Value.ofText? (r.contextIn around).tenantId).display = (r.contextIn around).tenantId.getD "None" := by
    cases (r.contextIn around).tenantId <;> rfl
  rw [audit, Service.auditLine, htenant]

/-- Whether an expression is no condition. -/
def Expr.IsRefused (e : Expr) : Prop := ∀ c, Clause.ofExpr Catalog.ofSchema e ≠ .ok c

namespace Service

variable (service : Service) (around : Surroundings) (request : SearchRequest)

/-- Whether a definition is registered for the entity of a request. -/
def Defines (d : Definition) : Prop := d ∈ service.registry.definitions ∧ request.entity.resolve? = some d.entity

/-- The provider of the configured name, if there is one. -/
def provider? : Option Provider := around.providers.entries.lookup (ProviderTable.key (service.config.provider.getD ""))

/-- Whether a stage has a reason to end a search. -/
def StopsAt : Stage → Prop
  | .blank => request.query = .null ∨ ∀ c ∈ request.query.display.toList, Text.isBlank c = true
  | .length => ∃ m, service.config.queryMaxLength = some m ∧ m ≠ 0 ∧ m < request.text.length
  | .entity => ∀ d, ¬service.Defines request d
  | .provider => service.provider? around = none
  | .otherProvider => ∃ p, service.provider? around = some p ∧ p ≠ .trigram
  | .joins => ∃ d s, service.Defines request d ∧ request.collection = .select s ∧ ∃ path ∈ d.joins, ¬s.root.HasPath path
  | .predicates => ∃ d, service.Defines request d ∧
      ∃ p ∈ d.conditions request.text (request.contextIn around), p.IsRefused
  | .done => True

/-- Whether a search ends at a stage: it is the first one with a reason to. -/
def EndsAt (stage : Stage) : Prop := IsFirst (service.StopsAt around request) Stage.all stage

/-- What a search that ends at a stage has logged and gives. -/
def Answers (logs : List LogLine) (result : Except Failure Narrowed) : Stage → Prop
  | .blank => logs = [] ∧ result = .ok ⟨[], request.collection⟩
  | .length => logs = [] ∧ ∃ m, service.config.queryMaxLength = some m ∧ result = .error (.domain (.queryTooLong (.int m)))
  | .entity => logs = [request.audit around] ∧ result = .error (.domain (.unknownEntity request.entity.toValue))
  | .provider => logs = [request.audit around] ∧
      result = .error (.domain (.unknownProvider (Value.ofText? service.config.provider)
        (some (.list (around.providers.supported.map .text)))))
  | .otherProvider => logs = [request.audit around] ∧ ∃ d p, service.Defines request d ∧ service.provider? around = some p ∧
      let applied := (p.apply request.collection d (String.ofList request.text) (request.contextIn around)).result
      (∀ f, applied = .error f → result = .error f) ∧
      ∀ n, applied = .ok n → ∃ limits capped, service.Caps request limits ∧ capped.operations = n.operations ++ limits ∧
        n.collection.performAll limits = .ok capped.collection ∧ result = .ok capped
  | .joins => logs = [request.audit around] ∧ ∃ d s path u name, service.Defines request d ∧ request.collection = .select s ∧
      IsFirst (fun path => ¬s.root.HasPath path) d.joins path ∧ s.root.BreaksAt path u name ∧
      result = .error (.noRelationship u.entityName name path)
  | .predicates => ∃ d p f, service.Defines request d ∧ logs = [request.audit around, request.countOf around d] ∧
      IsFirst Expr.IsRefused (d.conditions request.text (request.contextIn around)) p ∧
      Clause.ofExpr Catalog.ofSchema p = .error f ∧ f.IsUncompilable ∧ result = .error f
  | .done => ∃ d cs limits n, service.Defines request d ∧ logs = [request.audit around, request.countOf around d] ∧
      List.Forall₂ (fun p c => Clause.ofExpr Catalog.ofSchema p = .ok c)
        (d.conditions request.text (request.contextIn around)) cs ∧
      service.Caps request limits ∧
      n.operations = d.joins.map .outerJoin ++ (if d.distinct then [.distinct] else []) ++ Provider.filters cs ++ limits ∧
      request.collection.performAll n.operations = .ok n.collection ∧ result = .ok n

variable {service : Service} {around : Surroundings} {request : SearchRequest}

/-- The definition that a registry finds is the one that is registered for the entity. -/
theorem definitionFor_eq_ok_iff {d : Definition} :
    service.registry.definitionFor request.entity = .ok d ↔ service.Defines request d := by
  have hfind : service.registry.definitionFor request.entity = .ok d ↔
      request.entity.resolve?.bind (Registry.find? service.registry.definitions) = some d := by
    rw [Registry.definitionFor]
    cases request.entity.resolve?.bind (Registry.find? service.registry.definitions) <;> simp
  rw [hfind, Option.bind_eq_some_iff, Defines]
  constructor
  · rintro ⟨e, he, hd⟩
    have hentity : d.entity = e := by simpa using List.find?_some hd
    exact ⟨List.mem_of_find?_eq_some hd, hentity ▸ he⟩
  · rintro ⟨hmem, he⟩
    refine ⟨d.entity, he, ?_⟩
    cases hd : Registry.find? service.registry.definitions d.entity with
    | none => exact absurd (List.find?_eq_none.mp hd d hmem) (by simp)
    | some d' =>
      have hentity : d'.entity = d.entity := by simpa using List.find?_some hd
      rw [List.inj_on_of_nodup_map service.registry.distinct_entities (List.mem_of_find?_eq_some hd) hmem hentity]

/-- Without a definition for its entity a request is refused. -/
theorem definitionFor_eq_error (h : ∀ d, ¬service.Defines request d) :
    service.registry.definitionFor request.entity = .error (.domain (.unknownEntity request.entity.toValue)) := by
  cases hd : service.registry.definitionFor request.entity with
  | ok d => exact absurd (definitionFor_eq_ok_iff.mp hd) (h d)
  | error e =>
    rw [Registry.definitionFor] at hd
    split at hd
    · nomatch hd
    · exact hd.symm

/-- A request has no text when its query has nothing but blanks. -/
theorem text_eq_nil_iff : request.text = [] ↔ ∀ c ∈ request.query.display.toList, Text.isBlank c = true :=
  Query.normalize_eq_nil_iff

/-- A query that is neither missing nor blank nor too long is read. -/
theorem reads_of_not_stopsAt (hblank : ¬service.StopsAt around request .blank)
    (hlength : ¬service.StopsAt around request .length) : service.Reads request := by
  obtain ⟨hgiven, hchars⟩ := not_or.mp hblank
  refine ⟨hgiven, mt text_eq_nil_iff.mp hchars, ?_⟩
  rw [Bool.eq_false_iff]
  exact mt ParsedQuery.exceeds_eq_true_iff.mp hlength

/-- A query that is not blank and too long is refused. -/
theorem refuses_of_stopsAt (hblank : ¬service.StopsAt around request .blank) (hlength : service.StopsAt around request .length) :
    service.Refuses request := by
  obtain ⟨hgiven, hchars⟩ := not_or.mp hblank
  exact ⟨hgiven, mt text_eq_nil_iff.mp hchars, ParsedQuery.exceeds_eq_true_iff.mpr hlength⟩

/-- A search whose query is read logs its audit line and does what is left to do. -/
theorem logs_and_result_of_reads (h : service.Reads request) {done : Application}
    (hdone : service.narrow around request (.ofNormalized request.text) = done) :
    (service.search around request).logs = request.audit around :: done.logs ∧
      (service.search around request).result = done.result := by
  rw [search_of_reads h, hdone, SearchRequest.audit_eq]
  exact ⟨rfl, rfl⟩

/-- A provider that the table has is created. -/
theorem create_of_provider? {p : Provider} (h : service.provider? around = some p) :
    around.providers.create service.config.provider = .ok p := by
  rw [provider?] at h
  rw [ProviderTable.create, h]

variable {d : Definition}

/-- When the trigram provider cannot prepare the collection, nothing more is logged. -/
theorem narrow_of_blocked (hd : service.Defines request d) (hp : service.provider? around = some .trigram) {f : Failure}
    (hprep : request.collection.performAll d.preparation = .error f) :
    service.narrow around request (.ofNormalized request.text) = ⟨[], .error f⟩ := by
  rw [narrow_of_found (definitionFor_eq_ok_iff.mpr hd) (create_of_provider? hp), Provider.apply, Provider.applyTrigram, hprep]
  rfl

/-- When the trigram provider has prepared the collection, it counts the predicates and filters by them. -/
theorem narrow_of_prepared (hd : service.Defines request d) (hp : service.provider? around = some .trigram)
    {prepared : Collection} (hprep : request.collection.performAll d.preparation = .ok prepared) :
    service.narrow around request (.ofNormalized request.text) =
      ⟨[request.countOf around d],
        Provider.filterByAny (d.conditions request.text (request.contextIn around)) ⟨d.preparation, prepared⟩ >>=
          cap (effectiveLimit service.config.maxResults request.limit)⟩ := by
  rw [narrow_of_found (definitionFor_eq_ok_iff.mpr hd) (create_of_provider? hp), Provider.apply, Provider.applyTrigram, hprep]
  rfl

/-- No stage before the one at which a search ends has a reason to end it. -/
theorem EndsAt.not_stopsAt {stage earlier : Stage} (h : service.EndsAt around request stage)
    (hlt : Stage.all.idxOf earlier < Stage.all.idxOf stage) : ¬service.StopsAt around request earlier :=
  h.not_of_idxOf_lt hlt

/-- A search that gets past the reading of its query has read it. -/
theorem EndsAt.reads {stage : Stage} (h : service.EndsAt around request stage)
    (hlt : Stage.all.idxOf .length < Stage.all.idxOf stage) : service.Reads request :=
  reads_of_not_stopsAt (h.not_stopsAt (Nat.lt_trans (by decide) hlt)) (h.not_stopsAt hlt)

/-- A search that gets past the finding of its definition has one. -/
theorem EndsAt.exists_defines {stage : Stage} (h : service.EndsAt around request stage)
    (hlt : Stage.all.idxOf .entity < Stage.all.idxOf stage) : ∃ d, service.Defines request d :=
  not_forall_not.mp (h.not_stopsAt hlt)

/-- A search that gets past the finding of its provider has found the trigram provider. -/
theorem EndsAt.provider?_eq {stage : Stage} (h : service.EndsAt around request stage)
    (hlt : Stage.all.idxOf .otherProvider < Stage.all.idxOf stage) : service.provider? around = some .trigram := by
  have hfound : ¬service.StopsAt around request .provider := h.not_stopsAt (Nat.lt_trans (by decide) hlt)
  obtain ⟨p, hp⟩ := Option.ne_none_iff_exists'.mp hfound
  have htrigram : p = .trigram := of_not_not fun hne => h.not_stopsAt hlt ⟨p, hp, hne⟩
  rw [hp, htrigram]

/-- A search that gets past its joins has a collection prepared by any definition for its entity. -/
theorem EndsAt.exists_preparation {stage : Stage} (h : service.EndsAt around request stage)
    (hlt : Stage.all.idxOf .joins < Stage.all.idxOf stage) {d : Definition} (hd : service.Defines request d) :
    ∃ prepared, request.collection.performAll d.preparation = .ok prepared :=
  Definition.exists_preparation fun s hs path hpath =>
    of_not_not fun hbad => h.not_stopsAt hlt ⟨d, s, hd, hs, path, hpath, hbad⟩

/-- What a search has logged and gives is what its stage says. -/
theorem EndsAt.answers {stage : Stage} (h : service.EndsAt around request stage) :
    service.Answers around request (service.search around request).logs (service.search around request).result stage := by
  cases stage with
  | blank =>
    have hblank : request.query = .null ∨ request.text = [] := h.holds.imp_right text_eq_nil_iff.mpr
    rw [search, ParsedQuery.ofRaw_of_blank hblank]
    exact ⟨rfl, rfl⟩
  | length =>
    obtain ⟨m, hm, -⟩ := h.holds
    rw [search_of_refuses (refuses_of_stopsAt (h.not_stopsAt (by decide)) h.holds)]
    exact ⟨rfl, m, hm, by rw [hm]; rfl⟩
  | entity =>
    have hnarrow : service.narrow around request (.ofNormalized request.text) =
        ⟨[], .error (.domain (.unknownEntity request.entity.toValue))⟩ := by
      rw [narrow, definitionFor_eq_error h.holds]
    exact logs_and_result_of_reads (h.reads (by decide)) hnarrow
  | provider =>
    obtain ⟨d, hd⟩ := h.exists_defines (by decide)
    have hcreate : around.providers.create service.config.provider = .error (.domain (.unknownProvider
        (Value.ofText? service.config.provider) (some (.list (around.providers.supported.map .text))))) := by
      have hnone : service.provider? around = none := h.holds
      rw [provider?] at hnone
      rw [ProviderTable.create, hnone]
    have hnarrow : service.narrow around request (.ofNormalized request.text) =
        ⟨[], .error (.domain (.unknownProvider (Value.ofText? service.config.provider)
          (some (.list (around.providers.supported.map .text)))))⟩ := by
      rw [narrow, definitionFor_eq_ok_iff.mpr hd, hcreate]
    exact logs_and_result_of_reads (h.reads (by decide)) hnarrow
  | otherProvider =>
    obtain ⟨p, hp, hne⟩ := h.holds
    obtain ⟨d, hd⟩ := h.exists_defines (by decide)
    obtain ⟨hlogs, hresult⟩ := logs_and_result_of_reads (h.reads (by decide))
      (narrow_of_found (definitionFor_eq_ok_iff.mpr hd) (create_of_provider? hp) request.text)
    have hnone : (p.apply request.collection d (String.ofList request.text) (request.contextIn around)).logs = [] := by
      cases p with
      | trigram => exact absurd rfl hne
      | stub => rfl
      | echo => rfl
    refine ⟨by rw [hlogs, hnone], d, p, hd, hp, fun f hf => ?_, fun n hn => ?_⟩
    · rw [hresult, hf]
      rfl
    · obtain ⟨limits, capped, hlimits, hcap, hops, hall⟩ := exists_caps service request n
      rw [hn] at hresult
      exact ⟨limits, capped, hlimits, hops, hall, hresult.trans hcap⟩
  | joins =>
    obtain ⟨d, s, hd, hs, hpath⟩ := h.holds
    obtain ⟨path, hfirst⟩ := exists_isFirst hpath
    obtain ⟨u, name, hbreaks, hprep⟩ := Definition.exists_preparation_eq_error hfirst
    obtain ⟨hlogs, hresult⟩ := logs_and_result_of_reads (h.reads (by decide))
      (narrow_of_blocked hd (h.provider?_eq (by decide)) (hs ▸ hprep))
    exact ⟨hlogs, d, s, path, u, name, hd, hs, hfirst, hbreaks, hresult⟩
  | predicates =>
    obtain ⟨d, hd, hrefused⟩ := h.holds
    obtain ⟨p, hfirst⟩ := exists_isFirst hrefused
    obtain ⟨prepared, hprep⟩ := h.exists_preparation (by decide) hd
    obtain ⟨hlogs, hresult⟩ := logs_and_result_of_reads (h.reads (by decide))
      (narrow_of_prepared hd (h.provider?_eq (by decide)) hprep)
    obtain ⟨f, hf, hfilter⟩ := Provider.exists_filterByAny_eq_error hfirst ⟨d.preparation, prepared⟩
    rw [hfilter] at hresult
    exact ⟨d, p, f, hd, hlogs, hfirst, hf, Clause.isUncompilable_ofExpr p hf, hresult⟩
  | done =>
    obtain ⟨d, hd⟩ := h.exists_defines (by decide)
    obtain ⟨prepared, hprep⟩ := h.exists_preparation (by decide) hd
    obtain ⟨hlogs, hresult⟩ := logs_and_result_of_reads (h.reads (by decide))
      (narrow_of_prepared hd (h.provider?_eq (by decide)) hprep)
    have hcompiles : ¬service.StopsAt around request .predicates := h.not_stopsAt (by decide)
    obtain ⟨cs, hcs⟩ : ∃ cs, List.Forall₂ (fun p c => Clause.ofExpr Catalog.ofSchema p = .ok c)
        (d.conditions request.text (request.contextIn around)) cs := by
      refine exists_forall₂ fun p hp => ?_
      by_contra hnone
      exact hcompiles ⟨d, hd, p, hp, not_exists.mp hnone⟩
    obtain ⟨filtered, hfilter, hops, hfollows⟩ := Provider.exists_filterByAny (n := ⟨d.preparation, prepared⟩) hprep hcs
    obtain ⟨limits, n, hlimits, hcap, hall, hn⟩ := exists_caps service request filtered
    rw [hfilter] at hresult
    exact ⟨d, cs, limits, n, hd, hlogs, hcs, hlimits, by rw [hall, hops, Definition.preparation], hfollows.append hall hn,
      hresult.trans hcap⟩

end Service

/-- **A search ends at exactly one stage, and what it logs and gives is what that stage says.** The stages come in order: a query
that is missing or blank, a query that is too long, an entity without a definition, a name without a provider, a provider other
than the trigram provider, a path that leads nowhere, a predicate that is no condition, and the end of the search. -/
theorem search_ends_at_one_stage (service : Service) (around : Surroundings) (request : SearchRequest) :
    ∃ stage, service.EndsAt around request stage ∧ (∀ last, service.EndsAt around request last → last = stage) ∧
      service.Answers around request (service.search around request).logs (service.search around request).result stage := by
  obtain ⟨stage, hstage⟩ : ∃ stage, service.EndsAt around request stage :=
    exists_isFirst ⟨Stage.done, by decide, trivial⟩
  exact ⟨stage, hstage, fun _ hlast => hlast.unique hstage, hstage.answers⟩

end EntitySearch
