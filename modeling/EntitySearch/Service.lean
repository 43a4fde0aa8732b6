import EntitySearch.Provider
import EntitySearch.Query
import EntitySearch.Registry
import EntitySearch.Trace.Span

/-!
# The search service

A service narrows a collection by a free-form query for one entity. It reads the query, writes one line to the audit log with
the query masked, finds the definition and then the provider, lets the provider narrow the collection, and caps the result. A
blank query leaves the collection as it is. Every search runs in a span; the query is not among its attributes.
-/

namespace EntitySearch

/-- How a service is set up. Without a greatest query length, or with zero, any length is accepted; without a result cap, or
with one that is not positive, only the caller's limit counts. -/
structure SearchConfig where
  provider : Option String := some "postgres"
  queryMaxLength : Option Int := some 256
  maxResults : Option Int := some 500
  deriving Repr, DecidableEq, Inhabited

/-- A search service. -/
structure Service where
  config : SearchConfig := {}
  registry : Registry := Registry.standard

/-- How the arguments of a search are given: only those given by keyword can become attributes of its span. -/
inductive ArgumentStyle where
  | positional
  | keyword
  /-- Only the limit by keyword. -/
  | mixed
  deriving Repr, DecidableEq, Inhabited

/-- What a search is asked. -/
structure SearchRequest where
  entity : EntityKey
  collection : Collection
  query : Value
  context : Option SearchContext := none
  limit : Option Int := none
  style : ArgumentStyle := .mixed

/-- What surrounds a search: the providers at hand and the context of the request it belongs to. -/
structure Surroundings where
  providers : ProviderTable := ProviderTable.standard
  request : SearchContext := {}

/-- What a search did. -/
structure SearchOutcome where
  logs : List LogLine
  span : Span
  result : Except Failure Narrowed

namespace SearchRequest

/-- The context of a search: the one given, or else the one of the request it belongs to. -/
def contextIn (r : SearchRequest) (s : Surroundings) : SearchContext := r.context.getD s.request

/-- The arguments given by keyword; the collection and the context have no value form and no recorded name. -/
def keywordArguments (r : SearchRequest) : List (String × Value) :=
  match r.style with
  | .positional => []
  | .keyword => [("entity", r.entity.toValue), ("query", r.query), ("limit", .ofInt? r.limit)]
  | .mixed => [("limit", .ofInt? r.limit)]

end SearchRequest

namespace Service

/-- The name of the spans of searches. -/
def spanName : String := "search.query"

/-- The audit line of a search. -/
def auditLine (key : EntityKey) (context : SearchContext) (masked : String) : LogLine :=
  ⟨.info, .search, "search entity=" ++ key.toValue.display ++ " tenant_id=" ++
    (Value.ofText? context.tenantId).display ++ " q=" ++ masked⟩

/-- The attributes a search adds to its span once the query is read. -/
def searchAttributes (key : EntityKey) (context : SearchContext) : List (String × Value) :=
  [("search.entity", .text key.toValue.display), ("search.tenant_id", .ofText? context.tenantId)]

/-- The limit that is put on the result: the caller's if it is positive, but no more than a positive result cap. -/
def effectiveLimit (maxResults limit : Option Int) : Option Int :=
  match limit with
  | none => none
  | some k =>
    if k ≤ 0 then none
    else
      match maxResults with
      | some m => if 0 < m then some (min k m) else some k
      | none => some k

/-- Caps a narrowed collection. -/
def cap (limit : Option Int) (n : Narrowed) : Except Failure Narrowed :=
  match limit with
  | some k => n.perform (.limit k)
  | none => .ok n

/-- Narrows the collection of a request for a query that has been read. -/
def narrow (s : Service) (around : Surroundings) (r : SearchRequest) (q : ParsedQuery) : Application :=
  match s.registry.definitionFor r.entity with
  | .error e => ⟨[], .error e⟩
  | .ok d =>
    match around.providers.create s.config.provider with
    | .error e => ⟨[], .error e⟩
    | .ok p =>
      let applied := p.apply r.collection d q.normalized (r.contextIn around)
      match applied.result with
      | .error e => ⟨applied.logs, .error e⟩
      | .ok n => ⟨applied.logs, cap (effectiveLimit s.config.maxResults r.limit) n⟩

/-- Ends the span of a search. -/
def finish (r : SearchRequest) (logs : List LogLine) (added : List (String × Value)) (result : Except Failure Narrowed) :
    SearchOutcome :=
  let attributes := Attributes.setAll [] (Attributes.ofArguments r.keywordArguments ++ added)
  ⟨logs, ⟨spanName, none, attributes, failure? result⟩, result⟩

/-- Searches. -/
def search (s : Service) (around : Surroundings) (r : SearchRequest) : SearchOutcome :=
  match ParsedQuery.ofRaw s.config.queryMaxLength r.query with
  | .error e => finish r [] [] (.error e)
  | .ok none => finish r [] [] (.ok (.untouched r.collection))
  | .ok (some q) =>
    let context := r.contextIn around
    let done := narrow s around r q
    finish r (auditLine r.entity context q.masked :: done.logs) (searchAttributes r.entity context) done.result

end Service

end EntitySearch
