import EntitySearch.Collection
import EntitySearch.Entity
import EntitySearch.Phone

/-!
# Search definitions

How one entity is searched: the paths to join, whether repeated rows are dropped, and the rules that turn a query into
predicates. A rule yields the same predicate for the same query and tenant; a phone rule yields none unless the query is
phone-shaped. A rule can stand behind guards, one inside the other: each lets through only the rows that belong to a tenant, which
is the tenant of the search or one that the guard names.
-/

namespace EntitySearch

/-- The tenant and the actor on whose behalf a search runs. -/
structure SearchContext where
  tenantId : Option String := none
  actorId : Option String := none
  deriving Repr, DecidableEq, Inhabited

/-- Whether the context names a tenant. -/
def SearchContext.hasTenant (c : SearchContext) : Bool :=
  match c.tenantId with
  | some t => !t.isEmpty
  | none => false

/-- What a rule tests. -/
inductive Criterion where
  /-- Whether an expression contains the query. -/
  | text (e : Expr)
  /-- Whether an expression contains the query's digits in stored form. -/
  | phone (e : Expr)
  /-- A condition that does not depend on the query. -/
  | node (e : Expr)
  /-- No condition at all. -/
  | nothing
  deriving Repr, Inhabited

/-- The condition of a criterion for a query. -/
def Criterion.condition? (query : String) : Criterion → Option Expr
  | .text e => some (e.containing query)
  | .phone e =>
    if Phone.isShaped query.toList then
      (Phone.normalize query.toList).map fun digits => e.containing (String.ofList digits)
    else none
  | .node e => some e
  | .nothing => none

/-- A condition that holds only where a column equals the tenant; a missing condition is kept as null. -/
def guarded (column : Expr) (tenant : Option String) (condition : Option Expr) : Expr :=
  .allOf [.equals column (Value.ofText? tenant), condition.getD (.foreign .null)]

/-- The tenant that a guard asks for. -/
inductive GuardTenant where
  /-- The tenant of the search, whichever that is. -/
  | ofSearch
  /-- A tenant that is the same for every search. -/
  | fixed (tenant : Option String)
  deriving Repr, DecidableEq, Inhabited

/-- The tenant that a guard asks for in a context. -/
def GuardTenant.inContext (context : SearchContext) : GuardTenant → Option String
  | .ofSearch => context.tenantId
  | .fixed tenant => tenant

/-- A guard: a column, and the tenant that it must equal. -/
structure Guard where
  column : Expr
  tenant : GuardTenant := .ofSearch
  deriving Repr, Inhabited

/-- A condition behind a guard. -/
def Guard.around (context : SearchContext) (g : Guard) (condition : Option Expr) : Expr :=
  guarded g.column (g.tenant.inContext context) condition

/-- A rule of a definition. -/
structure Rule where
  criterion : Criterion
  /-- The guards that the criterion stands behind, the outermost first. -/
  guards : List Guard := []
  deriving Repr, Inhabited

/-- The predicate of a rule: the condition of its criterion, behind its guards. There is always one behind a guard. -/
def Rule.predicate? (query : String) (context : SearchContext) (r : Rule) : Option Expr :=
  r.guards.foldr (fun g condition => some (g.around context condition)) (r.criterion.condition? query)

/-- How one entity is searched. -/
structure Definition where
  name : String
  entity : Entity
  /-- Whether repeated rows are dropped: needed when a join can give several rows for one row of the entity. -/
  distinct : Bool := false
  /-- The paths that are joined before the predicates apply. -/
  joins : List String := []
  rules : List Rule := []
  /-- The rules that apply only when the search has a tenant. -/
  tenantRules : List Rule := []
  deriving Repr, Inhabited

namespace Definition

/-- The alternatives of a search, one for each rule that applies; a rule may yield none. -/
def predicates (d : Definition) (query : String) (context : SearchContext) : List (Option Expr) :=
  (d.rules ++ if context.hasTenant then d.tenantRules else []).map (Rule.predicate? query context)

/-- The operations that prepare a collection for the predicates. -/
def preparation (d : Definition) : List Operation :=
  d.joins.map .outerJoin ++ if d.distinct then [.distinct] else []

/-- The description of a definition by its name and its entity. -/
def describe (d : Definition) : String := d.name ++ "(entity=" ++ Text.quoted d.entity.key ++ ")"

end Definition

end EntitySearch
