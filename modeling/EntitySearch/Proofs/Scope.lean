import EntitySearch.Proofs.Narrowing
import EntitySearch.Proofs.StandardRules

/-!
# Searches over a scope

A search is given the rows of its entity that meet some conditions on their own columns. It selects those rows of the scope for
which some combination of joined rows has one of the properties that the rules of the standard definition test
(`Service.exists_found`).
-/

namespace EntitySearch

namespace Select

variable {b : Backend} {db : Database} {t : Table} {conditions : List Clause} {u : Row}

/-- The statement that selects the rows of an entity that meet conditions. -/
def scope (t : Table) (conditions : List Clause) : Select := { projection := .entity t, root := t, conditions }

/-- Conditions on the root alone mention no other table. -/
theorem isClosed_scope (h : ∀ name ∈ Clause.tablesOf conditions, name = t.name) : (scope t conditions).IsClosed := by
  refine ⟨rfl, rfl, fun name hname => ?_⟩
  rw [h name hname]
  exact List.mem_cons_self

/-- What a combination is worth to a condition on the root is what the row of the root is worth to it. -/
theorem passes_of_joined {rs : List Relation} {bound : Binding} (hj : Joined db rs [(t, some u)] bound) {c : Clause}
    (hc : ∀ name ∈ c.tables, name = t.name) :
    c.passes b bound.contents = c.passes b (Binding.contents [(t, some u)]) := by
  refine Clause.passes_congr fun name hname => ?_
  rw [hc name hname, Binding.contents_name, Binding.contents_name, row?_root_of_joined hj, Binding.row?_cons_self]

/-- A scope selects the rows of its entity that meet its conditions. -/
theorem mem_run_scope (h : ∀ name ∈ Clause.tablesOf conditions, name = t.name) :
    u ∈ (scope t conditions).run b db ↔
      u ∈ db.rows t ∧ ∀ c ∈ conditions, c.passes b (Binding.contents [(t, some u)]) = true := by
  rw [mem_run (isClosed_scope h)]
  exact and_congr_right fun _ => exists_eq_left

end Select

namespace Entity

variable {query : List Char} {context : SearchContext}

/-- The joins that the paths of the standard definition ask for. -/
def joins : Entity → List Join
  | .listings => [⟨"location", .location⟩, ⟨"owners", .owners⟩, ⟨"owners.contact", .ownerContact⟩]
  | .agencyUsers => [⟨"profile", .profile⟩, ⟨"person", .userPerson⟩, ⟨"person.contacts", .contacts⟩]
  | .purchaseInquiries => [⟨"contact", .inquiryContact⟩, ⟨"contact.person", .contactPerson⟩]
  | .listingOwners => [⟨"contact", .ownerContact⟩, ⟨"contact.person", .contactPerson⟩]
  | .categories | .characteristics => []

/-- The statement that the standard definition prepares over a scope. -/
def prepared (e : Entity) (conditions : List Clause) : Select :=
  { Select.scope e.table conditions with joins := e.joins, distinct := e.definition.distinct }

/-- A definition prepares the scope of its entity. -/
theorem performAll_preparation (e : Entity) (conditions : List Clause) :
    (Collection.select (.scope e.table conditions)).performAll e.definition.preparation =
      .ok (.select (e.prepared conditions)) := by
  cases e <;> rfl

theorem relations_prepared (e : Entity) (conditions : List Clause) : (e.prepared conditions).relations = e.relations := by
  cases e <;> rfl

/-- A prepared statement mentions no table but those it selects from. -/
theorem isClosed_prepared {e : Entity} {conditions : List Clause}
    (h : ∀ name ∈ Clause.tablesOf conditions, name = e.table.name) : (e.prepared conditions).IsClosed := by
  refine ⟨rfl, rfl, fun name hname => ?_⟩
  rw [h name hname]
  exact List.mem_cons_self

/-- What the standard definition prepares over a scope, narrowed by conditions, selects the rows of the scope for which some
combination of joined rows meets one of the conditions. -/
theorem mem_run_prepared {e : Entity} {conditions cs : List Clause}
    (h : ∀ name ∈ Clause.tablesOf conditions, name = e.table.name)
    (hclosed : ((e.prepared conditions).narrowedBy cs).IsClosed) {b : Backend} {db : Database} {u : Row} :
    u ∈ ((e.prepared conditions).narrowedBy cs).run b db ↔
      u ∈ (Select.scope e.table conditions).run b db ∧ ∃ bound, Select.Joined db e.relations [(e.table, some u)] bound ∧
        (Clause.areVoid cs = true ∨ ∃ c ∈ cs, c.isVoid = false ∧ c.passes b bound.contents = true) := by
  have hroot : (e.prepared conditions).root = e.table := rfl
  have hscope : (e.prepared conditions).conditions = conditions := rfl
  have hown : ∀ c ∈ conditions, ∀ name ∈ c.tables, name = e.table.name := fun c hc name hname =>
    h name (Clause.mem_tablesOf.mpr ⟨c, hc, hname⟩)
  rw [Select.mem_run_narrowedBy hclosed, Select.mem_run_scope h, e.relations_prepared, hroot, hscope]
  constructor
  · rintro ⟨hu, bound, hj, hpass, hone⟩
    refine ⟨⟨hu, fun c hc => ?_⟩, bound, hj, hone⟩
    rw [← Select.passes_of_joined hj (hown c hc)]
    exact hpass c hc
  · rintro ⟨⟨hu, hpass⟩, bound, hj, hone⟩
    refine ⟨hu, bound, hj, fun c hc => ?_, hone⟩
    rw [Select.passes_of_joined hj (hown c hc)]
    exact hpass c hc

/-- A query is always tested: some rule of each standard definition yields a predicate whatever the query. -/
theorem conditions_ne_nil (e : Entity) : e.definition.conditions query context ≠ [] := by
  have hrule : ∃ r ∈ e.definition.rules, ∃ expr, r = ⟨.text expr, []⟩ := by
    cases e <;> exact ⟨_, List.mem_cons_self, _, rfl⟩
  obtain ⟨r, hr, expr, rfl⟩ := hrule
  exact List.ne_nil_of_mem (Definition.mem_conditions.mpr ⟨_, List.mem_append_left _ hr, rfl⟩)

end Entity

section

variable {service : Service} {around : Surroundings} {request : SearchRequest} {e : Entity} {conditions : List Clause}

namespace Service

/-- Whether a service with the standard definitions and the trigram provider is asked, without a limit, for the rows of an
entity that meet conditions on their own columns, with a query that it reads. -/
structure Accepts (service : Service) (around : Surroundings) (request : SearchRequest) (e : Entity)
    (conditions : List Clause) : Prop where
  registry : service.registry = Registry.standard
  provider : around.providers.create service.config.provider = .ok .trigram
  entity : request.entity.resolve? = some e
  collection : request.collection = .select (.scope e.table conditions)
  ownColumns : ∀ name ∈ Clause.tablesOf conditions, name = e.table.name
  limit : request.limit = none
  reads : service.Reads request

theorem Accepts.takes (h : service.Accepts around request e conditions) : service.Takes around request e.definition :=
  ⟨h.registry ▸ Entity.definitionFor_standard h.entity, h.provider, h.limit⟩

end Service

/-- Whether a statement is closed, joins what the standard definition of an entity asks for, and selects the rows of a scope
for which some combination of joined rows has one of the properties that the definition tests. -/
structure Select.Finds (found : Select) (e : Entity) (conditions : List Clause) (query : List Char)
    (context : SearchContext) : Prop where
  closed : found.IsClosed
  relations : found.relations = e.relations
  distinct : found.distinct = e.definition.distinct
  mem_run : ∀ (b : Backend) (db : Database), b.ReadsLiterally query → ∀ u, u ∈ found.run b db ↔
    u ∈ (Select.scope e.table conditions).run b db ∧ ∃ bound, Select.Joined db e.relations [(e.table, some u)] bound ∧
      ∃ P ∈ e.propertiesIn query context, P b bound.contents

namespace Service

/-- A search that is accepted ends in a statement that finds what it is asked for. -/
theorem exists_found (h : service.Accepts around request e conditions) :
    ∃ found, (service.search around request).statement? = some found ∧
      found.Finds e conditions request.text (request.contextIn around) := by
  obtain ⟨Qs, hQs, hiff⟩ : ∃ Qs, List.Forall₂ (Expr.Tests request.text)
      (e.definition.conditions request.text (request.contextIn around)) Qs ∧ _ := e.exists_conditions
  obtain ⟨cs, hcs, hv, hpass⟩ := Expr.exists_clauses hQs
  have hprep := h.collection ▸ e.performAll_preparation conditions
  have hclosed : ((e.prepared conditions).narrowedBy cs).IsClosed := by
    refine (Entity.isClosed_prepared h.ownColumns).narrowedBy fun name hname => ?_
    obtain ⟨c, hc, hname⟩ := Clause.mem_tablesOf.mp hname
    obtain ⟨p, hp, hpc⟩ := exists_left_of_mem hcs hc
    rw [Clause.tables_ofExpr p hpc] at hname
    rw [e.relations_prepared]
    exact Entity.tables_conditions hp name hname
  have hvoid : Clause.areVoid cs = false := by
    refine Clause.areVoid_eq_false ?_ hv
    rintro rfl
    exact e.conditions_ne_nil (List.forall₂_nil_right_iff.mp hcs)
  refine ⟨_, (statement?_search_eq_some h.takes h.reads hprep).mpr ⟨cs, hcs, rfl⟩, hclosed, ?_, ?_, ?_⟩
  · rw [Select.relations_narrowedBy, e.relations_prepared]
  · rw [Select.distinct_narrowedBy, Entity.prepared]
  · intro b db hb u
    rw [Entity.mem_run_prepared h.ownColumns hclosed]
    refine and_congr_right fun _ => exists_congr fun bound => and_congr_right fun _ => ?_
    rw [← hiff, ← hpass b bound.contents hb, hvoid]
    simp only [Bool.false_eq_true, false_or]
    exact exists_congr fun c => and_congr_right fun hc => and_iff_right (hv c hc)

end Service

end

end EntitySearch
