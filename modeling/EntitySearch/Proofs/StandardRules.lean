import EntitySearch.Registry
import EntitySearch.Proofs.Rules

/-!
# What the standard definitions search

For each entity its standard definition, the relationships that the paths of the definition follow, and the properties that
its rules test, one for each rule (`Entity.tests_rules`). Every predicate is a condition over the columns of the schema, on
tables that the definition joins.
-/

namespace EntitySearch

namespace Entity

/-! ## Definitions -/

/-- The table of the rows that a search for an entity is about. -/
def table : Entity → Table
  | .listings => .listing
  | .agencyUsers => .user
  | .purchaseInquiries => .purchaseInquiry
  | .categories => .category
  | .characteristics => .characteristic
  | .listingOwners => .listingOwner

/-- The standard definition of an entity. -/
def definition : Entity → Definition
  | .listings => .listings
  | .agencyUsers => .agencyUsers
  | .purchaseInquiries => .purchaseInquiries
  | .categories => .categories
  | .characteristics => .characteristics
  | .listingOwners => .listingOwners

/-- The relationships that the paths of the standard definition follow, in order. -/
def relations : Entity → List Relation
  | .listings => [.location, .owners, .ownerContact]
  | .agencyUsers => [.profile, .userPerson, .contacts]
  | .purchaseInquiries => [.inquiryContact, .contactPerson]
  | .listingOwners => [.ownerContact, .contactPerson]
  | .categories | .characteristics => []

/-- The tables that the standard definition joins. -/
def tables (e : Entity) : List Table := e.table :: e.relations.map (·.target)

/-- The standard registry has the standard definition of each entity. -/
theorem definitionFor_standard {key : EntityKey} {e : Entity} (h : key.resolve? = some e) :
    Registry.standard.definitionFor key = .ok e.definition := by
  have hfind : Registry.find? Registry.standard.definitions e = some e.definition := by cases e <;> rfl
  rw [Registry.definitionFor, h, Option.bind_some, hfind]

/-- The rules of a standard definition mention only tables that it joins. -/
theorem tables_rules (e : Entity) :
    ∀ r ∈ e.definition.rules ++ e.definition.tenantRules, ∀ name ∈ r.tables, name ∈ e.tables.map Table.name := by
  cases e <;> decide

/-- The predicates of a standard definition mention only tables that it joins. -/
theorem tables_conditions {e : Entity} {query : List Char} {context : SearchContext} {p : Expr}
    (h : p ∈ e.definition.conditions query context) : ∀ name ∈ p.tables, name ∈ e.tables.map Table.name := by
  intro name hname
  obtain ⟨r, hr, hp⟩ := Definition.mem_conditions.mp h
  refine tables_rules e r ?_ name (Rule.tables_predicate? hp name hname)
  rw [Definition.rulesIn] at hr
  rcases List.mem_append.mp hr with hr | hr
  · exact List.mem_append_left _ hr
  · split at hr
    · exact List.mem_append_right _ hr
    · nomatch hr

/-! ## Properties -/

open Property

/-- The properties that the rules of the standard definition test, one for each rule. -/
def properties (query : List Char) : Entity → List Property
  | .listings =>
    [columnContains query .listing "title", nameContains query .contact, addressContains query]
  | .agencyUsers => [columnContains query .user "email", phoneContains query, nameContains query .userProfile]
  | .purchaseInquiries => [nameContains query .contact, phoneContains query]
  | .categories => [columnContains query .category "title", columnContains query .category "id"]
  | .characteristics => [columnContains query .characteristic "title", columnContains query .characteristic "id"]
  | .listingOwners => [nameContains query .contact, columnContains query .contact "email", phoneContains query]

/-- The properties that the rules for a tenant test, one for each rule. -/
def tenantProperties (query : List Char) (tenant : Option String) : Entity → List Property
  | .agencyUsers => [ofTenant tenant (nameContains query .contact), ofTenant tenant (columnContains query .contact "email")]
  | _ => []

/-- The properties that the rules of the standard definition test in a context. -/
def propertiesIn (query : List Char) (context : SearchContext) (e : Entity) : List Property :=
  e.properties query ++ if context.hasTenant then e.tenantProperties query context.tenantId else []

section

variable {query : List Char} {context : SearchContext}

/-- Each rule of a standard definition tests its property. -/
theorem tests_rules (e : Entity) : List.Forall₂ (Rule.Tests query context) e.definition.rules (e.properties query) := by
  cases e with
  | listings =>
    exact .cons (Rule.tests_columnText (t := .listing) (by decide)) <|
      .cons (Rule.tests_fullNameText (t := .contact) (by decide)) <| .cons Rule.tests_address .nil
  | agencyUsers =>
    exact .cons (Rule.tests_columnText (t := .user) (by decide)) <|
      .cons Rule.tests_personPhone <| .cons (Rule.tests_fullNameText (t := .userProfile) (by decide)) .nil
  | purchaseInquiries =>
    exact .cons (Rule.tests_fullNameText (t := .contact) (by decide)) <| .cons Rule.tests_personPhone .nil
  | categories =>
    exact .cons (Rule.tests_columnText (t := .category) (by decide)) <|
      .cons (Rule.tests_identifier (t := .category) (by decide)) .nil
  | characteristics =>
    exact .cons (Rule.tests_columnText (t := .characteristic) (by decide)) <|
      .cons (Rule.tests_identifier (t := .characteristic) (by decide)) .nil
  | listingOwners =>
    exact .cons (Rule.tests_fullNameText (t := .contact) (by decide)) <|
      .cons (Rule.tests_columnText (t := .contact) (by decide)) <| .cons Rule.tests_personPhone .nil

/-- Each rule of a standard definition for a tenant tests its property. -/
theorem tests_tenantRules (e : Entity) {tenant : String} (h : context.tenantId = some tenant) :
    List.Forall₂ (Rule.Tests query context) e.definition.tenantRules (e.tenantProperties query context.tenantId) := by
  rw [h]
  cases e with
  | agencyUsers =>
    exact .cons (Rule.tests_ofTenant h (Expr.reads_fullName (t := .contact) (by decide))) <|
      .cons (Rule.tests_ofTenant h (Expr.reads_column (t := .contact) (by decide))) .nil
  | _ => exact .nil

/-- The rules of a standard definition that apply in a context test its properties there. -/
theorem tests_rulesIn (e : Entity) :
    List.Forall₂ (Rule.Tests query context) (e.definition.rulesIn context) (e.propertiesIn query context) := by
  refine List.rel_append (tests_rules e) ?_
  split
  · rename_i ht
    unfold SearchContext.hasTenant at ht
    split at ht
    · rename_i tenant h
      exact tests_tenantRules e h
    · nomatch ht
  · exact .nil

/-- The predicates of a standard definition test together what its properties say. -/
theorem exists_conditions (e : Entity) : ∃ Qs, List.Forall₂ (Expr.Tests query) (e.definition.conditions query context) Qs ∧
    ∀ b cells, (∃ Q ∈ Qs, Q b cells) ↔ ∃ P ∈ e.propertiesIn query context, P b cells :=
  Rule.exists_predicates (tests_rulesIn e)

/-- Every predicate of a standard definition is a condition. -/
theorem compiles (e : Entity) : e.definition.Compiles query context := by
  intro p hp
  obtain ⟨Qs, hQs, -⟩ : ∃ Qs, List.Forall₂ (Expr.Tests query) (e.definition.conditions query context) Qs ∧ _ :=
    exists_conditions e
  have hflip : List.Forall₂ (flip (Expr.Tests query)) Qs (e.definition.conditions query context) := List.Forall₂.flip hQs
  obtain ⟨Q, -, c, hc, -⟩ := exists_left_of_mem hflip hp
  exact ⟨c, hc⟩

end

end Entity

end EntitySearch
