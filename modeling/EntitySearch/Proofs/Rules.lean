import EntitySearch.Definition.Standard
import EntitySearch.Proofs.Containment
import EntitySearch.Proofs.StoredPhone
import EntitySearch.Proofs.Words

/-!
# What rules test

Each rule of a definition tests a property of the contents of a row for a query and a tenant, or yields no predicate where
nothing can have the property (`Rule.Tests`). The rules of the standard definitions test whether a column, a line of columns,
an identifier or a stored phone contains the query; a guarded rule tests in addition that the guarding column holds the tenant
of the search. The predicates of a rule mention no table that the rule does not (`Rule.tables_predicate?`).
-/

namespace EntitySearch

/-! ## The tables of rules -/

/-- The tables a criterion mentions. -/
def Criterion.tables : Criterion → List String
  | .text e => e.tables
  | .phone e => e.tables
  | .node e => e.tables
  | .nothing => []

/-- The tables a rule mentions. -/
def Rule.tables (r : Rule) : List String := r.guards.flatMap (fun g => g.column.tables) ++ r.criterion.tables

/-- A search for a text mentions the tables of what is searched. -/
theorem Expr.tables_containing (e : Expr) (text : String) : (e.containing text).tables = e.tables := by
  rw [containing, tables]

/-- The condition of a criterion mentions the tables of the criterion. -/
theorem Criterion.tables_condition? {c : Criterion} {query : String} {p : Expr} (h : c.condition? query = some p) :
    p.tables = c.tables := by
  cases c with
  | text e => rw [← Option.some.inj h, Expr.tables_containing, tables]
  | phone e =>
    rw [condition?] at h
    split at h
    · obtain ⟨digits, -, rfl⟩ := Option.map_eq_some_iff.mp h
      rw [Expr.tables_containing, tables]
    · cases h
  | node e => rw [← Option.some.inj h, tables]
  | nothing => cases h

/-- A guarded condition mentions the tables of the column and of the condition. -/
theorem tables_guarded (column : Expr) (tenant : Option String) (condition : Option Expr) :
    (guarded column tenant condition).tables = column.tables ++ (condition.map Expr.tables).getD [] := by
  cases condition <;> simp [guarded, Expr.tables, Expr.tablesOf]

namespace Rule

variable {criterion : Criterion} {g : Guard} {guards : List Guard} {query : String} {context : SearchContext}

theorem predicate?_nil : predicate? query context ⟨criterion, []⟩ = criterion.condition? query := rfl

/-- Behind one guard more there is the predicate of the rest of the rule, if it has one. -/
theorem predicate?_cons : predicate? query context ⟨criterion, g :: guards⟩ =
    some (g.around context (predicate? query context ⟨criterion, guards⟩)) := rfl

/-- The predicate of a rule mentions only tables of the rule. -/
theorem tables_predicate? {r : Rule} {p : Expr} (h : r.predicate? query context = some p) :
    ∀ name ∈ p.tables, name ∈ r.tables := by
  obtain ⟨criterion, guards⟩ := r
  intro name hname
  induction guards generalizing p with
  | nil =>
    rw [predicate?_nil] at h
    rw [Criterion.tables_condition? h] at hname
    exact hname
  | cons g guards ih =>
    rw [predicate?_cons, Guard.around] at h
    rw [← Option.some.inj h, tables_guarded] at hname
    rw [tables, List.flatMap_cons, List.append_assoc]
    rcases List.mem_append.mp hname with hname | hname
    · exact List.mem_append_left _ hname
    · cases hinner : predicate? query context ⟨criterion, guards⟩ with
      | none => simp [hinner] at hname
      | some q =>
        rw [hinner, Option.map_some, Option.getD_some] at hname
        exact List.mem_append_right _ (ih hinner hname)

end Rule

/-! ## Lines of columns -/

/-- The texts of several columns in one line; a null reads as the empty text. -/
def joinedText (cells : String → Option String) (columns : List String) : String :=
  " ".intercalate (columns.map fun c => (cells c).getD "")

/-- The columns that make up a full name. -/
def nameColumns : List String := ["last_name", "first_name", "middle_name"]

/-- The columns that make up an address. -/
def addressColumns : List String := ["country", "region", "city", "street", "house_number"]

namespace Expr

/-- Columns joined by spaces read as one line. -/
theorem reads_columns {t : Table} {columns : List String} (h : ∀ c ∈ columns, c ∈ t.columnNames) :
    (join " " (columns.map (column t.name))).Reads fun cells => some (joinedText (cells t.name) columns) := by
  have hparts : List.Forall₂ Reads (columns.map (column t.name)) (columns.map fun c cells => cells t.name c) := by
    rw [List.forall₂_map_left_iff, List.forall₂_map_right_iff, List.forall₂_same]
    exact fun c hc => reads_column (h c hc)
  have hjoin := reads_join " " hparts
  simp only [List.map_map, Function.comp_def] at hjoin
  exact hjoin

/-- A full name reads as the line of its columns. -/
theorem reads_fullName {t : Table} (h : ∀ c ∈ nameColumns, c ∈ t.columnNames) :
    (fullName t.name).Reads fun cells => some (joinedText (cells t.name) nameColumns) :=
  reads_columns h

end Expr

/-- Whether several columns in one line contain a query. -/
def Backend.LineContains (b : Backend) (query : List Char) (columns : List String) (cells : String → Option String) : Prop :=
  b.Contains query (some (joinedText cells columns))

/-- A line of nulls has nothing but spaces, so that a query with any other character is not in it. -/
theorem not_lineContains_none {b : Backend} {query : List Char} (hb : b.ReadsLiterally query)
    (hq : ∃ c ∈ query, c ≠ ' ') (columns : List String) : ¬b.LineContains query columns fun _ => none := by
  rw [Backend.LineContains, Backend.contains_some]
  intro hin
  obtain ⟨c, hc, hne⟩ := hq
  obtain ⟨d, hd, hdc⟩ := List.mem_map.mp (hin.subset (List.mem_map_of_mem hc))
  have hblank : d = ' ' := by
    have hmem := Backend.mem_visible hd
    rw [joinedText, String.toList_intercalate] at hmem
    rcases mem_intercalate hmem with hmem | ⟨p, hp, hmem⟩
    · simpa using hmem
    · simp only [Option.getD_none, List.map_map, List.mem_map, Function.comp_def] at hp
      obtain ⟨_, -, rfl⟩ := hp
      nomatch hmem
  rw [hblank, (hb.fold_eq_iff ' ' (by decide) ' ').mpr rfl] at hdc
  exact hne ((hb.fold_eq_iff ' ' (by decide) c).mp hdc.symm)

/-! ## Phones -/

/-- Whether a text contains the stored form of a query that is phone-shaped. -/
def Backend.ContainsPhone (b : Backend) (query : List Char) (text : Option String) : Prop :=
  Phone.isShaped query = true ∧ ∃ digits, Phone.normalize query = some digits ∧ b.Contains digits text

namespace Criterion

variable {query : String}

/-- A phone-shaped query is searched for by its stored form. -/
theorem condition?_phone_of_isShaped (hs : Phone.isShaped query.toList = true) (e : Expr) :
    (phone e).condition? query =
      some (e.containing (String.ofList (Phone.withCountryCode (Phone.digits query.toList)))) := by
  rw [condition?, if_pos hs, Phone.normalize_eq_some (Phone.digits_ne_nil_of_isShaped hs), Option.map_some]

/-- Any other query yields no condition on a phone. -/
theorem condition?_phone_eq_none_iff {e : Expr} :
    (phone e).condition? query = none ↔ Phone.isShaped query.toList = false := by
  cases hs : Phone.isShaped query.toList with
  | true => simp [condition?_phone_of_isShaped hs]
  | false => simp [condition?, hs]

end Criterion

/-! ## Properties -/

namespace Property

/-- Whether a column of a table contains the query. -/
def columnContains (query : List Char) (t : Table) (column : String) : Property := fun b cells =>
  b.Contains query (cells t.name column)

/-- Whether the full name in a row of a table contains the query. -/
def nameContains (query : List Char) (t : Table) : Property := fun b cells =>
  b.LineContains query nameColumns (cells t.name)

/-- Whether the address of a location contains the query. -/
def addressContains (query : List Char) : Property := fun b cells =>
  b.LineContains query addressColumns (cells Table.listingLocation.name)

/-- Whether the phone of a person contains the stored form of the query. -/
def phoneContains (query : List Char) : Property := fun b cells =>
  b.ContainsPhone query (cells Table.person.name "normalized_phone")

/-- Whether a property holds with a contact card of a tenant. -/
def ofTenant (tenant : Option String) (P : Property) : Property := fun b cells =>
  cells Table.contact.name "tenant_id" = tenant ∧ P b cells

end Property

/-! ## Rules -/

namespace Rule

open Property

/-- A rule tests a property: its predicate does, or it yields none and nothing has the property. -/
def Tests (query : List Char) (context : SearchContext) (r : Rule) (P : Property) : Prop :=
  match r.predicate? (String.ofList query) context with
  | some p => p.Tests query P
  | none => ∀ b cells, ¬P b cells

variable {query : List Char} {context : SearchContext} {t : Table}

/-- A rule on a text tests whether the text contains the query. -/
theorem tests_text {e : Expr} {f : Contents → Option String} (h : e.Reads f) :
    Tests query context ⟨.text e, []⟩ fun b cells => b.Contains query (f cells) :=
  Expr.tests_containing h fun _ hb => hb

/-- A rule on a column tests whether the column contains the query. -/
theorem tests_columnText {name : String} (h : name ∈ t.columnNames) :
    (Definition.columnText t.name name).Tests query context (columnContains query t name) :=
  tests_text (Expr.reads_column h)

/-- A rule on a full name tests whether the name contains the query. -/
theorem tests_fullNameText (h : ∀ c ∈ nameColumns, c ∈ t.columnNames) :
    (Definition.fullNameText t.name).Tests query context (nameContains query t) :=
  tests_text (Expr.reads_fullName h)

/-- The rule on addresses tests whether the address contains the query. -/
theorem tests_address : Tests query context ⟨.text Definition.address, []⟩ (addressContains query) :=
  tests_text (Expr.reads_columns (t := .listingLocation) (by decide))

/-- The identifier is searched as text. -/
theorem tests_identifier (h : "id" ∈ t.columnNames) :
    Tests query context ⟨.text (.asText (.column t.name "id")), []⟩ (columnContains query t "id") :=
  tests_text (Expr.reads_asText (Expr.reads_column h))

/-- The phone rule tests nothing unless the query is phone-shaped. -/
theorem tests_phone {e : Expr} {f : Contents → Option String} (h : e.Reads f) :
    Tests query context ⟨.phone e, []⟩ fun b cells => b.ContainsPhone query (f cells) := by
  have hshape : Phone.isShaped (String.ofList query).toList = Phone.isShaped query := by rw [String.toList_ofList]
  by_cases hs : Phone.isShaped query = true
  · have hpred : predicate? (String.ofList query) context ⟨.phone e, []⟩ = _ :=
      Criterion.condition?_phone_of_isShaped (hshape.trans hs) e
    have hstored := Phone.normalize_eq_some (Phone.digits_ne_nil_of_isShaped hs)
    have hnul : '\x00' ∉ Phone.withCountryCode (Phone.digits query) := by
      intro hc
      exact absurd (Phone.isDecimalDigit_of_mem_normalize hstored hc) (by decide)
    have htest := Expr.tests_containing h fun b (hb : b.ReadsLiterally query) => hb.of_notMem hnul
    rw [Tests, hpred, String.toList_ofList]
    simpa only [Backend.ContainsPhone, hs, hstored, true_and, Option.some.injEq, exists_eq_left'] using htest
  · have hpred : predicate? (String.ofList query) context ⟨.phone e, []⟩ = none :=
      Criterion.condition?_phone_eq_none_iff.mpr (hshape.trans (Bool.eq_false_iff.mpr hs))
    rw [Tests, hpred]
    exact fun _ _ h => hs h.1

/-- The rule on phones tests whether the phone contains the stored form of the query. -/
theorem tests_personPhone :
    Definition.personPhone.Tests query context (phoneContains query) :=
  tests_phone (Expr.reads_column (t := .person) (by decide))

/-- A text of the tenant's own cards is searched behind a guard on the tenant of the search. -/
theorem predicate?_ownCards {tenant : String} (ht : context.tenantId = some tenant) (e : Expr) (text : String) :
    predicate? text context ⟨.text e, [Definition.ownCards]⟩ =
      some (guarded (.column Table.contact.name "tenant_id") (some tenant) (some (e.containing text))) := by
  rw [predicate?_cons, predicate?_nil, Guard.around, Criterion.condition?, Definition.ownCards, GuardTenant.inContext, ht]
  rfl

/-- A rule that the tenant of a card guards tests in addition that the card belongs to the tenant of the search. -/
theorem tests_ofTenant {tenant : String} (ht : context.tenantId = some tenant) {e : Expr} {f : Contents → Option String}
    (h : e.Reads f) :
    Tests query context ⟨.text e, [Definition.ownCards]⟩
      (ofTenant (some tenant) fun b cells => b.Contains query (f cells)) := by
  rw [Tests, predicate?_ownCards ht]
  exact Expr.tests_guarded (by decide) tenant (Expr.tests_containing h fun _ hb => hb)

/-- The predicates that rules yield test together what the rules test. -/
theorem exists_predicates {rules : List Rule} {Ps : List Property}
    (h : List.Forall₂ (Tests query context) rules Ps) :
    ∃ Qs, List.Forall₂ (Expr.Tests query) ((rules.map (predicate? (String.ofList query) context)).filterMap id) Qs ∧
      ∀ b cells, (∃ Q ∈ Qs, Q b cells) ↔ ∃ P ∈ Ps, P b cells := by
  induction h with
  | nil => exact ⟨[], .nil, fun _ _ => Iff.rfl⟩
  | @cons r P rules Ps hr _ ih =>
    obtain ⟨Qs, hQs, hiff⟩ := ih
    rw [Tests] at hr
    cases hp : predicate? (String.ofList query) context r with
    | none =>
      rw [hp] at hr
      refine ⟨Qs, by simpa [hp] using hQs, fun b cells => ?_⟩
      rw [hiff, List.exists_mem_cons_iff, or_iff_right (hr b cells)]
    | some p =>
      rw [hp] at hr
      have hcons : List.Forall₂ (Expr.Tests query) (p :: _) (P :: Qs) := .cons hr hQs
      refine ⟨P :: Qs, by simpa [hp] using hcons, fun b cells => ?_⟩
      rw [List.exists_mem_cons_iff, List.exists_mem_cons_iff, hiff]

end Rule

/-! ## Rules for two queries -/

/-- Whether a relation between predicates holds of the predicates that a rule yields for two queries: of the same predicate, of
those that an expression contains either query, or its phone, and of related predicates that are guarded. -/
structure RelatesRules (R : Expr → Expr → Prop) (query query' : String) : Prop where
  refl : ∀ e : Expr, R e e
  containing : ∀ e : Expr, R (e.containing query) (e.containing query')
  phone : ∀ e : Expr, Option.Rel R ((Criterion.phone e).condition? query) ((Criterion.phone e).condition? query')
  guarded : ∀ (column : Expr) (tenant : Option String) {p p' : Expr}, R p p' →
    R (guarded column tenant (some p)) (guarded column tenant (some p'))

/-- Items present on both sides one by one stay related when the missing ones are left out. -/
theorem forall₂_filterMap_id {α β : Type} {R : α → β → Prop} {as : List (Option α)} {bs : List (Option β)}
    (h : List.Forall₂ (Option.Rel R) as bs) : List.Forall₂ R (as.filterMap id) (bs.filterMap id) := by
  induction h with
  | nil => exact .nil
  | cons hab _ ih =>
    cases hab with
    | none => exact ih
    | some hr => exact .cons hr ih

namespace RelatesRules

variable {R : Expr → Expr → Prop} {query query' : String}

/-- A criterion yields related conditions for both queries, or none for either. -/
theorem condition? (h : RelatesRules R query query') (c : Criterion) :
    Option.Rel R (c.condition? query) (c.condition? query') := by
  cases c with
  | text e => exact .some (h.containing e)
  | phone e => exact h.phone e
  | node e => exact .some (h.refl e)
  | nothing => exact .none

/-- What stands behind a guard stays related; a condition that is missing for both queries is kept as the same null. -/
theorem around (h : RelatesRules R query query') (context : SearchContext) (g : Guard) {p p' : Option Expr}
    (hp : Option.Rel R p p') : R (g.around context p) (g.around context p') := by
  cases hp with
  | none => exact h.refl _
  | some hp => exact h.guarded _ _ hp

/-- A rule yields related predicates for both queries, or none for either, however many guards it stands behind. -/
theorem predicate? (h : RelatesRules R query query') (context : SearchContext) (r : Rule) :
    Option.Rel R (r.predicate? query context) (r.predicate? query' context) := by
  obtain ⟨criterion, guards⟩ := r
  induction guards with
  | nil => exact h.condition? criterion
  | cons g guards ih => exact .some (h.around context g ih)

/-- A definition yields as many predicates for one query as for the other, and they are related one by one. -/
theorem predicates (h : RelatesRules R query query') (context : SearchContext) (d : Definition) :
    List.Forall₂ R ((d.predicates query context).filterMap id) ((d.predicates query' context).filterMap id) := by
  refine forall₂_filterMap_id ?_
  rw [Definition.predicates, Definition.predicates, List.forall₂_map_left_iff, List.forall₂_map_right_iff, List.forall₂_same]
  intro r _
  exact h.predicate? context r

end RelatesRules

/-! ## Conditions of definitions -/

namespace Definition

/-- The rules of a definition that apply in a context. -/
def rulesIn (d : Definition) (context : SearchContext) : List Rule :=
  d.rules ++ if context.hasTenant then d.tenantRules else []

/-- The predicates of a definition for a query; rules that yield none are left out. -/
def conditions (d : Definition) (query : List Char) (context : SearchContext) : List Expr :=
  (d.predicates (String.ofList query) context).filterMap id

/-- The predicates of a definition are those of its rules. -/
theorem mem_conditions {d : Definition} {query : List Char} {context : SearchContext} {p : Expr} :
    p ∈ d.conditions query context ↔ ∃ r ∈ d.rulesIn context, r.predicate? (String.ofList query) context = some p := by
  have heq : d.predicates (String.ofList query) context =
      (d.rulesIn context).map (Rule.predicate? (String.ofList query) context) := rfl
  simp [conditions, heq]

/-- Whether every predicate of a definition for a query is a condition over the columns of the schema. -/
def Compiles (d : Definition) (query : List Char) (context : SearchContext) : Prop :=
  ∀ p ∈ d.conditions query context, ∃ c, Clause.ofExpr Catalog.ofSchema p = .ok c

end Definition

end EntitySearch
