import EntitySearch.Proofs.Scope

/-!
# Tenant isolation

A person has a contact card with each tenant that knows it. A search over users that reads cards only behind a guard on their
tenant cannot tell two databases apart that differ in the cards of other tenants: it selects the same users in both, and each
of them once. A foreign card can multiply the combinations of a user, and can turn a combination without a card into one with a
card, but it takes no combination away that a predicate lets through (`mem_run_of_agreesOutside`).
-/

namespace EntitySearch

/-! ## Hidden cards -/

/-- Whether two databases have the same rows, apart from contact cards that are hidden. -/
def Database.AgreesOutside (hidden : Row → Prop) (db db' : Database) : Prop :=
  ∀ (t : Table) (r : Row), (t = .contact → ¬hidden r) → (r ∈ db.rows t ↔ r ∈ db'.rows t)

theorem Database.AgreesOutside.symm {hidden : Row → Prop} {db db' : Database} (h : db.AgreesOutside hidden db') :
    db'.AgreesOutside hidden db := by
  intro t r hr
  exact (h t r hr).symm

/-- The names of the tables that hold what is known of an account apart from contact cards. -/
def accountTables : List String := [Table.user, Table.userProfile, Table.person].map Table.name

/-- Whether a condition cannot tell hidden cards apart: it mentions no card, or it lets a row through only with a card of a
tenant that no hidden card belongs to. -/
def Clause.IsShielded (hidden : Row → Prop) (c : Clause) : Prop :=
  Table.contact.name ∉ c.tables ∨ ∀ b cells, c.passes b cells = true →
    ∃ tenant, cells Table.contact.name "tenant_id" = some tenant ∧ ∀ r, hidden r → r.get "tenant_id" ≠ some tenant

/-- A condition on account tables cannot tell any cards apart. -/
theorem Clause.isShielded_of_tables (hidden : Row → Prop) {c : Clause} (h : ∀ name ∈ c.tables, name ∈ accountTables) :
    c.IsShielded hidden :=
  Or.inl fun hmem => absurd (h _ hmem) (by decide)

namespace Select

/-- Every user with its profile, its person and the cards of the person, each user once. -/
def accounts : Select := Entity.agencyUsers.prepared []

/-- The relationships along which users are searched. -/
theorem relations_accounts : accounts.relations = [.profile, .userPerson, .contacts] := Entity.relations_prepared _ _

/-- The statement over users mentions no table but those it selects from. -/
theorem isClosed_accounts : accounts.IsClosed := Entity.isClosed_prepared (by simp [Clause.tablesOf])

variable {hidden : Row → Prop} {b : Backend} {db db' : Database} {cs : List Clause} {u : Row}

/-- Apart from cards two databases with the same rows pair the same rows. -/
theorem Pairs.of_agreesOutside (h : db.AgreesOutside hidden db') {r : Relation} (hr : r.target ≠ .contact)
    {source o : Option Row} (hp : Pairs db r source o) : Pairs db' r source o := by
  have hrows : ∀ row, row ∈ db.rows r.target ↔ row ∈ db'.rows r.target := fun row => h _ row fun ht => absurd ht hr
  cases o with
  | none => exact fun s hs row hrow => hp s hs row ((hrows row).mpr hrow)
  | some row => exact ⟨(hrows row).mp hp.1, hp.2⟩

/-- The combinations of a user. -/
theorem joined_accounts {bound : Binding} :
    Joined db [.profile, .userPerson, .contacts] [(.user, some u)] bound ↔
      ∃ profile, Pairs db .profile (some u) profile ∧ ∃ person, Pairs db .userPerson (some u) person ∧
        ∃ card, Pairs db .contacts person card ∧
          bound = [(.user, some u), (.userProfile, profile), (.person, person)] ++ [(.contact, card)] :=
  Iff.rfl

/-- What a condition lets through with a card, or with none, it lets through in another database that differs in hidden cards
only: with the same card when it depends on the card, with any when it does not. -/
theorem exists_card (h : db.AgreesOutside hidden db') {c : Clause} (hc : c.IsShielded hidden) {bound : Binding}
    (hbound : bound.lookup .contact = none) {person card : Option Row} (hcard : Pairs db .contacts person card)
    (hp : c.passes b (bound ++ [(Table.contact, card)]).contents = true) :
    ∃ card', Pairs db' .contacts person card' ∧ c.passes b (bound ++ [(Table.contact, card')]).contents = true := by
  rcases hc with hfree | hguard
  · obtain ⟨card', hcard'⟩ := exists_pairs db' .contacts person
    refine ⟨card', hcard', hp ▸ Clause.passes_congr fun name hname => ?_⟩
    have hne : name ≠ Table.contact.name := fun heq => hfree (heq ▸ hname)
    rw [Binding.contents_append_of_ne hne, Binding.contents_append_of_ne hne]
  · obtain ⟨tenant, hcell, hshown⟩ := hguard b _ hp
    have hrow : (bound ++ [(Table.contact, card)]).row? .contact = card := by
      simp [Binding.row?, List.lookup_append, hbound]
    rw [Binding.contents_name, hrow] at hcell
    obtain ⟨row, rfl, htenant⟩ := Option.bind_eq_some_iff.mp hcell
    have hvisible : row ∈ db'.rows .contact := (h _ row fun _ hr => hshown row hr htenant).mp hcard.1
    exact ⟨some row, ⟨hvisible, hcard.2⟩, hp⟩

/-- A user who is selected in one database is selected in every other that differs in hidden cards only, when no condition can
tell hidden cards apart. -/
theorem mem_run_of_agreesOutside (hcs : ∀ c ∈ cs, c.IsShielded hidden) (hclosed : (accounts.narrowedBy cs).IsClosed)
    (h : db.AgreesOutside hidden db') (hu : u ∈ (accounts.narrowedBy cs).run b db) :
    u ∈ (accounts.narrowedBy cs).run b db' := by
  rw [mem_run_narrowedBy hclosed, relations_accounts] at hu ⊢
  obtain ⟨hrow, bound, hj, -, hpass⟩ := hu
  refine ⟨(h .user u nofun).mp hrow, ?_⟩
  rcases hpass with hvoid | ⟨c, hc, hv, hp⟩
  · obtain ⟨bound', hj'⟩ := exists_joined db' [.profile, .userPerson, .contacts] [(.user, some u)]
    exact ⟨bound', hj', nofun, Or.inl hvoid⟩
  · obtain ⟨profile, hprofile, person, hperson, card, hcard, rfl⟩ := joined_accounts.mp hj
    have hprofile' := hprofile.of_agreesOutside h (by decide)
    have hperson' := hperson.of_agreesOutside h (by decide)
    obtain ⟨card', hcard', hp'⟩ := exists_card h (hcs c hc) rfl hcard hp
    exact ⟨_, joined_accounts.mpr ⟨profile, hprofile', person, hperson', card', hcard', rfl⟩, nofun,
      Or.inr ⟨c, hc, hv, hp'⟩⟩

end Select

/-! ## Guarded definitions -/

/-- Whether a predicate mentions no card, or stands behind a guard that asks for a card of a tenant. -/
def Expr.IsGuarded (tenant : String) (p : Expr) : Prop :=
  (∀ name ∈ p.tables, name ∈ accountTables) ∨
    ∃ q, p = guarded (.column Table.contact.name "tenant_id") (some tenant) (some q) ∧
      ∀ name ∈ q.tables, name ∈ accountTables ++ [Table.contact.name]

/-- Whether a definition joins users with their profiles and with the cards of their persons, drops repeated rows, and reads
cards only behind a guard on a tenant. -/
structure Definition.IsGuarded (d : Definition) (tenant : String) (query : List Char) (context : SearchContext) : Prop where
  joins : d.joins = ["profile", "person.contacts"]
  distinct : d.distinct = true
  guarded : ∀ p ∈ d.conditions query context, p.IsGuarded tenant

variable {tenant : String}

/-- A guarded predicate mentions the tables of accounts and cards. -/
theorem Expr.IsGuarded.tables {p : Expr} (h : p.IsGuarded tenant) :
    ∀ name ∈ p.tables, name ∈ accountTables ++ [Table.contact.name] := by
  intro name hname
  rcases h with h | ⟨q, rfl, hq⟩
  · exact List.mem_append_left _ (h name hname)
  · rw [tables_guarded, List.mem_append] at hname
    rcases hname with hname | hname
    · exact List.mem_append_right _ (by simpa [Expr.tables] using hname)
    · exact hq name hname

/-- The condition of a guarded predicate cannot tell the cards of other tenants apart. -/
theorem Expr.IsGuarded.isShielded {p : Expr} (h : p.IsGuarded tenant) {c : Clause}
    (hc : Clause.ofExpr Catalog.ofSchema p = .ok c) :
    c.IsShielded fun card => card.get "tenant_id" ≠ some tenant := by
  rcases h with h | ⟨q, rfl, -⟩
  · exact Clause.isShielded_of_tables _ (by rwa [Clause.tables_ofExpr p hc])
  · right
    intro b cells hp
    obtain ⟨d, -, rfl⟩ := (Expr.ofExpr_guarded (t := .contact) (by decide)).mp hc
    exact ⟨tenant, (Expr.passes_guarded.mp hp).1, fun _ hr => hr⟩

/-! ## Searches over users -/

/-- Whether the statement a search over users ends in, if it ends in one, selects the same users in every two databases that
differ in hidden cards only, and each of them once. -/
def SearchOutcome.HidesCards (o : SearchOutcome) (hidden : Row → Prop) : Prop :=
  ∀ found, o.statement? = some found → ∀ (b : Backend) (db db' : Database), db.AgreesOutside hidden db' →
    (∀ u, u ∈ found.run b db ↔ u ∈ found.run b db') ∧ ((db.rows .user).Nodup → (found.run b db).Nodup)

namespace Select

/-- Conditions that are shielded from hidden cards leave a narrowed statement that selects the same users. -/
theorem mem_run_iff_of_agreesOutside {hidden : Row → Prop} {b : Backend} {db db' : Database} {cs : List Clause} {u : Row}
    (hcs : ∀ c ∈ cs, c.IsShielded hidden) (hclosed : (accounts.narrowedBy cs).IsClosed)
    (h : db.AgreesOutside hidden db') :
    u ∈ (accounts.narrowedBy cs).run b db ↔ u ∈ (accounts.narrowedBy cs).run b db' :=
  ⟨mem_run_of_agreesOutside hcs hclosed h, mem_run_of_agreesOutside hcs hclosed h.symm⟩

end Select

section

variable {service : Service} {around : Surroundings} {request : SearchRequest} {d : Definition}

/-- A definition with these joins prepares the statement over users. -/
theorem Definition.performAll_preparation (hj : d.joins = ["profile", "person.contacts"]) (hd : d.distinct = true) :
    (Collection.select (.all .user)).performAll d.preparation = .ok (.select .accounts) := by
  rw [preparation, hj, hd]
  rfl

/-- A search whose predicates are shielded from hidden cards hides them. -/
theorem Service.hidesCards {hidden : Row → Prop} (h : service.Takes around request d)
    (hcol : request.collection = .select (.all .user)) (hj : d.joins = ["profile", "person.contacts"])
    (hd : d.distinct = true)
    (htables : ∀ p ∈ d.conditions request.text (request.contextIn around), ∀ name ∈ p.tables,
      name ∈ accountTables ++ [Table.contact.name])
    (hshield : ∀ p ∈ d.conditions request.text (request.contextIn around), ∀ c,
      Clause.ofExpr Catalog.ofSchema p = .ok c → c.IsShielded hidden) :
    (service.search around request).HidesCards hidden := by
  intro found hfound b db db' hagree
  rcases blank_or_refuses_or_reads service request with hblank | hrefuse | hread
  · rw [statement?_search_of_blank hcol hblank] at hfound
    rw [← Option.some.inj hfound, Select.run_all, Select.run_all]
    exact ⟨fun u => hagree .user u nofun, id⟩
  · rw [statement?_search_of_refuses hrefuse] at hfound
    nomatch hfound
  · have hprep := hcol ▸ Definition.performAll_preparation hj hd
    obtain ⟨cs, hcs, rfl⟩ := (statement?_search_eq_some h hread hprep).mp hfound
    have hclosed : (Select.accounts.narrowedBy cs).IsClosed := by
      refine Select.isClosed_accounts.narrowedBy fun name hname => ?_
      have hjoined : (Select.accounts.root :: Select.accounts.relations.map (·.target)).map Table.name =
          accountTables ++ [Table.contact.name] := by decide
      obtain ⟨c, hc, hname⟩ := Clause.mem_tablesOf.mp hname
      obtain ⟨p, hp, hpc⟩ := exists_left_of_mem hcs hc
      rw [Clause.tables_ofExpr p hpc] at hname
      rw [hjoined]
      exact htables p hp name hname
    refine ⟨fun u => Select.mem_run_iff_of_agreesOutside (fun c hc => ?_) hclosed hagree, fun _ => ?_⟩
    · obtain ⟨p, hp, hpc⟩ := exists_left_of_mem hcs hc
      exact hshield p hp c hpc
    · exact Select.nodup_run_of_distinct hclosed.limit (by rw [Select.distinct_narrowedBy]; rfl)

end

/-! ## The standard definition of users -/

section

variable {query : List Char} {context : SearchContext}

/-- The rules of the standard definition of users that do not depend on a tenant mention no card. -/
theorem tables_agencyUsers_rules : ∀ r ∈ Definition.agencyUsers.rules, ∀ name ∈ r.tables, name ∈ accountTables := by decide

/-- The rules for a tenant search a text of a card behind a guard on the card's tenant. -/
theorem tenantRules_agencyUsers : ∀ r ∈ Definition.agencyUsers.tenantRules,
    ∃ e, r = ⟨.text e, [Definition.ownCards]⟩ ∧ e.tables ⊆ accountTables ++ [Table.contact.name] :=
  List.forall_mem_cons.mpr ⟨⟨_, rfl, by decide⟩, List.forall_mem_singleton.mpr ⟨_, rfl, by decide⟩⟩

/-- The standard definition of users reads cards only behind a guard on the tenant of the search. -/
theorem agencyUsers_isGuarded (h : context.tenantId = some tenant) :
    Definition.agencyUsers.IsGuarded tenant query context := by
  refine ⟨rfl, rfl, fun p hp => ?_⟩
  obtain ⟨r, hr, hp⟩ := Definition.mem_conditions.mp hp
  rcases List.mem_append.mp hr with hr | hr
  · exact Or.inl fun name hname => tables_agencyUsers_rules r hr name (Rule.tables_predicate? hp name hname)
  · split at hr
    · obtain ⟨e, rfl, he⟩ := tenantRules_agencyUsers r hr
      rw [Rule.predicate?_ownCards h] at hp
      refine Or.inr ⟨_, (Option.some.inj hp).symm, fun name hname => ?_⟩
      rw [Expr.tables_containing] at hname
      exact he hname
    · cases hr

/-- Without a tenant the standard definition of users reads no card. -/
theorem tables_agencyUsers_of_no_tenant (h : context.hasTenant = false) :
    ∀ p ∈ Definition.agencyUsers.conditions query context, ∀ name ∈ p.tables, name ∈ accountTables := by
  intro p hp name hname
  obtain ⟨r, hr, hp⟩ := Definition.mem_conditions.mp hp
  rw [Definition.rulesIn, h, if_neg Bool.false_ne_true, List.append_nil] at hr
  exact tables_agencyUsers_rules r hr name (Rule.tables_predicate? hp name hname)

end

/-! ## Isolation -/

/-- **Tenant isolation.** Take a definition that joins users with their profiles and with the cards of their persons, drops
repeated rows, and reads cards only behind a guard on one tenant. A search over all users by it, without a limit, selects the
same users in every two databases that differ only in cards of other tenants, and each user once; it ends in a statement unless
the query is too long. The standard definition of users is of this form whatever the query and the tenant, and without a tenant
what it selects depends on no card at all. -/
theorem foreign_cards_are_hidden :
    (∀ (service : Service) (around : Surroundings) (request : SearchRequest) (d : Definition) (tenant : String),
      service.Takes around request d → request.collection = .select (.all .user) →
      d.IsGuarded tenant request.text (request.contextIn around) →
        (service.search around request).HidesCards (fun card => card.get "tenant_id" ≠ some tenant) ∧
        (d.Compiles request.text (request.contextIn around) → ¬service.Refuses request →
          ∃ found, (service.search around request).statement? = some found)) ∧
    (∀ (query : List Char) (context : SearchContext),
      Definition.agencyUsers.Compiles query context ∧
      ∀ tenant, context.tenantId = some tenant → Definition.agencyUsers.IsGuarded tenant query context) ∧
    (∀ (service : Service) (around : Surroundings) (request : SearchRequest),
      service.Takes around request .agencyUsers → request.collection = .select (.all .user) →
      (request.contextIn around).tenantId = none ∨ (request.contextIn around).tenantId = some "" →
        (service.search around request).HidesCards (fun _ => True) ∧
        (¬service.Refuses request → ∃ found, (service.search around request).statement? = some found)) := by
  refine ⟨?_, ?_, ?_⟩
  · intro service around request d tenant h hcol hd
    refine ⟨Service.hidesCards h hcol hd.joins hd.distinct (fun p hp => (hd.guarded p hp).tables)
      (fun p hp c hc => (hd.guarded p hp).isShielded hc), fun hc hr => ?_⟩
    exact Service.exists_statement h hcol (Definition.performAll_preparation hd.joins hd.distinct) hc hr
  · intro query context
    exact ⟨Entity.compiles .agencyUsers, fun tenant h => agencyUsers_isGuarded h⟩
  · intro service around request h hcol hnone
    have htenant : (request.contextIn around).hasTenant = false := by
      rcases hnone with hnone | hnone <;> simp [SearchContext.hasTenant, hnone]
    have htables : ∀ p ∈ Definition.agencyUsers.conditions request.text (request.contextIn around), ∀ name ∈ p.tables,
        name ∈ accountTables :=
      tables_agencyUsers_of_no_tenant htenant
    have hhides : (service.search around request).HidesCards fun _ => True := Service.hidesCards h hcol rfl rfl
      (fun p hp name hname => List.mem_append_left _ (htables p hp name hname))
      (fun p hp c hc => Clause.isShielded_of_tables _ (by rw [Clause.tables_ofExpr p hc]; exact htables p hp))
    exact ⟨hhides, Service.exists_statement h hcol (Definition.performAll_preparation rfl rfl) (Entity.compiles .agencyUsers)⟩

/-- A user whose person has a card with the tenant beta and with no other. -/
def Database.cardOfBeta : Database :=
  ((Database.empty.withRows .user [⟨[("person_id", some "p1"), ("email", some "anna@mail.kz"), ("id", some "u1")]⟩]).withRows
    .person [⟨[("normalized_phone", some "77015556677"), ("id", some "p1")]⟩]).withRows
    .contact [⟨[("person_id", some "p1"), ("first_name", some "Sergey"), ("last_name", some "Sidorov"), ("middle_name", none),
      ("email", none), ("id", some "c1"), ("tenant_id", some "beta")]⟩]

/-- A request for the users whose accounts, or whose cards with a tenant, contain a name. -/
def SearchRequest.forSidorov (tenant : Option String) : SearchRequest where
  entity := .value (.text "agency_users")
  collection := .select (.all .user)
  query := .text "Sidorov"
  context := some { tenantId := tenant }

/-- Neither another tenant nor a search without one can tell whether the card of the tenant beta is there. -/
theorem card_of_beta_is_hidden :
    Database.cardOfBeta.AgreesOutside (fun card => card.get "tenant_id" ≠ some "alpha") (.withRows .cardOfBeta .contact []) ∧
    ∀ tenant ∈ [some "alpha", none], ∃ found,
      (Service.search {} {} (.forSidorov tenant)).statement? = some found ∧
        (∀ u, u ∈ found.run .ascii .cardOfBeta ↔ u ∈ found.run .ascii (.withRows .cardOfBeta .contact [])) ∧
        (found.run .ascii .cardOfBeta).Nodup := by
  have hcard : ∀ hidden : Row → Prop, (∀ card ∈ Database.cardOfBeta.rows .contact, hidden card) →
      Database.cardOfBeta.AgreesOutside hidden (.withRows .cardOfBeta .contact []) := by
    intro hidden hall t r hr
    by_cases ht : t = .contact
    · subst ht
      exact ⟨fun hmem => absurd (hall r hmem) (hr rfl), fun hmem => nomatch hmem⟩
    · rw [Database.rows_withRows_of_ne _ _ ht]
  have halpha := hcard (fun card => card.get "tenant_id" ≠ some "alpha") (by decide)
  have hnodup : (Database.cardOfBeta.rows .user).Nodup := by decide
  have htakes : ∀ tenant, Service.Takes {} {} (.forSidorov tenant) .agencyUsers := fun _ => ⟨rfl, rfl, rfl⟩
  have hread : ∀ tenant, ¬Service.Refuses {} (.forSidorov tenant) := by
    intro tenant h
    have hlong : ParsedQuery.exceeds (some 256) (Query.normalize "Sidorov".toList) = true := h.2.2
    exact absurd hlong (by decide)
  obtain ⟨hguarded, hstandard, hnone⟩ := foreign_cards_are_hidden
  refine ⟨halpha, List.forall_mem_cons.mpr ⟨?_, List.forall_mem_singleton.mpr ?_⟩⟩
  · obtain ⟨hcompiles, hguard⟩ := hstandard (SearchRequest.forSidorov (some "alpha")).text { tenantId := some "alpha" }
    obtain ⟨hhides, hends⟩ := hguarded {} {} (.forSidorov (some "alpha")) .agencyUsers "alpha" (htakes _) rfl (hguard _ rfl)
    obtain ⟨found, hfound⟩ := hends hcompiles (hread _)
    have h := hhides found hfound .ascii _ _ halpha
    exact ⟨found, hfound, h.1, h.2 hnodup⟩
  · obtain ⟨hhides, hends⟩ := hnone {} {} (.forSidorov none) (htakes _) rfl (Or.inl rfl)
    obtain ⟨found, hfound⟩ := hends (hread _)
    have h := hhides found hfound .ascii _ _ (hcard (fun _ => True) fun _ _ => trivial)
    exact ⟨found, hfound, h.1, h.2 hnodup⟩

end EntitySearch
