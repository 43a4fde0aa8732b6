import EntitySearch.Proofs.Matches

/-!
# What searches return

A search over a scope returns the rows of the scope that match the query, all of them and each of them once. Users and listings
come once because repeated rows are dropped (`search_users_iff`, `search_listings_iff`): their joins can give several rows for
one. Inquiries, owner links, categories and characteristics come once because each of their joins leads to the one row that is
referred to (`search_to_one_iff`).
-/

namespace EntitySearch

/-! ## A small database -/

namespace Sample

/-- A user without an e-mail. -/
def user : Row := ⟨[("person_id", some "p1"), ("email", none), ("id", some "u1")]⟩

/-- The card that the tenant alpha keeps for the person of the user. -/
def card : Row :=
  ⟨[("person_id", some "p1"), ("first_name", some "Sergey"), ("last_name", some "Sidorov"), ("middle_name", none),
    ("email", none), ("id", some "c1"), ("tenant_id", some "alpha")]⟩

/-- A card of the same name whose person is missing. -/
def namesake : Row :=
  ⟨[("person_id", some "p2"), ("first_name", some "Boris"), ("last_name", some "Sidorov"), ("middle_name", none),
    ("email", none), ("id", some "c2"), ("tenant_id", some "alpha")]⟩

/-- A listing without a location. -/
def listing : Row := ⟨[("title", some "Flat"), ("id", some "l1"), ("tenant_id", some "alpha")]⟩

/-- An inquiry of the person that is missing. -/
def inquiry : Row := ⟨[("contact_id", some "c2"), ("status", some "pending"), ("id", some "i1"), ("tenant_id", some "alpha")]⟩

/-- The person of the user. -/
def person : Row := ⟨[("normalized_phone", some "77015556677"), ("id", some "p1")]⟩

/-- Both people of the name own the listing. -/
def owners : List Row :=
  [⟨[("listing_id", some "l1"), ("contact_id", some "c1"), ("id", some "o1")]⟩,
   ⟨[("listing_id", some "l1"), ("contact_id", some "c2"), ("id", some "o2")]⟩]

/-- A database of these rows. -/
def database : Database := ⟨fun t => match t with
  | .user => [user]
  | .person => [person]
  | .contact => [card, namesake]
  | .listing => [listing]
  | .listingOwner => owners
  | .purchaseInquiry => [inquiry]
  | _ => []⟩

theorem hasUniqueIds : database.HasUniqueIds := by
  intro t
  cases t <;> decide

/-- A request of the tenant alpha for the rows of an entity that contain the name. -/
def request (e : Entity) (conditions : List Clause) : SearchRequest where
  entity := .value (.text e.key)
  collection := .select (.scope e.table conditions)
  query := .text " sidorov "
  context := some { tenantId := some "alpha" }

theorem text_request (e : Entity) (conditions : List Clause) : (request e conditions).text = "sidorov".toList := by
  have htext : (request e conditions).text = Query.normalize " sidorov ".toList := rfl
  rw [htext]
  decide

theorem accepts (e : Entity) {conditions : List Clause} (h : ∀ name ∈ Clause.tablesOf conditions, name = e.table.name) :
    Service.Accepts {} {} (request e conditions) e conditions :=
  ⟨rfl, rfl, Entity.ofKey?_key e, rfl, h, rfl, ⟨nofun, by rw [text_request]; decide, by rw [text_request]; decide⟩⟩

/-- The name is read literally. -/
theorem readsLiterally (e : Entity) (conditions : List Clause) :
    Backend.ascii.ReadsLiterally (request e conditions).text := by
  rw [text_request]
  exact Backend.ascii_readsLiterally (by decide)

theorem nameContains_card : Backend.ascii.NameContains "sidorov".toList card := ⟨_, rfl, by decide +kernel⟩

theorem nameContains_namesake : Backend.ascii.NameContains "sidorov".toList namesake := ⟨_, rfl, by decide +kernel⟩

end Sample

variable {service : Service} {around : Surroundings} {request : SearchRequest} {e : Entity} {conditions : List Clause}

/-! ## Matching rows -/

/-- A query that is read has a character that is no space. -/
theorem Service.Reads.exists_ne_space (h : service.Reads request) : ∃ c ∈ request.text, c ≠ ' ' := by
  obtain ⟨c, hc, hblank⟩ := Query.exists_not_blank h.nonempty
  refine ⟨c, hc, ?_⟩
  rintro rfl
  rw [Text.isBlank_space] at hblank
  nomatch hblank

/-- What is found over a scope are the rows of the scope that match. -/
theorem Select.Finds.mem_run_iff {found : Select} {query : List Char} {context : SearchContext}
    (h : found.Finds e conditions query context) (hq : ∃ c ∈ query, c ≠ ' ') {b : Backend} {db : Database}
    (hb : b.ReadsLiterally query) {u : Row} :
    u ∈ found.run b db ↔ u ∈ (Select.scope e.table conditions).run b db ∧ e.Matches b db query context u := by
  rw [h.mem_run b db hb u, Entity.exists_joined_iff e hb hq]

/-- Every relationship of the entities whose rows are not made distinct leads to the row that is referred to. -/
theorem Entity.relations_of_not_distinct {e : Entity} (h : e.definition.distinct = false) :
    ∀ r ∈ e.relations, r.link.child ≠ r.target := by
  revert h
  cases e <;> decide

/-- No row is found twice: repeated rows are dropped, or each row has one combination because identifiers are unique. -/
theorem Select.Finds.nodup_run {found : Select} {query : List Char} {context : SearchContext}
    (h : found.Finds e conditions query context) {b : Backend} {db : Database}
    (hdb : e.definition.distinct = false → db.HasUniqueIds) : (found.run b db).Nodup := by
  cases hd : e.definition.distinct with
  | true => exact Select.nodup_run_of_distinct h.closed.limit (h.distinct.trans hd)
  | false =>
    refine Select.nodup_run_of_toOne h.closed (hdb hd) fun r hr => ?_
    rw [h.relations] at hr
    exact Relation.isToOne_of_parent (hdb hd) (Entity.relations_of_not_distinct hd r hr)

/-! ## Users -/

/-- **Users.** A search over all users returns exactly the users that match the query, each of them once. -/
theorem search_users_iff (h : service.Accepts around request .agencyUsers []) :
    ∃ found, (service.search around request).statement? = some found ∧
      ∀ (b : Backend) (db : Database), b.ReadsLiterally request.text → (found.run b db).Nodup ∧
        ∀ u, u ∈ found.run b db ↔
          u ∈ db.rows .user ∧ Entity.agencyUsers.Matches b db request.text (request.contextIn around) u := by
  obtain ⟨found, hfound, hfinds⟩ := Service.exists_found h
  refine ⟨found, hfound, fun b db hb => ⟨hfinds.nodup_run nofun, fun u => ?_⟩⟩
  have hall : (Select.scope Entity.agencyUsers.table []).run b db = db.rows .user := Select.run_all .user
  rw [hfinds.mem_run_iff h.reads.exists_ne_space hb, hall]

/-- The user is found by the card of the tenant that asks, although neither the account nor the person has the name. -/
theorem sample_user_found : Service.Accepts {} {} (Sample.request .agencyUsers []) .agencyUsers [] ∧
    ∃ found, (Service.search {} {} (Sample.request .agencyUsers [])).statement? = some found ∧
      (found.run .ascii Sample.database).Nodup ∧ Sample.user ∈ found.run .ascii Sample.database := by
  have haccepts : Service.Accepts {} {} (Sample.request .agencyUsers []) .agencyUsers [] := Sample.accepts _ nofun
  obtain ⟨found, hfound, hiff⟩ := search_users_iff haccepts
  obtain ⟨hnodup, hmem⟩ := hiff .ascii Sample.database (Sample.readsLiterally _ _)
  refine ⟨haccepts, found, hfound, hnodup, (hmem Sample.user).mpr ⟨by decide, ?_⟩⟩
  rw [Sample.text_request]
  exact Or.inr (Or.inr (Or.inr ⟨Sample.person, by decide, ⟨"p1", rfl, rfl⟩, Sample.card, by decide, ⟨"p1", rfl, rfl⟩,
    ⟨by decide, rfl⟩, Or.inl Sample.nameContains_card⟩))

/-! ## Listings -/

/-- **Listings.** A search over a scope of listings returns exactly the listings of the scope that match the query, each of them
once however many owners it has. -/
theorem search_listings_iff (h : service.Accepts around request .listings conditions) :
    ∃ found, (service.search around request).statement? = some found ∧
      ∀ (b : Backend) (db : Database), b.ReadsLiterally request.text → (found.run b db).Nodup ∧
        ∀ l, l ∈ found.run b db ↔ l ∈ (Select.scope .listing conditions).run b db ∧
          Entity.listings.Matches b db request.text (request.contextIn around) l := by
  obtain ⟨found, hfound, hfinds⟩ := Service.exists_found h
  exact ⟨found, hfound, fun b db hb =>
    ⟨hfinds.nodup_run nofun, fun l => hfinds.mem_run_iff h.reads.exists_ne_space hb⟩⟩

/-- The conditions that keep the listings of the tenant alpha. -/
def Sample.ofAlpha : List Clause := [.equals (.column "listing" "tenant_id") (.text "alpha")]

/-- The listing is found once by the names of its two owners, although it has no location. -/
theorem sample_listing_found : Service.Accepts {} {} (Sample.request .listings Sample.ofAlpha) .listings Sample.ofAlpha ∧
    ∃ found, (Service.search {} {} (Sample.request .listings Sample.ofAlpha)).statement? = some found ∧
      (found.run .ascii Sample.database).Nodup ∧ Sample.listing ∈ found.run .ascii Sample.database := by
  have haccepts : Service.Accepts {} {} (Sample.request .listings Sample.ofAlpha) .listings Sample.ofAlpha :=
    Sample.accepts _ (by decide)
  obtain ⟨found, hfound, hiff⟩ := search_listings_iff haccepts
  obtain ⟨hnodup, hmem⟩ := hiff .ascii Sample.database (Sample.readsLiterally _ _)
  refine ⟨haccepts, found, hfound, hnodup, (hmem Sample.listing).mpr ⟨by decide +kernel, ?_⟩⟩
  rw [Sample.text_request]
  exact Or.inr (Or.inl ⟨_, List.mem_cons_self, ⟨"l1", rfl, rfl⟩, Sample.card, by decide, ⟨"c1", rfl, rfl⟩,
    Sample.nameContains_card⟩)

/-! ## Entities whose joins lead to one row -/

/-- **Inquiries, owner links, categories and characteristics.** A search over a scope returns exactly the rows of the scope that
match the query, each of them once although repeated rows are not dropped. -/
theorem search_to_one_iff (he : e ≠ .listings ∧ e ≠ .agencyUsers) (h : service.Accepts around request e conditions) :
    ∃ found, (service.search around request).statement? = some found ∧ found.distinct = false ∧
      ∀ (b : Backend) (db : Database), b.ReadsLiterally request.text → db.HasUniqueIds → (found.run b db).Nodup ∧
        ∀ r, r ∈ found.run b db ↔ r ∈ (Select.scope e.table conditions).run b db ∧
          e.Matches b db request.text (request.contextIn around) r := by
  obtain ⟨found, hfound, hfinds⟩ := Service.exists_found h
  have hdistinct : e.definition.distinct = false := by
    obtain ⟨hl, hu⟩ := he
    cases e with
    | listings => exact absurd rfl hl
    | agencyUsers => exact absurd rfl hu
    | _ => rfl
  exact ⟨found, hfound, hfinds.distinct.trans hdistinct, fun b db hb hdb =>
    ⟨hfinds.nodup_run fun _ => hdb, fun r => hfinds.mem_run_iff h.reads.exists_ne_space hb⟩⟩

/-- The inquiry is found by the name of its contact, whose person is missing. -/
theorem sample_inquiry_found :
    (Entity.purchaseInquiries ≠ .listings ∧ Entity.purchaseInquiries ≠ .agencyUsers) ∧
    Service.Accepts {} {} (Sample.request .purchaseInquiries []) .purchaseInquiries [] ∧
    ∃ found, (Service.search {} {} (Sample.request .purchaseInquiries [])).statement? = some found ∧
      found.distinct = false ∧ (found.run .ascii Sample.database).Nodup ∧
      Sample.inquiry ∈ found.run .ascii Sample.database := by
  have haccepts : Service.Accepts {} {} (Sample.request .purchaseInquiries []) .purchaseInquiries [] :=
    Sample.accepts _ nofun
  have hother : Entity.purchaseInquiries ≠ .listings ∧ Entity.purchaseInquiries ≠ .agencyUsers := by decide
  obtain ⟨found, hfound, hdistinct, hiff⟩ := search_to_one_iff hother haccepts
  obtain ⟨hnodup, hmem⟩ := hiff .ascii Sample.database (Sample.readsLiterally _ _) Sample.hasUniqueIds
  refine ⟨hother, haccepts, found, hfound, hdistinct, hnodup, (hmem Sample.inquiry).mpr ⟨by decide +kernel, ?_⟩⟩
  rw [Sample.text_request]
  exact ⟨Sample.namesake, by decide, ⟨"c2", rfl, rfl⟩, Or.inl Sample.nameContains_namesake⟩

end EntitySearch
