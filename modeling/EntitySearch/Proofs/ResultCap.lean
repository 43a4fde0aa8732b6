import EntitySearch.Proofs.Answers

/-!
# Capped searches

A limit bounds rows and not the combinations of joined rows behind them: a statement with a limit selects so many rows from the
front of what it selects without one (`Select.run_withLimit`), and a search selects no row twice. A search with a positive limit
therefore returns as many of the rows that it returns without one as the limit, and a positive cap of the service, let through
(`search_is_capped`).
-/

namespace EntitySearch

/-! ## Limits -/

namespace Select

/-- The statement with a greatest number of rows, if one is given. -/
def cappedAt (s : Select) : Option Int → Select
  | some n => s.withLimit n
  | none => s

/-- A limit that is not negative keeps rows from the front of what the statement selects without one. -/
theorem run_withLimit {s : Select} (h : s.limit = none) {n : Int} (hn : 0 ≤ n) (b : Backend) (db : Database) :
    (s.withLimit n).run b db = (s.run b db).take n.toNat := by
  have hbindings : (s.withLimit n).bindings db = s.bindings db := rfl
  have hadmits : (s.withLimit n).admits b = s.admits b := rfl
  simp only [run, hbindings, hadmits, h]
  simp only [withLimit, if_neg (Int.not_lt.mpr hn)]
  rfl

/-- A statement with a limit selects as many rows as the limit lets through. -/
theorem length_run_withLimit {s : Select} (h : s.limit = none) {n : Int} (hn : 0 ≤ n) (b : Backend) (db : Database) :
    (((s.withLimit n).run b db).length : Int) = min ((s.run b db).length : Int) n := by
  rw [run_withLimit h hn, List.length_take]
  omega

end Select

/-! ## Searches with a limit -/

/-- The request with another limit. -/
def SearchRequest.withLimit (r : SearchRequest) (limit : Option Int) : SearchRequest := { r with limit := limit }

variable {service : Service} {around : Surroundings} {request : SearchRequest} {e : Entity} {conditions : List Clause}

/-- A search with a limit ends in the statement of the search without one, capped. -/
theorem Service.Accepts.statement?_search_withLimit (h : service.Accepts around request e conditions) {found : Select}
    (hfound : (service.search around request).statement? = some found) (limit : Option Int) :
    (service.search around (request.withLimit limit)).statement? =
      some (found.cappedAt (effectiveLimit service.config.maxResults limit)) := by
  have hreads : service.Reads (request.withLimit limit) := ⟨h.reads.given, h.reads.nonempty, h.reads.within⟩
  have hdefinition : service.registry.definitionFor (request.withLimit limit).entity = .ok e.definition := h.takes.definition
  have hcapped : (service.search around (request.withLimit limit)).result =
      (service.search around request).result >>= cap (effectiveLimit service.config.maxResults limit) := by
    rw [result_search h.takes h.reads, search_of_reads hreads, finish, narrow_of_found hdefinition h.takes.provider]
    rfl
  rw [SearchOutcome.statement?, hcapped]
  rw [SearchOutcome.statement?] at hfound
  split at hfound
  · rename_i ops s hresult
    rw [hresult, ← Option.some.inj hfound]
    cases effectiveLimit service.config.maxResults limit <;> rfl
  · cases hfound

/-- **The cap counts rows.** Take a search without a limit over a scope of an entity. The same search with a limit that is not
positive returns the same rows. With a positive limit it returns rows of the first one, all different, and as many of them as the
limit, and a positive cap of the service, let through, however many combinations of joined rows lie behind each. -/
theorem search_is_capped (h : service.Accepts around request e conditions) (limit : Option Int) :
    ∃ found capped, (service.search around request).statement? = some found ∧
      (service.search around (request.withLimit limit)).statement? = some capped ∧
      ∀ (b : Backend) (db : Database), db.HasUniqueIds →
        ((∀ k, limit = some k → k ≤ 0) → capped.run b db = found.run b db) ∧
        ∀ k, limit = some k → 0 < k →
          (capped.run b db).Nodup ∧ (∀ r ∈ capped.run b db, r ∈ found.run b db) ∧
          (∀ m, service.config.maxResults = some m → 0 < m →
            ((capped.run b db).length : Int) = min ((found.run b db).length : Int) (min k m)) ∧
          ((∀ m, service.config.maxResults = some m → m ≤ 0) →
            ((capped.run b db).length : Int) = min ((found.run b db).length : Int) k) := by
  obtain ⟨found, hfound, hfinds⟩ := Service.exists_found h
  refine ⟨found, _, hfound, h.statement?_search_withLimit hfound limit, fun b db hdb => ⟨fun hk => ?_, ?_⟩⟩
  · rw [Service.effectiveLimit_eq_none hk, Select.cappedAt]
  · rintro k rfl hk
    obtain ⟨n, hn, hpos, -⟩ := Service.exists_effectiveLimit service.config.maxResults hk
    have hnodup : (found.run b db).Nodup := hfinds.nodup_run fun _ => hdb
    have hrun := Select.run_withLimit hfinds.closed.limit (Int.le_of_lt hpos) b db
    have hlength := Select.length_run_withLimit hfinds.closed.limit (Int.le_of_lt hpos) b db
    rw [hn, Select.cappedAt]
    refine ⟨?_, fun r hr => ?_, fun m hm hmpos => ?_, fun hm => ?_⟩
    · rw [hrun]
      exact hnodup.sublist (List.take_sublist _ _)
    · rw [hrun] at hr
      exact List.mem_of_mem_take hr
    · rw [hm, Service.effectiveLimit_of_cap hk hmpos, Option.some.injEq] at hn
      rw [hlength, hn]
    · rw [Service.effectiveLimit_of_no_cap hk hm, Option.some.injEq] at hn
      rw [hlength, hn]

namespace Sample

/-- Another listing of the tenant alpha. -/
def secondListing : Row := ⟨[("title", some "House"), ("id", some "l2"), ("tenant_id", some "alpha")]⟩

/-- One of the people of the name owns the other listing as well. -/
def ownerOfSecond : Row := ⟨[("listing_id", some "l2"), ("contact_id", some "c2"), ("id", some "o3")]⟩

/-- The small database with another listing. -/
def twoListings : Database := ⟨fun t => match t with
  | .listing => [listing, secondListing]
  | .listingOwner => owners ++ [ownerOfSecond]
  | t => database.rows t⟩

theorem twoListings_hasUniqueIds : twoListings.HasUniqueIds := by
  intro t
  cases t <;> decide

end Sample

/-- Three combinations of owners match, but the limit of two leaves room for both listings. -/
theorem two_owners_count_once : Service.Accepts {} {} (Sample.request .listings []) .listings [] ∧
    Sample.twoListings.HasUniqueIds ∧ ∃ found capped,
      (Service.search {} {} (Sample.request .listings [])).statement? = some found ∧
      (Service.search {} {} ((Sample.request .listings []).withLimit (some 2))).statement? = some capped ∧
      (found.run .ascii Sample.twoListings).length = 2 ∧ (capped.run .ascii Sample.twoListings).Nodup ∧
      (capped.run .ascii Sample.twoListings).length = 2 := by
  have haccepts : Service.Accepts {} {} (Sample.request .listings []) .listings [] := Sample.accepts _ nofun
  obtain ⟨found, capped, hfound, hcapped, hruns⟩ := search_is_capped haccepts (some 2)
  obtain ⟨-, hpositive⟩ := hruns .ascii Sample.twoListings Sample.twoListings_hasUniqueIds
  obtain ⟨hnodup, -, hlength, -⟩ := hpositive 2 rfl (by decide)
  have hall : ((Service.search {} {} (Sample.request .listings [])).statement?.map fun s =>
      (s.run .ascii Sample.twoListings).length) = some 2 := by decide +kernel
  rw [hfound, Option.map_some, Option.some.injEq] at hall
  have htwo : ((capped.run .ascii Sample.twoListings).length : Int) = 2 := by
    rw [hlength 500 rfl (by decide), hall]
    rfl
  exact ⟨haccepts, Sample.twoListings_hasUniqueIds, found, capped, hfound, hcapped, hall, hnodup, by omega⟩

end EntitySearch
