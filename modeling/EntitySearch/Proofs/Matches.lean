import EntitySearch.Proofs.Scope
import EntitySearch.Proofs.Words

/-!
# What matches a query

When a row of an entity matches a query, said of the rows of the database that it refers to and that refer to it, without
statements, joins and conditions (`Entity.Matches`). The combinations of joined rows in which a property that the standard
definition tests holds are there exactly for the rows that match (`Entity.exists_joined_iff`): a row that is absent from a
combination has no text, and a line of nulls has nothing but spaces, so that neither contains a query.
-/

namespace EntitySearch

/-! ## Rows -/

namespace Row

/-- Whether a row holds in a column the identifier of another row. -/
def RefersTo (r : Row) (column : String) (target : Row) : Prop := ∃ id, r.get column = some id ∧ target.id = some id

/-- Whether a contact card is kept by the tenant that a search runs for. -/
def IsKeptFor (card : Row) (context : SearchContext) : Prop :=
  context.hasTenant = true ∧ card.get "tenant_id" = context.tenantId

end Row

/-- A link connects rows when the child refers to the parent. -/
theorem Link.connects_eq_true {l : Link} {child parent : Row} :
    l.connects child parent = true ↔ child.RefersTo l.column parent := by
  unfold Link.connects Row.RefersTo
  split
  · rename_i hcol hid
    rw [hcol, hid, beq_iff_eq]
    constructor
    · rintro rfl
      exact ⟨_, rfl, rfl⟩
    · rintro ⟨_, hc, hp⟩
      exact (Option.some.inj hc).trans (Option.some.inj hp).symm
  · rename_i h
    simp only [Bool.false_eq_true, false_iff]
    rintro ⟨id, hcol, hid⟩
    exact h id id hcol hid

namespace Backend

variable (b : Backend) (query : List Char)

/-- Whether a row has a full name that contains the query; parts that are null count as empty. -/
def NameContains (r : Row) : Prop := b.LineContains query nameColumns r.get

/-- Whether a row has an address that contains the query; parts that are null count as empty. -/
def AddressContains (r : Row) : Prop := b.LineContains query addressColumns r.get

/-- Whether a column of a row contains the query. -/
def ColumnContains (column : String) (r : Row) : Prop := b.Contains query (r.get column)

/-- Whether a person has a phone that contains the query in stored form. -/
def PhoneContains (r : Row) : Prop := b.ContainsPhone query (r.get "normalized_phone")

end Backend

/-! ## Matches -/

namespace Entity

/-- Whether a row of an entity matches a query in the context of a search. -/
def Matches (b : Backend) (db : Database) (query : List Char) (context : SearchContext) : Entity → Row → Prop
  | .listings, listing =>
    b.ColumnContains query "title" listing ∨
    (∃ owner ∈ db.rows .listingOwner, owner.RefersTo "listing_id" listing ∧
      ∃ contact ∈ db.rows .contact, owner.RefersTo "contact_id" contact ∧ b.NameContains query contact) ∨
    (∃ location ∈ db.rows .listingLocation, location.RefersTo "listing_id" listing ∧ b.AddressContains query location)
  | .agencyUsers, user =>
    b.ColumnContains query "email" user ∨
    (∃ person ∈ db.rows .person, user.RefersTo "person_id" person ∧ b.PhoneContains query person) ∨
    (∃ profile ∈ db.rows .userProfile, profile.RefersTo "user_id" user ∧ b.NameContains query profile) ∨
    (∃ person ∈ db.rows .person, user.RefersTo "person_id" person ∧
      ∃ card ∈ db.rows .contact, card.RefersTo "person_id" person ∧ card.IsKeptFor context ∧
        (b.NameContains query card ∨ b.ColumnContains query "email" card))
  | .purchaseInquiries, inquiry =>
    ∃ contact ∈ db.rows .contact, inquiry.RefersTo "contact_id" contact ∧
      (b.NameContains query contact ∨
        ∃ person ∈ db.rows .person, contact.RefersTo "person_id" person ∧ b.PhoneContains query person)
  | .listingOwners, owner =>
    ∃ contact ∈ db.rows .contact, owner.RefersTo "contact_id" contact ∧
      (b.NameContains query contact ∨ b.ColumnContains query "email" contact ∨
        ∃ person ∈ db.rows .person, contact.RefersTo "person_id" person ∧ b.PhoneContains query person)
  | .categories, row | .characteristics, row => b.ColumnContains query "title" row ∨ b.ColumnContains query "id" row

end Entity

/-! ## Connected rows -/

namespace Select

variable {db : Database} {r : Relation} {s : Row} {p : Option Row → Prop}

/-- Along a relationship to a child, what holds of a paired row holds of a row that refers to the source. -/
theorem exists_child (h : r.link.child = r.target) (hnone : ¬p none) :
    (∃ o, Pairs db r (some s) o ∧ p o) ↔ ∃ row ∈ db.rows r.target, row.RefersTo r.link.column s ∧ p (some row) := by
  simp only [exists_pairs_some hnone, Relation.connects, if_pos h, Link.connects_eq_true]

/-- Along a relationship to a parent, what holds of a paired row holds of a row that the source refers to. -/
theorem exists_parent (h : r.link.child ≠ r.target) (hnone : ¬p none) :
    (∃ o, Pairs db r (some s) o ∧ p o) ↔ ∃ row ∈ db.rows r.target, s.RefersTo r.link.column row ∧ p (some row) := by
  simp only [exists_pairs_some hnone, Relation.connects, if_neg h, Link.connects_eq_true]

end Select

/-! ## Combinations -/

/-- Whether a line of columns of a row that may be absent contains the query. -/
def Backend.RowContains (b : Backend) (query : List Char) (columns : List String) (o : Option Row) : Prop :=
  b.LineContains query columns (Row.cellsOf o)

namespace Entity

open Select Property

variable {b : Backend} {db : Database} {query : List Char} {context : SearchContext} {bound : Binding} {u : Row}

/-- A missing row contains no query. -/
theorem not_rowContains_none (hb : b.ReadsLiterally query) (hq : ∃ c ∈ query, c ≠ ' ') (columns : List String) :
    ¬b.RowContains query columns none :=
  not_lineContains_none hb hq columns

/-- A missing row has no phone. -/
theorem not_phone_none : ¬b.ContainsPhone query (Row.cellsOf none "normalized_phone") := by
  rintro ⟨-, digits, -, h⟩
  exact Backend.not_contains_none h

/-- What a listing is searched by. -/
theorem properties_listings :
    (∃ P ∈ Entity.listings.propertiesIn query context, P b bound.contents) ↔
      b.Contains query (Row.cellsOf (bound.row? .listing) "title") ∨
      b.RowContains query nameColumns (bound.row? .contact) ∨
      b.RowContains query addressColumns (bound.row? .listingLocation) := by
  simp [propertiesIn, properties, tenantProperties, columnContains, nameContains, addressContains, Backend.RowContains,
    Binding.contents_name]

/-- A combination of a listing has one of the properties searched for exactly when the listing matches. -/
theorem exists_joined_listings (hb : b.ReadsLiterally query) (hq : ∃ c ∈ query, c ≠ ' ') :
    (∃ bound, Joined db Entity.listings.relations [(.listing, some u)] bound ∧
      ∃ P ∈ Entity.listings.propertiesIn query context, P b bound.contents) ↔
      Entity.listings.Matches b db query context u := by
  have hname := not_rowContains_none hb hq nameColumns
  have haddress := not_rowContains_none hb hq addressColumns
  have hjoined : (∃ bound, Joined db Entity.listings.relations [(.listing, some u)] bound ∧
      ∃ P ∈ Entity.listings.propertiesIn query context, P b bound.contents) ↔
      ∃ location, Pairs db .location (some u) location ∧ ∃ owner, Pairs db .owners (some u) owner ∧
        ∃ contact, Pairs db .ownerContact owner contact ∧
          (b.ColumnContains query "title" u ∨ b.RowContains query nameColumns contact ∨
            b.RowContains query addressColumns location) := by
    simp only [relations, exists_joined_cons, exists_joined_nil, properties_listings]
    exact Iff.rfl
  rw [hjoined]
  simp only [and_or_left, exists_or]
  refine or_congr ?_ (or_congr ?_ ?_)
  · simp only [exists_pairs_and]
  · rw [exists_pairs_and, exists_child (by decide) (not_exists_pairs_none hname)]
    simp only [exists_parent (r := .ownerContact) (by decide) hname]
    exact Iff.rfl
  · simp only [exists_pairs_and]
    exact exists_child (by decide) haddress

/-- Whether a card that may be absent is kept by the tenant of the search and has a name or an e-mail that contains the query. -/
def cardMatches (b : Backend) (query : List Char) (context : SearchContext) (o : Option Row) : Prop :=
  (context.hasTenant = true ∧ Row.cellsOf o "tenant_id" = context.tenantId) ∧
    (b.RowContains query nameColumns o ∨ b.Contains query (Row.cellsOf o "email"))

/-- A missing card matches nothing. -/
theorem not_cardMatches_none : ¬cardMatches b query context none := by
  rintro ⟨⟨ht, hnone⟩, -⟩
  rw [SearchContext.hasTenant, ← hnone] at ht
  nomatch ht

/-- What a user is searched by. -/
theorem properties_agencyUsers :
    (∃ P ∈ Entity.agencyUsers.propertiesIn query context, P b bound.contents) ↔
      b.Contains query (Row.cellsOf (bound.row? .user) "email") ∨
      b.ContainsPhone query (Row.cellsOf (bound.row? .person) "normalized_phone") ∨
      b.RowContains query nameColumns (bound.row? .userProfile) ∨
      cardMatches b query context (bound.row? .contact) := by
  cases ht : context.hasTenant <;>
    simp [propertiesIn, properties, tenantProperties, ofTenant, columnContains, phoneContains, nameContains, Backend.RowContains,
      cardMatches, Binding.contents_name, ht, and_or_left]

/-- A combination of a user has one of the properties searched for exactly when the user matches. -/
theorem exists_joined_agencyUsers (hb : b.ReadsLiterally query) (hq : ∃ c ∈ query, c ≠ ' ') :
    (∃ bound, Joined db Entity.agencyUsers.relations [(.user, some u)] bound ∧
      ∃ P ∈ Entity.agencyUsers.propertiesIn query context, P b bound.contents) ↔
      Entity.agencyUsers.Matches b db query context u := by
  have hname := not_rowContains_none hb hq nameColumns
  have hcard : ¬cardMatches b query context none := not_cardMatches_none
  have hjoined : (∃ bound, Joined db Entity.agencyUsers.relations [(.user, some u)] bound ∧
      ∃ P ∈ Entity.agencyUsers.propertiesIn query context, P b bound.contents) ↔
      ∃ profile, Pairs db .profile (some u) profile ∧ ∃ person, Pairs db .userPerson (some u) person ∧
        ∃ card, Pairs db .contacts person card ∧
          (b.ColumnContains query "email" u ∨ b.ContainsPhone query (Row.cellsOf person "normalized_phone") ∨
            b.RowContains query nameColumns profile ∨ cardMatches b query context card) := by
    simp only [relations, exists_joined_cons, exists_joined_nil, properties_agencyUsers]
    exact Iff.rfl
  rw [hjoined]
  simp only [and_or_left, exists_or]
  refine or_congr ?_ (or_congr ?_ (or_congr ?_ ?_))
  · simp only [exists_pairs_and]
  · simp only [exists_pairs_and]
    exact exists_parent (by decide) not_phone_none
  · simp only [exists_pairs_and]
    exact exists_child (by decide) hname
  · rw [exists_pairs_and, exists_parent (by decide) (not_exists_pairs_none hcard)]
    simp only [exists_child (r := .contacts) (by decide) hcard]
    exact Iff.rfl

/-- Behind a contact that a row refers to, a property of the contact or the phone of its person is found exactly when the row
refers to a contact with the property, or to one whose person has such a phone. -/
theorem exists_contact {r : Relation} (hr : r.link.child ≠ r.target) {p : Option Row → Prop} (hnone : ¬p none) :
    (∃ contact, Pairs db r (some u) contact ∧ ∃ person, Pairs db .contactPerson contact person ∧
      (p contact ∨ b.ContainsPhone query (Row.cellsOf person "normalized_phone"))) ↔
      ∃ contact ∈ db.rows r.target, u.RefersTo r.link.column contact ∧
        (p (some contact) ∨ ∃ person ∈ db.rows .person, contact.RefersTo "person_id" person ∧ b.PhoneContains query person) := by
  have hnothing : ¬∃ person, Pairs db .contactPerson none person ∧
      (p none ∨ b.ContainsPhone query (Row.cellsOf person "normalized_phone")) :=
    not_exists_pairs_none (not_or.mpr ⟨hnone, not_phone_none⟩)
  rw [exists_parent hr hnothing]
  refine exists_congr fun contact => and_congr_right fun _ => and_congr_right fun _ => ?_
  simp only [and_or_left, exists_or, exists_pairs_and]
  exact or_congr_right (exists_parent (by decide) not_phone_none)

/-- What an inquiry is searched by. -/
theorem properties_purchaseInquiries :
    (∃ P ∈ Entity.purchaseInquiries.propertiesIn query context, P b bound.contents) ↔
      b.RowContains query nameColumns (bound.row? .contact) ∨
      b.ContainsPhone query (Row.cellsOf (bound.row? .person) "normalized_phone") := by
  simp [propertiesIn, properties, tenantProperties, phoneContains, nameContains, Backend.RowContains, Binding.contents_name]

/-- What an owner link is searched by. -/
theorem properties_listingOwners :
    (∃ P ∈ Entity.listingOwners.propertiesIn query context, P b bound.contents) ↔
      (b.RowContains query nameColumns (bound.row? .contact) ∨
        b.Contains query (Row.cellsOf (bound.row? .contact) "email")) ∨
      b.ContainsPhone query (Row.cellsOf (bound.row? .person) "normalized_phone") := by
  simp [propertiesIn, properties, tenantProperties, columnContains, phoneContains, nameContains, Backend.RowContains,
    Binding.contents_name, or_assoc]

/-- What a category is searched by. -/
theorem properties_categories :
    (∃ P ∈ Entity.categories.propertiesIn query context, P b bound.contents) ↔
      b.Contains query (Row.cellsOf (bound.row? .category) "title") ∨
      b.Contains query (Row.cellsOf (bound.row? .category) "id") := by
  simp [propertiesIn, properties, tenantProperties, columnContains, Binding.contents_name]

/-- What a characteristic is searched by. -/
theorem properties_characteristics :
    (∃ P ∈ Entity.characteristics.propertiesIn query context, P b bound.contents) ↔
      b.Contains query (Row.cellsOf (bound.row? .characteristic) "title") ∨
      b.Contains query (Row.cellsOf (bound.row? .characteristic) "id") := by
  simp [propertiesIn, properties, tenantProperties, columnContains, Binding.contents_name]

/-- A combination of a row has one of the properties searched for exactly when the row matches. -/
theorem exists_joined_iff (e : Entity) (hb : b.ReadsLiterally query) (hq : ∃ c ∈ query, c ≠ ' ') :
    (∃ bound, Joined db e.relations [(e.table, some u)] bound ∧ ∃ P ∈ e.propertiesIn query context, P b bound.contents) ↔
      e.Matches b db query context u := by
  have hname := not_rowContains_none hb hq nameColumns
  cases e with
  | listings => exact exists_joined_listings hb hq
  | agencyUsers => exact exists_joined_agencyUsers hb hq
  | purchaseInquiries =>
    simp only [relations, exists_joined_cons, exists_joined_nil, properties_purchaseInquiries]
    exact exists_contact (r := .inquiryContact) (by decide) hname
  | listingOwners =>
    have hcontact : ¬(b.RowContains query nameColumns none ∨ b.Contains query (Row.cellsOf none "email")) :=
      not_or.mpr ⟨hname, Backend.not_contains_none⟩
    simp only [relations, exists_joined_cons, exists_joined_nil, properties_listingOwners, Matches, ← or_assoc]
    exact exists_contact (r := .ownerContact) (p := fun o => b.RowContains query nameColumns o ∨
      b.Contains query (Row.cellsOf o "email")) (by decide) hcontact
  | categories =>
    rw [relations, exists_joined_nil, properties_categories]
    exact Iff.rfl
  | characteristics =>
    rw [relations, exists_joined_nil, properties_characteristics]
    exact Iff.rfl

end Entity

end EntitySearch
