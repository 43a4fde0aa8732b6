import EntitySearch.Schema.Column

/-!
# Relationships

The relationships between entities that join paths are made of. Each follows a column of one of the two tables that holds
the identifier of a row of the other, in one direction or the other.
-/

namespace EntitySearch

/-- A column that holds the identifier of a row of another table. -/
structure Link where
  /-- The table the column belongs to. -/
  child : Table
  column : String
  /-- The table whose rows are referred to. -/
  parent : Table
  deriving Repr, DecidableEq

/-- A relationship of an entity. -/
structure Relation where
  name : String
  target : Table
  link : Link
  /-- Whether a row can have several related rows. -/
  many : Bool := false
  /-- The relationship of the target that leads back. -/
  back : Option String := none
  deriving Repr, DecidableEq

namespace Link

/-- The location of a listing. -/
def location : Link := ⟨.listingLocation, "listing_id", .listing⟩

/-- The listing an owner link belongs to. -/
def owner : Link := ⟨.listingOwner, "listing_id", .listing⟩

/-- The contact an owner link points to. -/
def ownerContact : Link := ⟨.listingOwner, "contact_id", .contact⟩

/-- The contact behind an inquiry. -/
def inquiryContact : Link := ⟨.purchaseInquiry, "contact_id", .contact⟩

/-- The person behind a contact card. -/
def contactPerson : Link := ⟨.contact, "person_id", .person⟩

/-- The person behind an account. -/
def userPerson : Link := ⟨.user, "person_id", .person⟩

/-- The account a profile belongs to. -/
def profileUser : Link := ⟨.userProfile, "user_id", .user⟩

end Link

namespace Relation

/-- From a listing to its location. -/
def location : Relation := { name := "location", target := .listingLocation, link := .location, back := some "listing" }

/-- From a listing to its owner links. -/
def owners : Relation :=
  { name := "owners", target := .listingOwner, link := .owner, many := true, back := some "listing" }

/-- From a location to its listing. -/
def locationListing : Relation := { name := "listing", target := .listing, link := .location, back := some "location" }

/-- From an owner link to its listing. -/
def ownerListing : Relation := { name := "listing", target := .listing, link := .owner, back := some "owners" }

/-- From an owner link to its contact. -/
def ownerContact : Relation := { name := "contact", target := .contact, link := .ownerContact }

/-- From an inquiry to its contact. -/
def inquiryContact : Relation := { name := "contact", target := .contact, link := .inquiryContact }

/-- From a person to the contact cards kept for it. -/
def contacts : Relation :=
  { name := "contacts", target := .contact, link := .contactPerson, many := true, back := some "person" }

/-- From a contact card to its person. -/
def contactPerson : Relation := { name := "person", target := .person, link := .contactPerson, back := some "contacts" }

/-- From an account to its person. -/
def userPerson : Relation := { name := "person", target := .person, link := .userPerson }

/-- From an account to its profile. -/
def profile : Relation := { name := "profile", target := .userProfile, link := .profileUser, back := some "user" }

/-- From a profile to its account. -/
def profileUser : Relation := { name := "user", target := .user, link := .profileUser, back := some "profile" }

end Relation

namespace Table

/-- The relationships of an entity. -/
def relations : Table → List Relation
  | .listing => [.location, .owners]
  | .listingLocation => [.locationListing]
  | .listingOwner => [.ownerListing, .ownerContact]
  | .purchaseInquiry => [.inquiryContact]
  | .person => [.contacts]
  | .contact => [.contactPerson]
  | .user => [.userPerson, .profile]
  | .userProfile => [.profileUser]
  | .category | .characteristic | .tenant => []

/-- The relationship of a name. -/
def relation? (t : Table) (name : String) : Option Relation := t.relations.find? fun r => r.name == name

/-- A relationship leads from its entity to its target along its link, in one direction or the other. -/
theorem relations_linked (t : Table) : ∀ r ∈ t.relations,
    (r.link.child = t ∧ r.link.parent = r.target) ∨ (r.link.parent = t ∧ r.link.child = r.target) := by
  cases t <;> decide

end Table

end EntitySearch
