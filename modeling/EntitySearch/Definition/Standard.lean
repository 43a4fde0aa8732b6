import EntitySearch.Definition

/-!
# The standard definitions

One definition for each searchable entity.
-/

namespace EntitySearch.Definition

/-- A rule on the text of a column. -/
def columnText (table name : String) : Rule := ⟨.text (.column table name), []⟩

/-- A rule on a full name. -/
def fullNameText (table : String) : Rule := ⟨.text (.fullName table), []⟩

/-- The rule on the stored phone of a person. -/
def personPhone : Rule := ⟨.phone (.column "person" "normalized_phone"), []⟩

/-- The guard that lets through the contact cards of the tenant of the search. -/
def ownCards : Guard := ⟨.column "contact" "tenant_id", .ofSearch⟩

/-- The address of a listing in one line. -/
def address : Expr :=
  .join " " (["country", "region", "city", "street", "house_number"].map (Expr.column "listing_location"))

/-- Listings by title, by the name of any owner's contact, or by address. A listing with several owners joins to several
rows, hence repeated rows are dropped. -/
def listings : Definition where
  name := "ListingsDefinition"
  entity := .listings
  distinct := true
  joins := ["location", "owners.contact"]
  rules := [columnText "listing" "title", fullNameText "contact", ⟨.text address, []⟩]

/-- Users by e-mail, phone or profile name, and by the contact card that the tenant of the search keeps for them. A person
has a card for each tenant; the cards of other tenants are never searched. -/
def agencyUsers : Definition where
  name := "AgencyUsersDefinition"
  entity := .agencyUsers
  distinct := true
  joins := ["profile", "person.contacts"]
  rules := [columnText "app_user" "email", personPhone, fullNameText "user_profile"]
  tenantRules :=
    [⟨.text (.fullName "contact"), [ownCards]⟩, ⟨.text (.column "contact" "email"), [ownCards]⟩]

/-- Inquiries by the name or the phone of the contact behind them. -/
def purchaseInquiries : Definition where
  name := "PurchaseInquiriesDefinition"
  entity := .purchaseInquiries
  joins := ["contact.person"]
  rules := [fullNameText "contact", personPhone]

/-- The rules of a catalog table: by title, or by the identifier as text. -/
def titleOrId (table : String) : List Rule := [columnText table "title", ⟨.text (.asText (.column table "id")), []⟩]

/-- Categories by title or identifier. -/
def categories : Definition where
  name := "CategoriesDefinition"
  entity := .categories
  rules := titleOrId "category"

/-- Characteristics by title or identifier. -/
def characteristics : Definition where
  name := "CharacteristicsDefinition"
  entity := .characteristics
  rules := titleOrId "characteristic"

/-- Owner links by the name or the e-mail of their contact, or by its person's phone. -/
def listingOwners : Definition where
  name := "ListingOwnersDefinition"
  entity := .listingOwners
  joins := ["contact.person"]
  rules := [fullNameText "contact", columnText "contact" "email", personPhone]

/-- The standard definitions, in order. -/
def standard : List Definition :=
  [listings, agencyUsers, purchaseInquiries, categories, characteristics, listingOwners]

end EntitySearch.Definition
