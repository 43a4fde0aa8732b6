/-!
# Tables

The tables of the schema, each holding the rows of one kind of thing.
-/

namespace EntitySearch

/-- A table of the schema. -/
inductive Table where
  | listing
  | listingLocation
  | listingOwner
  | purchaseInquiry
  | category
  | characteristic
  | tenant
  | person
  | contact
  | user
  | userProfile
  deriving Repr, DecidableEq, Inhabited

namespace Table

/-- Every table. -/
def all : List Table :=
  [.listing, .listingLocation, .listingOwner, .purchaseInquiry, .category, .characteristic, .tenant, .person, .contact,
   .user, .userProfile]

/-- The name of a table in statements. -/
def name : Table → String
  | .listing => "listing"
  | .listingLocation => "listing_location"
  | .listingOwner => "listing_owner"
  | .purchaseInquiry => "purchase_inquiry"
  | .category => "category"
  | .characteristic => "characteristic"
  | .tenant => "tenant"
  | .person => "person"
  | .contact => "contact"
  | .user => "app_user"
  | .userProfile => "user_profile"

/-- The name of the thing a row of a table stands for. -/
def entityName : Table → String
  | .listing => "Listing"
  | .listingLocation => "ListingLocation"
  | .listingOwner => "ListingOwner"
  | .purchaseInquiry => "PurchaseInquiry"
  | .category => "Category"
  | .characteristic => "Characteristic"
  | .tenant => "Tenant"
  | .person => "Person"
  | .contact => "Contact"
  | .user => "User"
  | .userProfile => "UserProfile"

/-- The table of a name. -/
def ofName? (s : String) : Option Table := all.find? fun t => t.name == s

theorem mem_all (t : Table) : t ∈ all := by cases t <;> decide

theorem ofName?_name (t : Table) : ofName? t.name = some t := by cases t <;> decide

end Table

end EntitySearch
