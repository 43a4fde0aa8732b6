import EntitySearch.Failure

/-!
# Searchable entities

The kinds of things that can be searched for. A caller names one by the entity itself or by a value; only the exact key of
an entity stands for it.
-/

namespace EntitySearch

/-- A kind of thing that can be searched for. -/
inductive Entity where
  | listings
  | agencyUsers
  | purchaseInquiries
  | categories
  | characteristics
  | listingOwners
  deriving Repr, DecidableEq, Inhabited

namespace Entity

/-- Every entity. -/
def all : List Entity :=
  [.listings, .agencyUsers, .purchaseInquiries, .categories, .characteristics, .listingOwners]

/-- The key of an entity. -/
def key : Entity → String
  | .listings => "listings"
  | .agencyUsers => "agency_users"
  | .purchaseInquiries => "purchase_inquiries"
  | .categories => "categories"
  | .characteristics => "characteristics"
  | .listingOwners => "listing_owners"

/-- The entity of a key. -/
def ofKey? (s : String) : Option Entity := all.find? fun e => e.key == s

/-- The entity of a key given as a value. -/
def ofValue (v : Value) : Except Failure Entity :=
  match v with
  | .text s =>
    match ofKey? s with
    | some e => .ok e
    | none => .error (.notAnEntity v)
  | _ => .error (.notAnEntity v)

theorem mem_all (e : Entity) : e ∈ all := by cases e <;> decide

theorem ofKey?_key (e : Entity) : ofKey? e.key = some e := by cases e <;> decide

end Entity

/-- How a caller names an entity. -/
inductive EntityKey where
  | entity (e : Entity)
  | value (v : Value)
  deriving Repr, Inhabited

namespace EntityKey

/-- The value that stands for the key in messages. -/
def toValue : EntityKey → Value
  | .entity e => .text e.key
  | .value v => v

/-- The entity a key stands for. -/
def resolve? : EntityKey → Option Entity
  | .entity e => some e
  | .value (.text s) => Entity.ofKey? s
  | .value _ => none

end EntityKey

end EntitySearch
