import EntitySearch.Schema.Table

/-!
# Columns

The columns of each table with their types and constraints. Every table has an identifier, which is its primary key, and two
time stamps; most rows belong to a tenant.
-/

namespace EntitySearch

/-- The type of a column. -/
inductive ColumnType where
  /-- Text, with a greatest length if one is given. -/
  | text (maxLength : Option Nat)
  /-- A point in time with its time zone. -/
  | timestamp
  deriving Repr, DecidableEq

/-- The name of a type in statements. -/
def ColumnType.name : ColumnType → String
  | .text none => "VARCHAR"
  | .text (some n) => "VARCHAR(" ++ toString n ++ ")"
  | .timestamp => "TIMESTAMP WITH TIME ZONE"

/-- What becomes of a row when the row it refers to is deleted. -/
inductive OnDelete where
  | cascade
  | restrict
  | setNull
  deriving Repr, DecidableEq

/-- The name of a deletion rule in statements. -/
def OnDelete.name : OnDelete → String
  | .cascade => "CASCADE"
  | .restrict => "RESTRICT"
  | .setNull => "SET NULL"

/-- What a column holds when an inserted row does not say. -/
inductive ColumnDefault where
  | none
  /-- A fresh identifier. -/
  | freshId
  | constant (text : String)
  deriving Repr, DecidableEq

/-- A column of a table. -/
structure Column where
  name : String
  type : ColumnType := .text none
  nullable : Bool := false
  primaryKey : Bool := false
  indexed : Bool := false
  unique : Bool := false
  /-- The table whose identifier the column refers to. -/
  refersTo : Option (Table × OnDelete) := none
  default : ColumnDefault := .none
  /-- Set to the present time by the database when a row is inserted. -/
  stampedOnInsert : Bool := false
  /-- Set to the present time by the database when a row is changed. -/
  stampedOnUpdate : Bool := false
  deriving Repr, DecidableEq

namespace Column

/-- The identifier of a row. -/
def id : Column := { name := "id", primaryKey := true, default := .freshId }

/-- The tenant a row belongs to. -/
def tenantId : Column := { name := "tenant_id", indexed := true, refersTo := some (.tenant, .cascade) }

/-- The time stamps of a row. -/
def stamps : List Column :=
  [{ name := "created_at", type := .timestamp, stampedOnInsert := true },
   { name := "updated_at", type := .timestamp, stampedOnInsert := true, stampedOnUpdate := true }]

/-- A text column that must have a value. -/
def required (name : String) (maxLength : Option Nat) : Column := { name, type := .text maxLength }

/-- A text column that may be null. -/
def optional (name : String) (maxLength : Nat) : Column := { name, type := .text (some maxLength), nullable := true }

end Column

namespace Table

/-- The columns of a table, in order. -/
def columns : Table → List Column
  | .listing => [.required "title" (some 500), .id, .tenantId] ++ Column.stamps
  | .listingLocation =>
    [{ name := "listing_id", unique := true, refersTo := some (.listing, .cascade) }, .optional "country" 100,
     .optional "region" 255, .optional "city" 255, .optional "street" 255, .optional "house_number" 50, .id] ++
      Column.stamps
  | .listingOwner =>
    [{ name := "listing_id", indexed := true, refersTo := some (.listing, .cascade) },
     { name := "contact_id", indexed := true, refersTo := some (.contact, .restrict) },
     { name := "role", type := .text (some 50), default := .constant "primary" }, .id] ++ Column.stamps
  | .purchaseInquiry =>
    [{ name := "listing_id", nullable := true, indexed := true, refersTo := some (.listing, .setNull) },
     { name := "contact_id", indexed := true, refersTo := some (.contact, .restrict) },
     { name := "status", type := .text (some 50), default := .constant "pending" }, .id, .tenantId] ++ Column.stamps
  | .category => [.required "title" (some 255), .id, .tenantId] ++ Column.stamps
  | .characteristic => [.required "title" (some 255), .id, .tenantId] ++ Column.stamps
  | .tenant =>
    [{ name := "code", indexed := true, unique := true }, .required "name" none, .id] ++ Column.stamps
  | .person =>
    [{ name := "normalized_phone", type := .text (some 32), nullable := true, unique := true }, .id] ++ Column.stamps
  | .contact =>
    [{ name := "person_id", indexed := true, refersTo := some (.person, .restrict) }, .required "first_name" (some 255),
     .optional "last_name" 255, .optional "middle_name" 255, .optional "email" 255, .id, .tenantId] ++ Column.stamps
  | .user =>
    [{ name := "person_id", indexed := true, refersTo := some (.person, .restrict) },
     { name := "email", type := .text (some 255), nullable := true, unique := true }, .id] ++ Column.stamps
  | .userProfile =>
    [{ name := "user_id", unique := true, refersTo := some (.user, .cascade) }, .optional "first_name" 255,
     .optional "last_name" 255, .optional "middle_name" 255, .id] ++ Column.stamps

/-- The names of the columns of a table, in order. -/
def columnNames (t : Table) : List String := t.columns.map (·.name)

/-- The named constraints that keep several columns unique together. -/
def namedUniques : Table → List (String × List String)
  | .listingOwner => [("uq_listing_owner_contact", ["listing_id", "contact_id"])]
  | .contact => [("uq_contact_tenant_person", ["tenant_id", "person_id"])]
  | _ => []

/-- The sets of columns that are unique together, in the order in which they are checked: the primary key comes last. -/
def uniqueSets (t : Table) : List (List String) :=
  t.namedUniques.map (·.2) ++ (t.columns.filter (·.unique)).map (fun c => [c.name]) ++
    (t.columns.filter (·.primaryKey)).map (fun c => [c.name])

end Table

end EntitySearch
