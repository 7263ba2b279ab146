import Tenantory.ApplicationState

/-! INSERT and UPDATE statements on the tables of the database. A statement fails
with the error of the first check that a row does not pass, in the order of the
server: column types, unique constraints, foreign keys. -/

namespace Tenantory

/-- A table of the database and the checks on its rows. -/
class Stored (ρ : Type) extends Entity ρ where
  table : Database → Table ρ
  put : Table ρ → Database → Database
  /-- the error for a value that its column cannot hold -/
  misfit : ρ → Option Err
  /-- a foreign key of the row names no stored row -/
  dangling : Database → ρ → Bool

namespace Stored

/-- The first failing check of a list. -/
def firstError (checks : List (Bool × Err)) : Option Err :=
  (checks.find? fun check => !check.1).map Prod.snd

def fits (limit : ℕ) (text : String) : Bool := text.length ≤ limit

def fitsOptional (limit : ℕ) (text : Option String) : Bool := text.all (fits limit)

end Stored

/-- The values of a PostgreSQL `int` column. -/
def inIntRange (q : ℤ) : Bool := -2147483648 ≤ q && q ≤ 2147483647

open Stored

def hasTenant (db : Database) (id : Uuid) : Bool := db.tenants.rows.any (·.id == id)

instance : Stored Tenant where
  table := Database.tenants
  put t db := { db with tenants := t }
  misfit r := firstError [(fits 255 r.domainName, .tooLong), (fits 255 r.businessName, .tooLong)]
  dangling _ _ := false

instance : Stored User where
  table := Database.users
  put t db := { db with users := t }
  misfit r := firstError [(fits 255 r.email, .tooLong), (fits 255 r.firstName, .tooLong),
    (fits 255 r.lastName, .tooLong), (fits 255 r.passwordHash, .tooLong)]
  dangling db r := !hasTenant db r.tenantId

instance : Stored TenantSetting where
  table := Database.tenantSettings
  put t db := { db with tenantSettings := t }
  misfit _ := none
  dangling db r := !hasTenant db r.tenantId

instance : Stored Category where
  table := Database.categories
  put t db := { db with categories := t }
  misfit r := firstError [(fits 120 r.name, .tooLong), (fits 150 r.slug, .tooLong)]
  dangling db r := !hasTenant db r.tenantId ||
    r.parentId.any fun parent => !db.categories.rows.any (·.id == parent)

instance : Stored Product where
  table := Database.products
  put t db := { db with products := t }
  misfit r := firstError [(fits 255 r.name, .tooLong), (fits 10 r.skuPrefix, .tooLong)]
  dangling db r := !hasTenant db r.tenantId || !db.categories.rows.any (·.id == r.categoryId)

instance : Stored ProductVariant where
  table := Database.variants
  put t db := { db with variants := t }
  -- decimal(12,2)
  misfit r := firstError [(fits 100 r.sku, .tooLong),
    (decide (-10000000000 < r.price ∧ r.price < 10000000000), .outOfRange)]
  dangling db r := !hasTenant db r.tenantId || !db.products.rows.any (·.id == r.productId)

instance : Stored Warehouse where
  table := Database.warehouses
  put t db := { db with warehouses := t }
  misfit r := firstError [(fits 255 r.name, .tooLong), (fitsOptional 500 r.location, .tooLong)]
  dangling db r := !hasTenant db r.tenantId

instance : Stored Supplier where
  table := Database.suppliers
  put t db := { db with suppliers := t }
  misfit r := firstError [(fits 255 r.companyName, .tooLong),
    (fitsOptional 255 r.contactEmail, .tooLong), (fitsOptional 50 r.contactPhone, .tooLong),
    (fitsOptional 500 r.address, .tooLong), (r.leadTimeDays.all inIntRange, .outOfRange)]
  dangling db r := !hasTenant db r.tenantId

instance : Stored MediaAsset where
  table := Database.mediaAssets
  put t db := { db with mediaAssets := t }
  misfit r := firstError [(fits 255 r.fileName, .tooLong), (fits 255 r.originalFileName, .tooLong),
    (fits 100 r.mimeType, .tooLong), (decide (r.sizeBytes < 2 ^ 63), .outOfRange),
    (fits 2048 r.url, .tooLong)]
  dangling db r := !hasTenant db r.tenantId

instance : Stored Notification where
  table := Database.notifications
  put t db := { db with notifications := t }
  misfit r := firstError [(fits 200 r.title, .tooLong), (fitsOptional 1000 r.body, .tooLong),
    (fitsOptional 200 r.dedupKey, .tooLong)]
  dangling db r := !hasTenant db r.tenantId || !db.users.rows.any (·.id == r.recipientId)

namespace Database

variable {ρ : Type} [Stored ρ]

def insertRow (row : ρ) (db : Database) : Except Err Database :=
  match misfit row with
  | some err => .error err
  | none =>
      match (table db).insert? row with
      | none => .error .uniqueViolation
      | some t => if dangling db row then .error .foreignKeyViolation else .ok (put t db)

/-- UPDATE of the row under `id`; no row under it is no error. -/
def updateRow (id : Uuid) (f : ρ → ρ) (db : Database) : Except Err Database :=
  match (table db).find? fun r => Entity.id r == id with
  | none => .ok db
  | some row =>
      match misfit (f row) with
      | some err => .error err
      | none =>
          match (table db).update? (fun r => Entity.id r == id) f with
          | none => .error .uniqueViolation
          | some t => if dangling db (f row) then .error .foreignKeyViolation else .ok (put t db)

def rowById (ρ : Type) [Stored ρ] (db : Database) (id : Uuid) : Option ρ :=
  (table db).find? fun r => Entity.id r == id

end Database

/-- A column after an UPDATE that sets it when the value differs from the loaded one. -/
def column {α : Type} [DecidableEq α] (value loaded stored : α) : α :=
  if value = loaded then stored else value

@[simp] theorem column_self {α : Type} [DecidableEq α] (value stored : α) :
    column value stored stored = value := by
  unfold column
  split
  · rename_i same
    exact same.symm
  · rfl

namespace World

/-- INSERT of one object: the server generates its id and its dates. -/
def insert {ρ : Type} [Stored ρ] (w : World) (build : Uuid → Timestamp → ρ) :
    Except Err (ρ × World) := do
  let row := build (w.ids 0) w.clock
  let db ← w.db.insertRow row
  pure (row, { w with db, ids := fun n => w.ids (n + 1) })

def update {ρ : Type} [Stored ρ] (w : World) (id : Uuid) (f : ρ → ρ) : Except Err World := do
  let db ← w.db.updateRow id f
  pure { w with db }

theorem insert_eq {ρ : Type} [Stored ρ] (w : World) (build : Uuid → Timestamp → ρ) :
    w.insert build = (w.db.insertRow (build (w.ids 0) w.clock)).map fun db =>
      (build (w.ids 0) w.clock, { w with db, ids := fun n => w.ids (n + 1) }) :=
  bind_pure_comp _ _

theorem update_eq {ρ : Type} [Stored ρ] (w : World) (id : Uuid) (f : ρ → ρ) :
    w.update id f = (w.db.updateRow id f).map fun db => { w with db } :=
  bind_pure_comp _ _

end World

/-- A value that a request body or a DTO may lack. -/
inductive Property (α : Type)
  | undefined
  | null
  | value (a : α)
  deriving DecidableEq

namespace Property

variable {α : Type}

/-- `if (value !== undefined) target = value` for a column that can be null. -/
def assign (p : Property α) (current : Option α) : Option α :=
  match p with
  | undefined => current
  | null => none
  | value a => some a

def toOption : Property α → Option α
  | value a => some a
  | _ => none

/-- An empty text counts as no text where the code tests for truth. -/
def truthy : Property String → Option String
  | value s => if s = "" then none else some s
  | _ => none

def toJson (json : α → Json) : Property α → Option Json
  | undefined => none
  | null => some .null
  | value a => some (json a)

end Property

/-- An object literal; keys whose value is `undefined` are not in its JSON text. -/
def Json.literal (fields : List (String × Option Json)) : Json :=
  .obj (fields.filterMap fun f => f.2.map fun v => (f.1, v))

def Json.nullable {α : Type} (json : α → Json) : Option α → Json
  | some a => json a
  | none => .null

def Json.ofNat (n : ℕ) : Json := .num n

/-- NOT NULL. -/
def required {α : Type} : Option α → Except Err α
  | some a => .ok a
  | none => .error .notNullViolation

/-- The `catch` of the writing services: a broken unique constraint becomes `taken`. -/
def translated {α : Type} (taken : Err) (p : Svc α) : Svc α :=
  tryCatch p fun err => if isUniqueViolation err then throw taken else throw err

end Tenantory
