import Tenantory.ConstrainedTable
import Tenantory.JsonValue
import Tenantory.UuidText

/-! The rows of the database, one structure for each entity class, and the
constraints the entity decorators declare. A relation is stored as the id of
its foreign key. `deletedAt` is the soft deletion mark: unique constraints do
not look at it, finders do. -/

namespace Tenantory

/-- A stored row: what identifies it, which tenant owns it and the constraints on it. -/
class Entity (ρ : Type) extends Constrained ρ where
  id : ρ → Uuid
  owner : ρ → Uuid
  same_id : ∀ r s, id r = id s → conflict r s = true

theorem nodup_ids {ρ : Type} [Entity ρ] (t : Table ρ) (p : ρ → Bool) :
    ((t.select p).map Entity.id).Nodup := by
  have apart : (t.select p).Pairwise fun r s => conflict r s = false := t.separate.filter _
  rw [List.nodup_iff_pairwise_ne, List.pairwise_map]
  refine apart.imp fun {r s} separate same => ?_
  simp [Entity.same_id r s same] at separate

abbrev Timestamp := ℕ

inductive TenantStatus
  | pending | active | suspended | archived
  deriving DecidableEq

inductive UserRole
  | superAdmin | tenantAdmin | auditor | catalogManager | warehouseManager | customer
  deriving DecidableEq

inductive MediaType
  | image | document | video | audio | other
  deriving DecidableEq

inductive NotificationType
  | lowStock
  deriving DecidableEq

structure Tenant where
  id : Uuid
  domainName : String
  businessName : String
  status : TenantStatus
  createdAt : Timestamp
  updatedAt : Timestamp
  deletedAt : Option Timestamp
  deriving DecidableEq

structure User where
  id : Uuid
  tenantId : Uuid
  email : String
  firstName : String
  lastName : String
  passwordHash : String
  role : UserRole
  isActive : Bool
  createdAt : Timestamp
  updatedAt : Timestamp
  deletedAt : Option Timestamp
  deriving DecidableEq

structure TenantSetting where
  id : Uuid
  tenantId : Uuid
  config : Json
  createdAt : Timestamp
  updatedAt : Timestamp
  deriving DecidableEq

structure Category where
  id : Uuid
  tenantId : Uuid
  name : String
  slug : String
  parentId : Option Uuid
  createdAt : Timestamp
  updatedAt : Timestamp
  deletedAt : Option Timestamp
  deriving DecidableEq

structure Product where
  id : Uuid
  tenantId : Uuid
  categoryId : Uuid
  name : String
  description : Option String
  skuPrefix : String
  isActive : Bool
  createdAt : Timestamp
  updatedAt : Timestamp
  deletedAt : Option Timestamp
  deriving DecidableEq

structure ProductVariant where
  id : Uuid
  tenantId : Uuid
  productId : Uuid
  sku : String
  price : ℚ
  attributes : Json
  createdAt : Timestamp
  updatedAt : Timestamp
  deletedAt : Option Timestamp
  deriving DecidableEq

structure Warehouse where
  id : Uuid
  tenantId : Uuid
  name : String
  location : Option String
  createdAt : Timestamp
  updatedAt : Timestamp
  deletedAt : Option Timestamp
  deriving DecidableEq

structure Supplier where
  id : Uuid
  tenantId : Uuid
  companyName : String
  contactEmail : Option String
  contactPhone : Option String
  address : Option String
  leadTimeDays : Option ℤ
  createdAt : Timestamp
  updatedAt : Timestamp
  deletedAt : Option Timestamp
  deriving DecidableEq

structure StockLevel where
  id : Uuid
  tenantId : Uuid
  variantId : Uuid
  warehouseId : Uuid
  availableQuantity : ℤ
  reservedQuantity : ℤ
  safetyThreshold : ℤ
  version : ℕ
  createdAt : Timestamp
  updatedAt : Timestamp
  deriving DecidableEq

structure MediaAsset where
  id : Uuid
  tenantId : Uuid
  fileName : String
  originalFileName : String
  mimeType : String
  sizeBytes : ℕ
  url : String
  mediaType : MediaType
  createdAt : Timestamp
  updatedAt : Timestamp
  deriving DecidableEq

structure Notification where
  id : Uuid
  tenantId : Uuid
  recipientId : Uuid
  type : NotificationType
  title : String
  body : Option String
  data : Option Json
  dedupKey : Option String
  readAt : Option Timestamp
  createdAt : Timestamp
  updatedAt : Timestamp
  deletedAt : Option Timestamp
  deriving DecidableEq

/-! ## Declared constraints -/

instance : Entity Tenant where
  id := Tenant.id
  owner := Tenant.id
  conflict r s := r.id == s.id || r.domainName == s.domainName
  refl r := by simp
  symm r s := by simp only [BEq.comm]
  same_id r s h := by simp [h]

instance : Entity User where
  id := User.id
  owner := User.tenantId
  conflict r s := r.id == s.id || (r.tenantId == s.tenantId && r.email == s.email)
  refl r := by simp
  symm r s := by simp only [BEq.comm]
  same_id r s h := by simp [h]

instance : Entity TenantSetting where
  id := TenantSetting.id
  owner := TenantSetting.tenantId
  conflict r s := r.id == s.id || r.tenantId == s.tenantId
  refl r := by simp
  symm r s := by simp only [BEq.comm]
  same_id r s h := by simp [h]

instance : Entity Category where
  id := Category.id
  owner := Category.tenantId
  conflict r s := r.id == s.id ||
    (r.tenantId == s.tenantId && (r.name == s.name || r.slug == s.slug))
  refl r := by simp
  symm r s := by simp only [BEq.comm]
  same_id r s h := by simp [h]

instance : Entity Product where
  id := Product.id
  owner := Product.tenantId
  conflict r s := r.id == s.id
  refl r := by simp
  symm r s := by simp only [BEq.comm]
  same_id r s h := by simp [h]

instance : Entity ProductVariant where
  id := ProductVariant.id
  owner := ProductVariant.tenantId
  conflict r s := r.id == s.id || (r.tenantId == s.tenantId && r.sku == s.sku)
  refl r := by simp
  symm r s := by simp only [BEq.comm]
  same_id r s h := by simp [h]

instance : Entity Warehouse where
  id := Warehouse.id
  owner := Warehouse.tenantId
  conflict r s := r.id == s.id
  refl r := by simp
  symm r s := by simp only [BEq.comm]
  same_id r s h := by simp [h]

instance : Entity Supplier where
  id := Supplier.id
  owner := Supplier.tenantId
  conflict r s := r.id == s.id
  refl r := by simp
  symm r s := by simp only [BEq.comm]
  same_id r s h := by simp [h]

instance : Entity StockLevel where
  id := StockLevel.id
  owner := StockLevel.tenantId
  conflict r s := r.id == s.id || (r.variantId == s.variantId && r.warehouseId == s.warehouseId)
  refl r := by simp
  symm r s := by simp only [BEq.comm]
  same_id r s h := by simp [h]

instance : Entity MediaAsset where
  id := MediaAsset.id
  owner := MediaAsset.tenantId
  conflict r s := r.id == s.id
  refl r := by simp
  symm r s := by simp only [BEq.comm]
  same_id r s h := by simp [h]

instance : Entity Notification where
  id := Notification.id
  owner := Notification.tenantId
  conflict r s := r.id == s.id
  refl r := by simp
  symm r s := by simp only [BEq.comm]
  same_id r s h := by simp [h]

/-- Committed tables. -/
structure Database where
  tenants : Table Tenant
  users : Table User
  tenantSettings : Table TenantSetting
  categories : Table Category
  products : Table Product
  variants : Table ProductVariant
  warehouses : Table Warehouse
  suppliers : Table Supplier
  stockLevels : Table StockLevel
  mediaAssets : Table MediaAsset
  notifications : Table Notification

namespace Database

def empty : Database := ⟨∅, ∅, ∅, ∅, ∅, ∅, ∅, ∅, ∅, ∅, ∅⟩

/-! A finder that filters on a relation joins the related row, and the join does
not see soft-deleted rows. -/

def liveTenant (db : Database) (id : Uuid) : Bool :=
  db.tenants.rows.any fun t => t.id == id && t.deletedAt.isNone

def liveVariant (db : Database) (id : Uuid) : Bool :=
  db.variants.rows.any fun v => v.id == id && v.deletedAt.isNone

def liveWarehouse (db : Database) (id : Uuid) : Bool :=
  db.warehouses.rows.any fun h => h.id == id && h.deletedAt.isNone

end Database

end Tenantory
