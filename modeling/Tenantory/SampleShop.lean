import Tenantory.InventoryService
import Tenantory.TenantUserManagementService

/-! A shop with one product, used where a general statement is run on concrete
input. -/

namespace Tenantory
namespace SampleShop

def tenantId : Uuid := 0x71
def categoryId : Uuid := 0xca
def productId : Uuid := 0xb0
def variantId : Uuid := 0x5a
def warehouseId : Uuid := 0x3e
def stockId : Uuid := 0x57

def tenant : Tenant := ⟨tenantId, "acme", "Acme", .active, 0, 0, none⟩

def category : Category := ⟨categoryId, tenantId, "Shirts", "shirts", none, 0, 0, none⟩

def product : Product :=
  ⟨productId, tenantId, categoryId, "Shirt", none, "TSH", true, 0, 0, none⟩

def variant : ProductVariant :=
  ⟨variantId, tenantId, productId, "TSH-BLU-M", 20, .emptyObject, 0, 0, none⟩

def warehouse : Warehouse := ⟨warehouseId, tenantId, "Main", none, 0, 0, none⟩

def stock (available reserved : ℤ) : StockLevel :=
  ⟨stockId, tenantId, variantId, warehouseId, available, reserved, 20, 1, 0, 0⟩

def one {ρ : Type} [Constrained ρ] (row : ρ) : Table ρ :=
  ⟨[row], List.pairwise_singleton _ _⟩

/-- The catalog of the shop, with nothing in stock. -/
def unstocked : Database :=
  { Database.empty with
    tenants := one tenant
    categories := one category
    products := one product
    variants := one variant
    warehouses := one warehouse }

def stocked (available reserved : ℤ) : Database :=
  { unstocked with stockLevels := one (stock available reserved) }

def world (db : Database) : World where
  db := db
  cache := []
  pending := []
  nextTx := 0
  clock := 1
  ids n := BitVec.ofNat 128 (1000 + n)
  draws _ := 0
  ties _ _ := 0
  journal := []

def context : AuditContextData := ⟨some (UuidText.uuidOut tenantId), none, none, none, none⟩

def hashing : Bcrypt := ⟨fun _ _ => String.ofList (List.replicate 60 'h'), fun _ _ => by decide⟩

def call (op : StockOp) (quantity : ℤ) : StockCall where
  op := op
  tenantId := UuidText.uuidOut tenantId
  dto := ⟨UuidText.uuidOut warehouseId, UuidText.uuidOut variantId, quantity⟩

end SampleShop
end Tenantory
