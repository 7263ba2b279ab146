import Tenantory.RetryBackoff
import Tenantory.StockTransaction
import Tenantory.VariantService
import Tenantory.WarehouseService

/-! The four stock operations. Each looks up one row inside a transaction, checks
it, saves the changed entity and is retried as a whole; the movement that its
closure remembers is published after the transaction has committed. -/

namespace Tenantory

structure StockDto where
  warehouseId : String
  variantId : String
  quantity : ℤ
  deriving DecidableEq

namespace InventoryService

open UuidText

def retryOptions : RetryOptions Err where
  maxAttempts := 5
  baseDelayMs := 50
  maxDelayMs := 300
  retryableErrors := fun err => err == .optimisticLockVersionMismatch

def timer : Timer (StateT (Option StockMovementEvent) Step) where
  random := fun movement => Prog.atom
    { label := .random
      ready := fun _ => true
      act := fun w => (.ok (w.draws 0), { w with draws := fun n => w.draws (n + 1) }) }
    fun r => .ret (match r with | .ok draw => draw | .error _ => 0, movement)
  sleep ms := fun movement => Prog.atom
    { label := .sleep ms, ready := fun _ => true, act := fun w => (.ok (), w) }
    fun _ => .ret ((), movement)

def exhausted : Err := .other "Retry loop exhausted without return or throw"

/-- `findOne` with the tenant, variant and warehouse in its where clause. -/
def stockRead (tenantId variantId warehouseId : String) (w : World) :
    Except Err (Option StockLevel) := do
  let tenant ← uuidParam tenantId
  let variant ← uuidParam variantId
  let warehouse ← uuidParam warehouseId
  pure (w.db.stockLevels.find? fun s =>
    s.tenantId == tenant && s.variantId == variant && s.warehouseId == warehouse &&
      w.db.liveVariant variant && w.db.liveWarehouse warehouse)

def findStock (tenantId variantId warehouseId : String) : Svc (Option StockLevel) :=
  query (stockRead tenantId variantId warehouseId)

/-- The lookup of an operation; `absent` is what it makes of a missing row. -/
def lookup (absent : Except Err StockDraft) (tenantId variantId warehouseId : String) :
    Svc StockEntity := do
  match ← findStock tenantId variantId warehouseId with
  | some row => pure (.loaded row)
  | none =>
      match absent with
      | .ok draft => pure (.created draft)
      | .error missing => throw missing

def newStock (tenantId : String) (warehouse : Warehouse) (variant : ProductVariant) :
    StockDraft where
  tenantId := tenantId
  warehouseId := warehouse.id
  variantId := variant.id
  availableQuantity := 0
  reservedQuantity := 0
  safetyThreshold := 20

def findOrCreate (tenantId : String) (warehouse : Warehouse) (variant : ProductVariant) :
    Svc StockEntity :=
  lookup (.ok (newStock tenantId warehouse variant)) tenantId (uuidOut variant.id)
    (uuidOut warehouse.id)

/-- What one operation looks up, checks and changes inside its transaction; the ids
are also those it publishes. -/
structure Movement where
  tenantId : String
  variantId : String
  warehouseId : String
  sku : Option String
  absent : Except Err StockDraft
  refused : StockEntity → Option Err
  available : ℤ
  reserved : ℤ

def snapshotJson (s : StockMovementSnapshot) : Json :=
  .obj [("availableQuantity", .num s.availableQuantity),
    ("reservedQuantity", .num s.reservedQuantity)]

def auditInput (movement : StockMovementEvent) : AuditEventInput where
  action := .updateInventory
  entityType := .stockLevel
  entityId := movement.stockLevelId
  oldValues := some (snapshotJson movement.before)
  newValues := some (snapshotJson movement.after)
  metadata := none
  actorId := none

def publishStockMovement (context : Option AuditContextData) (movement : StockMovementEvent) :
    Svc Unit := do
  AuditService.record context (auditInput movement)
  emit (.stockMovement movement)

namespace Movement

def find (m : Movement) : Svc StockEntity :=
  lookup m.absent m.tenantId m.variantId m.warehouseId

def event (m : Movement) (before : StockMovementSnapshot) (saved : StockLevel) :
    StockMovementEvent where
  tenantId := m.tenantId
  stockLevelId := uuidOut saved.id
  variantId := m.variantId
  warehouseId := m.warehouseId
  sku := m.sku
  before := before
  after := ⟨saved.availableQuantity, saved.reservedQuantity⟩
  safetyThreshold := saved.safetyThreshold

/-- The transaction callback. -/
def callback (m : Movement) (tx : ℕ) : Attempt StockLevel := do
  let stock ← Attempt.lift m.find
  match m.refused stock with
  | some err => throw err
  | none =>
      let before := stock.snapshot
      let changed := stock.setQuantities (stock.availableQuantity + m.available)
        (stock.reservedQuantity + m.reserved)
      let saved ← Attempt.lift (saveStock tx changed)
      set (some (m.event before saved))
      pure saved

def attempts (m : Movement) : Attempt StockLevel :=
  RetryBackoff.retryWithBackoff timer (transaction m.callback) retryOptions exhausted

def run (m : Movement) (context : Option AuditContextData) : Svc StockLevel :=
  ExceptT.mk <| (m.attempts.run none).bind fun
    | (.error err, _) => .ret (.error err)
    | (.ok saved, none) => .ret (.ok saved)
    | (.ok saved, some movement) =>
        (do
          publishStockMovement context movement
          pure saved : Svc StockLevel).run

end Movement

/-! ## The operations -/

def deduction (tenantId : String) (dto : StockDto) (variant : ProductVariant)
    (warehouse : Warehouse) : Movement where
  tenantId := tenantId
  variantId := uuidOut variant.id
  warehouseId := uuidOut warehouse.id
  sku := some variant.sku
  absent := .error (.notFound "There is no stock level with this info")
  refused stock := if stock.availableQuantity < dto.quantity then
    some (.badRequest "insufficient stock quantity") else none
  available := -dto.quantity
  reserved := 0

def deductStock (context : Option AuditContextData) (tenantId : String) (dto : StockDto) :
    Svc Unit := do
  let variant ← VariantService.findOneById tenantId dto.variantId
  let warehouse ← WarehouseService.findOne tenantId dto.warehouseId
  let _ ← (deduction tenantId dto variant warehouse).run context

def replenishment (tenantId : String) (dto : StockDto) (variant : ProductVariant)
    (warehouse : Warehouse) : Movement where
  tenantId := tenantId
  variantId := uuidOut variant.id
  warehouseId := uuidOut warehouse.id
  sku := some variant.sku
  absent := .ok (newStock tenantId warehouse variant)
  refused _ := none
  available := dto.quantity
  reserved := 0

theorem find_replenishment (tenantId : String) (dto : StockDto) (variant : ProductVariant)
    (warehouse : Warehouse) : (replenishment tenantId dto variant warehouse).find =
      findOrCreate tenantId warehouse variant := rfl

def replenish (context : Option AuditContextData) (tenantId : String) (dto : StockDto) :
    Svc StockLevel := do
  let warehouse ← WarehouseService.findOne tenantId dto.warehouseId
  let variant ← VariantService.findOneById tenantId dto.variantId
  (replenishment tenantId dto variant warehouse).run context

def reservation (tenantId : String) (dto : StockDto) : Movement where
  tenantId := tenantId
  variantId := dto.variantId
  warehouseId := dto.warehouseId
  sku := none
  absent := .error (.notFound "There is no stock level with this info")
  refused stock := if stock.availableQuantity < dto.quantity then
    some (.badRequest "Insufficient stock available for reservation") else none
  available := -dto.quantity
  reserved := dto.quantity

def reserveStock (context : Option AuditContextData) (tenantId : String) (dto : StockDto) :
    Svc Unit := do
  let _ ← (reservation tenantId dto).run context

def release (tenantId : String) (dto : StockDto) : Movement where
  tenantId := tenantId
  variantId := dto.variantId
  warehouseId := dto.warehouseId
  sku := none
  absent := .error (.notFound "Stock level record not found")
  refused stock := if stock.reservedQuantity < dto.quantity then
    some (.badRequest
      s!"Cannot release more stock than currently reserved. Reserved: {stock.reservedQuantity}")
    else none
  available := dto.quantity
  reserved := -dto.quantity

def releaseStock (context : Option AuditContextData) (tenantId : String) (dto : StockDto) :
    Svc Unit := do
  let _ ← (release tenantId dto).run context

end InventoryService

/-! ## Calls -/

inductive StockOp
  | deduct | reserve | release | replenish
  deriving DecidableEq

/-- One call of one of the four operations. -/
structure StockCall where
  op : StockOp
  tenantId : String
  dto : StockDto
  deriving DecidableEq

def StockCall.program (call : StockCall) (context : Option AuditContextData) : Svc Unit :=
  match call.op with
  | .deduct => InventoryService.deductStock context call.tenantId call.dto
  | .reserve => InventoryService.reserveStock context call.tenantId call.dto
  | .release => InventoryService.releaseStock context call.tenantId call.dto
  | .replenish => do
      let _ ← InventoryService.replenish context call.tenantId call.dto

end Tenantory
