import Tenantory.ProductService

/-! Variants of products. -/

namespace Tenantory

structure CreateVariantDto where
  sku : String
  price : ℚ
  attributes : Property Json

structure UpdateVariantDto where
  sku : Property String
  price : Property ℚ
  attributes : Property Json

inductive VariantSort
  | sku | price | createdAt | updatedAt
  deriving DecidableEq

structure VariantQueryDto where
  page : Option ℕ
  limit : Option ℕ
  search : Option String
  minPrice : Option ℚ
  maxPrice : Option ℚ
  sortBy : Option VariantSort
  sortOrder : Option SortOrder

namespace VariantService

open UuidText

def skuTaken : Err := .conflict "The provided SKU must be unique per-tenant"

/-! ## Statements -/

def readProduct (tenantId productId : String) (w : World) : Except Err (Option Product) := do
  let id ← uuidParam productId
  let tenant ← uuidParam tenantId
  pure (w.db.products.find? fun p =>
    p.id == id && p.tenantId == tenant && w.db.liveTenant tenant && p.live)

/-- `findOne` on id and tenant. -/
def readById (db : Database) (tenantId id : Uuid) : Option ProductVariant :=
  db.variants.find? fun v =>
    v.id == id && v.tenantId == tenantId && db.liveTenant tenantId && v.deletedAt.isNone

/-- `findOne` on id, tenant and product. -/
def readOne (tenantId productId variantId : String) (w : World) :
    Except Err (Option ProductVariant) := do
  let id ← uuidParam variantId
  let tenant ← uuidParam tenantId
  let product ← uuidParam productId
  pure (w.db.variants.find? fun v =>
    v.id == id && v.tenantId == tenant && w.db.liveTenant tenant && v.productId == product &&
      w.db.liveProduct product && v.live)

def skuExists (tenantId sku : String) (excludeId : Option String) (w : World) :
    Except Err Bool := do
  let tenant ← uuidParam tenantId
  let exclude ← excludeId.mapM uuidParam
  pure (w.db.variants.rows.any fun v =>
    v.tenantId == tenant && v.sku == sku && v.live && exclude.all (· != v.id))

def insert (tenantId productId : String) (dto : CreateVariantDto) (w : World) :
    Except Err (ProductVariant × World) := do
  let tenant ← uuidParam tenantId
  let product ← uuidParam productId
  w.insert fun id now =>
    { id, tenantId := tenant, productId := product, sku := dto.sku, price := dto.price,
      attributes := dto.attributes.toOption.getD .emptyObject, createdAt := now,
      updatedAt := now, deletedAt := none : ProductVariant }

/-- A loaded variant whose `price` and `attributes` may have been set to null. -/
structure Draft where
  entity : ProductVariant
  price : Option ℚ
  attributes : Option Json

/-- The row with the columns of the draft in it. The product is not loaded with a
variant and keeps its place. -/
def overwrite (draft : Draft) (now : Timestamp) (row : ProductVariant) :
    Except Err ProductVariant := do
  let price ← required draft.price
  let attributes ← required draft.attributes
  let written := { draft.entity with productId := row.productId, price, attributes }
  if written = row then pure row
  else if draft.entity.updatedAt = row.updatedAt then pure { written with updatedAt := now }
  else pure written

/-- UPDATE of the columns in which `written` differs from the loaded row. -/
def merge (written loaded row : ProductVariant) : ProductVariant where
  id := column written.id loaded.id row.id
  tenantId := column written.tenantId loaded.tenantId row.tenantId
  productId := column written.productId loaded.productId row.productId
  sku := column written.sku loaded.sku row.sku
  price := column written.price loaded.price row.price
  attributes := column written.attributes loaded.attributes row.attributes
  createdAt := column written.createdAt loaded.createdAt row.createdAt
  updatedAt := column written.updatedAt loaded.updatedAt row.updatedAt
  deletedAt := column written.deletedAt loaded.deletedAt row.deletedAt

@[simp] theorem merge_self (written row : ProductVariant) : merge written row row = written := by
  simp [merge]

/-- What `save` writes for an entity, given what it has loaded. -/
def saveLoaded (draft : Draft) (loaded : Database) (w : World) :
    Except Err (ProductVariant × World) := do
  match loaded.rowById ProductVariant draft.entity.id with
  -- an INSERT without a product
  | none => .error .notNullViolation
  | some stored =>
      let row ← overwrite draft w.clock stored
      let w ← w.update draft.entity.id (merge row stored)
      pure (row, w)

def softRemove (entity : ProductVariant) (w : World) : Except Err (Unit × World) := do
  let w ← w.update entity.id fun row : ProductVariant =>
    { row with deletedAt := some w.clock, updatedAt := w.clock }
  pure ((), w)

/-! ## Lookups -/

def findProduct (tenantId productId : String) : Svc Product := do
  match ← query (readProduct tenantId productId) with
  | some product => pure product
  | none => throw (.notFound s!"There is no product in this tenant with this ID: {productId}")

def assertSkuUniqueness (tenantId sku : String) (excludeId : Option String) : Svc Unit := do
  let exist ← query (skuExists tenantId sku excludeId)
  if exist then throw (.conflict "The provided SKU already exists")

def findOneById (tenantId variantId : String) : Svc ProductVariant := do
  let variant ← query fun w => do
    let id ← uuidParam variantId
    let tenant ← uuidParam tenantId
    pure (readById w.db tenant id)
  match variant with
  | some variant => pure variant
  | none => throw (.notFound s!"There is no variant with this Id in tenant {tenantId}")

def findOne (tenantId productId variantId : String) : Svc ProductVariant := do
  match ← query (readOne tenantId productId variantId) with
  | some variant => pure variant
  | none => throw (.notFound s!"There is no product variant with ID: {variantId}")

/-! ## The list -/

def sortColumn : VariantSort → ProductVariant → SortValue
  | .sku, v => .text v.sku
  | .price, v => .number v.price
  | .createdAt, v => .number v.createdAt
  | .updatedAt, v => .number v.updatedAt

def readPage (platform : Platform) (tenantId productId : String) (query : VariantQueryDto)
    (skip limit : ℕ) (ties : Uuid → ℕ) (w : World) :
    Except Err (List ProductVariant × ℕ) := do
  let tenant ← uuidParam tenantId
  let product ← uuidParam productId
  let rows := w.db.variants.select fun v =>
    v.tenantId == tenant && v.productId == product && v.live &&
      (query.search.all fun search =>
        search == "" || platform.ilike ("%" ++ search ++ "%") v.sku) &&
      (query.minPrice.all fun minPrice => minPrice ≤ v.price) &&
      query.maxPrice.all fun maxPrice => v.price ≤ maxPrice
  let key := (query.sortBy.map sortColumn).getD unordered
  let sorted := platform.orderBy ties (query.sortOrder.getD .asc) key rows
  pure (window skip (some limit) sorted, rows.length)

def buildLink (productId : String) (limit page : ℕ) : String :=
  s!"/api/v1/products/{productId}/variants?page={page}&limit={limit}"

def findAll (platform : Platform) (tenantId productId : String) (query : VariantQueryDto) :
    Svc (PaginatedResponse ProductVariant) := do
  let _ ← findProduct tenantId productId
  let page := query.page.getD 1
  let limit := query.limit.getD 10
  let (data, totalItems) ←
    listing (readPage platform tenantId productId query ((page - 1) * limit) limit)
  pure (paginated data totalItems (max 1 (pageCount totalItems limit)) page limit
    (buildLink productId limit))

/-! ## Writes -/

def create (context : Option AuditContextData) (tenantId productId : String)
    (dto : CreateVariantDto) : Svc ProductVariant := do
  let _ ← findProduct tenantId productId
  assertSkuUniqueness tenantId dto.sku none
  translated skuTaken do
    let saved ← statement (.insert (.variant tenantId productId dto.sku))
      (insert tenantId productId dto)
    AuditService.record context
      { action := .create
        entityType := .productVariant
        entityId := uuidOut saved.id
        oldValues := none
        newValues := some (.obj [("sku", .str saved.sku), ("price", .num saved.price),
          ("productId", .str productId)])
        metadata := none
        actorId := none }
    pure saved

def auditValues (variant : ProductVariant) : Json :=
  .obj [("sku", .str variant.sku), ("price", .num variant.price)]

def updateAudit (variant saved : ProductVariant) : AuditEventInput where
  action := .update
  entityType := .productVariant
  entityId := uuidOut saved.id
  oldValues := some (auditValues variant)
  newValues := some (auditValues saved)
  metadata := none
  actorId := none

/-- `variant` with what the DTO assigns to it. -/
def patched (dto : UpdateVariantDto) (variant : ProductVariant) : Draft where
  entity := { variant with sku := dto.sku.truthy.getD variant.sku }
  price := dto.price.assign (some variant.price)
  attributes := dto.attributes.assign (some variant.attributes)

def update (context : Option AuditContextData) (tenantId productId variantId : String)
    (dto : UpdateVariantDto) : Svc ProductVariant := do
  let variant ← findOne tenantId productId variantId
  match dto.sku.truthy with
  | some sku =>
      if sku != variant.sku then
        assertSkuUniqueness tenantId sku (if variantId = "" then none else some variantId)
  | none => pure ()
  translated skuTaken do
    let draft := patched dto variant
    let saved ← saving (.variant draft.entity) (saveLoaded draft)
    AuditService.record context (updateAudit variant saved)
    pure saved

def remove (context : Option AuditContextData) (tenantId productId variantId : String) :
    Svc Unit := do
  let variant ← findOne tenantId productId variantId
  softRemoving (.variant variant) fun _ => softRemove variant
  AuditService.record context
    { action := .delete
      entityType := .productVariant
      entityId := uuidOut variant.id
      oldValues := some (auditValues variant)
      newValues := none
      metadata := none
      actorId := none }

end VariantService
end Tenantory
