import Tenantory.CategoryService

/-! Products of a tenant. A product is loaded with its category and its variants, from
the cache or the database, and saved with them. -/

namespace Tenantory

structure CreateProductDto where
  name : String
  description : Property String
  categoryId : String
  skuPrefix : String
  isActive : Property Bool

structure UpdateProductDto where
  name : Property String
  categoryId : Property String
  skuPrefix : Property String
  isActive : Property Bool
  description : Property String

inductive ProductSort
  | name | createdAt | updatedAt
  deriving DecidableEq

structure ProductQueryDto where
  page : Option ℕ
  limit : Option ℕ
  search : Option String
  categoryId : Option String
  isActive : Option String
  sortBy : Option ProductSort
  sortOrder : Option SortOrder

def ProductSort.text : ProductSort → String
  | name => "name"
  | createdAt => "created_at"
  | updatedAt => "updated_at"

/-- The properties of the class with initialisers come first. -/
def ProductQueryDto.toJson (query : ProductQueryDto) : Json :=
  .literal [("page", query.page.map .ofNat), ("limit", query.limit.map .ofNat),
    ("sortBy", query.sortBy.map (.str ·.text)), ("sortOrder", query.sortOrder.map (.str ·.text)),
    ("search", query.search.map .str), ("categoryId", query.categoryId.map .str),
    ("isActive", query.isActive.map .str)]

/-! ## Entities -/

def Product.live (row : Product) : Bool := row.deletedAt.isNone

def ProductVariant.live (row : ProductVariant) : Bool := row.deletedAt.isNone

namespace CategoryReference

def text : CategoryReference → String
  | loaded category => UuidText.uuidOut category.id
  | named id => id

/-- The value for the foreign key column. -/
def key : CategoryReference → Except Err Uuid
  | loaded category => .ok category.id
  | named id => uuidParam id

end CategoryReference

namespace Database

def liveProduct (db : Database) (id : Uuid) : Bool :=
  db.products.rows.any fun p => p.id == id && p.live

def liveVariants (db : Database) (productId : Uuid) : List ProductVariant :=
  db.variants.select fun v => v.productId == productId && v.live

end Database

namespace ProductEntity

/-- A product loaded without relations. -/
def plain (row : Product) : ProductEntity where
  id := row.id
  tenantId := row.tenantId
  name := row.name
  description := row.description
  skuPrefix := row.skuPrefix
  isActive := row.isActive
  createdAt := row.createdAt
  updatedAt := row.updatedAt
  deletedAt := row.deletedAt
  category := none
  variants := none

/-- A product loaded with category and variants. -/
def related (db : Database) (row : Product) : ProductEntity :=
  { plain row with
    category := some ((db.liveCategory? row.categoryId).map fun c => .loaded c.columns)
    variants := some (db.liveVariants row.id) }

def categoryId (entity : ProductEntity) : Option String :=
  entity.category.join.map CategoryReference.text

end ProductEntity

namespace ProductService

open UuidText

def skuTaken : Err := .conflict "The provided SKU must be unique per-tenant"

/-! ## Statements -/

/-- `findOne` on id and tenant with both relations. -/
def readOne (tenantId id : String) (w : World) : Except Err (Option ProductEntity) := do
  let id ← uuidParam id
  let tenant ← uuidParam tenantId
  pure ((w.db.products.find? fun p =>
    p.id == id && p.tenantId == tenant && w.db.liveTenant tenant && p.live).map
      (ProductEntity.related w.db))

def skuExists (tenantId skuPrefix : String) (w : World) : Except Err Bool := do
  let tenant ← uuidParam tenantId
  pure (w.db.products.rows.any fun p =>
    p.tenantId == tenant && p.skuPrefix == skuPrefix && p.live)

def countVariants (tenantId : String) (product : Uuid) (w : World) : Except Err ℕ := do
  let tenant ← uuidParam tenantId
  pure (w.db.variants.select fun v =>
    v.productId == product && w.db.liveProduct product && v.tenantId == tenant &&
      w.db.liveTenant tenant && v.live).length

def insert (tenantId : String) (dto : CreateProductDto) (w : World) :
    Except Err (ProductEntity × World) := do
  let tenant ← uuidParam tenantId
  let category ← uuidParam dto.categoryId
  -- the column default stands in for an undefined value
  let isActive ← required (dto.isActive.assign (some true))
  let (row, w) ← w.insert fun id now =>
    { id, tenantId := tenant, categoryId := category, name := dto.name,
      description := dto.description.toOption, skuPrefix := dto.skuPrefix, isActive,
      createdAt := now, updatedAt := now, deletedAt := none : Product }
  pure ({ ProductEntity.plain row with category := some (some (.named dto.categoryId)) }, w)

/-- A saved product's variants are those it lists: a listed one that is not a live
variant of it in `db` gets its id, one there that is not listed would lose it, which the
column refuses. -/
def saveVariants (entity : ProductEntity) (db : Database) (w : World) : Except Err World :=
  match entity.variants with
  | none => .ok w
  | some listed =>
      let stored := db.liveVariants entity.id
      let bound := listed.filter fun v => stored.all (·.id != v.id)
      let removed := stored.filter fun v => listed.all (·.id != v.id)
      if removed.isEmpty then
        bound.foldlM (fun w v => w.update v.id fun row : ProductVariant =>
          { row with productId := entity.id, updatedAt := w.clock }) w
      else .error .notNullViolation

/-- An entity whose `name` and `isActive` may have been set to null. -/
structure Draft where
  entity : ProductEntity
  name : Option String
  isActive : Option Bool

/-- The columns of the draft; `categoryId` is the stored one, for a draft without the
relation. -/
def columns (draft : Draft) (categoryId : Except Err Uuid) : Except Err Product := do
  let name ← required draft.name
  let isActive ← required draft.isActive
  let categoryId ← match draft.entity.category with
    | none => categoryId
    | some none => .error .notNullViolation
    | some (some category) => category.key
  pure {
    id := draft.entity.id
    tenantId := draft.entity.tenantId
    categoryId, name, isActive
    description := draft.entity.description
    skuPrefix := draft.entity.skuPrefix
    createdAt := draft.entity.createdAt
    updatedAt := draft.entity.updatedAt
    deletedAt := draft.entity.deletedAt }

/-- The row with the columns of the draft in it. -/
def overwrite (draft : Draft) (now : Timestamp) (row : Product) : Except Err Product := do
  let written ← columns draft (.ok row.categoryId)
  -- an UPDATE stamps the row unless the entity brings another date
  if written = row then pure row
  else if draft.entity.updatedAt = row.updatedAt then pure { written with updatedAt := now }
  else pure written

def saved (draft : Draft) (row : Product) : ProductEntity :=
  { draft.entity with name := row.name, isActive := row.isActive, updatedAt := row.updatedAt }

/-- UPDATE of the columns in which `written` differs from the loaded row. -/
def merge (written loaded row : Product) : Product where
  id := column written.id loaded.id row.id
  tenantId := column written.tenantId loaded.tenantId row.tenantId
  categoryId := column written.categoryId loaded.categoryId row.categoryId
  name := column written.name loaded.name row.name
  description := column written.description loaded.description row.description
  skuPrefix := column written.skuPrefix loaded.skuPrefix row.skuPrefix
  isActive := column written.isActive loaded.isActive row.isActive
  createdAt := column written.createdAt loaded.createdAt row.createdAt
  updatedAt := column written.updatedAt loaded.updatedAt row.updatedAt
  deletedAt := column written.deletedAt loaded.deletedAt row.deletedAt

@[simp] theorem merge_self (written row : Product) : merge written row row = written := by
  simp [merge]

/-- What `save` writes for an entity, given what it has loaded; an entity without a
stored row is inserted. -/
def saveLoaded (draft : Draft) (loaded : Database) (w : World) :
    Except Err (ProductEntity × World) := do
  match loaded.rowById Product draft.entity.id with
  | none =>
      let row ← columns draft (.error .notNullViolation)
      let db ← w.db.insertRow row
      let w ← saveVariants draft.entity loaded { w with db }
      pure (saved draft row, w)
  | some stored =>
      let row ← overwrite draft w.clock stored
      let w ← w.update draft.entity.id (merge row stored)
      let w ← saveVariants draft.entity loaded w
      pure (saved draft row, w)

def softRemoveLoaded (entity : ProductEntity) (loaded : Database) (w : World) :
    Except Err (Unit × World) := do
  let w ← saveVariants entity loaded w
  let w ← w.update entity.id fun row : Product =>
    { row with deletedAt := some w.clock, updatedAt := w.clock }
  pure ((), w)

/-! ## Lookups -/

def assertSkuUniqueness (skuPrefix tenantId : String) : Svc Unit := do
  let exist ← query (skuExists tenantId skuPrefix)
  if exist then throw (.conflict "The provided SKU already exist")

def findOne (tenantId id : String) : Svc ProductEntity := do
  let cacheKey := CacheKeys.product tenantId id
  match ← CacheService.get cacheKey Cached.product? with
  | some cached => pure cached
  | none =>
      match ← query (readOne tenantId id) with
      | none => throw (.notFound s!"There is no product with ID {id} in tenant {tenantId}")
      | some product => do
          CacheService.set cacheKey (.product product)
          pure product

/-! ## The list -/

def sortColumn : ProductSort → Product → SortValue
  | .name, p => .text p.name
  | .createdAt, p => .number p.createdAt
  | .updatedAt, p => .number p.updatedAt

def readPage (platform : Platform) (tenantId : String) (query : ProductQueryDto)
    (skip limit : ℕ) (ties : Uuid → ℕ) (w : World) :
    Except Err (List ProductEntity × ℕ) := do
  let tenant ← uuidParam tenantId
  let category ← match query.categoryId with
    | some "" => .ok none
    | some categoryId => some <$> uuidParam categoryId
    | none => .ok none
  let rows := w.db.products.select fun p =>
    p.tenantId == tenant && p.live &&
      (query.search.all fun search =>
        search == "" || platform.ilike ("%" ++ search ++ "%") p.name) &&
      (category.all fun category => p.categoryId == category) &&
      query.isActive.all fun isActive => p.isActive == (isActive == "true")
  let key := (query.sortBy.map sortColumn).getD unordered
  let sorted := platform.orderBy ties (query.sortOrder.getD .asc) key rows
  pure ((window skip (some limit) sorted).map ProductEntity.plain, rows.length)

def buildLink (limit page : ℕ) : String := s!"/api/v1/products?page={page}&limit={limit}"

def findAll (platform : Platform) (tenantId : String) (query : ProductQueryDto) :
    Svc (PaginatedResponse ProductEntity) := do
  let cacheKey := CacheKeys.productsList platform tenantId query.toJson
  match ← CacheService.get cacheKey Cached.productsList? with
  | some cached => pure cached
  | none => do
      let page := query.page.getD 1
      let limit := query.limit.getD 10
      let (data, totalItems) ←
        listing (readPage platform tenantId query ((page - 1) * limit) limit)
      let totalPages := max 1 (pageCount totalItems limit)
      let response := paginated data totalItems totalPages page limit (buildLink limit)
      CacheService.set cacheKey (.productsList response)
      pure response

/-! ## Writes -/

def create (context : Option AuditContextData) (tenantId : String) (dto : CreateProductDto) :
    Svc ProductEntity := do
  let _ ← CategoryService.findOne tenantId dto.categoryId
  assertSkuUniqueness dto.skuPrefix tenantId
  translated skuTaken do
    let result ← statement (.insert (.product tenantId dto.categoryId dto.skuPrefix))
      (insert tenantId dto)
    AuditService.record context
      { action := .create
        entityType := .product
        entityId := uuidOut result.id
        oldValues := none
        newValues := some (.literal [("name", some (.str result.name)),
          ("skuPrefix", some (.str result.skuPrefix)),
          ("categoryId", some (.nullable .str result.categoryId)),
          ("isActive", some (.bool result.isActive)),
          ("description", dto.description.toJson .str)])
        metadata := none
        actorId := none }
    CacheService.delByPattern (CacheKeys.productsPattern tenantId)
    pure result

def auditValues (product : ProductEntity) : Json :=
  .obj [("name", .str product.name), ("isActive", .bool product.isActive),
    ("description", .nullable .str product.description),
    ("categoryId", .nullable .str product.categoryId)]

def updateAudit (product saved : ProductEntity) : AuditEventInput where
  action := .update
  entityType := .product
  entityId := uuidOut saved.id
  oldValues := some (auditValues product)
  newValues := some (auditValues saved)
  metadata := none
  actorId := none

/-- `product` with what the DTO assigns to it. -/
def patched (dto : UpdateProductDto) (product : ProductEntity) : Draft where
  entity := { product with
    category := match dto.categoryId.truthy with
      | some categoryId => some (some (.named categoryId))
      | none => product.category
    description := dto.description.assign product.description }
  name := dto.name.assign (some product.name)
  isActive := dto.isActive.assign (some product.isActive)

def update (context : Option AuditContextData) (tenantId id : String) (dto : UpdateProductDto) :
    Svc ProductEntity := do
  let product ← findOne tenantId id
  if dto.skuPrefix.truthy.any (· != product.skuPrefix) then
    throw (.conflict
      "Cannot change skuPrefix after creation. Existing variant SKUs depend on this prefix.")
  let _ ← dto.categoryId.truthy.mapM (CategoryService.findOne tenantId)
  translated skuTaken do
    let draft := patched dto product
    let saved ← saving (.product draft.entity) (saveLoaded draft)
    AuditService.record context (updateAudit product saved)
    CacheService.del (CacheKeys.product tenantId id)
    CacheService.delByPattern (CacheKeys.productsPattern tenantId)
    pure saved

def remove (context : Option AuditContextData) (tenantId id : String) : Svc Unit := do
  let product ← findOne tenantId id
  let variantCount ← query (countVariants tenantId product.id)
  if variantCount > 0 then
    throw (.conflict
      "Cannot delete product that has variants. Delete or reassign all variants first.")
  softRemoving (.product product) (softRemoveLoaded product)
  AuditService.record context
    { action := .deleteProduct
      entityType := .product
      entityId := uuidOut product.id
      oldValues := some (.obj [("name", .str product.name), ("skuPrefix", .str product.skuPrefix),
        ("categoryId", .nullable .str product.categoryId), ("isActive", .bool product.isActive)])
      newValues := none
      metadata := none
      actorId := none }
  CacheService.del (CacheKeys.product tenantId id)
  CacheService.delByPattern (CacheKeys.productsPattern tenantId)

end ProductService
end Tenantory
