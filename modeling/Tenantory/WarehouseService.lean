import Tenantory.AuditService
import Tenantory.QueryPlatform
import Tenantory.TableStatements

/-! Warehouses of a tenant. -/

namespace Tenantory

structure CreateWarehouseDto where
  name : String
  location : Property String

structure UpdateWarehouseDto where
  name : Property String
  location : Property String

inductive WarehouseSort
  | name | createdAt | updatedAt
  deriving DecidableEq

structure WarehouseQueryDto where
  page : Option ℕ
  limit : Option ℕ
  search : Option String
  sortBy : Option WarehouseSort
  sortOrder : Option SortOrder

def Warehouse.live (row : Warehouse) : Bool := row.deletedAt.isNone

namespace WarehouseService

open UuidText

def nameTaken : Err := .conflict "A warehouse with this name already exists for this tenant"

/-! ## Statements -/

def readById (db : Database) (tenantId id : Uuid) : Option Warehouse :=
  db.warehouses.find? fun h => h.tenantId == tenantId && h.id == id && h.deletedAt.isNone

def nameExists (tenantId name : String) (excludeId : Option String) (w : World) :
    Except Err Bool := do
  let tenant ← uuidParam tenantId
  let exclude ← excludeId.mapM uuidParam
  pure (w.db.warehouses.rows.any fun h =>
    h.tenantId == tenant && h.name == name && h.live && exclude.all (· != h.id))

def insert (tenantId : String) (dto : CreateWarehouseDto) (w : World) :
    Except Err (Warehouse × World) := do
  let tenant ← uuidParam tenantId
  w.insert fun id now =>
    { id, tenantId := tenant, name := dto.name, location := dto.location.toOption,
      createdAt := now, updatedAt := now, deletedAt := none : Warehouse }

/-- The row with the columns of the entity in it. -/
def overwrite (entity : Warehouse) (now : Timestamp) (row : Warehouse) : Warehouse :=
  if entity = row then row
  else if entity.updatedAt = row.updatedAt then { entity with updatedAt := now }
  else entity

/-- UPDATE of the columns in which `written` differs from the loaded row. -/
def merge (written loaded row : Warehouse) : Warehouse where
  id := column written.id loaded.id row.id
  tenantId := column written.tenantId loaded.tenantId row.tenantId
  name := column written.name loaded.name row.name
  location := column written.location loaded.location row.location
  createdAt := column written.createdAt loaded.createdAt row.createdAt
  updatedAt := column written.updatedAt loaded.updatedAt row.updatedAt
  deletedAt := column written.deletedAt loaded.deletedAt row.deletedAt

@[simp] theorem merge_self (written row : Warehouse) : merge written row row = written := by
  simp [merge]

/-- What `save` writes for an entity, given what it has loaded; an entity without a
stored row is inserted. -/
def saveLoaded (entity : Warehouse) (loaded : Database) (w : World) :
    Except Err (Warehouse × World) := do
  match loaded.rowById Warehouse entity.id with
  | none =>
      let db ← w.db.insertRow entity
      pure (entity, { w with db })
  | some stored =>
      let row := overwrite entity w.clock stored
      let w ← w.update entity.id (merge row stored)
      pure (row, w)

def softRemove (entity : Warehouse) (w : World) : Except Err (Unit × World) := do
  let w ← w.update entity.id fun row : Warehouse =>
    { row with deletedAt := some w.clock, updatedAt := w.clock }
  pure ((), w)

/-! ## Lookups -/

def assertNameUnique (tenantId name : String) (excludeId : Option String) : Svc Unit := do
  let exists_ ← query (nameExists tenantId name excludeId)
  if exists_ then throw nameTaken

def findOne (tenantId id : String) : Svc Warehouse := do
  let warehouse ← query fun w => do
    let tenant ← uuidParam tenantId
    let id ← uuidParam id
    pure (readById w.db tenant id)
  match warehouse with
  | some warehouse => pure warehouse
  | none => throw (.notFound s!"Warehouse with ID \"{id}\" not found for tenant {tenantId}")

/-! ## The list -/

def sortColumn : WarehouseSort → Warehouse → SortValue
  | .name, h => .text h.name
  | .createdAt, h => .number h.createdAt
  | .updatedAt, h => .number h.updatedAt

def readPage (platform : Platform) (tenantId : String) (query : WarehouseQueryDto) (skip : ℕ)
    (ties : Uuid → ℕ) (w : World) : Except Err (List Warehouse × ℕ) := do
  let tenant ← uuidParam tenantId
  let rows := w.db.warehouses.select fun h =>
    h.tenantId == tenant && h.live &&
      query.search.all fun search =>
        search == "" || platform.ilike ("%" ++ search ++ "%") h.name
  let key := (query.sortBy.map sortColumn).getD unordered
  let sorted := platform.orderBy ties (query.sortOrder.getD .asc) key rows
  pure (window skip query.limit sorted, rows.length)

/-- The link shows the limit of the query, not the default that the page uses. -/
def buildLink (limit : Option ℕ) (page : ℕ) : String :=
  let shown := (limit.map toString).getD "undefined"
  s!"/api/v1/warehouses?page={page}&limit={shown}"

def findAll (platform : Platform) (tenantId : String) (query : WarehouseQueryDto) :
    Svc (PaginatedResponse Warehouse) := do
  let page := query.page.getD 1
  let limit := query.limit.getD 20
  let (data, totalItems) ← listing (readPage platform tenantId query ((page - 1) * limit))
  pure (paginated data totalItems (max 1 (pageCount totalItems limit)) page limit
    (buildLink query.limit))

/-! ## Writes -/

def create (context : Option AuditContextData) (tenantId : String) (dto : CreateWarehouseDto) :
    Svc Warehouse := do
  assertNameUnique tenantId dto.name none
  translated nameTaken do
    let saved ← statement (.insert (.warehouse tenantId dto.name)) (insert tenantId dto)
    AuditService.record context
      { action := .create
        entityType := .warehouse
        entityId := uuidOut saved.id
        oldValues := none
        newValues := some (.literal [("name", some (.str saved.name)),
          ("location", dto.location.toJson .str)])
        metadata := none
        actorId := none }
    pure saved

def auditValues (warehouse : Warehouse) : Json :=
  .obj [("name", .str warehouse.name), ("location", .nullable .str warehouse.location)]

def updateAudit (warehouse saved : Warehouse) : AuditEventInput where
  action := .update
  entityType := .warehouse
  entityId := uuidOut saved.id
  oldValues := some (auditValues warehouse)
  newValues := some (auditValues saved)
  metadata := none
  actorId := none

/-- `warehouse` with what the DTO assigns to it. -/
def patched (dto : UpdateWarehouseDto) (warehouse : Warehouse) : Warehouse :=
  { warehouse with
    name := dto.name.truthy.getD warehouse.name
    location := dto.location.assign warehouse.location }

def update (context : Option AuditContextData) (tenantId id : String) (dto : UpdateWarehouseDto) :
    Svc Warehouse := do
  let warehouse ← findOne tenantId id
  match dto.name.truthy with
  | some name => assertNameUnique tenantId name (if id = "" then none else some id)
  | none => pure ()
  translated nameTaken do
    let edited := patched dto warehouse
    let saved ← saving (.warehouse edited) (saveLoaded edited)
    AuditService.record context (updateAudit warehouse saved)
    pure saved

def remove (context : Option AuditContextData) (tenantId id : String) : Svc Unit := do
  let warehouse ← findOne tenantId id
  softRemoving (.warehouse warehouse) fun _ => softRemove warehouse
  AuditService.record context
    { action := .delete
      entityType := .warehouse
      entityId := uuidOut warehouse.id
      oldValues := some (auditValues warehouse)
      newValues := none
      metadata := none
      actorId := none }

end WarehouseService
end Tenantory
