import Tenantory.AuditService
import Tenantory.QueryPlatform
import Tenantory.TableStatements

/-! Suppliers of a tenant. -/

namespace Tenantory

structure CreateSupplierDto where
  companyName : String
  contactEmail : Property String
  contactPhone : Property String
  address : Property String
  leadTimeDays : Property ℤ

structure UpdateSupplierDto where
  companyName : Property String
  contactEmail : Property String
  contactPhone : Property String
  address : Property String
  leadTimeDays : Property ℤ

inductive SupplierSort
  | companyName | leadTimeDays | createdAt | updatedAt
  deriving DecidableEq

structure SupplierQueryDto where
  page : Option ℕ
  limit : Option ℕ
  search : Option String
  sortBy : Option SupplierSort
  sortOrder : Option SortOrder

def Supplier.live (row : Supplier) : Bool := row.deletedAt.isNone

namespace SupplierService

open UuidText

def nameTaken : Err := .conflict "A supplier with this company name already exists for this tenant"

/-! ## Statements -/

def readOne (tenantId id : String) (w : World) : Except Err (Option Supplier) := do
  let tenant ← uuidParam tenantId
  let id ← uuidParam id
  pure (w.db.suppliers.find? fun s => s.tenantId == tenant && s.id == id && s.live)

def nameExists (tenantId companyName : String) (excludeId : Option String) (w : World) :
    Except Err Bool := do
  let tenant ← uuidParam tenantId
  let exclude ← excludeId.mapM uuidParam
  pure (w.db.suppliers.rows.any fun s =>
    s.tenantId == tenant && s.companyName == companyName && s.live && exclude.all (· != s.id))

def insert (tenantId : String) (dto : CreateSupplierDto) (w : World) :
    Except Err (Supplier × World) := do
  let tenant ← uuidParam tenantId
  w.insert fun id now =>
    { id, tenantId := tenant, companyName := dto.companyName,
      contactEmail := dto.contactEmail.toOption, contactPhone := dto.contactPhone.toOption,
      address := dto.address.toOption, leadTimeDays := dto.leadTimeDays.toOption,
      createdAt := now, updatedAt := now, deletedAt := none : Supplier }

/-- The row with the columns of the entity in it. -/
def overwrite (entity : Supplier) (now : Timestamp) (row : Supplier) : Supplier :=
  if entity = row then row
  else if entity.updatedAt = row.updatedAt then { entity with updatedAt := now }
  else entity

/-- UPDATE of the columns in which `written` differs from the loaded row. -/
def merge (written loaded row : Supplier) : Supplier where
  id := column written.id loaded.id row.id
  tenantId := column written.tenantId loaded.tenantId row.tenantId
  companyName := column written.companyName loaded.companyName row.companyName
  contactEmail := column written.contactEmail loaded.contactEmail row.contactEmail
  contactPhone := column written.contactPhone loaded.contactPhone row.contactPhone
  address := column written.address loaded.address row.address
  leadTimeDays := column written.leadTimeDays loaded.leadTimeDays row.leadTimeDays
  createdAt := column written.createdAt loaded.createdAt row.createdAt
  updatedAt := column written.updatedAt loaded.updatedAt row.updatedAt
  deletedAt := column written.deletedAt loaded.deletedAt row.deletedAt

@[simp] theorem merge_self (written row : Supplier) : merge written row row = written := by
  simp [merge]

/-- What `save` writes for an entity, given what it has loaded; an entity without a
stored row is inserted. -/
def saveLoaded (entity : Supplier) (loaded : Database) (w : World) :
    Except Err (Supplier × World) := do
  match loaded.rowById Supplier entity.id with
  | none =>
      let db ← w.db.insertRow entity
      pure (entity, { w with db })
  | some stored =>
      let row := overwrite entity w.clock stored
      let w ← w.update entity.id (merge row stored)
      pure (row, w)

def softRemove (entity : Supplier) (w : World) : Except Err (Unit × World) := do
  let w ← w.update entity.id fun row : Supplier =>
    { row with deletedAt := some w.clock, updatedAt := w.clock }
  pure ((), w)

/-! ## Lookups -/

def assertCompanyNameUnique (tenantId companyName : String) (excludeId : Option String) :
    Svc Unit := do
  let exists_ ← query (nameExists tenantId companyName excludeId)
  if exists_ then throw nameTaken

def findOne (tenantId id : String) : Svc Supplier := do
  match ← query (readOne tenantId id) with
  | some supplier => pure supplier
  | none => throw (.notFound s!"Supplier with ID \"{id}\" not found for tenant {tenantId}")

/-! ## The list -/

def sortColumn : SupplierSort → Supplier → SortValue
  | .companyName, s => .text s.companyName
  | .leadTimeDays, s => (s.leadTimeDays.map fun n => .number n).getD .null
  | .createdAt, s => .number s.createdAt
  | .updatedAt, s => .number s.updatedAt

def readPage (platform : Platform) (tenantId : String) (query : SupplierQueryDto) (skip : ℕ)
    (ties : Uuid → ℕ) (w : World) : Except Err (List Supplier × ℕ) := do
  let tenant ← uuidParam tenantId
  let rows := w.db.suppliers.select fun s =>
    s.tenantId == tenant && s.live &&
      query.search.all fun search =>
        search == "" || platform.ilike ("%" ++ search ++ "%") s.companyName
  let key := (query.sortBy.map sortColumn).getD unordered
  let sorted := platform.orderBy ties (query.sortOrder.getD .asc) key rows
  pure (window skip query.limit sorted, rows.length)

def buildLink (limit page : ℕ) : String := s!"/api/v1/suppliers?page={page}&limit={limit}"

def findAll (platform : Platform) (tenantId : String) (query : SupplierQueryDto) :
    Svc (PaginatedResponse Supplier) := do
  let page := query.page.getD 1
  let limit := query.limit.getD 10
  let (data, totalItems) ← listing (readPage platform tenantId query ((page - 1) * limit))
  pure (paginated data totalItems (max 1 (pageCount totalItems limit)) page limit
    (buildLink limit))

/-! ## Writes -/

def jsonInt (n : ℤ) : Json := .num n

def create (context : Option AuditContextData) (tenantId : String) (dto : CreateSupplierDto) :
    Svc Supplier := do
  assertCompanyNameUnique tenantId dto.companyName none
  translated nameTaken do
    let saved ← statement (.insert (.supplier tenantId dto.companyName)) (insert tenantId dto)
    AuditService.record context
      { action := .create
        entityType := .supplier
        entityId := uuidOut saved.id
        oldValues := none
        newValues := some (.literal [("companyName", some (.str saved.companyName)),
          ("contactEmail", dto.contactEmail.toJson .str),
          ("leadTimeDays", dto.leadTimeDays.toJson jsonInt)])
        metadata := none
        actorId := none }
    pure saved

def auditValues (supplier : Supplier) : Json :=
  .obj [("companyName", .str supplier.companyName),
    ("contactEmail", .nullable .str supplier.contactEmail),
    ("contactPhone", .nullable .str supplier.contactPhone),
    ("address", .nullable .str supplier.address),
    ("leadTimeDays", .nullable jsonInt supplier.leadTimeDays)]

def updateAudit (supplier saved : Supplier) : AuditEventInput where
  action := .update
  entityType := .supplier
  entityId := uuidOut saved.id
  oldValues := some (auditValues supplier)
  newValues := some (auditValues saved)
  metadata := none
  actorId := none

/-- `supplier` with what the DTO assigns to it. -/
def patched (dto : UpdateSupplierDto) (supplier : Supplier) : Supplier :=
  { supplier with
    companyName := dto.companyName.truthy.getD supplier.companyName
    contactEmail := dto.contactEmail.assign supplier.contactEmail
    contactPhone := dto.contactPhone.assign supplier.contactPhone
    address := dto.address.assign supplier.address
    leadTimeDays := dto.leadTimeDays.assign supplier.leadTimeDays }

def update (context : Option AuditContextData) (tenantId id : String) (dto : UpdateSupplierDto) :
    Svc Supplier := do
  let supplier ← findOne tenantId id
  match dto.companyName.truthy with
  | some name => assertCompanyNameUnique tenantId name (if id = "" then none else some id)
  | none => pure ()
  translated nameTaken do
    let edited := patched dto supplier
    let saved ← saving (.supplier edited) (saveLoaded edited)
    AuditService.record context (updateAudit supplier saved)
    pure saved

def remove (context : Option AuditContextData) (tenantId id : String) : Svc Unit := do
  let supplier ← findOne tenantId id
  softRemoving (.supplier supplier) fun _ => softRemove supplier
  AuditService.record context
    { action := .delete
      entityType := .supplier
      entityId := uuidOut supplier.id
      oldValues := some (.obj [("companyName", .str supplier.companyName)])
      newValues := none
      metadata := none
      actorId := none }

end SupplierService
end Tenantory
