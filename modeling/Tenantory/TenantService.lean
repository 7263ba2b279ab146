import Tenantory.TableStatements

/-! The tenants themselves. Their domain name is unique among all tenants. -/

namespace Tenantory

structure CreateTenantDto where
  domainName : String
  businessName : String
  status : TenantStatus

structure UpdateTenantDto where
  domainName : Property String
  businessName : Property String
  status : Property TenantStatus

def Tenant.live (row : Tenant) : Bool := row.deletedAt.isNone

namespace TenantService

/-! ## Statements -/

def readById (id : String) (w : World) : Except Err (Option Tenant) := do
  let id ← uuidParam id
  pure (w.db.tenants.find? fun t => t.id == id && t.live)

def insert (dto : CreateTenantDto) (w : World) : Except Err (Tenant × World) :=
  w.insert fun id now =>
    { id, domainName := dto.domainName, businessName := dto.businessName, status := dto.status,
      createdAt := now, updatedAt := now, deletedAt := none : Tenant }

/-- A loaded tenant whose columns may have been set to null. -/
structure Draft where
  entity : Tenant
  domainName : Option String
  businessName : Option String
  status : Option TenantStatus

def columns (draft : Draft) : Except Err Tenant := do
  let domainName ← required draft.domainName
  let businessName ← required draft.businessName
  let status ← required draft.status
  pure { draft.entity with domainName, businessName, status }

/-- The row with the columns of the draft in it. -/
def overwrite (draft : Draft) (now : Timestamp) (row : Tenant) : Except Err Tenant := do
  let written ← columns draft
  if written = row then pure row
  else if draft.entity.updatedAt = row.updatedAt then pure { written with updatedAt := now }
  else pure written

/-- UPDATE of the columns in which `written` differs from the loaded row. -/
def merge (written loaded row : Tenant) : Tenant where
  id := column written.id loaded.id row.id
  domainName := column written.domainName loaded.domainName row.domainName
  businessName := column written.businessName loaded.businessName row.businessName
  status := column written.status loaded.status row.status
  createdAt := column written.createdAt loaded.createdAt row.createdAt
  updatedAt := column written.updatedAt loaded.updatedAt row.updatedAt
  deletedAt := column written.deletedAt loaded.deletedAt row.deletedAt

@[simp] theorem merge_self (written row : Tenant) : merge written row row = written := by
  simp [merge]

/-- What `save` writes for a draft, given what it has loaded; an entity without a
stored row is inserted. -/
def saveLoaded (draft : Draft) (loaded : Database) (w : World) : Except Err (Tenant × World) := do
  match loaded.rowById Tenant draft.entity.id with
  | none =>
      let row ← columns draft
      let db ← w.db.insertRow row
      pure (row, { w with db })
  | some stored =>
      let row ← overwrite draft w.clock stored
      let w ← w.update draft.entity.id (merge row stored)
      pure (row, w)

def softRemove (entity : Tenant) (w : World) : Except Err (Unit × World) := do
  let w ← w.update entity.id fun row : Tenant =>
    { row with deletedAt := some w.clock, updatedAt := w.clock }
  pure ((), w)

/-! ## The service -/

def findById (id : String) : Svc (Option Tenant) := query (readById id)

def findOne (id : String) : Svc Tenant := do
  match ← findById id with
  | some tenant => pure tenant
  | none => throw (.notFound s!"Tenant with ID {id} not found")

def findByIdAndValidate (id : String) : Svc (Option Tenant) := do
  match ← findById id with
  | none => pure none
  | some tenant => if tenant.status = .archived then pure none else pure (some tenant)

def nameTaken (domainName : String) : Err :=
  .conflict s!"A tenant with domain name \"{domainName}\" already exists"

def create (dto : CreateTenantDto) : Svc Tenant :=
  translated (nameTaken dto.domainName) (statement (.insert (.tenant dto.domainName)) (insert dto))

/-- `tenant` with what the DTO assigns to it. -/
def patched (dto : UpdateTenantDto) (tenant : Tenant) : Draft where
  entity := tenant
  domainName := dto.domainName.assign (some tenant.domainName)
  businessName := dto.businessName.assign (some tenant.businessName)
  status := dto.status.assign (some tenant.status)

/-- The text that the template makes of the domain name of an update. -/
def shown : Property String → String
  | .undefined => "undefined"
  | .null => "null"
  | .value domainName => domainName

def update (id : String) (dto : UpdateTenantDto) : Svc Tenant := do
  let tenant ← findOne id
  translated (nameTaken (shown dto.domainName))
    (saving (.tenant tenant) (saveLoaded (patched dto tenant)))

def remove (id : String) : Svc Unit := do
  let tenant ← findOne id
  softRemoving (.tenant tenant) fun _ => softRemove tenant

end TenantService
end Tenantory
