import Tenantory.TenantService
import Tenantory.TenantUserManagementService

/-! Provisioning: a tenant, its first administrator and its settings are inserted in one
transaction, on a query runner that the call takes from the data source. The other
tables are reached through the repositories, outside of it. -/

namespace Tenantory

/-! ## Query runners -/

/-- A row that an open transaction has inserted. -/
inductive Inserted
  | tenant (row : Tenant)
  | user (row : User)
  | setting (row : TenantSetting)

def Inserted.into : Inserted → Database → Except Err Database
  | tenant row, db => db.insertRow row
  | user row, db => db.insertRow row
  | setting row, db => db.insertRow row

structure QueryRunner where
  /-- a connection of the pool is taken -/
  connected : Bool
  /-- the rows of the open transaction, in the order of their statements -/
  transaction : Option (List Inserted)
  isReleased : Bool

structure DataSource where
  world : World
  /-- every query runner that has been created -/
  queryRunners : List QueryRunner

namespace DataSource

def modifyRunner (s : DataSource) (runner : ℕ) (f : QueryRunner → QueryRunner) : DataSource :=
  { s with queryRunners := s.queryRunners.modify runner f }

/-- The database as the transaction of the query runner sees it. -/
def view (s : DataSource) (runner : ℕ) : Except Err Database :=
  let rows := (s.queryRunners[runner]?.bind QueryRunner.transaction).getD []
  rows.foldlM (fun db row => row.into db) s.world.db

end DataSource

namespace TenantProvisioningService

/-- The calls of `createTenant` that may fail. -/
inductive FailurePoint
  | connect | startTransaction | findTenant | saveTenant | findUser | hash | saveUser
  | saveSetting | commitTransaction | rollbackTransaction
  deriving DecidableEq

/-- Programs on the data source; a call that does not fail has no failure point. -/
abbrev Provision := ExceptT Err (Prog DataSource Err (Option FailurePoint))

def call {β : Type} (point : Option FailurePoint)
    (act : DataSource → Except Err β × DataSource) : Provision β :=
  ExceptT.mk (Prog.atom { label := point, ready := fun _ => true, act } Prog.ret)

def createQueryRunner : Provision ℕ :=
  call none fun s => (.ok s.queryRunners.length,
    { s with queryRunners := s.queryRunners ++ [⟨false, none, false⟩] })

def connect (runner : ℕ) : Provision Unit :=
  call (some .connect) fun s => (.ok (), s.modifyRunner runner fun r =>
    { r with connected := true })

def startTransaction (runner : ℕ) : Provision Unit :=
  call (some .startTransaction) fun s =>
    (.ok (), s.modifyRunner runner fun r => { r with transaction := some [] })

def findOne {ρ : Type} [Stored ρ] (point : FailurePoint) (runner : ℕ) (p : ρ → Bool) :
    Provision (Option ρ) :=
  call (some point) fun s => ((s.view runner).map fun db => (Stored.table db).find? p, s)

/-- INSERT in the transaction: the server generates the id and the dates. -/
def insert {ρ : Type} [Stored ρ] (runner : ℕ) (inserted : ρ → Inserted)
    (build : Uuid → Timestamp → ρ) (s : DataSource) : Except Err ρ × DataSource :=
  match s.view runner with
  | .error err => (.error err, s)
  | .ok db =>
      match { s.world with db }.insert build with
      | .error err => (.error err, s)
      | .ok (row, w) =>
          (.ok row, { s with world := { s.world with ids := w.ids } }.modifyRunner runner fun r =>
            { r with transaction := r.transaction.map (· ++ [inserted row]) })

/-- `save` of a new entity. -/
def save {ρ : Type} [Stored ρ] (point : FailurePoint) (runner : ℕ) (inserted : ρ → Inserted)
    (build : Uuid → Timestamp → ρ) : Provision ρ :=
  call (some point) (insert runner inserted build)

def hashPassword (bcrypt : Bcrypt) (password : String) : Provision String :=
  call (some .hash) fun s => (.ok (bcrypt.hash password 12), s)

def commit (runner : ℕ) (s : DataSource) : Except Err Unit × DataSource :=
  match s.view runner with
  | .error err => (.error err, s)
  | .ok db =>
      (.ok (), { s with world := { s.world with db } }.modifyRunner runner fun r =>
        { r with transaction := none })

def commitTransaction (runner : ℕ) : Provision Unit :=
  call (some .commitTransaction) (commit runner)

def rollbackTransaction (runner : ℕ) : Provision Unit :=
  call (some .rollbackTransaction) fun s =>
    (.ok (), s.modifyRunner runner fun r => { r with transaction := none })

/-- The connection goes back to the pool; what it has not committed is rolled back. -/
def release (runner : ℕ) : Provision Unit :=
  call none fun s => (.ok (), s.modifyRunner runner fun _ => ⟨false, none, true⟩)

/-! ## The service -/

structure CreateTenantDto where
  domainName : String
  businessName : String
  adminEmail : String
  adminFirstName : String
  adminLastName : String
  adminPassword : String

def newTenant (dto : CreateTenantDto) (id : Uuid) (now : Timestamp) : Tenant :=
  { id, domainName := dto.domainName, businessName := dto.businessName, status := .active,
    createdAt := now, updatedAt := now, deletedAt := none }

def newAdmin (dto : CreateTenantDto) (tenantId : Uuid) (passwordHash : String) (id : Uuid)
    (now : Timestamp) : User :=
  { id, tenantId, email := dto.adminEmail, firstName := dto.adminFirstName,
    lastName := dto.adminLastName, passwordHash, role := .tenantAdmin, isActive := true,
    createdAt := now, updatedAt := now, deletedAt := none }

def defaultConfig : Json := .obj [("currency", .str "USD"), ("theme", .str "light")]

def newSetting (tenantId id : Uuid) (now : Timestamp) : TenantSetting :=
  { id, tenantId, config := defaultConfig, createdAt := now, updatedAt := now }

def domainTaken : Err := .badRequest "A tenant with this domain already exists."

def emailTaken : Err := .badRequest "A user with this email already exists in this tenant."

def throwIf (wrong : Bool) (error : Err) : Provision Unit :=
  if wrong then throw error else pure ()

/-- The statements of the transaction. -/
def provision (bcrypt : Bcrypt) (dto : CreateTenantDto) (runner : ℕ) : Provision Tenant := do
  let existingTenant ← findOne .findTenant runner fun t : Tenant =>
    t.domainName == dto.domainName && t.live
  throwIf existingTenant.isSome domainTaken
  let savedTenant ← save .saveTenant runner .tenant (newTenant dto)
  let existingUser ← findOne .findUser runner fun u : User =>
    u.email == dto.adminEmail && u.tenantId == savedTenant.id && u.live
  throwIf existingUser.isSome emailTaken
  let passwordHash ← hashPassword bcrypt dto.adminPassword
  let _ ← save .saveUser runner .user (newAdmin dto savedTenant.id passwordHash)
  let _ ← save .saveSetting runner .setting (newSetting savedTenant.id)
  commitTransaction runner
  pure savedTenant

/-- What the `catch` throws. -/
def reported (error : Err) : Err :=
  match error with
  | .http 400 _ => error
  | _ =>
      if isUniqueViolation error then .conflict "A record with unique identifiers already exists."
      else .internalServerError "An error occurred during tenant provisioning."

def createTenant (bcrypt : Bcrypt) (dto : CreateTenantDto) : Provision Tenant := do
  let runner ← createQueryRunner
  connect runner
  startTransaction runner
  tryFinally
    (tryCatch (provision bcrypt dto runner) fun error => do
      rollbackTransaction runner
      throw (reported error))
    (release runner)

def updateTenantStatus (tenantId : String) (newStatus : TenantStatus) : Svc Tenant := do
  match ← query (TenantService.readById tenantId) with
  | none => throw (.notFound "Tenant not found")
  | some tenant =>
      let draft : TenantService.Draft :=
        ⟨tenant, some tenant.domainName, some tenant.businessName, some newStatus⟩
      tryCatch (saving (.tenant tenant) (TenantService.saveLoaded draft)) fun _ =>
        throw (.internalServerError "Failed to update tenant status")

end TenantProvisioningService
end Tenantory
