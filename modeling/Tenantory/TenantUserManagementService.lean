import Tenantory.AuditService
import Tenantory.CacheService
import Tenantory.TableStatements

/-! The users of a tenant, as its administrators manage them. -/

namespace Tenantory

structure InviteUserDto where
  email : String
  firstName : String
  lastName : String
  role : UserRole
  password : String

structure UpdateUserRoleDto where
  role : UserRole

namespace UserRole

def text : UserRole → String
  | superAdmin => "super_admin"
  | tenantAdmin => "tenant_admin"
  | auditor => "auditor"
  | catalogManager => "catalog_manager"
  | warehouseManager => "warehouse_manager"
  | customer => "customer"

def toJson (role : UserRole) : Json := .str role.text

end UserRole

/-- The hash function of bcryptjs; the salt that a call draws is left out. -/
structure Bcrypt where
  hash : String → ℕ → String
  length_hash : ∀ password rounds, (hash password rounds).length = 60

def User.live (row : User) : Bool := row.deletedAt.isNone

namespace TenantUserManagementService

open UuidText

/-! ## Statements -/

def readByEmail (tenantId email : String) (w : World) : Except Err (Option User) := do
  let tenant ← uuidParam tenantId
  pure (w.db.users.find? fun u => u.email == email && u.tenantId == tenant && u.live)

def readById (tenantId id : String) (w : World) : Except Err (Option User) := do
  let id ← uuidParam id
  let tenant ← uuidParam tenantId
  pure (w.db.users.find? fun u => u.id == id && u.tenantId == tenant && u.live)

/-- The columns of a user object that has no row yet. -/
structure NewUser where
  tenantId : String
  email : String
  firstName : String
  lastName : String
  passwordHash : String
  role : UserRole

def insert (user : NewUser) (w : World) : Except Err (User × World) := do
  let tenant ← uuidParam user.tenantId
  w.insert fun id now =>
    { id, tenantId := tenant, email := user.email, firstName := user.firstName,
      lastName := user.lastName, passwordHash := user.passwordHash, role := user.role,
      isActive := true, createdAt := now, updatedAt := now, deletedAt := none : User }

/-- The row with the columns of the entity in it. -/
def overwrite (entity : User) (now : Timestamp) (row : User) : User :=
  if entity = row then row
  else if entity.updatedAt = row.updatedAt then { entity with updatedAt := now }
  else entity

/-- UPDATE of the columns in which `written` differs from the loaded row. -/
def merge (written loaded row : User) : User where
  id := column written.id loaded.id row.id
  tenantId := column written.tenantId loaded.tenantId row.tenantId
  email := column written.email loaded.email row.email
  firstName := column written.firstName loaded.firstName row.firstName
  lastName := column written.lastName loaded.lastName row.lastName
  passwordHash := column written.passwordHash loaded.passwordHash row.passwordHash
  role := column written.role loaded.role row.role
  isActive := column written.isActive loaded.isActive row.isActive
  createdAt := column written.createdAt loaded.createdAt row.createdAt
  updatedAt := column written.updatedAt loaded.updatedAt row.updatedAt
  deletedAt := column written.deletedAt loaded.deletedAt row.deletedAt

@[simp] theorem merge_self (written row : User) : merge written row row = written := by
  simp [merge]

/-- What `save` writes for an entity, given what it has loaded; an entity without a
stored row is inserted. -/
def saveLoaded (entity : User) (loaded : Database) (w : World) : Except Err (User × World) := do
  match loaded.rowById User entity.id with
  | none =>
      let db ← w.db.insertRow entity
      pure (entity, { w with db })
  | some stored =>
      let row := overwrite entity w.clock stored
      let w ← w.update entity.id (merge row stored)
      pure (row, w)

/-! ## The service -/

def userTaken : Err := .conflict "A user with this unique identifier already exists"

def inviteFailed : Err := .internalServerError "An error occurred during user invitation"

def inviteUser (bcrypt : Bcrypt) (context : Option AuditContextData) (tenantId : String)
    (dto : InviteUserDto) : Svc User := do
  let existingUser ← query (readByEmail tenantId dto.email)
  if existingUser.isSome then
    throw (.badRequest "User with this email already exists in this tenant")
  if dto.role = .superAdmin then throw (.badRequest "Cannot invite a user as Super Admin")
  let newUser : NewUser :=
    { tenantId, email := dto.email, firstName := dto.firstName, lastName := dto.lastName,
      passwordHash := bcrypt.hash dto.password 12, role := dto.role }
  tryCatch
    (do
      let saved ← statement (.insert (.user tenantId dto.email)) (insert newUser)
      AuditService.record context
        { action := .create
          entityType := .user
          entityId := uuidOut saved.id
          oldValues := none
          newValues := some (.obj [("email", .str saved.email), ("firstName", .str saved.firstName),
            ("lastName", .str saved.lastName), ("role", saved.role.toJson)])
          metadata := none
          actorId := none }
      pure saved)
    fun err => if isUniqueViolation err then throw userTaken else throw inviteFailed

def updateUserRole (context : Option AuditContextData) (tenantId userId : String)
    (dto : UpdateUserRoleDto) : Svc User := do
  match ← query (readById tenantId userId) with
  | none => throw (.notFound "User not found in this tenant")
  | some user => do
      if user.role = .superAdmin ∨ dto.role = .superAdmin then
        throw (.badRequest "Cannot assign or modify Super Admin role")
      tryCatch
        (do
          let edited := { user with role := dto.role }
          let saved ← saving (.user edited) (saveLoaded edited)
          AuditService.record context
            { action := .update
              entityType := .user
              entityId := uuidOut saved.id
              oldValues := some (.obj [("role", user.role.toJson)])
              newValues := some (.obj [("role", saved.role.toJson)])
              metadata := none
              actorId := none }
          CacheService.del (CacheKeys.user tenantId userId)
          pure saved)
        fun _ => throw (.internalServerError "Failed to update user role")

end TenantUserManagementService
end Tenantory
