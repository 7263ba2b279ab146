import Tenantory.TenantUserManagementService

/-! Users who sign up, look at their profile and renew their tokens. -/

namespace Tenantory

structure RegisterDto where
  email : String
  password : String
  firstName : String
  lastName : String
  role : Property UserRole

structure RefreshTokenDto where
  refreshToken : String

structure UserResponseDto where
  id : Uuid
  email : String
  firstName : String
  lastName : String
  role : UserRole
  tenantId : Uuid
  isActive : Bool
  createdAt : Timestamp
  updatedAt : Timestamp
  deriving DecidableEq

/-! ## Tokens -/

structure JwtPayload where
  sub : String
  tenantId : String
  email : String
  role : UserRole
  deriving DecidableEq

/-- The secrets of the configuration. -/
inductive JwtSecret
  | access | refresh
  deriving DecidableEq

/-- The token library: the text it signs at a time, and what it reads in a text then. -/
structure JwtService where
  signAsync : JwtSecret → JwtPayload → Timestamp → String
  verifyAsync : JwtSecret → String → Timestamp → Except Err JwtPayload

structure TokenResponse where
  user : User
  accessToken : String
  refreshToken : String
  deriving DecidableEq

/-- What the token strategy attaches to a request. -/
structure AuthenticatedUser where
  id : Uuid
  email : String
  role : UserRole
  tenantId : Uuid
  firstName : String
  lastName : String
  deriving DecidableEq

namespace AuthService

open UuidText

def findOneByEmail (tenantId email : String) : Svc (Option User) :=
  query (TenantUserManagementService.readByEmail tenantId email)

/-- `findOne` on id and tenant. -/
def readById (tenantId id : String) (w : World) : Except Err (Option User) :=
  TenantUserManagementService.readById tenantId id w

def toUserResponseDto (user : User) : UserResponseDto where
  id := user.id
  email := user.email
  firstName := user.firstName
  lastName := user.lastName
  role := user.role
  tenantId := user.tenantId
  isActive := user.isActive
  createdAt := user.createdAt
  updatedAt := user.updatedAt

def register (bcrypt : Bcrypt) (context : Option AuditContextData) (tenantId : String)
    (dto : RegisterDto) : Svc UserResponseDto := do
  let user ← findOneByEmail tenantId dto.email
  if user.isSome then throw (.badRequest "Email already exists")
  let newUser : TenantUserManagementService.NewUser :=
    { tenantId, email := dto.email, firstName := dto.firstName, lastName := dto.lastName,
      passwordHash := bcrypt.hash dto.password 10, role := dto.role.toOption.getD .customer }
  let savedUser ← statement (.insert (.user tenantId dto.email))
    (TenantUserManagementService.insert newUser)
  AuditService.record context
    { action := .create
      entityType := .user
      entityId := uuidOut savedUser.id
      oldValues := none
      newValues := some (.obj [("email", .str savedUser.email),
        ("firstName", .str savedUser.firstName), ("lastName", .str savedUser.lastName),
        ("role", savedUser.role.toJson)])
      metadata := none
      actorId := none }
  pure (toUserResponseDto savedUser)

def validateJwtPayload (payload : JwtPayload) : Svc AuthenticatedUser := do
  match ← query (readById payload.tenantId payload.sub) with
  | none => throw (.unauthorized "User not found")
  | some user => do
      if user.isActive = false then throw (.unauthorized "Account is deactivated")
      pure {
        id := user.id
        email := user.email
        role := user.role
        tenantId := user.tenantId
        firstName := user.firstName
        lastName := user.lastName }

/-- The entity that the cache or the database holds, with every column. -/
def showUserInfo (tenantId id : String) : Svc User := do
  let cacheKey := CacheKeys.user tenantId id
  match ← CacheService.get cacheKey Cached.user? with
  | some cached => pure cached
  | none =>
      match ← query (readById tenantId id) with
      | none => throw (.notFound "There is no user with this id")
      | some user => do
          CacheService.set cacheKey (.user user)
          pure user

def generateTokens (jwt : JwtService) (now : Timestamp) (user : User) : String × String :=
  let payload : JwtPayload :=
    { sub := uuidOut user.id, tenantId := uuidOut user.tenantId, email := user.email,
      role := user.role }
  (jwt.signAsync .access payload now, jwt.signAsync .refresh payload now)

def refreshToken (jwt : JwtService) (now : Timestamp) (tenantId : String)
    (dto : RefreshTokenDto) : Svc TokenResponse := do
  let payload ← ofExcept (jwt.verifyAsync .refresh dto.refreshToken now)
  match ← query (readById tenantId payload.sub) with
  | none => throw (.unauthorized "User not found")
  | some user => do
      if user.isActive = false then throw (.unauthorized "Account is deactivated")
      let tokens := generateTokens jwt now user
      pure { user, accessToken := tokens.1, refreshToken := tokens.2 }

end AuthService
end Tenantory
