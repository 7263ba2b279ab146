import Tenantory.AuthService
import Tenantory.TenantService

/-! What a request passes before its handler runs: the tenant middleware, the tenant
guard, the token guard with its strategy and the role guard. -/

namespace Tenantory

structure RequestHeaders where
  /-- `x-tenant-id`; a header that is sent twice arrives as one text -/
  tenantId : Option String
  /-- the token of the `Authorization` header -/
  bearer : Option String
  requestId : Option String
  ipAddress : Option String
  userAgent : Option String

/-- The metadata and the guards of a handler. -/
structure RouteGuards where
  isPublic : Bool
  jwtAuthGuard : Bool
  roleGuard : Bool
  handlerRoles : Option (List UserRole)
  classRoles : Option (List UserRole)

/-- The metadata of the handler comes before that of its class. -/
def RouteGuards.requiredRoles (guards : RouteGuards) : Option (List UserRole) :=
  guards.handlerRoles <|> guards.classRoles

/-- What the checks use of the libraries. -/
structure RequestLibraries where
  jwt : JwtService
  isUUID : String → Bool

def TenantStatus.text : TenantStatus → String
  | pending => "pending"
  | active => "active"
  | suspended => "suspended"
  | archived => "archived"

/-- The tenant id that the middleware attaches to the request, as it was sent. -/
def TenantMiddleware.use (isUUID : String → Bool) (header : Option String) : Svc String :=
  match header with
  | none | some "" => throw (.badRequest "Missing X-Tenant-ID header")
  | some tenantId =>
      if isUUID tenantId = false then throw (.badRequest "Invalid tenant ID format")
      else do
        match ← TenantService.findByIdAndValidate tenantId with
        | none => throw (.notFound "Tenant not found or is archived")
        | some tenant =>
            if tenant.status = .active then pure tenantId
            else throw (.forbidden s!"Tenant is currently {tenant.status.text}. Access denied.")

def TenantGuard.canActivate (guards : RouteGuards) (tenantId : String) : Svc Unit :=
  if guards.isPublic then pure ()
  else do
    match ← query (TenantService.readById tenantId) with
    | none => throw (.forbidden "Tenant not found or has been removed")
    | some _ => pure ()

def JwtStrategy.validate (tenantId : String) (payload : JwtPayload) : Svc AuthenticatedUser :=
  if payload.tenantId ≠ tenantId then
    throw (.forbidden "Token does not belong to the specified tenant")
  else AuthService.validateJwtPayload payload

/-- The user that the guard attaches to the request. -/
def JwtAuthGuard.canActivate (jwt : JwtService) (now : Timestamp) (guards : RouteGuards)
    (bearer : Option String) (tenantId : String) : Svc (Option AuthenticatedUser) :=
  if guards.isPublic || !guards.jwtAuthGuard then pure none
  else
    match bearer.map (jwt.verifyAsync .access · now) with
    | some (.ok payload) => some <$> JwtStrategy.validate tenantId payload
    | _ => throw (.unauthorized "Unauthorized")

def RoleGuard.canActivate (guards : RouteGuards) (user : Option AuthenticatedUser) : Svc Unit :=
  if !guards.roleGuard then pure ()
  else
    match guards.requiredRoles, user with
    | none, _ => pure ()
    | some _, none => throw (.unauthorized "User not authenticated")
    | some roles, some user =>
        if roles.contains user.role then pure ()
        else throw (.forbidden "Insufficient role permissions")

/-- What the checks attach to a request. -/
structure Caller where
  tenantId : String
  user : Option AuthenticatedUser

def guarded (libraries : RequestLibraries) (now : Timestamp) (guards : RouteGuards)
    (headers : RequestHeaders) : Svc Caller := do
  let tenantId ← TenantMiddleware.use libraries.isUUID headers.tenantId
  TenantGuard.canActivate guards tenantId
  let user ← JwtAuthGuard.canActivate libraries.jwt now guards headers.bearer tenantId
  RoleGuard.canActivate guards user
  pure { tenantId, user }

/-- The caller and the arguments that the handler runs with; `args` is what the pipes make
of the parameters, the query and the body. -/
def handled {α : Type} (libraries : RequestLibraries) (now : Timestamp) (guards : RouteGuards)
    (headers : RequestHeaders) (args : Except Err α) : Svc (Caller × α) := do
  let caller ← guarded libraries now guards headers
  let args ← ofExcept args
  pure (caller, args)

/-- What the audit interceptor stores. -/
def Caller.auditContext (caller : Caller) (headers : RequestHeaders) : AuditContextData where
  tenantId := some caller.tenantId
  actorId := caller.user.map fun user => UuidText.uuidOut user.id
  requestId := headers.requestId
  ipAddress := headers.ipAddress
  userAgent := headers.userAgent

end Tenantory
