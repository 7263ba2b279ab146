import Tenantory.Admission
import Tenantory.MediaService

/-! The routes of the controllers, with the guards that requests to them pass. -/

namespace Tenantory

open Svc

/-! ## Programs that write no row -/

namespace Svc

variable {α β : Type} {p : Svc α} {f : α → Svc β}

/-- The program leaves the tables as they are. -/
def ReadsOnly (p : Svc α) : Prop := ∀ w, (p.runs w).2.db = w.db

theorem readsOnly_pure (a : α) : ReadsOnly (pure a) := fun _ => rfl

theorem readsOnly_throw (e : Err) : ReadsOnly (throw e : Svc α) := fun _ => rfl

theorem readsOnly_query (read : World → Except Err α) : ReadsOnly (query read) := fun _ => rfl

theorem readsOnly_listing (read : (Uuid → ℕ) → World → Except Err α) :
    ReadsOnly (listing read) :=
  fun _ => rfl

theorem ReadsOnly.bind (reads : ReadsOnly p) (rest : ∀ a, ReadsOnly (f a)) :
    ReadsOnly (p >>= f) := by
  intro w
  rw [runs_bind]
  have first := reads w
  generalize p.runs w = out at first
  obtain ⟨answer, w'⟩ := out
  cases answer with
  | error e => exact first
  | ok a => exact (rest a w').trans first

theorem ReadsOnly.map (reads : ReadsOnly p) (g : α → β) : ReadsOnly (g <$> p) := by
  intro w
  rw [runs_map]
  exact reads w

theorem readsOnly_ite {c : Prop} [Decidable c] {p q : Svc α} (first : ReadsOnly p)
    (second : ReadsOnly q) : ReadsOnly (if c then p else q) := by
  split
  · exact first
  · exact second

end Svc

/-! ## Routes -/

inductive CrudHandler
  | findAll | findOne | create | update | remove
  deriving DecidableEq

/-- The handlers of the controllers. -/
inductive ApiRoute
  | variants (handler : CrudHandler)
  | products (handler : CrudHandler)
  | category (handler : CrudHandler)
  | findTree
  | warehouse (handler : CrudHandler)
  | tenants (handler : CrudHandler)
  | suppliers (handler : CrudHandler)
  | inventory
  | stock (op : StockOp)
  | createTenant | updateTenantStatus
  | getSettings | updateSettings | inviteUser | updateUserRole
  | me | register | login | refresh
  | findLogs | findEntityLogs
  | search
  | findFeed | getUnreadCount | markAllRead | markRead | removeNotification
  | getAsset | upload | generatePresignedUrl
  | metrics | getHello
  deriving DecidableEq

namespace ApiRoute

def guards : ApiRoute → RouteGuards
  | variants _ | products _ => ⟨false, true, true, none, some [.tenantAdmin, .catalogManager]⟩
  | category .findAll | findTree => ⟨false, false, false, none, none⟩
  | category .findOne => ⟨false, true, false, none, none⟩
  | category _ => ⟨false, true, true, some [.tenantAdmin, .catalogManager], none⟩
  | warehouse _ => ⟨false, true, true, none, some [.tenantAdmin, .warehouseManager]⟩
  | tenants _ | metrics => ⟨true, false, false, none, none⟩
  | suppliers _ | inventory | stock _ | getAsset | upload | generatePresignedUrl | getHello =>
      ⟨false, false, false, none, none⟩
  | createTenant | updateTenantStatus => ⟨false, true, true, none, some [.superAdmin]⟩
  | getSettings | updateSettings | inviteUser | updateUserRole =>
      ⟨false, true, true, none, some [.tenantAdmin]⟩
  | me => ⟨false, true, true, none, none⟩
  | register | login | refresh => ⟨true, false, false, none, none⟩
  | findLogs | findEntityLogs => ⟨false, true, true, none, some [.tenantAdmin, .auditor]⟩
  | search => ⟨false, true, true, none, some [.tenantAdmin, .catalogManager, .warehouseManager]⟩
  | findFeed | getUnreadCount | markAllRead | markRead | removeNotification =>
      ⟨false, true, false, none, none⟩

/-- The routes that the tenant middleware leaves out. -/
def excluded : ApiRoute → Bool
  | tenants _ | metrics => true
  | _ => false

/-- What a request passes before its handler runs. -/
def admission (libraries : RequestLibraries) (now : Timestamp) (headers : RequestHeaders)
    (route : ApiRoute) : Svc Caller :=
  if route.excluded then pure ⟨"", none⟩
  else guarded libraries now route.guards headers

/-- The token guard is on the handler or its class. -/
def Protected (route : ApiRoute) : Prop :=
  route.guards.isPublic = false ∧ route.guards.jwtAuthGuard = true

instance (route : ApiRoute) : Decidable route.Protected := inferInstanceAs (Decidable (_ ∧ _))

end ApiRoute

section Guards

variable {libraries : RequestLibraries} {now : Timestamp} {guards : RouteGuards}
  {headers : RequestHeaders}

theorem TenantMiddleware.use_readsOnly (isUUID : String → Bool) (header : Option String) :
    ReadsOnly (use isUUID header) := by
  unfold use TenantService.findByIdAndValidate TenantService.findById
  split
  · exact readsOnly_throw _
  · exact readsOnly_throw _
  · refine readsOnly_ite (readsOnly_throw _)
      (((readsOnly_query _).bind fun found => ?_).bind fun found => ?_)
    · cases found with
      | none => exact readsOnly_pure _
      | some tenant => exact readsOnly_ite (readsOnly_pure _) (readsOnly_pure _)
    · cases found with
      | none => exact readsOnly_throw _
      | some tenant => exact readsOnly_ite (readsOnly_pure _) (readsOnly_throw _)

theorem TenantGuard.canActivate_readsOnly (tenantId : String) :
    ReadsOnly (canActivate guards tenantId) := by
  unfold canActivate
  refine readsOnly_ite (readsOnly_pure _) (ReadsOnly.bind (readsOnly_query _) fun found => ?_)
  cases found with
  | none => exact readsOnly_throw _
  | some tenant => exact readsOnly_pure _

theorem JwtAuthGuard.canActivate_readsOnly (jwt : JwtService) (bearer : Option String)
    (tenantId : String) : ReadsOnly (canActivate jwt now guards bearer tenantId) := by
  unfold canActivate JwtStrategy.validate AuthService.validateJwtPayload
  refine readsOnly_ite (readsOnly_pure _) ?_
  split
  · refine ReadsOnly.map (readsOnly_ite (readsOnly_throw _)
      ((readsOnly_query _).bind fun found => ?_)) _
    cases found with
    | none => exact readsOnly_throw _
    | some user =>
        exact readsOnly_ite ((readsOnly_throw _).bind fun _ => readsOnly_pure _) (readsOnly_pure _)
  · exact readsOnly_throw _

theorem RoleGuard.canActivate_readsOnly (user : Option AuthenticatedUser) :
    ReadsOnly (canActivate guards user) := by
  unfold canActivate
  refine readsOnly_ite (readsOnly_pure _) ?_
  split
  · exact readsOnly_pure _
  · exact readsOnly_throw _
  · exact readsOnly_ite (readsOnly_pure _) (readsOnly_throw _)

theorem guarded_readsOnly : ReadsOnly (guarded libraries now guards headers) :=
  (TenantMiddleware.use_readsOnly _ _).bind fun tenantId =>
    (TenantGuard.canActivate_readsOnly tenantId).bind fun _ =>
      (JwtAuthGuard.canActivate_readsOnly _ _ tenantId).bind fun user =>
        (RoleGuard.canActivate_readsOnly user).bind fun _ => readsOnly_pure _

theorem ApiRoute.admission_readsOnly (route : ApiRoute) :
    ReadsOnly (route.admission libraries now headers) :=
  readsOnly_ite (readsOnly_pure _) guarded_readsOnly

theorem JwtAuthGuard.sent_of_ok {jwt : JwtService} {bearer : Option String} {tenantId : String}
    {user : Option AuthenticatedUser} {w w' : World} (guarded : guards.isPublic = false)
    (checked : guards.jwtAuthGuard = true)
    (ran : (canActivate jwt now guards bearer tenantId).runs w = (.ok user, w')) :
    ∃ token payload, bearer = some token ∧ jwt.verifyAsync .access token now = .ok payload := by
  unfold canActivate at ran
  rw [guarded, checked, Bool.not_true, Bool.or_false, if_neg Bool.false_ne_true] at ran
  cases bearer with
  | none => cases ran
  | some token =>
      cases verified : jwt.verifyAsync .access token now with
      | error e =>
          rw [Option.map_some, verified] at ran
          cases ran
      | ok payload => exact ⟨token, payload, rfl, verified⟩

namespace ApiRoute

theorem Protected.not_excluded {route : ApiRoute} (closed : route.Protected) :
    route.excluded = false := by
  cases route with
  | tenants _ | metrics => cases closed.1
  | _ => rfl

/-- Who is admitted to a protected route has sent a token for a user of the tenant, and the role
of the user is one that the route asks for. -/
theorem Protected.admits {route : ApiRoute} {caller : Caller} {w w' : World}
    (closed : route.Protected)
    (admitted : (route.admission libraries now headers).runs w = (.ok caller, w')) :
    ∃ token payload, headers.bearer = some token ∧
      libraries.jwt.verifyAsync .access token now = .ok payload ∧
      payload.tenantId = caller.tenantId ∧ ∃ user, Subject w.db payload user ∧
        caller.user = some user.authenticated ∧ Permits route.guards user.role := by
  unfold admission at admitted
  rw [closed.not_excluded, if_neg Bool.false_ne_true] at admitted
  obtain ⟨header, w₁, used, guards_run⟩ := runs_bind_eq_ok.mp admitted
  obtain ⟨rfl, -⟩ := TenantMiddleware.use_eq_ok.mp used
  obtain ⟨⟨⟩, w₂, passed, tokens_run⟩ := runs_bind_eq_ok.mp guards_run
  obtain ⟨rfl, -⟩ := (TenantGuard.canActivate_eq_ok closed.1).mp passed
  obtain ⟨user, w₃, authenticated, roles_run⟩ := runs_bind_eq_ok.mp tokens_run
  obtain ⟨token, payload, sent, verified⟩ :=
    JwtAuthGuard.sent_of_ok closed.1 closed.2 authenticated
  obtain ⟨rfl, same, row, subject, rfl⟩ :=
    (JwtAuthGuard.canActivate_eq_ok closed.1 closed.2 sent verified).mp authenticated
  obtain ⟨⟨⟩, w₄, permitted, last⟩ := runs_bind_eq_ok.mp roles_run
  obtain ⟨rfl, permits⟩ := RoleGuard.canActivate_eq_ok.mp permitted
  obtain ⟨rfl, -⟩ := runs_pure_eq_ok.mp last
  exact ⟨token, payload, sent, verified, same, row, subject, rfl, permits⟩

end ApiRoute

end Guards

end Tenantory
