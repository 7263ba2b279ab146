import Tenantory.PageLinks
import Tenantory.RequestChecks
import Tenantory.StoredRows

/-! Which requests come to a handler. -/

namespace Tenantory

open Svc UuidText

namespace Svc

variable {α β : Type} {w w' : World}

theorem runs_bind_eq_ok {p : Svc α} {f : α → Svc β} {b : β} :
    (p >>= f).runs w = (.ok b, w') ↔
      ∃ a w₁, p.runs w = (.ok a, w₁) ∧ (f a).runs w₁ = (.ok b, w') := by
  rw [runs_bind]
  constructor
  · intro h
    obtain ⟨a, first, rest⟩ := follow_eq_ok h
    exact ⟨a, _, Prod.ext first rfl, rest⟩
  · rintro ⟨a, w₁, first, rest⟩
    rw [first]
    exact rest

theorem runs_pure_eq_ok {a b : α} : (pure a : Svc α).runs w = (.ok b, w') ↔
    a = b ∧ w' = w := by
  rw [runs_pure, Prod.mk.injEq, Except.ok.injEq, eq_comm (a := w)]

theorem runs_throw_eq_ok {e : Err} {b : α} : (throw e : Svc α).runs w = (.ok b, w') ↔ False :=
  iff_of_false (by simp) id

/-- A read that goes on with what it has found. -/
theorem runs_found_eq_ok {read : World → Except Err (Option α)}
    {f : Option α → Svc β} {b : β}
    {e : Err} (missing : f none = throw e) : (query read >>= f).runs w = (.ok b, w') ↔
      ∃ a, read w = .ok (some a) ∧ (f (some a)).runs w = (.ok b, w') := by
  rw [runs_bind, runs_query]
  cases read w with
  | error e => simp
  | ok found =>
      cases found with
      | none => simp [missing]
      | some a => simp

end Svc

/-! ## The rows that the checks look for -/

theorem TenantService.readById_eq_some {id : String} {tenant : Tenant} {w : World} :
    readById id w = .ok (some tenant) ↔
      tenant ∈ w.db.tenants ∧ uuidIn id = some tenant.id ∧ tenant.deletedAt = none := by
  constructor
  · intro read
    obtain ⟨i, named, found⟩ := bind_eq_ok.mp read
    have found := Except.ok.inj found
    have fits := Table.holds_of_find? found
    simp only [Bool.and_eq_true, beq_iff_eq] at fits
    refine ⟨Table.mem_of_find? found, ?_, Option.isNone_iff_eq_none.mp fits.2⟩
    rw [fits.1]
    exact uuidParam_eq_ok.mp named
  · rintro ⟨mem, named, live⟩
    refine bind_eq_ok.mpr ⟨tenant.id, uuidParam_eq_ok.mpr named, congrArg Except.ok ?_⟩
    refine Table.find?_of_mem mem (by simp [Tenant.live, live]) fun other there fits => ?_
    simp only [Bool.and_eq_true, beq_iff_eq] at fits
    exact Entity.same_id tenant other fits.1.symm

theorem AuthService.readById_eq_some {tenantId id : String} {user : User} {w : World} :
    readById tenantId id w = .ok (some user) ↔ user ∈ w.db.users ∧
      uuidIn id = some user.id ∧ uuidIn tenantId = some user.tenantId ∧
        user.deletedAt = none := by
  constructor
  · intro read
    obtain ⟨i, named, read⟩ := bind_eq_ok.mp read
    obtain ⟨t, owned, found⟩ := bind_eq_ok.mp read
    have found := Except.ok.inj found
    have fits := Table.holds_of_find? found
    simp only [Bool.and_eq_true, beq_iff_eq] at fits
    refine ⟨Table.mem_of_find? found, ?_, ?_, Option.isNone_iff_eq_none.mp fits.2⟩
    · rw [fits.1.1]
      exact uuidParam_eq_ok.mp named
    · rw [fits.1.2]
      exact uuidParam_eq_ok.mp owned
  · rintro ⟨mem, named, owned, live⟩
    refine bind_eq_ok.mpr ⟨user.id, uuidParam_eq_ok.mpr named, bind_eq_ok.mpr
      ⟨user.tenantId, uuidParam_eq_ok.mpr owned, congrArg Except.ok ?_⟩⟩
    refine Table.find?_of_mem mem (by simp [User.live, live]) fun other there fits => ?_
    simp only [Bool.and_eq_true, beq_iff_eq] at fits
    exact Entity.same_id user other fits.1.1.symm

/-! ## The checks -/

variable {libraries : RequestLibraries} {now : Timestamp} {guards : RouteGuards} {w w' : World}

/-- The text names an active tenant. -/
def NamesTenant (db : Database) (text : String) (tenant : Tenant) : Prop :=
  tenant ∈ db.tenants ∧ uuidIn text = some tenant.id ∧ tenant.deletedAt = none ∧
    tenant.status = .active

theorem NamesTenant.read {text : String} {tenant : Tenant} (names : NamesTenant w.db text tenant) :
    TenantService.readById text w = .ok (some tenant) :=
  TenantService.readById_eq_some.mpr ⟨names.1, names.2.1, names.2.2.1⟩

theorem TenantService.findByIdAndValidate_eq_ok {id : String} {tenant : Tenant} :
    (findByIdAndValidate id).runs w = (.ok (some tenant), w') ↔
      w' = w ∧ readById id w = .ok (some tenant) ∧ tenant.status ≠ .archived := by
  unfold findByIdAndValidate findById
  rw [runs_bind, runs_query]
  cases readById id w with
  | error e => simp
  | ok found =>
      cases found with
      | none => simp
      | some other =>
          by_cases archived : other.status = .archived
          · refine iff_of_false (by simp [archived]) ?_
            rintro ⟨-, same, kept⟩
            cases same
            exact kept archived
          · simp only [follow_ok, archived, if_false, runs_pure, Prod.mk.injEq, Except.ok.injEq,
              Option.some.injEq]
            constructor
            · rintro ⟨rfl, rfl⟩
              exact ⟨rfl, rfl, archived⟩
            · rintro ⟨rfl, rfl, -⟩
              exact ⟨rfl, rfl⟩

theorem TenantMiddleware.use_eq_ok {isUUID : String → Bool} {header : Option String}
    {text : String} : (use isUUID header).runs w = (.ok text, w') ↔
      w' = w ∧ header = some text ∧ isUUID text = true ∧
        ∃ tenant, NamesTenant w.db text tenant := by
  cases header with
  | none => simp [use]
  | some sent =>
      by_cases blank : sent = ""
      · subst blank
        refine iff_of_false (by simp [use]) ?_
        rintro ⟨-, same, -, tenant, names⟩
        cases same
        cases names.2.1
      · by_cases uuid : isUUID sent = true
        · simp only [use, uuid, Bool.true_eq_false, if_false]
          rw [runs_bind_eq_ok]
          constructor
          · rintro ⟨found, w₁, ran, goes_on⟩
            cases found with
            | none => exact (runs_throw_eq_ok.mp goes_on).elim
            | some tenant =>
                obtain ⟨rfl, read, -⟩ := TenantService.findByIdAndValidate_eq_ok.mp ran
                obtain ⟨mem, named, live⟩ := TenantService.readById_eq_some.mp read
                by_cases active : tenant.status = .active
                · simp only [active, if_true] at goes_on
                  obtain ⟨rfl, rfl⟩ := runs_pure_eq_ok.mp goes_on
                  exact ⟨rfl, rfl, uuid, tenant, mem, named, live, active⟩
                · simp only [active, if_false] at goes_on
                  exact (runs_throw_eq_ok.mp goes_on).elim
          · rintro ⟨rfl, same, -, tenant, names⟩
            cases same
            have active := names.2.2.2
            refine ⟨some tenant, w', TenantService.findByIdAndValidate_eq_ok.mpr
              ⟨rfl, names.read, by simp [active]⟩, ?_⟩
            simp only [active, if_true]
            rfl
        · refine iff_of_false (by simp [use, uuid]) ?_
          rintro ⟨-, same, valid, -⟩
          cases same
          exact uuid valid

theorem TenantGuard.canActivate_eq_ok {text : String} (guarded : guards.isPublic = false) :
    (canActivate guards text).runs w = (.ok (), w') ↔ w' = w ∧ ∃ tenant ∈ w.db.tenants,
      uuidIn text = some tenant.id ∧ tenant.deletedAt = none := by
  unfold canActivate
  rw [guarded, if_neg Bool.false_ne_true, runs_found_eq_ok rfl]
  constructor
  · rintro ⟨tenant, read, goes_on⟩
    exact ⟨(runs_pure_eq_ok.mp goes_on).2, tenant, TenantService.readById_eq_some.mp read⟩
  · rintro ⟨rfl, tenant, found⟩
    exact ⟨tenant, TenantService.readById_eq_some.mpr found, rfl⟩

/-- The user that the token is for. -/
def Subject (db : Database) (payload : JwtPayload) (user : User) : Prop :=
  user ∈ db.users ∧ uuidIn payload.sub = some user.id ∧
    uuidIn payload.tenantId = some user.tenantId ∧ user.deletedAt = none ∧ user.isActive = true

def User.authenticated (user : User) : AuthenticatedUser :=
  ⟨user.id, user.email, user.role, user.tenantId, user.firstName, user.lastName⟩

theorem JwtStrategy.validate_eq_ok {text : String} {payload : JwtPayload}
    {caller : AuthenticatedUser} :
    (validate text payload).runs w = (.ok caller, w') ↔ w' = w ∧ payload.tenantId = text ∧
      ∃ user, Subject w.db payload user ∧ caller = user.authenticated := by
  unfold validate
  by_cases same : payload.tenantId = text
  · rw [if_neg (not_not.mpr same)]
    unfold AuthService.validateJwtPayload
    rw [runs_found_eq_ok rfl]
    constructor
    · rintro ⟨user, read, goes_on⟩
      obtain ⟨mem, named, owned, live⟩ := AuthService.readById_eq_some.mp read
      cases active : user.isActive with
      | false => simp [active] at goes_on
      | true =>
          simp only [active, Bool.true_eq_false, if_false] at goes_on
          obtain ⟨rfl, rfl⟩ := runs_pure_eq_ok.mp goes_on
          exact ⟨rfl, same, user, ⟨mem, named, owned, live, active⟩, rfl⟩
    · rintro ⟨rfl, -, user, ⟨mem, named, owned, live, active⟩, rfl⟩
      refine ⟨user, AuthService.readById_eq_some.mpr ⟨mem, named, owned, live⟩, ?_⟩
      simp [active, User.authenticated]
  · rw [if_pos same]
    exact iff_of_false (by simp) fun h => same h.2.1

theorem JwtAuthGuard.canActivate_eq_ok {jwt : JwtService} {bearer : Option String}
    {token text : String} {payload : JwtPayload} {caller : Option AuthenticatedUser}
    (guarded : guards.isPublic = false) (checked : guards.jwtAuthGuard = true)
    (sent : bearer = some token) (verified : jwt.verifyAsync .access token now = .ok payload) :
    (canActivate jwt now guards bearer text).runs w = (.ok caller, w') ↔ w' = w ∧
      payload.tenantId = text ∧ ∃ user, Subject w.db payload user ∧
        caller = some user.authenticated := by
  unfold canActivate
  rw [guarded, checked, sent, Bool.not_true, Bool.or_false, if_neg Bool.false_ne_true,
    Option.map_some, verified]
  change (some <$> JwtStrategy.validate text payload).runs w = _ ↔ _
  rw [map_eq_pure_bind, runs_bind_eq_ok]
  constructor
  · rintro ⟨user, w₁, ran, goes_on⟩
    obtain ⟨rfl, same, row, subject, rfl⟩ := JwtStrategy.validate_eq_ok.mp ran
    obtain ⟨rfl, rfl⟩ := runs_pure_eq_ok.mp goes_on
    exact ⟨rfl, same, row, subject, rfl⟩
  · rintro ⟨rfl, same, row, subject, rfl⟩
    exact ⟨row.authenticated, w', JwtStrategy.validate_eq_ok.mpr
      ⟨rfl, same, row, subject, rfl⟩,
      rfl⟩

/-- The user has one of the roles that are asked for, if any are. -/
def Permits (guards : RouteGuards) (role : UserRole) : Prop :=
  guards.roleGuard = true → ∀ roles, guards.requiredRoles = some roles → role ∈ roles

theorem RoleGuard.canActivate_eq_ok {user : User} :
    (canActivate guards (some user.authenticated)).runs w = (.ok (), w') ↔
      w' = w ∧ Permits guards user.role := by
  unfold canActivate Permits
  cases guards.roleGuard with
  | false => simp [eq_comm]
  | true =>
      cases guards.requiredRoles with
      | none => simp [eq_comm]
      | some roles =>
          by_cases has : user.role ∈ roles
          · simp [has, User.authenticated, eq_comm]
          · simp [has, User.authenticated]

/-! ## Admission -/

/-- The header names an active tenant, the token is for the tenant as the header spells it and
for an active user of the tenant, and the role of the user's row is one that is asked for. -/
def Admits (libraries : RequestLibraries) (guards : RouteGuards) (headers : RequestHeaders)
    (payload : JwtPayload) (db : Database) : Prop :=
  ∃ header tenant user, headers.tenantId = some header ∧ libraries.isUUID header = true ∧
    NamesTenant db header tenant ∧ payload.tenantId = header ∧ user ∈ db.users ∧
    uuidIn payload.sub = some user.id ∧ user.tenantId = tenant.id ∧ user.deletedAt = none ∧
    user.isActive = true ∧ Permits guards user.role

theorem guarded_iff {headers : RequestHeaders} {token : String} {payload : JwtPayload}
    (guarded : guards.isPublic = false) (checked : guards.jwtAuthGuard = true)
    (sent : headers.bearer = some token)
    (verified : libraries.jwt.verifyAsync .access token now = .ok payload) :
    (∃ caller w', (Tenantory.guarded libraries now guards headers).runs w = (.ok caller, w')) ↔
      Admits libraries guards headers payload w.db := by
  unfold Tenantory.guarded
  constructor
  · rintro ⟨caller, w', ran⟩
    obtain ⟨header, w₁, used, guards_run⟩ := runs_bind_eq_ok.mp ran
    obtain ⟨rfl, header_sent, uuid, tenant, names⟩ := TenantMiddleware.use_eq_ok.mp used
    obtain ⟨⟨⟩, w₂, passed, tokens_run⟩ := runs_bind_eq_ok.mp guards_run
    obtain ⟨rfl, -⟩ := (TenantGuard.canActivate_eq_ok guarded).mp passed
    obtain ⟨user, w₃, authenticated, roles_run⟩ := runs_bind_eq_ok.mp tokens_run
    obtain ⟨rfl, same, row, subject, rfl⟩ :=
      (JwtAuthGuard.canActivate_eq_ok guarded checked sent verified).mp authenticated
    obtain ⟨⟨⟩, w₄, permitted, -⟩ := runs_bind_eq_ok.mp roles_run
    obtain ⟨rfl, permits⟩ := RoleGuard.canActivate_eq_ok.mp permitted
    obtain ⟨mem, named, owned, live, active⟩ := subject
    rw [same, names.2.1] at owned
    exact ⟨header, tenant, row, header_sent, uuid, names, same, mem, named,
      (Option.some.inj owned).symm, live, active, permits⟩
  · rintro ⟨header, tenant, row, header_sent, uuid, names, same, mem, named,
      member, live, active,
      permits⟩
    have owned : uuidIn payload.tenantId = some row.tenantId := by
      rw [same, names.2.1, member]
    refine ⟨⟨header, some row.authenticated⟩, w, ?_⟩
    refine runs_bind_eq_ok.mpr ⟨header, w, TenantMiddleware.use_eq_ok.mpr
      ⟨rfl, header_sent, uuid, tenant, names⟩, ?_⟩
    refine runs_bind_eq_ok.mpr ⟨(), w, (TenantGuard.canActivate_eq_ok guarded).mpr
      ⟨rfl, tenant, names.1, names.2.1, names.2.2.1⟩, ?_⟩
    refine runs_bind_eq_ok.mpr ⟨some row.authenticated, w,
      (JwtAuthGuard.canActivate_eq_ok guarded checked sent verified).mpr
        ⟨rfl, same, row, ⟨mem, named, owned, live, active⟩, rfl⟩, ?_⟩
    exact runs_bind_eq_ok.mpr ⟨(), w, RoleGuard.canActivate_eq_ok.mpr ⟨rfl, permits⟩, rfl⟩

/-- The handler of a route that the token guard protects runs if and only if the request is
admitted and the pipes accept its arguments. -/
theorem handler_runs_iff {α : Type} {headers : RequestHeaders} {token : String}
    {payload : JwtPayload} {args : Except Err α} (guarded : guards.isPublic = false)
    (checked : guards.jwtAuthGuard = true) (sent : headers.bearer = some token)
    (verified : libraries.jwt.verifyAsync .access token now = .ok payload) :
    (∃ call, ((handled libraries now guards headers args).runs w).1 = .ok call) ↔
      Admits libraries guards headers payload w.db ∧ ∃ a, args = .ok a := by
  rw [← guarded_iff guarded checked sent verified]
  constructor
  · rintro ⟨call, ran⟩
    obtain ⟨caller, w₁, admitted, pipes⟩ := runs_bind_eq_ok.mp (Prod.ext ran rfl)
    refine ⟨⟨caller, w₁, admitted⟩, ?_⟩
    cases args with
    | ok a => exact ⟨a, rfl⟩
    | error e => cases pipes
  · rintro ⟨⟨caller, w₁, admitted⟩, a, rfl⟩
    refine ⟨(caller, a), ?_⟩
    unfold handled
    rw [runs_bind, admitted]
    rfl

namespace SampleShop

def admin : User :=
  ⟨0xad, tenantId, "ada@acme.com", "Ada", "Min", "hash", .tenantAdmin, true, 0, 0, none⟩

def administered : Database := { unstocked with users := one admin }

def adminPayload : JwtPayload := ⟨uuidOut 0xad, uuidOut tenantId, "ada@acme.com", .tenantAdmin⟩

/-- One token is valid, the administrator's. -/
def adminLibraries : RequestLibraries where
  jwt := ⟨fun _ _ _ => "token", fun _ text _ =>
    if text = "token" then .ok adminPayload else .error (.unauthorized "jwt malformed")⟩
  isUUID text := (uuidIn text).isSome

def adminHeaders : RequestHeaders := ⟨some (uuidOut tenantId), some "token", none, none, none⟩

def productGuards : RouteGuards :=
  ⟨false, true, true, none, some [.tenantAdmin, .catalogManager]⟩

theorem admin_admitted :
    Admits adminLibraries productGuards adminHeaders adminPayload administered :=
  ⟨uuidOut tenantId, tenant, admin, rfl, by decide,
    ⟨List.mem_singleton.mpr rfl, by decide, rfl, rfl⟩,
    rfl, List.mem_singleton.mpr rfl, by decide, rfl, rfl, rfl, by
      intro _ roles asked
      cases asked
      decide⟩

/-- The query `page=0` of the product list. -/
def pageZero : Except Err ProductQueryDto :=
  (ProductQueryDto.ofQuery plainWeb [("page", "0")]).elim
    (.error (.badRequest "page must not be less than 1")) .ok

end SampleShop

open SampleShop

theorem handler_runs_iff_admin : ∃ call,
    ((handled adminLibraries 1 productGuards adminHeaders (.ok ())).runs (world administered)).1 =
      .ok call :=
  (handler_runs_iff rfl rfl rfl rfl).mpr ⟨admin_admitted, (), rfl⟩

/-- The administrator is admitted to the product list, and does not get to it for page 0. -/
theorem admitted_not_run :
    adminLibraries.jwt.verifyAsync .access "token" 1 = .ok adminPayload ∧
      Admits adminLibraries productGuards adminHeaders adminPayload (world administered).db ∧
      ¬ ∃ call, ((handled adminLibraries 1 productGuards adminHeaders pageZero).runs
        (world administered)).1 = .ok call := by
  have refused : pageZero = .error (.badRequest "page must not be less than 1") := rfl
  refine ⟨rfl, admin_admitted, fun ⟨call, ran⟩ => ?_⟩
  rw [refused] at ran
  obtain ⟨caller, w₁, -, pipes⟩ := runs_bind_eq_ok.mp (Prod.ext ran rfl)
  cases pipes

end Tenantory
