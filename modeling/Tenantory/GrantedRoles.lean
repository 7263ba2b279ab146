import Tenantory.ApiRoutes
import Tenantory.TenancyRuns

/-! The roles of the users, over runs of requests: who is given one, and by whom. -/

namespace Tenantory

open Svc Stored UuidText

/-! ## Requests -/

/-- A call of a handler that can set a role, or of another one. -/
inductive UserCall
  | register (dto : RegisterDto)
  | inviteUser (dto : InviteUserDto)
  | updateUserRole (userId : String) (dto : UpdateUserRoleDto)
  | createTenant (dto : TenantProvisioningService.CreateTenantDto)
  | other (route : ApiRoute)

namespace UserCall

def route : UserCall → ApiRoute
  | register _ => .register
  | inviteUser _ => .inviteUser
  | updateUserRole _ _ => .updateUserRole
  | createTenant _ => .createTenant
  | other route => route

/-- The states that a handler may leave. The other handlers write no user. -/
def Ends (bcrypt : Bcrypt) (context : Option AuditContextData) (tenantId : String)
    (s s' : DataSource) : UserCall → Prop
  | register dto => s.Serves (AuthService.register bcrypt context tenantId dto) s'
  | inviteUser dto =>
      s.Serves (TenantUserManagementService.inviteUser bcrypt context tenantId dto) s'
  | updateUserRole userId dto =>
      s.Serves (TenantUserManagementService.updateUserRole context tenantId userId dto) s'
  | createTenant dto => ∃ fails, s' = (TenantProvisioningService.outcome bcrypt dto fails s).2
  | other _ => s'.world.db.users = s.world.db.users

end UserCall

structure UserRequest where
  now : Timestamp
  headers : RequestHeaders
  call : UserCall

namespace UserRequest

/-- The states that a request may leave, whether it comes to its handler or not. -/
def Ends (libraries : RequestLibraries) (bcrypt : Bcrypt) (request : UserRequest)
    (s s' : DataSource) : Prop :=
  let admission := (request.call.route.admission libraries request.now request.headers).runs s.world
  (∃ e w, admission = (.error e, w) ∧ s' = { s with world := w }) ∨
    ∃ caller w, admission = (.ok caller, w) ∧
      request.call.Ends bcrypt (caller.auditContext request.headers) caller.tenantId
        { s with world := w } s'

/-- An administrator of the tenant has sent the request. -/
def SentByAdmin (libraries : RequestLibraries) (request : UserRequest) (db : Database)
    (tenant : Uuid) : Prop :=
  ∃ token payload admin, request.headers.bearer = some token ∧
    libraries.jwt.verifyAsync .access token request.now = .ok payload ∧
    Subject db payload admin ∧ admin.role = .tenantAdmin ∧ admin.tenantId = tenant

/-- The token that is sent, if any, is for none of the super administrators of the state. -/
def Unprivileged (libraries : RequestLibraries) (start : DataSource) (request : UserRequest) :
    Prop :=
  ∀ token payload, request.headers.bearer = some token →
    libraries.jwt.verifyAsync .access token request.now = .ok payload →
    ∀ user ∈ start.world.db.users, user.role = .superAdmin →
      uuidIn payload.sub ≠ some user.id

/-- Nobody registers with another role than that of a customer. -/
def RegistersCustomer (request : UserRequest) : Prop :=
  ∀ dto, request.call = .register dto → dto.role.toOption.getD .customer = .customer

end UserRequest

/-- A request of a run, with the states before and after it. -/
structure UserStep where
  request : UserRequest
  before : DataSource
  after : DataSource

/-- The user has the role after this request and not before; an administrator of the tenant has
sent it, or it provisions a tenant. -/
def UserStep.Grants (libraries : RequestLibraries) (step : UserStep) (user : User) : Prop :=
  (∀ old ∈ step.before.world.db.users, old.id = user.id → old.role ≠ user.role) ∧
  ∃ row ∈ step.after.world.db.users, row.id = user.id ∧ row.role = user.role ∧
    ((∃ dto, step.request.call = .createTenant dto) ∨
      step.request.SentByAdmin libraries step.before.world.db row.tenantId)

/-- The requests of a run, the last one first, and the state it has come to. -/
inductive UserTrace (libraries : RequestLibraries) (bcrypt : Bcrypt)
    (meets : UserRequest → Prop) (start : DataSource) : List UserStep → DataSource → Prop
  | start : UserTrace libraries bcrypt meets start [] start
  | serve {s s' : DataSource} {steps : List UserStep} (request : UserRequest) :
      UserTrace libraries bcrypt meets start steps s → meets request →
      request.Ends libraries bcrypt (s.arrive request.now) s' →
      UserTrace libraries bcrypt meets start (⟨request, s, s'⟩ :: steps) s'

/-! ## What the handlers make of the roles -/

/-- Each user has the role of before, or is as the condition says. -/
def Database.RolesBy (db db' : Database) (P : User → Prop) : Prop :=
  ∀ user ∈ db'.users,
    (∃ old ∈ db.users, old.id = user.id ∧ old.role = user.role) ∨ P user

namespace Database.RolesBy

variable {db db' : Database} {P Q : User → Prop}

theorem of_users (same : db'.users = db.users) : db.RolesBy db' P := fun user mem =>
  .inl ⟨user, same ▸ mem, rfl, rfl⟩

theorem refl : db.RolesBy db P := of_users rfl

theorem mono (h : db.RolesBy db' P) (imp : ∀ user, P user → Q user) : db.RolesBy db' Q :=
  fun user mem => (h user mem).imp id (imp user)

theorem of_insert {t : Table User} {row : User} (rows : t.rows = db.users.rows ++ [row])
    (same : db' = { db with users := t }) (new : P row) : db.RolesBy db' P := by
  subst same
  intro user mem
  have mem : user ∈ db.users.rows ++ [row] := rows ▸ mem
  rcases List.mem_append.mp mem with old | new_row
  · exact .inl ⟨user, old, rfl, rfl⟩
  · rw [List.mem_singleton] at new_row
    subst new_row
    exact .inr new

theorem of_update {t : Table User} {row written : User} (rows : t.rows = db.users.rows.map fun r =>
    if r.id = row.id then written else r) (same : db' = { db with users := t }) (new : P written) :
    db.RolesBy db' P := by
  subst same
  intro user mem
  have mem : user ∈ db.users.rows.map fun r => if r.id = row.id then written else r :=
    rows ▸ mem
  obtain ⟨r, old, rfl⟩ := List.mem_map.mp mem
  by_cases named : r.id = row.id
  · rw [if_pos named]
    exact .inr new
  · rw [if_neg named]
    exact .inl ⟨r, old, rfl, rfl⟩

end Database.RolesBy

section Handlers

variable {bcrypt : Bcrypt} {context : Option AuditContextData} {tenantId : String} {w w' : World}

theorem AuthService.register_roles {dto : RegisterDto} {answer : Except Err UserResponseDto}
    (ends : Svc.Ends (register bcrypt context tenantId dto) w answer w') :
    w.db.RolesBy w'.db fun user => user.role = dto.role.toOption.getD .customer := by
  have unchanged : w.db.RolesBy w.db fun user => user.role = dto.role.toOption.getD .customer :=
    .refl
  suffices h : (register bcrypt context tenantId dto).run.wp Svc.callFault (fun _ v =>
      w.db.RolesBy v.db fun user => user.role = dto.role.toOption.getD .customer) w from
    ends.meets h
  refine Prog.wp_run_bind (Svc.wp_query ?_ fun _ => unchanged)
  cases TenantUserManagementService.readByEmail tenantId dto.email w with
  | error e => exact unchanged
  | ok existing =>
      refine Svc.wp_ite (fun _ => unchanged) fun _ => Prog.wp_run_bind (Svc.wp_statement ?_ ?_)
      · intro row w₁ inserted
        have changed : w.db.RolesBy w₁.db
            fun user => user.role = dto.role.toOption.getD .customer := by
          obtain ⟨tenant, -, inserted⟩ := bind_eq_ok.mp inserted
          obtain ⟨built, -, -, t, rows, rfl⟩ := World.insert_ok inserted
          exact .of_insert rows rfl (by rw [built])
        exact Prog.wp_run_bind (Svc.wp_record (fun e h => h) (fun event _ => changed)
          fun e => changed)
      · exact fun _ => unchanged

/-- The role is not that of a super administrator, and the user is one of the tenant. -/
def OfTenant (tenantId : String) (user : User) : Prop :=
  user.role ≠ .superAdmin ∧ uuidIn tenantId = some user.tenantId

theorem TenantUserManagementService.inviteUser_roles {dto : InviteUserDto}
    {answer : Except Err User}
    (ends : Svc.Ends (inviteUser bcrypt context tenantId dto) w answer w') :
    w.db.RolesBy w'.db (OfTenant tenantId) := by
  have unchanged : w.db.RolesBy w.db (OfTenant tenantId) := .refl
  suffices h : (inviteUser bcrypt context tenantId dto).run.wp Svc.callFault (fun _ v =>
      w.db.RolesBy v.db (OfTenant tenantId)) w from ends.meets h
  refine Prog.wp_run_bind (Svc.wp_query ?_ fun _ => unchanged)
  cases readByEmail tenantId dto.email w with
  | error e => exact unchanged
  | ok existing =>
      refine Svc.wp_ite (fun _ => unchanged) fun _ => Svc.wp_ite (fun _ => unchanged)
        fun allowed => Prog.wp_run_tryCatch (Prog.wp_run_bind (Svc.wp_statement ?_ ?_))
      · intro row w₁ inserted
        have changed : w.db.RolesBy w₁.db (OfTenant tenantId) := by
          obtain ⟨tenant, owner, inserted⟩ := bind_eq_ok.mp inserted
          obtain ⟨built, -, -, t, rows, rfl⟩ := World.insert_ok inserted
          refine .of_insert rows rfl ?_
          rw [built]
          exact ⟨allowed, uuidParam_eq_ok.mp owner⟩
        refine Prog.wp_run_bind (Svc.wp_record (fun e h => h) (fun event _ => changed) fun e => ?_)
        exact Svc.wp_ite (fun _ => changed) fun _ => changed
      · intro e
        exact Svc.wp_ite (fun _ => unchanged) fun _ => unchanged

theorem TenantUserManagementService.updateUserRole_roles {userId : String}
    {dto : UpdateUserRoleDto} {answer : Except Err User}
    (ends : Svc.Ends (updateUserRole context tenantId userId dto) w answer w') :
    w.db.RolesBy w'.db (OfTenant tenantId) := by
  have unchanged : w.db.RolesBy w.db (OfTenant tenantId) := .refl
  suffices h : (updateUserRole context tenantId userId dto).run.wp Svc.callFault (fun _ v =>
      w.db.RolesBy v.db (OfTenant tenantId)) w from ends.meets h
  refine Prog.wp_run_bind (Svc.wp_query ?_ fun _ => unchanged)
  cases read : readById tenantId userId w with
  | error e => exact unchanged
  | ok found =>
      cases found with
      | none => exact unchanged
      | some row =>
          obtain ⟨mem, -, owner, -⟩ := readById_ok read
          refine Svc.wp_ite (fun _ => unchanged) fun allowed =>
            Prog.wp_run_tryCatch (Prog.wp_run_bind (Svc.wp_saving ?_ fun _ => unchanged))
          intro saved w₁ h
          have changed : w.db.RolesBy w₁.db (OfTenant tenantId) := by
            have same_id : ({ row with role := dto.role } : User).id = row.id := rfl
            obtain ⟨stamp, t, rows, same⟩ := saveLoaded_ok mem same_id h
            exact .of_update rows same ⟨fun super => allowed (.inr super), owner⟩
          refine Prog.wp_run_bind (Svc.wp_record (fun e h => h) (fun event _ => ?_)
            fun e => changed)
          exact Prog.wp_run_bind (Svc.wp_del changed changed)

end Handlers

/-! ## One request -/

section Step

variable {libraries : RequestLibraries} {bcrypt : Bcrypt} {request : UserRequest}
  {s s' : DataSource}

theorem UserRequest.sentByAdmin {caller : Caller} {w : World}
    (route : request.call.route.guards = ApiRoute.inviteUser.guards)
    (admitted : (request.call.route.admission libraries request.now request.headers).runs s.world =
      (.ok caller, w)) {tenant : Uuid} (owner : uuidIn caller.tenantId = some tenant) :
    request.SentByAdmin libraries s.world.db tenant := by
  have closed : request.call.route.Protected := by
    unfold ApiRoute.Protected
    rw [route]
    exact ⟨rfl, rfl⟩
  obtain ⟨token, payload, sent, verified, same, admin, subject, -, permits⟩ :=
    closed.admits admitted
  rw [route] at permits
  have role := permits rfl _ rfl
  have member := subject.2.2.1
  rw [same, owner] at member
  exact ⟨token, payload, admin, sent, verified, subject, List.mem_singleton.mp role,
    (Option.some.inj member).symm⟩

/-- The roles that a request may set. -/
theorem UserRequest.Ends.roles (ends : request.Ends libraries bcrypt s s')
    (customer : request.RegistersCustomer) (unprivileged : request.Unprivileged libraries s) :
    s.world.db.RolesBy s'.world.db fun user => user.role = .customer ∨
      user.role ≠ .superAdmin ∧ request.SentByAdmin libraries s.world.db user.tenantId := by
  have checked : ((request.call.route.admission libraries request.now request.headers).runs
      s.world).2.db = s.world.db := ApiRoute.admission_readsOnly _ _
  rcases ends with ⟨e, w, refused, rfl⟩ | ⟨caller, w, admitted, handled⟩
  · rw [refused] at checked
    exact .of_users (congrArg Database.users checked)
  · rw [admitted] at checked
    dsimp only at checked
    rcases called : request.call with dto | dto | ⟨userId, dto⟩ | dto | route
    · rw [called] at handled
      obtain ⟨answer, w', ends, rfl⟩ := handled
      have roles := AuthService.register_roles ends
      rw [checked] at roles
      exact roles.mono fun user role => .inl (role.trans (customer dto called))
    · rw [called] at handled
      obtain ⟨answer, w', ends, rfl⟩ := handled
      have roles := TenantUserManagementService.inviteUser_roles ends
      rw [checked] at roles
      exact roles.mono fun user new =>
        .inr ⟨new.1, sentByAdmin (by rw [called]; rfl) admitted new.2⟩
    · rw [called] at handled
      obtain ⟨answer, w', ends, rfl⟩ := handled
      have roles := TenantUserManagementService.updateUserRole_roles ends
      rw [checked] at roles
      exact roles.mono fun user new =>
        .inr ⟨new.1, sentByAdmin (by rw [called]; rfl) admitted new.2⟩
    · rw [called] at admitted
      have closed : (UserCall.createTenant dto).route.Protected := ⟨rfl, rfl⟩
      obtain ⟨token, payload, sent, verified, -, user, subject, -, permits⟩ :=
        closed.admits admitted
      have role := List.mem_singleton.mp (permits rfl _ rfl)
      exact absurd subject.2.1 (unprivileged token payload sent verified user subject.1 role)
    · rw [called] at handled
      exact .of_users (Eq.trans handled (congrArg Database.users checked))

end Step

/-! ## Runs -/

section Trace

variable {libraries : RequestLibraries} {bcrypt : Bcrypt} {start s : DataSource}
  {steps : List UserStep}

/-- Every user with the role of a super administrator had it at the start, and every other role
but that of a customer was there at the start or is one that a step grants. -/
structure RolesGranted (libraries : RequestLibraries) (start : DataSource) (steps : List UserStep)
    (s : DataSource) : Prop where
  superAdmins : ∀ user ∈ s.world.db.users, user.role = .superAdmin →
    ∃ old ∈ start.world.db.users, old.id = user.id ∧ old.role = .superAdmin
  granted : ∀ user ∈ s.world.db.users, user.role ≠ .customer →
    (∃ old ∈ start.world.db.users, old.id = user.id ∧ old.role = user.role) ∨
      ∃ step ∈ steps, step.Grants libraries user

theorem UserStep.Grants.congr {step : UserStep} {user other : User}
    (grants : step.Grants libraries user) (same : user.id = other.id)
    (role : user.role = other.role) : step.Grants libraries other := by
  obtain ⟨unheld, row, mem, named, shown, how⟩ := grants
  refine ⟨fun old there own => ?_, row, mem, named.trans same, shown.trans role, how⟩
  rw [← role]
  exact unheld old there (own.trans same.symm)

theorem RolesGranted.serve {request : UserRequest} {s' : DataSource}
    (before : RolesGranted libraries start steps s) (customer : request.RegistersCustomer)
    (unprivileged : request.Unprivileged libraries start)
    (ends : request.Ends libraries bcrypt (s.arrive request.now) s') :
    RolesGranted libraries start (⟨request, s, s'⟩ :: steps) s' := by
  have unprivileged : request.Unprivileged libraries (s.arrive request.now) := by
    intro token payload sent verified user mem super named
    obtain ⟨old, there, same, role⟩ := before.superAdmins user mem super
    exact unprivileged token payload sent verified old there role (same ▸ named)
  have roles := ends.roles customer unprivileged
  constructor
  · intro user mem super
    rcases roles user mem with ⟨old, there, same, role⟩ | customer | ⟨other, -⟩
    · obtain ⟨first, at_start, same', role'⟩ := before.superAdmins old there (role.trans super)
      exact ⟨first, at_start, same'.trans same, role'⟩
    · rw [super] at customer
      cases customer
    · exact absurd super other
  · intro user mem other
    by_cases held : ∃ old ∈ s.world.db.users, old.id = user.id ∧ old.role = user.role
    · obtain ⟨old, there, same, role⟩ := held
      rcases before.granted old there (role ▸ other) with
        ⟨first, at_start, same', role'⟩ | ⟨step, earlier, grants⟩
      · exact .inl ⟨first, at_start, same'.trans same, role'.trans role⟩
      · exact .inr ⟨step, List.mem_cons_of_mem _ earlier, grants.congr same role⟩
    · rcases roles user mem with was | customer | ⟨-, sent⟩
      · exact absurd was held
      · exact absurd customer other
      · have unheld : ∀ old ∈ s.world.db.users, old.id = user.id → old.role ≠ user.role :=
          fun old there same role => held ⟨old, there, same, role⟩
        exact .inr ⟨_, List.mem_cons_self, unheld, user, mem, rfl, rfl, .inr sent⟩

/-- Roles are only granted by administrators of the tenant and to no super administrators, in
every run in which no super administrator sends a request and nobody registers with a role. -/
theorem roles_are_granted (trace : UserTrace libraries bcrypt (fun request =>
      request.Unprivileged libraries start ∧ request.RegistersCustomer) start steps s) :
    RolesGranted libraries start steps s := by
  induction trace with
  | start => exact ⟨fun user mem super => ⟨user, mem, rfl, super⟩,
      fun user mem _ => .inl ⟨user, mem, rfl, rfl⟩⟩
  | serve request _ meets ends ih => exact ih.serve meets.2 meets.1 ends

end Trace

namespace SampleShop

def managed : DataSource := ⟨world administered, []⟩

def intruder : RegisterDto :=
  ⟨"eve@acme.com", "correct horse", "Eve", "Poe", .value .superAdmin⟩

/-- A client that is not signed in asks for the role of a super administrator. -/
def registering : UserRequest :=
  ⟨2, { adminHeaders with bearer := none }, .register intruder⟩

def customer : RegisterDto := ⟨"lin@acme.com", "correct horse", "Lin", "Ode", .undefined⟩

def joining : UserRequest := ⟨2, { adminHeaders with bearer := none }, .register customer⟩

def invitation : InviteUserDto :=
  ⟨"kai@acme.com", "Kai", "Ito", .catalogManager, "correct horse"⟩

def inviting : UserRequest := ⟨3, adminHeaders, .inviteUser invitation⟩

/-- The administrator gives the customer a role. -/
def promoting : UserRequest :=
  ⟨4, adminHeaders, .updateUserRole (uuidOut 1000) ⟨.warehouseManager⟩⟩

def adminCaller : Caller := ⟨uuidOut tenantId, some admin.authenticated⟩

def guest : Caller := ⟨uuidOut tenantId, none⟩

/-- What the handler of a request leaves that serves this caller. -/
def leftBy {α : Type} (s : DataSource) (request : UserRequest)
    (handler : Option AuditContextData → String → Svc α) (caller : Caller) : DataSource :=
  { s.arrive request.now with
    world := ((handler (caller.auditContext request.headers) caller.tenantId).run.run
      (s.arrive request.now).world).2 }

def registered : DataSource :=
  leftBy managed registering (fun context id => AuthService.register hashing context id intruder)
    guest

def joined : DataSource :=
  leftBy managed joining (fun context id => AuthService.register hashing context id customer) guest

def invited : DataSource :=
  leftBy joined inviting (fun context id =>
    TenantUserManagementService.inviteUser hashing context id invitation) adminCaller

def promoted : DataSource :=
  leftBy invited promoting (fun context id => TenantUserManagementService.updateUserRole context id
    (uuidOut 1000) ⟨.warehouseManager⟩) adminCaller

theorem managed_unprivileged (request : UserRequest) :
    request.Unprivileged adminLibraries managed := by
  intro token payload sent verified user mem super
  obtain rfl : user = admin := List.mem_singleton.mp mem
  cases super

theorem registering_trace : UserTrace adminLibraries hashing
    (UserRequest.Unprivileged adminLibraries managed) managed
    [⟨registering, managed, registered⟩] registered :=
  .serve registering .start (managed_unprivileged _)
    (.inr ⟨guest, (managed.arrive 2).world, rfl, _, _, Svc.ends_runs _ _, rfl⟩)

/-- A customer registers, somebody is invited, and the customer gets a role. -/
def promotion : List UserStep :=
  [⟨promoting, invited, promoted⟩, ⟨inviting, joined, invited⟩,
    ⟨joining, managed, joined⟩]

theorem promotion_trace : UserTrace adminLibraries hashing (fun request =>
    request.Unprivileged adminLibraries managed ∧ request.RegistersCustomer) managed
    promotion promoted := by
  refine .serve promoting (.serve inviting (.serve joining .start
    ⟨managed_unprivileged _, fun dto called => ?_⟩ ?_)
    ⟨managed_unprivileged _, fun dto called => by cases called⟩ ?_)
    ⟨managed_unprivileged _, fun dto called => by cases called⟩ ?_
  · cases called
    rfl
  · exact .inr ⟨guest, (managed.arrive 2).world, rfl, _, _, Svc.ends_runs _ _, rfl⟩
  · exact .inr ⟨adminCaller, (joined.arrive 3).world, rfl, _, _, Svc.ends_runs _ _, rfl⟩
  · exact .inr ⟨adminCaller, (invited.arrive 4).world, rfl, _, _, Svc.ends_runs _ _, rfl⟩

end SampleShop

open SampleShop

theorem roles_are_granted_invited :
    promoted.world.db.users.rows.map User.role =
      [.tenantAdmin, .warehouseManager, .catalogManager] ∧
    RolesGranted adminLibraries managed promotion promoted :=
  ⟨by decide +kernel, roles_are_granted promotion_trace⟩

/-- Without a token, and where there is no super administrator, one registers. -/
theorem super_admin_registered : ¬ ∀ (libraries : RequestLibraries) (bcrypt : Bcrypt)
    (start s : DataSource) (steps : List UserStep),
    UserTrace libraries bcrypt (UserRequest.Unprivileged libraries start) start steps s →
      RolesGranted libraries start steps s := by
  intro granted
  have roles := (granted _ _ _ _ _ registering_trace).superAdmins
  have two : registered.world.db.users.rows.map User.role = [.tenantAdmin, .superAdmin] := by rfl
  have super : UserRole.superAdmin ∈ registered.world.db.users.rows.map User.role := by
    rw [two]
    decide
  obtain ⟨user, mem, role⟩ := List.mem_map.mp super
  obtain ⟨old, there, -, promoted⟩ := roles user mem role
  obtain rfl : old = admin := List.mem_singleton.mp there
  cases promoted

end Tenantory
