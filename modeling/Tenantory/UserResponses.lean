import Tenantory.BlindServices

/-! What the routes for users answer with, over runs of requests, and which of the answers
a password hash is part of. -/

namespace Tenantory

open Prog Svc UuidText

/-! ## Requests -/

inductive AccountCall
  | register (dto : RegisterDto)
  | me
  | refresh (dto : RefreshTokenDto)
  | inviteUser (dto : InviteUserDto)
  | updateUserRole (userId : String) (dto : UpdateUserRoleDto)
  | findLogs (query : AuditQueryDto)
  | findEntityLogs (entityId : String) (query : AuditQueryDto)

def AccountCall.route : AccountCall → ApiRoute
  | register _ => .register
  | me => .me
  | refresh _ => .refresh
  | inviteUser _ => .inviteUser
  | updateUserRole _ _ => .updateUserRole
  | findLogs _ => .findLogs
  | findEntityLogs _ _ => .findEntityLogs

structure AccountRequest where
  now : Timestamp
  headers : RequestHeaders
  call : AccountCall
  /-- what the pipes refuse the parameters, the query or the body with -/
  refusal : Option Err

/-- The body of an answer. -/
inductive AccountBody
  | registered (user : UserResponseDto)
  | me (user : User)
  | refreshed (tokens : TokenResponse)
  | invited (message : String) (userId : Uuid)
  | roleUpdated (message : String) (userId : Uuid) (role : UserRole)
  | logs (page : PaginatedResponse AuditLogReadModel)

/-- The bodies differ in no more than the hash of a user. -/
inductive AccountBody.Alike : AccountBody → AccountBody → Prop
  | same (body : AccountBody) : Alike body body
  | me {user other : User} : user.Alike other → Alike (.me user) (.me other)
  | refreshed {tokens other : TokenResponse} : AuthService.TokensAlike tokens other →
      Alike (.refreshed tokens) (.refreshed other)

/-- What the handlers are run with. -/
structure AccountLibraries extends RequestLibraries where
  bcrypt : Bcrypt
  platform : Platform

namespace AccountRequest

/-- The handlers of the controllers. -/
def handle (libraries : AccountLibraries) (auditLogs : Table Audit) (request : AccountRequest)
    (caller : Caller) : Svc AccountBody :=
  let context := caller.auditContext request.headers
  let tenantId := caller.tenantId
  match request.call with
  | .register dto => .registered <$> AuthService.register libraries.bcrypt context tenantId dto
  | .me =>
      match caller.user with
      | none => throw (.other "Cannot read properties of undefined (reading 'id')")
      | some user => .me <$> AuthService.showUserInfo tenantId (uuidOut user.id)
  | .refresh dto => .refreshed <$> AuthService.refreshToken libraries.jwt request.now tenantId dto
  | .inviteUser dto => do
      let user ← TenantUserManagementService.inviteUser libraries.bcrypt context tenantId dto
      pure (.invited "User invited successfully" user.id)
  | .updateUserRole userId dto => do
      let user ← TenantUserManagementService.updateUserRole context tenantId userId dto
      pure (.roleUpdated "User role updated successfully" user.id user.role)
  | .findLogs query => .logs <$> AuditService.findLogs libraries.platform auditLogs tenantId query
  | .findEntityLogs entityId query =>
      .logs <$> AuditService.findEntityLogs libraries.platform auditLogs tenantId entityId query

/-- The guards, the pipes and the handler. -/
def answer (libraries : AccountLibraries) (auditLogs : Table Audit) (request : AccountRequest) :
    Svc AccountBody := do
  let caller ← request.call.route.admission libraries.toRequestLibraries request.now
    request.headers
  match request.refusal with
  | some e => throw e
  | none => request.handle libraries auditLogs caller

/-- A request is answered, and the listener stores what it has emitted. -/
def serve (libraries : AccountLibraries) (request : AccountRequest) (s : AuditState) :
    Except Err AccountBody × AuditState :=
  let w := { s.world with clock := request.now }
  let out := (request.answer libraries s.auditLogs).runs w
  (out.1, AuditListener.onEvents (out.2.journal.drop w.journal.length) { s with world := out.2 })

/-- The answers to requests that are sent one after the other. -/
def responses (libraries : AccountLibraries) :
    List AccountRequest → AuditState → List (Except Err AccountBody)
  | [], _ => []
  | request :: requests, s =>
      (request.serve libraries s).1 :: responses libraries requests (request.serve libraries s).2

end AccountRequest

/-! ## The audit log -/

structure AuditState.Alike (s t : AuditState) : Prop where
  world : s.world.Alike t.world
  auditLogs : t.auditLogs = s.auditLogs

theorem AuditListener.references_alike {db : Database} {users : Table User}
    (alike : UsersAlike db.users users) (row : Audit) :
    references { db with users } row = references db row := by
  unfold references
  have named (actor : Uuid) : users.rows.any (·.id == actor) =
    db.users.rows.any (·.id == actor) :=
    (alike.any fun _ _ => rfl).symm
  simp only [named, hasTenant]

theorem AuditListener.addAudit_alike (payload : AuditEvent) {s t : AuditState} (alike : s.Alike t) :
    (addAudit payload s).Alike (addAudit payload t) := by
  obtain ⟨w, logs⟩ := s
  obtain ⟨v, logs'⟩ := t
  obtain ⟨world, same⟩ := alike
  dsimp only at world same
  subst same
  cases world with
  | intro users entries =>
      unfold addAudit
      dsimp only
      cases row payload (w.ids 0) w.clock with
      | error e => exact ⟨.intro users entries, rfl⟩
      | ok row =>
          dsimp only
          cases logs'.insert? row with
          | none => exact ⟨.intro users entries, rfl⟩
          | some stored =>
              dsimp only
              rw [references_alike users]
              split
              · exact ⟨.intro users entries, rfl⟩
              · exact ⟨.intro users entries, rfl⟩

theorem AuditListener.onEvents_alike (events : List Event) {s t : AuditState} (alike : s.Alike t) :
    (onEvents events s).Alike (onEvents events t) := by
  induction events generalizing s t with
  | nil => exact alike
  | cons event events ih =>
      refine ih ?_
      cases event with
      | auditLog payload => exact addAudit_alike payload alike
      | committed tx => exact alike
      | stockMovement event => exact alike

theorem AuditService.readLogs_alike (platform : Platform) (auditLogs : Table Audit)
    (tenantId : String) (query : AuditQueryDto) (entityId : Option String) (basePath : String)
    {w v : World} (alike : w.Alike v) :
    readLogs platform auditLogs tenantId query entityId basePath w =
      readLogs platform auditLogs tenantId query entityId basePath v := by
  cases alike with
  | @intro users _ rows _ =>
      have actors : actorOf { w.db with users } = actorOf w.db := by
        funext log
        unfold actorOf
        cases log.actorId with
        | none => rfl
        | some actor =>
            have found := rows.find? (p := fun u => u.id == actor && u.deletedAt.isNone)
              fun _ _ => rfl
            dsimp only [Option.bind_some]
            generalize w.db.users.find? _ = a at found
            generalize users.find? _ = b at found
            cases found with
            | none => rfl
            | some related =>
                obtain ⟨hash, rfl⟩ := related
                rfl
      unfold readLogs
      rw [actors]

/-! ## Runs -/

/-- The routes that answer with a user as it is stored. -/
def ApiRoute.showing : List ApiRoute := [.me, .refresh]

namespace AccountRequest

variable (libraries : AccountLibraries) {s t : AuditState}

/-- What the bodies of two answers to a request have in common. -/
def Agree (request : AccountRequest) (body other : AccountBody) : Prop :=
  body.Alike other ∧ (request.call.route ∉ ApiRoute.showing → body = other)

theorem agree_same (request : AccountRequest) (body : AccountBody) : request.Agree body body :=
  ⟨.same body, fun _ => rfl⟩

theorem handle_blind (auditLogs : Table Audit) (request : AccountRequest) (caller : Caller) :
    HashBlind request.Agree (request.handle libraries auditLogs caller)
      (request.handle libraries auditLogs caller) := by
  unfold handle
  cases called : request.call with
  | register dto =>
      refine HashBlind.map (AuthService.register_blind _ _ _ _) fun a b same => ?_
      subst same
      exact agree_same _ _
  | me =>
      dsimp only
      cases caller.user with
      | none => exact blind_throw _
      | some user =>
          refine HashBlind.map (AuthService.showUserInfo_blind _ _) fun a b alike => ?_
          exact ⟨.me alike, fun hidden => absurd (by rw [called]; decide) hidden⟩
  | refresh dto =>
      refine HashBlind.map (AuthService.refreshToken_blind _ _ _ _) fun a b alike => ?_
      refine ⟨.refreshed alike, fun hidden => absurd ?_ hidden⟩
      rw [called]
      exact .tail _ (.head _)
  | inviteUser dto =>
      refine HashBlind.bind (TenantUserManagementService.inviteUser_blind _ _ _ _)
        fun a b same => ?_
      subst same
      exact blind_pure (agree_same _ _)
  | updateUserRole userId dto =>
      refine HashBlind.bind (TenantUserManagementService.updateUserRole_blind _ _ _ _)
        fun a b alike => ?_
      obtain ⟨hash, rfl⟩ := alike
      exact blind_pure (agree_same _ _)
  | findLogs query =>
      refine HashBlind.map (blind_same_query fun _ _ alike =>
        AuditService.readLogs_alike _ _ _ _ _ _ alike) fun a b same => ?_
      subst same
      exact agree_same _ _
  | findEntityLogs entityId query =>
      refine HashBlind.map (blind_same_query fun _ _ alike =>
        AuditService.readLogs_alike _ _ _ _ _ _ alike) fun a b same => ?_
      subst same
      exact agree_same _ _

theorem answer_blind (auditLogs : Table Audit) (request : AccountRequest) :
    HashBlind request.Agree (request.answer libraries auditLogs)
      (request.answer libraries auditLogs) := by
  refine HashBlind.bind (ApiRoute.admission_blind _ _ _ _) fun caller other same => ?_
  subst same
  cases request.refusal with
  | some e => exact blind_throw e
  | none => exact handle_blind libraries auditLogs request caller

theorem serve_alike (alike : s.Alike t) (request : AccountRequest) :
    Paired request.Agree (request.serve libraries s).1 (request.serve libraries t).1 ∧
      (request.serve libraries s).2.Alike (request.serve libraries t).2 := by
  obtain ⟨w, logs⟩ := s
  obtain ⟨v, logs'⟩ := t
  obtain ⟨world, same⟩ := alike
  dsimp only at world same
  subst same
  have arrived : World.Alike { w with clock := request.now } { v with clock := request.now } := by
    cases world with
    | intro users entries => exact .intro users entries
  have old : v.journal = w.journal := by
    cases world
    rfl
  obtain ⟨answers, after⟩ := (answer_blind libraries logs' request).runs arrived
  have journal : ((request.answer libraries logs').runs { v with clock := request.now }).2.journal =
      ((request.answer libraries logs').runs { w with clock := request.now }).2.journal := by
    generalize ((request.answer libraries logs').runs { v with clock := request.now }).2 = v'
      at after
    cases after
    rfl
  have events : ((request.answer libraries logs').runs
        { v with clock := request.now }).2.journal.drop v.journal.length =
      ((request.answer libraries logs').runs
        { w with clock := request.now }).2.journal.drop w.journal.length := by
    rw [journal, old]
  refine ⟨answers, ?_⟩
  unfold serve
  dsimp only
  rw [events]
  exact AuditListener.onEvents_alike _ ⟨after, rfl⟩

theorem responses_alike (alike : s.Alike t) (requests : List AccountRequest) :
    List.Forall₂ (Paired AccountBody.Alike) (responses libraries requests s)
      (responses libraries requests t) := by
  induction requests generalizing s t with
  | nil => exact .nil
  | cons request requests ih =>
      obtain ⟨answers, after⟩ := serve_alike libraries alike request
      exact .cons (answers.mono fun _ _ agree => agree.1) (ih after)

theorem responses_same (alike : s.Alike t) (requests : List AccountRequest)
    (hidden : ∀ request ∈ requests, request.call.route ∉ ApiRoute.showing) :
    responses libraries requests s = responses libraries requests t := by
  induction requests generalizing s t with
  | nil => rfl
  | cons request requests ih =>
      obtain ⟨answers, after⟩ := serve_alike libraries alike request
      have first : (request.serve libraries s).1 = (request.serve libraries t).1 :=
        paired_eq_iff.mp (answers.mono fun _ _ agree => agree.2 (hidden _ List.mem_cons_self))
      unfold responses
      rw [first, ih after fun r mem => hidden r (List.mem_cons_of_mem _ mem)]

end AccountRequest

namespace SampleShop

def rehashedAdmin : User := { admin with passwordHash := "other" }

def auditedShop (user : User) : AuditState :=
  ⟨world { administered with users := one user }, ⟨[], .nil⟩⟩

theorem auditedShop_alike : (auditedShop admin).Alike (auditedShop rehashedAdmin) := by
  refine ⟨.intro ⟨.cons ⟨"other", rfl⟩ .nil, fun user mem => ?_, fun user mem => ?_⟩ .nil,
    rfl⟩
  · obtain rfl : user = admin := List.mem_singleton.mp mem
    decide
  · obtain rfl : user = rehashedAdmin := List.mem_singleton.mp mem
    decide

def accountLibraries : AccountLibraries :=
  { adminLibraries with bcrypt := hashing, platform := .ascii }

def profileRequest : AccountRequest := ⟨1, adminHeaders, .me, none⟩

def refreshRequest : AccountRequest := ⟨1, adminHeaders, .refresh ⟨"token"⟩, none⟩

theorem profile_shown :
    AccountRequest.responses accountLibraries [profileRequest] (auditedShop admin) ≠
      AccountRequest.responses accountLibraries [profileRequest] (auditedShop rehashedAdmin) := by
  intro same
  have shown : ([.ok (.me admin)] : List (Except Err AccountBody)) = [.ok (.me rehashedAdmin)] :=
    same
  injection shown with first
  injection first with first
  injection first with user
  exact absurd (congrArg User.passwordHash user) (by decide)

theorem refresh_shown :
    AccountRequest.responses accountLibraries [refreshRequest] (auditedShop admin) ≠
      AccountRequest.responses accountLibraries [refreshRequest] (auditedShop rehashedAdmin) := by
  intro same
  have shown : ([.ok (.refreshed ⟨admin, "token", "token"⟩)] : List (Except Err AccountBody)) =
    [.ok (.refreshed ⟨rehashedAdmin, "token", "token"⟩)] := same
  injection shown with first
  injection first with first
  injection first with tokens
  exact absurd (congrArg (fun tokens => tokens.user.passwordHash) tokens) (by decide)

end SampleShop

open SampleShop

/-- The profile and the renewal of a token show the hash of a user, and no other answer of
these routes depends on a hash; whatever the requests, the answers differ in no more. -/
theorem hashes_stay_hidden (route : ApiRoute) :
    ((∀ (libraries : AccountLibraries) (s t : AuditState), s.Alike t →
      ∀ requests : List AccountRequest, (∀ request ∈ requests, request.call.route = route) →
        AccountRequest.responses libraries requests s =
          AccountRequest.responses libraries requests t) ↔ route ∉ ApiRoute.showing) ∧
    ∀ (libraries : AccountLibraries) (s t : AuditState), s.Alike t →
      ∀ requests : List AccountRequest,
        List.Forall₂ (Paired AccountBody.Alike) (AccountRequest.responses libraries requests s)
          (AccountRequest.responses libraries requests t) ∧
        ((∀ request ∈ requests, request.call.route ∉ ApiRoute.showing) →
          AccountRequest.responses libraries requests s =
            AccountRequest.responses libraries requests t) := by
  refine ⟨⟨fun same shows => ?_, fun hidden libraries s t alike requests there => ?_⟩,
    fun libraries s t alike requests => ⟨AccountRequest.responses_alike libraries alike requests,
      AccountRequest.responses_same libraries alike requests⟩⟩
  · rcases List.mem_cons.mp shows with rfl | shows
    · exact profile_shown (same _ _ _ auditedShop_alike _ fun request mem => by
        rw [List.mem_singleton.mp mem]
        rfl)
    · obtain rfl := List.mem_singleton.mp shows
      exact refresh_shown (same _ _ _ auditedShop_alike _ fun request mem => by
        rw [List.mem_singleton.mp mem]
        rfl)
  · exact AccountRequest.responses_same libraries alike requests
      fun request mem => there request mem ▸ hidden

/-- The profile of an administrator, in states with two hashes. -/
theorem profile_shows_hash : ¬ ∀ (libraries : AccountLibraries) (s t : AuditState), s.Alike t →
    ∀ requests : List AccountRequest, AccountRequest.responses libraries requests s =
      AccountRequest.responses libraries requests t :=
  fun same => profile_shown (same _ _ _ auditedShop_alike _)

end Tenantory
