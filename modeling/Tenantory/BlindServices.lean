import Tenantory.ApiRoutes
import Tenantory.PasswordHashes
import Tenantory.TenancyRuns

/-! The services for users and the checks of a request, from states that differ in nothing
but password hashes. -/

namespace Tenantory

open Prog Svc UuidText

/-! ## Services -/

section Reads

variable {w v : World}

theorem TenantUserManagementService.readByEmail_alike (tenantId email : String)
    (alike : w.Alike v) :
    Paired (Option.Rel User.Alike) (readByEmail tenantId email w)
      (readByEmail tenantId email v) := by
  unfold readByEmail
  cases alike with
  | intro users =>
      cases uuidParam tenantId with
      | error e => exact .error e
      | ok tenant => exact .ok (users.find? fun _ _ => rfl)

theorem TenantUserManagementService.readById_alike (tenantId id : String) (alike : w.Alike v) :
    Paired (Option.Rel User.Alike) (readById tenantId id w) (readById tenantId id v) := by
  unfold readById
  cases alike with
  | intro users =>
      cases uuidParam id with
      | error e => exact .error e
      | ok id =>
          cases uuidParam tenantId with
          | error e => exact .error e
          | ok tenant => exact .ok (users.find? fun _ _ => rfl)

theorem TenantService.readById_alike (id : String) (alike : w.Alike v) :
    readById id w = readById id v := by
  cases alike with
  | intro => rfl

end Reads

theorem blind_same_query {α : Type} {read : World → Except Err α}
    (same : ∀ w v, w.Alike v → read w = read v) : HashBlind Eq (query read) (query read) :=
  blind_query fun w v alike => paired_eq_iff.mpr (same w v alike)

/-- A user that is stored by an INSERT is the same one in both states. -/
theorem TenantUserManagementService.insert_blind (label : Label) (user : NewUser) :
    HashBlind Eq (statement label (insert user)) (statement label (insert user)) := by
  refine blind_statement fun w v alike => ?_
  unfold insert
  cases uuidParam user.tenantId with
  | error e => exact .error e
  | ok tenant =>
      dsimp only [Bind.bind, Except.bind]
      exact World.insert_alike alike _

namespace AuthService

theorem register_blind (bcrypt : Bcrypt) (context : Option AuditContextData) (tenantId : String)
    (dto : RegisterDto) :
    HashBlind Eq (register bcrypt context tenantId dto) (register bcrypt context tenantId dto) := by
  refine HashBlind.bind (blind_query fun _ _ alike =>
    TenantUserManagementService.readByEmail_alike tenantId dto.email alike) fun a b found => ?_
  have same : a.isSome = true ↔ b.isSome = true := by
    cases found <;> simp
  refine blind_ite same (blind_throw _) ?_
  refine HashBlind.bind (TenantUserManagementService.insert_blind _ _) fun saved other same => ?_
  subst same
  exact HashBlind.bind (blind_record _ _) fun _ _ _ => blind_pure rfl

theorem showUserInfo_blind (tenantId id : String) :
    HashBlind User.Alike (showUserInfo tenantId id) (showUserInfo tenantId id) := by
  refine HashBlind.bind (R := Option.Rel User.Alike) (blind_get fun a b alike => ?_)
    fun a b found => ?_
  · cases alike with
    | user related => exact .some related
    | same =>
        cases a.user? with
        | none => exact .none
        | some user => exact .some (.refl user)
  · cases found with
    | some related => exact blind_pure related
    | none =>
        refine HashBlind.bind (blind_query fun _ _ alike =>
          TenantUserManagementService.readById_alike tenantId id alike) fun a b found => ?_
        cases found with
        | none => exact blind_throw _
        | some related =>
            exact HashBlind.bind (blind_set _ (.user related)) fun _ _ _ => blind_pure related

/-- The tokens are the same, and the user is another one only in the hash. -/
def TokensAlike (response other : TokenResponse) : Prop :=
  response.user.Alike other.user ∧ response.accessToken = other.accessToken ∧
    response.refreshToken = other.refreshToken

theorem refreshToken_blind (jwt : JwtService) (now : Timestamp) (tenantId : String)
    (dto : RefreshTokenDto) :
    HashBlind TokensAlike (refreshToken jwt now tenantId dto)
      (refreshToken jwt now tenantId dto) := by
  refine HashBlind.bind (R := Eq) ?_ fun payload other same => ?_
  · cases jwt.verifyAsync .refresh dto.refreshToken now with
    | error e => exact blind_throw e
    | ok payload => exact blind_pure rfl
  · subst same
    refine HashBlind.bind (blind_query fun _ _ alike =>
      TenantUserManagementService.readById_alike tenantId payload.sub alike) fun a b found => ?_
    cases found with
    | none => exact blind_throw _
    | some related =>
        obtain ⟨hash, rfl⟩ := related
        exact blind_ite Iff.rfl (blind_throw _) (blind_pure ⟨⟨hash, rfl⟩, rfl, rfl⟩)

theorem validateJwtPayload_blind (payload : JwtPayload) :
    HashBlind Eq (validateJwtPayload payload) (validateJwtPayload payload) := by
  refine HashBlind.bind (blind_query fun _ _ alike =>
    TenantUserManagementService.readById_alike payload.tenantId payload.sub alike)
    fun a b found => ?_
  cases found with
  | none => exact blind_throw _
  | some related =>
      obtain ⟨hash, rfl⟩ := related
      exact blind_ite Iff.rfl (blind_throw _) (blind_pure rfl)

end AuthService

namespace TenantUserManagementService

theorem inviteUser_blind (bcrypt : Bcrypt) (context : Option AuditContextData)
    (tenantId : String) (dto : InviteUserDto) :
    HashBlind Eq (inviteUser bcrypt context tenantId dto)
      (inviteUser bcrypt context tenantId dto) := by
  refine HashBlind.bind (blind_query fun _ _ alike => readByEmail_alike tenantId dto.email alike)
    fun a b found => ?_
  have same : a.isSome = true ↔ b.isSome = true := by
    cases found <;> simp
  refine blind_ite same (blind_throw _) (blind_ite Iff.rfl (blind_throw _) ?_)
  refine HashBlind.tryCatch ?_ fun e => blind_ite Iff.rfl (blind_throw _) (blind_throw _)
  refine HashBlind.bind (insert_blind _ _) fun saved other same => ?_
  subst same
  exact HashBlind.bind (blind_record _ _) fun _ _ _ => blind_pure rfl

section Saving

variable {user other : User}

/-- The saved object has the hash of the stored row. -/
theorem overwrite_role (user : User) (role : UserRole) (now : Timestamp) :
    overwrite { user with role } now user =
      if user.role = role then user else { user with role, updatedAt := now } := by
  unfold overwrite
  by_cases same : user.role = role
  · rw [if_pos same, if_pos (by rw [← same])]
  · rw [if_neg same, if_neg fun h => same (congrArg User.role h).symm, if_pos rfl]

theorem overwrite_alike (related : user.Alike other) (role : UserRole) (now : Timestamp) :
    (overwrite { user with role } now user).Alike (overwrite { other with role } now other) := by
  obtain ⟨hash, rfl⟩ := related
  rw [overwrite_role, overwrite_role]
  dsimp only
  split
  · exact ⟨hash, rfl⟩
  · exact ⟨hash, rfl⟩

theorem merge_alike {a b c a' b' c' : User} (first : a.Alike a') (second : b.Alike b')
    (third : c.Alike c') : (merge a b c).Alike (merge a' b' c') := by
  obtain ⟨_, rfl⟩ := first
  obtain ⟨_, rfl⟩ := second
  obtain ⟨_, rfl⟩ := third
  exact ⟨_, rfl⟩

theorem merge_fits {t : Table User} (mem : user ∈ t)
    (fit : ∀ row ∈ t, Stored.fits 255 row.passwordHash = true) (role : UserRole)
    (now : Timestamp) : ∀ row ∈ t, row.id = user.id → Stored.fits 255
      (merge (overwrite { user with role } now user) user row).passwordHash = true := by
  intro row there same
  obtain rfl := Table.eq_of_id there mem same
  rw [merge_self, overwrite_role]
  split
  · exact fit row there
  · exact fit row there

theorem saveLoaded_alike {w v : World} (alike : w.Alike v) (related : user.Alike other)
    (mem : user ∈ w.db.users) (mem' : other ∈ v.db.users) (role : UserRole) :
    Paired (fun a b => a.1.Alike b.1 ∧ a.2.Alike b.2) (saveLoaded { user with role } w.db w)
      (saveLoaded { other with role } v.db v) := by
  obtain ⟨hash, rfl⟩ := related
  have related : user.Alike { user with passwordHash := hash } := ⟨hash, rfl⟩
  have found : w.db.rowById User user.id = some user := Database.rowById_of_mem mem
  have found' : v.db.rowById User user.id = some { user with passwordHash := hash } :=
    Database.rowById_of_mem mem'
  have clocks : v.clock = w.clock := by
    cases alike
    rfl
  have written := overwrite_alike related role w.clock
  unfold saveLoaded
  dsimp only
  rw [found, found', clocks]
  exact paired_bind (World.update_alike alike user.id
    (fun _ _ row => merge_alike written related row) (merge_fits mem alike.fit role w.clock)
    (merge_fits mem' alike.fit' role w.clock)) fun _ _ alike => .ok ⟨written, alike⟩

end Saving

theorem updateUserRole_blind (context : Option AuditContextData) (tenantId userId : String)
    (dto : UpdateUserRoleDto) : HashBlind User.Alike (updateUserRole context tenantId userId dto)
      (updateUserRole context tenantId userId dto) := by
  intro w v alike
  change Paired _ ((updateUserRole context tenantId userId dto).runs w).1
      ((updateUserRole context tenantId userId dto).runs v).1 ∧
    ((updateUserRole context tenantId userId dto).runs w).2.Alike
      ((updateUserRole context tenantId userId dto).runs v).2
  have found := readById_alike tenantId userId alike
  unfold updateUserRole
  rw [runs_bind, runs_bind, runs_query, runs_query]
  generalize read : readById tenantId userId w = a at found
  generalize read' : readById tenantId userId v = b at found
  cases found with
  | error e => exact ⟨.error e, alike⟩
  | ok found =>
      cases found with
      | none => exact ⟨.error _, alike⟩
      | @some user other related =>
          have mem := (readById_ok read).1
          have mem' := (readById_ok read').1
          have saved := saveLoaded_alike alike related mem mem' dto.role
          obtain ⟨hash, rfl⟩ := related
          rw [follow_ok, follow_ok]
          dsimp only
          by_cases refused : user.role = .superAdmin ∨ dto.role = .superAdmin
          · rw [if_pos refused, if_pos refused]
            exact ⟨.error _, alike⟩
          · rw [if_neg refused, if_neg refused, runs_tryCatch, runs_tryCatch, runs_bind, runs_bind,
              runs_saving, runs_saving]
            dsimp only at saved
            generalize saveLoaded _ w.db w = r at saved
            generalize saveLoaded _ v.db v = r' at saved
            cases saved with
            | error e => exact ⟨.error _, alike⟩
            | @ok written written' related =>
                obtain ⟨row, w₁⟩ := written
                obtain ⟨row', v₁⟩ := written'
                obtain ⟨⟨hash', rfl⟩, after⟩ := related
                rw [settle_ok, settle_ok, follow_ok, follow_ok, ← runs_tryCatch,
                  ← runs_tryCatch]
                refine HashBlind.runs (HashBlind.tryCatch ?_ fun e => blind_throw _) after
                exact HashBlind.bind (blind_record _ _) fun _ _ _ =>
                  HashBlind.bind (blind_del _) fun _ _ _ => blind_pure ⟨hash', rfl⟩

end TenantUserManagementService

/-! ## Guards -/

theorem TenantService.findByIdAndValidate_blind (id : String) :
    HashBlind Eq (findByIdAndValidate id) (findByIdAndValidate id) := by
  refine HashBlind.bind (blind_same_query fun _ _ alike => readById_alike id alike)
    fun found other same => ?_
  subst same
  cases found with
  | none => exact blind_pure rfl
  | some tenant => exact blind_ite Iff.rfl (blind_pure rfl) (blind_pure rfl)

theorem TenantMiddleware.use_blind (isUUID : String → Bool) (header : Option String) :
    HashBlind Eq (use isUUID header) (use isUUID header) := by
  unfold use
  split
  · exact blind_throw _
  · exact blind_throw _
  · refine blind_ite Iff.rfl (blind_throw _) ?_
    refine HashBlind.bind (TenantService.findByIdAndValidate_blind _) fun found other same => ?_
    subst same
    cases found with
    | none => exact blind_throw _
    | some tenant => exact blind_ite Iff.rfl (blind_pure rfl) (blind_throw _)

theorem TenantGuard.canActivate_blind (guards : RouteGuards) (tenantId : String) :
    HashBlind Eq (canActivate guards tenantId) (canActivate guards tenantId) := by
  refine blind_ite Iff.rfl (blind_pure rfl) ?_
  refine HashBlind.bind (blind_same_query fun _ _ alike =>
    TenantService.readById_alike tenantId alike) fun found other same => ?_
  subst same
  cases found with
  | none => exact blind_throw _
  | some tenant => exact blind_pure rfl

theorem JwtAuthGuard.canActivate_blind (jwt : JwtService) (now : Timestamp) (guards : RouteGuards)
    (bearer : Option String) (tenantId : String) :
    HashBlind Eq (canActivate jwt now guards bearer tenantId)
      (canActivate jwt now guards bearer tenantId) := by
  refine blind_ite Iff.rfl (blind_pure rfl) ?_
  split
  · rename_i payload _
    refine HashBlind.map ?_ fun a b same => congrArg some same
    exact blind_ite Iff.rfl (blind_throw _) (AuthService.validateJwtPayload_blind payload)
  · exact blind_throw _

theorem RoleGuard.canActivate_blind (guards : RouteGuards) (user : Option AuthenticatedUser) :
    HashBlind Eq (canActivate guards user) (canActivate guards user) := by
  refine blind_ite Iff.rfl (blind_pure rfl) ?_
  split
  · exact blind_pure rfl
  · exact blind_throw _
  · exact blind_ite Iff.rfl (blind_pure rfl) (blind_throw _)

theorem ApiRoute.admission_blind (libraries : RequestLibraries) (now : Timestamp)
    (headers : RequestHeaders) (route : ApiRoute) :
    HashBlind Eq (route.admission libraries now headers)
      (route.admission libraries now headers) := by
  refine blind_ite Iff.rfl (blind_pure rfl) ?_
  refine HashBlind.bind (TenantMiddleware.use_blind _ _) fun tenantId other same => ?_
  subst same
  refine HashBlind.bind (TenantGuard.canActivate_blind _ _) fun _ _ _ => ?_
  refine HashBlind.bind (JwtAuthGuard.canActivate_blind _ _ _ _ _) fun user other same => ?_
  subst same
  exact HashBlind.bind (RoleGuard.canActivate_blind _ _) fun _ _ _ => blind_pure rfl

end Tenantory
