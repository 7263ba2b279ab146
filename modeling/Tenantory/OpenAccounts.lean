import Tenantory.RecallingCalls
import Tenantory.Sessions
import Tenantory.TenancyRuns

/-! Accounts that stay open. Nothing that the application does takes an account away, so that
whoever has been registered or invited can sign in from then on, and is admitted with the token,
whatever else is going on. -/

namespace Tenantory

open Svc UuidText

/-! ## Accounts -/

/-- What a user signs in with. -/
structure Account where
  id : Uuid
  tenantId : Uuid
  email : String
  passwordHash : String
  isActive : Bool
  deletedAt : Option Timestamp
  deriving DecidableEq

def User.account (user : User) : Account :=
  ⟨user.id, user.tenantId, user.email, user.passwordHash, user.isActive, user.deletedAt⟩

def Database.accounts (db : Database) : Set Account := {a | ∃ user ∈ db.users, user.account = a}

/-- The accounts that have been seen are there still. -/
def AccountsKept (seen : Set World) (w : World) : Prop :=
  ∀ past ∈ seen, past.db.accounts ⊆ w.db.accounts

/-- Where they are, the step leaves the accounts there. -/
def AccountsLast (seen : Set World) (w w' : World) : Prop :=
  AccountsKept seen w → w.db.accounts ⊆ w'.db.accounts

/-- The account of the tenant with the email and the hash, in use. -/
structure Account.OpenFor (tenantId email passwordHash : String) (account : Account) : Prop where
  tenant : uuidIn tenantId = some account.tenantId
  email : account.email = email
  hash : account.passwordHash = passwordHash
  active : account.isActive = true
  live : account.deletedAt = none

/-- At one of the states there is such an account. -/
def SignedUp (tenantId email passwordHash : String) (seen : Set World) : Prop :=
  ∃ past ∈ seen, ∃ account ∈ past.db.accounts, account.OpenFor tenantId email passwordHash

theorem SignedUp.mono {tenantId email passwordHash : String} {seen seen' : Set World}
    (signedUp : SignedUp tenantId email passwordHash seen) (more : seen ⊆ seen') :
    SignedUp tenantId email passwordHash seen' := by
  obtain ⟨past, mem, there⟩ := signedUp
  exact ⟨past, more mem, there⟩

section Accounts

variable {w w' : World} {db : Database} {seen : Set World} {tenantId : String}
  {context : Option AuditContextData} {bcrypt : Bcrypt}

theorem accounts_of_same (same : w'.db.users = w.db.users) :
    w.db.accounts ⊆ w'.db.accounts := by
  rintro a ⟨user, mem, rfl⟩
  exact ⟨user, same ▸ mem, rfl⟩

theorem accountsLast_idle (seen : Set World) (w : World) : AccountsLast seen w w :=
  fun _ _ mem => mem

theorem accountsLast_of_same (same : w'.db.users = w.db.users) : AccountsLast seen w w' :=
  fun _ => accounts_of_same same

theorem recalls_sparing {α : Type} {p : Svc α} (sparing : Sparing p) :
    p.Recalls AccountsLast seen fun _ _ => True :=
  recalls_stays sparing .refl fun _ _ _ spares => accountsLast_of_same spares.users

/-- Two rows of one id are one row. -/
theorem account_of_id {user : User} {a : Account} (mem : user ∈ db.users)
    (there : a ∈ db.accounts) (same : a.id = user.id) : user.account = a := by
  obtain ⟨other, stored, rfl⟩ := there
  rw [Table.eq_of_id stored mem same]

namespace TenantUserManagementService

theorem insert_accounts {user : NewUser} {saved : User} (h : insert user w = .ok (saved, w')) :
    w.db.accounts ⊆ w'.db.accounts ∧
      ∃ account ∈ w'.db.accounts, account.OpenFor user.tenantId user.email
        user.passwordHash := by
  obtain ⟨tenant, named, inserted⟩ := bind_eq_ok.mp h
  obtain ⟨built, -, -, t, rows, rfl⟩ := World.insert_ok inserted
  have mem : ∀ user, user ∈ t ↔ user ∈ w.db.users ∨ user = saved := by
    intro user
    rw [← Table.mem_rows, rows, List.mem_append, List.mem_singleton]
    exact Iff.rfl
  refine ⟨?_, saved.account, ⟨saved, (mem saved).mpr (.inr rfl), rfl⟩, ?_⟩
  · rintro a ⟨user, stored, rfl⟩
    exact ⟨user, (mem user).mpr (.inl stored), rfl⟩
  · subst built
    exact ⟨uuidParam_eq_ok.mp named, rfl, rfl, rfl, rfl⟩

/-- The rest of a registration, from the INSERT on. -/
theorem insert_lasts {label : Label} (user : NewUser) {α : Type} {rest : User → Svc α}
    (spared : ∀ saved, Sparing (rest saved)) :
    Svc.Recalls AccountsLast seen (statement label (insert user) >>= rest) fun seen _ =>
      SignedUp user.tenantId user.email user.passwordHash seen := by
  have inserts : (statement label (insert user)).Recalls AccountsLast seen fun seen _ =>
      SignedUp user.tenantId user.email user.passwordHash seen := by
    refine recalls_statement accountsLast_idle fun w saved w' h => ?_
    obtain ⟨kept, account, mem, opened⟩ := insert_accounts h
    exact ⟨fun _ => kept, w', Set.mem_insert _ _, account, mem, opened⟩
  refine inserts.next fun seen saved signedUp => ?_
  refine (recalls_sparing (spared saved)).grows.mono fun seen' _ told => ?_
  exact signedUp.mono told.1

theorem inviteUser_lasts (dto : InviteUserDto) :
    (inviteUser bcrypt context tenantId dto).Recalls AccountsLast seen fun seen _ =>
      SignedUp tenantId dto.email (bcrypt.hash dto.password 12) seen := by
  refine (recalls_query accountsLast_idle _).next fun seen _ _ => ?_
  refine recalls_ite recalls_throw (recalls_ite recalls_throw (recalls_tryCatch ?_ fun _ _ => ?_))
  · exact insert_lasts _ fun saved => stays_recorded overlooks_spares _ saved
  · exact recalls_ite recalls_throw recalls_throw

/-- A save of a user that has been read, with another role. -/
theorem saveRole_lasts {user saved : User} {role : UserRole} {past loaded : World}
    (read : user ∈ past.db.users) (before : past ∈ seen) (known : loaded ∈ seen)
    (h : saveLoaded { user with role } loaded.db w = .ok (saved, w')) :
    AccountsLast seen w w' := by
  intro last
  unfold saveLoaded at h
  split at h
  · obtain ⟨db, inserted, done⟩ := bind_eq_ok.mp h
    cases done
    obtain ⟨-, -, t, stored, rfl⟩ := Database.insertRow_ok inserted
    rintro a ⟨other, mem, rfl⟩
    exact ⟨other, (Table.mem_insert? stored).mpr (.inl mem), rfl⟩
  · rename_i stored found
    obtain ⟨v, updated, done⟩ := bind_eq_ok.mp h
    cases done
    obtain ⟨-, t, rows, rfl⟩ := World.update_ok updated
    obtain ⟨there, same⟩ := Database.rowById_eq_some found
    -- the entity, the row that was loaded and the row that is written are of one account
    have kept : ∀ r ∈ w.db.users, r.id = user.id →
        (merge (overwrite { user with role } w.clock stored) stored r).account = r.account := by
      intro r mem own
      have asRead : r.account = user.account :=
        account_of_id mem (last past before ⟨user, read, rfl⟩) own.symm
      have asLoaded : r.account = stored.account :=
        account_of_id mem (last loaded known ⟨stored, there, rfl⟩) (same.trans own.symm)
      obtain ⟨stamp, written⟩ := overwrite_eq { user with role } w.clock stored
      rw [written]
      rw [asRead] at asLoaded
      simp only [User.account, Account.mk.injEq] at asRead asLoaded
      simp [merge, User.account, column, asLoaded]
    rintro a ⟨r, mem, rfl⟩
    by_cases own : r.id = user.id
    · refine ⟨merge (overwrite { user with role } w.clock stored) stored r, ?_, kept r mem own⟩
      show _ ∈ t.rows
      rw [rows]
      exact List.mem_map.mpr ⟨r, mem, if_pos (beq_iff_eq.mpr own)⟩
    · refine ⟨r, ?_, rfl⟩
      show r ∈ t.rows
      rw [rows]
      exact List.mem_map.mpr ⟨r, mem, if_neg (mt beq_iff_eq.mp own)⟩

theorem updateUserRole_lasts (userId : String) (dto : UpdateUserRoleDto) :
    (updateUserRole context tenantId userId dto).Recalls AccountsLast seen fun _ _ => True := by
  refine (recalls_query accountsLast_idle _).next fun seen found read => ?_
  cases found with
  | none => exact recalls_throw
  | some user =>
      obtain ⟨past, before, read⟩ := read
      have stored : user ∈ past.db.users := (AuthService.readById_eq_some.mp read).1
      refine recalls_ite recalls_throw (recalls_tryCatch ?_ fun _ _ => recalls_throw)
      have saves : (saving (.user { user with role := dto.role })
          (saveLoaded { user with role := dto.role })).Recalls AccountsLast seen
            fun _ _ => True := by
        refine (recalls_query accountsLast_idle _).grows.next fun seen' loaded known => ?_
        obtain ⟨more, state, there, same⟩ := known
        cases same
        exact recalls_statement accountsLast_idle fun w saved w' h =>
          ⟨saveRole_lasts stored (Set.mem_insert_of_mem w (more before))
            (Set.mem_insert_of_mem w there) h, trivial⟩
      refine saves.next fun seen saved _ => recalls_sparing ?_
      refine (stays_record overlooks_spares _).next fun _ => ?_
      exact (stays_del overlooks_spares _).next fun _ => stays_pure saved

end TenantUserManagementService

theorem AuthService.register_lasts (dto : RegisterDto) :
    (register bcrypt context tenantId dto).Recalls AccountsLast seen fun seen _ =>
      SignedUp tenantId dto.email (bcrypt.hash dto.password 10) seen := by
  refine (recalls_query accountsLast_idle _).next fun seen _ _ => recalls_ite recalls_throw ?_
  exact TenantUserManagementService.insert_lasts _ fun saved =>
    stays_recorded overlooks_spares _ _

end Accounts

/-! ## Calls in flight -/

instance : Aside Tenant := ⟨fun _ _ => rfl, fun _ _ => rfl⟩

/-- What the tenants' own routes write, and the status that an administrator gives one. -/
inductive TenantWrite
  | create (dto : CreateTenantDto)
  | update (id : String) (dto : UpdateTenantDto)
  | remove (id : String)
  | updateTenantStatus (tenantId : String) (newStatus : TenantStatus)

def TenantWrite.program : TenantWrite → Svc Unit
  | create dto => discard (TenantService.create dto)
  | update id dto => discard (TenantService.update id dto)
  | remove id => TenantService.remove id
  | updateTenantStatus tenantId newStatus =>
      discard (TenantProvisioningService.updateTenantStatus tenantId newStatus)

namespace TenantService

theorem saveLoaded_spares {draft : Draft} {loaded : Database} {saved : Tenant} {w w' : World}
    (h : saveLoaded draft loaded w = .ok (saved, w')) : w.Spares w' := by
  unfold saveLoaded at h
  split at h
  · obtain ⟨row, -, h⟩ := bind_eq_ok.mp h
    exact World.spares_inserted h
  · obtain ⟨row, -, h⟩ := bind_eq_ok.mp h
    exact World.spares_updated h

theorem softRemove_spares {entity : Tenant} {w w' : World}
    (h : softRemove entity w = .ok ((), w')) : w.Spares w' := by
  obtain ⟨v, updated, last⟩ := bind_eq_ok.mp h
  cases last
  exact World.spares_update updated

theorem findOne_sparing (id : String) : Sparing (findOne id) := by
  refine (stays_query _).next fun found => ?_
  cases found with
  | some tenant => exact stays_pure tenant
  | none => exact stays_throw _

end TenantService

theorem TenantWrite.program_sparing (call : TenantWrite) : Sparing call.program := by
  cases call with
  | create dto =>
      exact stays_discard (stays_translated _
        (stays_statement overlooks_spares fun _ _ _ => World.spares_insert))
  | update id dto =>
      refine stays_discard ((TenantService.findOne_sparing id).next fun tenant => ?_)
      exact stays_translated _
        (stays_saving overlooks_spares fun _ _ _ _ => TenantService.saveLoaded_spares)
  | remove id =>
      refine (TenantService.findOne_sparing id).next fun tenant => ?_
      exact stays_softRemoving overlooks_spares fun _ _ _ _ => TenantService.softRemove_spares
  | updateTenantStatus tenantId newStatus =>
      refine stays_discard ((stays_query _).next fun found => ?_)
      cases found with
      | none => exact stays_throw _
      | some tenant =>
          exact stays_tryCatch
            (stays_saving overlooks_spares fun _ _ _ _ => TenantService.saveLoaded_spares)
            fun _ => stays_throw _

/-- A registration, an invitation, a write that is audited, one of tenants, a call of the
inventory, or any other that takes no account away. -/
inductive AccountingCall
  | register (context : Option AuditContextData) (tenantId : String) (dto : RegisterDto)
  | invite (context : Option AuditContextData) (tenantId : String) (dto : InviteUserDto)
  | audited (op : AuditedOp) (context : Option AuditContextData) (tenantId : String)
  | tenancy (call : TenantWrite)
  | stock (call : StockCall) (context : Option AuditContextData)
  | other (p : Svc Unit) (lasting : Stays (fun w w' => w.db.accounts ⊆ w'.db.accounts) p)

def AccountingCall.program (platform : Platform) (bcrypt : Bcrypt) : AccountingCall → Svc Unit
  | register context tenantId dto => discard (AuthService.register bcrypt context tenantId dto)
  | invite context tenantId dto =>
      discard (TenantUserManagementService.inviteUser bcrypt context tenantId dto)
  | audited op context tenantId => op.program platform bcrypt context tenantId
  | tenancy call => call.program
  | stock call context => call.program context
  | other p _ => p

/-- The tenant that a call makes an account in, and what the account is signed in to with. -/
def AccountingCall.signUp? : AccountingCall → Option (String × LoginDto)
  | register _ tenantId dto => some (tenantId, ⟨dto.email, dto.password⟩)
  | invite _ tenantId dto => some (tenantId, ⟨dto.email, dto.password⟩)
  | _ => none

/-- Calls that run beside each other. -/
def accountingPool {ι : Type} (platform : Platform) (bcrypt : Bcrypt)
    (calls : ι → AccountingCall)
    (w : World) : Pool World Err Label ι (Except Err Unit) where
  state := w
  progs i := ((calls i).program platform bcrypt).run

section Pool

variable {platform : Platform} {bcrypt : Bcrypt} {context : Option AuditContextData}
  {tenantId : String} {seen : Set World}

theorem AuditedOp.program_lasts (op : AuditedOp) :
    (op.program platform bcrypt context tenantId).Recalls AccountsLast seen fun _ _ => True := by
  have rules : CallRules fun _ p => ∀ seen, p.Recalls AccountsLast (fun _ _ => True) seen :=
    recalls_rules fun _ _ _ spares => accountsLast_of_same spares.users
  have sets (w₀ : World) (key : String) (value : Cached) :
      Keeps (fun _ _ => True) (fun w => w.db.users = w₀.db.users) (CacheService.set key value) :=
    ⟨fun _ same _ => same, fun _ => trivial⟩
  refine recalls_of_run (op.program_by rules (fun id => ?_) (fun id => ?_)
    (fun dto => Svc.Recalls.run fun _ => TenantUserManagementService.inviteUser_lasts dto)
    fun userId dto => Svc.Recalls.run fun _ =>
      TenantUserManagementService.updateUserRole_lasts userId dto)
  · exact fun _ => Prog.recalls_of_guarded
      (fun w₀ => CategoryService.keeps_findOne (sets w₀) tenantId id) (fun _ => rfl)
      fun _ _ _ => accountsLast_of_same
  · exact fun _ => Prog.recalls_of_guarded
      (fun w₀ => ProductService.keeps_findOne (sets w₀) tenantId id) (fun _ => rfl)
      fun _ _ _ => accountsLast_of_same

/-- Whom a call has signed up has an account at one of the states that it has seen. -/
def AccountingCall.Tells (bcrypt : Bcrypt) (call : AccountingCall) (seen : Set World) : Prop :=
  ∀ tenantId dto, call.signUp? = some (tenantId, dto) →
    ∃ rounds, SignedUp tenantId dto.email (bcrypt.hash dto.password rounds) seen

theorem AccountingCall.program_lasts (call : AccountingCall) :
    (call.program platform bcrypt).Recalls AccountsLast seen fun seen _ =>
      call.Tells bcrypt seen := by
  have silent {p : Svc Unit} (none : call.signUp? = none)
      (lasts : p.Recalls AccountsLast seen fun _ _ => True) :
      p.Recalls AccountsLast seen fun seen _ => call.Tells bcrypt seen :=
    lasts.mono fun _ _ _ _ _ asked => nomatch none.symm.trans asked
  cases call with
  | register context tenantId dto =>
      refine Svc.Recalls.map (AuthService.register_lasts dto) fun _ _ signedUp _ _ asked => ?_
      cases asked
      exact ⟨10, signedUp⟩
  | invite context tenantId dto =>
      refine Svc.Recalls.map (TenantUserManagementService.inviteUser_lasts dto)
        fun _ _ signedUp _ _ asked => ?_
      cases asked
      exact ⟨12, signedUp⟩
  | audited op context tenantId => exact silent rfl op.program_lasts
  | tenancy call => exact silent rfl (recalls_sparing call.program_sparing)
  | stock call context => exact silent rfl (recalls_sparing (call.program_sparing context))
  | other p lasting =>
      exact silent rfl (recalls_stays lasting (fun _ _ mem => mem) fun _ _ _ kept _ => kept)

variable {ι : Type} [DecidableEq ι] {calls : ι → AccountingCall} {w : World} {past : Set World}
  {d e : Pool World Err Label ι (Except Err Unit)}

theorem accounts_of_through
    (through : Pool.Through callFault (fun _ _ _ => True) (accountingPool platform bcrypt calls w)
      past d) :
    AccountsKept past d.state ∧ ∀ i, ∃ seen ⊆ past,
      (d.progs i).Recalls AccountsLast
        (fun seen answer => ∀ a, answer = .ok a → (calls i).Tells bcrypt seen) seen := by
  have recalls : ∀ i, ((accountingPool platform bcrypt calls w).progs i).Recalls AccountsLast
      (fun seen answer => ∀ a, answer = .ok a → (calls i).Tells bcrypt seen) ∅ :=
    fun i => (calls i).program_lasts
  refine Pool.recalled_through (fun seen past s t less _ lasts kept v mem => ?_)
    (fun v mem => ?_) recalls through
  · have grown : s.db.accounts ⊆ t.db.accounts := lasts fun v mem => kept v (less mem)
    rcases Set.mem_insert_iff.mp mem with rfl | mem
    · exact subset_rfl
    · exact (kept v mem).trans grown
  · rw [Set.mem_singleton_iff.mp mem]

/-- The accounts that there are, there are from then on. -/
theorem accounts_further
    (through : Pool.Through callFault (fun _ _ _ => True) (accountingPool platform bcrypt calls w)
      past d)
    (reach : Pool.Reach callFault (fun _ _ _ => True) d e) :
    d.state.db.accounts ⊆ e.state.db.accounts := by
  obtain ⟨past', more, through'⟩ := through.further reach
  exact (accounts_of_through through').1 d.state (more through.last)

end Pool

/-! ## Signing in -/

/-- The sign-in of the account at its tenant is answered with the token. -/
def Account.Enters (libraries : SessionLibraries) (account : Account) (password : String)
    (now : Timestamp) (token : String) (w : World) : Prop :=
  ∀ (headers : RequestHeaders) (text : String) (tenant : Tenant),
    headers.tenantId = some text → libraries.isUUID text = true →
      NamesTenant w.db text tenant →
    tenant.id = account.tenantId →
    (((SessionRequest.mk now headers (.login ⟨account.email, password⟩) none).answer
      libraries).runs
      { w with clock := now }).1 = .ok (.login token)

/-- A token for the account opens the protected routes that the role in its row permits, as long as
the tenant is active and the token is read. -/
def Account.IsAdmitted (libraries : SessionLibraries) (account : Account) (payload : JwtPayload)
    (w : World) : Prop :=
  ∃ user ∈ w.db.users, user.account = account ∧
    ∀ (now : Timestamp) (headers : RequestHeaders) (token : String) (tenant : Tenant)
      (route : ApiRoute),
      headers.tenantId = some payload.tenantId → libraries.isUUID payload.tenantId = true →
      NamesTenant w.db payload.tenantId tenant → headers.bearer = some token →
      libraries.jwt.verifyAsync .access token now = .ok payload → route.Protected →
      ((∃ caller, ((route.admission libraries.toRequestLibraries now headers).runs w).1 =
        .ok caller) ↔ Permits route.guards user.role)

section SigningIn

variable {libraries : SessionLibraries} {w w' : World} {tenantId email hash : String}
  {account : Account}

/-- The middleware is all that a sign-in has to pass. -/
theorem ApiRoute.login_admits {libraries : RequestLibraries} {now : Timestamp}
    {headers : RequestHeaders} {text : String} {tenant : Tenant}
    (sent : headers.tenantId = some text) (uuid : libraries.isUUID text = true)
    (names : NamesTenant w.db text tenant) :
    (login.admission libraries now headers).runs w = (.ok ⟨text, none⟩, w) := by
  have used := TenantMiddleware.use_eq_ok.mpr ⟨rfl, sent, uuid, tenant, names⟩
  exact runs_bind_eq_ok.mpr ⟨text, w, used, rfl⟩

theorem AuthService.login_of_signsIn {context : AuditContextData} {now : Timestamp}
    {dto : LoginDto} {user : User} (signsIn : SignsIn libraries w.db tenantId dto user)
    (audited : AuditService.Audited (some context)) :
    ∃ w', (login libraries.compare libraries.jwt (some context) now tenantId dto).runs w =
      (.ok (libraries.jwt.signAsync .access user.payload now), w') := by
  have found : TenantUserManagementService.readByEmail tenantId dto.email w = .ok (some user) := by
    refine bind_eq_ok.mpr ⟨user.tenantId, uuidParam_eq_ok.mpr signsIn.tenant,
      congrArg Except.ok ?_⟩
    refine Table.find?_of_mem signsIn.stored ?_ fun other there fits => ?_
    · simp [signsIn.email, User.live, signsIn.live]
    · simp only [Bool.and_eq_true, beq_iff_eq] at fits
      simp [conflict, fits.1.1, fits.1.2, signsIn.email]
  obtain ⟨event, recorded⟩ := AuditService.event?_of_audited audited
    { action := .login
      entityType := .user
      entityId := uuidOut user.id
      oldValues := none
      newValues := none
      metadata := none
      actorId := some (uuidOut user.id) }
  refine ⟨{ w with journal := w.journal ++ [.auditLog event] },
    (runs_found_eq_ok rfl).mpr ⟨user, found, ?_⟩⟩
  simp only [signsIn.active, signsIn.password, Bool.true_eq_false, if_false]
  refine runs_bind_eq_ok.mpr ⟨(), _, ?_, runs_pure_eq_ok.mpr ⟨rfl, rfl⟩⟩
  rw [runs_record, recorded]

/-- Who has the password of an account that is there is signed in to it. -/
theorem Account.OpenFor.enters {password : String} {now : Timestamp} {user : User}
    (opened : user.account.OpenFor tenantId email hash) (stored : user ∈ w.db.users)
    (right : libraries.compare password hash = true) :
    user.account.Enters libraries password now
      (libraries.jwt.signAsync .access user.payload now) w := by
  intro headers text tenant sent uuid names own
  have owned : uuidIn text = some user.tenantId := by
    rw [names.2.1, own]
    rfl
  have signsIn : SignsIn libraries w.db text ⟨user.account.email, password⟩ user :=
    ⟨stored, owned, rfl, opened.live, opened.active, by
      rw [← opened.hash] at right; exact right⟩
  have audited : AuditService.Audited
    (some ((⟨text, none⟩ : Caller).auditContext headers)) := by
    refine ⟨_, text, rfl, rfl, fun blank => ?_⟩
    rw [blank] at owned
    cases owned
  have admitted : (ApiRoute.login.admission libraries.toRequestLibraries now headers).runs
      { w with clock := now } = (.ok ⟨text, none⟩, { w with clock := now }) :=
    ApiRoute.login_admits sent uuid names
  obtain ⟨w', ran⟩ := AuthService.login_of_signsIn (w := { w with clock := now })
    signsIn audited
  exact congrArg Prod.fst (runs_bind_eq_ok.mpr
    ⟨_, _, admitted, Svc.runs_map_eq_ok.mpr ⟨_, ran, rfl⟩⟩)

/-- And its token is good for the account, whatever its role has come to be. -/
theorem Account.OpenFor.isAdmitted {user : User} (opened : user.account.OpenFor tenantId email hash)
    (there : user.account ∈ w.db.accounts) :
    user.account.IsAdmitted libraries user.payload w := by
  obtain ⟨row, stored, same⟩ := there
  refine ⟨row, stored, same, fun now headers token tenant route sent uuid names bears verified
    closed => ?_⟩
  have fields := same
  simp only [User.account, Account.mk.injEq] at fields
  obtain ⟨sameId, sameTenant, -, -, sameActive, sameDeleted⟩ := fields
  have active : row.isActive = true := sameActive.trans opened.active
  have live : row.deletedAt = none := sameDeleted.trans opened.live
  have subject : uuidIn user.payload.sub = some row.id := by
    rw [sameId]
    exact uuidIn_uuidOut user.id
  have member : row.tenantId = tenant.id := by
    refine Option.some.inj (Eq.trans ?_ names.2.1)
    rw [sameTenant]
    exact (uuidIn_uuidOut user.tenantId).symm
  have guards := guarded_iff (w := w) closed.1 closed.2 bears verified
  unfold ApiRoute.admission
  rw [closed.not_excluded, if_neg Bool.false_ne_true]
  constructor
  · rintro ⟨caller, ran⟩
    obtain ⟨_, _, other, _, _, _, _, mem, named, _, _, _, permits⟩ :=
      guards.mp ⟨caller, _, Prod.ext ran rfl⟩
    -- there is one row of the id that the token names
    have one : other.id = row.id := Option.some.inj (named.symm.trans subject)
    rwa [Table.eq_of_id mem stored one] at permits
  · intro permits
    obtain ⟨caller, w', ran⟩ :=
      guards.mpr ⟨_, tenant, row, sent, uuid, names, rfl, stored, subject,
      member, live, active, permits⟩
    exact ⟨caller, congrArg Prod.fst ran⟩

end SigningIn

/-- Beside any other calls, failing wherever they may: who has been registered or invited has an
account from then on. The sign-in is answered at any time, and the token is good at any time after,
for what the role of the account then permits. -/
theorem accounts_stay_open {ι : Type} [DecidableEq ι] {platform : Platform} {bcrypt : Bcrypt}
    {libraries : SessionLibraries} {calls : ι → AccountingCall} {w : World}
    {d : Pool World Err Label ι (Except Err Unit)} {i : ι} {tenantId : String} {dto : LoginDto}
    (checks : ∀ rounds, libraries.compare dto.password (bcrypt.hash dto.password rounds) = true)
    (reach : Pool.Reach callFault (fun _ _ _ => True) (accountingPool platform bcrypt calls w) d)
    (called : (calls i).signUp? = some (tenantId, dto)) (answered : d.progs i = .ret (.ok ())) :
    ∃ account : Account, uuidIn tenantId = some account.tenantId ∧ account.email = dto.email ∧
      ∀ e, Pool.Reach callFault (fun _ _ _ => True) d e → ∃ user ∈ e.state.db.users,
        user.account = account ∧ ∀ now,
          account.Enters libraries dto.password now
            (libraries.jwt.signAsync .access user.payload now) e.state ∧
          ∀ f, Pool.Reach callFault (fun _ _ _ => True) e f →
            account.IsAdmitted libraries user.payload f.state := by
  obtain ⟨past, through⟩ := reach.through
  obtain ⟨kept, recalled⟩ := accounts_of_through through
  obtain ⟨seen, less, tells⟩ := recalled i
  rw [answered] at tells
  obtain ⟨rounds, v, mem, account, there, opened⟩ := tells () rfl tenantId dto called
  refine ⟨account, opened.tenant, opened.email, fun e later => ?_⟩
  have now_there : account ∈ e.state.db.accounts :=
    accounts_further through later (kept v (less mem) there)
  obtain ⟨user, stored, rfl⟩ := now_there
  obtain ⟨past', -, through'⟩ := through.further later
  refine ⟨user, stored, rfl, fun now =>
    ⟨opened.enters stored (checks rounds), fun f latest => ?_⟩⟩
  exact opened.isAdmitted (accounts_further through' latest ⟨user, stored, rfl⟩)

namespace SampleShop

/-- Eve registers while the administrator is made an auditor. -/
def registerBeside : Fin 2 → AccountingCall
  | 0 =>
      .register context (uuidOut tenantId) ⟨"eve@acme.com", "secret", "Eve", "Fox", .undefined⟩
  | 1 => .audited (.updateUserRole (uuidOut 0xad) ⟨.auditor⟩) context (uuidOut tenantId)

def eve : User :=
  ⟨1000, tenantId, "eve@acme.com", "Eve", "Fox", hashing.hash "" 10, .customer,
    true, 1, 1, none⟩

/-- There is one hash, and one token, which is Eve's. -/
def eveLibraries : SessionLibraries where
  jwt := ⟨fun _ _ _ => "token", fun _ text _ =>
    if text = "token" then .ok eve.payload else .error (.unauthorized "jwt malformed")⟩
  isUUID text := (uuidIn text).isSome
  compare _ hash := hash == hashing.hash "" 10

/-- The answers to both calls, the tenants and the users. -/
def endOf (c : Pool World Err Label (Fin 2) (Except Err Unit)) :
    (Option (Except Err Unit) × Option (Except Err Unit)) × List Tenant × List User :=
  (Pool.results c, c.state.db.tenants.rows, c.state.db.users.rows)

theorem registered_beside :
    ((accountingPool plainText hashing registerBeside (world administered)).schedule
      (fun _ _ _ => true) [1, 0, 1, 0, 1, 0, 1, 1]).map endOf =
        some ((some (.ok ()), some (.ok ())), [tenant],
          [{ admin with role := .auditor, updatedAt := 1 }, eve]) := by
  decide

end SampleShop

open SampleShop

/-- Eve signs in then and looks at her profile; to invite users she is not admitted. -/
theorem accounts_stay_open_eve : ∃ d,
    Pool.Reach callFault (fun _ _ _ => True)
      (accountingPool plainText hashing registerBeside (world administered)) d ∧
    d.state.db.users.rows = [{ admin with role := .auditor, updatedAt := 1 }, eve] ∧ ∀ now,
      (((SessionRequest.mk now adminHeaders (.login ⟨"eve@acme.com", "secret"⟩) none).answer
        eveLibraries).runs { d.state with clock := now }).1 = .ok (.login "token") ∧
      (∃ caller, ((ApiRoute.me.admission eveLibraries.toRequestLibraries now adminHeaders).runs
        d.state).1 = .ok caller) ∧
      ¬ ∃ caller, ((ApiRoute.inviteUser.admission eveLibraries.toRequestLibraries now
        adminHeaders).runs d.state).1 = .ok caller := by
  obtain ⟨d, run, seen⟩ := Pool.exists_of_schedule registered_beside
  have run : Pool.Reach callFault (fun _ _ _ => True) _ d := run.mono fun _ _ _ _ => trivial
  obtain ⟨answers, rows⟩ := Prod.mk.inj seen
  obtain ⟨tenants, users⟩ := Prod.mk.inj rows
  have answered : d.progs 0 = .ret (.ok ()) := Pool.result?_eq_some.mp (Prod.mk.inj answers).1
  have names : NamesTenant d.state.db (uuidOut tenantId) tenant := by
    refine ⟨?_, uuidIn_uuidOut tenantId, rfl, rfl⟩
    rw [← Table.mem_rows, tenants]
    exact List.mem_singleton_self tenant
  let dto : LoginDto := ⟨"eve@acme.com", "secret"⟩
  have checks (rounds : ℕ) :
      eveLibraries.compare dto.password (hashing.hash dto.password rounds) = true :=
    beq_self_eq_true (hashing.hash dto.password rounds)
  have called : (registerBeside 0).signUp? = some (uuidOut tenantId, dto) := rfl
  obtain ⟨account, -, email, stays⟩ := accounts_stay_open checks run called answered
  obtain ⟨user, stored, same, opens⟩ := stays d .refl
  have isEve {row : User} (mem : row ∈ d.state.db.users) (named : row.email = "eve@acme.com") :
      row = eve := by
    rw [← Table.mem_rows, users] at mem
    rcases List.mem_cons.mp mem with rfl | last
    · exact absurd named (by decide)
    · exact List.mem_singleton.mp last
  subst same
  obtain rfl := isEve stored email
  refine ⟨d, run, users, fun now => ?_⟩
  obtain ⟨enters, admitted⟩ := opens now
  obtain ⟨row, there, same, admits⟩ := admitted d .refl
  obtain rfl := isEve there (congrArg Account.email same)
  have opensTo (route : ApiRoute) (closed : route.Protected) :=
    admits now adminHeaders "token" tenant route rfl (by decide) names rfl rfl closed
  refine ⟨enters adminHeaders (uuidOut tenantId) tenant rfl (by decide) names rfl, ?_, ?_⟩
  · refine (opensTo .me (by decide)).mpr fun _ roles asked => ?_
    cases asked
  · rw [opensTo .inviteUser (by decide)]
    exact fun permits => absurd (permits rfl _ rfl) (by decide)

end Tenantory
