import Tenantory.FailingCalls
import Tenantory.ProvisioningTransaction

/-! Runs of the calls that create, change and remove tenants and manage their users, with
their calls of the database failing wherever they may. Each call is described once, by
what it may have made of the tables. -/

namespace Tenantory

open Stored UuidText

/-! ## Calls and runs -/

inductive TenancyOp
  | create (dto : CreateTenantDto)
  | update (id : String) (dto : UpdateTenantDto)
  | remove (id : String)
  | createTenant (dto : TenantProvisioningService.CreateTenantDto)
  | updateTenantStatus (tenantId : String) (newStatus : TenantStatus)
  | inviteUser (context : Option AuditContextData) (tenantId : String) (dto : InviteUserDto)
  | updateUserRole (context : Option AuditContextData) (tenantId userId : String)
      (dto : UpdateUserRoleDto)

namespace DataSource

/-- Time has gone on. -/
def arrive (s : DataSource) (now : Timestamp) : DataSource :=
  { s with world := { s.world with clock := now } }

/-- A service may leave `s'`; it takes no query runner of its own. -/
def Serves {α : Type} (s : DataSource) (p : Svc α) (s' : DataSource) : Prop :=
  ∃ answer w, Svc.Ends p s.world answer w ∧ s' = { s with world := w }

end DataSource

/-- The states that a call may leave. -/
def TenancyOp.Ends (bcrypt : Bcrypt) (s s' : DataSource) : TenancyOp → Prop
  | create dto => s.Serves (TenantService.create dto) s'
  | update id dto => s.Serves (TenantService.update id dto) s'
  | remove id => s.Serves (TenantService.remove id) s'
  | createTenant dto =>
      ∃ fails, s' = (TenantProvisioningService.outcome bcrypt dto fails s).2
  | updateTenantStatus tenantId newStatus =>
      s.Serves (TenantProvisioningService.updateTenantStatus tenantId newStatus) s'
  | inviteUser context tenantId dto =>
      s.Serves (TenantUserManagementService.inviteUser bcrypt context tenantId dto) s'
  | updateUserRole context tenantId userId dto =>
      s.Serves (TenantUserManagementService.updateUserRole context tenantId userId dto) s'

/-- A call of a run, with the states before and after it. -/
structure TenancyCall where
  op : TenancyOp
  before : DataSource
  after : DataSource

/-- The calls of a run, the last one first, and the state it has come to. Each call meets a
condition on the tables that it finds. -/
inductive Trace (bcrypt : Bcrypt) (meets : TenancyOp → Database → Prop) (start : DataSource) :
    List TenancyCall → DataSource → Prop
  | start : Trace bcrypt meets start [] start
  | call {s s' : DataSource} {calls : List TenancyCall} (op : TenancyOp) (now : Timestamp) :
      Trace bcrypt meets start calls s → meets op s.world.db →
      op.Ends bcrypt (s.arrive now) s' → Trace bcrypt meets start (⟨op, s, s'⟩ :: calls) s'

namespace Trace

variable {bcrypt : Bcrypt} {meets : TenancyOp → Database → Prop} {start s : DataSource}
  {calls : List TenancyCall}

/-- What every call does, the calls of a run do. -/
theorem each {R : TenancyOp → Database → Database → Prop}
    (step : ∀ op s s', op.Ends bcrypt s s' → R op s.world.db s'.world.db)
    (trace : Trace bcrypt meets start calls s) :
    ∀ call ∈ calls, R call.op call.before.world.db call.after.world.db := by
  induction trace with
  | start => simp
  | call op now _ _ ends ih =>
      intro call mem
      rcases List.mem_cons.mp mem with rfl | before
      · exact step op (DataSource.arrive _ now) _ ends
      · exact ih call before

/-- What calls keep that meet the condition, holds in the state that the run has come to. -/
theorem invariant {I : Database → Prop}
    (step : ∀ op s s', I s.world.db → meets op s.world.db → op.Ends bcrypt s s' →
      I s'.world.db)
    (initial : I start.world.db) (trace : Trace bcrypt meets start calls s) : I s.world.db := by
  induction trace with
  | start => exact initial
  | call op now _ met ends ih => exact step op (DataSource.arrive _ now) _ ih met ends

end Trace

/-! ## What a call makes of the tables -/

/-- The row of a tenant takes a new value. -/
def Database.rewriteTenant (db db' : Database) (row written : Tenant) : Prop :=
  ∃ t : Table Tenant, (t.rows = db.tenants.rows.map fun r => if r.id = row.id then
    written else r) ∧
    db' = { db with tenants := t }

/-- The text names a live row. -/
def Tenant.Found (id : String) (db : Database) (row : Tenant) : Prop :=
  row ∈ db.tenants ∧ uuidIn id = some row.id ∧ row.live = true

def User.Found (tenantId id : String) (db : Database) (row : User) : Prop :=
  row ∈ db.users ∧ uuidIn id = some row.id ∧ uuidIn tenantId = some row.tenantId ∧
    row.live = true

/-- What a call may have made of the tables; one that throws may have written before. -/
inductive TenancyOp.Changes (bcrypt : Bcrypt) (db : Database) : Database → TenancyOp → Prop
  | nothing (op : TenancyOp) : Changes bcrypt db db op
  | created {dto : CreateTenantDto} {t : Table Tenant} (row : Tenant) :
      row.domainName = dto.domainName → t.rows = db.tenants.rows ++ [row] →
      (∀ other ∈ db.tenants, conflict row other = false) →
      Changes bcrypt db { db with tenants := t } (.create dto)
  | updated {id : String} {dto : UpdateTenantDto} {db' : Database} (row written : Tenant)
      (stamp : Timestamp) : row.Found id db →
      TenantService.columns (TenantService.patched dto row) = .ok written →
      db.rewriteTenant db' row { written with updatedAt := stamp } →
      Changes bcrypt db db' (.update id dto)
  | removed {id : String} {db' : Database} (row : Tenant) (stamp : Timestamp) : row.Found id db →
      db.rewriteTenant db' row { row with deletedAt := some stamp, updatedAt := stamp } →
      Changes bcrypt db db' (.remove id)
  | provisioned {dto : TenantProvisioningService.CreateTenantDto} {db' : Database}
      {tenant : Tenant} {admin : User} {setting : TenantSetting} :
      TenantProvisioningService.Committed bcrypt dto db db' tenant admin setting →
      Changes bcrypt db db' (.createTenant dto)
  | assigned {tenantId : String} {newStatus : TenantStatus} {db' : Database} (row : Tenant)
      (stamp : Timestamp) : row.Found tenantId db →
      db.rewriteTenant db' row { row with status := newStatus, updatedAt := stamp } →
      Changes bcrypt db db' (.updateTenantStatus tenantId newStatus)
  | invited {context : Option AuditContextData} {tenantId : String} {dto : InviteUserDto}
      {t : Table User} (row : User) : t.rows = db.users.rows ++ [row] →
      Changes bcrypt db { db with users := t } (.inviteUser context tenantId dto)
  | promoted {context : Option AuditContextData} {tenantId userId : String}
      {dto : UpdateUserRoleDto} {t : Table User} (row : User) (stamp : Timestamp) :
      row.Found tenantId userId db → dto.role ≠ .superAdmin →
      (t.rows = db.users.rows.map fun r =>
        if r.id = row.id then { row with role := dto.role, updatedAt := stamp } else r) →
      Changes bcrypt db { db with users := t } (.updateUserRole context tenantId userId dto)

/-! ## The calls one by one -/

namespace TenantService

variable {w w' : World} {draft : Draft} {saved row : Tenant} {id : String}

theorem readById_ok (h : readById id w = .ok (some row)) : row.Found id w.db := by
  obtain ⟨i, text, read⟩ := bind_eq_ok.mp h
  obtain found := Except.ok.inj read
  have passes := Table.holds_of_find? found
  rw [Bool.and_eq_true, beq_iff_eq] at passes
  exact ⟨Table.mem_of_find? found, by rw [passes.1]; exact uuidParam_eq_ok.mp text, passes.2⟩

/-- A save of a tenant that is as it was loaded but for what the draft says. -/
theorem saveLoaded_ok (mem : draft.entity ∈ w.db.tenants)
    (h : saveLoaded draft w.db w = .ok (saved, w')) :
    ∃ written stamp, columns draft = .ok written ∧
      w.db.rewriteTenant w'.db draft.entity { written with updatedAt := stamp } := by
  have found : w.db.rowById Tenant draft.entity.id = some draft.entity :=
    Database.rowById_of_mem mem
  unfold saveLoaded at h
  rw [found] at h
  obtain ⟨row, overwritten, h⟩ := bind_eq_ok.mp h
  obtain ⟨w₁, updated, last⟩ := bind_eq_ok.mp h
  obtain ⟨written, columned, rest⟩ := bind_eq_ok.mp overwritten
  obtain ⟨-, rfl⟩ := Prod.mk.inj (Except.ok.inj last)
  obtain ⟨t, rows, rfl⟩ := World.update_stored mem updated
  rw [merge_self] at rows
  have stamped : ∃ stamp, row = { written with updatedAt := stamp } := by
    split at rest
    · rename_i same
      cases rest
      exact ⟨draft.entity.updatedAt, by rw [same]⟩
    · split at rest
      · cases rest
        exact ⟨_, rfl⟩
      · have same := Except.ok.inj rest
        exact ⟨row.updatedAt, by rw [same]⟩
  obtain ⟨stamp, rfl⟩ := stamped
  exact ⟨written, stamp, columned, t, rows, rfl⟩

theorem softRemove_ok {entity : Tenant} (mem : entity ∈ w.db.tenants)
    (h : softRemove entity w = .ok ((), w')) : w.db.rewriteTenant w'.db entity
      { entity with deletedAt := some w.clock, updatedAt := w.clock } := by
  obtain ⟨w₁, updated, last⟩ := bind_eq_ok.mp h
  obtain ⟨-, rfl⟩ := Prod.mk.inj (Except.ok.inj last)
  obtain ⟨t, rows, rfl⟩ := World.update_stored mem updated
  exact ⟨t, rows, rfl⟩

theorem create_changes {bcrypt : Bcrypt} {dto : CreateTenantDto} {answer : Except Err Tenant}
    (ends : Svc.Ends (create dto) w answer w') :
    TenancyOp.Changes bcrypt w.db w'.db (.create dto) := by
  suffices h : (create dto).run.wp Svc.callFault
      (fun _ v => TenancyOp.Changes bcrypt w.db v.db (.create dto)) w from ends.meets h
  refine Svc.wp_translated (Svc.wp_statement ?_ ?_)
  · intro row w' inserted
    obtain ⟨built, -, free, t, rows, rfl⟩ := World.insert_ok inserted
    exact .created row (by rw [built]) rows free
  · intro e
    exact .nothing _

theorem update_changes {bcrypt : Bcrypt} {dto : UpdateTenantDto} {answer : Except Err Tenant}
    (ends : Svc.Ends (update id dto) w answer w') :
    TenancyOp.Changes bcrypt w.db w'.db (.update id dto) := by
  have unchanged : ∀ e : Err, TenancyOp.Changes bcrypt w.db w.db (.update id dto) :=
    fun _ => .nothing _
  suffices h : (update id dto).run.wp Svc.callFault
      (fun _ v => TenancyOp.Changes bcrypt w.db v.db (.update id dto)) w from ends.meets h
  refine Prog.wp_run_bind (Prog.wp_run_bind (Svc.wp_query ?_ unchanged))
  cases read : readById id w with
  | error e => exact unchanged e
  | ok found =>
      cases found with
      | none => exact .nothing _
      | some row =>
          have named := readById_ok read
          refine Svc.wp_translated (Svc.wp_saving ?_ unchanged)
          intro saved w' h
          obtain ⟨written, stamp, columned, rewritten⟩ :=
            saveLoaded_ok named.1 h
          exact .updated row written stamp named columned rewritten

theorem remove_changes {bcrypt : Bcrypt} {answer : Except Err Unit}
    (ends : Svc.Ends (remove id) w answer w') :
    TenancyOp.Changes bcrypt w.db w'.db (.remove id) := by
  have unchanged : ∀ e : Err, TenancyOp.Changes bcrypt w.db w.db (.remove id) :=
    fun _ => .nothing _
  suffices h : (remove id).run.wp Svc.callFault
      (fun _ v => TenancyOp.Changes bcrypt w.db v.db (.remove id)) w from ends.meets h
  refine Prog.wp_run_bind (Prog.wp_run_bind (Svc.wp_query ?_ unchanged))
  cases read : readById id w with
  | error e => exact unchanged e
  | ok found =>
      cases found with
      | none => exact .nothing _
      | some row =>
          have named := readById_ok read
          refine Svc.wp_softRemoving ?_ unchanged
          intro _ w' h
          exact .removed row w.clock named (softRemove_ok named.1 h)

end TenantService

namespace TenantProvisioningService

variable {bcrypt : Bcrypt}

theorem createTenant_changes (dto : CreateTenantDto) (fails : FailurePoint → Option Err)
    (s : DataSource) :
    TenancyOp.Changes bcrypt s.world.db (outcome bcrypt dto fails s).2.world.db
      (.createTenant dto) := by
  rcases unstarted_or with ⟨e, failed⟩ | started
  · rw [(outcome_unstarted bcrypt dto s failed).1]
    exact .nothing _
  · have atomic := (outcome_started bcrypt dto s started).1
    cases answered : (outcome bcrypt dto fails s).1 with
    | ok tenant =>
        rw [answered] at atomic
        obtain ⟨admin, setting, committed⟩ := atomic
        exact .provisioned committed
    | error e =>
        rw [answered] at atomic
        rw [show (outcome bcrypt dto fails s).2.world.db = s.world.db from atomic]
        exact .nothing _

theorem updateTenantStatus_changes {w w' : World} {tenantId : String} {newStatus : TenantStatus}
    {answer : Except Err Tenant}
    (ends : Svc.Ends (updateTenantStatus tenantId newStatus) w answer w') :
    TenancyOp.Changes bcrypt w.db w'.db (.updateTenantStatus tenantId newStatus) := by
  have unchanged : ∀ e : Err,
      TenancyOp.Changes bcrypt w.db w.db (.updateTenantStatus tenantId newStatus) :=
    fun _ => .nothing _
  suffices h : (updateTenantStatus tenantId newStatus).run.wp Svc.callFault
      (fun _ v => TenancyOp.Changes bcrypt w.db v.db (.updateTenantStatus tenantId newStatus))
        w from
    ends.meets h
  refine Prog.wp_run_bind (Svc.wp_query ?_ unchanged)
  cases read : TenantService.readById tenantId w with
  | error e => exact unchanged e
  | ok found =>
      cases found with
      | none => exact .nothing _
      | some row =>
          have named := TenantService.readById_ok read
          refine Prog.wp_run_tryCatch (Svc.wp_saving ?_ unchanged)
          intro saved w' h
          obtain ⟨written, stamp, columned, rewritten⟩ := TenantService.saveLoaded_ok named.1 h
          cases columned
          exact .assigned row stamp named rewritten

end TenantProvisioningService

namespace TenantUserManagementService

variable {w w' : World} {entity saved row : User} {context : Option AuditContextData}
  {tenantId userId : String} {bcrypt : Bcrypt} {answer : Except Err User}

theorem readById_ok (h : readById tenantId userId w = .ok (some row)) :
    row.Found tenantId userId w.db := by
  obtain ⟨i, text, h⟩ := bind_eq_ok.mp h
  obtain ⟨tenant, owner, read⟩ := bind_eq_ok.mp h
  obtain found := Except.ok.inj read
  have passes := Table.holds_of_find? found
  simp only [Bool.and_eq_true, beq_iff_eq] at passes
  obtain ⟨⟨same, owned⟩, live⟩ := passes
  refine ⟨Table.mem_of_find? found, ?_, ?_, live⟩
  · rw [same]
    exact uuidParam_eq_ok.mp text
  · rw [owned]
    exact uuidParam_eq_ok.mp owner

theorem overwrite_eq (entity : User) (now : Timestamp) (row : User) :
    ∃ stamp, overwrite entity now row = { entity with updatedAt := stamp } := by
  unfold overwrite
  split
  · rename_i same
    exact ⟨entity.updatedAt, same.symm⟩
  · split
    · exact ⟨now, rfl⟩
    · exact ⟨entity.updatedAt, rfl⟩

/-- A save of a stored user. -/
theorem saveLoaded_ok (mem : row ∈ w.db.users) (same : entity.id = row.id)
    (h : saveLoaded entity w.db w = .ok (saved, w')) :
    ∃ stamp, ∃ t : Table User, (t.rows = w.db.users.rows.map fun r =>
      if r.id = row.id then { entity with updatedAt := stamp } else r) ∧
        w'.db = { w.db with users := t } := by
  have found : w.db.rowById User entity.id = some row := by
    rw [same]
    exact Database.rowById_of_mem mem
  unfold saveLoaded at h
  rw [found, same] at h
  obtain ⟨w₁, updated, last⟩ := bind_eq_ok.mp h
  obtain ⟨-, rfl⟩ := Prod.mk.inj (Except.ok.inj last)
  obtain ⟨t, rows, rfl⟩ := World.update_stored mem updated
  rw [merge_self] at rows
  obtain ⟨stamp, stamped⟩ := overwrite_eq entity w.clock row
  rw [stamped] at rows
  exact ⟨stamp, t, rows, rfl⟩

theorem inviteUser_changes {dto : InviteUserDto}
    (ends : Svc.Ends (inviteUser bcrypt context tenantId dto) w answer w') :
    TenancyOp.Changes bcrypt w.db w'.db (.inviteUser context tenantId dto) := by
  have unchanged : ∀ e : Err,
      TenancyOp.Changes bcrypt w.db w.db (.inviteUser context tenantId dto) := fun _ => .nothing _
  suffices h : (inviteUser bcrypt context tenantId dto).run.wp Svc.callFault
      (fun _ v => TenancyOp.Changes bcrypt w.db v.db (.inviteUser context tenantId dto)) w from
    ends.meets h
  refine Prog.wp_run_bind (Svc.wp_query ?_ unchanged)
  cases readByEmail tenantId dto.email w with
  | error e => exact unchanged e
  | ok existing =>
      refine Svc.wp_ite (fun _ => .nothing _) fun _ => Svc.wp_ite (fun _ => .nothing _) fun _ => ?_
      refine Prog.wp_run_tryCatch (Prog.wp_run_bind (Svc.wp_statement ?_ ?_))
      · intro row w₁ inserted
        have changed : TenancyOp.Changes bcrypt w.db w₁.db
          (.inviteUser context tenantId dto) := by
          obtain ⟨tenant, -, inserted⟩ := bind_eq_ok.mp inserted
          obtain ⟨-, -, -, t, rows, rfl⟩ := World.insert_ok inserted
          exact .invited row rows
        refine Prog.wp_run_bind (Svc.wp_record (fun e h => h) (fun event _ => changed) fun e => ?_)
        exact Svc.wp_ite (fun _ => changed) fun _ => changed
      · intro e
        exact Svc.wp_ite (fun _ => .nothing _) fun _ => .nothing _

theorem updateUserRole_changes {dto : UpdateUserRoleDto}
    (ends : Svc.Ends (updateUserRole context tenantId userId dto) w answer w') :
    TenancyOp.Changes bcrypt w.db w'.db (.updateUserRole context tenantId userId dto) := by
  have unchanged : ∀ e : Err,
      TenancyOp.Changes bcrypt w.db w.db (.updateUserRole context tenantId userId dto) :=
    fun _ => .nothing _
  suffices h : (updateUserRole context tenantId userId dto).run.wp Svc.callFault
      (fun _ v => TenancyOp.Changes bcrypt w.db v.db (.updateUserRole context tenantId userId dto))
        w from ends.meets h
  refine Prog.wp_run_bind (Svc.wp_query ?_ unchanged)
  cases read : readById tenantId userId w with
  | error e => exact unchanged e
  | ok found =>
      cases found with
      | none => exact .nothing _
      | some row =>
          have named := readById_ok read
          refine Svc.wp_ite (fun _ => .nothing _) fun allowed => ?_
          refine Prog.wp_run_tryCatch (Prog.wp_run_bind (Svc.wp_saving ?_ unchanged))
          intro saved w₁ h
          have changed : TenancyOp.Changes bcrypt w.db w₁.db
              (.updateUserRole context tenantId userId dto) := by
            have same_id : ({ row with role := dto.role } : User).id = row.id := rfl
            obtain ⟨stamp, t, rows, same⟩ := saveLoaded_ok named.1 same_id h
            rw [same]
            exact .promoted row stamp named (fun super => allowed (.inr super)) rows
          refine Prog.wp_run_bind (Svc.wp_record (fun e h => h)
            (fun event _ => ?_) fun e => changed)
          exact Prog.wp_run_bind (Svc.wp_del changed changed)

end TenantUserManagementService

/-- What a call makes of the tables. -/
theorem TenancyOp.Ends.changes {bcrypt : Bcrypt} {op : TenancyOp} {s s' : DataSource}
    (ends : op.Ends bcrypt s s') : op.Changes bcrypt s.world.db s'.world.db := by
  cases op with
  | create dto =>
      obtain ⟨answer, w, ends, rfl⟩ := ends
      exact TenantService.create_changes ends
  | update id dto =>
      obtain ⟨answer, w, ends, rfl⟩ := ends
      exact TenantService.update_changes ends
  | remove id =>
      obtain ⟨answer, w, ends, rfl⟩ := ends
      exact TenantService.remove_changes ends
  | createTenant dto =>
      obtain ⟨fails, rfl⟩ := ends
      exact TenantProvisioningService.createTenant_changes dto fails s
  | updateTenantStatus tenantId newStatus =>
      obtain ⟨answer, w, ends, rfl⟩ := ends
      exact TenantProvisioningService.updateTenantStatus_changes ends
  | inviteUser context tenantId dto =>
      obtain ⟨answer, w, ends, rfl⟩ := ends
      exact TenantUserManagementService.inviteUser_changes ends
  | updateUserRole context tenantId userId dto =>
      obtain ⟨answer, w, ends, rfl⟩ := ends
      exact TenantUserManagementService.updateUserRole_changes ends

end Tenantory
