import Tenantory.SampleShop
import Tenantory.StoredRows
import Tenantory.TenantProvisioningService

/-! Provisioning as a transaction: which rows a call commits, whatever call of it fails,
and what becomes of the query runner it has taken. -/

namespace Tenantory
namespace TenantProvisioningService

open Stored

variable {s s' : DataSource} {rows : List Inserted} {view : Database}
  {fault : Option FailurePoint → Err → Prop}

/-! ## What a call may leave -/

/-- The rows of a provisioned tenant, and no others, have been added. -/
structure Committed (bcrypt : Bcrypt) (dto : CreateTenantDto) (db db' : Database)
    (tenant : Tenant) (admin : User) (setting : TenantSetting) : Prop where
  tenants : db'.tenants.rows = db.tenants.rows ++ [tenant]
  users : db'.users.rows = db.users.rows ++ [admin]
  tenantSettings : db'.tenantSettings.rows = db.tenantSettings.rows ++ [setting]
  others : db' = { db with
    tenants := db'.tenants, users := db'.users, tenantSettings := db'.tenantSettings }
  tenant_new : ∃ id now, tenant = newTenant dto id now
  admin_new : ∃ id now,
    admin = newAdmin dto tenant.id (bcrypt.hash dto.adminPassword 12) id now
  setting_new : ∃ id now, setting = newSetting tenant.id id now

/-- All rows are committed and the tenant is returned, or none is and the call throws. -/
def Atomic (bcrypt : Bcrypt) (dto : CreateTenantDto) (db : Database) :
    Except Err Tenant → DataSource → Prop
  | .ok tenant, s' => ∃ admin setting, Committed bcrypt dto db s'.world.db tenant admin setting
  | .error _, s' => s'.world.db = db

/-- The one query runner that has been created is released. -/
def Released (s s' : DataSource) : Prop :=
  ∃ runner, s'.queryRunners = s.queryRunners ++ [runner] ∧ runner.isReleased = true

/-! ## The open transaction -/

/-- Since `s` one query runner has been created; its transaction has inserted `rows`, with
which it sees `view`, and nothing has been committed. -/
structure Opened (s s' : DataSource) (rows : List Inserted) (view : Database) : Prop where
  world : s'.world = { s.world with ids := s'.world.ids }
  runner : ∃ r, s'.queryRunners = s.queryRunners ++ [r] ∧ r.transaction = some rows
  sees : rows.foldlM (fun db row => row.into db) s.world.db = .ok view

theorem modify_last {α : Type} (f : α → α) (before : List α) (a : α) :
    (before ++ [a]).modify before.length f = before ++ [f a] := by
  induction before with
  | nil => rfl
  | cons b before ih => simpa using ih

theorem modify_created {r : QueryRunner} (h : s'.queryRunners = s.queryRunners ++ [r])
    (f : QueryRunner → QueryRunner) :
    (s'.modifyRunner s.queryRunners.length f).queryRunners = s.queryRunners ++ [f r] := by
  change s'.queryRunners.modify s.queryRunners.length f = _
  rw [h, modify_last]

namespace Opened

variable (opened : Opened s s' rows view)

include opened

theorem db : s'.world.db = s.world.db := by
  rw [opened.world]

theorem view_eq : s'.view s.queryRunners.length = .ok view := by
  obtain ⟨r, created, transaction⟩ := opened.runner
  unfold DataSource.view
  rw [created, opened.db]
  simp [transaction, opened.sees]

/-! Each statement leaves the transaction open when it fails. -/

theorem wp_findOne {ρ : Type} [Stored ρ] {point : FailurePoint} {p : ρ → Bool}
    {post : Except Err (Option ρ) → DataSource → Prop}
    (found : post (.ok ((table view).find? p)) s') (failed : ∀ e, post (.error e) s') :
    (findOne point s.queryRunners.length p).run.wp fault post s' := by
  refine ⟨?_, fun e _ => failed e⟩
  change post ((s'.view s.queryRunners.length).map _) s'
  rw [opened.view_eq]
  exact found

theorem insert_cases {ρ : Type} [LawfulTable ρ] (inserted : ρ → Inserted)
    (build : Uuid → Timestamp → ρ) :
    (∃ e, insert s.queryRunners.length inserted build s' = (.error e, s')) ∨
      ∃ id ids row t, row = build id s'.world.clock ∧ t.rows = (table view).rows ++ [row] ∧
        view.insertRow row = .ok (put t view) ∧
        insert s.queryRunners.length inserted build s' =
          (.ok row, { s' with world := { s'.world with ids } }.modifyRunner s.queryRunners.length
            fun r => { r with transaction := r.transaction.map (· ++ [inserted row]) }) := by
  unfold insert
  rw [opened.view_eq]
  cases h : { s'.world with db := view }.insert build with
  | error e => exact .inl ⟨e, by simp only [h]⟩
  | ok result =>
      obtain ⟨row, w⟩ := result
      obtain ⟨db, stored, built⟩ := bind_eq_ok.mp h
      obtain ⟨-, -, t, grown, rfl⟩ := Database.insertRow_ok stored
      obtain ⟨rfl, rfl⟩ := Prod.mk.inj (Except.ok.inj built)
      exact .inr ⟨s'.world.ids 0, fun n => s'.world.ids (n + 1), _, t, rfl,
        (Table.insert?_eq_some grown).1, stored, by simp only [h]⟩

theorem wp_save {ρ : Type} [LawfulTable ρ] {point : FailurePoint} {inserted : ρ → Inserted}
    {build : Uuid → Timestamp → ρ} {post : Except Err ρ → DataSource → Prop}
    (into : ∀ row db, (inserted row).into db = db.insertRow row)
    (saved : ∀ id row t s'', row = build id s.world.clock →
      t.rows = (table view).rows ++ [row] →
        Opened s s'' (rows ++ [inserted row]) (put t view) → post (.ok row) s'')
    (failed : ∀ e, post (.error e) s') :
    (save point s.queryRunners.length inserted build).run.wp fault post s' := by
  refine ⟨?_, fun e _ => failed e⟩
  change post (insert s.queryRunners.length inserted build s').1
    (insert s.queryRunners.length inserted build s').2
  rcases opened.insert_cases inserted build with ⟨e, refused⟩ |
    ⟨id, ids, row, t, built, grown, stored, accepted⟩
  · rw [refused]
    exact failed e
  · rw [accepted]
    obtain ⟨r, created, transaction⟩ := opened.runner
    rw [opened.world] at built
    refine saved id row t _ built grown ⟨?_, ⟨_, modify_created created _, ?_⟩, ?_⟩
    · change { s'.world with ids } = { s.world with ids }
      rw [opened.world]
    · rw [transaction]
      rfl
    · rw [List.foldlM_append, opened.sees]
      change [inserted row].foldlM (fun db row => row.into db) view = .ok (put t view)
      rw [List.foldlM_cons, into, stored]
      rfl

theorem wp_commitTransaction {post : Except Err Unit → DataSource → Prop}
    (committed : ∀ s'', s''.world = { s'.world with db := view } →
      (∃ r, s''.queryRunners = s.queryRunners ++ [r]) → post (.ok ()) s'')
    (failed : ∀ e, post (.error e) s') :
    (commitTransaction s.queryRunners.length).run.wp fault post s' := by
  obtain ⟨r, created, -⟩ := opened.runner
  refine ⟨?_, fun e _ => failed e⟩
  change post (commit s.queryRunners.length s').1 (commit s.queryRunners.length s').2
  unfold commit
  rw [opened.view_eq]
  exact committed _ rfl ⟨_, modify_created created _⟩

end Opened

theorem wp_throwIf {wrong : Bool} {error : Err} {post : Except Err Unit → DataSource → Prop}
    (passed : post (.ok ()) s) (thrown : post (.error error) s) :
    (throwIf wrong error).run.wp fault post s := by
  cases wrong with
  | true => exact thrown
  | false => exact passed

/-- The transaction, however its calls fail. -/
theorem wp_provision (bcrypt : Bcrypt) (dto : CreateTenantDto)
    (opened : Opened s s' [] s.world.db) :
    (provision bcrypt dto s.queryRunners.length).run.wp fault
      (fun r s' => Atomic bcrypt dto s.world.db r s' ∧
        ∃ runner, s'.queryRunners = s.queryRunners ++ [runner]) s' := by
  have failed : ∀ {rows : List Inserted} {view : Database} {s' : DataSource},
      Opened s s' rows view → ∀ e, Atomic bcrypt dto s.world.db (.error e) s' ∧
        ∃ runner, s'.queryRunners = s.queryRunners ++ [runner] := by
    intro rows view s' opened _
    obtain ⟨r, created, -⟩ := opened.runner
    exact ⟨opened.db, r, created⟩
  unfold provision
  refine Prog.wp_run_bind (opened.wp_findOne ?_ (failed opened))
  refine Prog.wp_run_bind (wp_throwIf ?_ (failed opened _))
  refine Prog.wp_run_bind (opened.wp_save (fun _ _ => rfl) ?_ (failed opened))
  rintro id tenant tenants s₁ rfl with_tenant opened₁
  refine Prog.wp_run_bind (opened₁.wp_findOne ?_ (failed opened₁))
  refine Prog.wp_run_bind (wp_throwIf ?_ (failed opened₁ _))
  refine Prog.wp_run_bind ⟨?_, fun e _ => failed opened₁ e⟩
  refine Prog.wp_run_bind (opened₁.wp_save (fun _ _ => rfl) ?_ (failed opened₁))
  rintro adminId admin users s₂ is_admin with_admin opened₂
  refine Prog.wp_run_bind (opened₂.wp_save (fun _ _ => rfl) ?_ (failed opened₂))
  rintro settingId setting settings s₃ is_setting with_setting opened₃
  refine Prog.wp_run_bind (opened₃.wp_commitTransaction ?_ (failed opened₃))
  intro s₄ committed created
  refine ⟨⟨admin, setting, ?_⟩, created⟩
  rw [committed]
  exact ⟨with_tenant, with_admin, with_setting, rfl, ⟨_, _, rfl⟩, ⟨_, _, is_admin⟩,
    ⟨_, _, is_setting⟩⟩

/-! ## The call -/

/-- The query runner is released whatever the transaction has come to. -/
theorem wp_release {r : QueryRunner} {post : Except Err Unit → DataSource → Prop}
    (created : s'.queryRunners = s.queryRunners ++ [r])
    (never : ∀ e, ¬ fault none e)
    (released : ∀ s'', s''.world = s'.world → Released s s'' → post (.ok ()) s'') :
    (release s.queryRunners.length).run.wp fault post s' :=
  ⟨released _ rfl ⟨_, modify_created created _, rfl⟩, fun e faulty =>
    absurd faulty (never e)⟩

theorem Atomic.of_world {bcrypt : Bcrypt} {dto : CreateTenantDto} {db : Database}
    {answer : Except Err Tenant} (h : Atomic bcrypt dto db answer s) (same : s'.world = s.world) :
    Atomic bcrypt dto db answer s' := by
  cases answer with
  | ok tenant =>
      change ∃ admin setting, Committed bcrypt dto db s'.world.db tenant admin setting
      rw [same]
      exact h
  | error e => exact (congrArg World.db same).trans h

theorem wp_createTenant (bcrypt : Bcrypt) (dto : CreateTenantDto) (never : ∀ e, ¬ fault none e)
    (connects : ∀ e, ¬ fault (some .connect) e)
    (starts : ∀ e, ¬ fault (some .startTransaction) e) :
    (createTenant bcrypt dto).run.wp fault
      (fun r s' => Atomic bcrypt dto s.world.db r s' ∧ Released s s') s := by
  unfold createTenant
  refine Prog.wp_run_bind ⟨?_, fun e faulty => absurd faulty (never e)⟩
  refine Prog.wp_run_bind ⟨?_, fun e faulty => absurd faulty (connects e)⟩
  refine Prog.wp_run_bind ⟨?_, fun e faulty => absurd faulty (starts e)⟩
  have created : ({ s with queryRunners := s.queryRunners ++ [⟨false, none, false⟩] } :
      DataSource).queryRunners = s.queryRunners ++ [⟨false, none, false⟩] := rfl
  have connected := modify_created created fun r => { r with connected := true }
  refine Prog.wp_run_tryFinally (Prog.wp_run_tryCatch
    (Prog.wp_mono (wp_provision bcrypt dto ?_) ?_))
  · exact ⟨rfl, ⟨_, modify_created connected _, rfl⟩, rfl⟩
  rintro answer s' ⟨atomic, r, created⟩
  cases answer with
  | ok tenant =>
      exact wp_release created never fun s'' same released => ⟨atomic.of_world same, released⟩
  | error e =>
      have released : ∀ {s'' : DataSource} {r : QueryRunner} (thrown : Err),
        s''.world = s'.world →
          s''.queryRunners = s.queryRunners ++ [r] → (release s.queryRunners.length).run.wp fault
            (fun c t => match c with
              | .ok _ => Atomic bcrypt dto s.world.db (.error thrown) t ∧ Released s t
              | .error e => Atomic bcrypt dto s.world.db (.error e) t ∧ Released s t) s'' :=
        fun thrown same created => wp_release created never fun t kept released =>
          ⟨(congrArg World.db (kept.trans same)).trans atomic, released⟩
      exact Prog.wp_run_bind ⟨released _ rfl (modify_created created _),
        fun e' _ => released e' rfl created⟩

/-- A call of which the points that `fails` names fail. -/
def outcome (bcrypt : Bcrypt) (dto : CreateTenantDto) (fails : FailurePoint → Option Err)
    (s : DataSource) : Except Err Tenant × DataSource :=
  (createTenant bcrypt dto).run.runFailing (fun point => point.bind fails) s

theorem runFailing_call {β : Type} (fails : Option FailurePoint → Option Err)
    (point : Option FailurePoint) (act : DataSource → Except Err β × DataSource)
    (s : DataSource) :
    (call point act).run.runFailing fails s = match fails point with
      | some e => (.error e, s)
      | none => act s := by
  refine (Prog.runFailing_throwing fails s ⟨point, fun _ => true, act⟩).trans ?_
  dsimp only
  cases fails point <;> rfl

/-- Nothing before the `try` is undone. -/
theorem outcome_unstarted {fails : FailurePoint → Option Err} {e : Err} (bcrypt : Bcrypt)
    (dto : CreateTenantDto) (s : DataSource) (failed : fails .connect = some e ∨
      fails .connect = none ∧ fails .startTransaction = some e) :
    (outcome bcrypt dto fails s).2.world = s.world ∧
      ∃ runner, (outcome bcrypt dto fails s).2.queryRunners = s.queryRunners ++ [runner] ∧
        runner.isReleased = false := by
  unfold outcome createTenant createQueryRunner connect startTransaction
  rcases failed with connects | ⟨connects, starts⟩
  · simp only [Prog.runFailing_run_bind, runFailing_call, Option.bind_some, Option.bind_none,
      connects]
    exact ⟨trivial, _, rfl, rfl⟩
  · simp only [Prog.runFailing_run_bind, runFailing_call, Option.bind_some,
      Option.bind_none, connects,
      starts]
    exact ⟨rfl, _, modify_created rfl _, rfl⟩

theorem unstarted_or {fails : FailurePoint → Option Err} :
    (∃ e, fails .connect = some e ∨ fails .connect = none ∧
      fails .startTransaction = some e) ∨
      fails .connect = none ∧ fails .startTransaction = none := by
  cases connects : fails .connect with
  | some e => exact .inl ⟨e, .inl rfl⟩
  | none =>
      cases starts : fails .startTransaction with
      | some e => exact .inl ⟨e, .inr ⟨rfl, rfl⟩⟩
      | none => exact .inr ⟨rfl, rfl⟩

theorem outcome_started {fails : FailurePoint → Option Err} (bcrypt : Bcrypt)
    (dto : CreateTenantDto) (s : DataSource)
    (started : fails .connect = none ∧ fails .startTransaction = none) :
    Atomic bcrypt dto s.world.db (outcome bcrypt dto fails s).1 (outcome bcrypt dto fails s).2 ∧
      Released s (outcome bcrypt dto fails s).2 := by
  have adequate := Prog.exec_runFailing (fun point : Option FailurePoint => point.bind fails)
    (createTenant bcrypt dto).run s
  have provisioned := Prog.wp_exec (wp_createTenant bcrypt dto (fun e none => nomatch none)
    (fun e failed => ?_) fun e failed => ?_) adequate
  · exact provisioned
  · cases started.1.symm.trans failed
  · cases started.2.symm.trans failed

/-- A call is all or nothing, and gives its query runner back, unless that has failed to
connect or to start its transaction. -/
theorem createTenant_atomic_iff (bcrypt : Bcrypt) (dto : CreateTenantDto)
    (fails : FailurePoint → Option Err) (s : DataSource) :
    (Atomic bcrypt dto s.world.db (outcome bcrypt dto fails s).1 (outcome bcrypt dto fails s).2 ∧
        Released s (outcome bcrypt dto fails s).2) ↔
      fails .connect = none ∧ fails .startTransaction = none := by
  refine ⟨fun ⟨_, runner, created, released⟩ => ?_, outcome_started bcrypt dto s⟩
  rcases unstarted_or with ⟨e, failed⟩ | started
  · obtain ⟨-, unreleased, same, held⟩ := outcome_unstarted bcrypt dto s failed
    have one : [runner] = [unreleased] := List.append_cancel_left (created.symm.trans same)
    rw [(List.cons.inj one).1, held] at released
    cases released
  · exact started

end TenantProvisioningService

namespace SampleShop

open TenantProvisioningService

def dataSource : DataSource := ⟨world unstocked, []⟩

def newShop : TenantProvisioningService.CreateTenantDto :=
  ⟨"bolt", "Bolt", "ada@bolt.example", "Ada", "Bolt", "correct horse"⟩

/-- BEGIN is refused after the connection has been taken. -/
def refusedBegin : FailurePoint → Option Err
  | .startTransaction => some (.other "Connection terminated unexpectedly")
  | _ => none

end SampleShop

theorem connection_of_refused_begin_is_kept :
    ¬ ∀ (bcrypt : Bcrypt) (dto : TenantProvisioningService.CreateTenantDto)
      (fails : TenantProvisioningService.FailurePoint → Option Err) (s : DataSource),
      TenantProvisioningService.Atomic bcrypt dto s.world.db
          (TenantProvisioningService.outcome bcrypt dto fails s).1
          (TenantProvisioningService.outcome bcrypt dto fails s).2 ∧
        TenantProvisioningService.Released s
          (TenantProvisioningService.outcome bcrypt dto fails s).2 := by
  intro claim
  obtain ⟨-, runner, created, released⟩ := claim SampleShop.hashing SampleShop.newShop
    SampleShop.refusedBegin SampleShop.dataSource
  have left : (TenantProvisioningService.outcome SampleShop.hashing SampleShop.newShop
      SampleShop.refusedBegin SampleShop.dataSource).2.queryRunners = [⟨true, none, false⟩] :=
        rfl
  rw [left] at created
  obtain ⟨rfl, -⟩ := List.cons.inj created
  cases released

end Tenantory
