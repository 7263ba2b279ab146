import Tenantory.SerialRuns
import Tenantory.TenancyRuns

/-! The status of a tenant over a run. Two services write it; neither looks at the status
that it replaces, so that a tenant takes whatever status a call asks for. -/

namespace Tenantory

open Stored UuidText

/-! ## What a rewritten row leaves -/

namespace Database

variable {db db' : Database} {row written t : Tenant}

theorem rewriteTenant.cases (rewritten : db.rewriteTenant db' row written)
    (mem : row ∈ db.tenants) (ht : t ∈ db.tenants) :
    (t = row ∧ written ∈ db'.tenants) ∨ (t.id ≠ row.id ∧ t ∈ db'.tenants) := by
  obtain ⟨table, rows, rfl⟩ := rewritten
  have image : (if t.id = row.id then written else t) ∈ table.rows := by
    rw [rows]
    exact List.mem_map_of_mem ht
  by_cases same : t.id = row.id
  · rw [if_pos same] at image
    exact .inl ⟨Table.eq_of_id ht mem same, image⟩
  · rw [if_neg same] at image
    exact .inr ⟨same, image⟩

end Database

theorem TenantService.columns_ok {dto : UpdateTenantDto} {row written : Tenant}
    (h : columns (patched dto row) = .ok written) :
    dto.status.assign (some row.status) = some written.status ∧
      written = { row with
        domainName := written.domainName
        businessName := written.businessName
        status := written.status } := by
  obtain ⟨domainName, -, h⟩ := bind_eq_ok.mp h
  obtain ⟨businessName, -, h⟩ := bind_eq_ok.mp h
  obtain ⟨status, asked, last⟩ := bind_eq_ok.mp h
  obtain rfl := Except.ok.inj last
  refine ⟨?_, rfl⟩
  change dto.status.assign (some row.status) = some status
  unfold required at asked
  split at asked
  · rename_i assigned
    cases asked
    exact assigned
  · cases asked

/-! ## Statuses -/

namespace TenantStatus

/-- The transitions of the documented state machine. -/
inductive Transition : TenantStatus → TenantStatus → Prop
  | activate : Transition pending active
  | suspend : Transition active suspended
  | resume : Transition suspended active
  | archive : Transition suspended archived

end TenantStatus

/-- The call asks for the status of the tenant under the id. -/
def TenancyOp.Asks (id : Uuid) (status : TenantStatus) : TenancyOp → Prop
  | update text dto => uuidIn text = some id ∧ dto.status = .value status
  | updateTenantStatus text newStatus => uuidIn text = some id ∧ newStatus = status
  | _ => False

/-- Every tenant stays, with its status or, unless it is removed, with the one asked for. -/
def TenancyOp.StatusAsAsked (op : TenancyOp) (db db' : Database) : Prop :=
  ∀ t ∈ db.tenants, ∃ t' ∈ db'.tenants, t'.id = t.id ∧
    (t'.status = t.status ∨ op.Asks t.id t'.status ∧ t.live = true)

theorem TenancyOp.Changes.status {bcrypt : Bcrypt} {op : TenancyOp} {db db' : Database}
    (changes : op.Changes bcrypt db db') : op.StatusAsAsked db db' := by
  intro t ht
  have stays : ∀ {db' : Database}, db'.tenants = db.tenants → ∃ t' ∈ db'.tenants,
      t'.id = t.id ∧ (t'.status = t.status ∨ op.Asks t.id t'.status ∧ t.live = true) :=
    fun same => ⟨t, by rw [same]; exact ht, rfl, .inl rfl⟩
  cases changes with
  | nothing => exact stays rfl
  | created row _ rows _ =>
      refine ⟨t, ?_, rfl, .inl rfl⟩
      change t ∈ Table.rows _
      rw [rows]
      exact List.mem_append_left _ ht
  | @updated id dto _ row written stamp found columned rewritten =>
      rcases rewritten.cases found.1 ht with ⟨rfl, mem⟩ | ⟨-, mem⟩
      · obtain ⟨assigned, same⟩ := TenantService.columns_ok columned
        refine ⟨_, mem, by rw [same], ?_⟩
        cases asked : dto.status with
        | undefined =>
            rw [asked] at assigned
            exact .inl (Option.some.inj assigned).symm
        | null =>
            rw [asked] at assigned
            cases assigned
        | value status =>
            rw [asked] at assigned
            obtain rfl := Option.some.inj assigned
            exact .inr ⟨⟨found.2.1, asked⟩, found.2.2⟩
      · exact ⟨t, mem, rfl, .inl rfl⟩
  | removed row stamp found rewritten =>
      rcases rewritten.cases found.1 ht with ⟨rfl, mem⟩ | ⟨-, mem⟩
      · exact ⟨_, mem, rfl, .inl rfl⟩
      · exact ⟨t, mem, rfl, .inl rfl⟩
  | provisioned committed =>
      refine ⟨t, ?_, rfl, .inl rfl⟩
      change t ∈ db'.tenants.rows
      rw [committed.tenants]
      exact List.mem_append_left _ ht
  | assigned row stamp found rewritten =>
      rcases rewritten.cases found.1 ht with ⟨rfl, mem⟩ | ⟨-, mem⟩
      · exact ⟨_, mem, rfl, .inr ⟨⟨found.2.1, rfl⟩, found.2.2⟩⟩
      · exact ⟨t, mem, rfl, .inl rfl⟩
  | invited row rows => exact stays rfl
  | promoted row stamp found _ rows => exact stays rfl

/-- Whatever its status is, a tenant takes any other. -/
theorem updateTenantStatus_answers {s : DataSource} {t : Tenant} (ht : t ∈ s.world.db.tenants)
    (live : t.live = true) (fits : misfit t = none) (status : TenantStatus) :
    ∃ s', s.Serves (TenantProvisioningService.updateTenantStatus (uuidOut t.id) status) s' ∧
      ∃ t' ∈ s'.world.db.tenants, t'.id = t.id ∧ t'.status = status := by
  let draft : TenantService.Draft := ⟨t, some t.domainName, some t.businessName, some status⟩
  have read : TenantService.readById (uuidOut t.id) s.world = .ok (some t) := by
    unfold TenantService.readById
    rw [uuidParam_uuidOut]
    refine congrArg Except.ok (Table.find?_of_mem ht (by simp [live]) fun other _ passes => ?_)
    rw [Bool.and_eq_true, beq_iff_eq] at passes
    exact Entity.same_id t other passes.1.symm
  obtain ⟨stamp, overwritten⟩ : ∃ stamp, TenantService.overwrite draft s.world.clock t =
      .ok { t with status := status, updatedAt := stamp } := by
    have unfolded : TenantService.overwrite draft s.world.clock t =
        if ({ t with status := status } : Tenant) = t then .ok t
        else .ok { t with status := status, updatedAt := s.world.clock } := by
      change (if ({ t with status := status } : Tenant) = t then _
        else if t.updatedAt = t.updatedAt then _ else _) = _
      rw [if_pos (rfl : t.updatedAt = t.updatedAt)]
      rfl
    rw [unfolded]
    split
    · rename_i same
      have kept : t.status = status := (congrArg Tenant.status same).symm
      exact ⟨t.updatedAt, by rw [← kept]⟩
    · exact ⟨_, rfl⟩
  have apart : ∀ other ∈ s.world.db.tenants, other.id ≠ t.id →
    conflict t other = false := by
    intro other mem different
    by_contra meets
    have one := Table.eq_of_conflict ht mem (by simpa using meets)
    exact different (by rw [one])
  obtain ⟨w, updated⟩ := World.update_of (w := s.world)
    (f := TenantService.merge { t with status := status, updatedAt := stamp } t) ht rfl
    (by rw [TenantService.merge_self]; exact fits) rfl
    (fun other mem different => by
      rw [TenantService.merge_self]
      exact apart other mem different)
  have saved : TenantService.saveLoaded draft s.world.db s.world =
      .ok ({ t with status := status, updatedAt := stamp }, w) := by
    have found : s.world.db.rowById Tenant draft.entity.id = some t := Database.rowById_of_mem ht
    unfold TenantService.saveLoaded
    rw [found]
    change (TenantService.overwrite draft s.world.clock t >>= _) = _
    rw [overwritten]
    change (World.update s.world t.id _ >>= _) = _
    rw [show World.update s.world t.id _ = .ok w from updated]
    rfl
  have answers : (TenantProvisioningService.updateTenantStatus (uuidOut t.id) status).runs s.world =
      (.ok { t with status := status, updatedAt := stamp }, w) := by
    unfold TenantProvisioningService.updateTenantStatus
    rw [Svc.runs_bind, Svc.runs_query, read, Svc.follow_ok]
    dsimp only
    rw [Svc.runs_tryCatch, Svc.runs_saving, saved, Svc.settle_ok, Svc.rescue_ok]
  have ends := Svc.ends_runs
    (TenantProvisioningService.updateTenantStatus (uuidOut t.id) status) s.world
  obtain ⟨written, stamp', columned, rewritten⟩ :=
    TenantService.saveLoaded_ok ht saved
  cases columned
  rcases rewritten.cases ht ht with ⟨-, mem⟩ | ⟨different, -⟩
  · refine ⟨{ s with world := w }, ⟨_, _, ends, ?_⟩, _, mem, rfl, rfl⟩
    exact congrArg (fun v => { s with world := v }) (congrArg Prod.snd answers).symm
  · exact absurd rfl different

/-- No transition is refused: a call that asks for a status gives it to a tenant that is
not removed, and no other call changes a status. -/
theorem statuses_as_asked (bcrypt : Bcrypt) {start s : DataSource} {calls : List TenancyCall}
    (trace : Trace bcrypt (fun _ _ => True) start calls s) :
    (∀ call ∈ calls, call.op.StatusAsAsked call.before.world.db call.after.world.db) ∧
      ∀ t ∈ s.world.db.tenants, t.live = true → misfit t = none → ∀ status, ∃ s',
        (TenancyOp.updateTenantStatus (uuidOut t.id) status).Ends bcrypt s s' ∧
          ∃ t' ∈ s'.world.db.tenants, t'.id = t.id ∧ t'.status = status := by
  refine ⟨trace.each fun op s s' ends => ends.changes.status, fun t ht live fits status => ?_⟩
  exact updateTenantStatus_answers ht live fits status

namespace SampleShop

def setStatus (status : TenantStatus) (s : DataSource) : DataSource :=
  { s with world := ((TenantProvisioningService.updateTenantStatus (uuidOut tenantId)
      status).run.run (s.arrive 2).world).2 }

theorem setStatus_ends (status : TenantStatus) (s : DataSource) :
    (TenancyOp.updateTenantStatus (uuidOut tenantId) status).Ends hashing (s.arrive 2)
      (setStatus status s) :=
  ⟨_, _, Svc.ends_runs _ _, rfl⟩

def archived : DataSource := setStatus .archived (setStatus .suspended dataSource)

def archiveAndReactivate : List TenancyCall :=
  [⟨.updateTenantStatus (uuidOut tenantId) .active, archived, setStatus .active archived⟩,
    ⟨.updateTenantStatus (uuidOut tenantId) .archived,
      setStatus .suspended dataSource, archived⟩,
    ⟨.updateTenantStatus (uuidOut tenantId) .suspended, dataSource,
      setStatus .suspended dataSource⟩]

theorem archiveAndReactivate_trace : Trace hashing (fun _ _ => True) dataSource
    archiveAndReactivate (setStatus .active archived) :=
  .call _ 2 (.call _ 2 (.call _ 2 .start trivial (setStatus_ends _ _)) trivial
    (setStatus_ends _ _)) trivial (setStatus_ends _ _)

end SampleShop

theorem statuses_as_asked_archived : (∀ call ∈ SampleShop.archiveAndReactivate,
      call.op.StatusAsAsked call.before.world.db call.after.world.db) ∧
    ∃ s', (TenancyOp.updateTenantStatus (uuidOut SampleShop.tenantId) .pending).Ends
        SampleShop.hashing (SampleShop.setStatus .active SampleShop.archived) s' ∧
      ∃ t' ∈ s'.world.db.tenants, t'.id = SampleShop.tenantId ∧ t'.status = .pending := by
  have stored : ∃ t ∈ (SampleShop.setStatus .active SampleShop.archived).world.db.tenants.rows,
      t.id = SampleShop.tenantId ∧ t.live = true ∧ misfit t = none := by decide
  obtain ⟨t, ht, same, live, fits⟩ := stored
  obtain ⟨asked, takes⟩ :=
    statuses_as_asked SampleShop.hashing SampleShop.archiveAndReactivate_trace
  refine ⟨asked, ?_⟩
  rw [← same]
  exact takes t ht live fits .pending

theorem archived_tenant_reactivated :
    ¬ ∀ (bcrypt : Bcrypt) (start s : DataSource) (calls : List TenancyCall),
      Trace bcrypt (fun _ _ => True) start calls s → ∀ call ∈ calls,
        ∀ t ∈ call.before.world.db.tenants, ∀ t' ∈ call.after.world.db.tenants,
          t'.id = t.id →
          t'.status = t.status ∨ t.status.Transition t'.status := by
  intro claim
  have last := claim _ _ _ _ SampleShop.archiveAndReactivate_trace _ List.mem_cons_self
  have before : SampleShop.archived.world.db.tenants.rows.map (fun t => (t.id, t.status)) =
      [(SampleShop.tenantId, .archived)] := by decide
  have after : (SampleShop.setStatus .active SampleShop.archived).world.db.tenants.rows.map
      (fun t => (t.id, t.status)) = [(SampleShop.tenantId, .active)] := by decide
  obtain ⟨t, ht, was⟩ := List.mem_map.mp (before ▸ List.mem_cons_self)
  obtain ⟨t', ht', is⟩ := List.mem_map.mp (after ▸ List.mem_cons_self)
  obtain ⟨named, archived⟩ := Prod.mk.inj was
  obtain ⟨named', active⟩ := Prod.mk.inj is
  rcases last t ht t' ht' (named'.trans named.symm) with same | step
  · rw [archived, active] at same
    cases same
  · rw [archived, active] at step
    cases step

end Tenantory
