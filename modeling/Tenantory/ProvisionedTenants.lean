import Tenantory.TenantSettingService
import Tenantory.TenantStatuses

/-! What a tenant needs beside its own row: its settings and an administrator. A tenant
that is provisioned has them from its transaction; one that is only created has not, and
the last administrator may be given another role. -/

namespace Tenantory

open Stored UuidText

def User.administers (tenant : Uuid) (row : User) : Bool :=
  row.tenantId == tenant && row.role == .tenantAdmin && row.live

/-- Every live tenant has exactly one settings row and an administrator. -/
def Database.Provisioned (db : Database) : Prop :=
  ∀ t ∈ db.tenants, t.live = true →
    (∃! setting, setting ∈ db.tenantSettings ∧ setting.tenantId = t.id) ∧
      ∃ admin ∈ db.users, admin.administers t.id = true

/-- No tenant is only created, and no tenant loses its last administrator. -/
def TenancyOp.SparesProvisioned (op : TenancyOp) (db : Database) : Prop :=
  match op with
  | create dto => ∃ t ∈ db.tenants, t.domainName = dto.domainName
  | updateUserRole _ tenantId userId dto => ∀ u : User, u.Found tenantId userId db →
      db.liveTenant u.tenantId = true → u.role = .tenantAdmin → dto.role ≠ .superAdmin →
        dto.role = .tenantAdmin ∨
          ∃ other ∈ db.users, other.id ≠ u.id ∧ other.administers u.tenantId = true
  | _ => True

namespace Database

variable {db db' : Database} {t : Tenant}

/-- A tenant has never more than one settings row. -/
theorem setting_unique {id : Uuid} :
    (∃! setting, setting ∈ db.tenantSettings ∧ setting.tenantId = id) ↔
      ∃ setting ∈ db.tenantSettings, setting.tenantId = id := by
  refine ⟨fun ⟨setting, owned, _⟩ => ⟨setting, owned⟩,
    fun ⟨setting, mem, owned⟩ => ?_⟩
  refine ⟨setting, ⟨mem, owned⟩, fun other ⟨mem', owned'⟩ => ?_⟩
  refine Table.eq_of_conflict mem' mem ?_
  change (other.id == setting.id || other.tenantId == setting.tenantId) = true
  rw [owned, owned']
  simp

/-- Rows are only added, and no tenant is new or revived. -/
theorem Provisioned.of_more (provisioned : db.Provisioned)
    (tenants : ∀ t ∈ db'.tenants, t.live = true →
      ∃ t' ∈ db.tenants, t'.id = t.id ∧ t'.live = true)
    (settings : ∀ setting ∈ db.tenantSettings, setting ∈ db'.tenantSettings)
    (users : ∀ t ∈ db.tenants, t.live = true → ∀ u ∈ db.users,
      u.administers t.id = true →
      ∃ v ∈ db'.users, v.administers t.id = true) : db'.Provisioned := by
  intro t ht live
  obtain ⟨t', ht', same, live'⟩ := tenants t ht live
  obtain ⟨setting, admin, mem, administers⟩ := provisioned t' ht' live'
  obtain ⟨setting, mem', owned⟩ := setting_unique.mp setting
  rw [← same]
  exact ⟨setting_unique.mpr ⟨setting, settings setting mem', owned⟩,
    users t' ht' live' admin mem administers⟩

/-- A rewritten row keeps its id and its removal. -/
theorem rewriteTenant.live_of {row written : Tenant} (rewritten : db.rewriteTenant db' row written)
    (mem : row ∈ db.tenants) (same : written.id = row.id)
    (removed : written.live = true → row.live = true) :
    ∀ t ∈ db'.tenants, t.live = true → ∃ t' ∈ db.tenants,
      t'.id = t.id ∧ t'.live = true := by
  obtain ⟨table, rows, rfl⟩ := rewritten
  intro t ht live
  change t ∈ table.rows at ht
  rw [rows] at ht
  obtain ⟨before, stored, image⟩ := List.mem_map.mp ht
  by_cases own : before.id = row.id
  · rw [if_pos own] at image
    subst image
    exact ⟨row, mem, same.symm, removed live⟩
  · rw [if_neg own] at image
    subst image
    exact ⟨before, stored, rfl, live⟩

end Database

theorem TenancyOp.Changes.keeps_provisioned {bcrypt : Bcrypt} {op : TenancyOp} {db db' : Database}
    (changes : op.Changes bcrypt db db') (spares : op.SparesProvisioned db)
    (before : db.Provisioned) : db'.Provisioned := by
  have rewritten_spares : ∀ {row written : Tenant} {id : String}, row.Found id db →
      db.rewriteTenant db' row written → written.id = row.id → db'.Provisioned := by
    intro row written id found rewritten same
    refine before.of_more (rewritten.live_of found.1 same fun _ => found.2.2) ?_ ?_
    · obtain ⟨table, -, rfl⟩ := rewritten
      exact fun setting mem => mem
    · obtain ⟨table, -, rfl⟩ := rewritten
      exact fun t _ _ admin mem administers => ⟨admin, mem, administers⟩
  cases changes with
  | nothing => exact before
  | created row named rows free =>
      obtain ⟨t, ht, taken⟩ := spares
      have apart := free t ht
      change (row.id == t.id || row.domainName == t.domainName) = false at apart
      simp [named, taken] at apart
  | updated row written stamp found columned rewritten =>
      obtain ⟨-, same⟩ := TenantService.columns_ok columned
      exact rewritten_spares found rewritten (by rw [same])
  | removed row stamp found rewritten => exact rewritten_spares found rewritten rfl
  | assigned row stamp found rewritten => exact rewritten_spares found rewritten rfl
  | @provisioned dto _ tenant admin setting committed =>
      obtain ⟨_, _, is_admin⟩ := committed.admin_new
      obtain ⟨_, _, is_setting⟩ := committed.setting_new
      intro t ht live
      have grown : t ∈ db.tenants ∨ t = tenant := by
        change t ∈ db'.tenants.rows at ht
        rw [committed.tenants] at ht
        simpa using ht
      rcases grown with old | rfl
      · obtain ⟨setting, admin, mem, administers⟩ := before t old live
        obtain ⟨setting, mem', owned⟩ := Database.setting_unique.mp setting
        refine ⟨Database.setting_unique.mpr ⟨setting, ?_, owned⟩, admin, ?_, administers⟩
        · change setting ∈ db'.tenantSettings.rows
          rw [committed.tenantSettings]
          exact List.mem_append_left _ mem'
        · change admin ∈ db'.users.rows
          rw [committed.users]
          exact List.mem_append_left _ mem
      · refine ⟨Database.setting_unique.mpr ⟨setting, ?_, by rw [is_setting]; rfl⟩,
          admin, ?_, ?_⟩
        · change setting ∈ db'.tenantSettings.rows
          rw [committed.tenantSettings]
          exact List.mem_append_right _ List.mem_cons_self
        · change admin ∈ db'.users.rows
          rw [committed.users]
          exact List.mem_append_right _ List.mem_cons_self
        · rw [is_admin]
          simp [User.administers, TenantProvisioningService.newAdmin, User.live]
  | invited row rows =>
      refine before.of_more (fun t ht live => ⟨t, ht, rfl, live⟩) (fun setting mem => mem)
        fun t _ _ admin mem administers => ⟨admin, ?_, administers⟩
      change admin ∈ Table.rows _
      rw [rows]
      exact List.mem_append_left _ mem
  | @promoted context tenantId userId dto table row stamp found allowed rows =>
      refine before.of_more (fun t ht live => ⟨t, ht, rfl, live⟩) (fun setting mem => mem) ?_
      intro t ht live admin mem administers
      have image : ∀ u ∈ db.users, (if u.id = row.id then
          { row with role := dto.role, updatedAt := stamp } else u) ∈ table := fun u hu => by
        change _ ∈ table.rows
        rw [rows]
        exact List.mem_map_of_mem hu
      by_cases own : admin.id = row.id
      · obtain rfl := Table.eq_of_id mem found.1 own
        simp only [User.administers, Bool.and_eq_true, beq_iff_eq] at administers
        obtain ⟨⟨owned, role⟩, live_admin⟩ := administers
        have live_tenant : db.liveTenant admin.tenantId = true := by
          refine List.any_eq_true.mpr ⟨t, ht, ?_⟩
          rw [owned, beq_self_eq_true, Bool.true_and]
          exact live
        rcases spares admin found live_tenant role allowed with kept |
          ⟨other, mem', apart, also⟩
        · refine ⟨_, image admin mem, ?_⟩
          rw [if_pos rfl]
          simp only [User.administers, Bool.and_eq_true, beq_iff_eq]
          exact ⟨⟨owned, kept⟩, live_admin⟩
        · have kept := image other mem'
          rw [if_neg apart] at kept
          exact ⟨other, kept, owned ▸ also⟩
      · have kept := image admin mem
        rw [if_neg own] at kept
        exact ⟨admin, kept, administers⟩

/-! ## Settings -/

namespace TenantSettingService

variable {w : World} {tenant : Tenant} {tenantId : String} {setting : TenantSetting}

theorem getSettings_answers (text : uuidIn tenantId = some tenant.id)
    (provisioned : w.db.Provisioned) (ht : tenant ∈ w.db.tenants) (live : tenant.live = true) :
    ∃ setting ∈ w.db.tenantSettings, setting.tenantId = tenant.id ∧
      (getSettings tenantId).runs w = (.ok setting, w) := by
  obtain ⟨setting, mem, owned⟩ := Database.setting_unique.mp (provisioned tenant ht live).1
  have read : readByTenant tenantId w = .ok (some setting) := by
    unfold readByTenant
    rw [uuidParam_eq_ok.mpr text]
    refine congrArg Except.ok (Table.find?_of_mem mem (by simp [owned]) fun other _ same => ?_)
    change (setting.id == other.id || setting.tenantId == other.tenantId) = true
    rw [owned, beq_iff_eq.mp same]
    simp
  refine ⟨setting, mem, owned, ?_⟩
  unfold getSettings
  rw [Svc.runs_bind, Svc.runs_query, read, Svc.follow_ok]
  rfl

theorem overwrite_eq (entity : TenantSetting) (now : Timestamp) (row : TenantSetting) :
    ∃ stamp, overwrite entity now row = { entity with updatedAt := stamp } := by
  unfold overwrite
  split
  · rename_i same
    exact ⟨entity.updatedAt, same.symm⟩
  · split
    · exact ⟨now, rfl⟩
    · exact ⟨entity.updatedAt, rfl⟩

/-- New values in the JSON column of a stored row are saved. -/
theorem saveLoaded_of {edited : TenantSetting} (mem : setting ∈ w.db.tenantSettings)
    (ht : tenant ∈ w.db.tenants) (owned : setting.tenantId = tenant.id)
    (same : edited.id = setting.id) (same_tenant : edited.tenantId = setting.tenantId) :
    ∃ saved w', saveLoaded edited w.db w = .ok (saved, w') := by
  have found : w.db.rowById TenantSetting edited.id = some setting := by
    rw [same]
    exact Database.rowById_of_mem mem
  obtain ⟨stamp, overwritten⟩ := overwrite_eq edited w.clock setting
  let f := merge { edited with updatedAt := stamp } setting
  have written : f setting = { edited with updatedAt := stamp } := merge_self _ _
  have keys : dangling w.db (f setting) = false := by
    rw [written]
    simp only [dangling, hasTenant, Bool.not_eq_eq_eq_not, Bool.not_false]
    exact List.any_eq_true.mpr ⟨tenant, ht, by simp [same_tenant, owned]⟩
  have apart : ∀ other ∈ w.db.tenantSettings, other.id ≠ edited.id →
      conflict (f setting) other = false := by
    intro other mem' different
    rw [written]
    change (edited.id == other.id || edited.tenantId == other.tenantId) = false
    rw [same, same_tenant]
    by_contra meets
    have one := Table.eq_of_conflict mem mem' ((Bool.not_eq_false _).mp meets)
    exact different (by rw [← one, same])
  obtain ⟨w', updated⟩ := World.update_of (w := w) (f := f) mem same.symm rfl keys apart
  refine ⟨{ edited with updatedAt := stamp }, w', ?_⟩
  unfold saveLoaded
  rw [found]
  dsimp only
  rw [overwritten, updated]
  rfl

/-- An update of the settings of a live tenant only fails where its audit has no tenant. -/
theorem updateSettings_answers (text : uuidIn tenantId = some tenant.id)
    (provisioned : w.db.Provisioned) (ht : tenant ∈ w.db.tenants) (live : tenant.live = true)
    (context : Option AuditContextData) (dto : UpdateSettingsDto) :
    (∃ saved, ((updateSettings context tenantId dto).runs w).1 = .ok saved) ∨
      ((updateSettings context tenantId dto).runs w).1 = .error AuditService.missingTenant := by
  obtain ⟨setting, mem, owned, got⟩ := getSettings_answers text provisioned ht live
  have kept : (merged dto setting).id = setting.id ∧
      (merged dto setting).tenantId = setting.tenantId := by
    unfold merged
    split <;> exact ⟨rfl, rfl⟩
  obtain ⟨saved, w', saves⟩ := saveLoaded_of mem ht owned kept.1 kept.2
  unfold updateSettings
  rw [Svc.runs_bind, got, Svc.follow_ok]
  dsimp only
  rw [Svc.runs_bind, Svc.runs_saving, saves, Svc.settle_ok, Svc.follow_ok, Svc.runs_bind,
    Svc.runs_record]
  split
  · exact .inl ⟨saved, rfl⟩
  · exact .inr rfl

end TenantSettingService

/-! ## Runs -/

/-- A live tenant of a provisioned database finds its settings. -/
def Database.SettingsFound (w : World) : Prop :=
  ∀ t ∈ w.db.tenants, t.live = true → ∀ tenantId, uuidIn tenantId = some t.id →
    (∃ setting, ((TenantSettingService.getSettings tenantId).runs w).1 = .ok setting) ∧
      ∀ context dto message,
        ((TenantSettingService.updateSettings context tenantId dto).runs w).1 ≠
          .error (.notFound message)

/-- Where no tenant is only created and none loses its last administrator, every live tenant
keeps its settings row and an administrator. -/
theorem provisioned_reached (bcrypt : Bcrypt) {start s : DataSource} {calls : List TenancyCall}
    (initial : start.world.db.Provisioned)
    (trace : Trace bcrypt TenancyOp.SparesProvisioned start calls s) :
    s.world.db.Provisioned ∧ Database.SettingsFound s.world := by
  have provisioned : s.world.db.Provisioned :=
    trace.invariant (fun op s s' before spares ends =>
      ends.changes.keeps_provisioned spares before) initial
  refine ⟨provisioned, fun t ht live tenantId text => ⟨?_, fun context dto message => ?_⟩⟩
  · obtain ⟨setting, -, -, got⟩ :=
      TenantSettingService.getSettings_answers text provisioned ht live
    exact ⟨setting, by rw [got]⟩
  · rcases TenantSettingService.updateSettings_answers text provisioned ht live context dto with
      ⟨saved, answered⟩ | failed
    · rw [answered]
      exact fun h => nomatch h
    · rw [failed]
      exact fun h => nomatch h

namespace SampleShop

def noShops : DataSource := ⟨world .empty, []⟩

theorem noShops_provisioned : noShops.world.db.Provisioned := fun _ none => nomatch none

def provisionedShop : DataSource :=
  (TenantProvisioningService.outcome hashing newShop (fun _ => none) (noShops.arrive 2)).2

/-- The settings of a second tenant are not saved. -/
def unsetShop : DataSource :=
  (TenantProvisioningService.outcome hashing { newShop with domainName := "cord" }
    (fun point => if point = .saveSetting then some (.other "Connection terminated") else none)
    (provisionedShop.arrive 3)).2

def shopContext : Option AuditContextData := some ⟨some (uuidOut 1000), none, none, none, none⟩

def secondAdmin : InviteUserDto :=
  ⟨"kai@bolt.example", "Kai", "Ito", .tenantAdmin, "correct horse"⟩

/-- What a service leaves. -/
def servedAt {α : Type} (s : DataSource) (now : Timestamp) (p : Svc α) : DataSource :=
  { s with world := (p.run.run (s.arrive now).world).2 }

def coManaged : DataSource := servedAt unsetShop 4
  (TenantUserManagementService.inviteUser hashing shopContext (uuidOut 1000) secondAdmin)

def handedOver : DataSource := servedAt coManaged 5
  (TenantUserManagementService.updateUserRole shopContext (uuidOut 1000)
    (uuidOut 1001) ⟨.auditor⟩)

def suspendedShop : DataSource := servedAt handedOver 6
  (TenantProvisioningService.updateTenantStatus (uuidOut 1000) .suspended)

/-- A tenant is provisioned, another one is rolled back, and the first gets another administrator
in the place of its first one and is suspended. -/
def handover : List TenancyCall :=
  [⟨.updateTenantStatus (uuidOut 1000) .suspended, handedOver, suspendedShop⟩,
    ⟨.updateUserRole shopContext (uuidOut 1000) (uuidOut 1001) ⟨.auditor⟩, coManaged,
      handedOver⟩,
    ⟨.inviteUser shopContext (uuidOut 1000) secondAdmin, unsetShop, coManaged⟩,
    ⟨.createTenant { newShop with domainName := "cord" }, provisionedShop, unsetShop⟩,
    ⟨.createTenant newShop, noShops, provisionedShop⟩]

/-- The first administrator does not leave the tenant without one. -/
theorem handover_spares : TenancyOp.SparesProvisioned
    (.updateUserRole shopContext (uuidOut 1000) (uuidOut 1001) ⟨.auditor⟩)
    coManaged.world.db := by
  rintro u ⟨-, named, owner, -⟩ - - -
  have other : ∃ other ∈ coManaged.world.db.users.rows,
      other.id ≠ 1001 ∧ other.administers 1000 = true := by decide +kernel
  have same : 1001 = u.id := Option.some.inj ((uuidIn_uuidOut 1001).symm.trans named)
  have own : 1000 = u.tenantId := Option.some.inj ((uuidIn_uuidOut 1000).symm.trans owner)
  rw [← same, ← own]
  exact .inr other

theorem handover_trace :
    Trace hashing TenancyOp.SparesProvisioned noShops handover suspendedShop := by
  refine .call _ 6 (.call _ 5 (.call _ 4 (.call _ 3 (.call _ 2 .start trivial ?_) trivial ?_)
    trivial ?_) handover_spares ?_) trivial ?_
  · exact ⟨fun _ => none, rfl⟩
  · exact ⟨fun point => if point = .saveSetting then some (.other "Connection terminated")
      else none, rfl⟩
  all_goals exact ⟨_, _, Svc.ends_runs _ _, rfl⟩

def acme : CreateTenantDto := ⟨"acme", "Acme", .active⟩

def createdShop : DataSource :=
  { noShops with world := ((TenantService.create acme).run.run (noShops.arrive 2).world).2 }

theorem createdShop_trace : Trace hashing (fun _ _ => True) noShops
    [⟨.create acme, noShops, createdShop⟩] createdShop :=
  .call _ 2 .start trivial ⟨_, _, Svc.ends_runs _ _, rfl⟩

end SampleShop

theorem provisioned_reached_shop :
    SampleShop.suspendedShop.world.db.users.rows.map User.role = [.auditor, .tenantAdmin] ∧
    SampleShop.suspendedShop.world.db.tenants.rows.map Tenant.status = [.suspended] ∧
    SampleShop.suspendedShop.world.db.Provisioned ∧
    Database.SettingsFound SampleShop.suspendedShop.world :=
  ⟨by decide +kernel, by decide +kernel, provisioned_reached SampleShop.hashing
    SampleShop.noShops_provisioned SampleShop.handover_trace⟩

theorem created_tenant_lacks_settings :
    ¬ ∀ (bcrypt : Bcrypt) (start s : DataSource) (calls : List TenancyCall),
      start.world.db.Provisioned → Trace bcrypt (fun _ _ => True) start calls s →
        s.world.db.Provisioned := by
  intro claim
  have provisioned := claim _ _ _ _ SampleShop.noShops_provisioned SampleShop.createdShop_trace
  have stored : ∃ t ∈ SampleShop.createdShop.world.db.tenants.rows, t.live = true := by decide
  have none_set : SampleShop.createdShop.world.db.tenantSettings.rows = [] := rfl
  obtain ⟨t, ht, live⟩ := stored
  obtain ⟨setting, mem, -⟩ := Database.setting_unique.mp (provisioned t ht live).1
  change setting ∈ SampleShop.createdShop.world.db.tenantSettings.rows at mem
  rw [none_set] at mem
  cases mem

end Tenantory
