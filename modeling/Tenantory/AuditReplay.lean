import Tenantory.AuditTrail
import Tenantory.AuthService
import Tenantory.RevisionLogs
import Tenantory.StoredRows
import Mathlib.Data.List.Find

/-! The audit log as a history. Warehouses, the names of suppliers, the roles of users and
the settings are what the events about them, replayed in their order, say. -/

namespace Tenantory

open Stored Svc UuidText

/-! ## What is logged of a row -/

inductive LoggedValues
  | warehouse (name : String) (location : Option String)
  | supplier (companyName : String)
  | user (role : String)
  | tenantSetting (config : Json)
  deriving DecidableEq

/-- A table and what the log tells of its rows, `none` of a deleted one. -/
class Logged (ρ : Type) extends LawfulTable ρ where
  type : AuditedEntityType
  shown : ρ → Option LoggedValues

instance : Logged Warehouse where
  type := .warehouse
  shown r := if r.live then some (.warehouse r.name r.location) else none

instance : Logged Supplier where
  type := .supplier
  shown r := if r.live then some (.supplier r.companyName) else none

instance : Logged User where
  type := .user
  shown r := if r.live then some (.user r.role.text) else none

instance : Logged TenantSetting where
  type := .tenantSetting
  shown r := some (.tenantSetting r.config)

abbrev LogKey : Type := AuditedEntityType × Uuid

def Database.shown (ρ : Type) [Logged ρ] (db : Database) (i : Uuid) : Option LoggedValues :=
  (db.rowById ρ i).bind Logged.shown

def Database.current (db : Database) : LogKey → Option LoggedValues
  | (.warehouse, i) => db.shown Warehouse i
  | (.supplier, i) => db.shown Supplier i
  | (.user, i) => db.shown User i
  | (.tenantSetting, i) => db.shown TenantSetting i
  | _ => none

/-- The table is one of those that `Database.current` looks at. -/
class Current (ρ : Type) extends Logged ρ where
  own : ∀ db i, Database.current db (type, i) = db.shown ρ i
  others : ∀ t db k, k.1 ≠ type → Database.current (put t db) k = Database.current db k

instance : Current Warehouse where
  own _ _ := rfl
  others t db k other := by
    obtain ⟨type, i⟩ := k
    cases type <;> first | rfl | exact absurd rfl other

instance : Current Supplier where
  own _ _ := rfl
  others t db k other := by
    obtain ⟨type, i⟩ := k
    cases type <;> first | rfl | exact absurd rfl other

instance : Current User where
  own _ _ := rfl
  others t db k other := by
    obtain ⟨type, i⟩ := k
    cases type <;> first | rfl | exact absurd rfl other

instance : Current TenantSetting where
  own _ _ := rfl
  others t db k other := by
    obtain ⟨type, i⟩ := k
    cases type <;> first | rfl | exact absurd rfl other

section Writes

variable {ρ : Type} [Current ρ] {w w' : World} {row : ρ} {i : Uuid}

theorem Database.current_put {t : Table ρ} {db : Database} {value : Option LoggedValues}
    (here : (put t db).shown ρ i = value)
    (there : ∀ j, j ≠ i → (put t db).shown ρ j = db.shown ρ j) :
    (put t db).current = Function.update db.current (Logged.type ρ, i) value := by
  funext k
  by_cases typed : k.1 = Logged.type ρ
  · obtain ⟨type, j⟩ := k
    cases typed
    show (put t db).current (Logged.type ρ, j) =
      Function.update db.current (Logged.type ρ, i) value (Logged.type ρ, j)
    rw [Current.own]
    by_cases same : j = i
    · rw [same, here, Function.update_self]
    · have other : (Logged.type ρ, j) ≠ (Logged.type ρ, i) :=
        fun h => same (Prod.ext_iff.mp h).2
      rw [there j same, Function.update_of_ne other, Current.own]
  · have other : k ≠ (Logged.type ρ, i) := fun h => typed (congrArg Prod.fst h)
    rw [Current.others t db k typed, Function.update_of_ne other]

theorem World.current_insert {build : Uuid → Timestamp → ρ}
    (h : w.insert build = .ok (row, w')) :
    w.db.current (Logged.type ρ, Entity.id row) = none ∧
      w'.db.current =
        Function.update w.db.current (Logged.type ρ, Entity.id row) (Logged.shown row) := by
  obtain ⟨-, -, free, t, rows, rfl⟩ := World.insert_ok h
  have found (j : Uuid) : (put t w.db).rowById ρ j =
      (w.db.rowById ρ j).or (if Entity.id row == j then some row else none) := by
    unfold Database.rowById Table.find?
    rw [LawfulTable.table_put, rows, List.find?_append, List.find?_singleton]
  have absent : w.db.rowById ρ (Entity.id row) = none := by
    refine Table.find?_eq_none.mpr fun r stored => ?_
    have apart : Entity.id r ≠ Entity.id row := fun same => by
      have collides := free r stored
      rw [Entity.same_id row r same.symm] at collides
      cases collides
    simpa using apart
  refine ⟨?_, Database.current_put ?_ fun j other => ?_⟩
  · rw [Current.own, Database.shown, absent]
    rfl
  · rw [Database.shown, found, absent]
    simp
  · rw [Database.shown, found]
    simp [other.symm, Database.shown]

theorem World.current_update {f : ρ → ρ} (h : w.update i f = .ok w')
    (found : w.db.rowById ρ i = some row) (same : Entity.id (f row) = i) :
    w'.db.current = Function.update w.db.current (Logged.type ρ, i) (Logged.shown (f row)) := by
  obtain ⟨-, t, rows, rfl⟩ := World.update_ok h
  obtain ⟨stored, named⟩ := Database.rowById_eq_some found
  have written (j : Uuid) : (put t w.db).rowById ρ j =
      (w.db.rowById ρ j).map fun r => if Entity.id r == i then f r else r := by
    unfold Database.rowById Table.find?
    rw [LawfulTable.table_put, rows, List.find?_map]
    refine congrArg (Option.map _) (List.find?_congr fun r there => ?_)
    by_cases named' : Entity.id r = i
    · have one : r = row := Table.eq_of_id there stored (named'.trans named.symm)
      simp [one, named, same]
    · simp [named']
  refine Database.current_put ?_ fun j other => ?_
  · rw [Database.shown, written, found]
    simp [named]
  · rw [Database.shown, written, Database.shown]
    cases looked : w.db.rowById ρ j with
    | none => rfl
    | some r =>
        have elsewhere : Entity.id r ≠ i := by
          rw [(Database.rowById_eq_some looked).2]
          exact other
        simp [elsewhere]

end Writes

/-! ## What an entry says -/

/-- What the values of an event tell of a row; a location that is left out is none. -/
def LoggedValues.read : AuditedEntityType → Json → Option LoggedValues
  | .warehouse, values =>
      match values.field? "name", values.field? "location" with
      | some (.str name), some (.str location) => some (.warehouse name (some location))
      | some (.str name), _ => some (.warehouse name none)
      | _, _ => none
  | .supplier, values =>
      match values.field? "companyName" with
      | some (.str companyName) => some (.supplier companyName)
      | _ => none
  | .user, values =>
      match values.field? "role" with
      | some (.str role) => some (.user role)
      | _ => none
  | .tenantSetting, values => (values.field? "config").map .tenantSetting
  | _, _ => none

/-- The events about writes; signing in is an event as well. -/
def AuditAction.writes : AuditAction → Bool
  | create | update | delete => true
  | _ => false

def AuditedEntityType.logged : AuditedEntityType → Bool
  | warehouse | supplier | user | tenantSetting => true
  | _ => false

def AuditEvent.revision? (event : AuditEvent) : Option (Revision LogKey LoggedValues) :=
  if event.action.writes && event.entityType.logged then
    (uuidIn event.entityId).map fun id =>
      { key := (event.entityType, id)
        old := event.oldValues.bind (LoggedValues.read event.entityType)
        new := event.newValues.bind (LoggedValues.read event.entityType) }
  else none

/-- What the journal tells of the logged tables, in its order. -/
def World.revisions (w : World) : List (Revision LogKey LoggedValues) :=
  w.journal.filterMap fun
    | .auditLog event => event.revision?
    | _ => none

def AuditEntry.revision (entry : AuditEntry) : Revision LogKey LoggedValues where
  key := (entry.entityType, entry.entityId)
  old := entry.oldValues.bind (LoggedValues.read entry.entityType)
  new := entry.newValues.bind (LoggedValues.read entry.entityType)

/-- The entry tells what was stored in `w` and what has become of it. -/
structure AuditEntry.Explains (entry : AuditEntry) (w w' : World) : Prop where
  writes : entry.action.writes = true
  logged : entry.entityType.logged = true
  old : entry.revision.old = w.db.current entry.revision.key
  new : w'.db.current = entry.revision.apply w.db.current

theorem AuditEvent.Tells.revision? {event : AuditEvent} {tenant : String} {entry : AuditEntry}
    (tells : event.Tells tenant entry) (writes : entry.action.writes = true)
    (logged : entry.entityType.logged = true) : event.revision? = some entry.revision := by
  unfold AuditEvent.revision?
  rw [tells.action, tells.entityType, tells.entityId, tells.oldValues, tells.newValues, writes,
    logged, uuidIn_uuidOut]
  rfl

/-! ## The statements -/

/-- What a save makes of a row holds of the entity, with the date of the update or without. -/
theorem of_overwritten {ρ : Type} [DecidableEq ρ] {P : ρ → Prop} {entity row stamped : ρ}
    {fresh : Prop} [Decidable fresh] (kept : P entity) (dated : P stamped) :
    P (if entity = row then row else if fresh then stamped else entity) := by
  split
  · rename_i same
    rwa [← same]
  · split
    · exact dated
    · exact kept

section Statements

variable {w v v' : World} {tenantId : String}

section Rules

variable {ρ : Type} [Current ρ] {row saved : ρ} {i : Uuid} {action : AuditAction}
  {old new : Option Json}

/-- An INSERT, and an event that tells the values of the row. -/
theorem explains_insert {build : Uuid → Timestamp → ρ} (kept : Kept w v)
    (inserted : v.insert build = .ok (saved, v')) (logged : (Logged.type ρ).logged = true)
    (told : new.bind (LoggedValues.read (Logged.type ρ)) = Logged.shown saved) :
    AuditEntry.Explains ⟨.create, Logged.type ρ, Entity.id saved, none, new⟩ w v' := by
  obtain ⟨absent, written⟩ := World.current_insert inserted
  rw [kept.db] at absent written
  exact ⟨rfl, logged, absent.symm,
    written.trans (congrArg (Function.update w.db.current _) told.symm)⟩

/-- An UPDATE of a row that has been found, and an event with the values before and after. -/
theorem explains_update {f : ρ → ρ} (kept : Kept w v) (found : w.db.rowById ρ i = some row)
    (updated : v.update i f = .ok v') (becomes : f row = saved) (same : Entity.id saved = i)
    (writes : action.writes = true) (logged : (Logged.type ρ).logged = true)
    (before : old.bind (LoggedValues.read (Logged.type ρ)) = Logged.shown row)
    (after : new.bind (LoggedValues.read (Logged.type ρ)) = Logged.shown saved) :
    AuditEntry.Explains ⟨action, Logged.type ρ, Entity.id saved, old, new⟩ w v' := by
  subst same
  have written := World.current_update updated (kept.db.symm ▸ found) (becomes.symm ▸ rfl)
  rw [kept.db, becomes, ← after] at written
  refine ⟨writes, logged, ?_, written⟩
  change old.bind (LoggedValues.read (Logged.type ρ)) =
    w.db.current (Logged.type ρ, Entity.id saved)
  rw [before, Current.own, Database.shown, found]
  rfl

/-- A soft DELETE, and an event with the values that were there. -/
theorem explains_delete {f : ρ → ρ} (kept : Kept w v) (found : w.db.rowById ρ i = some row)
    (updated : v.update i f = .ok v') (same : Entity.id (f row) = i)
    (gone : Logged.shown (f row) = none) (logged : (Logged.type ρ).logged = true)
    (before : old.bind (LoggedValues.read (Logged.type ρ)) = Logged.shown row) :
    AuditEntry.Explains ⟨.delete, Logged.type ρ, i, old, none⟩ w v' := by
  have explained : AuditEntry.Explains
      ⟨.delete, Logged.type ρ, Entity.id (f row), old, none⟩ w v' :=
    explains_update kept found updated rfl same rfl logged before gone.symm
  rwa [same] at explained

end Rules

namespace WarehouseService

theorem read_values {warehouse : Warehouse} (live : warehouse.live = true) :
    LoggedValues.read .warehouse (auditValues warehouse) = Logged.shown warehouse := by
  unfold auditValues
  cases located : warehouse.location with
  | none => simp [LoggedValues.read, Json.field?, Json.nullable, Logged.shown, live, located]
  | some location =>
      simp [LoggedValues.read, Json.field?, Json.nullable, Logged.shown, live, located]

theorem readById_found {tenant i : Uuid} {warehouse : Warehouse}
    (read : readById w.db tenant i = some warehouse) :
    w.db.rowById Warehouse warehouse.id = some warehouse ∧ warehouse.live = true := by
  have passed := Table.holds_of_find? read
  simp only [Bool.and_eq_true] at passed
  exact ⟨Database.rowById_of_mem (Table.mem_of_find? read), passed.2⟩

theorem insert_explained {dto : CreateWarehouseDto} {saved : Warehouse} (kept : Kept w v)
    (h : insert tenantId dto v = .ok (saved, v')) : AuditEntry.Explains
      { action := .create
        entityType := .warehouse
        entityId := saved.id
        oldValues := none
        newValues := some (.literal [("name", some (.str saved.name)),
          ("location", dto.location.toJson .str)]) } w v' := by
  obtain ⟨tenant, -, inserted⟩ := bind_eq_ok.mp h
  refine explains_insert kept inserted rfl ?_
  obtain ⟨rfl, -⟩ := World.insert_ok inserted
  cases located : dto.location <;> rfl

/-- What a save makes of the row is live and shows what the entity shows. -/
theorem overwrite_live {entity : Warehouse} (live : entity.live = true) (now : Timestamp)
    (stored : Warehouse) : (overwrite entity now stored).id = entity.id ∧
      (overwrite entity now stored).live = true :=
  of_overwritten (P := fun row : Warehouse => row.id = entity.id ∧ row.live = true)
    ⟨rfl, live⟩
    ⟨rfl, live⟩

theorem update_explained {tenant i : Uuid} {warehouse saved : Warehouse} {dto : UpdateWarehouseDto}
    (kept : Kept w v) (read : readById w.db tenant i = some warehouse)
    (h : saveLoaded (patched dto warehouse) v.db v = .ok (saved, v')) : AuditEntry.Explains
      { action := .update
        entityType := .warehouse
        entityId := saved.id
        oldValues := some (auditValues warehouse)
        newValues := some (auditValues saved) } w v' := by
  obtain ⟨found, live⟩ := readById_found read
  have stored : v.db.rowById Warehouse (patched dto warehouse).id = some warehouse :=
    kept.db.symm ▸ found
  unfold saveLoaded at h
  rw [stored] at h
  obtain ⟨u, updated, last⟩ := bind_eq_ok.mp h
  cases last
  obtain ⟨same, liveAfter⟩ :=
    overwrite_live (show (patched dto warehouse).live = true from live)
    v.clock warehouse
  exact explains_update kept found updated (merge_self _ _) same rfl rfl (read_values live)
    (read_values liveAfter)

theorem remove_explained {tenant i : Uuid} {warehouse : Warehouse} (kept : Kept w v)
    (read : readById w.db tenant i = some warehouse)
    (h : softRemove warehouse v = .ok ((), v')) : AuditEntry.Explains
      { action := .delete
        entityType := .warehouse
        entityId := warehouse.id
        oldValues := some (auditValues warehouse)
        newValues := none } w v' := by
  obtain ⟨found, live⟩ := readById_found read
  obtain ⟨u, updated, last⟩ := bind_eq_ok.mp h
  cases last
  exact explains_delete kept found updated rfl rfl rfl (read_values live)

end WarehouseService

namespace SupplierService

theorem read_name {supplier : Supplier} {values : Json} (live : supplier.live = true)
    (named : values.field? "companyName" = some (.str supplier.companyName)) :
    (some values).bind (LoggedValues.read (Logged.type Supplier)) = Logged.shown supplier := by
  simp [Logged.type, LoggedValues.read, named, Logged.shown, live]

theorem readOne_found {id : String} {supplier : Supplier}
    (read : readOne tenantId id w = .ok (some supplier)) :
    w.db.rowById Supplier supplier.id = some supplier ∧ supplier.live = true := by
  obtain ⟨tenant, -, read⟩ := bind_eq_ok.mp read
  obtain ⟨i, -, last⟩ := bind_eq_ok.mp read
  have found := Except.ok.inj last
  have passed := Table.holds_of_find? found
  simp only [Bool.and_eq_true] at passed
  exact ⟨Database.rowById_of_mem (Table.mem_of_find? found), passed.2⟩

theorem insert_explained {dto : CreateSupplierDto} {saved : Supplier} (kept : Kept w v)
    (h : insert tenantId dto v = .ok (saved, v')) : AuditEntry.Explains
      { action := .create
        entityType := .supplier
        entityId := saved.id
        oldValues := none
        newValues := some (.literal [("companyName", some (.str saved.companyName)),
          ("contactEmail", dto.contactEmail.toJson .str),
          ("leadTimeDays", dto.leadTimeDays.toJson jsonInt)]) } w v' := by
  obtain ⟨tenant, -, inserted⟩ := bind_eq_ok.mp h
  refine explains_insert kept inserted rfl ?_
  obtain ⟨rfl, -⟩ := World.insert_ok inserted
  exact read_name rfl rfl

theorem overwrite_live {entity : Supplier} (live : entity.live = true) (now : Timestamp)
    (stored : Supplier) : (overwrite entity now stored).id = entity.id ∧
      (overwrite entity now stored).live = true :=
  of_overwritten (P := fun row : Supplier => row.id = entity.id ∧ row.live = true) ⟨rfl, live⟩
    ⟨rfl, live⟩

theorem update_explained {id : String} {supplier saved : Supplier} {dto : UpdateSupplierDto}
    (kept : Kept w v) (read : readOne tenantId id w = .ok (some supplier))
    (h : saveLoaded (patched dto supplier) v.db v = .ok (saved, v')) : AuditEntry.Explains
      { action := .update
        entityType := .supplier
        entityId := saved.id
        oldValues := some (auditValues supplier)
        newValues := some (auditValues saved) } w v' := by
  obtain ⟨found, live⟩ := readOne_found read
  have stored : v.db.rowById Supplier (patched dto supplier).id = some supplier :=
    kept.db.symm ▸ found
  unfold saveLoaded at h
  rw [stored] at h
  obtain ⟨u, updated, last⟩ := bind_eq_ok.mp h
  cases last
  obtain ⟨same, liveAfter⟩ := overwrite_live (show (patched dto supplier).live = true from live)
    v.clock supplier
  exact explains_update kept found updated (merge_self _ _) same rfl rfl (read_name live rfl)
    (read_name liveAfter rfl)

theorem remove_explained {id : String} {supplier : Supplier} (kept : Kept w v)
    (read : readOne tenantId id w = .ok (some supplier))
    (h : softRemove supplier v = .ok ((), v')) : AuditEntry.Explains
      { action := .delete
        entityType := .supplier
        entityId := supplier.id
        oldValues := some (.obj [("companyName", .str supplier.companyName)])
        newValues := none } w v' := by
  obtain ⟨found, live⟩ := readOne_found read
  obtain ⟨u, updated, last⟩ := bind_eq_ok.mp h
  cases last
  exact explains_delete kept found updated rfl rfl rfl (read_name live rfl)

end SupplierService

namespace TenantUserManagementService

theorem read_role {user : User} {values : Json} (live : user.live = true)
    (named : values.field? "role" = some user.role.toJson) :
    (some values).bind (LoggedValues.read (Logged.type User)) = Logged.shown user := by
  simp [Logged.type, LoggedValues.read, named, UserRole.toJson, Logged.shown, live]

theorem insert_explained {user : NewUser} {saved : User} (kept : Kept w v)
    (h : insert user v = .ok (saved, v')) : AuditEntry.Explains
      { action := .create
        entityType := .user
        entityId := saved.id
        oldValues := none
        newValues := some (.obj [("email", .str saved.email), ("firstName", .str saved.firstName),
          ("lastName", .str saved.lastName), ("role", saved.role.toJson)]) } w v' := by
  obtain ⟨tenant, -, inserted⟩ := bind_eq_ok.mp h
  refine explains_insert kept inserted rfl ?_
  obtain ⟨rfl, -⟩ := World.insert_ok inserted
  exact read_role rfl rfl

theorem overwrite_live {entity : User} (live : entity.live = true) (now : Timestamp)
    (stored : User) : (overwrite entity now stored).id = entity.id ∧
      (overwrite entity now stored).live = true :=
  of_overwritten (P := fun row : User => row.id = entity.id ∧ row.live = true) ⟨rfl, live⟩
    ⟨rfl, live⟩

theorem updateRole_explained {userId : String} {user saved : User} {role : UserRole}
    (kept : Kept w v) (read : readById tenantId userId w = .ok (some user))
    (h : saveLoaded { user with role } v.db v = .ok (saved, v')) : AuditEntry.Explains
      { action := .update
        entityType := .user
        entityId := saved.id
        oldValues := some (.obj [("role", user.role.toJson)])
        newValues := some (.obj [("role", saved.role.toJson)]) } w v' := by
  obtain ⟨i, -, read⟩ := bind_eq_ok.mp read
  obtain ⟨tenant, -, last⟩ := bind_eq_ok.mp read
  have looked := Except.ok.inj last
  have passed := Table.holds_of_find? looked
  simp only [Bool.and_eq_true] at passed
  have live : user.live = true := passed.2
  have found := Database.rowById_of_mem (Table.mem_of_find? looked)
  have stored : v.db.rowById User user.id = some user := kept.db.symm ▸ found
  unfold saveLoaded at h
  rw [stored] at h
  obtain ⟨u, updated, saved_row⟩ := bind_eq_ok.mp h
  cases saved_row
  obtain ⟨same, liveAfter⟩ :=
    overwrite_live (show User.live { user with role } = true from live)
    v.clock user
  exact explains_update kept found updated (merge_self _ _) same rfl rfl (read_role live rfl)
    (read_role liveAfter rfl)

end TenantUserManagementService

theorem TenantSettingService.merged_id (dto : UpdateSettingsDto) (settings : TenantSetting) :
    (merged dto settings).id = settings.id := by
  unfold merged
  split <;> rfl

theorem TenantSettingService.update_explained {settings saved : TenantSetting}
    {dto : UpdateSettingsDto} (kept : Kept w v)
    (read : readByTenant tenantId w = .ok (some settings))
    (h : saveLoaded (merged dto settings) v.db v = .ok (saved, v')) : AuditEntry.Explains
      { action := .update
        entityType := .tenantSetting
        entityId := saved.id
        oldValues := some (.obj [("config", settings.config)])
        newValues := some (.obj [("config", saved.config)]) } w v' := by
  obtain ⟨tenant, -, last⟩ := bind_eq_ok.mp read
  have found := Database.rowById_of_mem (Table.mem_of_find? (Except.ok.inj last))
  have stored : v.db.rowById TenantSetting (merged dto settings).id = some settings := by
    rw [merged_id, kept.db]
    exact found
  unfold saveLoaded at h
  rw [stored] at h
  obtain ⟨u, updated, saved_row⟩ := bind_eq_ok.mp h
  cases saved_row
  have same : (overwrite (merged dto settings) v.clock settings).id = settings.id := by
    unfold overwrite
    split
    · rfl
    · split
      · exact merged_id dto settings
      · exact merged_id dto settings
  rw [merged_id] at updated
  exact explains_update kept found updated (merge_self _ _) same rfl rfl rfl rfl

end Statements

/-! ## Calls -/

section Calls

variable {platform : Platform} {bcrypt : Bcrypt} {tenantId tenant : String} {w v v' w' : World}
  {data : AuditContextData} {entry : AuditEntry}

/-- The operations that write the logged tables. -/
def AuditedOp.logged : AuditedOp → Bool
  | createWarehouse _ | updateWarehouse _ _ | removeWarehouse _ | createSupplier _
  | updateSupplier _ _ | removeSupplier _ | inviteUser _ | updateUserRole _ _
  | updateSettings _ => true
  | _ => false

theorem AuditedOp.explained {op : AuditedOp} (logged : op.logged = true) (kept : Kept w v)
    (wrote : op.Writes platform bcrypt tenantId w v v' entry) : entry.Explains w v' := by
  cases wrote with
  | createWarehouse inserted => exact WarehouseService.insert_explained kept inserted
  | updateWarehouse _ _ read written => exact WarehouseService.update_explained kept read written
  | removeWarehouse _ _ read written => exact WarehouseService.remove_explained kept read written
  | createSupplier inserted => exact SupplierService.insert_explained kept inserted
  | updateSupplier read written => exact SupplierService.update_explained kept read written
  | removeSupplier read written => exact SupplierService.remove_explained kept read written
  | inviteUser inserted => exact TenantUserManagementService.insert_explained kept inserted
  | updateUserRole read written =>
      exact TenantUserManagementService.updateRole_explained kept read written
  | updateSettings read written => exact TenantSettingService.update_explained kept read written
  | _ => cases logged

/-- The statement of a registration and the entry about it. -/
def AuthService.RegisterWrites (bcrypt : Bcrypt) (tenantId : String) (dto : RegisterDto)
    (v v' : World) (entry : AuditEntry) : Prop :=
  ∃ saved, TenantUserManagementService.insert
      { tenantId, email := dto.email, firstName := dto.firstName, lastName := dto.lastName,
        passwordHash := bcrypt.hash dto.password 10,
        role := dto.role.toOption.getD .customer } v = .ok (saved, v') ∧
    entry =
      { action := .create
        entityType := .user
        entityId := saved.id
        oldValues := none
        newValues := some (.obj [("email", .str saved.email), ("firstName", .str saved.firstName),
          ("lastName", .str saved.lastName), ("role", saved.role.toJson)]) }

theorem AuthService.register_trails (named : data.tenantId = some tenant)
    (some_text : tenant ≠ "")
    (dto : RegisterDto) : After (register bcrypt (some data) tenantId dto)
      (Trail (RegisterWrites bcrypt tenantId dto) tenant w) w [] := by
  refine trails_reads (P := fun _ => True) (reads_query (Kept.refl w) fun _ _ => trivial)
    fun existing v _ kept => ?_
  refine trails_ite (fun _ => trails_throw kept) fun _ => ?_
  refine trails_statement rfl kept fun saved v' inserted => ?_
  exact trails_record named some_text kept ⟨saved, inserted, rfl⟩ rfl
    (TenantUserManagementService.insert_journal inserted) fun _ => quiet_pure _

/-- A call that writes a logged table. -/
inductive LoggedCall
  | audited (op : AuditedOp) (logged : op.logged = true)
  | register (dto : RegisterDto)

namespace LoggedCall

def program (platform : Platform) (bcrypt : Bcrypt) (context : Option AuditContextData)
    (tenantId : String) : LoggedCall → Svc Unit
  | audited op _ => op.program platform bcrypt context tenantId
  | register dto => discard (AuthService.register bcrypt context tenantId dto)

/-- The statement that a call that answers has made, and the entry about it. -/
def Writes (platform : Platform) (bcrypt : Bcrypt) (tenantId : String) (w : World) :
    LoggedCall → World → World → AuditEntry → Prop
  | audited op _ => op.Writes platform bcrypt tenantId w
  | register dto => AuthService.RegisterWrites bcrypt tenantId dto

theorem program_trails (named : data.tenantId = some tenant) (some_text : tenant ≠ "")
    (call : LoggedCall) : After (call.program platform bcrypt (some data) tenantId)
      (Trail (call.Writes platform bcrypt tenantId w) tenant w) w [] := by
  cases call with
  | audited op logged => exact AuditedOp.program_trails named some_text op
  | register dto => exact trails_discard (AuthService.register_trails named some_text dto)

theorem explained {call : LoggedCall} (kept : Kept w v)
    (wrote : call.Writes platform bcrypt tenantId w v v' entry) : entry.Explains w v' := by
  cases call with
  | audited op logged => exact AuditedOp.explained logged kept wrote
  | register dto =>
      obtain ⟨saved, inserted, rfl⟩ := wrote
      exact TenantUserManagementService.insert_explained kept inserted

/-- A call adds an entry to the log where it writes, and neither where it does not. -/
theorem leads (call : LoggedCall) (named : data.tenantId = some tenant) (some_text : tenant ≠ "")
    {answer : Except Err Unit} {marks : List Mark}
    (leaves : Leaves (call.program platform bcrypt (some data) tenantId) w answer w' marks) :
    ∃ log, w'.revisions = w.revisions ++ log ∧
      Revision.Leads log w.db.current w'.db.current := by
  have trail := (call.program_trails named some_text).leaves leaves
  cases answer with
  | error e =>
      have trackless : Trackless w w' marks := trail
      refine ⟨[], ?_, ?_⟩
      · rw [World.revisions, trackless.journal, List.append_nil, World.revisions]
      · rw [trackless.db]
        exact .nil _
  | ok a =>
      obtain ⟨-, v, v', entry, event, kept, wrote, db, journal, tells⟩ :
        Trailed (call.Writes platform bcrypt tenantId w) tenant w w' marks := trail
      have explains := explained kept wrote
      refine ⟨[entry.revision], ?_, ?_⟩
      · simp [World.revisions, journal, tells.revision? explains.writes explains.logged]
      · rw [db, explains.new]
        exact (Revision.Leads.nil _).snoc explains.old

end LoggedCall

/-- Calls one after the other, failing wherever they may, and between them whatever leaves the
logged tables and the events about them alone. -/
inductive LoggedRun (platform : Platform) (bcrypt : Bcrypt) : World → World → Prop
  | start (w : World) : LoggedRun platform bcrypt w w
  | call {w w₁ w₂ : World} {tenant : String} {answer : Except Err Unit} {marks : List Mark}
      (call : LoggedCall) (data : AuditContextData) (tenantId : String) :
      LoggedRun platform bcrypt w w₁ → data.tenantId = some tenant → tenant ≠ "" →
      Leaves (call.program platform bcrypt (some data) tenantId) w₁ answer w₂ marks →
      LoggedRun platform bcrypt w w₂
  | aside {w w₁ w₂ : World} : LoggedRun platform bcrypt w w₁ →
      w₂.db.current = w₁.db.current →
      w₂.revisions = w₁.revisions → LoggedRun platform bcrypt w w₂

end Calls

/-- Replayed from the tables at its start, the log of a run gives the tables at its end, and the
old values of every entry are what the entries before it have left. -/
theorem audit_log_replays {platform : Platform} {bcrypt : Bcrypt} {w w' : World}
    (run : LoggedRun platform bcrypt w w') :
    ∃ log, w'.revisions = w.revisions ++ log ∧
      Revision.Leads log w.db.current w'.db.current := by
  induction run with
  | start => exact ⟨[], (List.append_nil _).symm, .nil _⟩
  | call call data tenantId before named some_text leaves ih =>
      obtain ⟨log, told, leads⟩ := ih
      obtain ⟨more, toldMore, leadsOn⟩ := call.leads named some_text leaves
      refine ⟨log ++ more, ?_, leads.append leadsOn⟩
      rw [toldMore, told, List.append_assoc]
  | aside before tables events ih =>
      obtain ⟨log, told, leads⟩ := ih
      exact ⟨log, events.trans told, tables.symm ▸ leads⟩

namespace SampleShop

/-- The warehouse that `openDepot` creates gets another name. -/
def renameDepot : Except Err Unit × World × List Mark :=
  (((AuditedOp.updateWarehouse (uuidOut 1000) ⟨.value "Store", .undefined⟩).program plainText
    hashing (some context) (uuidOut tenantId)).run.recorded Label.mark).run (openDepot.2.1, [])

end SampleShop

open SampleShop

theorem audit_log_replays_depot :
    renameDepot.2.1.revisions = [⟨(.warehouse, 1000), none, some (.warehouse "Depot" none)⟩,
      ⟨(.warehouse, 1000), some (.warehouse "Depot" none), some (.warehouse "Store" none)⟩] ∧
    ∃ log, renameDepot.2.1.revisions = (world unstocked).revisions ++ log ∧
      Revision.Leads log (world unstocked).db.current renameDepot.2.1.db.current := by
  have run : LoggedRun plainText hashing (world unstocked) renameDepot.2.1 := by
    refine .call (.audited (.updateWarehouse (uuidOut 1000) ⟨.value "Store", .undefined⟩) rfl)
      context (uuidOut tenantId) ?_ rfl (by decide) (Prog.exec_run _ _)
    exact .call (.audited (.createWarehouse ⟨"Depot", .undefined⟩) rfl) context
      (uuidOut tenantId)
      (.start _) rfl (by decide) (Prog.exec_run _ _)
  exact ⟨by decide, audit_log_replays run⟩

end Tenantory
