import Tenantory.AttestedCalls
import Tenantory.ProductWrites
import Tenantory.SupplierService
import Tenantory.WarehouseService

/-! The names that live warehouses, suppliers and products hold within their tenant, and what
the statements of creations and updates make of them. The services look for a holder of the
name before they write; no constraint of the database stands behind that. -/

namespace Tenantory

/-! ## Holders of names -/

/-- The columns of a row that say which name it holds. -/
structure Holder where
  tenantId : Uuid
  name : String
  deletedAt : Option Timestamp
  deriving DecidableEq

namespace Holder

def live (h : Holder) : Prop := h.deletedAt = none

def SameName (h k : Holder) : Prop := h.tenantId = k.tenantId ∧ h.name = k.name

instance (h : Holder) : Decidable h.live := inferInstanceAs (Decidable (_ = _))

instance (h k : Holder) : Decidable (h.SameName k) := inferInstanceAs (Decidable (_ ∧ _))

/-- The columns that an UPDATE leaves which sets what differs from the loaded row. -/
def merge (written loaded row : Holder) : Holder where
  tenantId := column written.tenantId loaded.tenantId row.tenantId
  name := column written.name loaded.name row.name
  deletedAt := column written.deletedAt loaded.deletedAt row.deletedAt

end Holder

/-- Rows that hold a name within their tenant as long as they are live. -/
class Named (ρ : Type) extends LawfulTable ρ where
  holder : ρ → Holder

open Named Stored

def Warehouse.holder (row : Warehouse) : Holder := ⟨row.tenantId, row.name, row.deletedAt⟩

def Supplier.holder (row : Supplier) : Holder := ⟨row.tenantId, row.companyName, row.deletedAt⟩

def Product.holder (row : Product) : Holder := ⟨row.tenantId, row.skuPrefix, row.deletedAt⟩

def ProductEntity.holder (entity : ProductEntity) : Holder :=
  ⟨entity.tenantId, entity.skuPrefix, entity.deletedAt⟩

instance : Named Warehouse := ⟨Warehouse.holder⟩
instance : Named Supplier := ⟨Supplier.holder⟩
instance : Named Product := ⟨Product.holder⟩

section Names

variable {ρ : Type} [Named ρ] {w w' : World} {t : Table ρ} {i : Uuid}

/-- No two live rows of a tenant hold one name. -/
def NamesUnique (t : Table ρ) : Prop :=
  ∀ r ∈ t, ∀ s ∈ t, (holder r).live → (holder s).live →
    (holder r).SameName (holder s) → r = s

/-- No live row but the one under `i` holds the name. -/
def NameFree (t : Table ρ) (i : Option Uuid) (h : Holder) : Prop :=
  ∀ s ∈ t, (holder s).live → i ≠ some (Entity.id s) → ¬ h.SameName (holder s)

/-- An UPDATE that gives the row under `i` a name, or makes it live, gives it a free one. -/
def RenameFree (t : Table ρ) (i : Uuid) (written loaded : Holder) : Prop :=
  ∀ r ∈ t, Entity.id r = i → (written.merge loaded (holder r)).live →
    ((holder r).live → ¬ (written.merge loaded (holder r)).SameName (holder r)) →
      NameFree t (some i) (written.merge loaded (holder r))

/-- An UPDATE that leaves the row in its tenant, and live if it is live, and gives it no name
but a free one. -/
structure Renames (t : Table ρ) (i : Uuid) (written loaded : Holder) : Prop where
  tenant : written.tenantId = loaded.tenantId
  live : written.deletedAt = loaded.deletedAt ∨ written.live
  free : RenameFree t i written loaded

/-- The rows are still there, in their tenants, and the live ones are live. -/
def Remain (t u : Table ρ) : Prop :=
  ∀ r ∈ t, ∃ s ∈ u, Entity.id s = Entity.id r ∧
    (holder s).tenantId = (holder r).tenantId ∧
    ((holder r).live → (holder s).live)

instance [DecidableEq ρ] : Decidable (NamesUnique t) :=
  inferInstanceAs (Decidable (∀ r ∈ t.rows, ∀ s ∈ t.rows, (holder r).live →
    (holder s).live →
    (holder r).SameName (holder s) → r = s))

instance (i : Option Uuid) (h : Holder) : Decidable (NameFree t i h) :=
  inferInstanceAs (Decidable (∀ s ∈ t.rows, (holder s).live → i ≠ some (Entity.id s) →
    ¬ h.SameName (holder s)))

theorem Remain.refl (t : Table ρ) : Remain t t := fun r mem => ⟨r, mem, rfl, rfl, id⟩

theorem Remain.trans {t u v : Table ρ} (h : Remain t u) (h' : Remain u v) : Remain t v := by
  intro r mem
  obtain ⟨s, mem', id, tenant, live⟩ := h r mem
  obtain ⟨q, mem'', id', tenant', live'⟩ := h' s mem'
  exact ⟨q, mem'', id'.trans id, tenant'.trans tenant, fun was => live' (live was)⟩

theorem remain_append {row : ρ} {u : Table ρ} (rows : u.rows = t.rows ++ [row]) : Remain t u := by
  intro r mem
  refine ⟨r, ?_, rfl, rfl, id⟩
  rw [← Table.mem_rows, rows]
  exact List.mem_append_left _ mem

theorem NamesUnique.append {row : ρ} {u : Table ρ} (unique : NamesUnique t)
    (rows : u.rows = t.rows ++ [row]) (free : (holder row).live → NameFree t none (holder row)) :
    NamesUnique u := by
  have mem : ∀ r, r ∈ u ↔ r ∈ t ∨ r = row := fun r => by
    rw [← Table.mem_rows, rows]
    simp
  intro r hr s hs live live' same
  rcases (mem r).mp hr with old | rfl
  · rcases (mem s).mp hs with old' | rfl
    · exact unique r old s old' live live' same
    · exact absurd ⟨same.1.symm, same.2.symm⟩ (free live' r old live (by simp))
  · rcases (mem s).mp hs with old' | rfl
    · exact absurd same (free live s old' live' (by simp))
    · rfl

theorem NamesUnique.update {f : ρ → ρ} {written loaded : Holder}
    (unique : NamesUnique (table (ρ := ρ) w.db)) (h : w.update i f = .ok w')
    (named : ∀ r ∈ table (ρ := ρ) w.db, Entity.id r = i →
      holder (f r) = written.merge loaded (holder r))
    (free : RenameFree (table (ρ := ρ) w.db) i written loaded) :
    NamesUnique (table (ρ := ρ) w'.db) := by
  obtain ⟨-, t, rows, rfl⟩ := World.update_ok h
  rw [LawfulTable.table_put]
  have origin : ∀ s ∈ t, ∃ r ∈ table (ρ := ρ) w.db, s = if Entity.id r = i then
    f r else r := by
    intro s hs
    rw [← Table.mem_rows, rows] at hs
    obtain ⟨r, hr, rfl⟩ := List.mem_map.mp hs
    exact ⟨r, hr, by simp only [beq_iff_eq]⟩
  -- the row under the id holds a name that no other row holds
  have apart : ∀ r ∈ table (ρ := ρ) w.db, Entity.id r = i → ∀ s ∈ table (ρ := ρ) w.db,
      Entity.id s ≠ i → (holder (f r)).live → (holder s).live →
        ¬ (holder (f r)).SameName (holder s) := by
    intro r hr hi s hs other live live' same
    rw [named r hr hi] at live same
    by_cases kept : (holder r).live ∧ (written.merge loaded (holder r)).SameName (holder r)
    · have before : (holder r).SameName (holder s) :=
        ⟨kept.2.1.symm.trans same.1, kept.2.2.symm.trans same.2⟩
      exact other (unique r hr s hs kept.1 live' before ▸ hi)
    · refine free r hr hi live (fun live sameName => kept ⟨live, sameName⟩) s hs live' ?_ same
      exact fun h => other (Option.some.inj h).symm
  intro r hr s hs live live' same
  obtain ⟨r, old, rfl⟩ := origin r hr
  obtain ⟨s, old', rfl⟩ := origin s hs
  by_cases hi : Entity.id r = i
  · by_cases hj : Entity.id s = i
    · rw [Table.eq_of_id old old' (hi.trans hj.symm)]
    · rw [if_pos hi] at live same
      rw [if_neg hj] at live' same
      exact absurd same (apart r old hi s old' hj live live')
  · by_cases hj : Entity.id s = i
    · rw [if_neg hi] at live same
      rw [if_pos hj] at live' same
      exact absurd ⟨same.1.symm, same.2.symm⟩ (apart s old' hj r old hi live' live)
    · rw [if_neg hi] at live same ⊢
      rw [if_neg hj] at live' same ⊢
      exact unique r old s old' live live' same

theorem remain_update {f : ρ → ρ} {written loaded : Holder} (h : w.update i f = .ok w')
    (ids : ∀ r, Entity.id (f r) = Entity.id r)
    (named : ∀ r ∈ table (ρ := ρ) w.db, Entity.id r = i →
      holder (f r) = written.merge loaded (holder r))
    (renames : Renames (table (ρ := ρ) w.db) i written loaded) :
    Remain (table (ρ := ρ) w.db) (table (ρ := ρ) w'.db) := by
  obtain ⟨-, t, rows, rfl⟩ := World.update_ok h
  rw [LawfulTable.table_put]
  intro r mem
  refine ⟨if (Entity.id r == i) = true then f r else r, ?_, ?_⟩
  · rw [← Table.mem_rows, rows]
    exact List.mem_map_of_mem mem
  · by_cases own : Entity.id r = i
    · rw [if_pos (beq_iff_eq.mpr own), named r mem own]
      refine ⟨ids r, ?_, fun live => ?_⟩
      · change column written.tenantId loaded.tenantId (holder r).tenantId = _
        rw [renames.tenant]
        exact if_pos rfl
      · change column written.deletedAt loaded.deletedAt (holder r).deletedAt = none
        unfold column
        split
        · exact live
        · exact renames.live.resolve_left ‹_›
    · rw [if_neg (by simpa using own)]
      exact ⟨rfl, rfl, id⟩

end Names

/-! ## What a statement acts on -/

def SaveFree {ρ : Type} [Named ρ] (t : Table ρ) (i : Uuid) (written : Holder)
    (stored : Option ρ) : Prop :=
  ∃ r, stored = some r ∧ Renames t i written (holder r)

/-- A statement that gives a row a name gives it one that no live row holds by then. -/
def GivesFreeName (w : World) : Label → Prop
  | .insert (.warehouse tenantId name) => ∀ tenant, UuidText.uuidIn tenantId = some tenant →
      NameFree w.db.warehouses none ⟨tenant, name, none⟩
  | .insert (.supplier tenantId companyName) =>
      ∀ tenant, UuidText.uuidIn tenantId = some tenant →
      NameFree w.db.suppliers none ⟨tenant, companyName, none⟩
  | .insert (.product tenantId _ skuPrefix) =>
      ∀ tenant, UuidText.uuidIn tenantId = some tenant →
      NameFree w.db.products none ⟨tenant, skuPrefix, none⟩
  | .save (.warehouse entity) loaded =>
      SaveFree w.db.warehouses entity.id entity.holder (loaded.rowById Warehouse entity.id)
  | .save (.supplier entity) loaded =>
      SaveFree w.db.suppliers entity.id entity.holder (loaded.rowById Supplier entity.id)
  | .save (.product entity) loaded =>
      SaveFree w.db.products entity.id entity.holder (loaded.rowById Product entity.id)
  | _ => True

/-- At most one live holder of every name. -/
structure LiveNames (db : Database) : Prop where
  warehouses : NamesUnique db.warehouses
  suppliers : NamesUnique db.suppliers
  products : NamesUnique db.products

/-- What the statements make of the tables: names stay unique, and rows stay where they are. -/
structure Renamed (db db' : Database) : Prop where
  names : LiveNames db → LiveNames db'
  warehouses : Remain db.warehouses db'.warehouses
  suppliers : Remain db.suppliers db'.suppliers

theorem Renamed.refl (db : Database) : Renamed db db := ⟨id, .refl _, .refl _⟩

theorem Renamed.trans {db db' db'' : Database} (h : Renamed db db') (h' : Renamed db' db'') :
    Renamed db db'' :=
  ⟨fun names => h'.names (h.names names), h.warehouses.trans h'.warehouses,
    h.suppliers.trans h'.suppliers⟩

/-- Every statement that gives a free name renames. -/
def KeepsNames {α : Type} (p : Svc α) : Prop :=
  ∀ db, Svc.KeepsTables GivesFreeName (Renamed db) p

open Svc

section Services

variable {w w' : World} {loaded : Database} {context : Option AuditContextData}
  {tenantId id : String}

theorem keepsNames_statement {α : Type} {label : Label} {act : World → Except Err (α × World)}
    (h : ∀ w a w', GivesFreeName w label → act w = .ok (a, w') → Renamed w.db w'.db) :
    KeepsNames (statement label act) := fun _ =>
  keeps_statement fun w a w' before free done => before.trans (h w a w' free done)

theorem keepsNames_saving {α : Type} {entity : StoredObject}
    {act : Database → World → Except Err (α × World)}
    (h : ∀ loaded w a w', GivesFreeName w (.save entity loaded) → act loaded w = .ok (a, w') →
      Renamed w.db w'.db) : KeepsNames (saving entity act) := fun _ =>
  keeps_saving fun loaded w a w' before free done => before.trans (h loaded w a w' free done)

/-! ## Warehouses -/

namespace WarehouseService

theorem insert_renamed {dto : CreateWarehouseDto} {row : Warehouse}
    (h : insert tenantId dto w = .ok (row, w'))
    (free : GivesFreeName w (.insert (.warehouse tenantId dto.name))) : Renamed w.db w'.db := by
  obtain ⟨tenant, ht, h⟩ := bind_eq_ok.mp h
  obtain ⟨rfl, -, -, t, rows, rfl⟩ := World.insert_ok h
  refine ⟨fun names => ⟨?_, names.suppliers, names.products⟩, remain_append rows, .refl _⟩
  exact names.warehouses.append rows fun _ => free tenant (uuidParam_eq_ok.mp ht)

theorem overwrite_holder (entity stored : Warehouse) (now : Timestamp) :
    (overwrite entity now stored).holder = entity.holder := by
  unfold overwrite
  split
  · rename_i same
    rw [same]
  · split <;> rfl

theorem merge_holder (entity stored r : Warehouse) (now : Timestamp) :
    (merge (overwrite entity now stored) stored r).holder =
      entity.holder.merge stored.holder r.holder := by
  rw [← overwrite_holder entity stored now]
  rfl

theorem merge_id {entity stored : Warehouse} (same : stored.id = entity.id) (r : Warehouse)
    (now : Timestamp) : (merge (overwrite entity now stored) stored r).id = r.id := by
  have written : (overwrite entity now stored).id = stored.id := by
    unfold overwrite
    split
    · rfl
    · split <;> exact same.symm
  change column _ _ _ = _
  rw [written]
  exact if_pos rfl

theorem save_renamed {entity saved : Warehouse} (h : saveLoaded entity loaded w = .ok (saved, w'))
    (free : GivesFreeName w (.save (.warehouse entity) loaded)) : Renamed w.db w'.db := by
  obtain ⟨stored, found, renames⟩ := free
  unfold saveLoaded at h
  rw [found] at h
  obtain ⟨w₁, updated, h⟩ := bind_eq_ok.mp h
  cases h
  have named := fun (r : Warehouse) (_ : r ∈ w.db.warehouses) (_ : r.id = entity.id) =>
    merge_holder entity stored r w.clock
  have kept := remain_update updated
    (fun r => merge_id (Database.rowById_eq_some found).2 r w.clock) named renames
  have unique := fun names : LiveNames w.db => names.warehouses.update updated named renames.free
  obtain ⟨-, t, -, rfl⟩ := World.update_ok updated
  exact ⟨fun names => ⟨unique names, names.suppliers, names.products⟩, kept, .refl _⟩

theorem create_names (dto : CreateWarehouseDto) : KeepsNames (create context tenantId dto) := by
  refine fun db => keeps_bind (keeps_assertNameUnique _ _ _) fun _ =>
    keeps_translated _ (keeps_bind ?_ fun saved => ?_)
  · exact keepsNames_statement (fun w row w' free h => insert_renamed h free) db
  · exact keeps_bind (keeps_record _ _) fun _ => keeps_pure _

theorem update_names (dto : UpdateWarehouseDto) :
    KeepsNames (update context tenantId id dto) := by
  refine fun db => keeps_bind (keeps_findOne _ _) fun warehouse => ?_
  have saved : KeepsTables GivesFreeName (Renamed db) (translated nameTaken do
      let edited := patched dto warehouse
      let saved ← saving (.warehouse edited) (saveLoaded edited)
      AuditService.record context (updateAudit warehouse saved)
      pure saved) := by
    refine keeps_translated _ (keeps_bind ?_ fun saved => ?_)
    · exact keepsNames_saving (fun loaded w saved w' free h => save_renamed h free) db
    · exact keeps_bind (keeps_record _ _) fun _ => keeps_pure _
  dsimp only
  cases dto.name.truthy with
  | none => exact saved
  | some name => exact keeps_bind (keeps_assertNameUnique _ _ _) fun _ => saved

end WarehouseService

/-! ## Suppliers -/

namespace SupplierService

theorem insert_renamed {dto : CreateSupplierDto} {row : Supplier}
    (h : insert tenantId dto w = .ok (row, w'))
    (free : GivesFreeName w (.insert (.supplier tenantId dto.companyName))) :
    Renamed w.db w'.db := by
  obtain ⟨tenant, ht, h⟩ := bind_eq_ok.mp h
  obtain ⟨rfl, -, -, t, rows, rfl⟩ := World.insert_ok h
  refine ⟨fun names => ⟨names.warehouses, ?_, names.products⟩, .refl _, remain_append rows⟩
  exact names.suppliers.append rows fun _ => free tenant (uuidParam_eq_ok.mp ht)

theorem overwrite_holder (entity stored : Supplier) (now : Timestamp) :
    (overwrite entity now stored).holder = entity.holder := by
  unfold overwrite
  split
  · rename_i same
    rw [same]
  · split <;> rfl

theorem merge_holder (entity stored r : Supplier) (now : Timestamp) :
    (merge (overwrite entity now stored) stored r).holder =
      entity.holder.merge stored.holder r.holder := by
  rw [← overwrite_holder entity stored now]
  rfl

theorem merge_id {entity stored : Supplier} (same : stored.id = entity.id) (r : Supplier)
    (now : Timestamp) : (merge (overwrite entity now stored) stored r).id = r.id := by
  have written : (overwrite entity now stored).id = stored.id := by
    unfold overwrite
    split
    · rfl
    · split <;> exact same.symm
  change column _ _ _ = _
  rw [written]
  exact if_pos rfl

theorem save_renamed {entity saved : Supplier} (h : saveLoaded entity loaded w = .ok (saved, w'))
    (free : GivesFreeName w (.save (.supplier entity) loaded)) : Renamed w.db w'.db := by
  obtain ⟨stored, found, renames⟩ := free
  unfold saveLoaded at h
  rw [found] at h
  obtain ⟨w₁, updated, h⟩ := bind_eq_ok.mp h
  cases h
  have named := fun (r : Supplier) (_ : r ∈ w.db.suppliers) (_ : r.id = entity.id) =>
    merge_holder entity stored r w.clock
  have kept := remain_update updated
    (fun r => merge_id (Database.rowById_eq_some found).2 r w.clock) named renames
  have unique := fun names : LiveNames w.db => names.suppliers.update updated named renames.free
  obtain ⟨-, t, -, rfl⟩ := World.update_ok updated
  exact ⟨fun names => ⟨names.warehouses, unique names, names.products⟩, .refl _, kept⟩

theorem create_names (dto : CreateSupplierDto) : KeepsNames (create context tenantId dto) := by
  refine fun db => keeps_bind (keeps_assertCompanyNameUnique _ _ _) fun _ =>
    keeps_translated _ (keeps_bind ?_ fun saved => ?_)
  · exact keepsNames_statement (fun w row w' free h => insert_renamed h free) db
  · exact keeps_bind (keeps_record _ _) fun _ => keeps_pure _

theorem update_names (dto : UpdateSupplierDto) :
    KeepsNames (update context tenantId id dto) := by
  refine fun db => keeps_bind (keeps_findOne _ _) fun supplier => ?_
  have saved : KeepsTables GivesFreeName (Renamed db) (translated nameTaken do
      let edited := patched dto supplier
      let saved ← saving (.supplier edited) (saveLoaded edited)
      AuditService.record context (updateAudit supplier saved)
      pure saved) := by
    refine keeps_translated _ (keeps_bind ?_ fun saved => ?_)
    · exact keepsNames_saving (fun loaded w saved w' free h => save_renamed h free) db
    · exact keeps_bind (keeps_record _ _) fun _ => keeps_pure _
  dsimp only
  cases dto.companyName.truthy with
  | none => exact saved
  | some name => exact keeps_bind (keeps_assertCompanyNameUnique _ _ _) fun _ => saved

end SupplierService

/-! ## Products -/

namespace ProductService

theorem insert_renamed {dto : CreateProductDto} {product : ProductEntity}
    (h : insert tenantId dto w = .ok (product, w'))
    (free : GivesFreeName w (.insert (.product tenantId dto.categoryId dto.skuPrefix))) :
    Renamed w.db w'.db := by
  obtain ⟨tenant, category, isActive, t, ht, -, -, -, rows, rfl⟩ := insert_ok h
  refine ⟨fun names => ⟨names.warehouses, names.suppliers, ?_⟩, .refl _, .refl _⟩
  exact names.products.append rows fun _ => free tenant ht

theorem columns_holder {draft : Draft} {category : Except Err Uuid} {row : Product}
    (h : columns draft category = .ok row) : row.holder = draft.entity.holder := by
  obtain ⟨name, isActive, given, -, -, -, rfl⟩ := columns_ok.mp h
  rfl

theorem overwrite_holder {draft : Draft} {now : Timestamp} {stored row : Product}
    (h : overwrite draft now stored = .ok row) : row.holder = draft.entity.holder := by
  obtain ⟨written, stamp, columns, rfl⟩ := overwrite_ok h
  have same := columns_holder columns
  exact same

theorem saveVariants_renamed {entity : ProductEntity} (h : saveVariants entity loaded w = .ok w') :
    Renamed w.db w'.db := by
  obtain ⟨-, t, -, rfl⟩ := saveVariants_ok h
  exact ⟨fun names => ⟨names.warehouses, names.suppliers, names.products⟩, .refl _, .refl _⟩

theorem save_renamed {draft : Draft} {saved : ProductEntity}
    (h : saveLoaded draft loaded w = .ok (saved, w'))
    (free : GivesFreeName w (.save (.product draft.entity) loaded)) : Renamed w.db w'.db := by
  obtain ⟨stored, found, renames⟩ := free
  unfold saveLoaded at h
  rw [found] at h
  obtain ⟨row, written, h⟩ := bind_eq_ok.mp h
  obtain ⟨w₁, updated, h⟩ := bind_eq_ok.mp h
  obtain ⟨w₂, linked, h⟩ := bind_eq_ok.mp h
  cases h
  have named : ∀ r : Product, (merge row stored r).holder =
      draft.entity.holder.merge stored.holder r.holder := fun r => by
    rw [← overwrite_holder written]
    rfl
  have unique := fun names : LiveNames w.db =>
    names.products.update updated (fun r _ _ => named r) renames.free
  obtain ⟨-, t, -, rfl⟩ := World.update_ok updated
  have stepped : Renamed w.db { w.db with products := t } :=
    ⟨fun names => ⟨names.warehouses, names.suppliers, unique names⟩, .refl _, .refl _⟩
  exact stepped.trans (saveVariants_renamed linked)

theorem create_names (dto : CreateProductDto) : KeepsNames (create context tenantId dto) := by
  refine fun db => keeps_bind (CategoryService.keeps_findOne keeps_set _ _) fun _ =>
    keeps_bind (keeps_bind (keeps_query _) fun taken => keeps_ite (keeps_throw _)
      (keeps_pure _)) fun _ => keeps_translated _ (keeps_bind ?_ fun result => ?_)
  · exact keepsNames_statement (fun w row w' free h => insert_renamed h free) db
  · exact keeps_bind (keeps_record _ _) fun _ => keeps_bind (keeps_delByPattern _) fun _ =>
      keeps_pure _

theorem update_names (dto : UpdateProductDto) : KeepsNames (update context tenantId id dto) := by
  refine fun db => keeps_bind (keeps_findOne keeps_set _ _) fun product =>
    keeps_ite (keeps_throw _) (keeps_bind (keeps_named keeps_set tenantId dto) fun _ =>
      keeps_translated _ (keeps_bind ?_ fun saved => ?_))
  · exact keepsNames_saving (fun loaded w saved w' free h => save_renamed h free) db
  · exact keeps_bind (keeps_record _ _) fun _ => keeps_bind (keeps_del _) fun _ =>
      keeps_bind (keeps_delByPattern _) fun _ => keeps_pure _

end ProductService

end Services
end Tenantory
