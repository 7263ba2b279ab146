import Tenantory.AuditTrail
import Tenantory.ProductWrites
import Tenantory.StatementGuards
import Tenantory.TenantOwnership

/-! Which calls leave the owners of variants and warehouses as they are. Rows are never
taken out, an update keeps the tenant of its row, and no service but the inventory
writes stock rows. -/

namespace Tenantory

open Stored UuidText Svc

theorem Table.Owns.owner_of_id {ρ : Type} [Entity ρ] {t : Table ρ} {A i : Uuid} {r : ρ}
    (h : t.Owns A i) (hr : r ∈ t) (same : Entity.id r = i) : Entity.owner r = A := by
  subst same
  exact h.owner hr

/-- Every variant and every warehouse is still stored, under its tenant. -/
structure Database.ItemsKept (db db' : Database) : Prop where
  variants : ∀ A i, db.variants.Owns A i → db'.variants.Owns A i
  warehouses : ∀ A i, db.warehouses.Owns A i → db'.warehouses.Owns A i

theorem Database.ItemsKept.refl (db : Database) : db.ItemsKept db :=
  ⟨fun _ _ h => h, fun _ _ h => h⟩

theorem Database.ItemsKept.trans {a b c : Database} (h : a.ItemsKept b) (h' : b.ItemsKept c) :
    a.ItemsKept c :=
  ⟨fun A i o => h'.variants A i (h.variants A i o),
    fun A i o => h'.warehouses A i (h.warehouses A i o)⟩

theorem Database.Extends.itemsKept {db db' : Database} (h : db.Extends db') : db.ItemsKept db' :=
  ⟨h.variants, h.warehouses⟩

/-- What a statement leaves that is none of the inventory's. -/
structure World.Beside (w w' : World) : Prop where
  items : w.db.ItemsKept w'.db
  stock : w'.db.stockLevels = w.db.stockLevels
  pending : w'.pending = w.pending

namespace World

theorem Beside.refl (w : World) : w.Beside w := ⟨.refl w.db, rfl, rfl⟩

theorem Beside.trans {u v w : World} (h : u.Beside v) (h' : v.Beside w) : u.Beside w :=
  ⟨h.items.trans h'.items, h'.stock.trans h.stock, h'.pending.trans h.pending⟩

end World

/-! ## Tables with neither items nor stock -/

/-- A table other than those of the variants, the warehouses and the stock. -/
class Remote (ρ : Type) extends LawfulTable ρ where
  variants_put : ∀ t db, (put t db).variants = db.variants
  warehouses_put : ∀ t db, (put t db).warehouses = db.warehouses
  stock_put : ∀ t db, (put t db).stockLevels = db.stockLevels

instance : Remote User := ⟨fun _ _ => rfl, fun _ _ => rfl, fun _ _ => rfl⟩
instance : Remote TenantSetting := ⟨fun _ _ => rfl, fun _ _ => rfl, fun _ _ => rfl⟩
instance : Remote Category := ⟨fun _ _ => rfl, fun _ _ => rfl, fun _ _ => rfl⟩
instance : Remote Product := ⟨fun _ _ => rfl, fun _ _ => rfl, fun _ _ => rfl⟩
instance : Remote Supplier := ⟨fun _ _ => rfl, fun _ _ => rfl, fun _ _ => rfl⟩

namespace World

variable {ρ β : Type} {w w' : World}

section Remote

variable [Remote ρ] {build : Uuid → Timestamp → ρ} {row : ρ} {i : Uuid} {f : ρ → ρ}

theorem beside_put (t : Table ρ) : w.Beside { w with db := put t w.db } where
  items := ⟨fun _ _ h => by rwa [Remote.variants_put],
    fun _ _ h => by rwa [Remote.warehouses_put]⟩
  stock := Remote.stock_put t w.db
  pending := rfl

theorem beside_insert (h : w.insert build = .ok (row, w')) : w.Beside w' := by
  obtain ⟨-, -, -, t, -, rfl⟩ := World.insert_ok h
  have kept := beside_put (w := w) t
  exact ⟨kept.items, kept.stock, rfl⟩

theorem beside_insertRow {db : Database} (h : w.db.insertRow row = .ok db) :
    w.Beside { w with db } := by
  obtain ⟨-, -, t, -, rfl⟩ := Database.insertRow_ok h
  exact beside_put t

theorem beside_update (h : w.update i f = .ok w') : w.Beside w' := by
  obtain ⟨-, t, -, rfl⟩ := World.update_ok h
  exact beside_put t

theorem beside_updates {ident : β → Uuid} {g : World → ρ → ρ} {items : List β}
    (h : items.foldlM (fun w item => w.update (ident item) (g w)) w = .ok w') : w.Beside w' := by
  induction items generalizing w with
  | nil =>
      cases h
      exact .refl _
  | cons item items ih =>
      obtain ⟨v, updated, rest⟩ := bind_eq_ok.mp h
      exact (beside_update updated).trans (ih rest)

end Remote

/-! ## The tables of the items -/

section Items

variable [Owned ρ] {build : Uuid → Timestamp → ρ} {row : ρ} {i : Uuid} {f : ρ → ρ}

theorem extends_of_insert (h : w.insert build = .ok (row, w')) : w.db.Extends w'.db := by
  obtain ⟨-, -, -, t, rows, rfl⟩ := World.insert_ok h
  refine Owned.extends_put (ρ := ρ) fun A j ⟨r, hr, same, owner⟩ => ⟨r, ?_, same, owner⟩
  rw [← Table.mem_rows, rows]
  exact List.mem_append_left _ hr

theorem extends_of_update (keeps : ∀ r ∈ table (ρ := ρ) w.db, Entity.id r = i →
      Entity.id (f r) = Entity.id r ∧ Entity.owner (f r) = Entity.owner r)
    (h : w.update i f = .ok w') : w.db.Extends w'.db := by
  obtain ⟨-, t, rows, rfl⟩ := World.update_ok h
  refine Owned.extends_put (ρ := ρ) fun A j ⟨r, hr, same, owner⟩ => ?_
  refine ⟨if Entity.id r == i then f r else r, ?_, ?_⟩
  · rw [← Table.mem_rows, rows]
    exact List.mem_map_of_mem hr
  · by_cases named : Entity.id r = i
    · obtain ⟨id, kept⟩ := keeps r hr named
      rw [if_pos (by simpa using named)]
      exact ⟨id.trans same, kept.trans owner⟩
    · rw [if_neg (by simpa using named)]
      exact ⟨same, owner⟩

end Items

end World

/-! ## The statements -/

section Statements

variable {w w' : World} {loaded : Database} {tenantId : String}

namespace CategoryService

variable {entity saved : CategoryEntity}

theorem insert_beside {name slug : String} {parent : Option Category}
    (h : insert tenantId name slug parent w = .ok (saved, w')) : w.Beside w' := by
  obtain ⟨owner, -, h⟩ := bind_eq_ok.mp h
  obtain ⟨⟨row, u⟩, inserted, last⟩ := bind_eq_ok.mp h
  cases last
  exact World.beside_insert inserted

theorem saveChildren_beside (h : saveChildren entity loaded w = .ok w') : w.Beside w' := by
  unfold saveChildren at h
  cases listed : entity.children with
  | none =>
      rw [listed] at h
      cases h
      exact .refl _
  | some children =>
      rw [listed] at h
      obtain ⟨u, bound, removed⟩ := bind_eq_ok.mp h
      exact (World.beside_updates bound).trans (World.beside_updates removed)

theorem saveLoaded_beside (h : saveLoaded entity loaded w = .ok (saved, w')) : w.Beside w' := by
  unfold saveLoaded at h
  split at h
  · cases h
  · obtain ⟨u, updated, h⟩ := bind_eq_ok.mp h
    obtain ⟨u', children, last⟩ := bind_eq_ok.mp h
    cases last
    exact (World.beside_update updated).trans (saveChildren_beside children)

theorem softRemoveLoaded_beside (h : softRemoveLoaded entity loaded w = .ok ((), w')) :
    w.Beside w' := by
  obtain ⟨u, children, h⟩ := bind_eq_ok.mp h
  obtain ⟨u', updated, last⟩ := bind_eq_ok.mp h
  cases last
  exact (saveChildren_beside children).trans (World.beside_update updated)

end CategoryService

/-- UPDATEs of variants that keep their ids and tenants. -/
theorem World.beside_updateVariant {i : Uuid} {f : ProductVariant → ProductVariant}
    (keeps : ∀ r ∈ w.db.variants, r.id = i → (f r).id = r.id ∧ (f r).tenantId = r.tenantId)
    (h : w.update i f = .ok w') : w.Beside w' := by
  have kept := (World.extends_of_update keeps h).itemsKept
  obtain ⟨-, t, -, rfl⟩ := World.update_ok h
  exact ⟨kept, rfl, rfl⟩

theorem World.beside_updateWarehouse {i : Uuid} {f : Warehouse → Warehouse}
    (keeps : ∀ r ∈ w.db.warehouses, r.id = i → (f r).id = r.id ∧
      (f r).tenantId = r.tenantId)
    (h : w.update i f = .ok w') : w.Beside w' := by
  have kept := (World.extends_of_update keeps h).itemsKept
  obtain ⟨-, t, -, rfl⟩ := World.update_ok h
  exact ⟨kept, rfl, rfl⟩

namespace ProductService

variable {entity saved : ProductEntity} {draft : Draft}

theorem insert_beside {dto : CreateProductDto} (h : insert tenantId dto w = .ok (saved, w')) :
    w.Beside w' := by
  obtain ⟨owner, -, h⟩ := bind_eq_ok.mp h
  obtain ⟨category, -, h⟩ := bind_eq_ok.mp h
  obtain ⟨isActive, -, h⟩ := bind_eq_ok.mp h
  obtain ⟨⟨row, u⟩, inserted, last⟩ := bind_eq_ok.mp h
  cases last
  exact World.beside_insert inserted

theorem updates_beside {ident : α → Uuid} {product : Uuid} {items : List α}
    (h : items.foldlM (fun w item => w.update (ident item) fun row : ProductVariant =>
      { row with productId := product, updatedAt := w.clock }) w = .ok w') : w.Beside w' := by
  induction items generalizing w with
  | nil =>
      cases h
      exact .refl _
  | cons item items ih =>
      obtain ⟨v, updated, rest⟩ := bind_eq_ok.mp h
      have beside : w.Beside v := by
        refine World.beside_updateVariant ?_ updated
        exact fun _ _ _ => ⟨rfl, rfl⟩
      exact beside.trans (ih rest)

theorem saveVariants_beside (h : saveVariants entity loaded w = .ok w') : w.Beside w' := by
  unfold saveVariants at h
  cases listed : entity.variants with
  | none =>
      rw [listed] at h
      cases h
      exact .refl _
  | some variants =>
      rw [listed] at h
      dsimp only at h
      split at h
      · exact updates_beside h
      · cases h

theorem saveLoaded_beside (h : saveLoaded draft loaded w = .ok (saved, w')) : w.Beside w' := by
  unfold saveLoaded at h
  split at h
  · obtain ⟨row, -, h⟩ := bind_eq_ok.mp h
    obtain ⟨db, inserted, h⟩ := bind_eq_ok.mp h
    obtain ⟨u, variants, last⟩ := bind_eq_ok.mp h
    cases last
    exact (World.beside_insertRow inserted).trans (saveVariants_beside variants)
  · obtain ⟨row, -, h⟩ := bind_eq_ok.mp h
    obtain ⟨u, updated, h⟩ := bind_eq_ok.mp h
    obtain ⟨u', variants, last⟩ := bind_eq_ok.mp h
    cases last
    exact (World.beside_update updated).trans (saveVariants_beside variants)

theorem softRemoveLoaded_beside (h : softRemoveLoaded entity loaded w = .ok ((), w')) :
    w.Beside w' := by
  obtain ⟨u, variants, h⟩ := bind_eq_ok.mp h
  obtain ⟨u', updated, last⟩ := bind_eq_ok.mp h
  cases last
  exact (saveVariants_beside variants).trans (World.beside_update updated)

end ProductService

namespace VariantService

theorem insert_beside {productId : String} {dto : CreateVariantDto} {saved : ProductVariant}
    (h : insert tenantId productId dto w = .ok (saved, w')) : w.Beside w' := by
  obtain ⟨owner, -, h⟩ := bind_eq_ok.mp h
  obtain ⟨product, -, inserted⟩ := bind_eq_ok.mp h
  have kept := (World.extends_of_insert inserted).itemsKept
  obtain ⟨-, -, -, t, -, rfl⟩ := World.insert_ok inserted
  exact ⟨kept, rfl, rfl⟩

theorem overwrite_owner {draft : Draft} {now : Timestamp} {stored row : ProductVariant}
    (h : overwrite draft now stored = .ok row) :
    row.id = draft.entity.id ∧ row.tenantId = draft.entity.tenantId := by
  obtain ⟨price, attributes, stamp, -, -, rfl⟩ := overwrite_ok h
  exact ⟨rfl, rfl⟩

/-- A save of a variant that has been found under its tenant. -/
theorem saveLoaded_beside {draft : Draft} {saved : ProductVariant}
    (owned : loaded.variants.Owns draft.entity.tenantId draft.entity.id)
    (since : loaded.ItemsKept w.db) (h : saveLoaded draft loaded w = .ok (saved, w')) :
    w.Beside w' := by
  unfold saveLoaded at h
  split at h
  · cases h
  · rename_i stored found
    obtain ⟨mem, named⟩ := Database.rowById_eq_some found
    obtain ⟨row, written, h⟩ := bind_eq_ok.mp h
    obtain ⟨u, updated, last⟩ := bind_eq_ok.mp h
    cases last
    obtain ⟨id, tenant⟩ := overwrite_owner written
    refine World.beside_updateVariant (fun r hr same => ?_) updated
    have named : stored.id = draft.entity.id := named
    have storedOwner : stored.tenantId = draft.entity.tenantId :=
      owned.owner_of_id mem named
    have owner : r.tenantId = draft.entity.tenantId :=
      (since.variants _ _ owned).owner_of_id hr same
    constructor
    · simp [merge, column, id, named, same]
    · simp [merge, column, tenant, storedOwner, owner]

theorem softRemove_beside {entity : ProductVariant} (h : softRemove entity w = .ok ((), w')) :
    w.Beside w' := by
  obtain ⟨u, updated, last⟩ := bind_eq_ok.mp h
  cases last
  refine World.beside_updateVariant ?_ updated
  exact fun _ _ _ => ⟨rfl, rfl⟩

end VariantService

namespace WarehouseService

theorem insert_beside {dto : CreateWarehouseDto} {saved : Warehouse}
    (h : insert tenantId dto w = .ok (saved, w')) : w.Beside w' := by
  obtain ⟨owner, -, inserted⟩ := bind_eq_ok.mp h
  have kept := (World.extends_of_insert inserted).itemsKept
  obtain ⟨-, -, -, t, -, rfl⟩ := World.insert_ok inserted
  exact ⟨kept, rfl, rfl⟩

theorem overwrite_owner (entity : Warehouse) (now : Timestamp) (stored : Warehouse) :
    (overwrite entity now stored).id = entity.id ∧
      (overwrite entity now stored).tenantId = entity.tenantId := by
  unfold overwrite
  split
  · rename_i same
    rw [same]
    exact ⟨rfl, rfl⟩
  · split
    · exact ⟨rfl, rfl⟩
    · exact ⟨rfl, rfl⟩

theorem saveLoaded_beside {entity saved : Warehouse}
    (owned : loaded.warehouses.Owns entity.tenantId entity.id) (since : loaded.ItemsKept w.db)
    (h : saveLoaded entity loaded w = .ok (saved, w')) : w.Beside w' := by
  unfold saveLoaded at h
  split at h
  · obtain ⟨db, inserted, last⟩ := bind_eq_ok.mp h
    cases last
    obtain ⟨-, -, t, ht, rfl⟩ := Database.insertRow_ok inserted
    exact ⟨(Database.extends_insert ht).itemsKept, rfl, rfl⟩
  · rename_i stored found
    obtain ⟨mem, named⟩ := Database.rowById_eq_some found
    obtain ⟨u, updated, last⟩ := bind_eq_ok.mp h
    cases last
    obtain ⟨id, tenant⟩ := overwrite_owner entity w.clock stored
    refine World.beside_updateWarehouse (fun r hr same => ?_) updated
    have named : stored.id = entity.id := named
    have storedOwner : stored.tenantId = entity.tenantId :=
      owned.owner_of_id mem named
    have owner : r.tenantId = entity.tenantId :=
      (since.warehouses _ _ owned).owner_of_id hr same
    constructor
    · simp [merge, column, id, named, same]
    · simp [merge, column, tenant, storedOwner, owner]

theorem softRemove_beside {entity : Warehouse} (h : softRemove entity w = .ok ((), w')) :
    w.Beside w' := by
  obtain ⟨u, updated, last⟩ := bind_eq_ok.mp h
  cases last
  refine World.beside_updateWarehouse ?_ updated
  exact fun _ _ _ => ⟨rfl, rfl⟩

end WarehouseService

namespace SupplierService

theorem insert_beside {dto : CreateSupplierDto} {saved : Supplier}
    (h : insert tenantId dto w = .ok (saved, w')) : w.Beside w' := by
  obtain ⟨owner, -, inserted⟩ := bind_eq_ok.mp h
  exact World.beside_insert inserted

theorem saveLoaded_beside {entity saved : Supplier}
    (h : saveLoaded entity loaded w = .ok (saved, w')) : w.Beside w' := by
  unfold saveLoaded at h
  split at h
  · obtain ⟨db, inserted, last⟩ := bind_eq_ok.mp h
    cases last
    exact World.beside_insertRow inserted
  · obtain ⟨u, updated, last⟩ := bind_eq_ok.mp h
    cases last
    exact World.beside_update updated

theorem softRemove_beside {entity : Supplier} (h : softRemove entity w = .ok ((), w')) :
    w.Beside w' := by
  obtain ⟨u, updated, last⟩ := bind_eq_ok.mp h
  cases last
  exact World.beside_update updated

end SupplierService

namespace TenantUserManagementService

theorem insert_beside {user : NewUser} {saved : User} (h : insert user w = .ok (saved, w')) :
    w.Beside w' := by
  obtain ⟨owner, -, inserted⟩ := bind_eq_ok.mp h
  exact World.beside_insert inserted

theorem saveLoaded_beside {entity saved : User}
    (h : saveLoaded entity loaded w = .ok (saved, w')) : w.Beside w' := by
  unfold saveLoaded at h
  split at h
  · obtain ⟨db, inserted, last⟩ := bind_eq_ok.mp h
    cases last
    exact World.beside_insertRow inserted
  · obtain ⟨u, updated, last⟩ := bind_eq_ok.mp h
    cases last
    exact World.beside_update updated

end TenantUserManagementService

theorem TenantSettingService.saveLoaded_beside {entity saved : TenantSetting}
    (h : saveLoaded entity loaded w = .ok (saved, w')) : w.Beside w' := by
  unfold saveLoaded at h
  split at h
  · obtain ⟨db, inserted, last⟩ := bind_eq_ok.mp h
    cases last
    exact World.beside_insertRow inserted
  · obtain ⟨u, updated, last⟩ := bind_eq_ok.mp h
    cases last
    exact World.beside_update updated

end Statements

/-! ## The calls -/

/-- Every statement of the call leaves items and stock as `World.Beside` says. -/
abbrev Svc.KeepsItems {α : Type} (w₀ : World) (p : Svc α) : Prop :=
  Keeps (fun _ _ => True) w₀.Beside p

section Calls

variable {α : Type} {w₀ : World} {tenantId id : String} {context : Option AuditContextData}
  {platform : Platform} {bcrypt : Bcrypt}

theorem keepsItems_statement {label : Label} {act : World → Except Err (α × World)}
    (h : ∀ w a w', act w = .ok (a, w') → w.Beside w') : KeepsItems w₀ (statement label act) :=
  keeps_statement fun w a w' before _ done => before.trans (h w a w' done)

theorem keepsItems_saving {entity : StoredObject}
    {act : Database → World → Except Err (α × World)}
    (h : ∀ loaded w a w', act loaded w = .ok (a, w') → w.Beside w') :
    KeepsItems w₀ (saving entity act) :=
  keeps_saving fun loaded w a w' before _ done => before.trans (h loaded w a w' done)

theorem keepsItems_softRemoving {entity : StoredObject}
    {act : Database → World → Except Err (α × World)}
    (h : ∀ loaded w a w', act loaded w = .ok (a, w') → w.Beside w') :
    KeepsItems w₀ (softRemoving entity act) :=
  keeps_softRemoving fun loaded w a w' before _ done => before.trans (h loaded w a w' done)

theorem keepsItems_set (key : String) (value : Cached) :
    KeepsItems w₀ (CacheService.set key value) :=
  ⟨fun _ before _ => ⟨before.items, before.stock, before.pending⟩, fun _ => trivial⟩

theorem keepsItems_del (key : String) : KeepsItems w₀ (CacheService.del key) :=
  ⟨fun _ before _ => ⟨before.items, before.stock, before.pending⟩, fun _ => trivial⟩

theorem keepsItems_delByPattern (pattern : String) :
    KeepsItems w₀ (CacheService.delByPattern pattern) :=
  ⟨fun _ before _ => ⟨before.items, before.stock, before.pending⟩, fun _ => trivial⟩

theorem keepsItems_record (context : Option AuditContextData) (input : AuditEventInput) :
    KeepsItems w₀ (AuditService.record context input) := by
  unfold AuditService.record
  split
  · exact ⟨fun _ before _ => ⟨before.items, before.stock, before.pending⟩,
      fun _ => trivial⟩
  · exact keeps_throw _

/-- The event of a write, and then the answer. -/
theorem keepsItems_recorded (input : AuditEventInput) (a : α) :
    KeepsItems w₀ (do
      AuditService.record context input
      pure a) :=
  keeps_bind (keepsItems_record context input) fun _ => keeps_pure a

namespace CategoryService

theorem create_keepsItems (dto : CreateCategoryDto) :
    KeepsItems w₀ (create platform context tenantId dto) := by
  refine keeps_bind (keeps_assertSlugUnique _ _ _) fun _ => keeps_bind ?_ fun parent => ?_
  · cases dto.parentId.truthy with
    | none => exact keeps_pure _
    | some parentId => exact keeps_map _ (keeps_assertParentExists _ _)
  · refine keeps_translated _ (keeps_bind ?_ fun category => ?_)
    · exact keepsItems_statement fun _ _ _ => insert_beside
    · exact keeps_bind (keepsItems_record _ _) fun _ =>
        keeps_bind (keeps_invalidate keepsItems_delByPattern _) fun _ => keeps_pure _

theorem update_keepsItems (dto : UpdateCategoryDto) :
    KeepsItems w₀ (update platform context tenantId id dto) := by
  refine keeps_bind (keeps_findOne keepsItems_set _ _) fun target => ?_
  refine keeps_bind (keeps_assertSlugUnique _ _ _) fun _ => ?_
  refine keeps_bind (keeps_chooseParent _ _ _ _) fun parent => ?_
  refine keeps_translated _ (keeps_bind ?_ fun saved => ?_)
  · exact keepsItems_saving fun _ _ _ _ => saveLoaded_beside
  · exact keeps_bind (keepsItems_record _ _) fun _ => keeps_bind (keepsItems_del _) fun _ =>
      keeps_bind (keeps_invalidate keepsItems_delByPattern _) fun _ => keeps_pure _

theorem remove_keepsItems : KeepsItems w₀ (remove context tenantId id) := by
  refine keeps_bind (keeps_findOne keepsItems_set _ _) fun target => ?_
  refine keeps_bind (keeps_query _) fun children => ?_
  refine keeps_ite (keeps_throw _) ?_
  refine keeps_bind (keepsItems_softRemoving fun _ _ _ _ => softRemoveLoaded_beside) fun _ => ?_
  exact keeps_bind (keepsItems_record _ _) fun _ => keeps_bind (keepsItems_del _) fun _ =>
    keeps_invalidate keepsItems_delByPattern _

end CategoryService

namespace ProductService

theorem create_keepsItems (dto : CreateProductDto) :
    KeepsItems w₀ (create context tenantId dto) := by
  refine keeps_bind (CategoryService.keeps_findOne keepsItems_set _ _) fun _ => ?_
  refine keeps_bind (keeps_bind (keeps_query _) fun _ => keeps_ite (keeps_throw _)
    (keeps_pure _)) fun _ => keeps_translated _ (keeps_bind ?_ fun result => ?_)
  · exact keepsItems_statement fun _ _ _ => insert_beside
  · exact keeps_bind (keepsItems_record _ _) fun _ =>
      keeps_bind (keepsItems_delByPattern _) fun _ => keeps_pure _

theorem update_keepsItems (dto : UpdateProductDto) :
    KeepsItems w₀ (update context tenantId id dto) := by
  refine keeps_bind (keeps_findOne keepsItems_set _ _) fun product => ?_
  refine keeps_ite (keeps_throw _) ?_
  refine keeps_bind (keeps_named keepsItems_set _ _) fun _ => ?_
  refine keeps_translated _ (keeps_bind ?_ fun saved => ?_)
  · exact keepsItems_saving fun _ _ _ _ => saveLoaded_beside
  · exact keeps_bind (keepsItems_record _ _) fun _ => keeps_bind (keepsItems_del _) fun _ =>
      keeps_bind (keepsItems_delByPattern _) fun _ => keeps_pure _

theorem remove_keepsItems : KeepsItems w₀ (remove context tenantId id) := by
  refine keeps_bind (keeps_findOne keepsItems_set _ _) fun product => ?_
  refine keeps_bind (keeps_query _) fun variants => ?_
  refine keeps_ite (keeps_throw _) ?_
  refine keeps_bind (keepsItems_softRemoving fun _ _ _ _ => softRemoveLoaded_beside) fun _ => ?_
  exact keeps_bind (keepsItems_record _ _) fun _ => keeps_bind (keepsItems_del _) fun _ =>
    keepsItems_delByPattern _

end ProductService

namespace VariantService

theorem create_keepsItems (productId : String) (dto : CreateVariantDto) :
    KeepsItems w₀ (create context tenantId productId dto) := by
  refine keeps_bind (keeps_findProduct _ productId) fun _ => ?_
  refine keeps_bind (keeps_assertSkuUniqueness _ _ _) fun _ => keeps_translated _ ?_
  exact keeps_bind (keepsItems_statement fun _ _ _ => insert_beside) fun saved =>
    keepsItems_recorded _ saved

theorem remove_keepsItems (productId variantId : String) :
    KeepsItems w₀ (remove context tenantId productId variantId) := by
  refine keeps_bind (keeps_findOne _ productId variantId) fun variant => ?_
  exact keeps_bind (keepsItems_softRemoving fun _ _ _ _ => softRemove_beside) fun _ =>
    keepsItems_record _ _

end VariantService

namespace WarehouseService

theorem create_keepsItems (dto : CreateWarehouseDto) :
    KeepsItems w₀ (create context tenantId dto) := by
  refine keeps_bind (keeps_assertNameUnique _ _ _) fun _ => keeps_translated _ ?_
  exact keeps_bind (keepsItems_statement fun _ _ _ => insert_beside) fun saved =>
    keepsItems_recorded _ saved

theorem remove_keepsItems : KeepsItems w₀ (remove context tenantId id) := by
  refine keeps_bind (keeps_findOne _ id) fun warehouse => ?_
  exact keeps_bind (keepsItems_softRemoving fun _ _ _ _ => softRemove_beside) fun _ =>
    keepsItems_record _ _

end WarehouseService

namespace SupplierService

theorem create_keepsItems (dto : CreateSupplierDto) :
    KeepsItems w₀ (create context tenantId dto) := by
  refine keeps_bind (keeps_assertCompanyNameUnique _ _ _) fun _ => keeps_translated _ ?_
  exact keeps_bind (keepsItems_statement fun _ _ _ => insert_beside) fun saved =>
    keepsItems_recorded _ saved

theorem update_keepsItems (dto : UpdateSupplierDto) :
    KeepsItems w₀ (update context tenantId id dto) := by
  refine keeps_bind (keeps_findOne _ id) fun supplier => ?_
  have saves : KeepsItems w₀ (translated nameTaken do
      let edited := patched dto supplier
      let saved ← saving (.supplier edited) (saveLoaded edited)
      AuditService.record context (updateAudit supplier saved)
      pure saved) :=
    keeps_translated _ (keeps_bind (keepsItems_saving fun _ _ _ _ => saveLoaded_beside)
      fun saved => keepsItems_recorded _ saved)
  dsimp only
  cases dto.companyName.truthy with
  | none => exact saves
  | some name => exact keeps_bind (keeps_assertCompanyNameUnique _ _ _) fun _ => saves

theorem remove_keepsItems : KeepsItems w₀ (remove context tenantId id) := by
  refine keeps_bind (keeps_findOne _ id) fun supplier => ?_
  exact keeps_bind (keepsItems_softRemoving fun _ _ _ _ => softRemove_beside) fun _ =>
    keepsItems_record _ _

end SupplierService

namespace TenantUserManagementService

theorem inviteUser_keepsItems (dto : InviteUserDto) :
    KeepsItems w₀ (inviteUser bcrypt context tenantId dto) := by
  refine keeps_bind (keeps_query _) fun existing => ?_
  refine keeps_ite (keeps_throw _) (keeps_ite (keeps_throw _) (keeps_tryCatch ?_ fun e => ?_))
  · exact keeps_bind (keepsItems_statement fun _ _ _ => insert_beside) fun saved =>
      keepsItems_recorded _ saved
  · exact keeps_ite (keeps_throw _) (keeps_throw _)

theorem updateUserRole_keepsItems (userId : String) (dto : UpdateUserRoleDto) :
    KeepsItems w₀ (updateUserRole context tenantId userId dto) := by
  refine keeps_bind (keeps_query _) fun found => ?_
  cases found with
  | none => exact keeps_throw _
  | some user =>
      refine keeps_ite (keeps_throw _) (keeps_tryCatch ?_ fun e => keeps_throw _)
      refine keeps_bind (keepsItems_saving fun _ _ _ _ => saveLoaded_beside) fun saved => ?_
      exact keeps_bind (keepsItems_record _ _) fun _ =>
        keeps_bind (keepsItems_del _) fun _ => keeps_pure _

end TenantUserManagementService

theorem TenantSettingService.updateSettings_keepsItems (dto : UpdateSettingsDto) :
    KeepsItems w₀ (updateSettings context tenantId dto) := by
  refine keeps_bind (keeps_bind (keeps_query _) fun found => ?_) fun settings => ?_
  · cases found with
    | none => exact keeps_throw _
    | some settings => exact keeps_pure _
  · exact keeps_bind (keepsItems_saving fun _ _ _ _ => saveLoaded_beside) fun saved =>
      keepsItems_recorded _ saved

end Calls

end Tenantory
