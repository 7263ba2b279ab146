import Tenantory.ItemOwners
import Tenantory.AuditTrail
import Tenantory.ShopRuns

/-! What the calls of the catalog, the settings and the inventory leave as it is. They write
their own tables, drop entries of the cache and emit events; none of their steps touches the
users or the notifications, or leaves an entry that was not there. -/

namespace Tenantory

open Stored Svc UuidText

/-! ## What is spared -/

/-- Nothing is new in the cache, and the notifications are what they were. -/
structure World.Calm (w w' : World) : Prop where
  cache : w'.cache ⊆ w.cache
  notifications : w'.db.notifications = w.db.notifications

/-- The users are what they were as well. -/
structure World.Spares (w w' : World) : Prop extends w.Calm w' where
  users : w'.db.users = w.db.users

/-- A table other than those of the users and the notifications. -/
class Aside (ρ : Type) extends LawfulTable ρ where
  users_put : ∀ t db, (put t db).users = db.users
  notifications_put : ∀ t db, (put t db).notifications = db.notifications

instance : Aside TenantSetting := ⟨fun _ _ => rfl, fun _ _ => rfl⟩
instance : Aside Category := ⟨fun _ _ => rfl, fun _ _ => rfl⟩
instance : Aside Product := ⟨fun _ _ => rfl, fun _ _ => rfl⟩
instance : Aside ProductVariant := ⟨fun _ _ => rfl, fun _ _ => rfl⟩
instance : Aside Warehouse := ⟨fun _ _ => rfl, fun _ _ => rfl⟩
instance : Aside Supplier := ⟨fun _ _ => rfl, fun _ _ => rfl⟩

namespace World

variable {u v w w' : World}

theorem Calm.refl (w : World) : w.Calm w := ⟨fun _ mem => mem, rfl⟩

theorem Calm.trans (h : u.Calm v) (h' : v.Calm w) : u.Calm w :=
  ⟨fun _ mem => h.cache (h'.cache mem), h'.notifications.trans h.notifications⟩

theorem Spares.refl (w : World) : w.Spares w := ⟨.refl w, rfl⟩

theorem Spares.trans (h : u.Spares v) (h' : v.Spares w) : u.Spares w :=
  ⟨h.toCalm.trans h'.toCalm, h'.users.trans h.users⟩

/-- The tables are as they were, and so is the cache. -/
theorem spares_of_same (db : w'.db = w.db) (cache : w'.cache = w.cache) : w.Spares w' :=
  ⟨⟨fun _ mem => cache ▸ mem, congrArg Database.notifications db⟩,
    congrArg Database.users db⟩

section Aside

variable {α β ρ : Type} [Aside ρ] {build : Uuid → Timestamp → ρ} {row : ρ} {i : Uuid}
  {f : ρ → ρ}

theorem spares_put (t : Table ρ) : w.Spares { w with db := put t w.db } :=
  ⟨⟨fun _ mem => mem, Aside.notifications_put t w.db⟩, Aside.users_put t w.db⟩

theorem spares_insert (h : w.insert build = .ok (row, w')) : w.Spares w' := by
  obtain ⟨-, -, -, t, -, rfl⟩ := World.insert_ok h
  have kept := spares_put (w := w) t
  exact ⟨⟨kept.cache, kept.notifications⟩, kept.users⟩

theorem spares_insertRow {db : Database} (h : w.db.insertRow row = .ok db) :
    w.Spares { w with db } := by
  obtain ⟨-, -, t, -, rfl⟩ := Database.insertRow_ok h
  exact spares_put t

theorem spares_update (h : w.update i f = .ok w') : w.Spares w' := by
  obtain ⟨-, t, -, rfl⟩ := World.update_ok h
  exact spares_put t

theorem spares_updates {ident : β → Uuid} {g : World → ρ → ρ} {items : List β}
    (h : items.foldlM (fun w item => w.update (ident item) (g w)) w = .ok w') : w.Spares w' := by
  induction items generalizing w with
  | nil =>
      cases h
      exact .refl _
  | cons item items ih =>
      obtain ⟨v, updated, rest⟩ := bind_eq_ok.mp h
      exact (spares_update updated).trans (ih rest)

/-- What a save writes, and what it answers with. -/
theorem spares_inserted {a b : α} (h : (do
    let db ← w.db.insertRow row
    pure (a, { w with db }) : Except Err (α × World)) = .ok (b, w')) : w.Spares w' := by
  obtain ⟨db, inserted, last⟩ := bind_eq_ok.mp h
  cases last
  exact spares_insertRow inserted

theorem spares_updated {a b : α} (h : (do
    let v ← w.update i f
    pure (a, v) : Except Err (α × World)) = .ok (b, w')) : w.Spares w' := by
  obtain ⟨v, updated, last⟩ := bind_eq_ok.mp h
  cases last
  exact spares_update updated

end Aside

end World

/-! ## Statements -/

section Statements

variable {α β : Type} {w w' : World} {loaded : Database} {tenantId : String}

namespace CategoryService

variable {entity saved : CategoryEntity}

theorem insert_spares {name slug : String} {parent : Option Category}
    (h : insert tenantId name slug parent w = .ok (saved, w')) : w.Spares w' := by
  obtain ⟨owner, -, h⟩ := bind_eq_ok.mp h
  obtain ⟨⟨row, u⟩, inserted, last⟩ := bind_eq_ok.mp h
  cases last
  exact World.spares_insert inserted

theorem saveChildren_spares (h : saveChildren entity loaded w = .ok w') : w.Spares w' := by
  unfold saveChildren at h
  cases listed : entity.children with
  | none =>
      rw [listed] at h
      cases h
      exact .refl _
  | some children =>
      rw [listed] at h
      obtain ⟨u, bound, removed⟩ := bind_eq_ok.mp h
      exact (World.spares_updates bound).trans (World.spares_updates removed)

theorem saveLoaded_spares (h : saveLoaded entity loaded w = .ok (saved, w')) :
    w.Spares w' := by
  unfold saveLoaded at h
  split at h
  · cases h
  · obtain ⟨u, updated, h⟩ := bind_eq_ok.mp h
    obtain ⟨u', children, last⟩ := bind_eq_ok.mp h
    cases last
    exact (World.spares_update updated).trans (saveChildren_spares children)

theorem softRemoveLoaded_spares (h : softRemoveLoaded entity loaded w = .ok ((), w')) :
    w.Spares w' := by
  obtain ⟨u, children, h⟩ := bind_eq_ok.mp h
  obtain ⟨u', updated, last⟩ := bind_eq_ok.mp h
  cases last
  exact (saveChildren_spares children).trans (World.spares_update updated)

end CategoryService

namespace ProductService

variable {entity saved : ProductEntity} {draft : Draft}

theorem insert_spares {dto : CreateProductDto} (h : insert tenantId dto w = .ok (saved, w')) :
    w.Spares w' := by
  obtain ⟨owner, -, h⟩ := bind_eq_ok.mp h
  obtain ⟨category, -, h⟩ := bind_eq_ok.mp h
  obtain ⟨isActive, -, h⟩ := bind_eq_ok.mp h
  obtain ⟨⟨row, u⟩, inserted, last⟩ := bind_eq_ok.mp h
  cases last
  exact World.spares_insert inserted

theorem saveVariants_spares (h : saveVariants entity loaded w = .ok w') : w.Spares w' := by
  unfold saveVariants at h
  cases listed : entity.variants with
  | none =>
      rw [listed] at h
      cases h
      exact .refl _
  | some variants =>
      rw [listed] at h
      dsimp only at h
      split at h
      · exact World.spares_updates h
      · cases h

theorem saveLoaded_spares (h : saveLoaded draft loaded w = .ok (saved, w')) :
    w.Spares w' := by
  unfold saveLoaded at h
  split at h
  · obtain ⟨row, -, h⟩ := bind_eq_ok.mp h
    obtain ⟨db, inserted, h⟩ := bind_eq_ok.mp h
    obtain ⟨u, variants, last⟩ := bind_eq_ok.mp h
    cases last
    exact (World.spares_insertRow inserted).trans (saveVariants_spares variants)
  · obtain ⟨row, -, h⟩ := bind_eq_ok.mp h
    obtain ⟨u, updated, h⟩ := bind_eq_ok.mp h
    obtain ⟨u', variants, last⟩ := bind_eq_ok.mp h
    cases last
    exact (World.spares_update updated).trans (saveVariants_spares variants)

theorem softRemoveLoaded_spares (h : softRemoveLoaded entity loaded w = .ok ((), w')) :
    w.Spares w' := by
  obtain ⟨u, variants, h⟩ := bind_eq_ok.mp h
  obtain ⟨u', updated, last⟩ := bind_eq_ok.mp h
  cases last
  exact (saveVariants_spares variants).trans (World.spares_update updated)

end ProductService

namespace VariantService

theorem insert_spares {productId : String} {dto : CreateVariantDto} {saved : ProductVariant}
    (h : insert tenantId productId dto w = .ok (saved, w')) : w.Spares w' := by
  obtain ⟨owner, -, h⟩ := bind_eq_ok.mp h
  obtain ⟨product, -, inserted⟩ := bind_eq_ok.mp h
  exact World.spares_insert inserted

theorem saveLoaded_spares {draft : Draft} {saved : ProductVariant}
    (h : saveLoaded draft loaded w = .ok (saved, w')) : w.Spares w' := by
  unfold saveLoaded at h
  split at h
  · cases h
  · obtain ⟨row, -, h⟩ := bind_eq_ok.mp h
    exact World.spares_updated h

theorem softRemove_spares {entity : ProductVariant} (h : softRemove entity w = .ok ((), w')) :
    w.Spares w' :=
  World.spares_updated h

end VariantService

namespace WarehouseService

theorem insert_spares {dto : CreateWarehouseDto} {saved : Warehouse}
    (h : insert tenantId dto w = .ok (saved, w')) : w.Spares w' := by
  obtain ⟨owner, -, inserted⟩ := bind_eq_ok.mp h
  exact World.spares_insert inserted

theorem saveLoaded_spares {entity saved : Warehouse}
    (h : saveLoaded entity loaded w = .ok (saved, w')) : w.Spares w' := by
  unfold saveLoaded at h
  split at h
  · exact World.spares_inserted h
  · exact World.spares_updated h

theorem softRemove_spares {entity : Warehouse} (h : softRemove entity w = .ok ((), w')) :
    w.Spares w' :=
  World.spares_updated h

end WarehouseService

namespace SupplierService

theorem insert_spares {dto : CreateSupplierDto} {saved : Supplier}
    (h : insert tenantId dto w = .ok (saved, w')) : w.Spares w' := by
  obtain ⟨owner, -, inserted⟩ := bind_eq_ok.mp h
  exact World.spares_insert inserted

theorem saveLoaded_spares {entity saved : Supplier}
    (h : saveLoaded entity loaded w = .ok (saved, w')) : w.Spares w' := by
  unfold saveLoaded at h
  split at h
  · exact World.spares_inserted h
  · exact World.spares_updated h

theorem softRemove_spares {entity : Supplier} (h : softRemove entity w = .ok ((), w')) :
    w.Spares w' :=
  World.spares_updated h

end SupplierService

theorem TenantSettingService.saveLoaded_spares {entity saved : TenantSetting}
    (h : saveLoaded entity loaded w = .ok (saved, w')) : w.Spares w' := by
  unfold saveLoaded at h
  split at h
  · exact World.spares_inserted h
  · exact World.spares_updated h

end Statements

/-! ## Calls -/

/-- A relation of worlds that holds where the users, the notifications and the cache are spared. -/
structure Overlooks (R : World → World → Prop) : Prop where
  trans : ∀ {u v w}, R u v → R v w → R u w
  spares : ∀ {w w' : World}, w.Spares w' → R w w'

theorem overlooks_spares : Overlooks World.Spares := ⟨.trans, id⟩

theorem overlooks_calm : Overlooks World.Calm := ⟨.trans, World.Spares.toCalm⟩

/-- Steps that keep to a relation keep to a coarser one. -/
theorem Prog.guarded_coarser {σ ε L α : Type} {R R' : σ → σ → Prop} {p : Prog σ ε L α}
    (refl : ∀ s, R s s) (trans : ∀ {s t u}, R' s t → R' t u → R' s u)
    (coarser : ∀ {s t}, R s t → R' s t) (h : ∀ s₀, p.Guarded (fun _ _ => True) (R s₀))
    (s₀ : σ) :
    p.Guarded (fun _ _ => True) (R' s₀) := by
  induction p with
  | ret a => trivial
  | atom a k ih =>
      refine ⟨fun s before _ => ?_, fun r => ih r fun u => (h u).2 r⟩
      exact trans before (coarser ((h s).1 s (refl s) trivial))

/-- Every step of the call keeps to the relation. -/
def Svc.Stays {α : Type} (R : World → World → Prop) (p : Svc α) : Prop :=
  ∀ w₀, Keeps (fun _ _ => True) (R w₀) p

abbrev Sparing {α : Type} (p : Svc α) : Prop := Svc.Stays World.Spares p

section Calls

variable {α β : Type} {R : World → World → Prop} {tenantId : String}
  {context : Option AuditContextData}

theorem stays_pure (a : α) : Stays R (pure a : Svc α) := fun _ => keeps_pure a

theorem stays_throw (e : Err) : Stays R (throw e : Svc α) := fun _ => keeps_throw e

theorem Svc.Stays.next {p : Svc α} {f : α → Svc β} (h : Stays R p)
    (rest : ∀ a, Stays R (f a)) : Stays R (p >>= f) :=
  fun w₀ => keeps_bind (h w₀) fun a => rest a w₀

theorem stays_ite {p q : Svc α} {c : Prop} [Decidable c] (yes : Stays R p) (no : Stays R q) :
    Stays R (if c then p else q) := fun w₀ => keeps_ite (yes w₀) (no w₀)

theorem stays_tryCatch {p : Svc α} {handle : Err → Svc α} (h : Stays R p)
    (rest : ∀ e, Stays R (handle e)) : Stays R (tryCatch p handle) :=
  fun w₀ => keeps_tryCatch (h w₀) fun e => rest e w₀

theorem stays_translated {p : Svc α} (taken : Err) (h : Stays R p) :
    Stays R (translated taken p) := fun w₀ => keeps_translated taken (h w₀)

theorem stays_query (read : World → Except Err α) : Stays R (query read) :=
  fun _ => keeps_query read

theorem stays_discard {p : Svc α} (h : Stays R p) : Stays R (discard p : Svc Unit) :=
  fun w₀ => keeps_map _ (h w₀)

variable (overlooks : Overlooks R)

include overlooks

theorem stays_statement {label : Label} {act : World → Except Err (α × World)}
    (h : ∀ w a w', act w = .ok (a, w') → R w w') : Stays R (statement label act) := fun _ =>
  keeps_statement fun w a w' before _ done => overlooks.trans before (h w a w' done)

theorem stays_saving {entity : StoredObject} {act : Database → World → Except Err (α × World)}
    (h : ∀ loaded w a w', act loaded w = .ok (a, w') → R w w') : Stays R (saving entity act) :=
  (stays_query _).next fun loaded => stays_statement overlooks (h loaded)

theorem stays_softRemoving {entity : StoredObject}
    {act : Database → World → Except Err (α × World)}
    (h : ∀ loaded w a w', act loaded w = .ok (a, w') → R w w') :
    Stays R (softRemoving entity act) :=
  (stays_query _).next fun loaded => stays_statement overlooks (h loaded)

theorem stays_record (input : AuditEventInput) :
    Stays R (AuditService.record context input) := by
  intro w₀
  unfold AuditService.record
  split
  · exact ⟨fun w before _ => overlooks.trans before
      (overlooks.spares (World.spares_of_same rfl rfl)), fun _ => trivial⟩
  · exact keeps_throw _

/-- The event of a write, and then the answer. -/
theorem stays_recorded (input : AuditEventInput) (a : α) :
    Stays R (do
      AuditService.record context input
      pure a) :=
  (stays_record overlooks input).next fun _ => stays_pure a

/-- A save, the event about it, and then the answer. -/
theorem stays_saved {entity : StoredObject} {act : Database → World → Except Err (α × World)}
    {input : α → AuditEventInput}
    (h : ∀ loaded w a w', act loaded w = .ok (a, w') → R w w') :
    Stays R (do
      let saved ← saving entity act
      AuditService.record context (input saved)
      pure saved) :=
  (stays_saving overlooks h).next fun saved => stays_recorded overlooks _ saved

theorem stays_dropped {w₀ w : World} (p : String → Bool) (before : R w₀ w) :
    R w₀ (w.deleteKeys p) :=
  overlooks.trans before
    (overlooks.spares ⟨⟨fun _ mem => List.mem_of_mem_filter mem, rfl⟩, rfl⟩)

theorem stays_del (key : String) : Stays R (CacheService.del key) :=
  fun _ => ⟨fun _ before _ => stays_dropped overlooks (· == key) before, fun _ => trivial⟩

theorem stays_delByPattern (pattern : String) : Stays R (CacheService.delByPattern pattern) :=
  fun _ => ⟨fun _ before _ => stays_dropped overlooks (CacheService.glob pattern) before,
    fun _ => trivial⟩

theorem stays_invalidate (tenantId : String) :
    Stays R (CategoryService.invalidateCollections tenantId) :=
  (stays_delByPattern overlooks _).next fun _ => stays_delByPattern overlooks _

end Calls

/-! ## The audited calls that read past the cache -/

section Audited

variable {tenantId id : String} {context : Option AuditContextData} {bcrypt : Bcrypt}
  {platform : Platform}

theorem CategoryService.create_sparing (dto : CreateCategoryDto) :
    Sparing (CategoryService.create platform context tenantId dto) := by
  refine Svc.Stays.next (fun _ => keeps_assertSlugUnique _ _ _) fun _ => ?_
  refine Svc.Stays.next (fun _ => ?_) fun parent => stays_translated _ ?_
  · cases dto.parentId.truthy with
    | none => exact keeps_pure _
    | some parentId => exact keeps_map _ (keeps_assertParentExists tenantId parentId)
  · refine (stays_statement overlooks_spares fun _ _ _ => insert_spares).next fun category => ?_
    refine (stays_record overlooks_spares _).next fun _ => ?_
    refine Svc.Stays.next ?_ fun _ => stays_pure category
    exact stays_invalidate overlooks_spares tenantId

theorem VariantService.create_sparing (productId : String) (dto : CreateVariantDto) :
    Sparing (VariantService.create context tenantId productId dto) := by
  refine Svc.Stays.next (fun _ => keeps_findProduct _ productId) fun _ => ?_
  refine Svc.Stays.next (fun _ => keeps_assertSkuUniqueness _ _ _) fun _ => stays_translated _ ?_
  exact (stays_statement overlooks_spares fun _ _ _ => insert_spares).next fun saved =>
    stays_recorded overlooks_spares _ saved

theorem VariantService.update_sparing (productId variantId : String) (dto : UpdateVariantDto) :
    Sparing (VariantService.update context tenantId productId variantId dto) := by
  refine Svc.Stays.next (fun _ => keeps_findOne _ productId variantId) fun variant => ?_
  have saves : Sparing (translated skuTaken do
      let draft := patched dto variant
      let saved ← saving (.variant draft.entity) (saveLoaded draft)
      AuditService.record context (updateAudit variant saved)
      pure saved) :=
    stays_translated _ (stays_saved overlooks_spares fun _ _ _ _ => saveLoaded_spares)
  dsimp only
  cases dto.sku.truthy with
  | none => exact saves
  | some sku =>
      refine stays_ite (Svc.Stays.next (fun _ => ?_) fun _ => saves) saves
      exact keeps_assertSkuUniqueness _ _ _

theorem VariantService.remove_sparing (productId variantId : String) :
    Sparing (VariantService.remove context tenantId productId variantId) := by
  refine Svc.Stays.next (fun _ => keeps_findOne _ productId variantId) fun variant => ?_
  exact (stays_softRemoving overlooks_spares fun _ _ _ _ => softRemove_spares).next fun _ =>
    stays_record overlooks_spares _

theorem WarehouseService.create_sparing (dto : CreateWarehouseDto) :
    Sparing (WarehouseService.create context tenantId dto) := by
  refine Svc.Stays.next (fun _ => keeps_assertNameUnique _ _ _) fun _ => stays_translated _ ?_
  exact (stays_statement overlooks_spares fun _ _ _ => insert_spares).next fun saved =>
    stays_recorded overlooks_spares _ saved

theorem WarehouseService.update_sparing (dto : UpdateWarehouseDto) :
    Sparing (WarehouseService.update context tenantId id dto) := by
  refine Svc.Stays.next (fun _ => keeps_findOne _ id) fun warehouse => ?_
  have saves : Sparing (translated nameTaken do
      let edited := patched dto warehouse
      let saved ← saving (.warehouse edited) (saveLoaded edited)
      AuditService.record context (updateAudit warehouse saved)
      pure saved) :=
    stays_translated _ (stays_saved overlooks_spares fun _ _ _ _ => saveLoaded_spares)
  dsimp only
  cases dto.name.truthy with
  | none => exact saves
  | some name => exact Svc.Stays.next (fun _ => keeps_assertNameUnique _ _ _) fun _ => saves

theorem WarehouseService.remove_sparing :
    Sparing (WarehouseService.remove context tenantId id) := by
  refine Svc.Stays.next (fun _ => keeps_findOne _ id) fun warehouse => ?_
  exact (stays_softRemoving overlooks_spares fun _ _ _ _ => softRemove_spares).next fun _ =>
    stays_record overlooks_spares _

theorem SupplierService.create_sparing (dto : CreateSupplierDto) :
    Sparing (SupplierService.create context tenantId dto) := by
  refine Svc.Stays.next (fun _ => keeps_assertCompanyNameUnique _ _ _) fun _ =>
    stays_translated _ ?_
  exact (stays_statement overlooks_spares fun _ _ _ => insert_spares).next fun saved =>
    stays_recorded overlooks_spares _ saved

theorem SupplierService.update_sparing (dto : UpdateSupplierDto) :
    Sparing (SupplierService.update context tenantId id dto) := by
  refine Svc.Stays.next (fun _ => keeps_findOne _ id) fun supplier => ?_
  have saves : Sparing (translated nameTaken do
      let edited := patched dto supplier
      let saved ← saving (.supplier edited) (saveLoaded edited)
      AuditService.record context (updateAudit supplier saved)
      pure saved) :=
    stays_translated _ (stays_saved overlooks_spares fun _ _ _ _ => saveLoaded_spares)
  dsimp only
  cases dto.companyName.truthy with
  | none => exact saves
  | some name => exact Svc.Stays.next (fun _ => keeps_assertCompanyNameUnique _ _ _) fun _ => saves

theorem SupplierService.remove_sparing : Sparing (SupplierService.remove context tenantId id) := by
  refine Svc.Stays.next (fun _ => keeps_findOne _ id) fun supplier => ?_
  exact (stays_softRemoving overlooks_spares fun _ _ _ _ => softRemove_spares).next fun _ =>
    stays_record overlooks_spares _

theorem TenantSettingService.updateSettings_sparing (dto : UpdateSettingsDto) :
    Sparing (TenantSettingService.updateSettings context tenantId dto) := by
  refine Svc.Stays.next ((stays_query _).next fun found => ?_) fun settings => ?_
  · cases found with
    | none => exact stays_throw _
    | some settings => exact stays_pure settings
  · exact stays_saved overlooks_spares fun _ _ _ _ => saveLoaded_spares

end Audited

/-! ## Stock calls -/

section Stock

open InventoryService

/-- As `Sparing`, for a program that does not throw. -/
def SparingStep {α : Type} (p : Step α) : Prop :=
  ∀ w₀ : World, p.Guarded (fun _ _ => True) w₀.Spares

variable {α β : Type} {m : Movement} {tx : ℕ} {v : Captured}

theorem sparingStep_ret (a : α) : SparingStep (.ret a) := fun _ => trivial

theorem SparingStep.bind {p : Step α} {f : α → Step β} (h : SparingStep p)
    (rest : ∀ a, SparingStep (f a)) : SparingStep (p.bind f) :=
  fun w₀ => Prog.guarded_bind (h w₀) fun a => rest a w₀

theorem sparingStep_atom {a : Atom World Err Label β} {k : Except Err β → Step α}
    (h : ∀ w : World, w.Spares (a.act w).2) (rest : ∀ r, SparingStep (k r)) :
    SparingStep (.atom a k) :=
  fun w₀ => ⟨fun w before _ => before.trans (h w), fun r => rest r w₀⟩

theorem sparingStep_perform {label : Label} {act : World → Except Err β × World}
    (h : ∀ w : World, w.Spares (act w).2) : SparingStep (perform label act).run :=
  sparingStep_atom h sparingStep_ret

theorem sparingStep_insertStock {variantId warehouseId : Uuid}
    {build : Uuid → Timestamp → StockLevel} :
    SparingStep (insertStock tx variantId warehouseId build).run := by
  refine sparingStep_atom (fun w => ?_) sparingStep_ret
  show w.Spares (insertAct tx build w).2
  unfold insertAct
  simp only
  split
  · exact .refl w
  · split
    · exact .refl w
    · split
      · exact .refl w
      · exact World.spares_of_same rfl rfl

theorem sparingStep_updateStock {row : StockLevel} {available reserved : Option ℤ} :
    SparingStep (updateStock tx row available reserved).run := by
  refine sparingStep_atom (fun w => ?_) sparingStep_ret
  show w.Spares (updateAct tx row available reserved w).2
  unfold updateAct
  split
  · exact .refl w
  · exact World.spares_of_same rfl rfl

theorem sparingStep_saveStock (stock : StockEntity) : SparingStep (saveStock tx stock).run := by
  cases stock with
  | created draft =>
      unfold saveStock
      dsimp only
      cases uuidParam draft.tenantId with
      | error e => exact sparingStep_ret _
      | ok tenant => exact sparingStep_insertStock
  | loaded row =>
      have reloads : Sparing (reloadStock row) := sparingStep_perform fun w => .refl w
      refine reloads.next fun found => ?_
      cases found with
      | none => exact sparingStep_insertStock
      | some stored =>
          dsimp only
          split
          · exact sparingStep_ret _
          · exact sparingStep_updateStock

theorem sparingStep_lift {p : Svc α} (h : Sparing p) {f : α → Attempt β}
    (rest : ∀ a, SparingStep ((f a).run v)) : SparingStep ((Attempt.lift p >>= f).run v) := by
  rw [Attempt.run_bind, Attempt.run_lift, Prog.bind_assoc]
  refine SparingStep.bind h fun answer => ?_
  rw [Prog.ret_bind]
  cases answer with
  | ok a => exact rest a
  | error e => exact sparingStep_ret _

theorem sparingStep_callback : SparingStep ((m.callback tx).run v) := by
  have finds : Sparing m.find := by
    refine (stays_query _).next fun found => ?_
    cases found with
    | some row => exact stays_pure _
    | none =>
        cases m.absent with
        | ok draft => exact stays_pure _
        | error missing => exact stays_throw _
  refine sparingStep_lift finds fun stock => ?_
  cases m.refused stock with
  | some err => exact sparingStep_ret _
  | none => exact sparingStep_lift (sparingStep_saveStock _) fun saved => sparingStep_ret _

theorem sparingStep_transaction : SparingStep ((transaction m.callback).run v) := by
  have begins : Sparing startTransaction :=
    sparingStep_perform fun _ => World.spares_of_same rfl rfl
  refine sparingStep_lift begins fun tx => ?_
  have commits : Sparing (commitTransaction tx) :=
    sparingStep_perform fun _ => ⟨⟨fun _ mem => mem, rfl⟩, rfl⟩
  have rolls : Sparing (rollbackTransaction tx) :=
    sparingStep_perform fun _ => World.spares_of_same rfl rfl
  rw [Attempt.run_tryCatch]
  refine SparingStep.bind ?_ fun answer => ?_
  · rw [Attempt.run_bind]
    refine sparingStep_callback.bind fun answer => ?_
    obtain ⟨answer, v⟩ := answer
    cases answer with
    | error e => exact sparingStep_ret _
    | ok saved => exact sparingStep_lift commits fun _ => sparingStep_ret _
  · obtain ⟨answer, v⟩ := answer
    cases answer with
    | ok saved => exact sparingStep_ret _
    | error e => exact sparingStep_lift rolls fun _ => sparingStep_ret _

theorem sparingStep_retryFrom (left attempt : ℕ) : SparingStep ((RetryBackoff.retryFrom timer
    (transaction m.callback) retryOptions exhausted left attempt).run v) := by
  induction left generalizing attempt v with
  | zero => exact sparingStep_ret _
  | succ left ih =>
      unfold RetryBackoff.retryFrom
      rw [Attempt.run_tryCatch]
      refine sparingStep_transaction.bind fun answer => ?_
      obtain ⟨answer, v⟩ := answer
      cases answer with
      | ok saved => exact sparingStep_ret _
      | error e =>
          dsimp only [Attempt.handle]
          split
          · exact sparingStep_ret _
          · exact sparingStep_atom (fun _ => World.spares_of_same rfl rfl) fun draw =>
              sparingStep_atom (fun _ => World.spares_of_same rfl rfl) fun _ => ih _

theorem InventoryService.run_sparing (m : Movement) (context : Option AuditContextData) :
    Sparing (m.run context) := by
  show SparingStep ((m.attempts.run none).bind _)
  refine (sparingStep_retryFrom _ _).bind fun answer => ?_
  obtain ⟨answer, captured⟩ := answer
  cases answer with
  | error e => exact sparingStep_ret _
  | ok saved =>
      cases captured with
      | none => exact sparingStep_ret _
      | some movement =>
          refine Svc.Stays.next ((stays_record overlooks_spares _).next fun _ => ?_) fun _ =>
            stays_pure saved
          exact sparingStep_perform fun _ => World.spares_of_same rfl rfl

theorem StockCall.program_sparing (call : StockCall) (context : Option AuditContextData) :
    Sparing (call.program context) := by
  obtain ⟨op, tenantId, dto⟩ := call
  have variant : Sparing (VariantService.findOneById tenantId dto.variantId) := by
    refine (stays_query _).next fun found => ?_
    cases found with
    | some variant => exact stays_pure variant
    | none => exact stays_throw _
  have warehouse : Sparing (WarehouseService.findOne tenantId dto.warehouseId) :=
    fun _ => WarehouseService.keeps_findOne tenantId dto.warehouseId
  cases op with
  | reserve => exact (run_sparing _ context).next fun _ => stays_pure _
  | release => exact (run_sparing _ context).next fun _ => stays_pure _
  | deduct =>
      refine variant.next fun variant => warehouse.next fun warehouse => ?_
      exact (run_sparing _ context).next fun _ => stays_pure _
  | replenish =>
      refine Svc.Stays.next (warehouse.next fun warehouse => variant.next fun variant => ?_)
        fun _ => stays_pure _
      exact run_sparing _ context

end Stock

/-! ## Accounts -/

namespace TenantUserManagementService

variable {tenantId : String} {context : Option AuditContextData} {bcrypt : Bcrypt} {w w' : World}

theorem insert_calm {user : NewUser} {saved : User} (h : insert user w = .ok (saved, w')) :
    w.Calm w' := by
  obtain ⟨tenant, -, inserted⟩ := bind_eq_ok.mp h
  obtain ⟨-, -, -, t, -, rfl⟩ := World.insert_ok inserted
  exact ⟨fun _ mem => mem, rfl⟩

theorem saveLoaded_calm {entity saved : User} {loaded : Database}
    (h : saveLoaded entity loaded w = .ok (saved, w')) : w.Calm w' := by
  unfold saveLoaded at h
  split at h
  · obtain ⟨db, inserted, last⟩ := bind_eq_ok.mp h
    cases last
    obtain ⟨-, -, t, -, rfl⟩ := Database.insertRow_ok inserted
    exact ⟨fun _ mem => mem, rfl⟩
  · obtain ⟨u, updated, last⟩ := bind_eq_ok.mp h
    cases last
    obtain ⟨-, t, -, rfl⟩ := World.update_ok updated
    exact ⟨fun _ mem => mem, rfl⟩

theorem inviteUser_calm (dto : InviteUserDto) :
    Stays World.Calm (inviteUser bcrypt context tenantId dto) := by
  refine (stays_query _).next fun _ => stays_ite (stays_throw _)
    (stays_ite (stays_throw _) (stays_tryCatch ?_ fun e => ?_))
  · exact (stays_statement overlooks_calm fun _ _ _ => insert_calm).next fun saved =>
      stays_recorded overlooks_calm _ saved
  · exact stays_ite (stays_throw _) (stays_throw _)

theorem updateUserRole_calm (userId : String) (dto : UpdateUserRoleDto) :
    Stays World.Calm (updateUserRole context tenantId userId dto) := by
  refine (stays_query _).next fun found => ?_
  cases found with
  | none => exact stays_throw _
  | some user =>
      refine stays_ite (stays_throw _) (stays_tryCatch ?_ fun e => stays_throw _)
      refine (stays_saving overlooks_calm fun _ _ _ _ => saveLoaded_calm).next fun saved => ?_
      refine (stays_record overlooks_calm _).next fun _ => ?_
      exact (stays_del overlooks_calm _).next fun _ => stays_pure saved

end TenantUserManagementService

/-! ## Whole operations -/

/-- A judgement on programs that goes from the parts to the whole, and that holds of a program
that spares users, notifications and cache. -/
structure CallRules (J : (α : Type) → Step α → Prop) : Prop where
  sparing : ∀ {α : Type} {p : Step α},
    (∀ w₀ : World, p.Guarded (fun _ _ => True) w₀.Spares) → J α p
  bind : ∀ {α β : Type} {p : Step α} {f : α → Step β},
    J α p → (∀ a, J β (f a)) → J β (p.bind f)

/-- Whatever keeps to such a relation. -/
theorem Overlooks.rules {R : World → World → Prop} (overlooks : Overlooks R) :
    CallRules fun _ p => ∀ w₀, p.Guarded (fun _ _ => True) (R w₀) where
  sparing spares := Prog.guarded_coarser .refl overlooks.trans overlooks.spares spares
  bind h rest w₀ := Prog.guarded_bind (h w₀) fun a => rest a w₀

section Rules

variable {J : (α : Type) → Step α → Prop} {tenantId id : String}
  {context : Option AuditContextData}
  {platform : Platform} {bcrypt : Bcrypt}

theorem CallRules.next (rules : CallRules J) {α β : Type} {p : Svc α} {f : α → Svc β}
    (h : J _ p.run) (rest : ∀ a, J _ (f a).run) : J _ (p >>= f).run := by
  rw [run_bind]
  refine rules.bind h fun answer => ?_
  cases answer with
  | ok a => exact rest a
  | error e => exact rules.sparing fun _ => trivial

theorem CallRules.map (rules : CallRules J) {α β : Type} {p : Svc α} (f : α → β)
    (h : J _ p.run) : J _ (f <$> p).run := by
  rw [map_eq_pure_bind]
  exact rules.next h fun a => rules.sparing (stays_pure (f a))

variable (rules : CallRules J)
  (category : ∀ id, J _ (CategoryService.findOne tenantId id).run)
  (product : ∀ id, J _ (ProductService.findOne tenantId id).run)

include rules category

theorem CategoryService.update_by (dto : UpdateCategoryDto) :
    J _ (CategoryService.update platform context tenantId id dto).run := by
  refine rules.next (category id) fun target => rules.sparing ?_
  refine Svc.Stays.next (fun _ => keeps_assertSlugUnique _ _ _) fun _ => ?_
  refine Svc.Stays.next (fun _ => keeps_chooseParent _ _ _ _) fun parent => ?_
  refine stays_translated _ ?_
  refine (stays_saving overlooks_spares fun _ _ _ _ => saveLoaded_spares).next fun saved => ?_
  refine (stays_record overlooks_spares _).next fun _ => ?_
  refine (stays_del overlooks_spares _).next fun _ => ?_
  exact (stays_invalidate overlooks_spares tenantId).next fun _ => stays_pure saved

theorem CategoryService.remove_by :
    J _ (CategoryService.remove context tenantId id).run := by
  refine rules.next (category id) fun target => rules.sparing ?_
  refine (stays_query _).next fun children => stays_ite (stays_throw _) ?_
  refine (stays_softRemoving overlooks_spares fun _ _ _ _ => softRemoveLoaded_spares).next
    fun _ => (stays_record overlooks_spares _).next fun _ => ?_
  exact (stays_del overlooks_spares _).next fun _ => stays_invalidate overlooks_spares tenantId

theorem ProductService.create_by (dto : CreateProductDto) :
    J _ (ProductService.create context tenantId dto).run := by
  refine rules.next (category dto.categoryId) fun _ => rules.sparing ?_
  have unique : Sparing (assertSkuUniqueness dto.skuPrefix tenantId) :=
    (stays_query _).next fun _ => stays_ite (stays_throw _) (stays_pure _)
  refine unique.next fun _ => stays_translated _ ?_
  refine (stays_statement overlooks_spares fun _ _ _ => insert_spares).next fun result => ?_
  refine (stays_record overlooks_spares _).next fun _ => ?_
  exact (stays_delByPattern overlooks_spares _).next fun _ => stays_pure result

include product

theorem ProductService.update_by (dto : UpdateProductDto) :
    J _ (ProductService.update context tenantId id dto).run := by
  refine rules.next (product id) fun product => ?_
  have saves : Sparing (translated skuTaken do
      let draft := patched dto product
      let saved ← saving (.product draft.entity) (saveLoaded draft)
      AuditService.record context (updateAudit product saved)
      CacheService.del (CacheKeys.product tenantId id)
      CacheService.delByPattern (CacheKeys.productsPattern tenantId)
      pure saved) := by
    refine stays_translated _ ?_
    refine (stays_saving overlooks_spares fun _ _ _ _ => saveLoaded_spares).next fun saved => ?_
    refine (stays_record overlooks_spares _).next fun _ => ?_
    refine (stays_del overlooks_spares _).next fun _ => ?_
    exact (stays_delByPattern overlooks_spares _).next fun _ => stays_pure saved
  have named : J _ (dto.categoryId.truthy.mapM (CategoryService.findOne tenantId)).run := by
    cases dto.categoryId.truthy with
    | none => exact rules.sparing (stays_pure none)
    | some categoryId => exact rules.map _ (category categoryId)
  dsimp only
  split
  · exact rules.sparing (stays_throw _)
  · exact rules.next named fun _ => rules.sparing saves

omit category in
theorem ProductService.remove_by : J _ (ProductService.remove context tenantId id).run := by
  refine rules.next (product id) fun product => rules.sparing ?_
  refine (stays_query _).next fun variants => stays_ite (stays_throw _) ?_
  refine (stays_softRemoving overlooks_spares fun _ _ _ _ => softRemoveLoaded_spares).next
    fun _ => (stays_record overlooks_spares _).next fun _ => ?_
  exact (stays_del overlooks_spares _).next fun _ => stays_delByPattern overlooks_spares _

theorem AuditedOp.program_by (op : AuditedOp)
    (invited : ∀ dto, J _ (TenantUserManagementService.inviteUser bcrypt context
      tenantId dto).run)
    (appointed : ∀ userId dto,
      J _ (TenantUserManagementService.updateUserRole context tenantId userId dto).run) :
    J _ (op.program platform bcrypt context tenantId).run := by
  have discarded {α : Type} {p : Svc α} (h : J _ p.run) : J _ (discard p : Svc Unit).run :=
    rules.map _ h
  have spared {α : Type} {p : Svc α} (h : Sparing p) : J _ (discard p : Svc Unit).run :=
    rules.sparing (stays_discard h)
  cases op with
  | createCategory dto => exact spared (CategoryService.create_sparing dto)
  | updateCategory id dto => exact discarded (CategoryService.update_by rules category dto)
  | removeCategory id => exact CategoryService.remove_by rules category
  | createProduct dto => exact discarded (ProductService.create_by rules category dto)
  | updateProduct id dto => exact discarded (ProductService.update_by rules category product dto)
  | removeProduct id => exact ProductService.remove_by rules product
  | createVariant productId dto => exact spared (VariantService.create_sparing productId dto)
  | updateVariant productId variantId dto =>
      exact spared (VariantService.update_sparing productId variantId dto)
  | removeVariant productId variantId =>
      exact rules.sparing (VariantService.remove_sparing productId variantId)
  | createWarehouse dto => exact spared (WarehouseService.create_sparing dto)
  | updateWarehouse id dto => exact spared (WarehouseService.update_sparing dto)
  | removeWarehouse id => exact rules.sparing WarehouseService.remove_sparing
  | createSupplier dto => exact spared (SupplierService.create_sparing dto)
  | updateSupplier id dto => exact spared (SupplierService.update_sparing dto)
  | removeSupplier id => exact rules.sparing SupplierService.remove_sparing
  | inviteUser dto => exact discarded (invited dto)
  | updateUserRole userId dto => exact discarded (appointed userId dto)
  | updateSettings dto => exact spared (TenantSettingService.updateSettings_sparing dto)

end Rules

end Tenantory
