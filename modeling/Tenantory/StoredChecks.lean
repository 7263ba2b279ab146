import Tenantory.ProductWrites
import Tenantory.StatementGuards
import Tenantory.TenantService
import Tenantory.TenantUserManagementService

/-! The checks that the rows of the catalog pass: their values fit their columns, and
their foreign keys name stored rows. Every statement checks the rows that it writes, and
none takes an id away. -/

namespace Tenantory

open Stored

/-- What is stored under an id stays there. -/
structure IdsKept (db db' : Database) : Prop where
  tenants : ∀ i, hasTenant db i = true → hasTenant db' i = true
  categories : ∀ i, db.categories.rows.any (·.id == i) = true →
    db'.categories.rows.any (·.id == i) = true
  products : ∀ i, db.products.rows.any (·.id == i) = true →
    db'.products.rows.any (·.id == i) = true

/-- Every row of the catalog passes the checks on it. -/
structure Sound (db : Database) : Prop where
  categories : ∀ c ∈ db.categories, misfit c = none ∧ dangling db c = false
  products : ∀ p ∈ db.products, misfit p = none ∧ dangling db p = false
  variants : ∀ v ∈ db.variants, misfit v = none ∧ dangling db v = false

section Rows

variable {ρ : Type} {db db' : Database}

theorem IdsKept.refl (db : Database) : IdsKept db db :=
  ⟨fun _ h => h, fun _ h => h, fun _ h => h⟩

theorem IdsKept.trans {db₁ db₂ db₃ : Database} (h : IdsKept db₁ db₂)
    (h' : IdsKept db₂ db₃) :
    IdsKept db₁ db₃ :=
  ⟨fun i stored => h'.tenants i (h.tenants i stored),
    fun i stored => h'.categories i (h.categories i stored),
    fun i stored => h'.products i (h.products i stored)⟩

theorem IdsKept.category (kept : IdsKept db db') {c : Category} (h : dangling db c = false) :
    dangling db' c = false := by
  have both : hasTenant db c.tenantId = true ∧
      ∀ p, c.parentId = some p → db.categories.rows.any (·.id == p) = true := by
    refine ⟨by simpa using (Bool.or_eq_false_iff.mp h).1, fun p hp => ?_⟩
    have found := (Bool.or_eq_false_iff.mp h).2
    rw [hp] at found
    simpa using found
  refine Bool.or_eq_false_iff.mpr ⟨by simpa using kept.tenants _ both.1, ?_⟩
  cases hp : c.parentId with
  | none => rfl
  | some p => simpa using kept.categories p (both.2 p hp)

theorem IdsKept.variant (kept : IdsKept db db') {v : ProductVariant} (h : dangling db v = false) :
    dangling db' v = false := by
  obtain ⟨tenant, product⟩ := Bool.or_eq_false_iff.mp h
  refine Bool.or_eq_false_iff.mpr ⟨?_, ?_⟩
  · simpa using kept.tenants v.tenantId (by simpa using tenant)
  · have stored : db.products.rows.any (·.id == v.productId) = true := by simpa using product
    rw [kept.products _ stored]
    rfl

theorem IdsKept.product (kept : IdsKept db db') {p : Product} (h : dangling db p = false) :
    dangling db' p = false := by
  obtain ⟨tenant, category⟩ := Bool.or_eq_false_iff.mp h
  refine Bool.or_eq_false_iff.mpr ⟨?_, ?_⟩
  · simpa using kept.tenants p.tenantId (by simpa using tenant)
  · have stored : db.categories.rows.any (·.id == p.categoryId) = true := by simpa using category
    rw [kept.categories _ stored]
    rfl

/-- Rows that were there, and rows that were checked. -/
theorem Sound.of_rows (sound : Sound db) (kept : IdsKept db db')
    (categories : ∀ c ∈ db'.categories,
      c ∈ db.categories ∨ misfit c = none ∧ dangling db c = false)
    (products : ∀ p ∈ db'.products, p ∈ db.products ∨ misfit p = none ∧
      dangling db p = false)
    (variants : ∀ v ∈ db'.variants, v ∈ db.variants ∨ misfit v = none ∧
      dangling db v = false) :
    Sound db' where
  categories c hc := by
    obtain ⟨fits, keys⟩ := (categories c hc).elim (sound.categories c) id
    exact ⟨fits, kept.category keys⟩
  products p hp := by
    obtain ⟨fits, keys⟩ := (products p hp).elim (sound.products p) id
    exact ⟨fits, kept.product keys⟩
  variants v hv := by
    obtain ⟨fits, keys⟩ := (variants v hv).elim (sound.variants v) id
    exact ⟨fits, kept.variant keys⟩

/-- A table whose rows and ids the checks depend on. -/
class Checked (ρ : Type) extends LawfulTable ρ where
  kept : ∀ (db : Database) (t : Table ρ),
    (∀ r ∈ table db, ∃ s ∈ t, Entity.id s = Entity.id r) → IdsKept db (put t db)
  sound : ∀ (db : Database) (t : Table ρ), Sound db → IdsKept db (put t db) →
    (∀ r ∈ t, r ∈ table db ∨ misfit r = none ∧ dangling db r = false) → Sound (put t db)

theorem any_of_ids [Entity ρ] {t u : Table ρ}
    (h : ∀ r ∈ t, ∃ s ∈ u, Entity.id s = Entity.id r)
    {i : Uuid} (stored : t.rows.any (Entity.id · == i) = true) :
    u.rows.any (Entity.id · == i) = true := by
  obtain ⟨r, hr, same⟩ := List.any_eq_true.mp stored
  obtain ⟨s, hs, kept⟩ := h r hr
  exact List.any_eq_true.mpr ⟨s, hs, by rw [kept]; exact same⟩

instance : Checked Tenant where
  kept _ _ h := ⟨fun _ => any_of_ids h, fun _ stored => stored, fun _ stored => stored⟩
  sound _ _ sound kept _ := sound.of_rows kept (fun _ => .inl) (fun _ => .inl) fun _ => .inl

instance : Checked User where
  kept _ _ _ := ⟨fun _ stored => stored, fun _ stored => stored, fun _ stored => stored⟩
  sound _ _ sound kept _ := sound.of_rows kept (fun _ => .inl) (fun _ => .inl) fun _ => .inl

instance : Checked Category where
  kept _ _ h := ⟨fun _ stored => stored, fun _ => any_of_ids h, fun _ stored => stored⟩
  sound _ _ sound kept rows := sound.of_rows kept rows (fun _ => .inl) fun _ => .inl

instance : Checked Product where
  kept _ _ h := ⟨fun _ stored => stored, fun _ stored => stored, fun _ => any_of_ids h⟩
  sound _ _ sound kept rows := sound.of_rows kept (fun _ => .inl) rows fun _ => .inl

instance : Checked ProductVariant where
  kept _ _ _ := ⟨fun _ stored => stored, fun _ stored => stored, fun _ stored => stored⟩
  sound _ _ sound kept rows := sound.of_rows kept (fun _ => .inl) (fun _ => .inl) rows

end Rows

/-! ## Statements -/

/-- The checks hold, and what `db₀` has stored is stored. -/
def Tracks (db₀ db : Database) : Prop := Sound db ∧ IdsKept db₀ db

section Statements

variable {ρ : Type} [Checked ρ] {db₀ : Database} {w w' : World} {i : Uuid} {row : ρ}

theorem Tracks.put {t : Table ρ} (tracks : Tracks db₀ w.db)
    (ids : ∀ r ∈ table (ρ := ρ) w.db, ∃ s ∈ t, Entity.id s = Entity.id r)
    (rows : ∀ r ∈ t, r ∈ table (ρ := ρ) w.db ∨ misfit r = none ∧
      dangling w.db r = false) :
    Tracks db₀ (Stored.put t w.db) := by
  have kept := Checked.kept w.db t ids
  exact ⟨Checked.sound w.db t tracks.1 kept rows, tracks.2.trans kept⟩

theorem Tracks.insertRow {db : Database} (tracks : Tracks db₀ w.db)
    (h : w.db.insertRow row = .ok db) : Tracks db₀ db := by
  obtain ⟨fits, keys, t, ht, rfl⟩ := Database.insertRow_ok h
  have rows := (Table.insert?_eq_some ht).1
  refine tracks.put (fun r hr => ⟨r, ?_, rfl⟩) fun r hr => ?_
  · rw [← Table.mem_rows, rows]
    exact List.mem_append_left _ hr
  · rw [← Table.mem_rows, rows] at hr
    rcases List.mem_append.mp hr with old | added
    · exact .inl old
    · obtain rfl := List.mem_singleton.mp added
      exact .inr ⟨fits, keys⟩

theorem Tracks.insert {build : Uuid → Timestamp → ρ} (tracks : Tracks db₀ w.db)
    (h : w.insert build = .ok (row, w')) : Tracks db₀ w'.db := by
  obtain ⟨db, inserted, last⟩ := bind_eq_ok.mp h
  cases last
  exact tracks.insertRow inserted

theorem Tracks.update {f : ρ → ρ} (tracks : Tracks db₀ w.db)
    (ids : ∀ r, Entity.id (f r) = Entity.id r) (h : w.update i f = .ok w') :
    Tracks db₀ w'.db := by
  obtain ⟨db, updated, last⟩ := bind_eq_ok.mp h
  cases last
  rcases Database.updateRow_ok updated with ⟨-, rfl⟩ | ⟨row, t, found, fits, keys, ht, rfl⟩
  · exact tracks
  · have rows := Table.update?_eq_some ht
    have own : Entity.id row = i := by simpa using Table.holds_of_find? found
    refine tracks.put (fun r hr => ?_) fun r hr => ?_
    · refine ⟨if Entity.id r == i then f r else r, ?_, ?_⟩
      · rw [← Table.mem_rows, rows]
        exact List.mem_map_of_mem hr
      · split
        · exact ids r
        · rfl
    · rw [← Table.mem_rows, rows] at hr
      obtain ⟨s, hs, rfl⟩ := List.mem_map.mp hr
      split
      · rename_i same
        rw [Table.eq_of_id hs (Table.mem_of_find? found) ((beq_iff_eq.mp same).trans own.symm)]
        exact .inr ⟨fits, keys⟩
      · exact .inl hs

/-- UPDATEs by id, one for each member of a list. -/
theorem Tracks.updates {β : Type} {ident : β → Uuid} {f : Timestamp → ρ → ρ}
    (ids : ∀ now r, Entity.id (f now r) = Entity.id r) {l : List β} (tracks : Tracks db₀ w.db)
    (h : l.foldlM (fun w b => w.update (ident b) (f w.clock)) w = .ok w') :
    Tracks db₀ w'.db := by
  induction l generalizing w with
  | nil =>
      cases h
      exact tracks
  | cons b l ih =>
      rw [List.foldlM_cons] at h
      obtain ⟨w₁, first, rest⟩ := bind_eq_ok.mp h
      exact ih (tracks.update (ids w.clock) first) rest

end Statements

theorem column_same {α : Type} [DecidableEq α] (value row : α) :
    column value value row = row := by
  unfold column
  rw [if_pos rfl]

section Services

open Svc

variable {db₀ loaded : Database} {w w' : World} {context : Option AuditContextData}
  {tenantId id productId : String}

abbrev KeepsChecks (db₀ : Database) {α : Type} (p : Svc α) : Prop :=
  KeepsTables (fun _ _ => True) (Tracks db₀) p

/-! ## Categories -/

namespace CategoryService

variable {entity saved : CategoryEntity}

theorem insert_tracks {name slug : String} {parent : Option Category} (tracks : Tracks db₀ w.db)
    (h : insert tenantId name slug parent w = .ok (saved, w')) : Tracks db₀ w'.db := by
  obtain ⟨tenant, -, h⟩ := bind_eq_ok.mp h
  obtain ⟨⟨row, w₁⟩, inserted, last⟩ := bind_eq_ok.mp h
  cases last
  exact tracks.insert inserted

theorem saveChildren_tracks (tracks : Tracks db₀ w.db)
    (h : saveChildren entity loaded w = .ok w') : Tracks db₀ w'.db := by
  unfold saveChildren at h
  split at h
  · cases h
    exact tracks
  · obtain ⟨w₁, bound, removed⟩ := bind_eq_ok.mp h
    refine Tracks.updates (f := fun now (row : Category) =>
      { row with parentId := none, updatedAt := now }) (fun _ _ => rfl) ?_ removed
    exact Tracks.updates (f := fun now (row : Category) =>
      { row with parentId := some entity.id, updatedAt := now }) (fun _ _ => rfl) tracks bound

theorem save_tracks (tracks : Tracks db₀ w.db)
    (h : saveLoaded entity loaded w = .ok (saved, w')) : Tracks db₀ w'.db := by
  unfold saveLoaded at h
  split at h
  · cases h
  · rename_i stored _
    obtain ⟨w₁, updated, h⟩ := bind_eq_ok.mp h
    obtain ⟨w₂, children, last⟩ := bind_eq_ok.mp h
    cases last
    refine saveChildren_tracks (tracks.update (fun r => ?_) updated) children
    change column (overwrite entity w.clock stored).id stored.id r.id = r.id
    rw [overwrite_id, column_same]

theorem softRemove_tracks (tracks : Tracks db₀ w.db)
    (h : softRemoveLoaded entity loaded w = .ok ((), w')) : Tracks db₀ w'.db := by
  obtain ⟨w₁, children, h⟩ := bind_eq_ok.mp h
  obtain ⟨w₂, updated, last⟩ := bind_eq_ok.mp h
  cases last
  exact (saveChildren_tracks tracks children).update (f := fun row : Category =>
    { row with deletedAt := some w₁.clock, updatedAt := w₁.clock }) (fun _ => rfl) updated

theorem create_tracks (platform : Platform) (dto : CreateCategoryDto) :
    KeepsChecks db₀ (create platform context tenantId dto) := by
  refine keeps_bind (keeps_assertSlugUnique _ _ _) fun _ => keeps_bind ?_ fun parent =>
    keeps_translated _ (keeps_bind ?_ fun category => ?_)
  · cases dto.parentId.truthy with
    | none => exact keeps_pure _
    | some parentId => exact keeps_map _ (keeps_assertParentExists _ _)
  · exact keeps_statement fun w category w' tracks _ h => insert_tracks tracks h
  · exact keeps_bind (keeps_record _ _) fun _ =>
      keeps_bind (keeps_invalidate keeps_delByPattern tenantId) fun _ => keeps_pure _

theorem update_tracks (platform : Platform) (dto : UpdateCategoryDto) :
    KeepsChecks db₀ (update platform context tenantId id dto) := by
  refine keeps_bind (keeps_findOne keeps_set _ _) fun target =>
    keeps_bind (keeps_assertSlugUnique _ _ _) fun _ => keeps_bind (keeps_chooseParent _ _ _ _)
      fun parent => keeps_translated _ (keeps_bind ?_ fun saved => ?_)
  · exact keeps_saving fun loaded w saved w' tracks _ h => save_tracks tracks h
  · exact keeps_bind (keeps_record _ _) fun _ => keeps_bind (keeps_del _) fun _ =>
      keeps_bind (keeps_invalidate keeps_delByPattern tenantId) fun _ => keeps_pure _

theorem remove_tracks : KeepsChecks db₀ (remove context tenantId id) := by
  refine keeps_bind (keeps_findOne keeps_set _ _) fun target => keeps_bind (keeps_query _)
    fun count => keeps_ite (keeps_throw _) (keeps_bind ?_ fun _ => ?_)
  · exact keeps_softRemoving fun loaded w _ w' tracks _ h => softRemove_tracks tracks h
  · exact keeps_bind (keeps_record _ _) fun _ => keeps_bind (keeps_del _) fun _ =>
      keeps_invalidate keeps_delByPattern tenantId

theorem findTree_tracks (platform : Platform) : KeepsChecks db₀ (findTree platform tenantId) := by
  refine keeps_bind (keeps_get _ _) fun cached => ?_
  cases cached with
  | some cached => exact keeps_pure _
  | none =>
      exact keeps_bind (keeps_listing _) fun _ => keeps_ite (keeps_throw _)
        (keeps_bind (keeps_set _ _) fun _ => keeps_pure _)

theorem findAll_tracks (platform : Platform) (query : CategoryQueryDto) :
    KeepsChecks db₀ (findAll platform tenantId query) := by
  refine keeps_bind (keeps_get _ _) fun cached => ?_
  cases cached with
  | some cached => exact keeps_pure _
  | none =>
      exact keeps_bind (keeps_listing _) fun _ => keeps_bind (keeps_set _ _) fun _ => keeps_pure _

end CategoryService

/-! ## Products -/

namespace ProductService

variable {entity saved : ProductEntity} {draft : Draft}

theorem insert_tracks {dto : CreateProductDto} (tracks : Tracks db₀ w.db)
    (h : insert tenantId dto w = .ok (saved, w')) : Tracks db₀ w'.db := by
  obtain ⟨tenant, -, h⟩ := bind_eq_ok.mp h
  obtain ⟨category, -, h⟩ := bind_eq_ok.mp h
  obtain ⟨isActive, -, h⟩ := bind_eq_ok.mp h
  obtain ⟨⟨row, w₁⟩, inserted, last⟩ := bind_eq_ok.mp h
  cases last
  exact tracks.insert inserted

theorem saveVariants_tracks (tracks : Tracks db₀ w.db)
    (h : saveVariants entity loaded w = .ok w') : Tracks db₀ w'.db := by
  unfold saveVariants at h
  split at h
  · cases h
    exact tracks
  · dsimp only at h
    split at h
    · exact Tracks.updates (f := fun now (row : ProductVariant) =>
        { row with productId := entity.id, updatedAt := now }) (fun _ _ => rfl) tracks h
    · cases h

theorem save_tracks (tracks : Tracks db₀ w.db)
    (h : saveLoaded draft loaded w = .ok (saved, w')) : Tracks db₀ w'.db := by
  unfold saveLoaded at h
  split at h
  · obtain ⟨row, -, h⟩ := bind_eq_ok.mp h
    obtain ⟨db, inserted, h⟩ := bind_eq_ok.mp h
    obtain ⟨w₂, variants, last⟩ := bind_eq_ok.mp h
    cases last
    exact saveVariants_tracks (w := { w with db }) (tracks.insertRow inserted) variants
  · rename_i stored found
    obtain ⟨row, written, h⟩ := bind_eq_ok.mp h
    obtain ⟨w₁, updated, h⟩ := bind_eq_ok.mp h
    obtain ⟨w₂, variants, last⟩ := bind_eq_ok.mp h
    cases last
    refine saveVariants_tracks (tracks.update (fun r => ?_) updated) variants
    change column row.id stored.id r.id = r.id
    have same : row.id = stored.id :=
      (overwrite_id written).trans (Database.rowById_eq_some found).2.symm
    rw [same, column_same]

theorem softRemove_tracks (tracks : Tracks db₀ w.db)
    (h : softRemoveLoaded entity loaded w = .ok ((), w')) : Tracks db₀ w'.db := by
  obtain ⟨w₁, variants, h⟩ := bind_eq_ok.mp h
  obtain ⟨w₂, updated, last⟩ := bind_eq_ok.mp h
  cases last
  exact (saveVariants_tracks tracks variants).update (f := fun row : Product =>
    { row with deletedAt := some w₁.clock, updatedAt := w₁.clock }) (fun _ => rfl) updated

theorem create_tracks (dto : CreateProductDto) :
    KeepsChecks db₀ (create context tenantId dto) := by
  refine keeps_bind (CategoryService.keeps_findOne keeps_set _ _) fun _ => keeps_bind (keeps_bind
    (keeps_query _) fun taken => keeps_ite (keeps_throw _) (keeps_pure _)) fun _ =>
      keeps_translated _ (keeps_bind ?_ fun result => ?_)
  · exact keeps_statement fun w product w' tracks _ h => insert_tracks tracks h
  · exact keeps_bind (keeps_record _ _) fun _ => keeps_bind (keeps_delByPattern _) fun _ =>
      keeps_pure _

theorem update_tracks (dto : UpdateProductDto) :
    KeepsChecks db₀ (update context tenantId id dto) := by
  refine keeps_bind (keeps_findOne keeps_set _ _) fun product => keeps_ite (keeps_throw _)
    (keeps_bind (keeps_named keeps_set tenantId dto) fun _ =>
      keeps_translated _ (keeps_bind ?_ fun saved => ?_))
  · exact keeps_saving fun loaded w saved w' tracks _ h => save_tracks tracks h
  · exact keeps_bind (keeps_record _ _) fun _ => keeps_bind (keeps_del _) fun _ =>
      keeps_bind (keeps_delByPattern _) fun _ => keeps_pure _

theorem remove_tracks : KeepsChecks db₀ (remove context tenantId id) := by
  refine keeps_bind (keeps_findOne keeps_set _ _) fun product => keeps_bind (keeps_query _)
    fun count => keeps_ite (keeps_throw _) (keeps_bind ?_ fun _ => ?_)
  · exact keeps_softRemoving fun loaded w _ w' tracks _ h => softRemove_tracks tracks h
  · exact keeps_bind (keeps_record _ _) fun _ => keeps_bind (keeps_del _) fun _ =>
      keeps_delByPattern _

theorem findAll_tracks (platform : Platform) (query : ProductQueryDto) :
    KeepsChecks db₀ (findAll platform tenantId query) := by
  refine keeps_bind (keeps_get _ _) fun cached => ?_
  cases cached with
  | some cached => exact keeps_pure _
  | none =>
      exact keeps_bind (keeps_listing _) fun _ => keeps_bind (keeps_set _ _) fun _ => keeps_pure _

end ProductService

/-! ## Variants -/

namespace VariantService

variable {saved : ProductVariant} {draft : Draft}

theorem insert_tracks {dto : CreateVariantDto} (tracks : Tracks db₀ w.db)
    (h : insert tenantId productId dto w = .ok (saved, w')) : Tracks db₀ w'.db := by
  obtain ⟨tenant, -, h⟩ := bind_eq_ok.mp h
  obtain ⟨product, -, h⟩ := bind_eq_ok.mp h
  exact tracks.insert h

theorem save_tracks (tracks : Tracks db₀ w.db)
    (h : saveLoaded draft loaded w = .ok (saved, w')) : Tracks db₀ w'.db := by
  unfold saveLoaded at h
  split at h
  · cases h
  · rename_i stored found
    obtain ⟨row, written, h⟩ := bind_eq_ok.mp h
    obtain ⟨w₁, updated, last⟩ := bind_eq_ok.mp h
    cases last
    refine tracks.update (fun r => ?_) updated
    change column saved.id stored.id r.id = r.id
    have same : saved.id = stored.id :=
      (overwrite_id written).trans (Database.rowById_eq_some found).2.symm
    rw [same, column_same]

theorem softRemove_tracks {entity : ProductVariant} (tracks : Tracks db₀ w.db)
    (h : softRemove entity w = .ok ((), w')) : Tracks db₀ w'.db := by
  obtain ⟨w₁, updated, last⟩ := bind_eq_ok.mp h
  cases last
  exact tracks.update (f := fun row : ProductVariant =>
    { row with deletedAt := some w.clock, updatedAt := w.clock }) (fun _ => rfl) updated

theorem create_tracks (dto : CreateVariantDto) :
    KeepsChecks db₀ (create context tenantId productId dto) := by
  refine keeps_bind (keeps_findProduct _ _) fun _ => ?_
  refine keeps_bind (keeps_assertSkuUniqueness _ _ _) fun _ =>
    keeps_translated _ (keeps_bind ?_ fun saved => ?_)
  · exact keeps_statement fun w saved w' tracks _ h => insert_tracks tracks h
  · exact keeps_bind (keeps_record _ _) fun _ => keeps_pure _

theorem update_tracks (variantId : String) (dto : UpdateVariantDto) :
    KeepsChecks db₀ (update context tenantId productId variantId dto) := by
  refine keeps_bind (keeps_findOne _ _ _) fun variant => ?_
  have saves : KeepsChecks db₀ (translated skuTaken do
      let draft := patched dto variant
      let saved ← saving (.variant draft.entity) (saveLoaded draft)
      AuditService.record context (updateAudit variant saved)
      pure saved) := by
    refine keeps_translated _ (keeps_bind ?_ fun saved => ?_)
    · exact keeps_saving fun loaded w saved w' tracks _ h => save_tracks tracks h
    · exact keeps_bind (keeps_record _ _) fun _ => keeps_pure _
  dsimp only
  cases dto.sku.truthy with
  | none => exact saves
  | some sku =>
      exact keeps_ite (keeps_bind (keeps_assertSkuUniqueness _ _ _) fun _ => saves) saves

theorem remove_tracks (variantId : String) :
    KeepsChecks db₀ (remove context tenantId productId variantId) := by
  refine keeps_bind (keeps_findOne _ _ _) fun variant => keeps_bind ?_ fun _ => ?_
  · exact keeps_softRemoving fun loaded w _ w' tracks _ h => softRemove_tracks tracks h
  · exact keeps_record _ _

end VariantService

/-! ## Tenants -/

namespace TenantService

variable {saved : Tenant} {draft : Draft}

theorem columns_id {row : Tenant} (h : columns draft = .ok row) : row.id = draft.entity.id := by
  obtain ⟨domainName, -, h⟩ := bind_eq_ok.mp h
  obtain ⟨businessName, -, h⟩ := bind_eq_ok.mp h
  obtain ⟨status, -, last⟩ := bind_eq_ok.mp h
  cases last
  rfl

theorem overwrite_id {now : Timestamp} {stored row : Tenant}
    (h : overwrite draft now stored = .ok row) : row.id = draft.entity.id := by
  obtain ⟨written, columns, h⟩ := bind_eq_ok.mp h
  have same := columns_id columns
  split at h
  · rename_i unchanged
    cases h
    rw [← unchanged]
    exact same
  · split at h
    · cases h
      exact same
    · cases h
      exact same

theorem save_tracks (tracks : Tracks db₀ w.db)
    (h : saveLoaded draft loaded w = .ok (saved, w')) : Tracks db₀ w'.db := by
  unfold saveLoaded at h
  split at h
  · obtain ⟨row, -, h⟩ := bind_eq_ok.mp h
    obtain ⟨db, inserted, last⟩ := bind_eq_ok.mp h
    cases last
    exact tracks.insertRow inserted
  · rename_i stored found
    obtain ⟨row, written, h⟩ := bind_eq_ok.mp h
    obtain ⟨w₁, updated, last⟩ := bind_eq_ok.mp h
    cases last
    refine tracks.update (fun r => ?_) updated
    change column saved.id stored.id r.id = r.id
    have same : saved.id = stored.id :=
      (overwrite_id written).trans (Database.rowById_eq_some found).2.symm
    rw [same, column_same]

theorem softRemove_tracks {entity : Tenant} (tracks : Tracks db₀ w.db)
    (h : softRemove entity w = .ok ((), w')) : Tracks db₀ w'.db := by
  obtain ⟨w₁, updated, last⟩ := bind_eq_ok.mp h
  cases last
  exact tracks.update (f := fun row : Tenant =>
    { row with deletedAt := some w.clock, updatedAt := w.clock }) (fun _ => rfl) updated

theorem create_tracks (dto : CreateTenantDto) : KeepsChecks db₀ (create dto) :=
  keeps_translated _ (keeps_statement fun _ _ _ tracks _ h => tracks.insert h)

theorem update_tracks (dto : UpdateTenantDto) : KeepsChecks db₀ (update id dto) :=
  keeps_bind (keeps_findOne _) fun _ => keeps_translated _
    (keeps_saving fun _ _ _ _ tracks _ h => save_tracks tracks h)

theorem remove_tracks : KeepsChecks db₀ (remove id) :=
  keeps_bind (keeps_findOne _) fun _ =>
    keeps_softRemoving fun _ _ _ _ tracks _ h => softRemove_tracks tracks h

end TenantService

/-! ## Users -/

namespace TenantUserManagementService

variable {saved : User}

theorem insert_tracks {user : NewUser} (tracks : Tracks db₀ w.db)
    (h : insert user w = .ok (saved, w')) : Tracks db₀ w'.db := by
  obtain ⟨tenant, -, h⟩ := bind_eq_ok.mp h
  exact tracks.insert h

theorem overwrite_id (entity : User) (now : Timestamp) (row : User) (same : row.id = entity.id) :
    (overwrite entity now row).id = entity.id := by
  unfold overwrite
  split
  · exact same
  · split <;> rfl

theorem save_tracks {entity : User} (tracks : Tracks db₀ w.db)
    (h : saveLoaded entity loaded w = .ok (saved, w')) : Tracks db₀ w'.db := by
  unfold saveLoaded at h
  split at h
  · obtain ⟨db, inserted, last⟩ := bind_eq_ok.mp h
    cases last
    exact tracks.insertRow inserted
  · rename_i stored found
    obtain ⟨w₁, updated, last⟩ := bind_eq_ok.mp h
    cases last
    refine tracks.update (fun r => ?_) updated
    have same := (Database.rowById_eq_some found).2
    change column (overwrite entity w.clock stored).id stored.id r.id = r.id
    rw [overwrite_id entity w.clock stored same, ← same]
    exact column_same _ _

theorem inviteUser_tracks (bcrypt : Bcrypt) (dto : InviteUserDto) :
    KeepsChecks db₀ (inviteUser bcrypt context tenantId dto) := by
  refine keeps_bind (keeps_query _) fun existing => keeps_ite (keeps_throw _) (keeps_ite
    (keeps_throw _) (keeps_tryCatch (keeps_bind ?_ fun saved => ?_) fun e => ?_))
  · exact keeps_statement fun w saved w' tracks _ h => insert_tracks tracks h
  · exact keeps_bind (keeps_record _ _) fun _ => keeps_pure _
  · exact keeps_ite (keeps_throw _) (keeps_throw _)

theorem updateUserRole_tracks (userId : String) (dto : UpdateUserRoleDto) :
    KeepsChecks db₀ (updateUserRole context tenantId userId dto) := by
  refine keeps_bind (keeps_query _) fun found => ?_
  cases found with
  | none => exact keeps_throw _
  | some user =>
      refine keeps_ite (keeps_throw _) (keeps_tryCatch (keeps_bind ?_ fun saved => ?_) fun e => ?_)
      · exact keeps_saving fun loaded w saved w' tracks _ h => save_tracks tracks h
      · exact keeps_bind (keeps_record _ _) fun _ => keeps_bind (keeps_del _) fun _ => keeps_pure _
      · exact keeps_throw _

end TenantUserManagementService

end Services

end Tenantory
