import Tenantory.CategoryWrites
import Tenantory.VariantRuns

/-! The rows of the products and variants after the statements of their services. -/

namespace Tenantory

open Stored

/-- The world with other product rows. -/
def withProducts (w : World) (t : Table Product) : World :=
  { w with db := { w.db with products := t } }

/-- The world with other variant rows. -/
def withVariants (w : World) (t : Table ProductVariant) : World :=
  { w with db := { w.db with variants := t } }

namespace ProductEntity

/-- The listed variants that are no stored live variants: a save gives them the product. -/
def rebound (entity : ProductEntity) (db : Database) : List ProductVariant :=
  (entity.variants.getD []).filter fun v => (db.liveVariants entity.id).all (·.id != v.id)

/-- The stored live variants that are not listed: a save would take their product. -/
def detached (entity : ProductEntity) (db : Database) : List ProductVariant :=
  match entity.variants with
  | none => []
  | some listed => (db.liveVariants entity.id).filter fun v => listed.all (·.id != v.id)

/-- A variant row after the one-to-many step of a save. -/
def relinked (entity : ProductEntity) (db : Database) (now : Timestamp) (row : ProductVariant) :
    ProductVariant :=
  if (entity.rebound db).any (·.id == row.id) then
    { row with productId := entity.id, updatedAt := now }
  else row

end ProductEntity

namespace ProductService

variable {entity product : ProductEntity} {draft : Draft} {dto : CreateProductDto}
  {tenantId : String} {w w' : World}

/-- A row that `findOne` reads. -/
structure Readable (db : Database) (tenantId id : String) (row : Product) : Prop where
  named : UuidText.uuidIn id = some row.id
  owned : UuidText.uuidIn tenantId = some row.tenantId
  stored : row ∈ db.products
  tenant : db.liveTenant row.tenantId = true
  live : row.live = true

theorem readOne_ok {id : String} :
    readOne tenantId id w = .ok (some product) ↔
      ∃ row, Readable w.db tenantId id row ∧ product = ProductEntity.related w.db row := by
  unfold readOne
  constructor
  · intro h
    obtain ⟨i, hi, h⟩ := bind_eq_ok.mp h
    obtain ⟨tenant, ht, h⟩ := bind_eq_ok.mp h
    obtain ⟨row, found, rfl⟩ := Option.map_eq_some_iff.mp (Except.ok.inj h)
    have passes := Table.holds_of_find? found
    simp only [Bool.and_eq_true, beq_iff_eq] at passes
    obtain ⟨⟨⟨rfl, rfl⟩, live⟩, undeleted⟩ := passes
    exact ⟨row, ⟨uuidParam_eq_ok.mp hi, uuidParam_eq_ok.mp ht, Table.mem_of_find? found, live,
      undeleted⟩, rfl⟩
  · rintro ⟨row, readable, rfl⟩
    rw [uuidParam_eq_ok.mpr readable.named, uuidParam_eq_ok.mpr readable.owned]
    have found : w.db.products.find? (fun p => p.id == row.id && p.tenantId == row.tenantId &&
        w.db.liveTenant row.tenantId && p.live) = some row := by
      refine Table.find?_of_mem readable.stored (by simp [readable.tenant, readable.live]) ?_
      intro p _ passes
      simp only [Bool.and_eq_true, beq_iff_eq] at passes
      exact Entity.same_id _ _ passes.1.1.1.symm
    change Except.ok (Option.map _ _) = _
    rw [found]
    rfl

theorem saveVariants_ok {db : Database} (h : saveVariants entity db w = .ok w') :
    entity.detached db = [] ∧
      ∃ t : Table ProductVariant, t.rows = w.db.variants.rows.map (entity.relinked db w.clock) ∧
        w' = withVariants w t := by
  unfold saveVariants at h
  cases hv : entity.variants with
  | none =>
      rw [hv] at h
      cases h
      refine ⟨by simp [ProductEntity.detached, hv], w.db.variants, ?_, rfl⟩
      refine ((List.map_congr_left fun r _ => ?_).trans (List.map_id _)).symm
      simp [ProductEntity.relinked, ProductEntity.rebound, hv]
  | some listed =>
      rw [hv] at h
      dsimp only at h
      split at h
      · rename_i none_removed
        obtain ⟨t, rows, rfl⟩ := World.updates_ok (f := fun now (row : ProductVariant) =>
          { row with productId := entity.id, updatedAt := now }) (fun _ _ => rfl)
          (fun _ _ => rfl) h
        refine ⟨?_, t, ?_, rfl⟩
        · simpa [ProductEntity.detached, hv] using none_removed
        · rw [rows]
          refine List.map_congr_left fun r _ => ?_
          simp only [ProductEntity.relinked, ProductEntity.rebound, hv, Option.getD_some]
          rfl
      · cases h

/-- The row that a creation inserts. -/
def insertedRow (dto : CreateProductDto) (tenant category : Uuid) (isActive : Bool) (w : World) :
    Product where
  id := w.ids 0
  tenantId := tenant
  categoryId := category
  name := dto.name
  description := dto.description.toOption
  skuPrefix := dto.skuPrefix
  isActive := isActive
  createdAt := w.clock
  updatedAt := w.clock
  deletedAt := none

theorem insert_ok (h : insert tenantId dto w = .ok (product, w')) :
    ∃ tenant category isActive t, UuidText.uuidIn tenantId = some tenant ∧
      UuidText.uuidIn dto.categoryId = some category ∧
      (∀ p ∈ w.db.products, p.id ≠ w.ids 0) ∧
      product = { ProductEntity.plain (insertedRow dto tenant category isActive w) with
        category := some (some (.named dto.categoryId)) } ∧
      (t : Table Product).rows =
        w.db.products.rows ++ [insertedRow dto tenant category isActive w] ∧
      w' = { withProducts w t with ids := fun n => w.ids (n + 1) } := by
  unfold insert at h
  obtain ⟨tenant, ht, h⟩ := bind_eq_ok.mp h
  obtain ⟨category, hc, h⟩ := bind_eq_ok.mp h
  obtain ⟨isActive, -, h⟩ := bind_eq_ok.mp h
  obtain ⟨⟨row, w₁⟩, inserted, last⟩ := bind_eq_ok.mp h
  obtain ⟨rfl, -, free, t, rows, rfl⟩ := World.insert_ok inserted
  cases last
  refine ⟨tenant, category, isActive, t, uuidParam_eq_ok.mp ht, uuidParam_eq_ok.mp hc,
    fun p hp same => ?_, rfl, rows, rfl⟩
  have apart := free p hp
  rw [Entity.same_id _ p same.symm] at apart
  cases apart

/-- The value for the category column of a draft; `stored` is that of its row. -/
def foreignKey (draft : Draft) (stored : Except Err Uuid) : Except Err Uuid :=
  match draft.entity.category with
  | none => stored
  | some none => .error .notNullViolation
  | some (some category) => category.key

/-- The row that has the values of the draft. -/
def drafted (draft : Draft) (name : String) (isActive : Bool) (category : Uuid) : Product where
  id := draft.entity.id
  tenantId := draft.entity.tenantId
  categoryId := category
  name := name
  description := draft.entity.description
  skuPrefix := draft.entity.skuPrefix
  isActive := isActive
  createdAt := draft.entity.createdAt
  updatedAt := draft.entity.updatedAt
  deletedAt := draft.entity.deletedAt

theorem required_eq_ok {α : Type} {value : Option α} {a : α} :
    required value = .ok a ↔ value = some a := by
  cases value with
  | none => exact ⟨fun h => (nomatch h), fun h => (nomatch h)⟩
  | some b =>
      constructor
      · intro h
        cases h
        rfl
      · intro h
        cases h
        rfl

theorem columns_ok {stored : Except Err Uuid} {row : Product} :
    columns draft stored = .ok row ↔ ∃ name isActive category, draft.name = some name ∧
      draft.isActive = some isActive ∧ foreignKey draft stored = .ok category ∧
      row = drafted draft name isActive category := by
  have unfolded : columns draft stored = (do
      let name ← required draft.name
      let isActive ← required draft.isActive
      let category ← foreignKey draft stored
      pure (drafted draft name isActive category)) := by
    unfold columns foreignKey
    cases draft.entity.category with
    | none => rfl
    | some reference => cases reference <;> rfl
  rw [unfolded]
  constructor
  · intro h
    obtain ⟨name, hn, h⟩ := bind_eq_ok.mp h
    obtain ⟨isActive, ha, h⟩ := bind_eq_ok.mp h
    obtain ⟨category, hc, h⟩ := bind_eq_ok.mp h
    cases h
    exact ⟨name, isActive, category, required_eq_ok.mp hn, required_eq_ok.mp ha, hc, rfl⟩
  · rintro ⟨name, isActive, category, hn, ha, hc, rfl⟩
    rw [hn, ha, hc]
    rfl

/-- Only the stamp of an overwritten row is not the draft's. -/
theorem overwrite_ok {now : Timestamp} {stored row : Product}
    (h : overwrite draft now stored = .ok row) :
    ∃ written stamp, columns draft (.ok stored.categoryId) = .ok written ∧
      row = { written with updatedAt := stamp } := by
  unfold overwrite at h
  obtain ⟨written, hw, h⟩ := bind_eq_ok.mp h
  refine ⟨written, row.updatedAt, hw, ?_⟩
  split at h
  · rename_i same
    cases h
    rw [same]
  · split at h
    · cases h
      rfl
    · cases h
      rfl

theorem columns_id {stored : Except Err Uuid} {row : Product}
    (h : columns draft stored = .ok row) : row.id = draft.entity.id := by
  obtain ⟨name, isActive, given, -, -, -, rfl⟩ := columns_ok.mp h
  rfl

theorem overwrite_id {now : Timestamp} {stored row : Product}
    (h : overwrite draft now stored = .ok row) : row.id = draft.entity.id := by
  obtain ⟨written, stamp, columns, rfl⟩ := overwrite_ok h
  have same := columns_id columns
  exact same

/-- A saved product is a new row, or takes the place of the stored one. -/
theorem save_ok (h : save draft w = .ok (product, w')) :
    ∃ (row : Product) (t : Table Product) (v : Table ProductVariant),
      product = saved draft row ∧
      ((∀ p ∈ w.db.products, p.id ≠ draft.entity.id) ∧
          columns draft (.error .notNullViolation) = .ok row ∧
          t.rows = w.db.products.rows ++ [row] ∨
        ∃ stored ∈ w.db.products, stored.id = draft.entity.id ∧
          overwrite draft w.clock stored = .ok row ∧
          t.rows = w.db.products.rows.map fun p => if p.id = draft.entity.id then row else p) ∧
      draft.entity.detached w.db = [] ∧
      v.rows = w.db.variants.rows.map (draft.entity.relinked w.db w.clock) ∧
      w' = withVariants (withProducts w t) v := by
  rw [save_eq] at h
  cases hr : w.db.rowById Product draft.entity.id with
  | none =>
      rw [hr] at h
      obtain ⟨row, hc, h⟩ := bind_eq_ok.mp h
      obtain ⟨db, inserted, h⟩ := bind_eq_ok.mp h
      obtain ⟨w₁, second, last⟩ := bind_eq_ok.mp h
      obtain ⟨-, -, t, ht, rfl⟩ := Database.insertRow_ok inserted
      obtain ⟨kept, v, vrows, rfl⟩ := saveVariants_ok second
      cases last
      exact ⟨row, t, v, rfl, .inl ⟨Database.rowById_eq_none hr, hc,
        (Table.insert?_eq_some ht).1⟩,
        kept, vrows, rfl⟩
  | some stored =>
      rw [hr] at h
      obtain ⟨row, hc, h⟩ := bind_eq_ok.mp h
      obtain ⟨w₁, first, h⟩ := bind_eq_ok.mp h
      obtain ⟨w₂, second, last⟩ := bind_eq_ok.mp h
      obtain ⟨-, t, rows, rfl⟩ := World.update_ok first
      obtain ⟨kept, v, vrows, rfl⟩ := saveVariants_ok second
      cases last
      obtain ⟨mem, same⟩ := Database.rowById_eq_some hr
      refine ⟨row, t, v, rfl, .inr ⟨stored, mem, same, hc, ?_⟩, kept, vrows, rfl⟩
      rw [rows]
      refine List.map_congr_left fun p _ => ?_
      simp only [beq_iff_eq]
      rfl

theorem softRemoveLoaded_ok {loaded : Database}
    (h : softRemoveLoaded entity loaded w = .ok ((), w')) :
    ∃ (t : Table Product) (v : Table ProductVariant),
      (t.rows = w.db.products.rows.map fun row => if row.id = entity.id then
        { row with deletedAt := some w.clock, updatedAt := w.clock } else row) ∧
      entity.detached loaded = [] ∧
      v.rows = w.db.variants.rows.map (entity.relinked loaded w.clock) ∧
      w' = withProducts (withVariants w v) t := by
  unfold softRemoveLoaded at h
  obtain ⟨w₁, first, h⟩ := bind_eq_ok.mp h
  obtain ⟨w₂, second, last⟩ := bind_eq_ok.mp h
  obtain ⟨kept, v, vrows, rfl⟩ := saveVariants_ok first
  obtain ⟨-, t, rows, rfl⟩ := World.update_ok second
  cases last
  refine ⟨t, v, ?_, kept, vrows, rfl⟩
  rw [rows]
  refine List.map_congr_left fun p _ => ?_
  simp only [beq_iff_eq]
  rfl

theorem softRemove_ok (h : softRemove entity w = .ok ((), w')) :
    ∃ (t : Table Product) (v : Table ProductVariant),
      (t.rows = w.db.products.rows.map fun row => if row.id = entity.id then
        { row with deletedAt := some w.clock, updatedAt := w.clock } else row) ∧
      entity.detached w.db = [] ∧
      v.rows = w.db.variants.rows.map (entity.relinked w.db w.clock) ∧
      w' = withProducts (withVariants w v) t :=
  softRemoveLoaded_ok h

end ProductService

namespace VariantService

variable {draft : Draft} {entity saved : ProductVariant} {dto : CreateVariantDto}
  {tenantId productId variantId : String} {w w' : World}

theorem readProduct_ok {product : Product}
    (h : readProduct tenantId productId w = .ok (some product)) :
    UuidText.uuidIn tenantId = some product.tenantId ∧
      UuidText.uuidIn productId = some product.id ∧
      product ∈ w.db.products ∧ w.db.liveTenant product.tenantId = true := by
  obtain ⟨i, hi, h⟩ := bind_eq_ok.mp h
  obtain ⟨tenant, ht, h⟩ := bind_eq_ok.mp h
  have found := Except.ok.inj h
  have passes := Table.holds_of_find? found
  simp only [Bool.and_eq_true, beq_iff_eq] at passes
  obtain ⟨⟨⟨rfl, rfl⟩, live⟩, -⟩ := passes
  exact ⟨uuidParam_eq_ok.mp ht, uuidParam_eq_ok.mp hi, Table.mem_of_find? found, live⟩

theorem readOne_ok {variant : ProductVariant}
    (h : readOne tenantId productId variantId w = .ok (some variant)) :
    UuidText.uuidIn tenantId = some variant.tenantId ∧
      UuidText.uuidIn variantId = some variant.id ∧
      variant ∈ w.db.variants := by
  obtain ⟨i, hi, h⟩ := bind_eq_ok.mp h
  obtain ⟨tenant, ht, h⟩ := bind_eq_ok.mp h
  obtain ⟨product, -, h⟩ := bind_eq_ok.mp h
  have found := Except.ok.inj h
  have passes := Table.holds_of_find? found
  simp only [Bool.and_eq_true, beq_iff_eq] at passes
  obtain ⟨⟨⟨⟨⟨rfl, rfl⟩, -⟩, -⟩, -⟩, -⟩ := passes
  exact ⟨uuidParam_eq_ok.mp ht, uuidParam_eq_ok.mp hi, Table.mem_of_find? found⟩

/-- The row that a creation inserts. -/
def insertedRow (dto : CreateVariantDto) (tenant product : Uuid) (w : World) : ProductVariant where
  id := w.ids 0
  tenantId := tenant
  productId := product
  sku := dto.sku
  price := dto.price
  attributes := dto.attributes.toOption.getD .emptyObject
  createdAt := w.clock
  updatedAt := w.clock
  deletedAt := none

theorem insert_ok (h : insert tenantId productId dto w = .ok (saved, w')) :
    ∃ tenant product t, UuidText.uuidIn tenantId = some tenant ∧
      UuidText.uuidIn productId = some product ∧ (∀ v ∈ w.db.variants, v.id ≠ w.ids 0) ∧
      saved = insertedRow dto tenant product w ∧
      (t : Table ProductVariant).rows = w.db.variants.rows ++ [saved] ∧
      w' = { withVariants w t with ids := fun n => w.ids (n + 1) } := by
  unfold insert at h
  obtain ⟨tenant, ht, h⟩ := bind_eq_ok.mp h
  obtain ⟨product, hp, h⟩ := bind_eq_ok.mp h
  obtain ⟨rfl, -, free, t, rows, rfl⟩ := World.insert_ok h
  refine ⟨tenant, product, t, uuidParam_eq_ok.mp ht, uuidParam_eq_ok.mp hp, fun v hv same => ?_,
    rfl, rows, rfl⟩
  have apart := free v hv
  rw [Entity.same_id _ v same.symm] at apart
  cases apart

/-- The row that an update writes, but for its stamp. -/
def drafted (draft : Draft) (price : ℚ) (attributes : Json) (stored : ProductVariant) :
    ProductVariant :=
  { draft.entity with productId := stored.productId, price, attributes }

theorem overwrite_ok {now : Timestamp} {stored row : ProductVariant}
    (h : overwrite draft now stored = .ok row) :
    ∃ price attributes stamp, draft.price = some price ∧ draft.attributes = some attributes ∧
      row = { drafted draft price attributes stored with updatedAt := stamp } := by
  unfold overwrite at h
  obtain ⟨price, hp, h⟩ := bind_eq_ok.mp h
  obtain ⟨attributes, ha, h⟩ := bind_eq_ok.mp h
  refine ⟨price, attributes, row.updatedAt, ProductService.required_eq_ok.mp hp,
    ProductService.required_eq_ok.mp ha, ?_⟩
  unfold drafted
  dsimp only at h
  split at h
  · rename_i same
    cases h
    rw [← same]
  · split at h
    · cases h
      rfl
    · cases h
      rfl

theorem overwrite_id {now : Timestamp} {stored row : ProductVariant}
    (h : overwrite draft now stored = .ok row) : row.id = draft.entity.id := by
  obtain ⟨price, attributes, stamp, -, -, rfl⟩ := overwrite_ok h
  rfl

theorem save_ok (h : save draft w = .ok (saved, w')) :
    ∃ stored ∈ w.db.variants, stored.id = draft.entity.id ∧
      overwrite draft w.clock stored = .ok saved ∧
      ∃ t : Table ProductVariant, (t.rows = w.db.variants.rows.map fun v =>
          if v.id = draft.entity.id then saved else v) ∧ w' = withVariants w t := by
  rw [save_eq] at h
  cases hr : w.db.rowById ProductVariant draft.entity.id with
  | none =>
      rw [hr] at h
      cases h
  | some stored =>
      rw [hr] at h
      obtain ⟨row, hc, h⟩ := bind_eq_ok.mp h
      obtain ⟨w₁, first, last⟩ := bind_eq_ok.mp h
      obtain ⟨-, t, rows, rfl⟩ := World.update_ok first
      cases last
      obtain ⟨mem, same⟩ := Database.rowById_eq_some hr
      refine ⟨stored, mem, same, hc, t, ?_, rfl⟩
      rw [rows]
      refine List.map_congr_left fun v _ => ?_
      simp only [beq_iff_eq]
      rfl

theorem softRemove_ok (h : softRemove entity w = .ok ((), w')) :
    ∃ t : Table ProductVariant, (t.rows = w.db.variants.rows.map fun row =>
        if row.id = entity.id then
          { row with deletedAt := some w.clock, updatedAt := w.clock } else row) ∧
      w' = withVariants w t := by
  unfold softRemove at h
  obtain ⟨w₁, first, last⟩ := bind_eq_ok.mp h
  obtain ⟨-, t, rows, rfl⟩ := World.update_ok first
  cases last
  refine ⟨t, ?_, rfl⟩
  rw [rows]
  refine List.map_congr_left fun v _ => ?_
  simp only [beq_iff_eq]
  rfl

end VariantService
end Tenantory
