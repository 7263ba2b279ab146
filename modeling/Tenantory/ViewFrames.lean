import Tenantory.CatalogCache
import Tenantory.OwnRow

/-! What a read of one category or product depends on: its row, the rows that it embeds,
and the rows that point to it. A change of another row does not show. -/

namespace Tenantory

namespace CategoryService

variable {tenantId id : String} {w : World} {row : Category} {t : Table Category} {x : Uuid}

/-- The categories but one. -/
def Elsewhere (x : Uuid) (t u : Table Category) : Prop := t.only (·.id != x) = u.only (·.id != x)

theorem Elsewhere.find? (same : Elsewhere x t w.db.categories) {p : Category → Bool}
    (away : ∀ c, p c = true → c.id ≠ x) : t.find? p = w.db.categories.find? p := by
  have out : ∀ u : Table Category, (u.only (·.id != x)).find? p = u.find? p := fun u =>
    Table.find?_only (fun c _ passes => by simpa using away c passes) fun _ _ _ => rfl
  rw [← out t, ← out w.db.categories, same]

theorem Elsewhere.select (same : Elsewhere x t w.db.categories) {p : Category → Bool}
    (away : ∀ c ∈ t, p c = true → c.id ≠ x)
    (away' : ∀ c ∈ w.db.categories, p c = true → c.id ≠ x) :
    t.select p = w.db.categories.select p := by
  have out : ∀ u : Table Category, (∀ c ∈ u, p c = true → c.id ≠ x) →
      (u.only (·.id != x)).select p = u.select p := fun u h =>
    Table.select_only (fun c hc passes => by simpa using h c hc passes) fun _ _ _ => rfl
  rw [← out t away, ← out w.db.categories away', same]

/-- A category, its parent and its children read alike when another row changes. -/
theorem related_kept (same : Elsewhere x t w.db.categories) (up : row.parentId ≠ some x)
    (down : ∀ c ∈ t, c.id = x → c.live = true → c.parentId ≠ some row.id)
    (down' : ∀ c ∈ w.db.categories, c.id = x → c.live = true → c.parentId ≠ some row.id) :
    CategoryEntity.related (withCategories w t).db row = CategoryEntity.related w.db row := by
  have parent : row.parentId.bind (withCategories w t).db.liveCategory? =
      row.parentId.bind w.db.liveCategory? := by
    cases hp : row.parentId with
    | none => rfl
    | some p =>
        refine same.find? fun c passes => ?_
        rw [Bool.and_eq_true, beq_iff_eq] at passes
        rintro rfl
        rw [hp, ← passes.1] at up
        exact up rfl
  have children : (withCategories w t).db.liveChildren row.id = w.db.liveChildren row.id := by
    refine same.select (fun c hc passes => ?_) fun c hc passes => ?_
    · rw [Bool.and_eq_true, beq_iff_eq] at passes
      exact fun own => down c hc own passes.2 passes.1
    · rw [Bool.and_eq_true, beq_iff_eq] at passes
      exact fun own => down' c hc own passes.2 passes.1
  unfold CategoryEntity.related
  rw [parent, children]

theorem mem_elsewhere (same : Elsewhere x t w.db.categories) (apart : row.id ≠ x) :
    row ∈ t ↔ row ∈ w.db.categories := by
  have out : ∀ u : Table Category, row ∈ u.only (·.id != x) ↔ row ∈ u := fun u => by
    simp [apart]
  rw [← out t, same, out]

theorem readOne_kept (same : Elsewhere x t w.db.categories)
    (readable : Readable w.db tenantId id row) (apart : row.id ≠ x) (up : row.parentId ≠ some x)
    (down : ∀ c ∈ t, c.id = x → c.live = true → c.parentId ≠ some row.id)
    (down' : ∀ c ∈ w.db.categories, c.id = x → c.live = true → c.parentId ≠ some row.id) :
    readOne tenantId id (withCategories w t) = readOne tenantId id w := by
  have before := readOne_ok.mpr ⟨row, readable, rfl⟩
  have after : readOne tenantId id (withCategories w t) = .ok (some (CategoryEntity.related
      (withCategories w t).db row)) := by
    refine readOne_ok.mpr ⟨row, ?_, rfl⟩
    exact ⟨readable.named, readable.owned, (mem_elsewhere same apart).mpr readable.stored,
      readable.tenant, readable.live⟩
  rw [after, before, related_kept same up down down']

end CategoryService

namespace ProductService

variable {tenantId id : String} {w : World} {row : Product} {x : Uuid}

/-- A product does not show the change of a category that it is not in. -/
theorem readOne_category {t : Table Category}
    (same : CategoryService.Elsewhere x t w.db.categories)
    (readable : Readable w.db tenantId id row) (apart : row.categoryId ≠ x) :
    readOne tenantId id (CategoryService.withCategories w t) = readOne tenantId id w := by
  have before := readOne_ok.mpr ⟨row, readable, rfl⟩
  have after : readOne tenantId id (CategoryService.withCategories w t) =
    .ok (some (ProductEntity.related
      (CategoryService.withCategories w t).db row)) :=
    readOne_ok.mpr ⟨row, ⟨readable.named, readable.owned, readable.stored, readable.tenant,
      readable.live⟩, rfl⟩
  have category : (CategoryService.withCategories w t).db.liveCategory? row.categoryId =
      w.db.liveCategory? row.categoryId := by
    refine same.find? fun c passes => ?_
    rw [Bool.and_eq_true, beq_iff_eq] at passes
    rintro rfl
    exact apart passes.1.symm
  rw [after, before]
  unfold ProductEntity.related
  rw [category]
  rfl

/-- A product does not show the change of another product. -/
theorem readOne_product {t : Table Product}
    (same : t.only (·.id != x) = w.db.products.only (·.id != x))
    (readable : Readable w.db tenantId id row) (apart : row.id ≠ x) :
    readOne tenantId id (withProducts w t) = readOne tenantId id w := by
  have before := readOne_ok.mpr ⟨row, readable, rfl⟩
  have mem : row ∈ t := by
    have out : ∀ u : Table Product, row ∈ u.only (·.id != x) ↔ row ∈ u := fun u => by
      simp [apart]
    rw [← out t, same, out]
    exact readable.stored
  have after : readOne tenantId id (withProducts w t) = .ok (some (ProductEntity.related
      (withProducts w t).db row)) :=
    readOne_ok.mpr ⟨row, ⟨readable.named, readable.owned, mem, readable.tenant,
      readable.live⟩, rfl⟩
  rw [after, before]
  rfl

/-- A product does not show the change of a variant of another product. -/
theorem readOne_variant {v : Table ProductVariant}
    (same : v.only (·.productId != x) = w.db.variants.only (·.productId != x))
    (readable : Readable w.db tenantId id row) (apart : row.id ≠ x) :
    readOne tenantId id (withVariants w v) = readOne tenantId id w := by
  have before := readOne_ok.mpr ⟨row, readable, rfl⟩
  have after : readOne tenantId id (withVariants w v) = .ok (some (ProductEntity.related
      (withVariants w v).db row)) :=
    readOne_ok.mpr ⟨row, ⟨readable.named, readable.owned, readable.stored, readable.tenant,
      readable.live⟩, rfl⟩
  have out : ∀ u : Table ProductVariant, (u.only (·.productId != x)).select
      (fun v => v.productId == row.id && v.live) =
        u.select fun v => v.productId == row.id && v.live := fun u =>
    Table.select_only (fun v _ passes => by
      rw [Bool.and_eq_true, beq_iff_eq] at passes
      simpa [passes.1] using apart) fun _ _ _ => rfl
  have variants : (withVariants w v).db.liveVariants row.id = w.db.liveVariants row.id := by
    unfold Database.liveVariants
    rw [← out w.db.variants, ← same]
    exact (out v).symm
  rw [after, before]
  unfold ProductEntity.related
  rw [variants]
  rfl

end ProductService
end Tenantory
