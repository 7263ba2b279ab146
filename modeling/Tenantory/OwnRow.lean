import Tenantory.CacheKeyText
import Tenantory.CatalogCache
import Tenantory.CategoryTree

/-! What an update touches. It saves the copy that the lookup answers with, and with it
the list of children or variants in that copy. When the list is the stored one, only
the row of the update changes, and an update with valid values succeeds. -/

namespace Tenantory

open Stored UuidText

namespace Database

/-- The database without the row of one category. -/
def withoutCategory (id : Uuid) (db : Database) : Database :=
  { db with categories := db.categories.only (·.id != id) }

/-- The database without the row of one product. -/
def withoutProduct (id : Uuid) (db : Database) : Database :=
  { db with products := db.products.only (·.id != id) }

end Database

/-- A cached category or product is under a key made of its id. -/
def Cached.Named (key : String) (value : Cached) : Prop :=
  (∀ entity, value = .category entity → ∃ tenantId id tenant,
    key = CacheKeys.category tenantId id ∧ uuidIn tenantId = some tenant ∧
      uuidIn id = some entity.id) ∧
  ∀ entity, value = .product entity → ∃ tenantId id tenant,
    key = CacheKeys.product tenantId id ∧ uuidIn tenantId = some tenant ∧
      uuidIn id = some entity.id

/-! ## Categories -/

namespace CategoryService

variable {platform : Platform} {context : Option AuditContextData} {tenantId id : String}
  {w w' : World} {entity saved target : CategoryEntity}

theorem fresh_named {ties : Uuid → ℕ} (h : (oneView tenantId id).fresh ties w = .ok target) :
    Cached.Named (CacheKeys.category tenantId id) (.category target) := by
  obtain ⟨row, readable, rfl⟩ := readOne_ok.mp (orMissing_eq_ok.mp h)
  refine ⟨fun _ same => ?_, fun _ same => (nomatch same)⟩
  cases same
  exact ⟨tenantId, id, row.tenantId, rfl, readable.owned, readable.named⟩

/-- The copy that `findOne` answers with has the id that it was asked for. -/
theorem Finds.named (finds : Finds tenantId id w target w') (named : w.CachedAll Cached.Named) :
    uuidIn id = some target.id := by
  rcases finds.source with hit | read
  · obtain ⟨value, found, wrapped⟩ := Option.bind_eq_some_iff.mp hit
    have same : value = .category target := by
      cases value <;> cases wrapped
      rfl
    obtain ⟨text, i, tenant, key, ht, hi⟩ := (named.of_cached found).1 target same
    obtain ⟨rfl, rfl⟩ := CacheKeys.category_texts ht hi key.symm
    exact hi
  · obtain ⟨row, readable, rfl⟩ := readOne_ok.mp (orMissing_eq_ok.mp read)
    exact readable.named

theorem finds_of_readable {row : Category} (readable : Readable w.db tenantId id row) :
    ∃ target w₁, Finds tenantId id w target w₁ := by
  cases hit : (oneView tenantId id).hit w with
  | some target => exact ⟨target, w, .hit hit⟩
  | none =>
      have read := readOne_ok.mpr ⟨row, readable, rfl⟩
      exact ⟨_, _, .miss hit (orMissing_eq_ok.mpr read)⟩

/-- The entity lists the stored live children and no other stored category. -/
structure ListsChildren (entity : CategoryEntity) (db : Database) : Prop where
  complete : entity.detached db = []
  stored : ∀ c ∈ entity.rebound db, ∀ r ∈ db.categories, r.id ≠ c.id

theorem relinked_of_lists {db : Database} (lists : ListsChildren entity db) {row : Category}
    (now : Timestamp) (mem : ∃ r ∈ db.categories, r.id = row.id) :
    entity.relinked db now row = row := by
  obtain ⟨r, hr, same⟩ := mem
  unfold CategoryEntity.relinked
  rw [lists.complete]
  have none_bound : (entity.rebound db).any (·.id == row.id) = false := by
    refine List.any_eq_false.mpr fun c hc hid => ?_
    exact lists.stored c hc r hr (same.trans (beq_iff_eq.mp hid).symm)
  simp [none_bound]

/-- A save with the stored list of children overwrites one row. -/
theorem save_own (h : save entity w = .ok (saved, w')) (lists : ListsChildren entity w.db) :
    ∃ t : Table Category, t.rows = w.db.categories.rows.map (overwritten entity w.clock) ∧
      w' = withCategories w t := by
  obtain ⟨-, -, -, -, t₁, t, rows₁, rows, rfl⟩ := save_ok h
  refine ⟨t, ?_, rfl⟩
  rw [rows, rows₁]
  refine (List.map_congr_left fun r hr => ?_).trans (List.map_id _)
  obtain ⟨s, hs, rfl⟩ := List.mem_map.mp hr
  exact relinked_of_lists lists _ ⟨s, hs, (overwritten_id entity w.clock s).symm⟩

theorem only_of_overwritten {t : Table Category}
    (rows : t.rows = w.db.categories.rows.map (overwritten entity w.clock)) :
    t.only (·.id != entity.id) = w.db.categories.only (·.id != entity.id) :=
  Table.only_of_map rows (fun r _ => by simp) fun r _ other => by
    have apart : r.id ≠ entity.id := by simpa using other
    rw [overwritten, if_neg apart]

/-- A save with the stored list of children changes one row. -/
theorem save_alone (h : save entity w = .ok (saved, w')) (lists : ListsChildren entity w.db) :
    w'.db.withoutCategory entity.id = w.db.withoutCategory entity.id := by
  obtain ⟨t, rows, rfl⟩ := save_own h lists
  exact congrArg (fun t => { w.db with categories := t }) (only_of_overwritten rows)

/-! ## Valid updates -/

/-- The stored row with the values that an update gives it. -/
def renamed (platform : Platform) (dto : UpdateCategoryDto) (row : Category) : Category :=
  { row with
    name := dto.name.truthy.getD row.name
    slug := newSlug platform dto (CategoryEntity.plain row) }

/-- An update that is valid for the current database: the category is there, its new name
and slug fit and are free, a new parent is a live category, and the audit has a tenant. -/
structure Valid (platform : Platform) (context : Option AuditContextData) (tenantId id : String)
    (dto : UpdateCategoryDto) (w : World) (row : Category) : Prop where
  readable : Readable w.db tenantId id row
  keys : dangling w.db row = false
  fits : misfit (renamed platform dto row) = none
  free : ∀ c ∈ w.db.categories, c.id ≠ row.id →
    conflict (renamed platform dto row) c = false
  parent : ∀ text, dto.parentId = .value text → text = "" ∨
    text ≠ id ∧ ∃ p, readParent tenantId text w = .ok (some p)
  audited : AuditService.Audited context

theorem Valid.of_db {dto : UpdateCategoryDto} {row : Category}
    (valid : Valid platform context tenantId id dto w row) (same : w'.db = w.db) :
    Valid platform context tenantId id dto w' row where
  readable := by rw [same]; exact valid.readable
  keys := by rw [same]; exact valid.keys
  fits := valid.fits
  free := by rw [same]; exact valid.free
  parent := by
    unfold readParent
    rw [same]
    exact valid.parent
  audited := valid.audited

/-- What the DTO leaves to the copy is as it is stored; the copy may lack a parent. -/
structure Current (dto : UpdateCategoryDto) (target : CategoryEntity) (row : Category) : Prop where
  name : dto.name.truthy = none → target.name = row.name
  slug : dto.slug.truthy = none → dto.name.truthy = none → target.slug = row.slug
  parent : dto.parentId = .undefined → ∀ p, target.parentId = some p → row.parentId = some p

theorem newSlug_current (platform : Platform) {dto : UpdateCategoryDto} {row : Category}
    (current : Current dto target row) :
    newSlug platform dto target = newSlug platform dto (CategoryEntity.plain row) := by
  unfold newSlug
  cases hs : dto.slug.truthy with
  | some slug => rfl
  | none =>
      cases hn : dto.name.truthy with
      | some name => rfl
      | none => exact current.slug hs hn

theorem readParent_ok {text : String} {p : Category}
    (h : readParent tenantId text w = .ok (some p)) :
    p ∈ w.db.categories ∧ uuidIn text = some p.id := by
  unfold readParent at h
  obtain ⟨i, hi, h⟩ := bind_eq_ok.mp h
  obtain ⟨tenant, ht, h⟩ := bind_eq_ok.mp h
  have found := Except.ok.inj h
  have passes := Table.holds_of_find? found
  simp only [Bool.and_eq_true, beq_iff_eq] at passes
  obtain ⟨⟨⟨rfl, -⟩, -⟩, -⟩ := passes
  exact ⟨Table.mem_of_find? found, uuidParam_eq_ok.mp hi⟩

theorem saveChildren_of_lists {db : Database} (lists : ListsChildren entity db)
    (ids : ∀ r ∈ w.db.categories, ∃ s ∈ db.categories, s.id = r.id) :
    saveChildren entity db w = .ok w := by
  unfold saveChildren
  cases hc : entity.children with
  | none => rfl
  | some listed =>
      have none_removed : (db.liveChildren entity.id).filter
          (fun c => listed.all (·.id != c.id)) = [] := by
        have complete := lists.complete
        unfold CategoryEntity.detached at complete
        rwa [hc] at complete
      have absent :
        ∀ c ∈ listed.filter (fun c => (db.liveChildren entity.id).all (·.id != c.id)),
          ∀ r ∈ w.db.categories, r.id ≠ c.id := by
        intro c hmem r hr same
        obtain ⟨s, hs, old⟩ := ids r hr
        refine lists.stored c ?_ s hs (old.trans same)
        unfold CategoryEntity.rebound
        rw [hc]
        exact hmem
      have skipped := World.updates_absent
        (f := fun now (row : Category) =>
          { row with parentId := some entity.id, updatedAt := now }) absent
      dsimp only
      rw [none_removed, skipped]
      rfl

/-- The save of an entity whose row passes every check. -/
theorem save_of (entity : CategoryEntity) {row : Category} (mem : row ∈ w.db.categories)
    (same : row.id = entity.id)
    (lists : ListsChildren entity w.db) (fits : misfit (written entity row) = none)
    (keys : dangling w.db (written entity row) = false)
    (free : ∀ c ∈ w.db.categories, c.id ≠ row.id →
      conflict (written entity row) c = false) :
    ∃ saved w', save entity w = .ok (saved, w') := by
  obtain ⟨stamp, stamped⟩ := overwrite_eq entity w.clock row
  obtain ⟨w₁, updated⟩ := World.update_of (f := overwrite entity w.clock) mem same
    (by rw [stamped]; exact fits) (by rw [stamped]; exact keys)
    fun c hc other => by
      rw [stamped]
      exact free c hc fun h => other (h.trans same)
  have found : w.db.rowById Category entity.id = some row :=
    Table.find?_of_mem mem (beq_iff_eq.mpr same) fun c _ hc =>
      Entity.same_id _ _ (same.trans (beq_iff_eq.mp hc).symm)
  have unchanged : saveChildren entity w.db w₁ = .ok w₁ := by
    obtain ⟨-, t, rows, rfl⟩ := World.update_ok updated
    refine saveChildren_of_lists lists fun r hr => ?_
    have mem : r ∈ t.rows := hr
    rw [rows] at mem
    obtain ⟨s, hs, rfl⟩ := List.mem_map.mp mem
    refine ⟨s, hs, ?_⟩
    split
    · exact (overwrite_id entity _ s).symm
    · rfl
  refine ⟨{ entity with updatedAt := (overwrite entity w.clock row).updatedAt }, w₁, ?_⟩
  rw [save_eq, found]
  exact bind_eq_ok.mpr ⟨w₁, updated, bind_eq_ok.mpr ⟨w₁, unchanged, rfl⟩⟩

/-- The parent of a valid update is there, and what it gives the row is a stored one. -/
theorem chooses_of {dto : UpdateCategoryDto} {row : Category}
    (valid : Valid platform context tenantId id dto w row) (current : Current dto target row) :
    ∃ parent, (chooseParent tenantId id dto.parentId target.parent).runs w = (.ok parent, w) ∧
      ∀ p, (written (edited platform dto target parent) row).parentId = some p →
        ∃ d ∈ w.db.categories, d.id = p := by
  cases hp : dto.parentId with
  | undefined =>
      refine ⟨target.parent, rfl, fun p up => ?_⟩
      refine stored_of_not_dangling valid.keys ?_
      cases ht : target.parent with
      | none => simpa [written, edited, ht] using up
      | some parent =>
          refine current.parent hp p ?_
          simpa [written, edited, ht, CategoryEntity.parentId] using up
  | null => exact ⟨some none, rfl, fun p up => (nomatch up)⟩
  | value text =>
      rcases valid.parent text hp with rfl | ⟨other, parent, found⟩
      · by_cases same : "" = id
        · have named := valid.readable.named
          rw [← same] at named
          cases named
        · exact ⟨some none, by simp [chooseParent, same], fun p up => (nomatch up)⟩
      · have some_text : text ≠ "" := by
          rintro rfl
          have named := (readParent_ok found).2
          cases named
        refine ⟨some (some parent.columns), ?_, fun p up => ?_⟩
        · simp only [chooseParent, if_neg other, if_neg some_text, assertParentExists,
            Svc.runs_bind,
            Svc.runs_query, found]
          rfl
        · exact ⟨parent, (readParent_ok found).1, Option.some.inj up⟩

/-- A valid update of a copy that is current makes all its statements. -/
theorem updates_of {dto : UpdateCategoryDto} {row : Category} {w₁ : World}
    (finds : Finds tenantId id w target w₁) (named : target.id = row.id)
    (valid : Valid platform context tenantId id dto w₁ row)
    (current : Current dto target row) (lists : ListsChildren target w₁.db) :
    ∃ parent saved w₂, Updates platform tenantId id dto w target w₁ parent saved w₂ := by
  have mem := valid.readable.stored
  have some_text : id ≠ "" := by
    rintro rfl
    have none_named := valid.readable.named
    cases none_named
  have slug := newSlug_current platform current
  have hasTenant : hasTenant w₁.db row.tenantId = true := by
    have keys := valid.keys
    simp only [dangling, Bool.or_eq_false_iff, Bool.not_eq_false'] at keys
    exact keys.1
  have free : slugExists tenantId (newSlug platform dto target) (excluded id) w₁ = .ok false := by
    unfold slugExists excluded
    rw [uuidParam_eq_ok.mpr valid.readable.owned, if_neg some_text]
    change (uuidParam id >>= fun i => pure _ : Except Err (Option Uuid)) >>= _ = _
    rw [uuidParam_eq_ok.mpr valid.readable.named]
    refine congrArg Except.ok (List.any_eq_false.mpr fun c hc taken => ?_)
    simp only [Bool.and_eq_true, beq_iff_eq, Option.all_some, bne_iff_ne, ne_eq] at taken
    obtain ⟨⟨⟨owned, same⟩, -⟩, other⟩ := taken
    have apart := valid.free c hc fun h => other h.symm
    simp only [conflict, renamed, Bool.or_eq_false_iff, Bool.and_eq_false_iff, beq_eq_false_iff_ne]
      at apart
    rw [← slug, same] at apart
    simp [owned] at apart
  obtain ⟨parent, chooses, stored⟩ := chooses_of valid current
  -- what is written has the checked values
  have name : dto.name.truthy.getD target.name = dto.name.truthy.getD row.name := by
    cases hn : dto.name.truthy with
    | none => exact current.name hn
    | some name => rfl
  have values : { written (edited platform dto target parent) row with
      parentId := row.parentId, createdAt := row.createdAt, updatedAt := row.updatedAt,
      deletedAt := row.deletedAt } = renamed platform dto row := by
    simp only [written, edited, renamed, slug, name]
  have fits : misfit (written (edited platform dto target parent) row) =
      misfit (renamed platform dto row) := by
    rw [← values]
    rfl
  have conflicts : ∀ c, conflict (written (edited platform dto target parent) row) c =
      conflict (renamed platform dto row) c := by
    intro c
    rw [← values]
    rfl
  have keys : dangling w₁.db (written (edited platform dto target parent) row) = false := by
    have under : ((written (edited platform dto target parent) row).parentId.any fun p =>
        !w₁.db.categories.rows.any (·.id == p)) = false := by
      cases up : (written (edited platform dto target parent) row).parentId with
      | none => rfl
      | some p =>
          obtain ⟨d, hd, same⟩ := stored p up
          simpa using ⟨d, hd, same⟩
    exact Bool.or_eq_false_iff.mpr ⟨by simpa [written] using hasTenant, under⟩
  obtain ⟨saved, w₂, saves⟩ := save_of (edited platform dto target parent) mem named.symm
    ⟨lists.complete, lists.stored⟩ (fits.trans valid.fits) keys
    fun c hc other => (conflicts c).trans (valid.free c hc other)
  exact ⟨parent, saved, w₂, finds, free, chooses, saves⟩

end CategoryService
/-! ## Products -/

namespace ProductService

variable {context : Option AuditContextData} {tenantId id : String}
  {w w' : World} {product saved : ProductEntity} {draft : Draft}

theorem fresh_named {ties : Uuid → ℕ} (h : (oneView tenantId id).fresh ties w = .ok product) :
    Cached.Named (CacheKeys.product tenantId id) (.product product) := by
  obtain ⟨row, readable, rfl⟩ := readOne_ok.mp (orMissing_eq_ok.mp h)
  refine ⟨fun _ same => (nomatch same), fun _ same => ?_⟩
  cases same
  exact ⟨tenantId, id, row.tenantId, rfl, readable.owned, readable.named⟩

/-- The copy that `findOne` answers with has the id that it was asked for. -/
theorem Finds.named (finds : Finds tenantId id w product w') (named : w.CachedAll Cached.Named) :
    uuidIn id = some product.id := by
  rcases finds.source with hit | read
  · obtain ⟨value, found, wrapped⟩ := Option.bind_eq_some_iff.mp hit
    have same : value = .product product := by
      cases value <;> cases wrapped
      rfl
    obtain ⟨text, i, tenant, key, ht, hi⟩ := (named.of_cached found).2 product same
    obtain ⟨rfl, rfl⟩ := CacheKeys.product_texts ht hi key.symm
    exact hi
  · obtain ⟨row, readable, rfl⟩ := readOne_ok.mp (orMissing_eq_ok.mp read)
    exact readable.named

theorem finds_of_readable {row : Product} (readable : Readable w.db tenantId id row) :
    ∃ product w₁, Finds tenantId id w product w₁ := by
  cases hit : (oneView tenantId id).hit w with
  | some product => exact ⟨product, w, .hit hit⟩
  | none =>
      have read := readOne_ok.mpr ⟨row, readable, rfl⟩
      exact ⟨_, _, .miss hit (orMissing_eq_ok.mpr read)⟩

/-- The entity lists the stored live variants and no other stored variant. -/
structure ListsVariants (entity : ProductEntity) (db : Database) : Prop where
  complete : entity.detached db = []
  stored : ∀ v ∈ entity.rebound db, ∀ r ∈ db.variants, r.id ≠ v.id

theorem relinked_of_lists {db : Database} (lists : ListsVariants product db) {row : ProductVariant}
    (now : Timestamp) (mem : row ∈ db.variants) : product.relinked db now row = row := by
  unfold ProductEntity.relinked
  have none_bound : (product.rebound db).any (·.id == row.id) = false := by
    refine List.any_eq_false.mpr fun v hv hid => ?_
    exact lists.stored v hv row mem (beq_iff_eq.mp hid).symm
  simp [none_bound]

/-- With the stored list of variants no variant is relinked. -/
theorem variants_of_lists {now : Timestamp} {v : Table ProductVariant}
    (lists : ListsVariants product w.db)
    (rows : v.rows = w.db.variants.rows.map (product.relinked w.db now)) :
    v = w.db.variants := by
  refine Table.rows_inj ?_
  rw [rows]
  refine (List.map_congr_left fun r hr => ?_).trans (List.map_id _)
  exact relinked_of_lists lists _ hr

/-- A save with the stored list of variants writes one row. -/
theorem save_own (h : save draft w = .ok (saved, w')) (lists : ListsVariants draft.entity w.db) :
    ∃ t : Table Product, t.only (·.id != draft.entity.id) =
        w.db.products.only (·.id != draft.entity.id) ∧ w' = withProducts w t := by
  obtain ⟨row, t, v, -, wrote, -, vrows, rfl⟩ := save_ok h
  obtain rfl := variants_of_lists lists vrows
  refine ⟨t, ?_, rfl⟩
  rcases wrote with ⟨-, hc, rows⟩ | ⟨stored, -, -, hc, rows⟩
  · refine Table.rows_inj ?_
    rw [Table.rows_only, Table.rows_only, rows, List.filter_append]
    simp [columns_id hc]
  · refine Table.only_of_map rows (fun r _ => ?_) fun r _ other => ?_
    · split
      · rename_i same
        rw [overwrite_id hc, same]
      · rfl
    · rw [if_neg (by simpa using other)]

/-- A save with the stored list of variants changes one row. -/
theorem save_alone (h : save draft w = .ok (saved, w')) (lists : ListsVariants draft.entity w.db) :
    w'.db.withoutProduct draft.entity.id = w.db.withoutProduct draft.entity.id := by
  obtain ⟨t, same, rfl⟩ := save_own h lists
  exact congrArg (fun t => { w.db with products := t }) same

/-! ## Valid updates -/

/-- An update that is valid for the current database: the product is there, the values
for its columns are no nulls and fit, its sku prefix stays, a new category is a live one
of the tenant, and the audit has a tenant. -/
structure Valid (context : Option AuditContextData) (tenantId id : String)
    (dto : UpdateProductDto) (w : World) (row : Product) : Prop where
  readable : Readable w.db tenantId id row
  keys : dangling w.db row = false
  name : dto.name ≠ .null
  isActive : dto.isActive ≠ .null
  fits : misfit { row with name := dto.name.toOption.getD row.name } = none
  sameSku : dto.skuPrefix.truthy.any (· != row.skuPrefix) = false
  category : ∀ text, dto.categoryId.truthy = some text →
    ∃ category, CategoryService.readOne tenantId text w = .ok (some category)
  audited : AuditService.Audited context

theorem Valid.of_db {dto : UpdateProductDto} {row : Product}
    (valid : Valid context tenantId id dto w row) (same : w'.db = w.db) :
    Valid context tenantId id dto w' row where
  readable := by rw [same]; exact valid.readable
  keys := by rw [same]; exact valid.keys
  name := valid.name
  isActive := valid.isActive
  fits := valid.fits
  sameSku := valid.sameSku
  category := by
    unfold CategoryService.readOne
    rw [same]
    exact valid.category
  audited := valid.audited

/-- What the DTO leaves to the copy is as it is stored. -/
structure Current (dto : UpdateProductDto) (product : ProductEntity) (row : Product) : Prop where
  tenant : product.tenantId = row.tenantId
  sku : product.skuPrefix = row.skuPrefix
  name : dto.name = .undefined → product.name = row.name
  category : dto.categoryId.truthy = none → product.category = none ∨
    ∃ reference, product.category = some (some reference) ∧ reference.key = .ok row.categoryId

theorem saveVariants_of_lists {db : Database} (lists : ListsVariants product db)
    (same : w.db.variants = db.variants) : saveVariants product db w = .ok w := by
  unfold saveVariants
  cases hv : product.variants with
  | none => rfl
  | some listed =>
      have none_removed : (db.liveVariants product.id).filter
          (fun v => listed.all (·.id != v.id)) = [] := by
        have complete := lists.complete
        unfold ProductEntity.detached at complete
        rwa [hv] at complete
      have absent :
        ∀ v ∈ listed.filter (fun v => (db.liveVariants product.id).all (·.id != v.id)),
          ∀ r ∈ w.db.variants, r.id ≠ v.id := by
        intro v hmem r hr
        rw [same] at hr
        refine lists.stored v ?_ r hr
        unfold ProductEntity.rebound
        rw [hv]
        exact hmem
      have skipped := World.updates_absent
        (f := fun now (row : ProductVariant) =>
          { row with productId := product.id, updatedAt := now }) absent
      dsimp only
      rw [none_removed]
      exact skipped

/-- The save of a draft whose row passes every check. -/
theorem save_of (draft : Draft) {row written : Product} (mem : row ∈ w.db.products)
    (same : row.id = draft.entity.id)
    (lists : ListsVariants draft.entity w.db)
    (values : columns draft (.ok row.categoryId) = .ok written) (fits : misfit written = none)
    (keys : dangling w.db written = false) : ∃ saved w', save draft w = .ok (saved, w') := by
  have stamped : ∃ row' stamp, overwrite draft w.clock row = .ok row' ∧
      row' = { written with updatedAt := stamp } := by
    unfold overwrite
    rw [values]
    change ∃ row' stamp, (if written = row then .ok row
      else if draft.entity.updatedAt = row.updatedAt then .ok { written with updatedAt := w.clock }
      else .ok written : Except Err Product) = .ok row' ∧ _
    split
    · rename_i unchanged
      exact ⟨row, row.updatedAt, rfl, by rw [unchanged]⟩
    · split
      · exact ⟨_, w.clock, rfl, rfl⟩
      · exact ⟨written, written.updatedAt, rfl, rfl⟩
  obtain ⟨row', stamp, overwritten, rfl⟩ := stamped
  have id_written : written.id = row.id := (columns_id values).trans same.symm
  have fits : misfit { written with updatedAt := stamp } = none := by
    simpa only [misfit] using fits
  have keys : dangling w.db { written with updatedAt := stamp } = false := by
    simpa only [dangling] using keys
  have updated : ∃ w₁, w.update draft.entity.id
      (fun _ : Product => { written with updatedAt := stamp }) = .ok w₁ := by
    refine World.update_of (ρ := Product) mem same fits keys fun p hp other => ?_
    have apart : written.id ≠ p.id := fun h => other (h.symm.trans (id_written.trans same))
    simpa [conflict] using apart
  obtain ⟨w₁, updated⟩ := updated
  have found : w.db.rowById Product draft.entity.id = some row :=
    Table.find?_of_mem mem (beq_iff_eq.mpr same) fun p _ hp =>
      Entity.same_id _ _ (same.trans (beq_iff_eq.mp hp).symm)
  have unchanged : saveVariants draft.entity w.db w₁ = .ok w₁ := by
    obtain ⟨-, t, rows, rfl⟩ := World.update_ok updated
    exact saveVariants_of_lists lists rfl
  refine ⟨saved draft { written with updatedAt := stamp }, w₁, ?_⟩
  rw [save_eq, found]
  exact bind_eq_ok.mpr ⟨_, overwritten, bind_eq_ok.mpr ⟨w₁, updated,
    bind_eq_ok.mpr ⟨w₁, unchanged, rfl⟩⟩⟩

/-- The values of a valid update; its category is a stored one. -/
theorem values_of {dto : UpdateProductDto} {row : Product}
    (valid : Valid context tenantId id dto w row) (current : Current dto product row) :
    ∃ name isActive given, (patched dto product).name = some name ∧
      (patched dto product).isActive = some isActive ∧
      foreignKey (patched dto product) (.ok row.categoryId) = .ok given ∧
      name = dto.name.toOption.getD row.name ∧
      w.db.categories.rows.any (·.id == given) = true := by
  have name : ∃ name, (patched dto product).name = some name ∧
      name = dto.name.toOption.getD row.name := by
    cases hn : dto.name with
    | undefined => exact ⟨product.name, by simp [patched, hn, Property.assign], current.name hn⟩
    | null => exact absurd hn valid.name
    | value name => exact ⟨name, by simp [patched, hn, Property.assign], rfl⟩
  have isActive : ∃ isActive, (patched dto product).isActive = some isActive := by
    cases ha : dto.isActive with
    | undefined => exact ⟨product.isActive, by simp [patched, ha, Property.assign]⟩
    | null => exact absurd ha valid.isActive
    | value isActive => exact ⟨isActive, by simp [patched, ha, Property.assign]⟩
  have given : ∃ given, foreignKey (patched dto product) (.ok row.categoryId) = .ok given ∧
      w.db.categories.rows.any (·.id == given) = true := by
    cases ht : dto.categoryId.truthy with
    | some text =>
        obtain ⟨category, read⟩ := valid.category text ht
        obtain ⟨c, readable, -⟩ := CategoryService.readOne_ok.mp read
        refine ⟨c.id, ?_, ?_⟩
        · simp only [foreignKey, patched, ht]
          exact uuidParam_eq_ok.mpr readable.named
        · exact List.any_eq_true.mpr ⟨c, readable.stored, beq_self_eq_true _⟩
    | none =>
        refine ⟨row.categoryId, ?_, ?_⟩
        · rcases current.category ht with absent | ⟨reference, there, key⟩
          · simp [foreignKey, patched, ht, absent]
          · simp [foreignKey, patched, ht, there, key]
        · have keys := valid.keys
          simp only [dangling, Bool.or_eq_false_iff, Bool.not_eq_false'] at keys
          exact keys.2
  obtain ⟨name, hn, same⟩ := name
  obtain ⟨isActive, ha⟩ := isActive
  obtain ⟨given, hg, known⟩ := given
  exact ⟨name, isActive, given, hn, ha, hg, same, known⟩

/-- A valid update of a copy that is current makes all its statements. -/
theorem updates_of {dto : UpdateProductDto} {row : Product} {w₁ : World}
    (finds : Finds tenantId id w product w₁) (named : product.id = row.id)
    (valid : Valid context tenantId id dto w₁ row) (current : Current dto product row)
    (lists : ListsVariants product w₁.db) :
    ∃ w₂ saved w₃, Updates tenantId id dto w product w₁ w₂ saved w₃ := by
  have names : ∃ w₂, Names tenantId dto w₁ w₂ := by
    cases ht : dto.categoryId.truthy with
    | none => exact ⟨w₁, .nothing ht⟩
    | some text =>
        obtain ⟨category, read⟩ := valid.category text ht
        cases hit : (CategoryService.oneView tenantId text).hit w₁ with
        | none => exact ⟨_, .category ht (.miss hit (orMissing_eq_ok.mpr read))⟩
        | some copy => exact ⟨_, .category ht (.hit hit)⟩
  obtain ⟨w₂, names⟩ := names
  have db₂ : w₂.db = w₁.db := by
    cases names with
    | nothing _ => rfl
    | category _ category => exact category.db
  have values : ∃ name isActive given, (patched dto product).name = some name ∧
      (patched dto product).isActive = some isActive ∧
      foreignKey (patched dto product) (.ok row.categoryId) = .ok given ∧
      name = dto.name.toOption.getD row.name ∧
      w₁.db.categories.rows.any (·.id == given) = true := values_of valid current
  obtain ⟨name, isActive, given, hn, ha, hg, rfl, known⟩ := values
  have columns_eq := columns_ok.mpr ⟨_, _, _, hn, ha, hg, rfl⟩
  have fits : misfit (drafted (patched dto product) (dto.name.toOption.getD row.name) isActive
      given) = none := by
    have same : (drafted (patched dto product) (dto.name.toOption.getD row.name) isActive
        given).skuPrefix = row.skuPrefix := current.sku
    rw [← valid.fits]
    simp only [misfit, same]
    rfl
  have keys : dangling w₂.db (drafted (patched dto product) (dto.name.toOption.getD row.name)
      isActive given) = false := by
    have owner : hasTenant w₂.db product.tenantId = true := by
      rw [db₂, current.tenant]
      have keys := valid.keys
      simp only [dangling, Bool.or_eq_false_iff, Bool.not_eq_false'] at keys
      exact keys.1
    refine Bool.or_eq_false_iff.mpr ⟨?_, ?_⟩
    · rw [Bool.not_eq_false']
      exact owner
    · rw [Bool.not_eq_false', db₂]
      exact known
  obtain ⟨saved, w₃, saves⟩ := save_of (w := w₂) (patched dto product)
    (by rw [db₂]; exact valid.readable.stored) named.symm
    (by rw [db₂]; exact ⟨lists.complete, lists.stored⟩) columns_eq fits keys
  exact ⟨w₂, saved, w₃, finds, by rw [current.sku]; exact valid.sameSku, names, saves⟩

end ProductService
/-! ## Runs -/

theorem named_fresh (platform : Platform) (db : Database) :
    FreshAll platform db Cached.Named where
  category _ _ _ _ _ _ h := CategoryService.fresh_named h
  categories _ _ _ _ _ _ _ _ := ⟨fun _ same => (nomatch same), fun _ same => (nomatch same)⟩
  tree _ _ _ _ _ _ := ⟨fun _ same => (nomatch same), fun _ same => (nomatch same)⟩
  product _ _ _ _ _ _ h := ProductService.fresh_named h
  products _ _ _ _ _ _ _ _ := ⟨fun _ same => (nomatch same), fun _ same => (nomatch same)⟩

/-- A successful update changes its own row only, and a valid update succeeds. -/
def CatalogOp.UpdatesAlone (platform : Platform) (request : Request CatalogOp) (w : World) :
    Prop :=
  match request.op with
  | .category (.update id dto) =>
      let out := (CategoryService.update platform request.context request.tenantId id dto).runs w
      (∀ saved, out.1 = .ok saved → ∃ x, uuidIn id = some x ∧
        out.2.db.withoutCategory x = w.db.withoutCategory x) ∧
      ∀ row, CategoryService.Valid platform request.context request.tenantId id dto w row →
        ∃ saved, out.1 = .ok saved
  | .product (.update id dto) =>
      let out := (ProductService.update request.context request.tenantId id dto).runs w
      (∀ saved, out.1 = .ok saved → ∃ x, uuidIn id = some x ∧
        out.2.db.withoutProduct x = w.db.withoutProduct x) ∧
      ∀ row, ProductService.Valid request.context request.tenantId id dto w row →
        ∃ saved, out.1 = .ok saved
  | _ => True

/-- The copy that an update saves has the stored children or variants, and the stored
values where the DTO brings none. -/
def CatalogOp.CopyAgrees (request : Request CatalogOp) (w : World) : Prop :=
  match request.op with
  | .category (.update id dto) => ∀ target w₁,
      CategoryService.Finds request.tenantId id w target w₁ →
      CategoryService.ListsChildren target w.db ∧
        ∀ row ∈ w.db.categories, row.id = target.id → CategoryService.Current dto target row
  | .product (.update id dto) => ∀ product w₁,
      ProductService.Finds request.tenantId id w product w₁ →
      ProductService.ListsVariants product w.db ∧
        ∀ row ∈ w.db.products, row.id = product.id → ProductService.Current dto product row
  | _ => True

theorem CategoryService.update_alone {platform : Platform} {context : Option AuditContextData}
    {tenantId id : String} {dto : UpdateCategoryDto} {w : World} (named : w.CachedAll Cached.Named)
    (agrees : ∀ target w₁, Finds tenantId id w target w₁ → ListsChildren target w.db ∧
      ∀ row ∈ w.db.categories, row.id = target.id → Current dto target row) :
    let out := (update platform context tenantId id dto).runs w
    (∀ saved, out.1 = .ok saved → ∃ x, uuidIn id = some x ∧
        out.2.db.withoutCategory x = w.db.withoutCategory x) ∧
      ∀ row, Valid platform context tenantId id dto w row → ∃ saved, out.1 = .ok saved := by
  intro out
  refine ⟨fun saved answered => ?_, fun row valid => ?_⟩
  · rcases update_cases platform context tenantId id dto w with
      ⟨⟨e, failed⟩, -⟩ | ⟨target, w₁, parent, saved, w₂, steps, wrote⟩
    · rw [answered] at failed
      cases failed
    · have lists := (agrees target w₁ steps.finds).1
      rw [← steps.finds.db] at lists
      refine ⟨target.id, steps.finds.named named, ?_⟩
      have alone := save_alone steps.saves ⟨lists.complete, lists.stored⟩
      have left : out.2.db = w₂.db := by
        rcases wrote with ⟨w₃, done, ended⟩ | ⟨-, ended⟩
        · exact (congrArg (·.2.db) ended).trans (published_db done)
        · exact congrArg (·.2.db) ended
      rw [left, ← steps.finds.db]
      exact alone
  · obtain ⟨target, w₁, finds⟩ := finds_of_readable valid.readable
    obtain ⟨lists, current⟩ := agrees target w₁ finds
    have same : target.id = row.id :=
      Option.some.inj ((finds.named named).symm.trans valid.readable.named)
    obtain ⟨parent, saved, w₂, steps⟩ := updates_of finds same (valid.of_db finds.db)
      (current row valid.readable.stored same.symm) (by rw [finds.db]; exact lists)
    exact ⟨saved, update_answers steps valid.audited⟩

theorem ProductService.update_alone {context : Option AuditContextData} {tenantId id : String}
    {dto : UpdateProductDto} {w : World} (named : w.CachedAll Cached.Named)
    (agrees : ∀ product w₁, Finds tenantId id w product w₁ → ListsVariants product w.db ∧
      ∀ row ∈ w.db.products, row.id = product.id → Current dto product row) :
    let out := (update context tenantId id dto).runs w
    (∀ saved, out.1 = .ok saved → ∃ x, uuidIn id = some x ∧
        out.2.db.withoutProduct x = w.db.withoutProduct x) ∧
      ∀ row, Valid context tenantId id dto w row → ∃ saved, out.1 = .ok saved := by
  intro out
  refine ⟨fun saved answered => ?_, fun row valid => ?_⟩
  · rcases update_cases context tenantId id dto w with
      ⟨⟨e, failed⟩, -⟩ | ⟨product, w₁, w₂, saved, w₃, steps, ends⟩
    · rw [answered] at failed
      cases failed
    · have looked : w₂.db = w.db := by
        cases steps.names with
        | nothing _ => exact steps.finds.db
        | category _ category => exact category.db.trans steps.finds.db
      have lists := (agrees product w₁ steps.finds).1
      rw [← looked] at lists
      refine ⟨product.id, steps.finds.named named, ?_⟩
      have alone := save_alone steps.saves ⟨lists.complete, lists.stored⟩
      have left : out.2.db = w₃.db :=
        ends.kept (P := fun w' => w'.db = w₃.db) rfl fun w₄ done => (published_db done).1
      rw [left, ← looked]
      exact alone
  · obtain ⟨product, w₁, finds⟩ := finds_of_readable valid.readable
    obtain ⟨lists, current⟩ := agrees product w₁ finds
    have same : product.id = row.id :=
      Option.some.inj ((finds.named named).symm.trans valid.readable.named)
    obtain ⟨w₂, saved, w₃, steps⟩ := updates_of finds same (valid.of_db finds.db)
      (current row valid.readable.stored same.symm) (by rw [finds.db]; exact lists)
    exact ⟨saved, update_answers steps valid.audited⟩

/-- In every run, an update whose copy agrees with the database touches its own row only,
and succeeds when it is valid. -/
theorem updates_touch_own_row (platform : Platform) (start w : World)
    (initial : start.CachedAll Cached.Named)
    (reached : Request.Reached (CatalogOp.act platform) (fun _ _ => True) start w)
    (request : Request CatalogOp) (agrees : CatalogOp.CopyAgrees request (request.arrive w)) :
    CatalogOp.UpdatesAlone platform request (request.arrive w) := by
  have named : w.CachedAll Cached.Named :=
    reached.invariant (I := World.CachedAll Cached.Named) initial (fun _ _ h => h)
      fun request _ all _ => CatalogOp.act_cachedAll (named_fresh platform _) request all
  obtain ⟨context, tenantId, now, op⟩ := request
  cases op with
  | category op =>
      cases op with
      | update id dto => exact CategoryService.update_alone named agrees
      | create dto => trivial
      | remove id => trivial
      | findOne id => trivial
      | findAll query => trivial
      | findTree => trivial
  | product op =>
      cases op with
      | update id dto => exact ProductService.update_alone named agrees
      | create dto => trivial
      | remove id => trivial
      | findOne id => trivial
      | findAll query => trivial
  | variant op => trivial

open SampleShop

namespace SampleShop

def shopRequest (now : Timestamp) (op : CatalogOp) : Request CatalogOp :=
  ⟨some context, uuidOut tenantId, now, op⟩

def findShirts : Request CatalogOp := shopRequest 2 (.category (.findOne (uuidOut categoryId)))

def addPolos : Request CatalogOp :=
  shopRequest 3 (.category (.create ⟨"Polos", .undefined, .value (uuidOut categoryId)⟩))

def renameShirts : Request CatalogOp :=
  shopRequest 4
    (.category (.update (uuidOut categoryId) ⟨.value "Tops", .undefined, .undefined⟩))

/-- The shop with a cached category. -/
def looked (db : Database) : World :=
  CatalogOp.act plainText findShirts (findShirts.arrive (world db))

def withPolos : World :=
  CatalogOp.act plainText addPolos (addPolos.arrive (looked unstocked))

def renameRun : Except Err CategoryEntity × World :=
  (CategoryService.update plainText renameShirts.context renameShirts.tenantId (uuidOut categoryId)
    ⟨.value "Tops", .undefined, .undefined⟩).runs (renameShirts.arrive withPolos)

theorem looked_reached (db : Database) :
    Request.Reached (CatalogOp.act plainText) (fun _ _ => True) (world db) (looked db) :=
  .serve findShirts .start trivial

end SampleShop

theorem updates_touch_own_row_renamed :
    CatalogOp.UpdatesAlone plainText renameShirts (renameShirts.arrive (looked nested)) := by
  refine updates_touch_own_row plainText (world nested) (looked nested)
    (fun _ mem => (nomatch mem)) (looked_reached nested) renameShirts ?_
  intro target w₁ finds
  have copy : ((CategoryService.findOne renameShirts.tenantId (uuidOut categoryId)).runs
      (renameShirts.arrive (looked nested))).1 = .ok (CategoryEntity.related nested category) := by
    decide
  rw [CategoryService.finds_iff.mpr finds] at copy
  cases copy
  have none_bound : (CategoryEntity.related nested category).rebound
      (renameShirts.arrive (looked nested)).db = [] := by decide
  refine ⟨⟨by decide, ?_⟩, fun row mem same => ?_⟩
  · rw [none_bound]
    exact fun c hc => (nomatch hc)
  · have stored : ∀ row ∈ (renameShirts.arrive (looked nested)).db.categories.rows,
        row.id = (CategoryEntity.related nested category).id → row = category := by decide
    rw [stored row mem same]
    exact ⟨fun _ => rfl, fun _ _ => rfl, fun _ p hp => (nomatch hp)⟩

/-- The shirts are cached, polos are created below them, the shirts are renamed: the
polos lose their parent. -/
theorem rename_detaches_child :
    ∃ w, Request.Reached (CatalogOp.act plainText) (fun _ _ => True) (world unstocked) w ∧
      ¬ CatalogOp.UpdatesAlone plainText renameShirts (renameShirts.arrive w) := by
  refine ⟨withPolos, .serve addPolos (looked_reached unstocked) trivial, fun alone => ?_⟩
  have answered : renameRun.1.toBool = true := by decide
  obtain ⟨saved, answered⟩ : ∃ saved, renameRun.1 = .ok saved := by
    cases hr : renameRun.1 with
    | error e =>
        rw [hr] at answered
        cases answered
    | ok saved => exact ⟨saved, rfl⟩
  obtain ⟨x, named, same⟩ := alone.1 saved answered
  obtain rfl : categoryId = x := Option.some.inj ((uuidIn_uuidOut categoryId).symm.trans named)
  have below : ∃ c ∈ (withPolos.db.categories.only (·.id != categoryId)).rows,
      c.parentId = some categoryId := by decide
  have cut : ∀ c ∈ (renameRun.2.db.categories.only (·.id != categoryId)).rows,
      c.parentId = none := by decide
  have kept : renameRun.2.db.categories.only (·.id != categoryId) =
      withPolos.db.categories.only (·.id != categoryId) := congrArg Database.categories same
  obtain ⟨c, hc, up⟩ := below
  rw [← kept] at hc
  rw [cut c hc] at up
  cases up

end Tenantory
