import Tenantory.ShopRuns
import Tenantory.ViewFrames

/-! Reads through the cache. A cached object is a copy of what a read gave when it was
put there. The writes take some copies from the cache; as long as none that they leave
shows what they write, every read answers as it would without a cache. -/

namespace Tenantory

open UuidText

/-! ## Copies -/

/-- The queries that are asked have digests of their own. -/
structure Digests (platform : Platform) (asksCategories : CategoryQueryDto → Prop)
    (asksProducts : ProductQueryDto → Prop) : Prop where
  categories : ∀ q q', asksCategories q → asksCategories q' →
    platform.digest q.toJson = platform.digest q'.toJson → q = q'
  products : ∀ q q', asksProducts q → asksProducts q' →
    platform.digest q.toJson = platform.digest q'.toJson → q = q'

section Copies

variable (platform : Platform) (asksCategories : CategoryQueryDto → Prop)
  (asksProducts : ProductQueryDto → Prop) (tenant : Uuid)

/-- Under a key of the tenant is what a read of these tables gives. -/
def Faithful (db : Database) (key : String) : Cached → Prop
  | .category entity => ∀ t id, uuidIn t = some tenant → key = CacheKeys.category t id →
      (CategoryService.oneView t id).Gives db entity
  | .categoriesList page => ∀ t query, uuidIn t = some tenant → asksCategories query →
      key = CacheKeys.categoriesList platform t query.toJson →
      (CategoryService.pageView platform t query).Gives db page
  | .categoriesTree roots => ∀ t, uuidIn t = some tenant → key = CacheKeys.categoriesTree t →
      (CategoryService.treeView platform t).Gives db roots
  | .product entity => ∀ t id, uuidIn t = some tenant → key = CacheKeys.product t id →
      (ProductService.oneView t id).Gives db entity
  | .productsList page => ∀ t query, uuidIn t = some tenant → asksProducts query →
      key = CacheKeys.productsList platform t query.toJson →
      (ProductService.pageView platform t query).Gives db page
  | .user _ => True

/-- Every copy of the tenant's is faithful to the tables. -/
abbrev World.Coherent (w : World) : Prop :=
  w.CachedAll (Faithful platform asksCategories asksProducts tenant w.db)

variable {platform asksCategories asksProducts tenant} {db : Database} {w : World}

theorem CategoryService.page_tenant {t : String} {query : CategoryQueryDto} {ties : Uuid → ℕ}
    {page : PaginatedResponse CategoryEntity}
    (h : (pageView platform t query).fresh ties w = .ok page) :
    ∃ owner, uuidIn t = some owner := by
  cases read : readPage platform t query (query.page.getD 1) (query.limit.getD 10) ties w with
  | error e =>
      simp only [pageView, read] at h
      cases h
  | ok rows =>
      obtain ⟨owner, named, -⟩ := bind_eq_ok.mp read
      exact ⟨owner, uuidParam_eq_ok.mp named⟩

theorem CategoryService.tree_tenant {t : String} {ties : Uuid → ℕ} {roots : List CategoryNode}
    (h : (treeView platform t).fresh ties w = .ok roots) : ∃ owner, uuidIn t = some owner := by
  obtain ⟨rows, read, -⟩ := bind_eq_ok.mp h
  obtain ⟨owner, named, -⟩ := bind_eq_ok.mp read
  exact ⟨owner, uuidParam_eq_ok.mp named⟩

theorem ProductService.page_tenant {t : String} {query : ProductQueryDto} {ties : Uuid → ℕ}
    {page : PaginatedResponse ProductEntity}
    (h : (pageView platform t query).fresh ties w = .ok page) :
    ∃ owner, uuidIn t = some owner := by
  cases read : readPage platform t query ((query.page.getD 1 - 1) * query.limit.getD 10)
      (query.limit.getD 10) ties w with
  | error e =>
      simp only [pageView, read] at h
      cases h
  | ok rows =>
      obtain ⟨owner, named, -⟩ := bind_eq_ok.mp read
      exact ⟨owner, uuidParam_eq_ok.mp named⟩

/-- What is read afresh is faithful under its key. -/
theorem faithful_fresh (digests : Digests platform asksCategories asksProducts) :
    FreshIn platform db asksCategories asksProducts
      (Faithful platform asksCategories asksProducts tenant db) where
  category tenantId id ties w target same h := by
    intro t i _ key
    obtain ⟨row, readable, -⟩ := CategoryService.readOne_ok.mp (orMissing_eq_ok.mp h)
    obtain ⟨rfl, rfl⟩ := CacheKeys.category_texts readable.owned readable.named key
    exact ⟨ties, w, same, h⟩
  categories tenantId query ties w page asked same h := by
    intro t q owned asked' key
    obtain ⟨owner, named⟩ := CategoryService.page_tenant h
    obtain ⟨rfl, digest⟩ := CacheKeys.categoriesList_texts named owned key
    obtain rfl := digests.categories query q asked asked' digest
    exact ⟨ties, w, same, h⟩
  tree tenantId ties w roots same h := by
    intro t owned key
    obtain ⟨owner, named⟩ := CategoryService.tree_tenant h
    obtain rfl := CacheKeys.categoriesTree_texts named owned key
    exact ⟨ties, w, same, h⟩
  product tenantId id ties w target same h := by
    intro t i _ key
    obtain ⟨row, readable, -⟩ := ProductService.readOne_ok.mp (orMissing_eq_ok.mp h)
    obtain ⟨rfl, rfl⟩ := CacheKeys.product_texts readable.owned readable.named key
    exact ⟨ties, w, same, h⟩
  products tenantId query ties w page asked same h := by
    intro t q owned asked' key
    obtain ⟨owner, named⟩ := ProductService.page_tenant h
    obtain ⟨rfl, digest⟩ := CacheKeys.productsList_texts named owned key
    obtain rfl := digests.products query q asked asked' digest
    exact ⟨ties, w, same, h⟩

/-! ## What shows a write -/

/-- The object shows the category, or the children below `parent`. -/
def Cached.ShowsCategory (x : Uuid) (parent : Option Uuid) : Cached → Prop
  | .category entity => entity.id = x ∨ entity.parentId = some x ∨
      (∃ c ∈ entity.children.getD [], c.id = x) ∨ parent = some entity.id
  | .categoriesList _ | .categoriesTree _ => True
  | .product entity => ∃ c, entity.category = some (some (.loaded c)) ∧ c.id = x
  | .productsList _ | .user _ => False

/-- The object shows the columns of the product. -/
def Cached.ShowsProduct (x : Uuid) : Cached → Prop
  | .product entity => entity.id = x
  | .productsList _ => True
  | _ => False

/-- The object shows the variants of the product. -/
def Cached.ShowsVariants (x : Uuid) : Cached → Prop
  | .product entity => entity.id = x
  | _ => False

theorem liveCategory_of {db : Database} {x : Uuid} (stored : ∃ r ∈ db.categories, r.id = x)
    (alive : ∀ r ∈ db.categories, r.id = x → r.live = true) :
    ∃ c, db.liveCategory? x = some c ∧ c.id = x := by
  obtain ⟨r, mem, same⟩ := stored
  refine ⟨r, Table.find?_of_mem mem (by simp [same, alive r mem same]) fun s _ passes => ?_,
    same⟩
  simp only [Bool.and_eq_true, beq_iff_eq] at passes
  exact Entity.same_id _ _ (same.trans passes.1.symm)

variable {key : String} {value : Cached} {x : Uuid}

/-- A write of a category leaves the copies faithful that do not show it. -/
theorem Faithful.category_write {t' : Table Category} {parent : Option Uuid} (sound : Sound db)
    (same : t'.only (·.id != x) = db.categories.only (·.id != x))
    (alive : ∀ r ∈ db.categories, r.id = x → r.live = true)
    (under : ∀ r ∈ t', r.id = x → r.live = true → r.parentId = parent)
    (hidden : CacheKeys.OfTenant tenant key → ¬ value.ShowsCategory x parent)
    (faithful : Faithful platform asksCategories asksProducts tenant db key value) :
    Faithful platform asksCategories asksProducts tenant { db with categories := t' }
      key value := by
  cases value with
  | category entity =>
      intro t id owned named
      obtain ⟨ties, w, rfl, read⟩ := faithful t id owned named
      have away := hidden (named ▸ CacheKeys.ofTenant_category owned)
      obtain ⟨row, readable, rfl⟩ := CategoryService.readOne_ok.mp (orMissing_eq_ok.mp read)
      have apart : row.id ≠ x := fun own => away (.inl own)
      have up : row.parentId ≠ some x := by
        intro above
        have stored := CategoryService.stored_of_not_dangling
          (sound.categories row readable.stored).2 above
        obtain ⟨c, found, own⟩ := liveCategory_of stored alive
        refine away (.inr (.inl ?_))
        simp [CategoryEntity.related, CategoryEntity.parentId, above, found, Category.columns, own]
      have down' : ∀ c ∈ w.db.categories, c.id = x → c.live = true →
        c.parentId ≠ some row.id := by
        intro c mem own live below
        refine away (.inr (.inr (.inl ⟨c.columns, ?_, own⟩)))
        refine List.mem_map_of_mem (List.mem_filter.mpr ⟨mem, ?_⟩)
        simp [below, live]
      have down : ∀ c ∈ t', c.id = x → c.live = true → c.parentId ≠ some row.id := by
        intro c mem own live below
        exact away (.inr (.inr (.inr ((under c mem own live).symm.trans below))))
      refine ⟨ties, CategoryService.withCategories w t', rfl, orMissing_eq_ok.mpr ?_⟩
      rw [CategoryService.readOne_kept same readable apart up down down']
      exact CategoryService.readOne_ok.mpr ⟨row, readable, rfl⟩
  | categoriesList page =>
      intro t query owned _ named
      exact absurd trivial (hidden (named ▸ CacheKeys.ofTenant_categoriesList owned))
  | categoriesTree roots =>
      intro t owned named
      exact absurd trivial (hidden (named ▸ CacheKeys.ofTenant_categoriesTree owned))
  | product entity =>
      intro t id owned named
      obtain ⟨ties, w, rfl, read⟩ := faithful t id owned named
      have away := hidden (named ▸ CacheKeys.ofTenant_product owned)
      obtain ⟨row, readable, rfl⟩ := ProductService.readOne_ok.mp (orMissing_eq_ok.mp read)
      have apart : row.categoryId ≠ x := by
        intro within
        have stored : ∃ r ∈ w.db.categories, r.id = x := by
          have keys := (Bool.or_eq_false_iff.mp (sound.products row readable.stored).2).2
          rw [within] at keys
          simpa using keys
        obtain ⟨c, found, own⟩ := liveCategory_of stored alive
        refine away ⟨c.columns, ?_, own⟩
        simp [ProductEntity.related, within, found]
      refine ⟨ties, CategoryService.withCategories w t', rfl, orMissing_eq_ok.mpr ?_⟩
      rw [ProductService.readOne_category same readable apart]
      exact ProductService.readOne_ok.mpr ⟨row, readable, rfl⟩
  | productsList page =>
      intro t query owned asked named
      obtain ⟨ties, w, rfl, read⟩ := faithful t query owned asked named
      exact ⟨ties, CategoryService.withCategories w t', rfl, read⟩
  | user _ => trivial

/-- A write of a product leaves the copies faithful that do not show it. -/
theorem Faithful.product_write {t' : Table Product}
    (same : t'.only (·.id != x) = db.products.only (·.id != x))
    (hidden : CacheKeys.OfTenant tenant key → ¬ value.ShowsProduct x)
    (faithful : Faithful platform asksCategories asksProducts tenant db key value) :
    Faithful platform asksCategories asksProducts tenant { db with products := t' } key value := by
  cases value with
  | category entity =>
      intro t id owned named
      obtain ⟨ties, w, rfl, read⟩ := faithful t id owned named
      exact ⟨ties, withProducts w t', rfl, read⟩
  | categoriesList page =>
      intro t query owned asked named
      obtain ⟨ties, w, rfl, read⟩ := faithful t query owned asked named
      exact ⟨ties, withProducts w t', rfl, read⟩
  | categoriesTree roots =>
      intro t owned named
      obtain ⟨ties, w, rfl, read⟩ := faithful t owned named
      exact ⟨ties, withProducts w t', rfl, read⟩
  | product entity =>
      intro t id owned named
      obtain ⟨ties, w, rfl, read⟩ := faithful t id owned named
      have away := hidden (named ▸ CacheKeys.ofTenant_product owned)
      obtain ⟨row, readable, rfl⟩ := ProductService.readOne_ok.mp (orMissing_eq_ok.mp read)
      refine ⟨ties, withProducts w t', rfl, orMissing_eq_ok.mpr ?_⟩
      rw [ProductService.readOne_product same readable away]
      exact ProductService.readOne_ok.mpr ⟨row, readable, rfl⟩
  | productsList page =>
      intro t query owned _ named
      exact absurd trivial (hidden (named ▸ CacheKeys.ofTenant_productsList owned))
  | user _ => trivial

/-- A write of a variant leaves the copies faithful that do not show its product. -/
theorem Faithful.variant_write {v : Table ProductVariant}
    (same : v.only (·.productId != x) = db.variants.only (·.productId != x))
    (hidden : CacheKeys.OfTenant tenant key → ¬ value.ShowsVariants x)
    (faithful : Faithful platform asksCategories asksProducts tenant db key value) :
    Faithful platform asksCategories asksProducts tenant { db with variants := v } key value := by
  cases value with
  | category entity =>
      intro t id owned named
      obtain ⟨ties, w, rfl, read⟩ := faithful t id owned named
      exact ⟨ties, withVariants w v, rfl, read⟩
  | categoriesList page =>
      intro t query owned asked named
      obtain ⟨ties, w, rfl, read⟩ := faithful t query owned asked named
      exact ⟨ties, withVariants w v, rfl, read⟩
  | categoriesTree roots =>
      intro t owned named
      obtain ⟨ties, w, rfl, read⟩ := faithful t owned named
      exact ⟨ties, withVariants w v, rfl, read⟩
  | product entity =>
      intro t id owned named
      obtain ⟨ties, w, rfl, read⟩ := faithful t id owned named
      have away := hidden (named ▸ CacheKeys.ofTenant_product owned)
      obtain ⟨row, readable, rfl⟩ := ProductService.readOne_ok.mp (orMissing_eq_ok.mp read)
      refine ⟨ties, withVariants w v, rfl, orMissing_eq_ok.mpr ?_⟩
      rw [ProductService.readOne_variant same readable away]
      exact ProductService.readOne_ok.mpr ⟨row, readable, rfl⟩
  | productsList page =>
      intro t query owned asked named
      obtain ⟨ties, w, rfl, read⟩ := faithful t query owned asked named
      exact ⟨ties, withVariants w v, rfl, read⟩
  | user _ => trivial

end Copies

/-! ## Writes that no copy shows -/

/-- No copy of the tenant's that a write leaves in the cache shows it. -/
def Unseen (tenant : Uuid) (cleared : String → Prop) (shows : Cached → Prop) (w : World) :
    Prop :=
  ∀ entry ∈ w.cache, CacheKeys.OfTenant tenant entry.1 → ¬ cleared entry.1 →
    ¬ shows entry.2

namespace CacheKeys

/-- The lists that a write of a category clears. -/
def Collections (tenantId key : String) : Prop :=
  CacheService.glob (categoriesPattern tenantId) key = true ∨
    CacheService.glob (productsPattern tenantId) key = true

/-- The lists that a write of a product clears. -/
def ProductLists (tenantId key : String) : Prop :=
  CacheService.glob (productsPattern tenantId) key = true

end CacheKeys

/-- No copy that the call leaves shows what it writes. A call that throws for want of an
audit context has cleared nothing; a lookup puts a copy under the key of the call. -/
def CategoryOp.Unseen (platform : Platform) (tenant : Uuid) (request : Request CategoryOp)
    (w : World) : Prop :=
  let tenantId := request.tenantId
  match request.op with
  | .create dto => ∀ parent category w₂,
      CategoryService.Creates platform tenantId dto w parent category w₂ →
      Tenantory.Unseen tenant
        (fun key => AuditService.Audited request.context ∧ CacheKeys.Collections tenantId key)
        (Cached.ShowsCategory category.id (parent.map (·.id))) w
  | .update id dto => ∀ target w₁ parent saved w₂,
      CategoryService.Updates platform tenantId id dto w target w₁ parent saved w₂ →
      let edited := CategoryService.edited platform dto target parent
      (∀ row ∈ w.db.categories, row.id = target.id →
        CategoryService.overwrite edited w.clock row = row) ∨
      AuditService.Audited request.context ∧ Tenantory.Unseen tenant
        (fun key => key = CacheKeys.category tenantId id ∨ CacheKeys.Collections tenantId key)
        (Cached.ShowsCategory target.id edited.parentId) w
  | .remove id => ∀ target w₁ w₂, CategoryService.Removes tenantId id w target w₁ w₂ →
      AuditService.Audited request.context ∧ Tenantory.Unseen tenant
        (fun key => key = CacheKeys.category tenantId id ∨ CacheKeys.Collections tenantId key)
        (Cached.ShowsCategory target.id none) w
  | _ => True

def ProductOp.Unseen (tenant : Uuid) (request : Request ProductOp) (w : World) : Prop :=
  let tenantId := request.tenantId
  match request.op with
  | .create dto => ∀ category w₁ product w₂,
      ProductService.Creates tenantId dto w category w₁ product w₂ →
      Tenantory.Unseen tenant
        (fun key => AuditService.Audited request.context ∧ CacheKeys.ProductLists tenantId key)
        (Cached.ShowsProduct product.id) w
  | .update id dto => ∀ product w₁ w₂ saved w₃,
      ProductService.Updates tenantId id dto w product w₁ w₂ saved w₃ →
      (∀ row ∈ w.db.products, row.id = product.id →
        ProductService.overwrite (ProductService.patched dto product) w.clock row = .ok row) ∨
      AuditService.Audited request.context ∧ Tenantory.Unseen tenant
        (fun key => key = CacheKeys.product tenantId id ∨ CacheKeys.ProductLists tenantId key)
        (Cached.ShowsProduct product.id) w
  | .remove id => ∀ product w₁ w₂, ProductService.Removes tenantId id w product w₁ w₂ →
      AuditService.Audited request.context ∧ Tenantory.Unseen tenant
        (fun key => key = CacheKeys.product tenantId id ∨ CacheKeys.ProductLists tenantId key)
        (Cached.ShowsProduct product.id) w
  | _ => True

/-- The variant service clears nothing. -/
def VariantOp.Unseen (tenant : Uuid) (request : Request VariantOp) (w : World) : Prop :=
  let tenantId := request.tenantId
  match request.op with
  | .create productId dto => ∀ product saved w₁,
      VariantService.Creates tenantId productId dto w product saved w₁ →
      Tenantory.Unseen tenant (fun _ => False) (Cached.ShowsVariants product.id) w
  | .update productId variantId dto => ∀ variant saved w₁,
      VariantService.Updates tenantId productId variantId dto w variant saved w₁ →
      VariantService.overwrite (VariantService.patched dto variant) w.clock variant =
        .ok variant ∨
      Tenantory.Unseen tenant (fun _ => False) (Cached.ShowsVariants variant.productId) w
  | .remove productId variantId => ∀ variant w₁,
      VariantService.Removes tenantId productId variantId w variant w₁ →
      Tenantory.Unseen tenant (fun _ => False) (Cached.ShowsVariants variant.productId) w
  | _ => True

def CatalogOp.Unseen (platform : Platform) (tenant : Uuid) (request : Request CatalogOp)
    (w : World) : Prop :=
  match request.op with
  | .category op => CategoryOp.Unseen platform tenant { request with op } w
  | .product op => ProductOp.Unseen tenant { request with op } w
  | .variant op => VariantOp.Unseen tenant { request with op } w

section Steps

variable {platform : Platform} {asksCategories : CategoryQueryDto → Prop}
  {asksProducts : ProductQueryDto → Prop} {tenant : Uuid} {w w' : World}

/-- What a step leaves is faithful to the tables after it. -/
def Carries (platform : Platform) (asksCategories : CategoryQueryDto → Prop)
    (asksProducts : ProductQueryDto → Prop) (tenant : Uuid) (w w' : World) : Prop :=
  ∀ entry ∈ w'.cache,
    Faithful platform asksCategories asksProducts tenant w.db entry.1 entry.2 →
    Faithful platform asksCategories asksProducts tenant w'.db entry.1 entry.2

theorem carries_of_db (same : w'.db = w.db) :
    Carries platform asksCategories asksProducts tenant w w' := by
  intro entry _ faithful
  rw [same]
  exact faithful

/-! ### Categories -/

namespace CategoryService

variable {context : Option AuditContextData} {tenantId id : String} {target : CategoryEntity}

/-- What publishing leaves in the cache was there before and is not cleared. -/
theorem published_left {input : AuditEventInput}
    (h : published context input tenantId id w = some w') {entry : String × Cached}
    (mem : entry ∈ w'.cache) : entry ∈ w.cache ∧
      ¬ (entry.1 = CacheKeys.category tenantId id ∨ CacheKeys.Collections tenantId entry.1) := by
  unfold published at h
  cases he : AuditService.event? context input with
  | none =>
      rw [he] at h
      cases h
  | some event =>
      rw [he] at h
      cases h
      obtain ⟨mem, products⟩ := List.mem_filter.mp mem
      obtain ⟨mem, categories⟩ := List.mem_filter.mp mem
      obtain ⟨mem, own⟩ := List.mem_filter.mp mem
      refine ⟨mem, ?_⟩
      simp only [Bool.not_eq_true', beq_eq_false_iff_ne] at products categories own
      simp [CacheKeys.Collections, products, categories, own]

/-- With a tenant for its audit event a write is published. -/
theorem published_of_audited (audited : AuditService.Audited context) (input : AuditEventInput)
    (w : World) : published context input tenantId id w ≠ none := by
  obtain ⟨event, recorded⟩ := AuditService.event?_of_audited audited input
  unfold published
  rw [recorded]
  nofun

/-- The stored row under the id of a row that is read is live. -/
theorem Readable.alive {row : Category} (readable : Readable w.db tenantId id row) :
    ∀ r ∈ w.db.categories, r.id = row.id → r.live = true := by
  intro r hr own
  rw [Table.eq_of_id hr readable.stored own]
  exact readable.live

/-- A coherent cache answers with the stored category and its relations. -/
theorem Finds.related {w₁ : World} (finds : Finds tenantId id w target w₁)
    (owned : uuidIn tenantId = some tenant)
    (coherent : w.Coherent platform asksCategories asksProducts tenant) :
    ∃ row, Readable w.db tenantId id row ∧ target = CategoryEntity.related w.db row := by
  have given : (oneView tenantId id).Gives w.db target := by
    rcases finds.source with hit | read
    · obtain ⟨value, found, wrapped⟩ := Option.bind_eq_some_iff.mp hit
      have same : value = .category target := by
        cases value <;> cases wrapped
        rfl
      subst same
      exact coherent.of_cached found tenantId id owned rfl
    · exact ⟨w.ties 0, w, rfl, read⟩
  obtain ⟨ties, v, same, read⟩ := given
  obtain ⟨row, readable, related⟩ := readOne_ok.mp (orMissing_eq_ok.mp read)
  rw [same] at readable related
  exact ⟨row, readable, related⟩

theorem lists_related (db : Database) (row : Category) :
    ListsChildren (CategoryEntity.related db row) db where
  complete := by
    refine List.filter_eq_nil_iff.mpr fun c mem => ?_
    simpa [CategoryEntity.related, Category.columns] using ⟨c, mem, rfl⟩
  stored c mem := by
    obtain ⟨listed, unbound⟩ := List.mem_filter.mp mem
    obtain ⟨child, below, rfl⟩ := List.mem_map.mp listed
    have other := List.all_eq_true.mp unbound child below
    simp [Category.columns] at other

/-- A chosen parent is present when the target has its own. -/
theorem chosen_present {parentId : Property String} {parent : Option (Option CategoryColumns)}
    (chooses : (chooseParent tenantId id parentId target.parent).runs w = (.ok parent, w))
    (present : target.parent ≠ none) : parent ≠ none := by
  rintro rfl
  cases parentId with
  | undefined => exact present (Except.ok.inj (congrArg Prod.fst chooses))
  | null => cases Except.ok.inj (congrArg Prod.fst chooses)
  | value text =>
      simp only [chooseParent] at chooses
      split at chooses
      · cases congrArg Prod.fst chooses
      · split at chooses
        · cases Except.ok.inj (congrArg Prod.fst chooses)
        · simp only [assertParentExists, Svc.runs_bind, Svc.runs_query] at chooses
          cases read : readParent tenantId text w with
          | error e =>
              rw [read] at chooses
              cases congrArg Prod.fst chooses
          | ok found =>
              rw [read] at chooses
              cases found with
              | none => cases congrArg Prod.fst chooses
              | some d => cases Except.ok.inj (congrArg Prod.fst chooses)

theorem create_carries {dto : CreateCategoryDto} (sound : Sound w.db)
    (unseen : CategoryOp.Unseen platform tenant ⟨context, tenantId, now, .create dto⟩ w) :
    Carries platform asksCategories asksProducts tenant w
      ((create platform context tenantId dto).runs w).2 := by
  rcases create_cases platform context tenantId dto w with
    ⟨-, same⟩ | ⟨parent, category, w₂, steps, wrote⟩
  · exact carries_of_db (by rw [same])
  · have unseen := unseen parent category w₂ steps
    obtain ⟨owner, t, -, fresh, named, rows, rfl⟩ := insert_ok steps.inserts
    rw [named] at unseen
    have elsewhere : t.only (·.id != w.ids 0) = w.db.categories.only (·.id != w.ids 0) := by
      refine Table.rows_inj ?_
      rw [Table.rows_only, Table.rows_only, rows, List.filter_append]
      simp
    have under : ∀ r ∈ t, r.id = w.ids 0 → r.live = true →
      r.parentId = parent.map (·.id) := by
      intro r hr own _
      rw [← Table.mem_rows, rows] at hr
      rcases List.mem_append.mp hr with old | added
      · exact absurd own (fresh r old)
      · obtain rfl := List.mem_singleton.mp added
        rfl
    have left : ∀ entry ∈ ((create platform context tenantId dto).runs w).2.cache,
        entry ∈ w.cache ∧ ¬ (AuditService.Audited context ∧
          CacheKeys.Collections tenantId entry.1) := by
      rcases wrote with ⟨event, recorded, out⟩ | ⟨missing, out⟩
      · intro entry mem
        rw [out] at mem
        obtain ⟨mem, products⟩ := List.mem_filter.mp mem
        obtain ⟨mem, categories⟩ := List.mem_filter.mp mem
        refine ⟨mem, ?_⟩
        simp only [Bool.not_eq_true'] at products categories
        simp [CacheKeys.Collections, products, categories]
      · intro entry mem
        rw [out] at mem
        refine ⟨mem, fun cleared => ?_⟩
        obtain ⟨event, recorded⟩ := AuditService.event?_of_audited cleared.1 _
        rw [missing] at recorded
        cases recorded
    have db : ((create platform context tenantId dto).runs w).2.db =
        { w.db with categories := t } := by
      rcases wrote with ⟨event, -, out⟩ | ⟨-, out⟩
      · rw [out]
        rfl
      · rw [out]
        rfl
    intro entry mem faithful
    obtain ⟨old, uncleared⟩ := left entry mem
    rw [db]
    exact faithful.category_write sound elsewhere (fun r hr own => absurd own (fresh r hr)) under
      fun owned => unseen entry old owned uncleared

theorem update_carries {dto : UpdateCategoryDto} {now : Timestamp} (sound : Sound w.db)
    (owned : uuidIn tenantId = some tenant)
    (coherent : w.Coherent platform asksCategories asksProducts tenant)
    (unseen : CategoryOp.Unseen platform tenant ⟨context, tenantId, now, .update id dto⟩ w) :
    Carries platform asksCategories asksProducts tenant w
      ((update platform context tenantId id dto).runs w).2 := by
  rcases update_cases platform context tenantId id dto w with
    ⟨-, same | ⟨target, finds⟩⟩ | ⟨target, w₁, parent, saved, w₂, steps, wrote⟩
  · exact carries_of_db (by rw [same])
  · exact carries_of_db finds.db
  · have unseen := unseen target w₁ parent saved w₂ steps
    obtain ⟨row, readable, related⟩ := steps.finds.related owned coherent
    have named : row.id = target.id := by rw [related]; rfl
    have lists : ListsChildren (edited platform dto target parent) w₁.db := by
      have listed := lists_related w.db row
      rw [steps.finds.db]
      rw [← related] at listed
      exact ⟨listed.complete, listed.stored⟩
    obtain ⟨t, rows, rfl⟩ := save_own steps.saves lists
    rw [steps.finds.db, steps.finds.clock] at rows
    rcases unseen with unchanged | ⟨audited, unseen⟩
    · have same : t = w.db.categories := by
        refine Table.rows_inj (rows.trans ((List.map_congr_left fun r hr => ?_).trans
          (List.map_id _)))
        unfold overwritten
        split
        · rename_i own
          exact unchanged r hr own
        · rfl
      have kept : (withCategories w₁ t).db = w.db := by
        rw [same]
        unfold withCategories
        rw [steps.finds.db]
      refine carries_of_db ?_
      rcases wrote with ⟨w₃, done, out⟩ | ⟨-, out⟩
      · rw [out]
        exact (published_db done).trans kept
      · rw [out]
        exact kept
    · have elsewhere : t.only (·.id != target.id) =
        w.db.categories.only (·.id != target.id) := by
        have kept := only_of_overwritten rows
        exact kept
      have alive := readable.alive
      rw [named] at alive
      have under : ∀ r ∈ t, r.id = target.id → r.live = true →
          r.parentId = (edited platform dto target parent).parentId := by
        intro r hr own _
        rw [← Table.mem_rows, rows] at hr
        obtain ⟨s, -, rfl⟩ := List.mem_map.mp hr
        rw [overwritten_id] at own
        obtain ⟨stamp, written⟩ := overwrite_eq (edited platform dto target parent) w.clock s
        have present := chosen_present steps.chooses (by rw [related]; nofun)
        obtain ⟨above, given⟩ := Option.ne_none_iff_exists'.mp present
        have here : s.id = (edited platform dto target parent).id := own
        rw [overwritten, if_pos here, written]
        simp [CategoryService.written, edited, given, CategoryEntity.parentId]
      rcases wrote with ⟨w₃, done, out⟩ | ⟨missing, -⟩
      · intro entry mem faithful
        rw [out] at mem ⊢
        obtain ⟨mem, uncleared⟩ := published_left done mem
        have old : entry ∈ w.cache :=
          (steps.finds.cache mem).resolve_left fun own => uncleared (.inl (congrArg Prod.fst own))
        rw [published_db done]
        unfold withCategories
        rw [steps.finds.db]
        exact faithful.category_write sound elsewhere alive under
          fun owned => unseen entry old owned uncleared
      · exact absurd missing (published_of_audited audited _ _)

theorem remove_carries {now : Timestamp} (sound : Sound w.db)
    (owned : uuidIn tenantId = some tenant)
    (coherent : w.Coherent platform asksCategories asksProducts tenant)
    (unseen : CategoryOp.Unseen platform tenant ⟨context, tenantId, now, .remove id⟩ w) :
    Carries platform asksCategories asksProducts tenant w
      ((remove context tenantId id).runs w).2 := by
  rcases remove_cases context tenantId id w with
    ⟨-, same | ⟨target, finds⟩⟩ | ⟨target, w₁, w₂, steps, wrote⟩
  · exact carries_of_db (by rw [same])
  · exact carries_of_db finds.db
  · obtain ⟨audited, unseen⟩ := unseen target w₁ w₂ steps
    obtain ⟨row, readable, related⟩ := steps.finds.related owned coherent
    have named : row.id = target.id := by rw [related]; rfl
    obtain ⟨t₁, t, rows₁, rows, rfl⟩ := softRemove_ok steps.removes
    have lists : ListsChildren target w₁.db := by
      rw [steps.finds.db, related]
      exact lists_related w.db row
    have unlinked : t₁.rows = w.db.categories.rows := by
      rw [rows₁, steps.finds.db]
      refine (List.map_congr_left fun r hr => ?_).trans (List.map_id _)
      rw [steps.finds.db] at lists
      exact relinked_of_lists lists _ ⟨r, hr, rfl⟩
    rw [unlinked] at rows
    have elsewhere : t.only (·.id != target.id) = w.db.categories.only (·.id != target.id) := by
      refine Table.only_of_map rows (fun r _ => ?_) fun r _ other => ?_
      · split <;> rfl
      · rw [if_neg (by simpa using other)]
    have alive := readable.alive
    rw [named] at alive
    have under : ∀ r ∈ t, r.id = target.id → r.live = true → r.parentId = none := by
      intro r hr own live
      rw [← Table.mem_rows, rows] at hr
      obtain ⟨s, -, rfl⟩ := List.mem_map.mp hr
      split at live
      · cases live
      · rename_i other
        rw [if_neg other] at own
        exact absurd own other
    rcases wrote with ⟨w₃, done, out⟩ | ⟨missing, -⟩
    · intro entry mem faithful
      rw [out] at mem ⊢
      obtain ⟨mem, uncleared⟩ := published_left done mem
      have old : entry ∈ w.cache :=
        (steps.finds.cache mem).resolve_left fun own => uncleared (.inl (congrArg Prod.fst own))
      rw [published_db done]
      unfold withCategories
      rw [steps.finds.db]
      exact faithful.category_write sound elsewhere alive under
        fun owned => unseen entry old owned uncleared
    · exact absurd missing (published_of_audited audited _ _)

end CategoryService

/-! ### Products -/

namespace ProductService

variable {context : Option AuditContextData} {tenantId id : String} {product : ProductEntity}
  {now : Timestamp}

theorem published_left {input : AuditEventInput}
    (h : published context input tenantId id w = some w') {entry : String × Cached}
    (mem : entry ∈ w'.cache) : entry ∈ w.cache ∧
      ¬ (entry.1 = CacheKeys.product tenantId id ∨ CacheKeys.ProductLists tenantId entry.1) := by
  unfold published at h
  cases he : AuditService.event? context input with
  | none =>
      rw [he] at h
      cases h
  | some event =>
      rw [he] at h
      cases h
      obtain ⟨mem, products⟩ := List.mem_filter.mp mem
      obtain ⟨mem, own⟩ := List.mem_filter.mp mem
      refine ⟨mem, ?_⟩
      simp only [Bool.not_eq_true', beq_eq_false_iff_ne] at products own
      simp [CacheKeys.ProductLists, products, own]

theorem published_of_audited (audited : AuditService.Audited context) (input : AuditEventInput)
    (w : World) : published context input tenantId id w ≠ none := by
  obtain ⟨event, recorded⟩ := AuditService.event?_of_audited audited input
  unfold published
  rw [recorded]
  nofun

/-- A coherent cache answers with the stored product and its relations. -/
theorem Finds.related {w₁ : World} (finds : Finds tenantId id w product w₁)
    (owned : uuidIn tenantId = some tenant)
    (coherent : w.Coherent platform asksCategories asksProducts tenant) :
    ∃ row, Readable w.db tenantId id row ∧ product = ProductEntity.related w.db row := by
  have given : (oneView tenantId id).Gives w.db product := by
    rcases finds.source with hit | read
    · obtain ⟨value, found, wrapped⟩ := Option.bind_eq_some_iff.mp hit
      have same : value = .product product := by
        cases value <;> cases wrapped
        rfl
      subst same
      exact coherent.of_cached found tenantId id owned rfl
    · exact ⟨w.ties 0, w, rfl, read⟩
  obtain ⟨ties, v, same, read⟩ := given
  obtain ⟨row, readable, related⟩ := readOne_ok.mp (orMissing_eq_ok.mp read)
  rw [same] at readable related
  exact ⟨row, readable, related⟩

theorem lists_related (db : Database) (row : Product) :
    ListsVariants (ProductEntity.related db row) db where
  complete := by
    refine List.filter_eq_nil_iff.mpr fun v mem => ?_
    simpa [ProductEntity.related] using ⟨v, mem, rfl⟩
  stored v mem := by
    obtain ⟨listed, unbound⟩ := List.mem_filter.mp mem
    have other := List.all_eq_true.mp unbound v listed
    simp at other

/-- What announcing leaves in the cache was there before and is no list of products. -/
theorem announced_left {input : AuditEventInput}
    (h : announced context input tenantId w = some w') {entry : String × Cached}
    (mem : entry ∈ w'.cache) : entry ∈ w.cache ∧
      ¬ CacheKeys.ProductLists tenantId entry.1 := by
  unfold announced at h
  cases he : AuditService.event? context input with
  | none =>
      rw [he] at h
      cases h
  | some event =>
      rw [he] at h
      cases h
      obtain ⟨mem, products⟩ := List.mem_filter.mp mem
      refine ⟨mem, ?_⟩
      simpa [CacheKeys.ProductLists] using products

/-- A save that makes of the row what is stored changes nothing. -/
theorem save_unchanged {draft : Draft} {saved : ProductEntity} (h : save draft w = .ok (saved, w'))
    (lists : ListsVariants draft.entity w.db)
    (unchanged : ∀ row ∈ w.db.products, row.id = draft.entity.id →
      overwrite draft w.clock row = .ok row)
    (stored : ∃ row ∈ w.db.products, row.id = draft.entity.id) : w' = w := by
  obtain ⟨row, t, v, -, wrote, -, vrows, rfl⟩ := save_ok h
  obtain rfl := variants_of_lists lists vrows
  obtain ⟨own, mem, named⟩ := stored
  have same : t = w.db.products := by
    rcases wrote with ⟨absent, -⟩ | ⟨found, hf, here, written, rows⟩
    · exact absurd named (absent own mem)
    · refine Table.rows_inj (rows.trans ((List.map_congr_left fun r hr => ?_).trans
        (List.map_id _)))
      split
      · rename_i here'
        have alike := unchanged r hr here'
        rw [Table.eq_of_id hr hf (here'.trans here.symm)] at alike ⊢
        exact Except.ok.inj (written.symm.trans alike)
      · rfl
  rw [same]
  rfl

theorem create_carries {dto : CreateProductDto}
    (unseen : ProductOp.Unseen tenant ⟨context, tenantId, now, .create dto⟩ w) :
    Carries platform asksCategories asksProducts tenant w
      ((create context tenantId dto).runs w).2 := by
  rcases create_cases context tenantId dto w with
    ⟨-, looked⟩ | ⟨category, w₁, product, w₂, steps, ends⟩
  · exact carries_of_db looked.db
  · have unseen := unseen category w₁ product w₂ steps
    obtain ⟨owner, place, active, t, -, -, fresh, named, rows, rfl⟩ := insert_ok steps.inserts
    rw [steps.finds.db] at rows
    have elsewhere : t.only (·.id != product.id) = w.db.products.only (·.id != product.id) := by
      refine Table.rows_inj ?_
      rw [Table.rows_only, Table.rows_only, rows, List.filter_append, named]
      simp [insertedRow, ProductEntity.plain]
    have db : (withProducts w₁ t).db = { w.db with products := t } := by
      unfold withProducts
      rw [steps.finds.db]
    have carried : ∀ entry ∈ w₁.cache, ¬ (AuditService.Audited context ∧
        CacheKeys.ProductLists tenantId entry.1) →
        Faithful platform asksCategories asksProducts tenant w.db entry.1 entry.2 →
        Faithful platform asksCategories asksProducts tenant { w.db with products := t }
          entry.1 entry.2 := by
      intro entry mem uncleared faithful
      refine faithful.product_write elsewhere fun owned => ?_
      rcases steps.finds.cache mem with rfl | old
      · exact fun shows => shows
      · exact unseen entry old owned uncleared
    cases ends' : announced context (createAudit dto product) tenantId
        { withProducts w₁ t with ids := fun n => w₁.ids (n + 1) } with
    | none =>
        rw [ends'] at ends
        cases ends with
        | unaudited out =>
            intro entry mem faithful
            rw [out] at mem ⊢
            change Faithful _ _ _ _ (withProducts w₁ t).db _ _
            rw [db]
            refine carried entry mem (fun cleared => ?_) faithful
            obtain ⟨event, recorded⟩ := AuditService.event?_of_audited cleared.1
              (createAudit dto product)
            unfold announced at ends'
            rw [recorded] at ends'
            cases ends'
    | some w₃ =>
        rw [ends'] at ends
        cases ends with
        | done out =>
            intro entry mem faithful
            rw [out] at mem ⊢
            rw [(announced_db ends').1]
            change Faithful _ _ _ _ (withProducts w₁ t).db _ _
            rw [db]
            obtain ⟨mem, unlisted⟩ := announced_left ends' mem
            exact carried entry mem (fun cleared => unlisted cleared.2) faithful

theorem update_carries {dto : UpdateProductDto} (owned : uuidIn tenantId = some tenant)
    (coherent : w.Coherent platform asksCategories asksProducts tenant)
    (unseen : ProductOp.Unseen tenant ⟨context, tenantId, now, .update id dto⟩ w) :
    Carries platform asksCategories asksProducts tenant w
      ((update context tenantId id dto).runs w).2 := by
  rcases update_cases context tenantId id dto w with
    ⟨-, looked⟩ | ⟨product, w₁, w₂, saved, w₃, steps, ends⟩
  · exact carries_of_db looked.db
  · have unseen := unseen product w₁ w₂ saved w₃ steps
    obtain ⟨row, readable, related⟩ := steps.finds.related owned coherent
    have db₂ : w₂.db = w.db := by
      cases steps.names with
      | nothing _ => exact steps.finds.db
      | category _ finds => exact finds.db.trans steps.finds.db
    have clock₂ : w₂.clock = w.clock := by
      cases steps.names with
      | nothing _ => exact steps.finds.clock
      | category _ finds => exact finds.clock.trans steps.finds.clock
    have lists : ListsVariants (patched dto product).entity w₂.db := by
      have listed := lists_related w.db row
      rw [db₂]
      rw [← related] at listed
      exact ⟨listed.complete, listed.stored⟩
    rcases unseen with unchanged | ⟨audited, unseen⟩
    · have kept : w₃.db = w.db := by
        rw [save_unchanged steps.saves lists (by rw [db₂, clock₂]; exact unchanged)
          ⟨row, by rw [db₂]; exact readable.stored, by rw [related]; rfl⟩]
        exact db₂
      refine carries_of_db ?_
      exact ends.kept (P := fun w' => w'.db = w.db) kept
        fun w₄ done => (published_db done).1.trans kept
    · obtain ⟨t, elsewhere, rfl⟩ := save_own steps.saves lists
      rw [db₂] at elsewhere
      have left : ∀ entry ∈ w₂.cache, entry.1 ≠ CacheKeys.product tenantId id →
          entry ∈ w.cache ∨ ∃ e, entry.2 = .category e := by
        intro entry mem other
        have first : ∀ entry ∈ w₁.cache, entry.1 ≠ CacheKeys.product tenantId id →
            entry ∈ w.cache := fun entry mem other =>
          (steps.finds.cache mem).resolve_left fun own => other (congrArg Prod.fst own)
        cases steps.names with
        | nothing _ => exact .inl (first entry mem other)
        | category _ finds =>
            rcases finds.cache mem with rfl | old
            · exact .inr ⟨_, rfl⟩
            · exact .inl (first entry old other)
      cases published' : published context (updateAudit product saved) tenantId id
          (withProducts w₂ t) with
      | none => exact absurd published' (published_of_audited audited _ _)
      | some w₄ =>
          rw [published'] at ends
          cases ends with
          | done out =>
              intro entry mem faithful
              rw [out] at mem ⊢
              rw [(published_db published').1]
              unfold withProducts
              rw [db₂]
              obtain ⟨mem, uncleared⟩ := published_left published' mem
              refine faithful.product_write (x := product.id) elsewhere fun owned => ?_
              rcases left entry mem fun own => uncleared (.inl own) with old | ⟨e, copied⟩
              · exact unseen entry old owned uncleared
              · rw [copied]
                exact fun shows => shows

theorem remove_carries (owned : uuidIn tenantId = some tenant)
    (coherent : w.Coherent platform asksCategories asksProducts tenant)
    (unseen : ProductOp.Unseen tenant ⟨context, tenantId, now, .remove id⟩ w) :
    Carries platform asksCategories asksProducts tenant w
      ((remove context tenantId id).runs w).2 := by
  rcases remove_cases context tenantId id w with
    ⟨-, looked⟩ | ⟨product, w₁, w₂, steps, ends⟩
  · exact carries_of_db looked.db
  · obtain ⟨audited, unseen⟩ := unseen product w₁ w₂ steps
    obtain ⟨row, readable, related⟩ := steps.finds.related owned coherent
    obtain ⟨t, v, rows, -, vrows, rfl⟩ := softRemove_ok steps.removes
    have lists : ListsVariants product w₁.db := by
      rw [steps.finds.db, related]
      exact lists_related w.db row
    obtain rfl := variants_of_lists lists vrows
    have elsewhere : t.only (·.id != product.id) = w.db.products.only (·.id != product.id) := by
      rw [steps.finds.db] at rows
      refine Table.only_of_map rows (fun r _ => ?_) fun r _ other => ?_
      · split <;> rfl
      · rw [if_neg (by simpa using other)]
    have same : withProducts (withVariants w₁ w₁.db.variants) t = withProducts w₁ t := rfl
    rw [same] at ends
    cases published' : published context (removeAudit product) tenantId id
        (withProducts w₁ t) with
    | none => exact absurd published' (published_of_audited audited _ _)
    | some w₃ =>
        rw [published'] at ends
        cases ends with
        | done out =>
            intro entry mem faithful
            rw [out] at mem ⊢
            rw [(published_db published').1]
            unfold withProducts
            rw [steps.finds.db]
            obtain ⟨mem, uncleared⟩ := published_left published' mem
            have old : entry ∈ w.cache := (steps.finds.cache mem).resolve_left
              fun own => uncleared (.inl (congrArg Prod.fst own))
            exact faithful.product_write (x := product.id) elsewhere
              fun owned => unseen entry old owned uncleared

end ProductService

/-! ### Variants -/

namespace VariantService

variable {context : Option AuditContextData} {tenantId productId variantId : String}
  {now : Timestamp}

theorem create_carries {dto : CreateVariantDto}
    (unseen : VariantOp.Unseen tenant ⟨context, tenantId, now, .create productId dto⟩ w) :
    Carries platform asksCategories asksProducts tenant w
      ((create context tenantId productId dto).runs w).2 := by
  rcases create_cases context tenantId productId dto w with
    ⟨-, same⟩ | ⟨product, saved, w₁, steps, ends⟩
  · exact carries_of_db (by rw [same])
  · have unseen := unseen product saved w₁ steps
    obtain ⟨owner, place, t, -, placed, -, named, rows, rfl⟩ := insert_ok steps.inserts
    obtain ⟨-, here, -, -⟩ := readProduct_ok steps.finds
    obtain rfl : product.id = place := Option.some.inj (here.symm.trans placed)
    have elsewhere : t.only (·.productId != product.id) =
        w.db.variants.only (·.productId != product.id) := by
      refine Table.rows_inj ?_
      rw [Table.rows_only, Table.rows_only, rows, List.filter_append, named]
      simp [insertedRow]
    refine ends.kept (P := fun w' => Carries platform asksCategories asksProducts tenant w w')
      (fun entry mem faithful => ?_) fun w₂ done entry mem faithful => ?_
    · exact faithful.variant_write elsewhere fun owned => unseen entry mem owned not_false
    · obtain ⟨db, cache⟩ := recorded_db done
      rw [db]
      rw [cache] at mem
      exact faithful.variant_write elsewhere fun owned => unseen entry mem owned not_false

/-- The variants of other products, after a change of one variant that keeps its product. -/
theorem only_of_changed {t : Table ProductVariant} {variant : ProductVariant}
    {g : ProductVariant → ProductVariant} (stored : variant ∈ w.db.variants)
    (rows : t.rows = w.db.variants.rows.map fun v => if v.id = variant.id then g v else v)
    (placed : (g variant).productId = variant.productId) :
    t.only (·.productId != variant.productId) =
      w.db.variants.only (·.productId != variant.productId) := by
  refine Table.only_of_map rows (fun r hr => ?_) fun r hr other => ?_
  · split
    · rename_i same
      rw [Table.eq_of_id hr stored same, placed]
    · rfl
  · refine if_neg fun same => ?_
    rw [Table.eq_of_id hr stored same] at other
    simp at other

theorem update_carries {dto : UpdateVariantDto}
    (unseen : VariantOp.Unseen tenant ⟨context, tenantId, now,
      .update productId variantId dto⟩ w) :
    Carries platform asksCategories asksProducts tenant w
      ((update context tenantId productId variantId dto).runs w).2 := by
  rcases update_cases context tenantId productId variantId dto w with
    ⟨-, same⟩ | ⟨variant, saved, w₁, steps, ends⟩
  · exact carries_of_db (by rw [same])
  · have unseen := unseen variant saved w₁ steps
    obtain ⟨-, -, mem⟩ := readOne_ok steps.finds
    obtain ⟨stored, hs, here, written, t, rows, rfl⟩ := save_ok steps.saves
    obtain rfl : stored = variant := Table.eq_of_id hs mem here
    rcases unseen with unchanged | unseen
    · obtain rfl : stored = saved := Except.ok.inj (unchanged.symm.trans written)
      have same : t = w.db.variants := by
        refine Table.rows_inj (rows.trans ((List.map_congr_left fun v hv => ?_).trans
          (List.map_id _)))
        split
        · rename_i own
          exact (Table.eq_of_id hv hs own).symm
        · rfl
      have kept : (withVariants w t).db = w.db := by
        rw [same]
        rfl
      refine carries_of_db ?_
      exact ends.kept (P := fun w' => w'.db = w.db) kept
        fun w₂ done => (recorded_db done).1.trans kept
    · obtain ⟨price, attributes, stamp, -, -, made⟩ := overwrite_ok written
      have elsewhere := only_of_changed (g := fun _ => saved) hs rows
        (by rw [made]; rfl)
      refine ends.kept (P := fun w' => Carries platform asksCategories asksProducts tenant w w')
        (fun entry mem faithful => ?_) fun w₂ done entry mem faithful => ?_
      · exact faithful.variant_write elsewhere fun owned => unseen entry mem owned not_false
      · obtain ⟨db, cache⟩ := recorded_db done
        rw [db]
        rw [cache] at mem
        exact faithful.variant_write elsewhere fun owned => unseen entry mem owned not_false

theorem remove_carries
    (unseen : VariantOp.Unseen tenant ⟨context, tenantId, now, .remove productId variantId⟩ w) :
    Carries platform asksCategories asksProducts tenant w
      ((remove context tenantId productId variantId).runs w).2 := by
  rcases remove_cases context tenantId productId variantId w with
    ⟨-, same⟩ | ⟨variant, w₁, steps, ends⟩
  · exact carries_of_db (by rw [same])
  · have unseen := unseen variant w₁ steps
    obtain ⟨-, -, stored⟩ := readOne_ok steps.finds
    obtain ⟨t, rows, rfl⟩ := softRemove_ok steps.removes
    have elsewhere := only_of_changed (g := fun row =>
      { row with deletedAt := some w.clock, updatedAt := w.clock }) stored rows rfl
    refine ends.kept (P := fun w' => Carries platform asksCategories asksProducts tenant w w')
      (fun entry mem faithful => ?_) fun w₂ done entry mem faithful => ?_
    · exact faithful.variant_write elsewhere fun owned => unseen entry mem owned not_false
    · obtain ⟨db, cache⟩ := recorded_db done
      rw [db]
      rw [cache] at mem
      exact faithful.variant_write elsewhere fun owned => unseen entry mem owned not_false

end VariantService

/-! ### Calls -/

theorem CatalogOp.act_carries (request : Request CatalogOp) (sound : Sound w.db)
    (owned : uuidIn request.tenantId = some tenant)
    (coherent : w.Coherent platform asksCategories asksProducts tenant)
    (unseen : CatalogOp.Unseen platform tenant request w) :
    Carries platform asksCategories asksProducts tenant w (CatalogOp.act platform request w) := by
  obtain ⟨context, tenantId, now, op⟩ := request
  cases op with
  | category op =>
      cases op with
      | create dto => exact CategoryService.create_carries sound unseen
      | update id dto => exact CategoryService.update_carries sound owned coherent unseen
      | remove id => exact CategoryService.remove_carries sound owned coherent unseen
      | findOne id =>
          refine carries_of_db ?_
          simp only [CatalogOp.act, CategoryOp.act, CategoryService.runs_findOne]
          exact CacheAside.answer_db w
      | findAll query =>
          refine carries_of_db ?_
          simp only [CatalogOp.act, CategoryOp.act, CategoryService.runs_findAll]
          exact CacheAside.answer_db w
      | findTree =>
          refine carries_of_db ?_
          simp only [CatalogOp.act, CategoryOp.act, CategoryService.runs_findTree]
          exact CacheAside.answer_db w
  | product op =>
      cases op with
      | create dto => exact ProductService.create_carries unseen
      | update id dto => exact ProductService.update_carries owned coherent unseen
      | remove id => exact ProductService.remove_carries owned coherent unseen
      | findOne id =>
          refine carries_of_db ?_
          simp only [CatalogOp.act, ProductOp.act, ProductService.runs_findOne]
          exact CacheAside.answer_db w
      | findAll query =>
          refine carries_of_db ?_
          simp only [CatalogOp.act, ProductOp.act, ProductService.runs_findAll]
          exact CacheAside.answer_db w
  | variant op =>
      cases op with
      | create productId dto => exact VariantService.create_carries unseen
      | update productId variantId dto => exact VariantService.update_carries unseen
      | remove productId variantId => exact VariantService.remove_carries unseen
      | findOne productId variantId =>
          refine carries_of_db ?_
          simp only [CatalogOp.act, VariantOp.act, VariantService.runs_findOne]
      | findOneById variantId =>
          refine carries_of_db ?_
          simp only [CatalogOp.act, VariantOp.act, VariantService.findOneById_world]
      | findAll productId query =>
          refine carries_of_db ?_
          simp only [CatalogOp.act, VariantOp.act]
          rcases VariantService.findAll_world platform tenantId productId query w with same | same
          · rw [same]
          · rw [same]

/-- A call that no copy shows keeps the cache coherent. -/
theorem CatalogOp.act_coherent (digests : Digests platform asksCategories asksProducts)
    (request : Request CatalogOp) (sound : Sound w.db)
    (owned : uuidIn request.tenantId = some tenant)
    (asked : request.op.Asks asksCategories asksProducts)
    (unseen : CatalogOp.Unseen platform tenant request w)
    (coherent : w.Coherent platform asksCategories asksProducts tenant) :
    (CatalogOp.act platform request w).Coherent platform asksCategories asksProducts tenant := by
  have before := CatalogOp.act_cachedIn (faithful_fresh digests) request asked coherent
  exact fun entry mem => CatalogOp.act_carries request sound owned coherent unseen entry mem
    (before entry mem)

end Steps

/-! ## Runs -/

section Views

variable (platform : Platform) (tenantId : String)

theorem CategoryService.oneView_tables (id : String) : (oneView tenantId id).ReadsTables := by
  intro ties w w' same
  simp only [oneView, readOne, same]

theorem CategoryService.pageView_tables (query : CategoryQueryDto) :
    (pageView platform tenantId query).ReadsTables := by
  intro ties w w' same
  simp only [pageView, readPage, same]

theorem CategoryService.treeView_tables : (treeView platform tenantId).ReadsTables := by
  intro ties w w' same
  simp only [treeView, readTree, same]

theorem ProductService.oneView_tables (id : String) : (oneView tenantId id).ReadsTables := by
  intro ties w w' same
  simp only [oneView, readOne, same]

theorem ProductService.pageView_tables (query : ProductQueryDto) :
    (pageView platform tenantId query).ReadsTables := by
  intro ties w w' same
  simp only [pageView, readPage, same]

end Views

/-- The call answers as it would on these tables without a cache, for some ranking of
rows with equal sort keys. -/
def CatalogOp.ReadsThrough (platform : Platform) (request : Request CatalogOp) (w : World) : Prop :=
  let tenantId := request.tenantId
  match request.op with
  | .category (.findOne id) => ∃ ties, ((CategoryService.findOne tenantId id).runs w).1 =
      ((CategoryService.findOne tenantId id).runs { w with cache := [], ties }).1
  | .category (.findAll query) => ∃ ties,
      ((CategoryService.findAll platform tenantId query).runs w).1 =
        ((CategoryService.findAll platform tenantId query).runs { w with cache := [], ties }).1
  | .category .findTree => ∃ ties, ((CategoryService.findTree platform tenantId).runs w).1 =
      ((CategoryService.findTree platform tenantId).runs { w with cache := [], ties }).1
  | .product (.findOne id) => ∃ ties, ((ProductService.findOne tenantId id).runs w).1 =
      ((ProductService.findOne tenantId id).runs { w with cache := [], ties }).1
  | .product (.findAll query) => ∃ ties,
      ((ProductService.findAll platform tenantId query).runs w).1 =
        ((ProductService.findAll platform tenantId query).runs { w with cache := [], ties }).1
  | _ => True

/-- The calls of a run: for one tenant, with queries that are asked. -/
structure CatalogOp.For (tenant : Uuid) (asksCategories : CategoryQueryDto → Prop)
    (asksProducts : ProductQueryDto → Prop) (request : Request CatalogOp) : Prop where
  owned : uuidIn request.tenantId = some tenant
  asked : request.op.Asks asksCategories asksProducts

/-- In every run of a tenant's calls whose writes no copy shows, every read answers as it
would without a cache. -/
theorem cached_reads_through (platform : Platform) (asksCategories : CategoryQueryDto → Prop)
    (asksProducts : ProductQueryDto → Prop)
    (digests : Digests platform asksCategories asksProducts) (tenant : Uuid) (start w : World)
    (sound : Sound start.db)
    (initial : start.Coherent platform asksCategories asksProducts tenant)
    (reached : Request.Reached (CatalogOp.act platform) (fun request w =>
      CatalogOp.For tenant asksCategories asksProducts request ∧
        CatalogOp.Unseen platform tenant request w) start w)
    (request : Request CatalogOp)
    (own : CatalogOp.For tenant asksCategories asksProducts request) :
    CatalogOp.ReadsThrough platform request (request.arrive w) := by
  have both : Sound w.db ∧ w.Coherent platform asksCategories asksProducts tenant := by
    refine reached.invariant (I := fun w => Sound w.db ∧
      w.Coherent platform asksCategories asksProducts tenant) ⟨sound, initial⟩
        (fun _ _ h => h) ?_
    rintro request w ⟨sound, coherent⟩ ⟨own, unseen⟩
    refine ⟨(CatalogOp.act_tracks request ⟨sound, IdsKept.refl w.db⟩).1, ?_⟩
    exact CatalogOp.act_coherent digests request sound own.owned own.asked unseen coherent
  obtain ⟨-, coherent⟩ := both
  obtain ⟨context, tenantId, now, op⟩ := request
  obtain ⟨owned, asked⟩ := own
  cases op with
  | category op =>
      cases op with
      | findOne id =>
          simp only [CatalogOp.ReadsThrough, CategoryService.runs_findOne]
          refine CacheAside.answer_uncached (CategoryService.oneView_tables tenantId id) ?_
          intro a hit
          obtain ⟨value, found, wrapped⟩ := Option.bind_eq_some_iff.mp hit
          have faithful := coherent.of_cached found
          cases value <;> cases wrapped
          exact faithful tenantId id owned rfl
      | findAll query =>
          simp only [CatalogOp.ReadsThrough, CategoryService.runs_findAll]
          refine CacheAside.answer_uncached
            (CategoryService.pageView_tables platform tenantId query) ?_
          intro a hit
          obtain ⟨value, found, wrapped⟩ := Option.bind_eq_some_iff.mp hit
          have faithful := coherent.of_cached found
          cases value <;> cases wrapped
          exact faithful tenantId query owned asked rfl
      | findTree =>
          simp only [CatalogOp.ReadsThrough, CategoryService.runs_findTree]
          refine CacheAside.answer_uncached (CategoryService.treeView_tables platform tenantId) ?_
          intro a hit
          obtain ⟨value, found, wrapped⟩ := Option.bind_eq_some_iff.mp hit
          have faithful := coherent.of_cached found
          cases value <;> cases wrapped
          exact faithful tenantId owned rfl
      | create dto => trivial
      | update id dto => trivial
      | remove id => trivial
  | product op =>
      cases op with
      | findOne id =>
          simp only [CatalogOp.ReadsThrough, ProductService.runs_findOne]
          refine CacheAside.answer_uncached (ProductService.oneView_tables tenantId id) ?_
          intro a hit
          obtain ⟨value, found, wrapped⟩ := Option.bind_eq_some_iff.mp hit
          have faithful := coherent.of_cached found
          cases value <;> cases wrapped
          exact faithful tenantId id owned rfl
      | findAll query =>
          simp only [CatalogOp.ReadsThrough, ProductService.runs_findAll]
          refine CacheAside.answer_uncached
            (ProductService.pageView_tables platform tenantId query) ?_
          intro a hit
          obtain ⟨value, found, wrapped⟩ := Option.bind_eq_some_iff.mp hit
          have faithful := coherent.of_cached found
          cases value <;> cases wrapped
          exact faithful tenantId query owned asked rfl
      | create dto => trivial
      | update id dto => trivial
      | remove id => trivial
  | variant op => trivial

open SampleShop

namespace SampleShop

def findShirt (now : Timestamp) : Request CatalogOp :=
  shopRequest now (.product (.findOne (uuidOut productId)))

def addRed : Request CatalogOp :=
  shopRequest 3 (.variant (.create (uuidOut productId) ⟨"TSH-RED-M", 20, .undefined⟩))

/-- The shop with its product in the cache. -/
def shirtCached : World :=
  CatalogOp.act plainText (findShirt 2) ((findShirt 2).arrive (world unstocked))

/-- Nobody asks for a list. -/
abbrev ForShop (request : Request CatalogOp) : Prop :=
  CatalogOp.For tenantId (fun _ => False) (fun _ => False) request

theorem shop_owned (now : Timestamp) (op : CatalogOp) :
    uuidIn (shopRequest now op).tenantId = some tenantId := uuidIn_uuidOut tenantId

/-- The pages of two lists that are asked. -/
def shirtsPage (n : ℕ) : ProductQueryDto :=
  ⟨some n, some 1, none, none, none, some .name, some .asc⟩

def categoriesPage (n : ℕ) : CategoryQueryDto :=
  ⟨some n, some 1, none, none, none, some .name, some .asc⟩

def AsksCategories (query : CategoryQueryDto) : Prop := ∃ n, query = categoriesPage n

def AsksProducts (query : ProductQueryDto) : Prop := ∃ n, query = shirtsPage n

theorem browsing_digests : Digests paging AsksCategories AsksProducts where
  categories := by
    rintro _ _ ⟨m, rfl⟩ ⟨n, rfl⟩ same
    obtain rfl := pageDigest_inj same
    rfl
  products := by
    rintro _ _ ⟨m, rfl⟩ ⟨n, rfl⟩ same
    obtain rfl := pageDigest_inj same
    rfl

def listShirts (n : ℕ) : CatalogOp := .product (.findAll (shirtsPage n))

def listCategories (n : ℕ) : CatalogOp := .category (.findAll (categoriesPage n))

def renameShirt : CatalogOp :=
  .product (.update (uuidOut productId)
    ⟨.value "Tee", .undefined, .undefined, .undefined, .undefined⟩)

def addHats : CatalogOp := .category (.create ⟨"Hats", .undefined, .undefined⟩)

def after (w : World) (now : Timestamp) (op : CatalogOp) : World :=
  CatalogOp.act paging (shopRequest now op) ((shopRequest now op).arrive w)

/-- The shirt and two pages of products are in the cache. -/
def browsed : World :=
  after (after (after (world unstocked) 2 (.product (.findOne (uuidOut productId)))) 3
    (listShirts 1)) 4 (listShirts 2)

/-- The shirt has another name, and a page of categories is in the cache. -/
def relisted : World := after (after browsed 5 renameShirt) 6 (listCategories 1)

def withHats : World := after relisted 7 addHats

theorem shop_audited : AuditService.Audited (some context) :=
  ⟨context, uuidOut tenantId, rfl, rfl, by decide⟩

theorem browsed_cleared : ∀ entry ∈ browsed.cache,
    entry.1 = CacheKeys.product (uuidOut tenantId) (uuidOut productId) ∨
      CacheService.glob (CacheKeys.productsPattern (uuidOut tenantId)) entry.1 = true := by
  decide +kernel

theorem relisted_cleared : ∀ entry ∈ relisted.cache,
    CacheService.glob (CacheKeys.categoriesPattern (uuidOut tenantId)) entry.1 = true := by
  decide +kernel

/-- The states of a run of the shop that meets the condition. -/
abbrev Browsed : World → Prop :=
  Request.Reached (CatalogOp.act paging) (fun request w =>
    CatalogOp.For tenantId AsksCategories AsksProducts request ∧
      CatalogOp.Unseen paging tenantId request w) (world unstocked)

theorem Browsed.after {w : World} (browsed : Browsed w) (now : Timestamp) (op : CatalogOp)
    (asked : op.Asks AsksCategories AsksProducts)
    (unseen : CatalogOp.Unseen paging tenantId (shopRequest now op)
      ((shopRequest now op).arrive w)) : Browsed (after w now op) :=
  .serve (shopRequest now op) browsed ⟨⟨shop_owned now op, asked⟩, unseen⟩

theorem browsed_reached : Browsed browsed := by
  have found : Browsed _ := Browsed.after .start 2 (.product (.findOne (uuidOut productId)))
    trivial trivial
  have listed : Browsed _ := found.after 3 (listShirts 1) ⟨1, rfl⟩ trivial
  exact listed.after 4 (listShirts 2) ⟨2, rfl⟩ trivial

theorem relisted_reached : Browsed relisted := by
  have written : Browsed _ := browsed_reached.after 5 renameShirt trivial
    fun _ _ _ _ _ _ => .inr ⟨shop_audited, fun entry mem _ kept =>
      (kept (browsed_cleared entry mem)).elim⟩
  exact written.after 6 (listCategories 1) ⟨1, rfl⟩ trivial

/-- Each of the two writes clears everything that is cached when it begins. -/
theorem withHats_reached : Browsed withHats :=
  relisted_reached.after 7 addHats trivial fun _ _ _ _ entry mem _ kept =>
    (kept ⟨shop_audited, .inl (relisted_cleared entry mem)⟩).elim

end SampleShop

/-- After a renaming and a creation, the product and the lists are read as without a cache. -/
theorem cached_reads_through_renamed :
    withHats.db.products.rows.map (·.name) = ["Tee"] ∧
    withHats.db.categories.rows.map (·.name) = ["Shirts", "Hats"] ∧
    ∀ op ∈ [.product (.findOne (uuidOut productId)), listShirts 1, listShirts 2,
        listCategories 1, listCategories 2],
      CatalogOp.ReadsThrough paging (shopRequest 8 op) ((shopRequest 8 op).arrive withHats) := by
  refine ⟨by decide +kernel, by decide +kernel, fun op mem => ?_⟩
  refine cached_reads_through paging AsksCategories AsksProducts browsing_digests tenantId
    (world unstocked) withHats unstocked_sound (fun _ mem => (nomatch mem)) withHats_reached _
    ⟨shop_owned 8 _, ?_⟩
  simp only [List.mem_cons, List.not_mem_nil, or_false] at mem
  obtain rfl | rfl | rfl | rfl | rfl := mem
  · trivial
  · exact ⟨1, rfl⟩
  · exact ⟨2, rfl⟩
  · exact ⟨1, rfl⟩
  · exact ⟨2, rfl⟩

/-- The shirt is cached and gets another variant: the cached shirt has one. -/
theorem added_variant_not_shown :
    ∃ w, Request.Reached (CatalogOp.act plainText) (fun request _ => ForShop request)
        (world unstocked) w ∧
      ¬ CatalogOp.ReadsThrough plainText (findShirt 4) ((findShirt 4).arrive w) := by
  refine ⟨CatalogOp.act plainText addRed (addRed.arrive shirtCached),
    .serve addRed (.serve (findShirt 2) .start ⟨shop_owned 2 _, trivial⟩)
      ⟨shop_owned 3 _, trivial⟩,
    fun through => ?_⟩
  obtain ⟨ties, same⟩ := through
  rw [ProductService.runs_findOne, ProductService.runs_findOne] at same
  have shown : ∀ out : Except Err ProductEntity, out = ((ProductService.oneView (uuidOut tenantId)
      (uuidOut productId)).answer ((findShirt 4).arrive
        (CatalogOp.act plainText addRed (addRed.arrive shirtCached)))).1 →
      out.map (fun product => product.variants.map List.length) = .ok (some 1) := by
    rintro _ rfl
    decide
  have stored : ((ProductService.oneView (uuidOut tenantId) (uuidOut productId)).answer
      { (findShirt 4).arrive (CatalogOp.act plainText addRed (addRed.arrive shirtCached)) with
        cache := [], ties }).1.map (fun product => product.variants.map List.length) =
      .ok (some 2) := rfl
  have both := (shown _ same.symm).symm.trans stored
  cases both

end Tenantory
