import Tenantory.ProductWrites
import Tenantory.VariantRuns

/-! What the operations of the catalog leave in the cache: objects that were there and
objects that they read afresh. -/

namespace Tenantory

open World

/-- What the reading functions of the catalog put into the cache has a property, for
these tables and for queries that are asked. -/
structure FreshIn (platform : Platform) (db : Database) (asksCategories : CategoryQueryDto → Prop)
    (asksProducts : ProductQueryDto → Prop) (P : String → Cached → Prop) : Prop where
  category : ∀ tenantId id ties w target, w.db = db →
    (CategoryService.oneView tenantId id).fresh ties w = .ok target →
      P (CacheKeys.category tenantId id) (.category target)
  categories : ∀ tenantId query ties w page, asksCategories query → w.db = db →
    (CategoryService.pageView platform tenantId query).fresh ties w = .ok page →
      P (CacheKeys.categoriesList platform tenantId query.toJson) (.categoriesList page)
  tree : ∀ tenantId ties w roots, w.db = db →
    (CategoryService.treeView platform tenantId).fresh ties w = .ok roots →
      P (CacheKeys.categoriesTree tenantId) (.categoriesTree roots)
  product : ∀ tenantId id ties w product, w.db = db →
    (ProductService.oneView tenantId id).fresh ties w = .ok product →
      P (CacheKeys.product tenantId id) (.product product)
  products : ∀ tenantId query ties w page, asksProducts query → w.db = db →
    (ProductService.pageView platform tenantId query).fresh ties w = .ok page →
      P (CacheKeys.productsList platform tenantId query.toJson) (.productsList page)

/-- Whatever is asked. -/
abbrev FreshAll (platform : Platform) (db : Database) (P : String → Cached → Prop) : Prop :=
  FreshIn platform db (fun _ => True) (fun _ => True) P

/-- The query of a list call is asked. -/
def CategoryOp.Asks (asked : CategoryQueryDto → Prop) : CategoryOp → Prop
  | .findAll query => asked query
  | _ => True

def ProductOp.Asks (asked : ProductQueryDto → Prop) : ProductOp → Prop
  | .findAll query => asked query
  | _ => True

def CatalogOp.Asks (asksCategories : CategoryQueryDto → Prop)
    (asksProducts : ProductQueryDto → Prop) : CatalogOp → Prop
  | .category op => op.Asks asksCategories
  | .product op => op.Asks asksProducts
  | .variant _ => True

theorem CatalogOp.asks_all (op : CatalogOp) : op.Asks (fun _ => True) fun _ => True := by
  cases op with
  | category op => cases op <;> trivial
  | product op => cases op <;> trivial
  | variant op => trivial

variable {platform : Platform} {P : String → Cached → Prop} {w w' : World}
  {asksCategories : CategoryQueryDto → Prop} {asksProducts : ProductQueryDto → Prop}

theorem Looked.cachedAll {tenantId : String}
    (fresh : FreshIn platform w.db asksCategories asksProducts P)
    (looked : Looked tenantId w w') (all : w.CachedAll P) : w'.CachedAll P := by
  induction looked with
  | nothing => exact all
  | category looked finds ih =>
      exact finds.cachedAll ih fun read => fresh.category _ _ _ _ _ looked.db read
  | product looked finds ih =>
      exact finds.cachedAll ih fun read => fresh.product _ _ _ _ _ looked.db read

theorem CategoryOp.act_cachedAll (fresh : FreshIn platform w.db asksCategories asksProducts P)
    (request : Request CategoryOp) (asked : request.op.Asks asksCategories)
    (all : w.CachedAll P) : (CategoryOp.act platform request w).CachedAll P := by
  obtain ⟨context, tenantId, now, op⟩ := request
  cases op with
  | create dto =>
      simp only [CategoryOp.act]
      rcases CategoryService.create_cases platform context tenantId dto w with
        ⟨-, same⟩ | ⟨parent, category, w₂, steps, wrote⟩
      · rw [same]
        exact all
      · have after : w₂.CachedAll P := by
          obtain ⟨_, t, -, -, -, -, rfl⟩ := CategoryService.insert_ok steps.inserts
          exact all
        rcases wrote with ⟨event, -, out⟩ | ⟨-, out⟩
        · rw [out]
          exact (CachedAll.deleteKeys (w := { w₂ with journal := _ }) after _).deleteKeys _
        · rw [out]
          exact after
  | update id dto =>
      simp only [CategoryOp.act]
      rcases CategoryService.update_cases platform context tenantId id dto w with
        ⟨-, same | ⟨target, finds⟩⟩ | ⟨target, w₁, parent, saved, w₂, steps, wrote⟩
      · rw [same]
        exact all
      · exact Looked.cachedAll fresh (.category .nothing finds) all
      · have after : w₂.CachedAll P := by
          have looked := Looked.cachedAll fresh (.category .nothing steps.finds) all
          obtain ⟨-, -, -, -, t₁, t, -, -, rfl⟩ := CategoryService.save_ok steps.saves
          exact looked
        rcases wrote with ⟨w₃, done, out⟩ | ⟨-, out⟩
        · rw [out]
          exact after.of_subset (CategoryService.published_cache done)
        · rw [out]
          exact after
  | remove id =>
      simp only [CategoryOp.act]
      rcases CategoryService.remove_cases context tenantId id w with
        ⟨-, same | ⟨target, finds⟩⟩ | ⟨target, w₁, w₂, steps, wrote⟩
      · rw [same]
        exact all
      · exact Looked.cachedAll fresh (.category .nothing finds) all
      · have after : w₂.CachedAll P := by
          have looked := Looked.cachedAll fresh (.category .nothing steps.finds) all
          obtain ⟨t₁, t, -, -, rfl⟩ := CategoryService.softRemove_ok steps.removes
          exact looked
        rcases wrote with ⟨w₃, done, out⟩ | ⟨-, out⟩
        · rw [out]
          exact after.of_subset (CategoryService.published_cache done)
        · rw [out]
          exact after
  | findOne id =>
      simp only [CategoryOp.act, CategoryService.runs_findOne]
      exact CacheAside.answer_cachedAll all fun _ read => fresh.category _ _ _ _ _ rfl read
  | findAll query =>
      simp only [CategoryOp.act, CategoryService.runs_findAll]
      exact CacheAside.answer_cachedAll all fun _ read => fresh.categories _ _ _ _ _ asked rfl read
  | findTree =>
      simp only [CategoryOp.act, CategoryService.runs_findTree]
      exact CacheAside.answer_cachedAll all fun _ read => fresh.tree _ _ _ _ rfl read

theorem ProductOp.act_cachedAll (fresh : FreshIn platform w.db asksCategories asksProducts P)
    (request : Request ProductOp) (asked : request.op.Asks asksProducts)
    (all : w.CachedAll P) : (ProductOp.act platform request w).CachedAll P := by
  obtain ⟨context, tenantId, now, op⟩ := request
  cases op with
  | create dto =>
      simp only [ProductOp.act]
      rcases ProductService.create_cases context tenantId dto w with
        ⟨-, looked⟩ | ⟨category, w₁, product, w₂, steps, ends⟩
      · exact looked.cachedAll fresh all
      · have after : w₂.CachedAll P := by
          have looked := Looked.cachedAll fresh (.category .nothing steps.finds) all
          obtain ⟨_, _, _, t, -, -, -, -, -, rfl⟩ := ProductService.insert_ok steps.inserts
          exact looked
        exact ends.kept after fun w₃ done =>
          after.of_subset (ProductService.announced_db done).2
  | update id dto =>
      simp only [ProductOp.act]
      rcases ProductService.update_cases context tenantId id dto w with
        ⟨-, looked⟩ | ⟨product, w₁, w₂, saved, w₃, steps, ends⟩
      · exact looked.cachedAll fresh all
      · have looked : Looked tenantId w w₂ := by
          cases steps.names with
          | nothing _ => exact .product .nothing steps.finds
          | category _ category => exact .category (.product .nothing steps.finds) category
        have after : w₃.CachedAll P := by
          have before := looked.cachedAll fresh all
          obtain ⟨row, t, v, -, -, -, -, rfl⟩ := ProductService.save_ok steps.saves
          exact before
        exact ends.kept after fun w₄ done =>
          after.of_subset (ProductService.published_db done).2
  | remove id =>
      simp only [ProductOp.act]
      rcases ProductService.remove_cases context tenantId id w with
        ⟨-, looked⟩ | ⟨product, w₁, w₂, steps, ends⟩
      · exact looked.cachedAll fresh all
      · have after : w₂.CachedAll P := by
          have looked := Looked.cachedAll fresh (.product .nothing steps.finds) all
          obtain ⟨t, v, -, -, -, rfl⟩ := ProductService.softRemove_ok steps.removes
          exact looked
        exact ends.kept after fun w₃ done =>
          after.of_subset (ProductService.published_db done).2
  | findOne id =>
      simp only [ProductOp.act, ProductService.runs_findOne]
      exact CacheAside.answer_cachedAll all fun _ read => fresh.product _ _ _ _ _ rfl read
  | findAll query =>
      simp only [ProductOp.act, ProductService.runs_findAll]
      exact CacheAside.answer_cachedAll all fun _ read => fresh.products _ _ _ _ _ asked rfl read

/-- The variant service does not know the cache. -/
theorem VariantOp.act_cache (platform : Platform) (request : Request VariantOp) (w : World) :
    (VariantOp.act platform request w).cache = w.cache := by
  obtain ⟨context, tenantId, now, op⟩ := request
  cases op with
  | create productId dto =>
      simp only [VariantOp.act]
      rcases VariantService.create_cases context tenantId productId dto w with
        ⟨-, same⟩ | ⟨product, saved, w₁, steps, ends⟩
      · rw [same]
      · obtain ⟨_, _, t, -, -, -, -, -, rfl⟩ := VariantService.insert_ok steps.inserts
        exact ends.kept (P := fun w' => w'.cache = w.cache) rfl
          fun w₂ done => (VariantService.recorded_db done).2
  | update productId variantId dto =>
      simp only [VariantOp.act]
      rcases VariantService.update_cases context tenantId productId variantId dto w with
        ⟨-, same⟩ | ⟨variant, saved, w₁, steps, ends⟩
      · rw [same]
      · obtain ⟨_, -, -, -, t, -, rfl⟩ := VariantService.save_ok steps.saves
        exact ends.kept (P := fun w' => w'.cache = w.cache) rfl
          fun w₂ done => (VariantService.recorded_db done).2
  | remove productId variantId =>
      simp only [VariantOp.act]
      rcases VariantService.remove_cases context tenantId productId variantId w with
        ⟨-, same⟩ | ⟨variant, w₁, steps, ends⟩
      · rw [same]
      · obtain ⟨t, -, rfl⟩ := VariantService.softRemove_ok steps.removes
        exact ends.kept (P := fun w' => w'.cache = w.cache) rfl
          fun w₂ done => (VariantService.recorded_db done).2
  | findOne productId variantId => simp only [VariantOp.act, VariantService.runs_findOne]
  | findOneById variantId => simp only [VariantOp.act, VariantService.findOneById_world]
  | findAll productId query =>
      simp only [VariantOp.act]
      rcases VariantService.findAll_world platform tenantId productId query w with same | same
      · rw [same]
      · rw [same]

theorem CatalogOp.act_cachedIn (fresh : FreshIn platform w.db asksCategories asksProducts P)
    (request : Request CatalogOp) (asked : request.op.Asks asksCategories asksProducts)
    (all : w.CachedAll P) : (CatalogOp.act platform request w).CachedAll P := by
  obtain ⟨context, tenantId, now, op⟩ := request
  cases op with
  | category op => exact CategoryOp.act_cachedAll fresh _ asked all
  | product op => exact ProductOp.act_cachedAll fresh _ asked all
  | variant op =>
      unfold CachedAll
      simp only [CatalogOp.act, VariantOp.act_cache]
      exact all

theorem CatalogOp.act_cachedAll (fresh : FreshAll platform w.db P) (request : Request CatalogOp)
    (all : w.CachedAll P) : (CatalogOp.act platform request w).CachedAll P :=
  CatalogOp.act_cachedIn fresh request request.op.asks_all all

end Tenantory
