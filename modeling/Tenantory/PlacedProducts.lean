import Tenantory.CategoryTree
import Tenantory.ProductWrites
import Tenantory.VariantRuns

/-! Products and the categories that they are in. A product is created and moved into
categories that a cached lookup has found; a category is removed without a look at its
products. -/

namespace Tenantory

/-- A stored category that is not deleted and belongs to the tenant. -/
def Database.LiveCategory (db : Database) (id tenant : Uuid) : Prop :=
  ∃ c ∈ db.categories, c.id = id ∧ c.live = true ∧ c.tenantId = tenant

/-- The category of every live product is a live category of the same tenant. -/
def Database.ProductsPlaced (db : Database) : Prop :=
  ∀ p ∈ db.products, p.live = true → db.LiveCategory p.categoryId p.tenantId

/-- The copy of a category was made of a live one. -/
def Cached.CopyLive (_key : String) (value : Cached) : Prop :=
  ∀ entity, value = .category entity → entity.deletedAt = none

structure Placed (w : World) : Prop where
  products : w.db.ProductsPlaced
  copies : w.CachedAll Cached.CopyLive

theorem Database.ProductsPlaced.of_kept {db db' : Database} (placed : db.ProductsPlaced)
    (products : ∀ p ∈ db'.products, p.live = true → p ∈ db.products)
    (kept : ∀ p ∈ db.products, p.live = true → db.LiveCategory p.categoryId p.tenantId →
      db'.LiveCategory p.categoryId p.tenantId) : db'.ProductsPlaced := by
  intro p hp live
  have old := products p hp live
  exact kept p old live (placed p old live)

/-! ## Lookups -/

namespace CategoryService

variable {tenantId id : String} {target : CategoryEntity} {w w' : World}

theorem fresh_deletedAt (h : (oneView tenantId id).fresh (w.ties 0) w = .ok target) :
    target.deletedAt = none := by
  obtain ⟨row, readable, rfl⟩ := readOne_ok.mp (orMissing_eq_ok.mp h)
  exact Option.isNone_iff_eq_none.mp readable.live

theorem Finds.copyLive (finds : Finds tenantId id w target w')
    (copies : w.CachedAll Cached.CopyLive) :
    target.deletedAt = none ∧ w'.CachedAll Cached.CopyLive := by
  constructor
  · rcases finds.source with hit | read
    · obtain ⟨value, found, wrapped⟩ := Option.bind_eq_some_iff.mp hit
      have same : value = .category target := by
        cases value <;> cases wrapped
        rfl
      exact copies.of_cached found target same
    · exact fresh_deletedAt read
  · refine finds.cachedAll copies fun read entity same => ?_
    cases same
    exact fresh_deletedAt read

end CategoryService

theorem Looked.copyLive {tenantId : String} {w w' : World} (looked : Looked tenantId w w')
    (copies : w.CachedAll Cached.CopyLive) : w'.CachedAll Cached.CopyLive := by
  induction looked with
  | nothing => exact copies
  | category _ finds ih => exact (CategoryService.Finds.copyLive finds ih).2
  | product _ finds ih => exact finds.cachedAll ih fun _ _ same => (nomatch same)

/-- Operations that only look leave the products where they are. -/
theorem Placed.looked {tenantId : String} {w w' : World} (h : Placed w)
    (looked : Looked tenantId w w') : Placed w' :=
  ⟨by rw [looked.db]; exact h.products, looked.copyLive h.copies⟩

theorem Placed.of_less {w w' : World} (h : Placed w) (db : w'.db = w.db)
    (less : w'.cache ⊆ w.cache) : Placed w' :=
  ⟨by rw [db]; exact h.products, h.copies.of_subset less⟩

/-! ## Categories -/

namespace CategoryService

variable {platform : Platform} {context : Option AuditContextData} {tenantId id : String}
  {w w' : World} {entity saved target : CategoryEntity}

/-- A save of a live copy deletes no category. -/
theorem save_kept (h : save entity w = .ok (saved, w')) (live : entity.deletedAt = none)
    {i tenant : Uuid} (there : w.db.LiveCategory i tenant) : w'.db.LiveCategory i tenant := by
  obtain ⟨-, -, -, -, t₁, t, rows₁, rows, rfl⟩ := save_ok h
  obtain ⟨c, hc, rfl, undeleted, rfl⟩ := there
  refine ⟨entity.relinked w.db w.clock (overwritten entity w.clock c), ?_, ?_, ?_, ?_⟩
  · change _ ∈ t.rows
    rw [rows, rows₁]
    exact List.mem_map_of_mem (List.mem_map_of_mem hc)
  · simp
  · unfold Category.live
    rw [CategoryEntity.relinked_deletedAt]
    unfold overwritten
    split
    · obtain ⟨stamp, same⟩ := overwrite_eq entity w.clock c
      rw [same]
      simp [written, live]
    · exact undeleted
  · rw [CategoryEntity.relinked_tenantId]
    unfold overwritten
    split
    · obtain ⟨stamp, same⟩ := overwrite_eq entity w.clock c
      rw [same]
      rfl
    · rfl

/-- A removal deletes the category of the entity only. -/
theorem softRemove_kept (h : softRemove entity w = .ok ((), w')) {i tenant : Uuid}
    (other : i ≠ entity.id) (there : w.db.LiveCategory i tenant) :
    w'.db.LiveCategory i tenant := by
  obtain ⟨t₁, t, rows₁, rows, rfl⟩ := softRemove_ok h
  obtain ⟨c, hc, rfl, undeleted, rfl⟩ := there
  refine ⟨entity.relinked w.db w.clock c, ?_, by simp, ?_, by simp⟩
  · change _ ∈ t.rows
    rw [rows, rows₁, List.map_map]
    refine List.mem_map.mpr ⟨c, hc, ?_⟩
    simp [other]
  · unfold Category.live
    rw [CategoryEntity.relinked_deletedAt]
    exact undeleted

theorem insert_kept {name slug : String} {parent : Option Category}
    (h : insert tenantId name slug parent w = .ok (entity, w')) {i tenant : Uuid}
    (there : w.db.LiveCategory i tenant) : w'.db.LiveCategory i tenant := by
  obtain ⟨_, t, -, -, -, rows, rfl⟩ := insert_ok h
  obtain ⟨c, hc, rest⟩ := there
  refine ⟨c, ?_, rest⟩
  change c ∈ t.rows
  rw [rows]
  exact List.mem_append_left _ hc

/-- The products that are left behind when a category is removed. -/
def KeepsPlaced (request : Request CategoryOp) (w : World) : Prop :=
  match request.op with
  | .remove id => ∀ target w₁, Finds request.tenantId id w target w₁ →
      countChildren request.tenantId id w = .ok 0 →
      ∀ p ∈ w.db.products, p.live = true → p.categoryId ≠ target.id
  | _ => True

theorem act_placed (request : Request CategoryOp) (h : Placed w) (keeps : KeepsPlaced request w) :
    Placed (CategoryOp.act platform request w) := by
  obtain ⟨context, tenantId, now, op⟩ := request
  cases op with
  | create dto =>
      simp only [CategoryOp.act]
      rcases create_cases platform context tenantId dto w with
        ⟨-, same⟩ | ⟨parent, category, w₂, steps, wrote⟩
      · rw [same]
        exact h
      · have after : Placed w₂ := by
          have kept : ∀ i tenant, w.db.LiveCategory i tenant → w₂.db.LiveCategory i tenant :=
            fun _ _ => insert_kept steps.inserts
          obtain ⟨_, t, -, -, -, -, rfl⟩ := insert_ok steps.inserts
          exact ⟨h.products.of_kept (fun _ hp _ => hp) fun p _ _ => kept _ _, h.copies⟩
        rcases wrote with ⟨event, -, out⟩ | ⟨-, out⟩
        · rw [out]
          exact after.of_less rfl fun _ mem => List.mem_of_mem_filter (List.mem_of_mem_filter mem)
        · rw [out]
          exact after
  | update id dto =>
      simp only [CategoryOp.act]
      rcases update_cases platform context tenantId id dto w with
        ⟨-, same | ⟨target, finds⟩⟩ | ⟨target, w₁, parent, saved, w₂, steps, wrote⟩
      · rw [same]
        exact h
      · exact h.looked (.category .nothing finds)
      · have h₁ : Placed w₁ := h.looked (.category .nothing steps.finds)
        have after : Placed w₂ := by
          have live := (steps.finds.copyLive h.copies).1
          have kept : ∀ i tenant, w₁.db.LiveCategory i tenant →
            w₂.db.LiveCategory i tenant :=
            fun _ _ => save_kept steps.saves live
          obtain ⟨-, -, -, -, t₁, t, -, -, rfl⟩ := save_ok steps.saves
          exact ⟨h₁.products.of_kept (fun _ hp _ => hp) fun p _ _ => kept _ _, h₁.copies⟩
        rcases wrote with ⟨w₃, done, out⟩ | ⟨-, out⟩
        · rw [out]
          exact after.of_less (published_db done) (published_cache done)
        · rw [out]
          exact after
  | remove id =>
      simp only [CategoryOp.act]
      rcases remove_cases context tenantId id w with
        ⟨-, same | ⟨target, finds⟩⟩ | ⟨target, w₁, w₂, steps, wrote⟩
      · rw [same]
        exact h
      · exact h.looked (.category .nothing finds)
      · have h₁ : Placed w₁ := h.looked (.category .nothing steps.finds)
        have empty : ∀ p ∈ w₁.db.products, p.live = true → p.categoryId ≠ target.id := by
          have childless := steps.childless
          have allowed := keeps target w₁ steps.finds
          cases steps.finds <;> exact allowed childless
        have after : Placed w₂ := by
          have kept : ∀ i tenant, i ≠ target.id →
              w₁.db.LiveCategory i tenant → w₂.db.LiveCategory i tenant :=
            fun _ _ => softRemove_kept steps.removes
          obtain ⟨t₁, t, -, -, rfl⟩ := softRemove_ok steps.removes
          exact ⟨h₁.products.of_kept (fun _ hp _ => hp)
            fun p hp live => kept _ _ (empty p hp live), h₁.copies⟩
        rcases wrote with ⟨w₃, done, out⟩ | ⟨-, out⟩
        · rw [out]
          exact after.of_less (published_db done) (published_cache done)
        · rw [out]
          exact after
  | findOne id =>
      simp only [CategoryOp.act, runs_findOne]
      refine ⟨by rw [CacheAside.answer_db]; exact h.products, ?_⟩
      refine CacheAside.answer_cachedAll h.copies fun target read entity same => ?_
      cases same
      exact fresh_deletedAt read
  | findAll query =>
      simp only [CategoryOp.act, runs_findAll]
      refine ⟨by rw [CacheAside.answer_db]; exact h.products, ?_⟩
      exact CacheAside.answer_cachedAll h.copies fun _ _ _ same => (nomatch same)
  | findTree =>
      simp only [CategoryOp.act, CategoryService.runs_findTree]
      refine ⟨by rw [CacheAside.answer_db]; exact h.products, ?_⟩
      exact CacheAside.answer_cachedAll h.copies fun _ _ _ same => (nomatch same)

end CategoryService

/-! ## Products -/

namespace ProductService

variable {platform : Platform} {context : Option AuditContextData} {tenantId id : String}
  {w w' : World} {product saved : ProductEntity}

/-- The category that an update gives to a product: the one it names, else that of the
copy, else the stored one. -/
def givenCategory (dto : UpdateProductDto) (product : ProductEntity) (db : Database) :
    Option Uuid :=
  match dto.categoryId.truthy with
  | some text => UuidText.uuidIn text
  | none =>
      match product.category with
      | none => (db.rowById Product product.id).map (·.categoryId)
      | some none => none
      | some (some category) => category.key.toOption

/-- The category in which a creation or an update puts a product is live. -/
def KeepsPlaced (request : Request ProductOp) (w : World) : Prop :=
  match request.op with
  | .create dto => ∀ category w₁,
      CategoryService.Finds request.tenantId dto.categoryId w category w₁ →
      skuExists request.tenantId dto.skuPrefix w = .ok false →
      ∀ tenant named, UuidText.uuidIn request.tenantId = some tenant →
        UuidText.uuidIn dto.categoryId = some named → w.db.LiveCategory named tenant
  | .update id dto => ∀ product w₁ w₂, Finds request.tenantId id w product w₁ →
      dto.skuPrefix.truthy.any (· != product.skuPrefix) = false →
      Names request.tenantId dto w₁ w₂ → product.deletedAt = none →
      ∀ given, givenCategory dto product w.db = some given →
        w.db.LiveCategory given product.tenantId
  | _ => True

theorem foreignKey_patched {dto : UpdateProductDto} {stored : Except Err Uuid} {given : Uuid}
    {db : Database} (same : ∀ c, stored = .ok c →
      (db.rowById Product product.id).map (·.categoryId) = some c)
    (h : foreignKey (patched dto product) stored = .ok given) :
    givenCategory dto product db = some given := by
  unfold foreignKey patched at h
  unfold givenCategory
  cases ht : dto.categoryId.truthy with
  | some text =>
      rw [ht] at h
      exact uuidParam_eq_ok.mp h
  | none =>
      rw [ht] at h
      dsimp only at h ⊢
      cases joined : product.category with
      | none =>
          rw [joined] at h
          exact same _ h
      | some reference =>
          rw [joined] at h
          cases reference with
          | none => cases h
          | some reference =>
              dsimp only at h ⊢
              rw [h]
              rfl

theorem insert_placed {dto : CreateProductDto} (h : insert tenantId dto w = .ok (product, w'))
    (placed : w.db.ProductsPlaced)
    (keeps : ∀ tenant named, UuidText.uuidIn tenantId = some tenant →
      UuidText.uuidIn dto.categoryId = some named → w.db.LiveCategory named tenant) :
    w'.db.ProductsPlaced := by
  obtain ⟨tenant, named, isActive, t, ht, hn, -, -, rows, rfl⟩ := insert_ok h
  intro p hp live
  have mem : p ∈ t.rows := hp
  rw [rows] at mem
  rcases List.mem_append.mp mem with old | new
  · exact placed p old live
  · obtain rfl := List.mem_singleton.mp new
    exact keeps tenant named ht hn

theorem save_placed {dto : UpdateProductDto}
    (h : save (patched dto product) w = .ok (saved, w')) (placed : w.db.ProductsPlaced)
    (keeps : product.deletedAt = none → ∀ given, givenCategory dto product w.db = some given →
      w.db.LiveCategory given product.tenantId) : w'.db.ProductsPlaced := by
  obtain ⟨row, t, v, -, wrote, -, -, rfl⟩ := save_ok h
  -- the saved row is in the category that the update gives
  have row_placed : row.live = true → w.db.LiveCategory row.categoryId row.tenantId := by
    intro live
    have undeleted := Option.isNone_iff_eq_none.mp live
    rcases wrote with ⟨absent, columns, -⟩ | ⟨stored, mem, same, written, -⟩
    · obtain ⟨name, isActive, given, -, -, key, rfl⟩ := columns_ok.mp columns
      exact keeps undeleted given (foreignKey_patched (fun _ h => by cases h) key)
    · obtain ⟨written, stamp, columns, rfl⟩ := overwrite_ok written
      obtain ⟨name, isActive, given, -, -, key, rfl⟩ := columns_ok.mp columns
      refine keeps undeleted given (foreignKey_patched (fun c hc => ?_) key)
      have found : w.db.rowById Product product.id = some stored :=
        Table.find?_of_mem mem (beq_iff_eq.mpr same) fun r _ hr =>
          Entity.same_id _ _ (same.trans (beq_iff_eq.mp hr).symm)
      rw [found, Option.map_some]
      exact congrArg some (Except.ok.inj hc)
  intro p hp live
  have mem : p ∈ t.rows := hp
  rcases wrote with ⟨-, -, rows⟩ | ⟨stored, -, -, -, rows⟩
  · rw [rows] at mem
    rcases List.mem_append.mp mem with old | new
    · exact placed p old live
    · obtain rfl := List.mem_singleton.mp new
      exact row_placed live
  · rw [rows] at mem
    obtain ⟨r, hr, rfl⟩ := List.mem_map.mp mem
    split at live
    · rename_i own
      rw [if_pos own]
      exact row_placed live
    · rename_i other
      rw [if_neg other]
      exact placed r hr live

theorem softRemove_placed (h : softRemove product w = .ok ((), w'))
    (placed : w.db.ProductsPlaced) : w'.db.ProductsPlaced := by
  obtain ⟨t, v, rows, -, -, rfl⟩ := softRemove_ok h
  intro p hp live
  have mem : p ∈ t.rows := hp
  rw [rows] at mem
  obtain ⟨r, hr, rfl⟩ := List.mem_map.mp mem
  split at live
  · cases live
  · rename_i other
    rw [if_neg other]
    exact placed r hr live

theorem act_placed (request : Request ProductOp) (h : Placed w) (keeps : KeepsPlaced request w) :
    Placed (ProductOp.act platform request w) := by
  obtain ⟨context, tenantId, now, op⟩ := request
  cases op with
  | create dto =>
      simp only [ProductOp.act]
      rcases create_cases context tenantId dto w with
        ⟨-, looked⟩ | ⟨category, w₁, product, w₂, steps, ends⟩
      · exact h.looked looked
      · have h₁ : Placed w₁ := h.looked (.category .nothing steps.finds)
        have after : Placed w₂ := by
          refine ⟨insert_placed steps.inserts h₁.products ?_, ?_⟩
          · have free := steps.free
            have allowed := keeps category w₁ steps.finds
            cases steps.finds <;> exact allowed free
          · obtain ⟨_, _, _, t, -, -, -, -, -, rfl⟩ := insert_ok steps.inserts
            exact h₁.copies
        exact ends.kept after fun w₃ done =>
          after.of_less (announced_db done).1 (announced_db done).2
  | update id dto =>
      simp only [ProductOp.act]
      rcases update_cases context tenantId id dto w with
        ⟨-, looked⟩ | ⟨product, w₁, w₂, saved, w₃, steps, ends⟩
      · exact h.looked looked
      · have looked₁ : Looked tenantId w w₁ := .product .nothing steps.finds
        have looked₂ : Looked tenantId w w₂ := by
          cases steps.names with
          | nothing _ => exact looked₁
          | category _ category => exact .category looked₁ category
        have h₂ : Placed w₂ := h.looked looked₂
        have after : Placed w₃ := by
          refine ⟨save_placed steps.saves h₂.products fun live => ?_, ?_⟩
          · rw [looked₂.db]
            exact keeps product w₁ w₂ steps.finds steps.sameSku steps.names live
          · obtain ⟨row, t, v, -, -, -, -, rfl⟩ := save_ok steps.saves
            exact h₂.copies
        exact ends.kept after fun w₄ done =>
          after.of_less (published_db done).1 (published_db done).2
  | remove id =>
      simp only [ProductOp.act]
      rcases remove_cases context tenantId id w with
        ⟨-, looked⟩ | ⟨product, w₁, w₂, steps, ends⟩
      · exact h.looked looked
      · have h₁ : Placed w₁ := h.looked (.product .nothing steps.finds)
        have after : Placed w₂ := by
          refine ⟨softRemove_placed steps.removes h₁.products, ?_⟩
          obtain ⟨t, v, -, -, -, rfl⟩ := softRemove_ok steps.removes
          exact h₁.copies
        exact ends.kept after fun w₃ done =>
          after.of_less (published_db done).1 (published_db done).2
  | findOne id =>
      simp only [ProductOp.act, runs_findOne]
      refine ⟨by rw [CacheAside.answer_db]; exact h.products, ?_⟩
      exact CacheAside.answer_cachedAll h.copies fun _ _ _ same => (nomatch same)
  | findAll query =>
      simp only [ProductOp.act, runs_findAll]
      refine ⟨by rw [CacheAside.answer_db]; exact h.products, ?_⟩
      exact CacheAside.answer_cachedAll h.copies fun _ _ _ same => (nomatch same)

end ProductService
/-! ## Runs -/

/-- A request on categories or products. -/
def CatalogOp.KeepsPlaced (request : Request CatalogOp) (w : World) : Prop :=
  match request.op with
  | .category op => CategoryService.KeepsPlaced { request with op } w
  | .product op => ProductService.KeepsPlaced { request with op } w
  | .variant _ => True

namespace VariantService

variable {platform : Platform} {w : World}

/-- The variant service neither writes products or categories nor knows the cache. -/
theorem act_placed (request : Request VariantOp) (h : Placed w) :
    Placed (VariantOp.act platform request w) := by
  obtain ⟨context, tenantId, now, op⟩ := request
  cases op with
  | create productId dto =>
      simp only [VariantOp.act]
      rcases create_cases context tenantId productId dto w with
        ⟨-, same⟩ | ⟨product, saved, w₁, steps, ends⟩
      · rw [same]
        exact h
      · have after : Placed w₁ := by
          obtain ⟨_, _, t, -, -, -, -, -, rfl⟩ := insert_ok steps.inserts
          exact ⟨h.products, h.copies⟩
        refine ends.kept after fun w₂ done => after.of_less (recorded_db done).1 ?_
        rw [(recorded_db done).2]
        exact fun _ mem => mem
  | update productId variantId dto =>
      simp only [VariantOp.act]
      rcases update_cases context tenantId productId variantId dto w with
        ⟨-, same⟩ | ⟨variant, saved, w₁, steps, ends⟩
      · rw [same]
        exact h
      · have after : Placed w₁ := by
          obtain ⟨_, -, -, -, t, -, rfl⟩ := save_ok steps.saves
          exact ⟨h.products, h.copies⟩
        refine ends.kept after fun w₂ done => after.of_less (recorded_db done).1 ?_
        rw [(recorded_db done).2]
        exact fun _ mem => mem
  | remove productId variantId =>
      simp only [VariantOp.act]
      rcases remove_cases context tenantId productId variantId w with
        ⟨-, same⟩ | ⟨variant, w₁, steps, ends⟩
      · rw [same]
        exact h
      · have after : Placed w₁ := by
          obtain ⟨t, -, rfl⟩ := softRemove_ok steps.removes
          exact ⟨h.products, h.copies⟩
        refine ends.kept after fun w₂ done => after.of_less (recorded_db done).1 ?_
        rw [(recorded_db done).2]
        exact fun _ mem => mem
  | findOne productId variantId =>
      simp only [VariantOp.act, runs_findOne]
      exact h
  | findOneById variantId =>
      simp only [VariantOp.act, findOneById_world]
      exact h
  | findAll productId query =>
      simp only [VariantOp.act]
      rcases findAll_world platform tenantId productId query w with same | same
      · rw [same]
        exact h
      · rw [same]
        exact ⟨h.products, h.copies⟩

end VariantService

/-- In every run, live products stay in live categories as long as no category is removed
with products in it and no product put into a category that is not live. -/
theorem products_stay_placed (platform : Platform) (start w : World) (initial : Placed start)
    (reached : Request.Reached (CatalogOp.act platform) CatalogOp.KeepsPlaced start w) :
    w.db.ProductsPlaced := by
  refine (reached.invariant (I := Placed) initial (fun _ _ h => ⟨h.products, h.copies⟩)
    fun request w h keeps => ?_).products
  obtain ⟨context, tenantId, now, op⟩ := request
  cases op with
  | category op => exact CategoryService.act_placed _ h keeps
  | product op => exact ProductService.act_placed _ h keeps
  | variant op => exact VariantService.act_placed _ h

open SampleShop

namespace SampleShop

def catalogRequest (now : Timestamp) (op : CatalogOp) : Request CatalogOp :=
  ⟨some context, UuidText.uuidOut tenantId, now, op⟩

def createHoodie : Request CatalogOp :=
  catalogRequest 2 (.product (.create
    ⟨"Hoodie", .undefined, UuidText.uuidOut categoryId, "HOO", .undefined⟩))

def openCategory (now : Timestamp) (name : String) : Request CatalogOp :=
  catalogRequest now (.category (.create ⟨name, .undefined, .undefined⟩))

def moveHoodie : Request CatalogOp :=
  catalogRequest 5 (.product (.update (UuidText.uuidOut 1002)
    ⟨.undefined, .value (UuidText.uuidOut 1000), .undefined, .undefined, .undefined⟩))

def closeBelts : Request CatalogOp :=
  catalogRequest 6 (.category (.remove (UuidText.uuidOut 1001)))

def catalogAfter (w : World) (request : Request CatalogOp) : World :=
  CatalogOp.act plainText request (request.arrive w)

/-- Two categories are opened, and a product is created in a third one. -/
def stockedUp : World :=
  catalogAfter (catalogAfter (catalogAfter (world unstocked) (openCategory 2 "Hats"))
    (openCategory 3 "Belts")) { createHoodie with now := 4 }

/-- The product is moved to the first of the two. -/
def hoodieMoved : World := catalogAfter stockedUp moveHoodie

def removeShirts : Request CatalogOp :=
  catalogRequest 2 (.category (.remove (UuidText.uuidOut categoryId)))

theorem unstocked_placed : Placed (world unstocked) := by
  refine ⟨fun p hp _ => ⟨category, List.mem_cons_self, ?_⟩, fun _ mem => (nomatch mem)⟩
  obtain rfl : p = product := List.mem_singleton.mp hp
  exact ⟨rfl, rfl, rfl⟩

/-- The product is put into a category that is there. -/
theorem stockedUp_reached :
    Request.Reached (CatalogOp.act plainText) CatalogOp.KeepsPlaced (world unstocked)
      stockedUp := by
  refine .serve { createHoodie with now := 4 } (.serve (openCategory 3 "Belts")
    (.serve (openCategory 2 "Hats") .start trivial) trivial) ?_
  intro _ _ _ _ tenant named ht hn
  have rows : UuidText.uuidIn (UuidText.uuidOut SampleShop.tenantId) = some tenant ∧
    UuidText.uuidIn (UuidText.uuidOut categoryId) = some named := ⟨ht, hn⟩
  simp only [UuidText.uuidIn_uuidOut, Option.some.injEq] at rows
  obtain ⟨rfl, rfl⟩ := rows
  have there : ∃ c ∈ ((({ createHoodie with now := 4 } : Request CatalogOp).arrive
      (catalogAfter (catalogAfter (world unstocked) (openCategory 2 "Hats"))
        (openCategory 3 "Belts"))).db.categories.rows),
      c.id = categoryId ∧ c.live = true ∧ c.tenantId = SampleShop.tenantId := by decide +kernel
  exact there

theorem hoodieMoved_reached :
    Request.Reached (CatalogOp.act plainText) CatalogOp.KeepsPlaced (world unstocked)
      hoodieMoved := by
  refine .serve moveHoodie stockedUp_reached ?_
  intro product w₁ w₂ finds _ _ _ given named
  have owned : ((ProductService.findOne (UuidText.uuidOut SampleShop.tenantId)
      (UuidText.uuidOut 1002)).runs (moveHoodie.arrive stockedUp)).1.map (·.tenantId) =
      .ok SampleShop.tenantId := by decide +kernel
  have run : (ProductService.findOne (UuidText.uuidOut SampleShop.tenantId)
      (UuidText.uuidOut 1002)).runs (moveHoodie.arrive stockedUp) = (.ok product, w₁) :=
    ProductService.finds_iff.mpr finds
  rw [run] at owned
  have own : product.tenantId = SampleShop.tenantId := Except.ok.inj owned
  have target : 1000 = given :=
    Option.some.inj ((UuidText.uuidIn_uuidOut 1000).symm.trans named)
  have there : ∃ c ∈ (moveHoodie.arrive stockedUp).db.categories.rows,
      c.id = 1000 ∧ c.live = true ∧ c.tenantId = SampleShop.tenantId := by decide +kernel
  rw [own, ← target]
  exact there

/-- The category that is closed is empty. -/
theorem beltsClosed_reached :
    Request.Reached (CatalogOp.act plainText) CatalogOp.KeepsPlaced (world unstocked)
      (catalogAfter hoodieMoved closeBelts) := by
  refine .serve closeBelts hoodieMoved_reached ?_
  intro target w₁ finds _ p hp live inside
  have named : ((CategoryService.findOne (UuidText.uuidOut SampleShop.tenantId)
      (UuidText.uuidOut 1001)).runs (closeBelts.arrive hoodieMoved)).1.map (·.id) =
      .ok 1001 := by decide +kernel
  have run : (CategoryService.findOne (UuidText.uuidOut SampleShop.tenantId)
      (UuidText.uuidOut 1001)).runs (closeBelts.arrive hoodieMoved) = (.ok target, w₁) :=
    CategoryService.finds_iff.mpr finds
  rw [run] at named
  have same : target.id = 1001 := Except.ok.inj named
  have empty : ∀ p ∈ (closeBelts.arrive hoodieMoved).db.products.rows,
    p.categoryId ≠ 1001 := by
    decide +kernel
  exact empty p hp (inside.trans same)

end SampleShop

theorem products_stay_placed_hoodie :
    ((catalogAfter hoodieMoved closeBelts).db.products.rows.map fun p => (p.name, p.categoryId)) =
      [("Shirt", categoryId), ("Hoodie", 1000)] ∧
    ((catalogAfter hoodieMoved closeBelts).db.categories.rows.map fun c => (c.name, c.live)) =
      [("Shirts", true), ("Hats", true), ("Belts", false)] ∧
    (catalogAfter hoodieMoved closeBelts).db.ProductsPlaced :=
  ⟨by decide +kernel, by decide +kernel, products_stay_placed plainText (world unstocked) _
    unstocked_placed beltsClosed_reached⟩

theorem category_removed_with_product :
    Placed (world unstocked) ∧
      ∃ w, Request.Reached (CatalogOp.act plainText) (fun _ _ => True) (world unstocked) w ∧
        ¬ w.db.ProductsPlaced := by
  refine ⟨unstocked_placed, _, .serve removeShirts .start trivial, fun placed => ?_⟩
  have left : ∃ p ∈ (CatalogOp.act plainText removeShirts (removeShirts.arrive
      (world unstocked))).db.products.rows, p.live = true ∧ p.categoryId = categoryId := by decide
  have dead : ∀ c ∈ (CatalogOp.act plainText removeShirts (removeShirts.arrive
      (world unstocked))).db.categories.rows, c.id = categoryId → c.live = false := by decide
  obtain ⟨p, hp, live, inside⟩ := left
  obtain ⟨c, hc, same, undeleted, -⟩ := placed p hp live
  rw [dead c hc (same.trans inside)] at undeleted
  cases undeleted

end Tenantory
