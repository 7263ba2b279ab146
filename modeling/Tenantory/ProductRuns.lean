import Tenantory.CategoryRuns
import Tenantory.ProductService

/-! The operations on products, each run by itself. -/

namespace Tenantory

namespace ProductService

open Svc

variable {context : Option AuditContextData} {tenantId id : String} {w w' : World}

def oneView (tenantId id : String) : CacheAside ProductEntity where
  key := CacheKeys.product tenantId id
  cached? := Cached.product?
  wrap := .product
  fresh _ w := orMissing (.notFound s!"There is no product with ID {id} in tenant {tenantId}")
    (readOne tenantId id w)
  ranks := false

/-- The page that `findAll` makes of the rows it reads. -/
def pageOf (query : ProductQueryDto) (rows : List ProductEntity × ℕ) :
    PaginatedResponse ProductEntity :=
  let limit := query.limit.getD 10
  paginated rows.1 rows.2 (max 1 (pageCount rows.2 limit)) (query.page.getD 1) limit
    (buildLink limit)

def pageView (platform : Platform) (tenantId : String) (query : ProductQueryDto) :
    CacheAside (PaginatedResponse ProductEntity) where
  key := CacheKeys.productsList platform tenantId query.toJson
  cached? := Cached.productsList?
  wrap := .productsList
  fresh ties w :=
    let limit := query.limit.getD 10
    (readPage platform tenantId query ((query.page.getD 1 - 1) * limit) limit ties w).map
      (pageOf query)
  ranks := true

/-- `findOne` answers with `product`, from the cache or the database, and leaves `w'`. -/
abbrev Finds (tenantId id : String) : World → ProductEntity → World → Prop :=
  (oneView tenantId id).Finds

theorem runs_findOne (tenantId id : String) (w : World) :
    (findOne tenantId id).runs w = (oneView tenantId id).answer w := by
  unfold CacheAside.answer CacheAside.hit
  simp only [findOne, runs_bind, runs_get, follow_ok, oneView]
  cases (w.cached (CacheKeys.product tenantId id)).bind Cached.product? with
  | some target => rfl
  | none =>
      simp only [runs_bind, runs_query]
      cases readOne tenantId id w with
      | error e => rfl
      | ok found => cases found <;> rfl

theorem runs_findAll (platform : Platform) (tenantId : String) (query : ProductQueryDto)
    (w : World) :
    (findAll platform tenantId query).runs w = (pageView platform tenantId query).answer w := by
  unfold CacheAside.answer CacheAside.hit
  simp only [findAll, runs_bind, runs_get, follow_ok, pageView]
  cases (w.cached (CacheKeys.productsList platform tenantId query.toJson)).bind
      Cached.productsList? with
  | some page => rfl
  | none =>
      simp only [runs_bind, runs_listing]
      cases readPage platform tenantId query ((query.page.getD 1 - 1) * query.limit.getD 10)
          (query.limit.getD 10) (w.ties 0) w with
      | error e => rfl
      | ok rows => rfl

theorem finds_iff {product : ProductEntity} :
    (findOne tenantId id).runs w = (.ok product, w') ↔ Finds tenantId id w product w' := by
  rw [runs_findOne]
  exact CacheAside.finds_iff

theorem findOne_error {e : Err} (h : ((findOne tenantId id).runs w).1 = .error e) :
    ((findOne tenantId id).runs w).2 = w := by
  rw [runs_findOne] at h ⊢
  exact CacheAside.answer_error h

end ProductService

/-- Reads of single categories and products, as the writing operations make them before
they write or give up. -/
inductive Looked (tenantId : String) (w : World) : World → Prop
  | nothing : Looked tenantId w w
  | category {w' w'' : World} {id : String} {category : CategoryEntity} :
      Looked tenantId w w' → CategoryService.Finds tenantId id w' category w'' →
      Looked tenantId w w''
  | product {w' w'' : World} {id : String} {product : ProductEntity} :
      Looked tenantId w w' → ProductService.Finds tenantId id w' product w'' →
      Looked tenantId w w''

theorem Looked.db {tenantId : String} {w w' : World} (h : Looked tenantId w w') :
    w'.db = w.db := by
  induction h with
  | nothing => rfl
  | category _ finds ih => exact finds.db.trans ih
  | product _ finds ih => exact finds.db.trans ih

theorem Looked.clock {tenantId : String} {w w' : World} (h : Looked tenantId w w') :
    w'.clock = w.clock := by
  induction h with
  | nothing => rfl
  | category _ finds ih => exact finds.clock.trans ih
  | product _ finds ih => exact finds.clock.trans ih

/-- A service that wrote records its audit event and then invalidates the cache; without
a tenant for the event it throws before that. -/
inductive Ends {α : Type} (out : Except Err α × World) (a : α) (w : World) :
    Option World → Prop
  | done {w' : World} : out = (.ok a, w') → Ends out a w (some w')
  | unaudited : out = (.error AuditService.missingTenant, w) → Ends out a w none

/-- What the write and the invalidation leave holds at the end. -/
theorem Ends.kept {α : Type} {out : Except Err α × World} {a : α} {w : World}
    {after : Option World} {P : World → Prop} (ends : Ends out a w after) (wrote : P w)
    (done : ∀ w', after = some w' → P w') : P out.2 := by
  cases ends with
  | done out =>
      rw [out]
      exact done _ rfl
  | unaudited out =>
      rw [out]
      exact wrote

namespace ProductService

open Svc

variable {context : Option AuditContextData} {tenantId id : String} {w w' : World}

/-! ## Creations -/

/-- The statements of a creation. -/
structure Creates (tenantId : String) (dto : CreateProductDto) (w : World)
    (category : CategoryEntity) (w₁ : World) (product : ProductEntity) (w₂ : World) : Prop where
  finds : CategoryService.Finds tenantId dto.categoryId w category w₁
  free : skuExists tenantId dto.skuPrefix w₁ = .ok false
  inserts : insert tenantId dto w₁ = .ok (product, w₂)

def createAudit (dto : CreateProductDto) (result : ProductEntity) : AuditEventInput where
  action := .create
  entityType := .product
  entityId := UuidText.uuidOut result.id
  oldValues := none
  newValues := some (.literal [("name", some (.str result.name)),
    ("skuPrefix", some (.str result.skuPrefix)),
    ("categoryId", some (.nullable .str result.categoryId)),
    ("isActive", some (.bool result.isActive)),
    ("description", dto.description.toJson .str)])
  metadata := none
  actorId := none

/-- The world after the products' lists are taken from the cache. -/
def invalidate (tenantId : String) (w : World) : World :=
  w.deleteKeys (CacheService.glob (CacheKeys.productsPattern tenantId))

/-- What follows the statement that inserted a product. -/
def announced (context : Option AuditContextData) (input : AuditEventInput) (tenantId : String)
    (w : World) : Option World :=
  (AuditService.event? context input).map fun event =>
    invalidate tenantId { w with journal := w.journal ++ [.auditLog event] }

theorem create_cases (context : Option AuditContextData) (tenantId : String)
    (dto : CreateProductDto) (w : World) :
    let out := (create context tenantId dto).runs w
    ((∃ e, out.1 = .error e) ∧ Looked tenantId w out.2) ∨
      ∃ category w₁ product w₂, Creates tenantId dto w category w₁ product w₂ ∧
        Ends out product w₂ (announced context (createAudit dto product) tenantId w₂) := by
  intro out
  have started : out = follow (fun _ => do
      assertSkuUniqueness dto.skuPrefix tenantId
      translated skuTaken do
        let result ← statement (.insert (.product tenantId dto.categoryId dto.skuPrefix))
          (insert tenantId dto)
        AuditService.record context (createAudit dto result)
        CacheService.delByPattern (CacheKeys.productsPattern tenantId)
        pure result) ((CategoryService.findOne tenantId dto.categoryId).runs w) := by
    rw [← runs_bind]
    rfl
  cases hf : (CategoryService.findOne tenantId dto.categoryId).runs w with
  | mk answer w₁ =>
      cases answer with
      | error e =>
          have same := CategoryService.findOne_error (by rw [hf])
          rw [hf] at started same
          exact .inl ⟨⟨e, by rw [started]; rfl⟩, by rw [started]; exact same ▸ .nothing⟩
      | ok category =>
          have finds := CategoryService.finds_iff.mp hf
          have stop : ∀ e, out = (.error e, w₁) →
              (∃ e, out.1 = .error e) ∧ Looked tenantId w out.2 :=
            fun e h => ⟨⟨e, by rw [h]⟩, by rw [h]; exact .category .nothing finds⟩
          rw [hf, follow_ok] at started
          simp only [assertSkuUniqueness, runs_bind, runs_query] at started
          cases hs : skuExists tenantId dto.skuPrefix w₁ with
          | error e => exact .inl (stop e (by rw [started, hs]; rfl))
          | ok taken =>
              rw [hs] at started
              cases taken with
              | true => exact .inl (stop _ started)
              | false =>
                  simp only [follow_ok, Bool.false_eq_true, if_false, runs_pure, runs_translated,
                    runs_bind, runs_statement] at started
                  cases hv : insert tenantId dto w₁ with
                  | error e => exact .inl (stop (reported skuTaken e) (by rw [started, hv]; rfl))
                  | ok answer =>
                      obtain ⟨product, w₂⟩ := answer
                      refine .inr ⟨category, w₁, product, w₂, ⟨finds, hs, hv⟩, ?_⟩
                      rw [hv, settle_ok, follow_ok, runs_bind, runs_record]
                        at started
                      unfold announced
                      cases he : AuditService.event? context (createAudit dto product) with
                      | none =>
                          rw [he] at started
                          exact .unaudited started
                      | some event =>
                          rw [he] at started
                          exact .done started

/-! ## Updates and removals -/

/-- What follows the statement that saved or removed a product. -/
def published (context : Option AuditContextData) (input : AuditEventInput) (tenantId id : String)
    (w : World) : Option World :=
  (AuditService.event? context input).map fun event =>
    invalidate tenantId
      (World.deleteKeys { w with journal := w.journal ++ [.auditLog event] }
        (· == CacheKeys.product tenantId id))

/-- The category that an update names, looked up. -/
inductive Names (tenantId : String) (dto : UpdateProductDto) (w : World) : World → Prop
  | nothing : dto.categoryId.truthy = none → Names tenantId dto w w
  | category {text : String} {category : CategoryEntity} {w' : World} :
      dto.categoryId.truthy = some text → CategoryService.Finds tenantId text w category w' →
      Names tenantId dto w w'

/-! `save` and `softRemove` with nothing between their SELECT and what they write. -/

def save (draft : Draft) (w : World) : Except Err (ProductEntity × World) :=
  saveLoaded draft w.db w

def softRemove (entity : ProductEntity) (w : World) : Except Err (Unit × World) :=
  softRemoveLoaded entity w.db w

theorem save_eq (draft : Draft) (w : World) :
    save draft w = (match w.db.rowById Product draft.entity.id with
      | none => do
          let row ← columns draft (.error .notNullViolation)
          let db ← w.db.insertRow row
          let w₁ ← saveVariants draft.entity w.db { w with db }
          pure (saved draft row, w₁)
      | some stored => do
          let row ← overwrite draft w.clock stored
          let w₁ ← w.update draft.entity.id fun _ : Product => row
          let w₂ ← saveVariants draft.entity w.db w₁
          pure (saved draft row, w₂)) := by
  unfold save saveLoaded
  cases found : w.db.rowById Product draft.entity.id with
  | none => rfl
  | some stored =>
      obtain ⟨mem, same⟩ := Database.rowById_eq_some found
      have merged : ∀ row : Product, w.update draft.entity.id (merge row stored) =
          w.update draft.entity.id fun _ => row := by
        refine fun row => World.update_congr fun r hr hi => ?_
        obtain rfl := Table.eq_of_id hr mem (hi.trans same.symm)
        exact merge_self _ _
      simp only [merged]

/-- The statements of an update. -/
structure Updates (tenantId id : String) (dto : UpdateProductDto) (w : World)
    (product : ProductEntity) (w₁ w₂ : World) (saved : ProductEntity) (w₃ : World) :
    Prop where
  finds : Finds tenantId id w product w₁
  sameSku : dto.skuPrefix.truthy.any (· != product.skuPrefix) = false
  names : Names tenantId dto w₁ w₂
  saves : save (patched dto product) w₂ = .ok (saved, w₃)

/-- Looking up the category that an update names. -/
theorem named_cases (tenantId : String) (dto : UpdateProductDto) (w : World) :
    (∃ e, (dto.categoryId.truthy.mapM (CategoryService.findOne tenantId)).runs w =
      (.error e, w)) ∨
      ∃ named w', (dto.categoryId.truthy.mapM (CategoryService.findOne tenantId)).runs w =
        (.ok named, w') ∧ Names tenantId dto w w' := by
  cases ht : dto.categoryId.truthy with
  | none => exact .inr ⟨none, w, rfl, .nothing ht⟩
  | some text =>
      rw [Option.mapM_some, runs_map]
      cases hf : (CategoryService.findOne tenantId text).runs w with
      | mk answer w' =>
          cases answer with
          | error e =>
              have same := CategoryService.findOne_error (by rw [hf])
              rw [hf] at same
              exact .inl ⟨e, by rw [same]; rfl⟩
          | ok category =>
              exact .inr ⟨_, w', rfl, .category ht (CategoryService.finds_iff.mp hf)⟩

theorem update_cases (context : Option AuditContextData) (tenantId id : String)
    (dto : UpdateProductDto) (w : World) :
    let out := (update context tenantId id dto).runs w
    ((∃ e, out.1 = .error e) ∧ Looked tenantId w out.2) ∨
      ∃ product w₁ w₂ saved w₃, Updates tenantId id dto w product w₁ w₂ saved w₃ ∧
        Ends out saved w₃ (published context (updateAudit product saved) tenantId id w₃) := by
  intro out
  have started : out = follow (fun product => do
      if dto.skuPrefix.truthy.any (· != product.skuPrefix) then
        throw (.conflict
          "Cannot change skuPrefix after creation. Existing variant SKUs depend on this prefix.")
      let _ ← dto.categoryId.truthy.mapM (CategoryService.findOne tenantId)
      translated skuTaken do
        let saved ← saving (.product (patched dto product).entity)
          (saveLoaded (patched dto product))
        AuditService.record context (updateAudit product saved)
        CacheService.del (CacheKeys.product tenantId id)
        CacheService.delByPattern (CacheKeys.productsPattern tenantId)
        pure saved) ((findOne tenantId id).runs w) := by
    rw [← runs_bind]
    rfl
  cases hf : (findOne tenantId id).runs w with
  | mk answer w₁ =>
      cases answer with
      | error e =>
          have same := findOne_error (by rw [hf])
          rw [hf] at started same
          exact .inl ⟨⟨e, by rw [started]; rfl⟩, by rw [started]; exact same ▸ .nothing⟩
      | ok product =>
          have finds := finds_iff.mp hf
          have stop : ∀ e w', Looked tenantId w w' → out = (.error e, w') →
              (∃ e, out.1 = .error e) ∧ Looked tenantId w out.2 :=
            fun e w' looked h => ⟨⟨e, by rw [h]⟩, by rw [h]; exact looked⟩
          have looked₁ : Looked tenantId w w₁ := .product .nothing finds
          rw [hf, follow_ok] at started
          cases other : dto.skuPrefix.truthy.any (· != product.skuPrefix) with
          | true =>
              rw [other] at started
              exact .inl (stop _ w₁ looked₁ started)
          | false =>
              rw [other] at started
              simp only [Bool.false_eq_true, if_false] at started
              rcases named_cases tenantId dto w₁ with ⟨e, failed⟩ |
                ⟨named, w₂, found, names⟩
              · simp only [runs_bind, failed] at started
                exact .inl (stop e w₁ looked₁ started)
              · have looked₂ : Looked tenantId w w₂ := by
                  cases names with
                  | nothing _ => exact looked₁
                  | category _ category => exact .category looked₁ category
                simp only [runs_bind, found, follow_ok, runs_translated, runs_saving] at started
                cases hv : saveLoaded (patched dto product) w₂.db w₂ with
                | error e =>
                    exact .inl (stop (reported skuTaken e) w₂ looked₂
                      (by rw [started, hv]; rfl))
                | ok answer =>
                    obtain ⟨saved, w₃⟩ := answer
                    refine .inr ⟨product, w₁, w₂, saved, w₃,
                      ⟨finds, other, names, hv⟩, ?_⟩
                    rw [hv, settle_ok, follow_ok, runs_bind, runs_record] at started
                    unfold published
                    cases he : AuditService.event? context (updateAudit product saved) with
                    | none =>
                        rw [he] at started
                        exact .unaudited started
                    | some event =>
                        rw [he] at started
                        exact .done started

/-- An update that makes its statements and has a tenant for its audit answers. -/
theorem update_answers {dto : UpdateProductDto} {product saved : ProductEntity}
    {w₁ w₂ w₃ : World} (steps : Updates tenantId id dto w product w₁ w₂ saved w₃)
    (audited : AuditService.Audited context) :
    ((update context tenantId id dto).runs w).1 = .ok saved := by
  have started : (update context tenantId id dto).runs w = follow (fun product => do
      if dto.skuPrefix.truthy.any (· != product.skuPrefix) then
        throw (.conflict
          "Cannot change skuPrefix after creation. Existing variant SKUs depend on this prefix.")
      let _ ← dto.categoryId.truthy.mapM (CategoryService.findOne tenantId)
      translated skuTaken do
        let saved ← saving (.product (patched dto product).entity)
          (saveLoaded (patched dto product))
        AuditService.record context (updateAudit product saved)
        CacheService.del (CacheKeys.product tenantId id)
        CacheService.delByPattern (CacheKeys.productsPattern tenantId)
        pure saved) ((findOne tenantId id).runs w) := by
    rw [← runs_bind]
    rfl
  have named : ∃ found,
      (dto.categoryId.truthy.mapM (CategoryService.findOne tenantId)).runs w₁ =
        (.ok found, w₂) := by
    cases steps.names with
    | nothing unnamed => exact ⟨none, by rw [unnamed]; rfl⟩
    | category text finds =>
        rw [text, Option.mapM_some, runs_map, CategoryService.finds_iff.mpr finds]
        exact ⟨_, rfl⟩
  obtain ⟨found, named⟩ := named
  obtain ⟨event, recorded⟩ := AuditService.event?_of_audited audited (updateAudit product saved)
  have saves : saveLoaded (patched dto product) w₂.db w₂ = .ok (saved, w₃) := steps.saves
  rw [started, finds_iff.mpr steps.finds, follow_ok, steps.sameSku]
  simp only [Bool.false_eq_true, if_false, runs_bind, named, follow_ok,
    runs_translated, runs_saving,
    saves, settle_ok, runs_record, recorded]
  rfl

theorem announced_db {input : AuditEventInput} (h : announced context input tenantId w = some w') :
    w'.db = w.db ∧ w'.cache ⊆ w.cache := by
  unfold announced at h
  cases he : AuditService.event? context input with
  | none => simp [he] at h
  | some event =>
      rw [he] at h
      cases h
      exact ⟨rfl, fun entry mem => List.mem_of_mem_filter mem⟩

theorem published_db {input : AuditEventInput}
    (h : published context input tenantId id w = some w') :
    w'.db = w.db ∧ w'.cache ⊆ w.cache := by
  unfold published at h
  cases he : AuditService.event? context input with
  | none => simp [he] at h
  | some event =>
      rw [he] at h
      cases h
      exact ⟨rfl, fun entry mem => List.mem_of_mem_filter (List.mem_of_mem_filter mem)⟩

/-- The statements of a removal. -/
structure Removes (tenantId id : String) (w : World) (product : ProductEntity) (w₁ w₂ : World) :
    Prop where
  finds : Finds tenantId id w product w₁
  unvaried : countVariants tenantId product.id w₁ = .ok 0
  removes : softRemove product w₁ = .ok ((), w₂)

def removeAudit (product : ProductEntity) : AuditEventInput where
  action := .deleteProduct
  entityType := .product
  entityId := UuidText.uuidOut product.id
  oldValues := some (.obj [("name", .str product.name), ("skuPrefix", .str product.skuPrefix),
    ("categoryId", .nullable .str product.categoryId), ("isActive", .bool product.isActive)])
  newValues := none
  metadata := none
  actorId := none

theorem remove_cases (context : Option AuditContextData) (tenantId id : String) (w : World) :
    let out := (remove context tenantId id).runs w
    ((∃ e, out.1 = .error e) ∧ Looked tenantId w out.2) ∨
      ∃ product w₁ w₂, Removes tenantId id w product w₁ w₂ ∧
        Ends out () w₂ (published context (removeAudit product) tenantId id w₂) := by
  intro out
  have started : out = follow (fun product => do
      let variantCount ← query (countVariants tenantId product.id)
      if variantCount > 0 then
        throw (.conflict
          "Cannot delete product that has variants. Delete or reassign all variants first.")
      softRemoving (.product product) (softRemoveLoaded product)
      AuditService.record context (removeAudit product)
      CacheService.del (CacheKeys.product tenantId id)
      CacheService.delByPattern (CacheKeys.productsPattern tenantId))
        ((findOne tenantId id).runs w) := by
    rw [← runs_bind]
    rfl
  cases hf : (findOne tenantId id).runs w with
  | mk answer w₁ =>
      cases answer with
      | error e =>
          have same := findOne_error (by rw [hf])
          rw [hf] at started same
          exact .inl ⟨⟨e, by rw [started]; rfl⟩, by rw [started]; exact same ▸ .nothing⟩
      | ok product =>
          have finds := finds_iff.mp hf
          have stop : ∀ e, out = (.error e, w₁) →
              (∃ e, out.1 = .error e) ∧ Looked tenantId w out.2 :=
            fun e h => ⟨⟨e, by rw [h]⟩, by rw [h]; exact .product .nothing finds⟩
          rw [hf, follow_ok, runs_bind, runs_query] at started
          cases hn : countVariants tenantId product.id w₁ with
          | error e => exact .inl (stop e (by rw [started, hn]; rfl))
          | ok n =>
              rw [hn, follow_ok] at started
              by_cases some_variant : n > 0
              · rw [if_pos some_variant] at started
                exact .inl (stop _ started)
              · rw [if_neg some_variant] at started
                obtain rfl : n = 0 := by omega
                rw [runs_bind, runs_softRemoving] at started
                cases hv : softRemoveLoaded product w₁.db w₁ with
                | error e => exact .inl (stop e (by rw [started, hv]; rfl))
                | ok answer =>
                    obtain ⟨⟨⟩, w₂⟩ := answer
                    refine .inr ⟨product, w₁, w₂, ⟨finds, hn, hv⟩, ?_⟩
                    rw [hv, settle_ok, follow_ok, runs_bind, runs_record] at started
                    unfold published
                    cases he : AuditService.event? context (removeAudit product) with
                    | none =>
                        rw [he] at started
                        exact .unaudited started
                    | some event =>
                        rw [he] at started
                        exact .done started

end ProductService

inductive ProductOp
  | create (dto : CreateProductDto)
  | update (id : String) (dto : UpdateProductDto)
  | remove (id : String)
  | findOne (id : String)
  | findAll (query : ProductQueryDto)

/-- The state that a call of the product service leaves, whether it answers or throws. -/
def ProductOp.act (platform : Platform) (request : Request ProductOp) (w : World) : World :=
  let tenantId := request.tenantId
  match request.op with
  | .create dto => ((ProductService.create request.context tenantId dto).runs w).2
  | .update id dto => ((ProductService.update request.context tenantId id dto).runs w).2
  | .remove id => ((ProductService.remove request.context tenantId id).runs w).2
  | .findOne id => ((ProductService.findOne tenantId id).runs w).2
  | .findAll query => ((ProductService.findAll platform tenantId query).runs w).2

end Tenantory
