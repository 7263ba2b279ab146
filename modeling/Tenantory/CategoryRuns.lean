import Tenantory.CacheAside
import Tenantory.CategoryService
import Tenantory.StoredRows

/-! The operations on categories, each run by itself: what it answers with, from where
it took the category and which statements it made. -/

namespace Tenantory
namespace CategoryService

open Svc

variable {platform : Platform} {context : Option AuditContextData} {tenantId id : String}
  {w w' : World}

def oneView (tenantId id : String) : CacheAside CategoryEntity where
  key := CacheKeys.category tenantId id
  cached? := Cached.category?
  wrap := .category
  fresh _ w := orMissing
    (.notFound s!"Category with ID \"{id}\" not found for tenant {tenantId}")
      (readOne tenantId id w)
  ranks := false

/-- The page that `findAll` makes of the rows it reads. -/
def pageOf (query : CategoryQueryDto) (rows : List CategoryEntity × ℕ) :
    PaginatedResponse CategoryEntity :=
  let limit := query.limit.getD 10
  paginated rows.1 rows.2 (pageCount rows.2 limit) (query.page.getD 1) limit (createLink limit)

def pageView (platform : Platform) (tenantId : String) (query : CategoryQueryDto) :
    CacheAside (PaginatedResponse CategoryEntity) where
  key := CacheKeys.categoriesList platform tenantId query.toJson
  cached? := Cached.categoriesList?
  wrap := .categoriesList
  fresh ties w := (readPage platform tenantId query (query.page.getD 1) (query.limit.getD 10)
    ties w).map (pageOf query)
  ranks := true

def treeView (platform : Platform) (tenantId : String) : CacheAside (List CategoryNode) where
  key := CacheKeys.categoriesTree tenantId
  cached? := Cached.categoriesTree?
  wrap := .categoriesTree
  fresh ties w := do
    let result ← readTree platform tenantId ties w
    if result.isEmpty then .error (.notFound s!"There is no category for tenant {tenantId}")
    else .ok (buildTree result)
  ranks := true

/-- `findOne` answers with `target`, from the cache or the database, and leaves `w'`. -/
abbrev Finds (tenantId id : String) : World → CategoryEntity → World → Prop :=
  (oneView tenantId id).Finds

theorem runs_findOne (tenantId id : String) (w : World) :
    (findOne tenantId id).runs w = (oneView tenantId id).answer w := by
  unfold CacheAside.answer CacheAside.hit
  simp only [findOne, runs_bind, runs_get, follow_ok, oneView]
  cases (w.cached (CacheKeys.category tenantId id)).bind Cached.category? with
  | some target => rfl
  | none =>
      simp only [runs_bind, runs_query]
      cases readOne tenantId id w with
      | error e => rfl
      | ok found => cases found <;> rfl

theorem runs_findAll (platform : Platform) (tenantId : String) (query : CategoryQueryDto)
    (w : World) :
    (findAll platform tenantId query).runs w = (pageView platform tenantId query).answer w := by
  unfold CacheAside.answer CacheAside.hit
  simp only [findAll, runs_bind, runs_get, follow_ok, pageView]
  cases (w.cached (CacheKeys.categoriesList platform tenantId query.toJson)).bind
      Cached.categoriesList? with
  | some page => rfl
  | none =>
      simp only [runs_bind, runs_listing]
      cases readPage platform tenantId query (query.page.getD 1) (query.limit.getD 10)
          (w.ties 0) w with
      | error e => rfl
      | ok rows => rfl

theorem runs_findTree (platform : Platform) (tenantId : String) (w : World) :
    (findTree platform tenantId).runs w = (treeView platform tenantId).answer w := by
  unfold CacheAside.answer CacheAside.hit
  simp only [findTree, runs_bind, runs_get, follow_ok, treeView]
  cases (w.cached (CacheKeys.categoriesTree tenantId)).bind Cached.categoriesTree? with
  | some roots => rfl
  | none =>
      simp only [runs_bind, runs_listing]
      cases readTree platform tenantId (w.ties 0) w with
      | error e => rfl
      | ok result => cases result <;> rfl

theorem finds_iff {target : CategoryEntity} :
    (findOne tenantId id).runs w = (.ok target, w') ↔ Finds tenantId id w target w' := by
  rw [runs_findOne]
  exact CacheAside.finds_iff

theorem findOne_error {e : Err} (h : ((findOne tenantId id).runs w).1 = .error e) :
    ((findOne tenantId id).runs w).2 = w := by
  rw [runs_findOne] at h ⊢
  exact CacheAside.answer_error h

/-! ## Updates -/

def newSlug (platform : Platform) (dto : UpdateCategoryDto) (target : CategoryEntity) : String :=
  match dto.slug.truthy, dto.name.truthy with
  | some slug, _ => SlugText.generateSlug platform slug
  | none, some name => SlugText.generateSlug platform name
  | none, none => target.slug

/-- The target with what the DTO assigns to it. -/
def edited (platform : Platform) (dto : UpdateCategoryDto) (target : CategoryEntity)
    (parent : Option (Option CategoryColumns)) : CategoryEntity :=
  { target with
    name := dto.name.truthy.getD target.name
    slug := newSlug platform dto target
    parent }

/-- The id that the check of the slug leaves out. -/
def excluded (id : String) : Option String := if id = "" then none else some id

/-- What follows a write of a category. -/
def invalidate (tenantId : String) (w : World) : World :=
  (w.deleteKeys (CacheService.glob (CacheKeys.categoriesPattern tenantId))).deleteKeys
    (CacheService.glob (CacheKeys.productsPattern tenantId))

theorem runs_chooseParent (tenantId id : String) (parentId : Property String)
    (current : Option (Option CategoryColumns)) (w : World) :
    ((chooseParent tenantId id parentId current).runs w).2 = w := by
  cases parentId with
  | undefined => rfl
  | null => rfl
  | value parentId =>
      simp only [chooseParent]
      split
      · rfl
      · split
        · rfl
        · simp only [assertParentExists, runs_bind, runs_query]
          cases readParent tenantId parentId w with
          | error e => rfl
          | ok found => cases found <;> rfl

/-! `save` and `softRemove` with nothing between their SELECT and what they write. -/

def save (entity : CategoryEntity) (w : World) : Except Err (CategoryEntity × World) :=
  saveLoaded entity w.db w

def softRemove (entity : CategoryEntity) (w : World) : Except Err (Unit × World) :=
  softRemoveLoaded entity w.db w

theorem save_eq (entity : CategoryEntity) (w : World) :
    save entity w = (match w.db.rowById Category entity.id with
      | none => .error .notNullViolation
      | some stored => do
          let w₁ ← w.update entity.id (overwrite entity w.clock)
          let w₂ ← saveChildren entity w.db w₁
          pure ({ entity with updatedAt := (overwrite entity w.clock stored).updatedAt },
            w₂)) := by
  unfold save saveLoaded
  cases found : w.db.rowById Category entity.id with
  | none => rfl
  | some stored =>
      obtain ⟨mem, same⟩ := Database.rowById_eq_some found
      have merged : w.update entity.id (merge (overwrite entity w.clock stored) stored) =
          w.update entity.id (overwrite entity w.clock) := by
        refine World.update_congr fun r hr hi => ?_
        obtain rfl := Table.eq_of_id hr mem (hi.trans same.symm)
        exact merge_self _ _
      simp only [merged]

/-- The statements of an update, from where it finds its target to where it saves it. -/
structure Updates (platform : Platform) (tenantId id : String) (dto : UpdateCategoryDto)
    (w : World) (target : CategoryEntity) (w₁ : World) (parent : Option (Option CategoryColumns))
    (saved : CategoryEntity) (w₂ : World) : Prop where
  finds : Finds tenantId id w target w₁
  free : slugExists tenantId (newSlug platform dto target) (excluded id) w₁ = .ok false
  chooses : (chooseParent tenantId id dto.parentId target.parent).runs w₁ = (.ok parent, w₁)
  saves : save (edited platform dto target parent) w₁ = .ok (saved, w₂)

/-- What follows the statement that saved a category. -/
def published (context : Option AuditContextData) (input : AuditEventInput) (tenantId id : String)
    (w : World) : Option World :=
  (AuditService.event? context input).map fun event =>
    invalidate tenantId
      (World.deleteKeys { w with journal := w.journal ++ [.auditLog event] }
        (· == CacheKeys.category tenantId id))

/-- An update fails before it writes, or writes and is published, or writes and then
lacks the tenant for its audit record. -/
theorem update_cases (platform : Platform) (context : Option AuditContextData)
    (tenantId id : String) (dto : UpdateCategoryDto) (w : World) :
    let out := (update platform context tenantId id dto).runs w
    ((∃ e, out.1 = .error e) ∧ (out.2 = w ∨ ∃ target, Finds tenantId id w target out.2)) ∨
      ∃ target w₁ parent saved w₂, Updates platform tenantId id dto w target w₁ parent
        saved w₂ ∧
        ((∃ w₃, published context (updateAudit target saved) tenantId id w₂ = some w₃ ∧
            out = (.ok saved, w₃)) ∨
          published context (updateAudit target saved) tenantId id w₂ = none ∧
            out = (.error AuditService.missingTenant, w₂)) := by
  intro out
  have started : out = follow (fun target => do
      assertSlugUnique tenantId (newSlug platform dto target) (excluded id)
      let parent ← chooseParent tenantId id dto.parentId target.parent
      translated slugTaken do
        let saved ← saving (.category (edited platform dto target parent))
          (saveLoaded (edited platform dto target parent))
        AuditService.record context (updateAudit target saved)
        CacheService.del (CacheKeys.category tenantId id)
        invalidateCollections tenantId
        pure saved) ((findOne tenantId id).runs w) := by
    rw [← runs_bind]
    rfl
  cases hf : (findOne tenantId id).runs w with
  | mk answer w₁ =>
      cases answer with
      | error e =>
          have same := findOne_error (w := w) (by rw [hf])
          rw [hf] at started same
          exact .inl ⟨⟨e, by rw [started]; rfl⟩, .inl (by rw [started]; exact same)⟩
      | ok target =>
          have finds := finds_iff.mp hf
          have stop : ∀ e, out = (.error e, w₁) → (∃ e, out.1 = .error e) ∧
              (out.2 = w ∨ ∃ target, Finds tenantId id w target out.2) :=
            fun e h => ⟨⟨e, by rw [h]⟩, .inr ⟨target, by rw [h]; exact finds⟩⟩
          rw [hf, follow_ok, runs_bind] at started
          simp only [assertSlugUnique, runs_bind, runs_query] at started
          cases hs : slugExists tenantId (newSlug platform dto target) (excluded id) w₁ with
          | error e => exact .inl (stop e (by rw [started, hs]; rfl))
          | ok taken =>
              cases taken with
              | true => exact .inl (stop slugTaken (by rw [started, hs]; rfl))
              | false =>
                  cases hp : (chooseParent tenantId id dto.parentId target.parent).runs w₁ with
                  | mk answer w₁' =>
                      have same := runs_chooseParent tenantId id
                        dto.parentId target.parent w₁
                      rw [hp] at same
                      obtain rfl : w₁' = w₁ := same
                      rw [hs] at started
                      simp only [follow_ok, Bool.false_eq_true, if_false, runs_pure, runs_bind, hp]
                        at started
                      cases answer with
                      | error e => exact .inl (stop e started)
                      | ok parent =>
                          rw [follow_ok, runs_translated, runs_bind, runs_saving] at started
                          cases hv : saveLoaded (edited platform dto target parent)
                            w₁'.db w₁' with
                          | error e =>
                              exact .inl (stop (reported slugTaken e) (by rw [started, hv]; rfl))
                          | ok answer =>
                              obtain ⟨saved, w₂⟩ := answer
                              have steps : Updates platform tenantId id dto w target w₁' parent
                                saved w₂ := ⟨finds, hs, hp, hv⟩
                              refine .inr ⟨target, w₁', parent, saved, w₂, steps, ?_⟩
                              rw [hv, settle_ok, follow_ok, runs_bind, runs_record] at started
                              unfold published
                              cases he : AuditService.event? context (updateAudit target saved) with
                              | none =>
                                  rw [he] at started
                                  exact .inr ⟨rfl, started⟩
                              | some event =>
                                  rw [he] at started
                                  exact .inl ⟨_, rfl, started⟩

/-- An update that makes its statements and has a tenant for its audit answers. -/
theorem update_answers {dto : UpdateCategoryDto} {target saved : CategoryEntity} {w₁ w₂ : World}
    {parent : Option (Option CategoryColumns)}
    (steps : Updates platform tenantId id dto w target w₁ parent saved w₂)
    (audited : AuditService.Audited context) :
    ((update platform context tenantId id dto).runs w).1 = .ok saved := by
  have started : (update platform context tenantId id dto).runs w = follow (fun target => do
      assertSlugUnique tenantId (newSlug platform dto target) (excluded id)
      let parent ← chooseParent tenantId id dto.parentId target.parent
      translated slugTaken do
        let saved ← saving (.category (edited platform dto target parent))
          (saveLoaded (edited platform dto target parent))
        AuditService.record context (updateAudit target saved)
        CacheService.del (CacheKeys.category tenantId id)
        invalidateCollections tenantId
        pure saved) ((findOne tenantId id).runs w) := by
    rw [← runs_bind]
    rfl
  obtain ⟨event, recorded⟩ := AuditService.event?_of_audited audited (updateAudit target saved)
  have saves : saveLoaded (edited platform dto target parent) w₁.db w₁ = .ok (saved, w₂) :=
    steps.saves
  rw [started, finds_iff.mpr steps.finds, follow_ok]
  simp only [runs_bind, assertSlugUnique, runs_query, steps.free, follow_ok, Bool.false_eq_true,
    if_false, runs_pure, steps.chooses, runs_translated, runs_saving, saves, settle_ok,
    runs_record, recorded]
  rfl

/-! ## Creations and removals -/

/-- The parent that a creation names, or none. -/
def namedParent (tenantId : String) (parentId : Property String) (w : World) :
    Except Err (Option Category) :=
  (parentId.truthy.mapM (assertParentExists tenantId)).runs w |>.1

theorem runs_namedParent (parentId : Property String) (w : World) :
    (parentId.truthy.mapM (assertParentExists tenantId)).runs w =
      (namedParent tenantId parentId w, w) := by
  unfold namedParent
  refine Prod.ext rfl ?_
  cases parentId.truthy with
  | none => rfl
  | some parentId =>
      simp only [Option.mapM_some, assertParentExists, runs_map, runs_bind, runs_query]
      cases readParent tenantId parentId w with
      | error e => rfl
      | ok found => cases found <;> rfl

def newCategorySlug (platform : Platform) (dto : CreateCategoryDto) : String :=
  SlugText.generateSlug platform (dto.slug.truthy.getD dto.name)

/-- The statements of a creation. -/
structure Creates (platform : Platform) (tenantId : String) (dto : CreateCategoryDto) (w : World)
    (parent : Option Category) (category : CategoryEntity) (w₂ : World) : Prop where
  free : slugExists tenantId (newCategorySlug platform dto) none w = .ok false
  names : namedParent tenantId dto.parentId w = .ok parent
  inserts : insert tenantId dto.name (newCategorySlug platform dto) parent w = .ok (category, w₂)

def createAudit (category : CategoryEntity) : AuditEventInput where
  action := .create
  entityType := .category
  entityId := UuidText.uuidOut category.id
  oldValues := none
  newValues := some (.obj [("name", .str category.name), ("slug", .str category.slug)])
  metadata := none
  actorId := none

theorem create_cases (platform : Platform) (context : Option AuditContextData) (tenantId : String)
    (dto : CreateCategoryDto) (w : World) :
    let out := (create platform context tenantId dto).runs w
    ((∃ e, out.1 = .error e) ∧ out.2 = w) ∨
      ∃ parent category w₂, Creates platform tenantId dto w parent category w₂ ∧
        ((∃ event, AuditService.event? context (createAudit category) = some event ∧
            out = (.ok category,
              invalidate tenantId { w₂ with journal := w₂.journal ++ [.auditLog event] })) ∨
          AuditService.event? context (createAudit category) = none ∧
            out = (.error AuditService.missingTenant, w₂)) := by
  intro out
  have stop : ∀ e, out = (.error e, w) → (∃ e, out.1 = .error e) ∧ out.2 = w :=
    fun e h => ⟨⟨e, by rw [h]⟩, by rw [h]⟩
  have started : out = follow (fun _ => do
      let parent ← dto.parentId.truthy.mapM (assertParentExists tenantId)
      translated slugTaken do
        let category ←
          statement (.insert (.category tenantId dto.name (newCategorySlug platform dto)
          (parent.map (·.id)))) (insert tenantId dto.name (newCategorySlug platform dto) parent)
        AuditService.record context (createAudit category)
        invalidateCollections tenantId
        pure category)
          ((assertSlugUnique tenantId (newCategorySlug platform dto) none).runs w) := by
    rw [← runs_bind]
    rfl
  simp only [assertSlugUnique, runs_bind, runs_query] at started
  cases hs : slugExists tenantId (newCategorySlug platform dto) none w with
  | error e => exact .inl (stop e (by rw [started, hs]; rfl))
  | ok taken =>
      cases taken with
      | true => exact .inl (stop slugTaken (by rw [started, hs]; rfl))
      | false =>
          rw [hs] at started
          simp only [follow_ok, Bool.false_eq_true, if_false, runs_pure, runs_bind,
            runs_namedParent] at started
          cases hp : namedParent tenantId dto.parentId w with
          | error e => exact .inl (stop e (by rw [started, hp]; rfl))
          | ok parent =>
              rw [hp, follow_ok, runs_translated, runs_bind, runs_statement] at started
              cases hv : insert tenantId dto.name (newCategorySlug platform dto) parent w with
              | error e => exact .inl (stop (reported slugTaken e) (by rw [started, hv]; rfl))
              | ok answer =>
                  obtain ⟨category, w₂⟩ := answer
                  refine .inr ⟨parent, category, w₂, ⟨hs, hp, hv⟩, ?_⟩
                  rw [hv, settle_ok, follow_ok, runs_bind, runs_record] at started
                  cases he : AuditService.event? context (createAudit category) with
                  | none =>
                      rw [he] at started
                      exact .inr ⟨rfl, started⟩
                  | some event =>
                      rw [he] at started
                      exact .inl ⟨event, rfl, started⟩

/-- A creation that makes its statements and has a tenant for its audit answers. -/
theorem create_answers {dto : CreateCategoryDto} {parent : Option Category}
    {category : CategoryEntity} {w₂ : World}
    (steps : Creates platform tenantId dto w parent category w₂)
    (audited : AuditService.Audited context) :
    ((create platform context tenantId dto).runs w).1 = .ok category := by
  have started : (create platform context tenantId dto).runs w = follow (fun _ => do
      let parent ← dto.parentId.truthy.mapM (assertParentExists tenantId)
      translated slugTaken do
        let category ←
          statement (.insert (.category tenantId dto.name (newCategorySlug platform dto)
          (parent.map (·.id)))) (insert tenantId dto.name (newCategorySlug platform dto) parent)
        AuditService.record context (createAudit category)
        invalidateCollections tenantId
        pure category)
          ((assertSlugUnique tenantId (newCategorySlug platform dto) none).runs w) := by
    rw [← runs_bind]
    rfl
  obtain ⟨event, recorded⟩ := AuditService.event?_of_audited audited (createAudit category)
  rw [started]
  simp only [assertSlugUnique, runs_bind, runs_query, steps.free, follow_ok, Bool.false_eq_true,
    if_false, runs_pure, runs_namedParent, steps.names, runs_translated, runs_statement,
    steps.inserts, settle_ok, runs_record, recorded]
  rfl

/-- The statements of a removal. -/
structure Removes (tenantId id : String) (w : World) (target : CategoryEntity) (w₁ w₂ : World) :
    Prop where
  finds : Finds tenantId id w target w₁
  childless : countChildren tenantId id w₁ = .ok 0
  removes : softRemove target w₁ = .ok ((), w₂)

def removeAudit (target : CategoryEntity) : AuditEventInput where
  action := .delete
  entityType := .category
  entityId := UuidText.uuidOut target.id
  oldValues := some (.obj [("name", .str target.name), ("slug", .str target.slug)])
  newValues := none
  metadata := none
  actorId := none

theorem remove_cases (context : Option AuditContextData) (tenantId id : String) (w : World) :
    let out := (remove context tenantId id).runs w
    ((∃ e, out.1 = .error e) ∧ (out.2 = w ∨ ∃ target, Finds tenantId id w target out.2)) ∨
      ∃ target w₁ w₂, Removes tenantId id w target w₁ w₂ ∧
        ((∃ w₃, published context (removeAudit target) tenantId id w₂ = some w₃ ∧
            out = (.ok (), w₃)) ∨
          published context (removeAudit target) tenantId id w₂ = none ∧
            out = (.error AuditService.missingTenant, w₂)) := by
  intro out
  have started : out = follow (fun target => do
      let numberOfChildren ← query (countChildren tenantId id)
      if numberOfChildren > 0 then
        throw (.conflict (s!"Cannot delete category \"{id}\" because it has child categories. " ++
          "Please delete or reassign all child categories first."))
      softRemoving (.category target) (softRemoveLoaded target)
      AuditService.record context (removeAudit target)
      CacheService.del (CacheKeys.category tenantId id)
      invalidateCollections tenantId) ((findOne tenantId id).runs w) := by
    rw [← runs_bind]
    rfl
  cases hf : (findOne tenantId id).runs w with
  | mk answer w₁ =>
      cases answer with
      | error e =>
          have same := findOne_error (w := w) (by rw [hf])
          rw [hf] at started same
          exact .inl ⟨⟨e, by rw [started]; rfl⟩, .inl (by rw [started]; exact same)⟩
      | ok target =>
          have finds := finds_iff.mp hf
          have stop : ∀ e, out = (.error e, w₁) → (∃ e, out.1 = .error e) ∧
              (out.2 = w ∨ ∃ target, Finds tenantId id w target out.2) :=
            fun e h => ⟨⟨e, by rw [h]⟩, .inr ⟨target, by rw [h]; exact finds⟩⟩
          rw [hf, follow_ok, runs_bind, runs_query] at started
          cases hn : countChildren tenantId id w₁ with
          | error e => exact .inl (stop e (by rw [started, hn]; rfl))
          | ok n =>
              rw [hn, follow_ok] at started
              by_cases some_child : n > 0
              · rw [if_pos some_child] at started
                exact .inl (stop _ started)
              · rw [if_neg some_child] at started
                obtain rfl : n = 0 := by omega
                rw [runs_bind, runs_softRemoving] at started
                cases hv : softRemoveLoaded target w₁.db w₁ with
                | error e => exact .inl (stop e (by rw [started, hv]; rfl))
                | ok answer =>
                    obtain ⟨⟨⟩, w₂⟩ := answer
                    refine .inr ⟨target, w₁, w₂, ⟨finds, hn, hv⟩, ?_⟩
                    rw [hv, settle_ok, follow_ok, runs_bind, runs_record] at started
                    unfold published
                    cases he : AuditService.event? context (removeAudit target) with
                    | none =>
                        rw [he] at started
                        exact .inr ⟨rfl, started⟩
                    | some event =>
                        rw [he] at started
                        exact .inl ⟨_, rfl, started⟩

theorem published_db {input : AuditEventInput}
    (h : published context input tenantId id w = some w') :
    w'.db = w.db := by
  unfold published at h
  cases he : AuditService.event? context input with
  | none => simp [he] at h
  | some event =>
      rw [he] at h
      cases h
      rfl

theorem published_cache {input : AuditEventInput}
    (h : published context input tenantId id w = some w') : w'.cache ⊆ w.cache := by
  unfold published at h
  cases he : AuditService.event? context input with
  | none => simp [he] at h
  | some event =>
      rw [he] at h
      cases h
      intro entry mem
      exact List.mem_of_mem_filter (List.mem_of_mem_filter (List.mem_of_mem_filter mem))

end CategoryService

/-! ## Calls -/

inductive CategoryOp
  | create (dto : CreateCategoryDto)
  | update (id : String) (dto : UpdateCategoryDto)
  | remove (id : String)
  | findOne (id : String)
  | findAll (query : CategoryQueryDto)
  | findTree

/-- The state that a call of the category service leaves, whether it answers or throws. -/
def CategoryOp.act (platform : Platform) (request : Request CategoryOp) (w : World) : World :=
  let tenantId := request.tenantId
  match request.op with
  | .create dto => ((CategoryService.create platform request.context tenantId dto).runs w).2
  | .update id dto => ((CategoryService.update platform request.context tenantId id dto).runs w).2
  | .remove id => ((CategoryService.remove request.context tenantId id).runs w).2
  | .findOne id => ((CategoryService.findOne tenantId id).runs w).2
  | .findAll query => ((CategoryService.findAll platform tenantId query).runs w).2
  | .findTree => ((CategoryService.findTree platform tenantId).runs w).2

end Tenantory
