import Tenantory.CategoryTree
import Tenantory.ProductRuns
import Tenantory.ProgramPool
import Tenantory.StatementGuards

/-! The cache entry of one category or product, while reads of it interleave with updates
and removals. A read puts what it has read under the key some steps later; a write takes
the key away after its statements. -/

namespace Tenantory

open Svc

/-! ## One key -/

section Key

variable {α : Type} (view : CacheAside α) (Current : Database → α → Prop)

/-- The object under the key, if there is one, is as its row. -/
def EntryCurrent (w : World) : Prop := ∀ a, view.hit w = some a → Current w.db a

/-- What is put under the key is as its row by then. -/
def SetsCurrent (w : World) : Label → Prop
  | .cacheSet key value => key = view.key → ∀ a, view.cached? value = some a → Current w.db a
  | _ => True

instance [∀ db a, Decidable (Current db a)] (w : World) :
    Decidable (EntryCurrent view Current w) :=
  inferInstanceAs (Decidable (∀ a ∈ view.hit w, Current w.db a))

instance [∀ db a, Decidable (Current db a)] (w : World) (label : Label) :
    Decidable (SetsCurrent view Current w label) :=
  match label with
  | .cacheSet key value =>
      inferInstanceAs (Decidable (key = view.key → ∀ a ∈ view.cached? value, Current w.db a))
  | .query | .write | .insert _ | .save _ _ | .softRemove _ _ | .begin | .commit _ => isTrue trivial
  | .rollback _ | .insertStock _ _ | .reloadStock _ _ | .updateStock _ _ => isTrue trivial
  | .redis | .emit | .random | .sleep _ => isTrue trivial

abbrev KeepsEntry {β : Type} (p : Svc β) : Prop :=
  Svc.Keeps (SetsCurrent view Current) (EntryCurrent view Current) p

abbrev RestoresEntry {β : Type} (p : Svc β) : Prop :=
  Svc.Restores (SetsCurrent view Current) (EntryCurrent view Current) p false

variable {view Current}

theorem setKey_current {key : String} {value : Cached} {w : World}
    (current : EntryCurrent view Current w)
    (met : SetsCurrent view Current w (.cacheSet key value)) :
    EntryCurrent view Current (w.setKey key value) := by
  intro a hit
  unfold CacheAside.hit at hit
  rw [World.cached_setKey] at hit
  split at hit
  · rename_i same
    exact met same a hit
  · exact current a hit

theorem deleteKeys_current (p : String → Bool) {w : World}
    (current : EntryCurrent view Current w) : EntryCurrent view Current (w.deleteKeys p) := by
  intro a hit
  unfold CacheAside.hit at hit
  rw [World.cached_deleteKeys] at hit
  split at hit
  · cases hit
  · exact current a hit

theorem deleted_current (w : World) :
    EntryCurrent view Current (w.deleteKeys (· == view.key)) := by
  intro a hit
  unfold CacheAside.hit at hit
  rw [World.cached_deleteKeys, beq_self_eq_true, if_pos rfl] at hit
  cases hit

theorem keeps_set_entry (key : String) (value : Cached) :
    KeepsEntry view Current (CacheService.set key value) :=
  ⟨fun _ current met => setKey_current current met, fun _ => trivial⟩

theorem keeps_delByPattern_entry (pattern : String) :
    KeepsEntry view Current (CacheService.delByPattern pattern) :=
  ⟨fun _ current _ => deleteKeys_current _ current, fun _ => trivial⟩

end Key

/-! ## The calls on one entity -/

/-- A call on one entity; `δ` is what an update is given. -/
inductive EntityCall (δ : Type)
  | findOne
  | update (dto : δ)
  | remove

structure EntityRequest (δ : Type) where
  context : Option AuditContextData
  tenantId : String
  id : String
  call : EntityCall δ

/-- The request spells the entity in these words, and its audit context has a tenant. -/
structure EntityRequest.Proper {δ : Type} (request : EntityRequest δ) (tenantId id : String) :
    Prop where
  tenantId : request.tenantId = tenantId
  id : request.id = id
  audited : AuditService.Audited request.context

/-- Requests, none of which has begun. -/
def entityPool {ι δ : Type} (program : EntityRequest δ → Svc Unit)
    (requests : ι → EntityRequest δ)
    (w : World) : Pool World Err Label ι (Except Err Unit) :=
  ⟨w, fun i => (program (requests i)).run⟩

/-- Whatever requests interleave on the entity, its entry is current once all have
finished, as long as each object is still as its row when it is put under the key. -/
def EndsCurrent (ι : Type) [DecidableEq ι] {α δ : Type}
    (program : EntityRequest δ → Svc Unit)
    (tenantId id : String) (view : CacheAside α) (Current : Database → α → Prop) : Prop :=
  ∀ (requests : ι → EntityRequest δ) (w : World), (∀ i, (requests i).Proper tenantId id) →
    EntryCurrent view Current w → ∀ c : Pool World Err Label ι (Except Err Unit),
      Pool.Reach dbFault (fun w _ label => SetsCurrent view Current w label)
        (entityPool program requests w) c →
      c.Finished → EntryCurrent view Current c.state

theorem endsCurrent_of_restores {ι : Type} [DecidableEq ι] {α δ : Type}
    {program : EntityRequest δ → Svc Unit} {tenantId id : String} {view : CacheAside α}
    {Current : Database → α → Prop}
    (restores : ∀ request : EntityRequest δ, request.Proper tenantId id →
      RestoresEntry view Current (program request)) :
    EndsCurrent ι program tenantId id view Current := by
  intro requests w proper current c run finished
  have each : ∀ i, ((entityPool program requests w).progs i).Restores dbFault
      (SetsCurrent view Current) (EntryCurrent view Current) false :=
    fun i => restores (requests i) (proper i)
  exact Pool.reach_restores (I := EntryCurrent view Current) current each run finished

section Programs

variable {context : Option AuditContextData} {tenantId id : String}

namespace CategoryService

/-- The entity has the own columns of the live row under the id. -/
def OwnColumns (id : String) (db : Database) (entity : CategoryEntity) : Prop :=
  ∃ row ∈ db.categories, UuidText.uuidIn id = some row.id ∧ row.live = true ∧
    entity.name = row.name ∧ entity.slug = row.slug ∧ entity.parentId = row.parentId

instance (id : String) (db : Database) (entity : CategoryEntity) :
    Decidable (OwnColumns id db entity) :=
  inferInstanceAs (Decidable (∃ row ∈ db.categories.rows, _))

def serve (platform : Platform) (request : EntityRequest UpdateCategoryDto) : Svc Unit :=
  match request.call with
  | .findOne => discard <| findOne request.tenantId request.id
  | .update dto => discard <| update platform request.context request.tenantId request.id dto
  | .remove => remove request.context request.tenantId request.id

variable {Current : Database → CategoryEntity → Prop}

theorem update_restores (platform : Platform) (audited : AuditService.Audited context)
    (dto : UpdateCategoryDto) :
    RestoresEntry (oneView tenantId id) Current (update platform context tenantId id dto) := by
  refine restores_bind (keeps_findOne keeps_set_entry _ _) fun target =>
    restores_bind (keeps_assertSlugUnique _ _ _) fun _ =>
      restores_bind (keeps_chooseParent _ _ _ _) fun parent => restores_translated _ ?_
  refine restores_saving fun saved => restores_record audited _ (restores_del deleted_current ?_)
  exact restores_of_keeps (keeps_bind (keeps_invalidate keeps_delByPattern_entry _) fun _ =>
    keeps_pure _)

theorem remove_restores (audited : AuditService.Audited context) :
    RestoresEntry (oneView tenantId id) Current (remove context tenantId id) := by
  refine restores_bind (keeps_findOne keeps_set_entry _ _) fun target =>
    restores_bind (keeps_query _) fun count => restores_ite (restores_of_keeps (keeps_throw _)) ?_
  refine restores_softRemoving fun _ => restores_record audited _ (restores_del deleted_current ?_)
  exact restores_of_keeps (keeps_invalidate keeps_delByPattern_entry _)

theorem serve_restores (platform : Platform) (request : EntityRequest UpdateCategoryDto)
    (proper : request.Proper tenantId id) :
    RestoresEntry (oneView tenantId id) Current (serve platform request) := by
  obtain ⟨context, _, _, call⟩ := request
  obtain ⟨rfl, rfl, audited⟩ := proper
  cases call with
  | findOne => exact restores_of_keeps (keeps_map _ (keeps_findOne keeps_set_entry _ _))
  | update dto => exact restores_map _ (update_restores platform audited dto)
  | remove => exact remove_restores audited

end CategoryService

namespace ProductService

/-- The entity has the own columns of the live row under the id. -/
def OwnColumns (id : String) (db : Database) (entity : ProductEntity) : Prop :=
  ∃ row ∈ db.products, UuidText.uuidIn id = some row.id ∧ row.live = true ∧
    entity.name = row.name ∧ entity.description = row.description ∧
      entity.isActive = row.isActive ∧
        entity.categoryId = some (UuidText.uuidOut row.categoryId)

instance (id : String) (db : Database) (entity : ProductEntity) :
    Decidable (OwnColumns id db entity) :=
  inferInstanceAs (Decidable (∃ row ∈ db.products.rows, _))

def serve (request : EntityRequest UpdateProductDto) : Svc Unit :=
  match request.call with
  | .findOne => discard <| findOne request.tenantId request.id
  | .update dto => discard <| update request.context request.tenantId request.id dto
  | .remove => remove request.context request.tenantId request.id

variable {Current : Database → ProductEntity → Prop}

theorem update_restores (audited : AuditService.Audited context) (dto : UpdateProductDto) :
    RestoresEntry (oneView tenantId id) Current (update context tenantId id dto) := by
  refine restores_bind (keeps_findOne keeps_set_entry _ _) fun product =>
    restores_ite (restores_of_keeps (keeps_throw _)) (restores_bind
      (keeps_named keeps_set_entry tenantId dto) fun _ => restores_translated _ ?_)
  refine restores_saving fun saved => restores_record audited _ (restores_del deleted_current ?_)
  exact restores_of_keeps (keeps_bind (keeps_delByPattern_entry _) fun _ => keeps_pure _)

theorem remove_restores (audited : AuditService.Audited context) :
    RestoresEntry (oneView tenantId id) Current (remove context tenantId id) := by
  refine restores_bind (keeps_findOne keeps_set_entry _ _) fun product =>
    restores_bind (keeps_query _) fun count => restores_ite (restores_of_keeps (keeps_throw _)) ?_
  refine restores_softRemoving fun _ => restores_record audited _ (restores_del deleted_current ?_)
  exact restores_of_keeps (keeps_delByPattern_entry _)

theorem serve_restores (request : EntityRequest UpdateProductDto)
    (proper : request.Proper tenantId id) :
    RestoresEntry (oneView tenantId id) Current (serve request) := by
  obtain ⟨context, _, _, call⟩ := request
  obtain ⟨rfl, rfl, audited⟩ := proper
  cases call with
  | findOne => exact restores_of_keeps (keeps_map _ (keeps_findOne keeps_set_entry _ _))
  | update dto => exact restores_map _ (update_restores audited dto)
  | remove => exact remove_restores audited

end ProductService

end Programs

/-- Reads, updates and removals of a category, or of a product, leave no stale entry
of it. -/
theorem entity_entry_current (ι : Type) [DecidableEq ι] (platform : Platform)
    (tenantId id : String) :
    EndsCurrent ι (CategoryService.serve platform) tenantId id
        (CategoryService.oneView tenantId id) (CategoryService.OwnColumns id) ∧
      EndsCurrent ι ProductService.serve tenantId id (ProductService.oneView tenantId id)
        (ProductService.OwnColumns id) :=
  ⟨endsCurrent_of_restores (CategoryService.serve_restores platform),
    endsCurrent_of_restores ProductService.serve_restores⟩

namespace SampleShop

def productRequest (call : EntityCall UpdateProductDto) : EntityRequest UpdateProductDto where
  context := context
  tenantId := UuidText.uuidOut tenantId
  id := UuidText.uuidOut productId
  call := call

/-- A read of the product, and an update that takes it off sale. -/
def readAndUpdate : Fin 2 → EntityRequest UpdateProductDto
  | 0 => productRequest .findOne
  | 1 => productRequest (.update ⟨.undefined, .undefined, .undefined, .value false, .undefined⟩)

def productView : CacheAside ProductEntity :=
  ProductService.oneView (UuidText.uuidOut tenantId) (UuidText.uuidOut productId)

abbrev ProductCurrent : Database → ProductEntity → Prop :=
  ProductService.OwnColumns (UuidText.uuidOut productId)

/-- What the pool ends with: the answers, and whether the entry is there and current. -/
def entryOutcome (c : Pool World Err Label (Fin 2) (Except Err Unit)) :
    List (Option (Except Err Unit)) × Bool × Bool :=
  ([c.results.1, c.results.2], (productView.hit c.state).isSome,
    decide (EntryCurrent productView ProductCurrent c.state))

/-- The read is over before the update saves, and its entry is taken away. -/
theorem read_then_updated : ((entityPool ProductService.serve readAndUpdate
      (world unstocked)).schedule
        (fun w _ label => decide (SetsCurrent productView ProductCurrent w label))
          [0, 1, 0, 1, 0, 1, 1, 1, 1, 1, 1]).map entryOutcome =
    some ([some (.ok ()), some (.ok ())], false, true) := by decide

/-- The read has its object before the update saves, and stores it afterwards. -/
theorem stored_after_update : ((entityPool ProductService.serve readAndUpdate
      (world unstocked)).schedule (fun _ _ _ => true) [0, 0, 1, 1, 1, 1, 1, 1, 1, 1, 0]).map
        entryOutcome =
    some ([some (.ok ()), some (.ok ())], true, false) := by decide

theorem finished_of_outcome {c : Pool World Err Label (Fin 2) (Except Err Unit)}
    {present current : Bool}
    (h : entryOutcome c = ([some (.ok ()), some (.ok ())], present, current)) :
    (∀ i, c.progs i = .ret (.ok ())) ∧ (productView.hit c.state).isSome = present ∧
      decide (EntryCurrent productView ProductCurrent c.state) = current := by
  obtain ⟨answers, entry⟩ := Prod.mk.inj h
  simp only [List.cons.injEq, and_true] at answers
  refine ⟨fun i => ?_, Prod.mk.inj entry⟩
  match i with
  | 0 => exact Pool.result?_eq_some.mp answers.1
  | 1 => exact Pool.result?_eq_some.mp answers.2

theorem readAndUpdate_proper (i : Fin 2) :
    (readAndUpdate i).Proper (UuidText.uuidOut tenantId) (UuidText.uuidOut productId) := by
  have audited : AuditService.Audited (some context) :=
    ⟨context, UuidText.uuidOut tenantId, rfl, rfl, by decide⟩
  match i with
  | 0 => exact ⟨rfl, rfl, audited⟩
  | 1 => exact ⟨rfl, rfl, audited⟩

end SampleShop

theorem entity_entry_current_read_first : ∃ c, Pool.Reach dbFault
    (fun w _ label => SetsCurrent SampleShop.productView SampleShop.ProductCurrent w label)
      (entityPool ProductService.serve SampleShop.readAndUpdate
        (SampleShop.world SampleShop.unstocked)) c ∧
    (∀ i, c.progs i = .ret (.ok ())) ∧
      EntryCurrent SampleShop.productView SampleShop.ProductCurrent c.state := by
  obtain ⟨c, run, seen⟩ := Pool.exists_of_schedule SampleShop.read_then_updated
  obtain ⟨resolved, -⟩ := SampleShop.finished_of_outcome seen
  have met : Pool.Reach dbFault
      (fun w _ label => SetsCurrent SampleShop.productView SampleShop.ProductCurrent w label) _ c :=
    run.mono fun _ _ _ current => of_decide_eq_true current
  have shown := (entity_entry_current (Fin 2) SampleShop.plainText
    (UuidText.uuidOut SampleShop.tenantId) (UuidText.uuidOut SampleShop.productId)).2
    SampleShop.readAndUpdate _ SampleShop.readAndUpdate_proper (by decide) c met
    (fun i => by simp [resolved i, Pool.result?])
  exact ⟨c, met, resolved, shown⟩

/-- Both calls have resolved, and the entry still has the product on sale. -/
theorem taken_off_sale_still_cached : ∃ c, Pool.Reach dbFault (fun _ _ _ => True)
    (entityPool ProductService.serve SampleShop.readAndUpdate
      (SampleShop.world SampleShop.unstocked)) c ∧
    (∀ i, (SampleShop.readAndUpdate i).Proper (UuidText.uuidOut SampleShop.tenantId)
      (UuidText.uuidOut SampleShop.productId)) ∧ (∀ i, c.progs i = .ret (.ok ())) ∧
      ¬ EntryCurrent SampleShop.productView SampleShop.ProductCurrent c.state := by
  obtain ⟨c, run, seen⟩ := Pool.exists_of_schedule SampleShop.stored_after_update
  obtain ⟨resolved, -, stale⟩ := SampleShop.finished_of_outcome seen
  exact ⟨c, run.mono fun _ _ _ _ => trivial, SampleShop.readAndUpdate_proper, resolved,
    of_decide_eq_false stale⟩

end Tenantory
