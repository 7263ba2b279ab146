import Tenantory.AttestedCalls
import Tenantory.ProductWrites

/-! Variants and categories below live rows, and what the statements of removals, creations and
updates make of them. A removal counts what hangs below the row, a creation looks for a live
parent; both act in a later statement. -/

namespace Tenantory

open Stored Svc

/-- No live row hangs below a deleted one. -/
structure NoOrphans (db : Database) : Prop where
  variants : ∀ v ∈ db.variants, v.live = true → ∀ p ∈ db.products,
    v.productId = p.id → p.live = true
  categories : ∀ c ∈ db.categories, c.live = true →
    ∀ p ∈ db.categories, c.parentId = some p.id → p.live = true

instance (db : Database) : Decidable (NoOrphans db) :=
  decidable_of_iff ((∀ v ∈ db.variants.rows, v.live = true → ∀ p ∈ db.products.rows,
      v.productId = p.id → p.live = true) ∧ ∀ c ∈ db.categories.rows, c.live = true →
        ∀ p ∈ db.categories.rows, c.parentId = some p.id → p.live = true)
    ⟨fun h => ⟨h.1, h.2⟩, fun h => ⟨h.variants, h.categories⟩⟩

/-! ## What a statement acts on -/

/-- The UPDATE that a save makes of `row` finds a live parent for it where it moves or
revives it, and a live row to hang the listed children below. -/
structure SavedBelow (db loaded : Database) (entity : CategoryEntity) (stored row : Category) :
    Prop where
  undeleted : entity.deletedAt = none
  parent : let saved := CategoryService.merge (CategoryService.written entity stored) stored row
    saved.live = true → (row.live = true → row.parentId ≠ saved.parentId) →
      ∀ p ∈ db.categories, p.id ≠ entity.id → saved.parentId = some p.id → p.live = true
  children : ∀ c ∈ db.categories, c.live = true →
    (entity.rebound loaded).any (·.id == c.id) = true →
      (CategoryService.merge (CategoryService.written entity stored) stored row).live = true

/-- What a call has looked up still holds at the statement that relies on it: the parent
of a new or moved row is live, nothing live is left below a removed row. -/
def StillHolds (w : World) : Label → Prop
  | .insert (.variant _ productId _) => ∀ p ∈ w.db.products,
      UuidText.uuidIn productId = some p.id → p.live = true
  | .insert (.category _ _ _ parentId) => ∀ p ∈ w.db.categories,
      parentId = some p.id → p.live = true
  | .save (.category entity) loaded =>
      ∀ stored, loaded.rowById Category entity.id = some stored →
      ∀ row ∈ w.db.categories, row.id = entity.id → SavedBelow w.db loaded entity stored row
  | .softRemove (.category entity) loaded => ∀ c ∈ w.db.categories, c.live = true →
      c.id ≠ entity.id → (entity.relinked loaded w.clock c).parentId ≠ some entity.id
  | .softRemove (.product entity) loaded => ∀ v ∈ w.db.variants, v.live = true →
      (entity.relinked loaded w.clock v).productId ≠ entity.id
  | _ => True

/-- What the statements make of the tables: no row comes to hang below a deleted one, and
tenants and the owners of categories stay. -/
structure Hung (db db' : Database) : Prop where
  below : NoOrphans db → NoOrphans db'
  tenants : db'.tenants = db.tenants
  owners : ∀ r ∈ db.categories, ∃ s ∈ db'.categories,
    s.id = r.id ∧ s.tenantId = r.tenantId

theorem Hung.refl (db : Database) : Hung db db := ⟨id, rfl, fun r mem => ⟨r, mem, rfl, rfl⟩⟩

theorem Hung.trans {db db' db'' : Database} (h : Hung db db') (h' : Hung db' db'') :
    Hung db db'' := by
  refine ⟨fun below => h'.below (h.below below), h'.tenants.trans h.tenants, fun r mem => ?_⟩
  obtain ⟨s, mem', id, owner⟩ := h.owners r mem
  obtain ⟨t, mem'', id', owner'⟩ := h'.owners s mem'
  exact ⟨t, mem'', id'.trans id, owner'.trans owner⟩

/-- Every statement that acts on what still holds hangs rows below live ones. -/
def KeepsBelow {α : Type} (p : Svc α) : Prop := ∀ db, KeepsTables StillHolds (Hung db) p

theorem keepsBelow_statement {α : Type} {label : Label} {act : World → Except Err (α × World)}
    (h : ∀ w a w', StillHolds w label → act w = .ok (a, w') → Hung w.db w'.db) :
    KeepsBelow (statement label act) := fun _ =>
  keeps_statement fun w a w' before holds done => before.trans (h w a w' holds done)

theorem keepsBelow_saving {α : Type} {entity : StoredObject}
    {act : Database → World → Except Err (α × World)}
    (h : ∀ loaded w a w', StillHolds w (.save entity loaded) → act loaded w = .ok (a, w') →
      Hung w.db w'.db) : KeepsBelow (saving entity act) := fun _ =>
  keeps_saving fun loaded w a w' before holds done => before.trans (h loaded w a w' holds done)

theorem keepsBelow_softRemoving {α : Type} {entity : StoredObject}
    {act : Database → World → Except Err (α × World)}
    (h : ∀ loaded w a w', StillHolds w (.softRemove entity loaded) →
      act loaded w = .ok (a, w') →
      Hung w.db w'.db) : KeepsBelow (softRemoving entity act) := fun _ =>
  keeps_softRemoving fun loaded w a w' before holds done =>
    before.trans (h loaded w a w' holds done)

section Services

variable {w w' : World} {loaded : Database} {context : Option AuditContextData}
  {tenantId id productId : String}

/-! ## Products and variants -/

namespace ProductService

theorem softRemove_below {entity : ProductEntity} (none_below : NoOrphans w.db)
    (holds : StillHolds w (.softRemove (.product entity) loaded))
    (h : softRemoveLoaded entity loaded w = .ok ((), w')) : NoOrphans w'.db := by
  obtain ⟨t, v, rows, -, vrows, rfl⟩ := softRemoveLoaded_ok h
  refine ⟨fun u hu live p hp below => ?_, none_below.categories⟩
  have hu' : u ∈ v.rows := hu
  have hp' : p ∈ t.rows := hp
  rw [vrows] at hu'
  rw [rows] at hp'
  obtain ⟨u, stored, rfl⟩ := List.mem_map.mp hu'
  obtain ⟨p, product, rfl⟩ := List.mem_map.mp hp'
  have away := holds u stored
  unfold ProductEntity.relinked at live below away
  split at live
  · rename_i listed
    rw [if_pos listed] at away
    exact absurd rfl (away live)
  · rename_i listed
    rw [if_neg listed] at below away
    have apart : p.id ≠ entity.id := fun same => away live (by
      rw [below]
      split <;> exact same)
    rw [if_neg apart] at below ⊢
    exact none_below.variants u stored live p product below

theorem softRemove_hung {entity : ProductEntity}
    (holds : StillHolds w (.softRemove (.product entity) loaded))
    (h : softRemoveLoaded entity loaded w = .ok ((), w')) : Hung w.db w'.db := by
  have below := fun none_below => softRemove_below none_below holds h
  obtain ⟨t, v, -, -, -, rfl⟩ := softRemoveLoaded_ok h
  exact ⟨below, rfl, fun r mem => ⟨r, mem, rfl, rfl⟩⟩

theorem remove_below : KeepsBelow (remove context tenantId id) := by
  refine fun db => keeps_bind (keeps_findOne keeps_set _ _) fun product =>
    keeps_bind (keeps_query _) fun count => keeps_ite (keeps_throw _) (keeps_bind ?_ fun _ => ?_)
  · exact keepsBelow_softRemoving (fun loaded w _ w' holds h => softRemove_hung holds h) db
  · exact keeps_bind (keeps_record _ _) fun _ => keeps_bind (keeps_del _) fun _ =>
      keeps_delByPattern _

end ProductService

namespace VariantService

theorem insert_below {dto : CreateVariantDto} {saved : ProductVariant}
    (none_below : NoOrphans w.db)
    (holds : StillHolds w (.insert (.variant tenantId productId dto.sku)))
    (h : insert tenantId productId dto w = .ok (saved, w')) : NoOrphans w'.db := by
  obtain ⟨tenant, product, t, -, named, -, rfl, rows, rfl⟩ := insert_ok h
  refine ⟨fun v hv live p hp below => ?_, none_below.categories⟩
  have hv' : v ∈ t.rows := hv
  rw [rows] at hv'
  rcases List.mem_append.mp hv' with old | added
  · exact none_below.variants v old live p hp below
  · obtain rfl := List.mem_singleton.mp added
    exact holds p hp (below ▸ named)

theorem insert_hung {dto : CreateVariantDto} {saved : ProductVariant}
    (holds : StillHolds w (.insert (.variant tenantId productId dto.sku)))
    (h : insert tenantId productId dto w = .ok (saved, w')) : Hung w.db w'.db := by
  have below := fun none_below => insert_below none_below holds h
  obtain ⟨tenant, product, t, -, -, -, -, -, rfl⟩ := insert_ok h
  exact ⟨below, rfl, fun r mem => ⟨r, mem, rfl, rfl⟩⟩

theorem create_below (dto : CreateVariantDto) :
    KeepsBelow (create context tenantId productId dto) := by
  refine fun db => keeps_bind (keeps_findProduct _ _) fun _ =>
    keeps_bind (keeps_assertSkuUniqueness _ _ _) fun _ =>
      keeps_translated _ (keeps_bind ?_ fun saved => ?_)
  · exact keepsBelow_statement (fun w saved w' holds h => insert_hung holds h) db
  · exact keeps_bind (keeps_record _ _) fun _ => keeps_pure _

end VariantService

/-! ## Categories -/

namespace CategoryService

variable {entity saved : CategoryEntity}

theorem insert_below {name slug : String} {parent : Option Category} (none_below : NoOrphans w.db)
    (holds : StillHolds w (.insert (.category tenantId name slug (parent.map (·.id)))))
    (h : insert tenantId name slug parent w = .ok (saved, w')) : NoOrphans w'.db := by
  obtain ⟨tenant, t, -, -, -, rows, rfl⟩ := insert_ok h
  refine ⟨none_below.variants, fun c hc live p hp below => ?_⟩
  have hc' : c ∈ t.rows := hc
  have hp' : p ∈ t.rows := hp
  rw [rows] at hc' hp'
  rcases List.mem_append.mp hp' with old_parent | added
  · rcases List.mem_append.mp hc' with old | added
    · exact none_below.categories c old live p old_parent below
    · obtain rfl := List.mem_singleton.mp added
      exact holds p old_parent below
  · obtain rfl := List.mem_singleton.mp added
    rfl

/-- Rows that change under their ids hang below live ones if each one's new parent is
live afterwards. -/
theorem below_of_map {t u : Table Category} {f : Category → Category}
    (rows : u.rows = t.rows.map f) (ids : ∀ r, (f r).id = r.id)
    (parents : ∀ r ∈ t, ∀ p ∈ t, (f r).live = true → (f r).parentId = some p.id →
      (f p).live = true) :
    ∀ c ∈ u, c.live = true → ∀ p ∈ u, c.parentId = some p.id → p.live = true := by
  intro c hc live p hp below
  rw [← Table.mem_rows, rows] at hc hp
  obtain ⟨r, hr, rfl⟩ := List.mem_map.mp hc
  obtain ⟨q, hq, rfl⟩ := List.mem_map.mp hp
  rw [ids] at below
  exact parents r hr q hq live below

theorem relinked_live (entity : CategoryEntity) (db : Database) (now : Timestamp)
    (row : Category) : (entity.relinked db now row).live = row.live := by
  unfold Category.live
  rw [CategoryEntity.relinked_deletedAt]

/-- The one-to-many step takes a row from below, puts it below, or leaves it. -/
theorem relinked_below {db : Database} {now : Timestamp} {row : Category} {p : Uuid}
    (h : (entity.relinked db now row).parentId = some p) :
    (entity.rebound db).any (·.id == row.id) = true ∧ p = entity.id ∨
      row.parentId = some p := by
  unfold CategoryEntity.relinked at h
  split at h
  · cases h
  · split at h
    · rename_i listed
      exact .inl ⟨listed, (Option.some.inj h).symm⟩
    · exact .inr h

theorem softRemove_below (none_below : NoOrphans w.db)
    (holds : StillHolds w (.softRemove (.category entity) loaded))
    (h : softRemoveLoaded entity loaded w = .ok ((), w')) : NoOrphans w'.db := by
  obtain ⟨t₁, t, rows₁, rows, rfl⟩ := softRemoveLoaded_ok h
  refine ⟨none_below.variants, below_of_map (t := w.db.categories) (f := fun row =>
    if row.id = entity.id then { entity.relinked loaded w.clock row with
      deletedAt := some w.clock, updatedAt := w.clock } else entity.relinked loaded w.clock row)
    ?_ (fun r => ?_) fun r hr p hp live below => ?_⟩
  · change t.rows = _
    rw [rows, rows₁, List.map_map]
    refine List.map_congr_left fun r _ => ?_
    simp only [Function.comp, CategoryEntity.relinked_id]
  · dsimp only
    split <;> exact CategoryEntity.relinked_id
  · dsimp only at live below ⊢
    by_cases removed : r.id = entity.id
    · rw [if_pos removed] at live
      cases live
    · rw [if_neg removed] at live below
      rw [relinked_live] at live
      have away := holds r hr live removed
      have apart : p.id ≠ entity.id := fun same => away (same ▸ below)
      rw [if_neg apart, relinked_live]
      rcases relinked_below below with ⟨-, same⟩ | before
      · exact absurd same apart
      · exact none_below.categories r hr live p hp before

theorem merge_overwrite_parentId (entity : CategoryEntity) (now : Timestamp)
    (stored row : Category) : (merge (overwrite entity now stored) stored row).parentId =
      (merge (written entity stored) stored row).parentId := by
  obtain ⟨stamp, same⟩ := overwrite_eq entity now stored
  rw [same]
  rfl

theorem merge_overwrite_live (entity : CategoryEntity) (now : Timestamp)
    (stored row : Category) : (merge (overwrite entity now stored) stored row).live =
      (merge (written entity stored) stored row).live := by
  obtain ⟨stamp, same⟩ := overwrite_eq entity now stored
  rw [same]
  rfl

theorem merge_overwrite_id (entity : CategoryEntity) (now : Timestamp) (stored row : Category) :
    (merge (overwrite entity now stored) stored row).id = row.id := by
  unfold merge
  rw [overwrite_id]
  unfold column
  rw [if_pos rfl]

/-- The save of a copy that is not deleted leaves a live row live. -/
theorem merge_written_live {stored row : Category} (undeleted : entity.deletedAt = none)
    (live : row.live = true) : (merge (written entity stored) stored row).live = true := by
  have gone : row.deletedAt = none := Option.isNone_iff_eq_none.mp live
  unfold Category.live
  rw [Option.isNone_iff_eq_none]
  change column entity.deletedAt stored.deletedAt row.deletedAt = none
  unfold column
  split
  · exact gone
  · exact undeleted

theorem save_below (none_below : NoOrphans w.db)
    (holds : StillHolds w (.save (.category entity) loaded))
    (h : saveLoaded entity loaded w = .ok (saved, w')) : NoOrphans w'.db := by
  obtain ⟨stored, found, t₁, t, rows₁, rows, rfl⟩ := saveLoaded_ok h
  have held := holds stored found
  refine ⟨none_below.variants, below_of_map (t := w.db.categories) (f := fun row =>
    entity.relinked loaded w.clock (if row.id = entity.id then
      merge (overwrite entity w.clock stored) stored row else row))
    ?_ (fun r => ?_) fun r hr p hp live below => ?_⟩
  · change t.rows = _
    rw [rows, rows₁, List.map_map]
    rfl
  · rw [CategoryEntity.relinked_id]
    split
    · exact merge_overwrite_id entity w.clock stored r
    · rfl
  · -- a live row is live afterwards, and so is the parent that the row has had
    have stays : ∀ q ∈ w.db.categories, q.live = true → (if q.id = entity.id then
        merge (overwrite entity w.clock stored) stored q else q).live = true := by
      intro q hq live
      split
      · rename_i own
        rw [merge_overwrite_live]
        exact merge_written_live (held q hq own).undeleted live
      · exact live
    rw [relinked_live] at live ⊢
    by_cases own : r.id = entity.id
    · rw [if_pos own] at live below
      rcases relinked_below below with ⟨-, same⟩ | kept
      · obtain rfl := Table.eq_of_id hr hp (own.trans same.symm)
        rw [if_pos own]
        exact live
      · rw [merge_overwrite_parentId] at kept
        rw [merge_overwrite_live] at live
        by_cases self : p.id = entity.id
        · obtain rfl := Table.eq_of_id hr hp (own.trans self.symm)
          rw [if_pos own, merge_overwrite_live]
          exact live
        · refine stays p hp ?_
          by_cases before : r.live = true ∧ r.parentId = some p.id
          · exact none_below.categories r hr before.1 p hp before.2
          · refine (held r hr own).parent live (fun was same => before ⟨was, ?_⟩)
              p hp self kept
            rw [same]
            exact kept
    · rw [if_neg own] at live below
      rcases relinked_below below with ⟨listed, same⟩ | kept
      · rw [if_pos same, merge_overwrite_live]
        exact (held p hp same).children r hr live listed
      · exact stays p hp (none_below.categories r hr live p hp kept)

/-- Rows that change under their ids and in their tenants. -/
theorem owners_of_map {t u : Table Category} {f : Category → Category}
    (rows : u.rows = t.rows.map f) (kept : ∀ r, (f r).id = r.id ∧ (f r).tenantId = r.tenantId) :
    ∀ r ∈ t, ∃ s ∈ u, s.id = r.id ∧ s.tenantId = r.tenantId := by
  intro r mem
  refine ⟨f r, ?_, kept r⟩
  rw [← Table.mem_rows, rows]
  exact List.mem_map_of_mem mem

theorem insert_hung {name slug : String} {parent : Option Category}
    (holds : StillHolds w (.insert (.category tenantId name slug (parent.map (·.id)))))
    (h : insert tenantId name slug parent w = .ok (saved, w')) : Hung w.db w'.db := by
  have below := fun none_below => insert_below none_below holds h
  obtain ⟨tenant, t, -, -, -, rows, rfl⟩ := insert_ok h
  refine ⟨below, rfl, fun r mem => ⟨r, ?_, rfl, rfl⟩⟩
  change r ∈ t.rows
  rw [rows]
  exact List.mem_append_left _ mem

theorem softRemove_hung (holds : StillHolds w (.softRemove (.category entity) loaded))
    (h : softRemoveLoaded entity loaded w = .ok ((), w')) : Hung w.db w'.db := by
  have below := fun none_below => softRemove_below none_below holds h
  obtain ⟨t₁, t, rows₁, rows, rfl⟩ := softRemoveLoaded_ok h
  rw [rows₁, List.map_map] at rows
  refine ⟨below, rfl, owners_of_map rows fun r => ?_⟩
  simp only [Function.comp]
  split <;> exact ⟨CategoryEntity.relinked_id, CategoryEntity.relinked_tenantId⟩

theorem save_hung (holds : StillHolds w (.save (.category entity) loaded))
    (h : saveLoaded entity loaded w = .ok (saved, w')) : Hung w.db w'.db := by
  have below := fun none_below => save_below none_below holds h
  obtain ⟨stored, -, t₁, t, rows₁, rows, rfl⟩ := saveLoaded_ok h
  rw [rows₁, List.map_map] at rows
  refine ⟨below, rfl, owners_of_map rows fun r => ?_⟩
  simp only [Function.comp, CategoryEntity.relinked_id, CategoryEntity.relinked_tenantId]
  split
  · obtain ⟨stamp, same⟩ := overwrite_eq entity w.clock stored
    refine ⟨merge_overwrite_id entity w.clock stored r, ?_⟩
    rw [same]
    exact if_pos rfl
  · exact ⟨rfl, rfl⟩

theorem remove_below : KeepsBelow (remove context tenantId id) := by
  refine fun db => keeps_bind (keeps_findOne keeps_set _ _) fun target =>
    keeps_bind (keeps_query _) fun count => keeps_ite (keeps_throw _) (keeps_bind ?_ fun _ => ?_)
  · exact keepsBelow_softRemoving (fun loaded w _ w' holds h => softRemove_hung holds h) db
  · exact keeps_bind (keeps_record _ _) fun _ => keeps_bind (keeps_del _) fun _ =>
      keeps_invalidate keeps_delByPattern tenantId

theorem create_below (platform : Platform) (dto : CreateCategoryDto) :
    KeepsBelow (create platform context tenantId dto) := by
  refine fun db => keeps_bind (keeps_assertSlugUnique _ _ _) fun _ => keeps_bind ?_ fun parent =>
    keeps_translated _ (keeps_bind ?_ fun category => ?_)
  · cases dto.parentId.truthy with
    | none => exact keeps_pure _
    | some parentId => exact keeps_map _ (keeps_assertParentExists _ _)
  · exact keepsBelow_statement (fun w category w' holds h => insert_hung holds h) db
  · exact keeps_bind (keeps_record _ _) fun _ =>
      keeps_bind (keeps_invalidate keeps_delByPattern tenantId) fun _ => keeps_pure _

theorem update_below (platform : Platform) (dto : UpdateCategoryDto) :
    KeepsBelow (update platform context tenantId id dto) := by
  refine fun db => keeps_bind (keeps_findOne keeps_set _ _) fun target =>
    keeps_bind (keeps_assertSlugUnique _ _ _) fun _ =>
      keeps_bind (keeps_chooseParent _ _ _ _) fun parent =>
        keeps_translated _ (keeps_bind ?_ fun saved => ?_)
  · exact keepsBelow_saving (fun loaded w saved w' holds h => save_hung holds h) db
  · exact keeps_bind (keeps_record _ _) fun _ => keeps_bind (keeps_del _) fun _ =>
      keeps_bind (keeps_invalidate keeps_delByPattern tenantId) fun _ => keeps_pure _

end CategoryService

end Services
end Tenantory
