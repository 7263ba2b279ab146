import Tenantory.CategoryTree
import Tenantory.CategoryWrites

/-! The category hierarchy. A save writes the parent of one category and may put
others, which a cached copy still lists, below it. The hierarchy stays a forest as
long as no save puts a category below itself; the service only refuses the category
itself as its parent. -/

namespace Tenantory

/-- Following the parent links from any category reaches one without parent. -/
def Database.CategoryForest (db : Database) : Prop :=
  ∀ c ∈ db.categories, Rooted (categoryLinks db.categories.rows) c.id

/-- The parent links that stay when the entity is saved. -/
def CategoryEntity.keptLinks (entity : CategoryEntity) (db : Database) (id : Uuid)
    (parent : Option Uuid) : Prop :=
  ∃ c ∈ db.categories, c.id = id ∧ c.parentId = parent ∧
    (entity.detached db).any (·.id == c.id) = false

/-- Saving the entity under `parent` puts no category below itself: from the parent one
comes neither to the entity nor to a category that is put below it. -/
structure CategoryEntity.KeepsForest (entity : CategoryEntity) (parent : Option Uuid)
    (db : Database) : Prop where
  listed : ∀ c ∈ entity.rebound db, c.id ≠ entity.id
  clear : ∀ p, parent = some p → ∀ y, Above (entity.keptLinks db) p y →
    y ≠ entity.id ∧ ∀ c ∈ entity.rebound db, c.id ≠ y

/-- A category whose copy lists no other children may go below a category at the top. -/
theorem CategoryEntity.keepsForest_of_top {entity : CategoryEntity} {parent : Option Uuid}
    {db : Database} (none_bound : entity.rebound db = [])
    (top : ∀ p, parent = some p → p ≠ entity.id ∧
      ∀ c ∈ db.categories.rows, c.id = p → c.parentId = none) :
      entity.KeepsForest parent db := by
  refine ⟨fun c hc => ?_, fun p hp y above => ?_⟩
  · rw [none_bound] at hc
    cases hc
  · obtain ⟨other, root⟩ := top p hp
    have same : y = p := above.eq_of_root (by
      rintro q ⟨c, hc, hid, up, -⟩
      rw [root c hc hid] at up
      cases up)
    rw [same, none_bound]
    exact ⟨other, fun c hc => (nomatch hc)⟩

namespace CategoryService

open Svc

section Relink

variable {t t' : Table Category} {g : Category → Category} {x : Uuid}

theorem link_functional (t : Table Category) (a : Uuid) (p q : Option Uuid)
    (hp : categoryLinks t.rows a p) (hq : categoryLinks t.rows a q) : p = q := by
  obtain ⟨c, hc, ca, rfl⟩ := hp
  obtain ⟨d, hd, da, rfl⟩ := hq
  rw [Table.eq_of_id (t := t) hc hd (ca.trans da.symm)]

/-- New links of the rows of a table. `x` gets the parent `chosen`, the rows in `bound`
get the parent `x`, others may lose theirs. -/
theorem forest_relink (chosen : Category → Option Uuid) (bound : Uuid → Prop)
    (rows : t'.rows = t.rows.map g)
    (ids : ∀ r, (g r).id = r.id)
    (others : ∀ r ∈ t, r.id ≠ x → (g r).parentId = r.parentId ∨ (g r).parentId = none ∨
      (g r).parentId = some x ∧ bound r.id)
    (own : ∀ r ∈ t, r.id = x → (g r).parentId = chosen r ∨ (g r).parentId = none)
    (clear : ∀ r ∈ t, r.id = x → ∀ p, chosen r = some p → ∀ y,
      Above (fun a q => ∃ r ∈ t, r.id = a ∧ r.parentId = q ∧ (g r).parentId = q) p y →
        y ≠ x ∧ ¬ bound y)
    (stored : ∀ c ∈ t', ∀ p, c.parentId = some p → ∃ d ∈ t', d.id = p)
    (forest : ∀ c ∈ t, Rooted (categoryLinks t.rows) c.id) :
    ∀ c ∈ t', Rooted (categoryLinks t'.rows) c.id := by
  have mem : ∀ r ∈ t, g r ∈ t' := fun r hr => by
    change g r ∈ t'.rows
    rw [rows]
    exact List.mem_map_of_mem hr
  have origin : ∀ c ∈ t', ∃ r ∈ t, g r = c := fun c hc => by
    have hc : c ∈ t'.rows := hc
    rw [rows] at hc
    exact List.mem_map.mp hc
  have there : ∀ p, (∃ d ∈ t', d.id = p) → ∃ q, categoryLinks t.rows p q := by
    rintro p ⟨d, hd, rfl⟩
    obtain ⟨r, hr, rfl⟩ := origin d hd
    exact ⟨r.parentId, r, hr, (ids r).symm, rfl⟩
  -- a link that is in both tables is one that stayed
  have stayed : ∀ a q, categoryLinks t.rows a q ∧ categoryLinks t'.rows a q →
      ∃ r ∈ t, r.id = a ∧ r.parentId = q ∧ (g r).parentId = q := by
    rintro a q ⟨⟨r, hr, rfl, rfl⟩, ⟨c, hc, same, up⟩⟩
    obtain ⟨s, hs, rfl⟩ := origin c hc
    rw [ids] at same
    obtain rfl := Table.eq_of_id (t := t) hs hr same
    exact ⟨s, hs, rfl, rfl, up⟩
  suffices rooted : ∀ a p, categoryLinks t'.rows a p → Rooted (categoryLinks t'.rows) a from
    fun c hc => rooted c.id c.parentId ⟨c, hc, rfl, rfl⟩
  refine Rooted.relink (x := x) (link_functional t) ?_ ?_ ?_ ?_ ?_
  · rintro a p ⟨c, hc, rfl, -⟩
    exact forest c hc
  · rintro a p ⟨c, hc, rfl, -⟩
    exact ⟨(g c).parentId, g c, mem c hc, ids c, rfl⟩
  · rintro a ⟨c, hc, rfl, up⟩
    obtain ⟨d, hd, same⟩ := stored c hc x up
    exact ⟨d.parentId, d, hd, same, rfl⟩
  · rintro a p ⟨c, hc, rfl, rfl⟩
    obtain ⟨r, hr, rfl⟩ := origin c hc
    by_cases hx : r.id = x
    · exact .inl ((ids r).trans hx)
    · rcases others r hr hx with same | cut | put
      · exact .inr (.inr (.inr ⟨r, hr, (ids r).symm, same.symm⟩))
      · exact .inr (.inr (.inl cut))
      · exact .inr (.inl put.1)
  · rintro p ⟨c, hc, hx, up⟩
    obtain ⟨r, hr, rfl⟩ := origin c hc
    rw [ids] at hx
    rcases own r hr hx with same | cut
    · refine ⟨there p (stored _ hc p up), fun y above => ?_⟩
      have above := above.mono stayed
      have free := clear r hr hx p (same.symm.trans up)
      refine ⟨(free y above).1, ?_⟩
      rintro ⟨d, hd, dy, below⟩
      obtain ⟨s, hs, rfl⟩ := origin d hd
      rw [ids] at dy
      subst dy
      rcases others s hs (free _ above).1 with old | none | put
      · have link : ∃ r ∈ t, r.id = s.id ∧ r.parentId = some x ∧ (g r).parentId = some x :=
          ⟨s, hs, rfl, old.symm.trans below, below⟩
        exact (free x (above.close link)).1 rfl
      · rw [none] at below
        cases below
      · exact (free _ above).2 put.2
    · rw [cut] at up
      cases up

end Relink

/-! ## Statements -/

section Statements

variable {entity saved : CategoryEntity} {w w' : World}

/-- The parent of a row after the one-to-many step of a save. -/
theorem relinked_parentId (entity : CategoryEntity) (db : Database) (now : Timestamp)
    (row : Category) :
    (entity.relinked db now row).parentId =
      if (entity.detached db).any (·.id == row.id) then none
      else if (entity.rebound db).any (·.id == row.id) then some entity.id else row.parentId := by
  unfold CategoryEntity.relinked
  split
  · rfl
  · split <;> rfl

theorem mem_detached {db : Database} {c : Category} (h : c ∈ entity.detached db) :
    c ∈ db.categories ∧ c.parentId = some entity.id := by
  unfold CategoryEntity.detached at h
  split at h
  · cases h
  · have below := (List.mem_filter.mp h).1
    obtain ⟨mem, passes⟩ := List.mem_filter.mp below
    rw [Bool.and_eq_true, beq_iff_eq] at passes
    exact ⟨mem, passes.1⟩

/-- A save or a removal: `own` rewrites the row of the entity, the one-to-many step
relinks the rows. -/
theorem forest_of_relinked {db : Database} {t' : Table Category} {g : Category → Category}
    {own : Category → Option Uuid} (rows : t'.rows = db.categories.rows.map g)
    (ids : ∀ r, (g r).id = r.id)
    (parents : ∀ r, (g r).parentId =
      if (entity.detached db).any (·.id == r.id) then none
      else if (entity.rebound db).any (·.id == r.id) then some entity.id
      else if r.id = entity.id then own r else r.parentId)
    (keeps : ∀ r ∈ db.categories, r.id = entity.id → entity.KeepsForest (own r) db)
    (stored : ∀ c ∈ t', ∀ p, c.parentId = some p → ∃ d ∈ t', d.id = p)
    (forest : db.CategoryForest) : ∀ c ∈ t', Rooted (categoryLinks t'.rows) c.id := by
  have some_bound : ∀ i : Uuid, (entity.rebound db).any (·.id == i) = true ↔
      ∃ c ∈ entity.rebound db, c.id = i := by simp
  refine forest_relink (x := entity.id) own (fun y => ∃ c ∈ entity.rebound db,
    c.id = y) rows ids
    ?_ ?_ ?_ stored forest
  · intro r _ other
    rw [parents]
    split
    · exact .inr (.inl rfl)
    · split
      · rename_i put
        exact .inr (.inr ⟨rfl, (some_bound _).mp put⟩)
      · exact .inl rfl
  · intro r hr same
    rw [parents]
    split
    · exact .inr rfl
    · split
      · rename_i put
        obtain ⟨c, hc, hid⟩ := (some_bound _).mp put
        exact absurd (hid.trans same) ((keeps r hr same).listed c hc)
      · exact .inl rfl
  · intro r hr same p chosen y above
    have free := (keeps r hr same).clear p chosen y (above.mono ?_)
    · refine ⟨free.1, ?_⟩
      rintro ⟨c, hc, hid⟩
      exact free.2 c hc hid
    · rintro a q ⟨s, hs, rfl, rfl, up⟩
      refine ⟨s, hs, rfl, rfl, ?_⟩
      cases cut : (entity.detached db).any (·.id == s.id) with
      | false => rfl
      | true =>
          obtain ⟨d, hd, hid⟩ := List.any_eq_true.mp cut
          have below := mem_detached hd
          obtain rfl := Table.eq_of_id (t := db.categories) below.1 hs (beq_iff_eq.mp hid)
          rw [parents, if_pos cut, below.2] at up
          cases up

theorem save_forest (h : save entity w = .ok (saved, w')) (forest : w.db.CategoryForest)
    (stored : ParentsStored w.db)
    (keeps : ∀ r ∈ w.db.categories, r.id = entity.id →
      entity.KeepsForest (written entity r).parentId w.db) : w'.db.CategoryForest := by
  have after := save_parentsStored h stored
  obtain ⟨-, -, -, -, t₁, t, rows₁, rows, rfl⟩ := save_ok h
  rw [rows₁, List.map_map] at rows
  refine forest_of_relinked rows (fun r => by simp)
    (fun r => ?_) keeps after forest
  simp only [Function.comp, relinked_parentId, overwritten_id]
  split
  · rfl
  · split
    · rfl
    · unfold overwritten
      split
      · obtain ⟨stamp, same⟩ := overwrite_eq entity w.clock r
        rw [same]
      · rfl

theorem softRemove_forest (h : softRemove entity w = .ok ((), w')) (forest : w.db.CategoryForest)
    (stored : ParentsStored w.db)
    (keeps : ∀ r ∈ w.db.categories, r.id = entity.id → entity.KeepsForest r.parentId w.db) :
    w'.db.CategoryForest := by
  have after := softRemove_parentsStored h stored
  obtain ⟨t₁, t, rows₁, rows, rfl⟩ := softRemove_ok h
  rw [rows₁, List.map_map] at rows
  have marked : ∀ row : Category, (if row.id = entity.id then
      { row with deletedAt := some w.clock, updatedAt := w.clock } else row).parentId =
        row.parentId ∧ (if row.id = entity.id then
      { row with deletedAt := some w.clock, updatedAt := w.clock } else row).id = row.id := by
    intro row
    split <;> exact ⟨rfl, rfl⟩
  refine forest_of_relinked rows
    (fun r => (marked _).2.trans CategoryEntity.relinked_id) (fun r => ?_) keeps after forest
  exact (marked _).1.trans (by simp only [relinked_parentId, ite_self])

theorem insert_forest {tenantId name slug : String} {parent : Option Category}
    {category : CategoryEntity} (h : insert tenantId name slug parent w = .ok (category, w'))
    (forest : w.db.CategoryForest) : w'.db.CategoryForest := by
  have under := fun p => insert_under_stored h (p := p)
  obtain ⟨tenant, t, -, fresh, -, rows, rfl⟩ := insert_ok h
  have more : ∀ a p, categoryLinks w.db.categories.rows a p → categoryLinks t.rows a p := by
    rintro a p ⟨c, hc, same⟩
    exact ⟨c, by rw [rows]; exact List.mem_append_left _ hc, same⟩
  intro c hc
  have mem : c ∈ t.rows := hc
  rw [rows] at mem
  rcases List.mem_append.mp mem with before | new
  · exact (forest c before).mono more
  · obtain rfl := List.mem_singleton.mp new
    cases up : parent.map (·.id) with
    | none => exact .root ⟨_, hc, rfl, up⟩
    | some p =>
        obtain ⟨d, hd, rfl⟩ := under p up
        exact .under ⟨_, hc, rfl, up⟩ ((forest d hd).mono more)

end Statements

/-! ## Calls -/

/-- The parent that an update gives to the row of its target. -/
def givenParent (tenantId id : String) (dto : UpdateCategoryDto) (target : CategoryEntity)
    (w : World) (row : Category) : Option Uuid :=
  match dto.parentId with
  | .undefined =>
      match target.parent with
      | none => row.parentId
      | some parent => parent.map (·.id)
  | .null => none
  | .value text =>
      if text = id then none else (readParent tenantId text w).toOption.join.map (·.id)

theorem written_parentId {tenantId id : String} {dto : UpdateCategoryDto} {target : CategoryEntity}
    {parent : Option (Option CategoryColumns)} {w : World}
    (chooses : (chooseParent tenantId id dto.parentId target.parent).runs w = (.ok parent, w))
    (platform : Platform) (row : Category) :
    (written (edited platform dto target parent) row).parentId =
      givenParent tenantId id dto target w row := by
  unfold givenParent
  cases hp : dto.parentId with
  | undefined =>
      rw [hp] at chooses
      cases chooses
      rfl
  | null =>
      rw [hp] at chooses
      cases chooses
      rfl
  | value text =>
      rw [hp] at chooses
      simp only [chooseParent] at chooses
      by_cases same : text = id
      · rw [if_pos same] at chooses
        cases chooses
      · rw [if_neg same] at chooses
        simp only [if_neg same]
        by_cases empty : text = ""
        · rw [if_pos empty] at chooses
          cases chooses
          rw [empty]
          rfl
        · simp only [if_neg empty, assertParentExists, runs_bind, runs_query] at chooses
          cases hr : readParent tenantId text w with
          | error e =>
              rw [hr] at chooses
              cases chooses
          | ok found =>
              rw [hr] at chooses
              cases found with
              | none => cases chooses
              | some p =>
                  cases chooses
                  rfl

end CategoryService

open CategoryService

/-- A call does not put a category below itself. For an update with a free slug it
speaks about the parent that the category gets, for a removal of a category without
children about the one that it has; both save what the copy of the category lists. -/
def CategoryOp.KeepsHierarchy (platform : Platform) (request : Request CategoryOp) (w : World) :
    Prop :=
  match request.op with
  | .update id dto => ∀ target w₁, Finds request.tenantId id w target w₁ →
      slugExists request.tenantId (newSlug platform dto target) (excluded id) w = .ok false →
      ∀ row ∈ w.db.categories, row.id = target.id →
        target.KeepsForest (givenParent request.tenantId id dto target w row) w.db
  | .remove id => ∀ target w₁, Finds request.tenantId id w target w₁ →
      countChildren request.tenantId id w = .ok 0 →
      ∀ row ∈ w.db.categories, row.id = target.id → target.KeepsForest row.parentId w.db
  | _ => True

namespace CategoryService

/-- The parent links lead to stored categories and end at one without parent. -/
structure Hierarchy (db : Database) : Prop where
  forest : db.CategoryForest
  stored : ParentsStored db

theorem act_hierarchy {platform : Platform} (request : Request CategoryOp) (w : World)
    (h : Hierarchy w.db) (keeps : CategoryOp.KeepsHierarchy platform request w) :
    Hierarchy (CategoryOp.act platform request w).db := by
  obtain ⟨context, tenantId, now, op⟩ := request
  cases op with
  | create dto =>
      simp only [CategoryOp.act]
      rcases create_cases platform context tenantId dto w with
        ⟨-, same⟩ | ⟨parent, category, w₂, steps, wrote⟩
      · rw [same]
        exact h
      · have after : Hierarchy w₂.db :=
          ⟨insert_forest steps.inserts h.forest, insert_parentsStored steps.inserts h.stored⟩
        rcases wrote with ⟨event, -, out⟩ | ⟨-, out⟩
        · rw [out]
          exact after
        · rw [out]
          exact after
  | update id dto =>
      simp only [CategoryOp.act]
      rcases update_cases platform context tenantId id dto w with
        ⟨-, same | ⟨target, finds⟩⟩ | ⟨target, w₁, parent, saved, w₂, steps, wrote⟩
      · rw [same]
        exact h
      · rw [finds.db]
        exact h
      · have h₁ : Hierarchy w₁.db := by
          rw [steps.finds.db]
          exact h
        have clear : ∀ r ∈ w₁.db.categories, r.id = target.id →
            target.KeepsForest (givenParent tenantId id dto target w₁ r) w₁.db := by
          have free := steps.free
          have allowed := keeps target w₁ steps.finds
          cases steps.finds <;> exact allowed free
        have after : Hierarchy w₂.db := by
          refine ⟨save_forest steps.saves h₁.forest h₁.stored fun r hr same => ?_,
            save_parentsStored steps.saves h₁.stored⟩
          rw [written_parentId steps.chooses]
          exact ⟨(clear r hr same).listed, (clear r hr same).clear⟩
        rcases wrote with ⟨w₃, done, out⟩ | ⟨-, out⟩
        · rw [out, published_db done]
          exact after
        · rw [out]
          exact after
  | remove id =>
      simp only [CategoryOp.act]
      rcases remove_cases context tenantId id w with
        ⟨-, same | ⟨target, finds⟩⟩ | ⟨target, w₁, w₂, steps, wrote⟩
      · rw [same]
        exact h
      · rw [finds.db]
        exact h
      · have h₁ : Hierarchy w₁.db := by
          rw [steps.finds.db]
          exact h
        have clear : ∀ r ∈ w₁.db.categories, r.id = target.id →
            target.KeepsForest r.parentId w₁.db := by
          have childless := steps.childless
          have allowed := keeps target w₁ steps.finds
          cases steps.finds <;> exact allowed childless
        have after : Hierarchy w₂.db :=
          ⟨softRemove_forest steps.removes h₁.forest h₁.stored clear,
            softRemove_parentsStored steps.removes h₁.stored⟩
        rcases wrote with ⟨w₃, done, out⟩ | ⟨-, out⟩
        · rw [out, published_db done]
          exact after
        · rw [out]
          exact after
  | findOne id => simpa only [CategoryOp.act, runs_findOne, CacheAside.answer_db] using h
  | findAll query => simpa only [CategoryOp.act, runs_findAll, CacheAside.answer_db] using h
  | findTree =>
      simpa only [CategoryOp.act, CategoryService.runs_findTree, CacheAside.answer_db] using h

end CategoryService

/-- The categories stay a forest in every run whose calls put none below itself. -/
theorem categories_stay_forest (platform : Platform) (start w : World)
    (initial : Hierarchy start.db)
    (reached : Request.Reached (CategoryOp.act platform) (CategoryOp.KeepsHierarchy platform)
      start w) : w.db.CategoryForest :=
  (reached.invariant (I := fun w => Hierarchy w.db) initial (fun _ _ h => h)
    act_hierarchy).forest

open SampleShop

namespace SampleShop

def categoryRequest (now : Timestamp) (op : CategoryOp) : Request CategoryOp :=
  ⟨some context, UuidText.uuidOut tenantId, now, op⟩

def moved (parentId : Property String) : UpdateCategoryDto := ⟨.undefined, .undefined, parentId⟩

theorem unstocked_hierarchy : Hierarchy (world unstocked).db := by
  have none_above : ∀ c ∈ (world unstocked).db.categories, c.parentId = none := by decide
  exact ⟨fun c hc => .root ⟨c, hc, rfl, none_above c hc⟩,
    fun c hc p up => absurd ((none_above c hc).symm.trans up) (by simp)⟩

end SampleShop

/-- Polos are created below the shirts, then the shirts are moved below the polos. -/
def createPolos : Request CategoryOp :=
  categoryRequest 2 (.create ⟨"Polos", .undefined, .value (UuidText.uuidOut categoryId)⟩)

def moveShirts : Request CategoryOp :=
  categoryRequest 3 (.update (UuidText.uuidOut categoryId) (moved (.value (UuidText.uuidOut 1000))))

theorem category_moved_below_itself :
    Hierarchy (world unstocked).db ∧
      ∃ w, Request.Reached (CategoryOp.act plainText) (fun _ _ => True) (world unstocked) w ∧
        ¬ w.db.CategoryForest := by
  refine ⟨unstocked_hierarchy, _,
    .serve moveShirts (.serve createPolos .start trivial) trivial, fun forest => ?_⟩
  have shirts : ∃ c ∈ (CategoryOp.act plainText moveShirts (moveShirts.arrive
      (CategoryOp.act plainText createPolos (createPolos.arrive (world unstocked))))).db.categories,
        c.id = categoryId ∧ c.parentId = some 1000 := by decide
  have polos : ∃ c ∈ (CategoryOp.act plainText moveShirts (moveShirts.arrive
      (CategoryOp.act plainText createPolos (createPolos.arrive (world unstocked))))).db.categories,
        c.id = 1000 ∧ c.parentId = some categoryId := by decide
  obtain ⟨c, hc, same, up⟩ := shirts
  refine (forest c hc).not_cycle (link_functional _) (b := 1000) ⟨⟨c, hc, rfl, up⟩, ?_⟩
  rw [same]
  exact .step polos (.refl _)

/-- Polos leave the shirts and come back below them. -/
def leave : Request CategoryOp :=
  categoryRequest 2 (.update (UuidText.uuidOut subcategory.id) (moved .null))

def comeBack : Request CategoryOp :=
  categoryRequest 3 (.update (UuidText.uuidOut subcategory.id)
    (moved (.value (UuidText.uuidOut categoryId))))

theorem keeps_of_copy {request : Request CategoryOp} {id : String} {dto : UpdateCategoryDto}
    {w : World} (copy : CategoryEntity) (op : request.op = .update id dto)
    (found : ((CategoryService.findOne request.tenantId id).runs w).1 = .ok copy)
    (keeps : ∀ row ∈ w.db.categories.rows, row.id = copy.id →
      copy.KeepsForest (givenParent request.tenantId id dto copy w row) w.db) :
    CategoryOp.KeepsHierarchy plainText request w := by
  unfold CategoryOp.KeepsHierarchy
  rw [op]
  intro target w₁ finds _
  rw [finds_iff.mpr finds] at found
  cases found
  exact keeps

theorem nested_hierarchy : Hierarchy nested := by
  have rows : ∀ c ∈ nested.categories, c = category ∨ c = subcategory := by
    intro c hc
    simpa using (show c ∈ [category, subcategory] from hc)
  have shirts : category ∈ nested.categories := List.mem_cons_self
  have top : Rooted (categoryLinks nested.categories.rows) categoryId :=
    .root ⟨category, shirts, rfl, rfl⟩
  refine ⟨fun c hc => ?_, fun c hc p up => ?_⟩
  · rcases rows c hc with rfl | rfl
    · exact top
    · exact .under ⟨subcategory, hc, rfl, rfl⟩ top
  · rcases rows c hc with rfl | rfl
    · cases up
    · cases up
      exact ⟨category, shirts, rfl⟩

theorem left_keeps : CategoryOp.KeepsHierarchy plainText leave (leave.arrive (world nested)) := by
  refine keeps_of_copy (CategoryEntity.related nested subcategory) rfl (by decide) ?_
  exact fun row _ _ => CategoryEntity.keepsForest_of_top (by decide) fun p hp => (nomatch hp)

theorem back_keeps : CategoryOp.KeepsHierarchy plainText comeBack
    (comeBack.arrive (CategoryOp.act plainText leave (leave.arrive (world nested)))) := by
  refine keeps_of_copy (CategoryEntity.related nested { subcategory with
    parentId := none, updatedAt := 2 }) rfl (by decide) ?_
  refine fun row _ _ => CategoryEntity.keepsForest_of_top (by decide) fun p hp => ?_
  have named : p = categoryId := by
    unfold givenParent at hp
    have found : ((readParent (UuidText.uuidOut SampleShop.tenantId) (UuidText.uuidOut categoryId)
        (comeBack.arrive (CategoryOp.act plainText leave
          (leave.arrive (world nested))))).toOption.join.map (·.id)) = some categoryId := by decide
    exact Option.some.inj (hp.symm.trans found)
  subst named
  decide

theorem categories_stay_forest_moved_back :
    (CategoryOp.act plainText comeBack (comeBack.arrive
      (CategoryOp.act plainText leave (leave.arrive (world nested))))).db.CategoryForest :=
  categories_stay_forest plainText (world nested) _ nested_hierarchy
    (.serve comeBack (.serve leave .start left_keeps) back_keeps)

end Tenantory
