import Tenantory.CategoryRuns
import Tenantory.StoredRows

/-! The rows of the categories after the statements of `CategoryService`. -/

namespace Tenantory

open Stored

/-- UPDATEs by id, one for each member of a list, that write the same values. -/
theorem World.updates_ok {ρ β : Type} [LawfulTable ρ] {f : Timestamp → ρ → ρ}
    {ident : β → Uuid}
    (keeps : ∀ now r, Entity.id (f now r) = Entity.id r)
    (again : ∀ now r, f now (f now r) = f now r)
    {l : List β} {w w' : World}
    (h : l.foldlM (fun w b => w.update (ident b) (f w.clock)) w = .ok w') :
    ∃ t : Table ρ, (t.rows = (table w.db).rows.map fun r =>
        if l.any (ident · == Entity.id r) then f w.clock r else r) ∧
      w' = { w with db := put t w.db } := by
  induction l generalizing w with
  | nil =>
      cases h
      exact ⟨table w'.db, by simp, by rw [LawfulTable.put_table]⟩
  | cons b l ih =>
      rw [List.foldlM_cons] at h
      obtain ⟨w₁, first, rest⟩ := bind_eq_ok.mp h
      obtain ⟨-, t₁, rows₁, rfl⟩ := World.update_ok first
      obtain ⟨t, rows, rfl⟩ := ih rest
      have all : t.rows = (table w.db).rows.map fun r =>
          if (b :: l).any (ident · == Entity.id r) then f w.clock r else r := by
        rw [rows, LawfulTable.table_put, rows₁, List.map_map]
        refine List.map_congr_left fun r _ => ?_
        by_cases hi : Entity.id r = ident b
        · simp [hi, keeps, again]
        · have other : ident b ≠ Entity.id r := fun same => hi same.symm
          simp [hi, other]
      exact ⟨t, all, by rw [LawfulTable.put_put]⟩

/-- UPDATEs of rows that are not there. -/
theorem World.updates_absent {ρ β : Type} [LawfulTable ρ] {f : Timestamp → ρ → ρ}
    {ident : β → Uuid} {l : List β} {w : World}
    (away : ∀ b ∈ l, ∀ r ∈ table (ρ := ρ) w.db, Entity.id r ≠ ident b) :
    l.foldlM (fun w b => w.update (ident b) (f w.clock)) w = .ok w := by
  induction l with
  | nil => rfl
  | cons b l ih =>
      rw [List.foldlM_cons, World.update_absent (away b List.mem_cons_self)]
      exact ih fun d hd => away d (List.mem_cons_of_mem _ hd)

namespace CategoryEntity

/-- The listed children that are no stored live children: a save puts them below. -/
def rebound (entity : CategoryEntity) (db : Database) : List CategoryColumns :=
  (entity.children.getD []).filter fun c => (db.liveChildren entity.id).all (·.id != c.id)

/-- The stored live children that are not listed: a save takes them from below. -/
def detached (entity : CategoryEntity) (db : Database) : List Category :=
  match entity.children with
  | none => []
  | some listed => (db.liveChildren entity.id).filter fun c => listed.all (·.id != c.id)

/-- A row after the one-to-many step of a save. -/
def relinked (entity : CategoryEntity) (db : Database) (now : Timestamp) (row : Category) :
    Category :=
  if (entity.detached db).any (·.id == row.id) then
    { row with parentId := none, updatedAt := now }
  else if (entity.rebound db).any (·.id == row.id) then
    { row with parentId := some entity.id, updatedAt := now }
  else row

variable {entity : CategoryEntity} {db : Database} {now : Timestamp} {row : Category}

@[simp] theorem relinked_id : (entity.relinked db now row).id = row.id := by
  unfold relinked
  split
  · rfl
  · split <;> rfl

@[simp] theorem relinked_tenantId : (entity.relinked db now row).tenantId = row.tenantId := by
  unfold relinked
  split
  · rfl
  · split <;> rfl

@[simp] theorem relinked_deletedAt : (entity.relinked db now row).deletedAt = row.deletedAt := by
  unfold relinked
  split
  · rfl
  · split <;> rfl

end CategoryEntity

namespace CategoryService

variable {entity saved : CategoryEntity} {w w' : World}

/-- A row that `findOne` reads. -/
structure Readable (db : Database) (tenantId id : String) (row : Category) : Prop where
  named : UuidText.uuidIn id = some row.id
  owned : UuidText.uuidIn tenantId = some row.tenantId
  stored : row ∈ db.categories
  tenant : db.liveTenant row.tenantId = true
  live : row.live = true

theorem readOne_ok {tenantId id : String} {target : CategoryEntity} :
    readOne tenantId id w = .ok (some target) ↔
      ∃ row, Readable w.db tenantId id row ∧ target = CategoryEntity.related w.db row := by
  unfold readOne
  constructor
  · intro h
    obtain ⟨i, hi, h⟩ := bind_eq_ok.mp h
    obtain ⟨tenant, ht, h⟩ := bind_eq_ok.mp h
    obtain ⟨row, found, rfl⟩ := Option.map_eq_some_iff.mp (Except.ok.inj h)
    have passes := Table.holds_of_find? found
    simp only [Bool.and_eq_true, beq_iff_eq] at passes
    obtain ⟨⟨⟨rfl, rfl⟩, live⟩, undeleted⟩ := passes
    exact ⟨row, ⟨uuidParam_eq_ok.mp hi, uuidParam_eq_ok.mp ht, Table.mem_of_find? found, live,
      undeleted⟩, rfl⟩
  · rintro ⟨row, readable, rfl⟩
    rw [uuidParam_eq_ok.mpr readable.named, uuidParam_eq_ok.mpr readable.owned]
    have found : w.db.categories.find? (fun c => c.id == row.id && c.tenantId == row.tenantId &&
        w.db.liveTenant row.tenantId && c.live) = some row := by
      refine Table.find?_of_mem readable.stored (by simp [readable.tenant, readable.live]) ?_
      intro c _ passes
      simp only [Bool.and_eq_true, beq_iff_eq] at passes
      exact Entity.same_id _ _ passes.1.1.1.symm
    change Except.ok (Option.map _ _) = _
    rw [found]
    rfl

/-- The world with other category rows. -/
def withCategories (w : World) (t : Table Category) : World :=
  { w with db := { w.db with categories := t } }

theorem saveChildren_ok {db : Database} (h : saveChildren entity db w = .ok w') :
    ∃ t : Table Category, t.rows = w.db.categories.rows.map (entity.relinked db w.clock) ∧
      w' = withCategories w t := by
  unfold saveChildren at h
  cases hc : entity.children with
  | none =>
      rw [hc] at h
      cases h
      refine ⟨w.db.categories, ?_, rfl⟩
      refine ((List.map_congr_left fun r _ => ?_).trans (List.map_id _)).symm
      simp [CategoryEntity.relinked, CategoryEntity.detached, CategoryEntity.rebound, hc]
  | some listed =>
      rw [hc] at h
      obtain ⟨w₁, bound, removed⟩ := bind_eq_ok.mp h
      obtain ⟨t₁, rows₁, rfl⟩ := World.updates_ok (f := fun now (row : Category) =>
        { row with parentId := some entity.id, updatedAt := now }) (fun _ _ => rfl)
        (fun _ _ => rfl) bound
      obtain ⟨t, rows, rfl⟩ := World.updates_ok (f := fun now (row : Category) =>
        { row with parentId := none, updatedAt := now }) (fun _ _ => rfl) (fun _ _ => rfl) removed
      refine ⟨t, ?_, rfl⟩
      rw [rows]
      show (t₁.rows.map _) = _
      rw [rows₁, List.map_map]
      refine List.map_congr_left fun r _ => ?_
      simp only [CategoryEntity.relinked, CategoryEntity.detached, CategoryEntity.rebound, hc,
        Function.comp, Option.getD_some]
      have same : ∀ b : Bool, Entity.id (if b = true then
          { r with parentId := some entity.id, updatedAt := w.clock } else r) = r.id := by
        intro b
        cases b <;> rfl
      rw [same]
      -- a row is not in both lists, and the second UPDATE would win
      generalize ((db.liveChildren entity.id).filter fun c =>
        listed.all (·.id != c.id)).any (·.id == r.id) = d
      show _ = if d = true then _ else
        if (List.filter _ listed).any (fun c => c.id == Entity.id r) = true then _ else _
      generalize (List.filter _ listed).any (fun c => c.id == Entity.id r) = b
      cases b <;> cases d <;> rfl

/-- The row with the values that the entity has for its columns. -/
def written (entity : CategoryEntity) (row : Category) : Category :=
  { row with
    name := entity.name
    slug := entity.slug
    parentId := match entity.parent with
      | none => row.parentId
      | some parent => parent.map (·.id)
    createdAt := entity.createdAt
    updatedAt := entity.updatedAt
    deletedAt := entity.deletedAt }

/-- Only the stamp of an overwritten row is not the entity's. -/
theorem overwrite_eq (entity : CategoryEntity) (now : Timestamp) (row : Category) :
    ∃ stamp, overwrite entity now row = { written entity row with updatedAt := stamp } := by
  have unfolded : overwrite entity now row = if written entity row = row then row
      else if entity.updatedAt = row.updatedAt then { written entity row with updatedAt := now }
      else written entity row := rfl
  rw [unfolded]
  split
  · rename_i same
    exact ⟨row.updatedAt, by rw [same]⟩
  · split
    · exact ⟨now, rfl⟩
    · exact ⟨entity.updatedAt, rfl⟩

@[simp] theorem overwrite_id (entity : CategoryEntity) (now : Timestamp) (row : Category) :
    (overwrite entity now row).id = row.id := by
  obtain ⟨stamp, same⟩ := overwrite_eq entity now row
  rw [same]
  rfl

/-- The rows after the UPDATE of the saved row itself. -/
def overwritten (entity : CategoryEntity) (now : Timestamp) (row : Category) : Category :=
  if row.id = entity.id then overwrite entity now row else row

@[simp] theorem overwritten_id (entity : CategoryEntity) (now : Timestamp) (row : Category) :
    (overwritten entity now row).id = row.id := by
  unfold overwritten
  split <;> simp

theorem save_ok (h : save entity w = .ok (saved, w')) :
    ∃ stored ∈ w.db.categories, stored.id = entity.id ∧
      saved = { entity with updatedAt := (overwrite entity w.clock stored).updatedAt } ∧
      ∃ t₁ t : Table Category, t₁.rows = w.db.categories.rows.map
        (overwritten entity w.clock) ∧
        t.rows = t₁.rows.map (entity.relinked w.db w.clock) ∧
        w' = withCategories w t := by
  rw [save_eq] at h
  cases hr : w.db.rowById Category entity.id with
  | none => simp [hr] at h
  | some stored =>
      rw [hr] at h
      obtain ⟨w₁, first, rest⟩ := bind_eq_ok.mp h
      obtain ⟨w₂, second, last⟩ := bind_eq_ok.mp rest
      obtain ⟨-, t₁, rows₁, rfl⟩ := World.update_ok first
      obtain ⟨t, rows, rfl⟩ := saveChildren_ok second
      cases last
      obtain ⟨mem, same⟩ := Database.rowById_eq_some hr
      refine ⟨stored, mem, same, rfl, t₁, t, ?_, rows, rfl⟩
      rw [rows₁]
      refine List.map_congr_left fun r _ => ?_
      simp only [overwritten, beq_iff_eq]
      rfl

theorem saveLoaded_ok {loaded : Database} (h : saveLoaded entity loaded w = .ok (saved, w')) :
    ∃ stored, loaded.rowById Category entity.id = some stored ∧
      ∃ t₁ t : Table Category, (t₁.rows = w.db.categories.rows.map fun row =>
          if row.id = entity.id then merge (overwrite entity w.clock stored) stored
            row else row) ∧
        t.rows = t₁.rows.map (entity.relinked loaded w.clock) ∧ w' = withCategories w t := by
  unfold saveLoaded at h
  cases hr : loaded.rowById Category entity.id with
  | none =>
      rw [hr] at h
      cases h
  | some stored =>
      rw [hr] at h
      obtain ⟨w₁, first, rest⟩ := bind_eq_ok.mp h
      obtain ⟨w₂, second, last⟩ := bind_eq_ok.mp rest
      cases last
      obtain ⟨-, t₁, rows₁, rfl⟩ := World.update_ok first
      obtain ⟨t, rows, rfl⟩ := saveChildren_ok second
      refine ⟨stored, rfl, t₁, t, ?_, rows, rfl⟩
      rw [rows₁]
      refine List.map_congr_left fun r _ => ?_
      simp only [beq_iff_eq]
      rfl

theorem softRemoveLoaded_ok {loaded : Database}
    (h : softRemoveLoaded entity loaded w = .ok ((), w')) :
    ∃ t₁ t : Table Category, t₁.rows = w.db.categories.rows.map
      (entity.relinked loaded w.clock) ∧
      (t.rows = t₁.rows.map fun row => if row.id = entity.id then
        { row with deletedAt := some w.clock, updatedAt := w.clock } else row) ∧
      w' = withCategories w t := by
  unfold softRemoveLoaded at h
  obtain ⟨w₁, first, rest⟩ := bind_eq_ok.mp h
  obtain ⟨w₂, second, last⟩ := bind_eq_ok.mp rest
  obtain ⟨t₁, rows₁, rfl⟩ := saveChildren_ok first
  obtain ⟨-, t, rows, rfl⟩ := World.update_ok second
  cases last
  refine ⟨t₁, t, rows₁, ?_, rfl⟩
  rw [rows]
  refine List.map_congr_left fun r _ => ?_
  simp only [beq_iff_eq]
  rfl

theorem softRemove_ok (h : softRemove entity w = .ok ((), w')) :
    ∃ t₁ t : Table Category, t₁.rows = w.db.categories.rows.map
      (entity.relinked w.db w.clock) ∧
      (t.rows = t₁.rows.map fun row => if row.id = entity.id then
        { row with deletedAt := some w.clock, updatedAt := w.clock } else row) ∧
      w' = withCategories w t :=
  softRemoveLoaded_ok h

theorem insert_ok {tenantId name slug : String} {parent : Option Category}
    {category : CategoryEntity} (h : insert tenantId name slug parent w = .ok (category, w')) :
    ∃ tenant t, UuidText.uuidIn tenantId = some tenant ∧
      (∀ c ∈ w.db.categories, c.id ≠ w.ids 0) ∧
      category.id = w.ids 0 ∧
      (t : Table Category).rows = w.db.categories.rows ++ [
        { id := w.ids 0, tenantId := tenant, name, slug, parentId := parent.map (·.id),
          createdAt := w.clock, updatedAt := w.clock, deletedAt := none }] ∧
      w' = { withCategories w t with ids := fun n => w.ids (n + 1) } := by
  unfold insert at h
  obtain ⟨tenant, ht, rest⟩ := bind_eq_ok.mp h
  obtain ⟨⟨row, w₁⟩, inserted, last⟩ := bind_eq_ok.mp rest
  obtain ⟨rfl, -, free, t, rows, rfl⟩ := World.insert_ok inserted
  cases last
  refine ⟨tenant, t, uuidParam_eq_ok.mp ht, fun c hc same => ?_, rfl, rows, rfl⟩
  have apart := free c hc
  rw [Entity.same_id _ c same.symm] at apart
  cases apart

/-! ## Foreign keys -/

/-- The parent of every category is a stored row. -/
def ParentsStored (db : Database) : Prop :=
  ∀ c ∈ db.categories, ∀ p, c.parentId = some p → ∃ d ∈ db.categories, d.id = p

theorem stored_of_not_dangling {db : Database} {c : Category} (h : dangling db c = false)
    {p : Uuid} (hp : c.parentId = some p) : ∃ d ∈ db.categories, d.id = p := by
  have both : hasTenant db c.tenantId = true ∧
      (c.parentId.any fun parent => !db.categories.rows.any (·.id == parent)) = false := by
    simpa [dangling] using h
  have found := both.2
  rw [hp] at found
  simpa using found

theorem update_parentsStored {i : Uuid} {f : Category → Category} (keeps : ∀ r, (f r).id = r.id)
    (h : w.update i f = .ok w') (stored : ParentsStored w.db) : ParentsStored w'.db := by
  obtain ⟨fits, t, rows, rfl⟩ := World.update_ok h
  have still : ∀ p, (∃ d ∈ w.db.categories, d.id = p) → ∃ d ∈ t, d.id = p := by
    rintro p ⟨d, hd, same⟩
    refine ⟨if Entity.id d == i then f d else d, ?_, ?_⟩
    · show _ ∈ t.rows
      rw [rows]
      exact List.mem_map_of_mem hd
    · split
      · rw [keeps, same]
      · exact same
  intro c hc p hp
  have mem : c ∈ t.rows := hc
  rw [rows] at mem
  obtain ⟨r, hr, rfl⟩ := List.mem_map.mp mem
  refine still p ?_
  by_cases hi : Entity.id r = i
  · rw [if_pos (by simp [hi])] at hp
    exact stored_of_not_dangling (fits r hr hi) hp
  · rw [if_neg (by simp [hi])] at hp
    exact stored r hr p hp

theorem updates_parentsStored {β : Type} {ident : β → Uuid}
    {f : Timestamp → Category → Category}
    (keeps : ∀ now r, (f now r).id = r.id) {l : List β}
    (h : l.foldlM (fun w b => w.update (ident b) (f w.clock)) w = .ok w')
    (stored : ParentsStored w.db) : ParentsStored w'.db := by
  induction l generalizing w with
  | nil =>
      cases h
      exact stored
  | cons b l ih =>
      rw [List.foldlM_cons] at h
      obtain ⟨w₁, first, rest⟩ := bind_eq_ok.mp h
      exact ih rest (update_parentsStored (keeps _) first stored)

theorem saveChildren_parentsStored {db : Database} (h : saveChildren entity db w = .ok w')
    (stored : ParentsStored w.db) : ParentsStored w'.db := by
  unfold saveChildren at h
  split at h
  · cases h
    exact stored
  · obtain ⟨w₁, bound, removed⟩ := bind_eq_ok.mp h
    refine updates_parentsStored (f := fun now (row : Category) =>
      { row with parentId := none, updatedAt := now }) (fun _ _ => rfl) removed ?_
    exact updates_parentsStored (f := fun now (row : Category) =>
      { row with parentId := some entity.id, updatedAt := now }) (fun _ _ => rfl) bound stored

theorem save_parentsStored (h : save entity w = .ok (saved, w')) (stored : ParentsStored w.db) :
    ParentsStored w'.db := by
  rw [save_eq] at h
  split at h
  · cases h
  · obtain ⟨w₁, first, rest⟩ := bind_eq_ok.mp h
    obtain ⟨w₂, second, last⟩ := bind_eq_ok.mp rest
    cases last
    exact saveChildren_parentsStored second
      (update_parentsStored (overwrite_id entity _) first stored)

theorem softRemove_parentsStored (h : softRemove entity w = .ok ((), w'))
    (stored : ParentsStored w.db) : ParentsStored w'.db := by
  unfold softRemove softRemoveLoaded at h
  obtain ⟨w₁, first, rest⟩ := bind_eq_ok.mp h
  obtain ⟨w₂, second, last⟩ := bind_eq_ok.mp rest
  cases last
  exact update_parentsStored (f := fun row => { row with
    deletedAt := some w₁.clock, updatedAt := w₁.clock }) (fun _ => rfl) second
      (saveChildren_parentsStored first stored)

/-- The foreign key of an inserted category. -/
theorem insert_under_stored {tenantId name slug : String} {parent : Option Category}
    {category : CategoryEntity} (h : insert tenantId name slug parent w = .ok (category, w'))
    {p : Uuid} (under : parent.map (·.id) = some p) : ∃ d ∈ w.db.categories, d.id = p := by
  unfold insert at h
  obtain ⟨tenant, -, rest⟩ := bind_eq_ok.mp h
  obtain ⟨⟨row, w₁⟩, inserted, -⟩ := bind_eq_ok.mp rest
  obtain ⟨rfl, fits, -⟩ := World.insert_ok inserted
  exact stored_of_not_dangling fits under

theorem insert_parentsStored {tenantId name slug : String} {parent : Option Category}
    {category : CategoryEntity} (h : insert tenantId name slug parent w = .ok (category, w'))
    (stored : ParentsStored w.db) : ParentsStored w'.db := by
  have under := fun p => insert_under_stored h (p := p)
  obtain ⟨tenant, t, -, -, -, rows, rfl⟩ := insert_ok h
  have old : ∀ p, (∃ d ∈ w.db.categories, d.id = p) → ∃ d ∈ t, d.id = p := by
    rintro p ⟨d, hd, same⟩
    refine ⟨d, ?_, same⟩
    change d ∈ t.rows
    rw [rows]
    exact List.mem_append_left _ hd
  intro c hc p hp
  have mem : c ∈ t.rows := hc
  rw [rows] at mem
  rcases List.mem_append.mp mem with before | new
  · exact old p (stored c before p hp)
  · obtain rfl := List.mem_singleton.mp new
    exact old p (under p hp)

end CategoryService
end Tenantory
