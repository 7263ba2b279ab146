import Tenantory.TreeObjects

/-! What `buildTree` makes of a list: the forest that was flattened into it, in whatever order
it comes, and all of its categories exactly when it has the parents of all of them. -/

namespace Tenantory
namespace TreeObjects

open ParentForest

variable {store : Store} {categories : List Address} {entities : List CategoryEntity}

/-- The roots show this forest and no other. -/
theorem buildTree_shows_iff {trees : List (Rose CategoryEntity)}
    (holds : Holds store categories entities) (distinct : (entities.map entityId).Nodup)
    (hangs : Hangs entityId CategoryEntity.parentId entities trees) (nodes : List CategoryNode) :
    ShowsAll (buildTree categories store).1 (buildTree categories store).2 nodes ↔
      nodes = nodesOf trees := by
  have shows := (buildTree_shows holds distinct hangs).1
  constructor
  · exact fun other => other.unique shows
  · rintro rfl
    exact shows

/-! ## Flattened forests -/

/-- A forest comes back from every list of its nodes that keeps the order of siblings and roots,
and no object that was there is written. -/
theorem buildTree_inverts_flattening {trees : List (Rose CategoryEntity)}
    (placed : PlacedTrees entityId CategoryEntity.parentId trees)
    (linear : Linearizes entities trees)
    (holds : Holds store categories entities) :
    (∀ nodes, ShowsAll (buildTree categories store).1 (buildTree categories store).2 nodes ↔
      nodes = nodesOf trees) ∧
    store <+: (buildTree categories store).1 := by
  have distinct : (entities.map entityId).Nodup :=
    (linear.perm.map entityId).nodup_iff.mpr placed.distinct
  have hangs := placed.hangs linear
  exact ⟨buildTree_shows_iff holds distinct hangs, (buildTree_shows holds distinct hangs).2⟩

def electronics : CategoryColumns := ⟨1, "Electronics", "electronics", 0, 0, none⟩

def phones : CategoryColumns := ⟨2, "Phones", "phones", 0, 0, none⟩

def laptops : CategoryColumns := ⟨3, "Laptops", "laptops", 0, 0, none⟩

/-- Two children, one of them before its parent. -/
def shelf : Store :=
  [⟨phones, some (some 1), none⟩, ⟨electronics, some none, none⟩,
    ⟨laptops, some (some 1), none⟩]

def shelfEntities : List CategoryEntity :=
  [⟨phones, some (some electronics), none⟩, ⟨electronics, some none, none⟩,
    ⟨laptops, some (some electronics), none⟩]

def shelfTree : List (Rose CategoryEntity) :=
  [.node ⟨electronics, some none, none⟩ [.node ⟨phones, some (some electronics), none⟩ [],
    .node ⟨laptops, some (some electronics), none⟩ []]]

theorem electronics_at : shelf[1]? = some ⟨electronics, some none, none⟩ := rfl

theorem shelf_holds : Holds shelf [0, 1, 2] shelfEntities := by
  have parent : ParentShows shelf (some (some 1)) (some (some electronics)) :=
    .object electronics_at
  exact .cons ⟨_, rfl, rfl, parent⟩
    (.cons ⟨_, rfl, rfl, .null⟩ (.cons ⟨_, rfl, rfl, parent⟩ .nil))

theorem shelf_placed : PlacedTrees entityId CategoryEntity.parentId shelfTree where
  distinct := by decide
  roots := by decide
  children := by decide

theorem shelf_linear : Linearizes shelfEntities shelfTree where
  perm := by decide
  roots := by decide
  children := by decide

theorem buildTree_inverts_flattening_shelf :
    (buildTree [0, 1, 2] shelf).2 = [4] ∧
    ShowsAll (buildTree [0, 1, 2] shelf).1 [4] (nodesOf shelfTree) := by
  refine ⟨by decide, ?_⟩
  exact ((buildTree_inverts_flattening shelf_placed shelf_linear shelf_holds).1 _).mpr rfl

/-! ## Categories without their parents -/

/-- Every category of the list is in the forest once, and one whose parent is not there is a
root. -/
structure Conserves (entities : List CategoryEntity) (nodes : List CategoryNode) : Prop where
  once : (CategoryNode.idsOf nodes).Perm (entities.map entityId)
  orphans : ∀ entity ∈ entities, ∀ parent, entity.parentId = some parent →
    parent ∉ entities.map entityId → entity.id ∈ nodes.map fun node => node.column.id

/-- Where parent links run in no circle, nothing is lost exactly when no category of the list
has a parent that is not in the list. -/
theorem buildTree_conserves_iff (holds : Holds store categories entities)
    (distinct : (entities.map entityId).Nodup)
    (acyclic : Acyclic (Links entityId CategoryEntity.parentId entities)) :
    ∃ nodes, ShowsAll (buildTree categories store).1 (buildTree categories store).2 nodes ∧
      (Conserves entities nodes ↔
        ∀ entity ∈ entities, ∀ parent, entity.parentId = some parent →
          parent ∈ entities.map entityId) := by
  have hangs : Hangs entityId CategoryEntity.parentId entities
      (forest entityId CategoryEntity.parentId entities) := hangs_forest distinct
  refine ⟨_, (buildTree_shows holds distinct hangs).1, ?_⟩
  rw [← all_rooted_iff distinct acyclic, ← hangs.perm_iff distinct, ← idsOf_nodesOf]
  constructor
  · exact Conserves.once
  · intro once
    refine ⟨once, fun entity mem parent up orphan => ?_⟩
    rw [idsOf_nodesOf, hangs.perm_iff distinct, all_rooted_iff distinct acyclic] at once
    exact absurd (once entity mem parent up) orphan

theorem shelf_parents : ∀ entity ∈ shelfEntities, ∀ parent, entity.parentId = some parent →
    parent = 1 ∧ entity.id ≠ 1 := by
  intro entity mem parent up
  simp only [shelfEntities, List.mem_cons, List.not_mem_nil, or_false] at mem
  rcases mem with rfl | rfl | rfl
  · exact ⟨(Option.some.inj up).symm, by decide⟩
  · cases up
  · exact ⟨(Option.some.inj up).symm, by decide⟩

theorem shelf_acyclic : Acyclic (Links entityId CategoryEntity.parentId shelfEntities) := by
  have under : ∀ a b, Links entityId CategoryEntity.parentId shelfEntities a (some b) →
      b = 1 ∧ a ≠ 1 := by
    rintro a b ⟨entity, mem, rfl, up⟩
    exact shelf_parents entity mem b up
  intro a b link above
  obtain ⟨rfl, other⟩ := under a b link
  cases above with
  | refl => exact other rfl
  | step up _ => exact (under _ _ up).2 rfl

theorem buildTree_conserves_iff_shelf : ∃ nodes,
    ShowsAll (buildTree [0, 1, 2] shelf).1 (buildTree [0, 1, 2] shelf).2 nodes ∧
      Conserves shelfEntities nodes := by
  obtain ⟨nodes, shows, conserves⟩ :=
    buildTree_conserves_iff shelf_holds (by decide) shelf_acyclic
  refine ⟨nodes, shows, conserves.mpr fun entity mem parent up => ?_⟩
  rw [(shelf_parents entity mem parent up).1]
  decide

/-- A category is given without its parent. -/
def orphan : List CategoryEntity := [⟨phones, some (some electronics), none⟩]

/-- The answer has no place for it. -/
theorem orphan_dropped : ¬ ∀ (store : Store) (categories : List Address)
    (entities : List CategoryEntity), Holds store categories entities →
      (entities.map entityId).Nodup →
      Acyclic (Links entityId CategoryEntity.parentId entities) →
      ∃ nodes, ShowsAll (buildTree categories store).1 (buildTree categories store).2 nodes ∧
        Conserves entities nodes := by
  intro conserves
  have holds : Holds shelf [0] orphan :=
    .cons ⟨_, rfl, rfl, .object electronics_at⟩ .nil
  have under : ∀ a b, Links entityId CategoryEntity.parentId orphan a (some b) →
      a = 2 ∧ b = 1 := by
    rintro a b ⟨entity, mem, rfl, up⟩
    cases List.mem_singleton.mp mem
    exact ⟨rfl, (Option.some.inj up).symm⟩
  have acyclic : Acyclic (Links entityId CategoryEntity.parentId orphan) := by
    intro a b link above
    obtain ⟨rfl, rfl⟩ := under a b link
    cases above with
    | step up _ => exact absurd (under _ _ up).1 (by decide)
  obtain ⟨nodes, shows, once, -⟩ := conserves shelf [0] orphan holds (by decide) acyclic
  have none : (buildTree [0] shelf).2 = [] := by decide
  rw [none] at shows
  cases shows
  exact absurd once.length_eq (by decide)

end TreeObjects
end Tenantory
