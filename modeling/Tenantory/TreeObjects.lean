import Tenantory.CategoryTree
import Tenantory.ParentForest

/-! `buildTree` on the objects it is given and makes. The first loop puts a copy of each
category into a map; the second pushes each copy into the children of its parent's, where the
parent may still wait for its own place. What the roots show in the end is the forest that
hangs from the list, and the objects given are as they were. -/

namespace Tenantory

abbrev Address := ℕ

/-- A category object, with the object under `parent` and those of the array `children` by
their addresses; `none` stands for a property that is not present. -/
structure CategoryObject where
  columns : CategoryColumns
  parent : Option (Option Address)
  children : Option (List Address)

/-- The objects there are. A new one has the next address. -/
abbrev Store := List CategoryObject

namespace TreeObjects

open ParentForest

/-- `category.parent?.id` -/
def parentId (store : Store) (category : CategoryObject) : Option Uuid :=
  match category.parent with
  | some (some parent) => store[parent]?.map fun object => object.columns.id
  | _ => none

abbrev NodeMap := Uuid → Option Address

def copyNodes : List Address → Store → NodeMap → Store × NodeMap
  | [], store, map => (store, map)
  | category :: categories, store, map =>
      match store[category]? with
      -- no address is without its object
      | none => copyNodes categories store map
      | some object =>
          copyNodes categories (store ++ [{ object with children := some [] }])
            (Function.update map object.columns.id (some store.length))

/-- `parentNode.children.push(node)` -/
def push (store : Store) (parentNode node : Address) : Store :=
  store.modify parentNode fun object =>
    { object with children := object.children.map fun children => children ++ [node] }

def attachNodes (map : NodeMap) : List Address → Store → List Address → Store × List Address
  | [], store, roots => (store, roots)
  | category :: categories, store, roots =>
      match store[category]? with
      | none => attachNodes map categories store roots
      | some object =>
          match map object.columns.id, parentId store object with
          | none, _ => attachNodes map categories store roots
          | some node, none => attachNodes map categories store (roots ++ [node])
          | some node, some parent =>
              match map parent with
              | some parentNode => attachNodes map categories (push store parentNode node) roots
              | none => attachNodes map categories store roots

/-- The objects afterwards and the roots. -/
def buildTree (categories : List Address) (store : Store) : Store × List Address :=
  let copied := copyNodes categories store fun _ => none
  attachNodes copied.2 categories copied.1 []

/-! ## What objects show -/

inductive ParentShows (store : Store) :
    Option (Option Address) → Option (Option CategoryColumns) → Prop
  | absent : ParentShows store none none
  | null : ParentShows store (some none) (some none)
  | object {address : Address} {object : CategoryObject} : store[address]? = some object →
      ParentShows store (some (some address)) (some (some object.columns))

/-- The object has the fields and the parent of the entity, and children of its own. -/
structure Denotes (store : Store) (object : CategoryObject) (entity : CategoryEntity) : Prop where
  columns : object.columns = entity.toCategoryColumns
  parent : ParentShows store object.parent entity.parent

/-- The addresses are those of objects that denote the entities. -/
def Holds (store : Store) (categories : List Address) (entities : List CategoryEntity) : Prop :=
  List.Forall₂ (fun address entity => ∃ object, store[address]? = some object ∧
    Denotes store object entity) categories entities

mutual
inductive Shows (store : Store) : Address → CategoryNode → Prop
  | node {address : Address} {object : CategoryObject} {columns : CategoryColumns}
      {parent : Option (Option CategoryColumns)} {children : List Address}
      {nodes : List CategoryNode} : store[address]? = some object → object.columns = columns →
      ParentShows store object.parent parent → object.children = some children →
      ShowsAll store children nodes → Shows store address (.mk columns parent nodes)

inductive ShowsAll (store : Store) : List Address → List CategoryNode → Prop
  | nil : ShowsAll store [] []
  | cons {address : Address} {node : CategoryNode} {addresses : List Address}
      {nodes : List CategoryNode} : Shows store address node → ShowsAll store addresses nodes →
      ShowsAll store (address :: addresses) (node :: nodes)
end

mutual
/-- The node that an entity becomes above the nodes of its children. -/
def nodeOf : Rose CategoryEntity → CategoryNode
  | .node entity children => .mk entity.toCategoryColumns entity.parent (nodesOf children)

def nodesOf : List (Rose CategoryEntity) → List CategoryNode
  | [] => []
  | tree :: trees => nodeOf tree :: nodesOf trees
end

section Reading

variable {store more : Store} {parent : Option (Option Address)}
  {columns : Option (Option CategoryColumns)} {object : CategoryObject} {entity : CategoryEntity}

theorem getElem?_append_of_some {a : Address} (h : store[a]? = some object) :
    (store ++ more)[a]? = some object := by
  rw [List.getElem?_append_left (List.getElem?_eq_some_iff.mp h).1]
  exact h

theorem ParentShows.append (h : ParentShows store parent columns) :
    ParentShows (store ++ more) parent columns := by
  cases h with
  | absent => exact .absent
  | null => exact .null
  | object found => exact .object (getElem?_append_of_some found)

theorem parentId_of_shows (h : ParentShows store object.parent entity.parent) :
    parentId store object = entity.parentId := by
  unfold parentId CategoryEntity.parentId
  revert h
  generalize object.parent = address
  generalize entity.parent = columns
  intro h
  cases h with
  | absent => rfl
  | null => rfl
  | object found =>
      dsimp only
      rw [found]
      rfl

end Reading

section Unique

variable {store : Store}

theorem ParentShows.unique {parent : Option (Option Address)}
    {columns columns' : Option (Option CategoryColumns)} (h : ParentShows store parent columns)
    (h' : ParentShows store parent columns') : columns = columns' := by
  cases h with
  | absent => cases h'; rfl
  | null => cases h'; rfl
  | object found =>
      cases h' with
      | object found' => rw [Option.some.inj (found.symm.trans found')]

mutual
theorem Shows.unique {address : Address} {node node' : CategoryNode} (h : Shows store address node)
    (h' : Shows store address node') : node = node' := by
  cases h with
  | node found columns parent children below =>
      cases h' with
      | node found' columns' parent' children' below' =>
          cases found.symm.trans found'
          cases columns.symm.trans columns'
          cases children.symm.trans children'
          rw [parent.unique parent', ShowsAll.unique below below']

theorem ShowsAll.unique {addresses : List Address} {nodes nodes' : List CategoryNode}
    (h : ShowsAll store addresses nodes) (h' : ShowsAll store addresses nodes') :
    nodes = nodes' := by
  cases h with
  | nil => cases h'; rfl
  | cons first rest =>
      cases h' with
      | cons first' rest' => rw [Shows.unique first first', ShowsAll.unique rest rest']
end

end Unique

/-! ## The first loop -/

/-- The objects at the addresses, each with its entity. -/
def Loaded (store : Store) (categories : List Address)
    (loaded : List (CategoryObject × CategoryEntity)) : Prop :=
  List.Forall₂ (fun address pair => store[address]? = some pair.1 ∧ Denotes store pair.1 pair.2)
    categories loaded

theorem Holds.loaded {store : Store} {categories : List Address} {entities : List CategoryEntity}
    (h : Holds store categories entities) :
    ∃ loaded, Loaded store categories loaded ∧ loaded.map Prod.snd = entities := by
  induction h with
  | nil => exact ⟨[], .nil, rfl⟩
  | @cons address entity _ _ first _ ih =>
      obtain ⟨object, found, denotes⟩ := first
      obtain ⟨loaded, each, same⟩ := ih
      exact ⟨(object, entity) :: loaded, .cons ⟨found, denotes⟩
        each, by rw [List.map_cons, same]⟩

abbrev objectId (pair : CategoryObject × CategoryEntity) : Uuid := pair.1.columns.id

/-- Where the copies are, the first of them at `next`. -/
def placeAll (map : NodeMap) (next : Address) :
    List (CategoryObject × CategoryEntity) → NodeMap
  | [] => map
  | pair :: loaded => placeAll (Function.update map (objectId pair) (some next)) (next + 1) loaded

section Copies

variable {store : Store} {categories : List Address} {map : NodeMap} {next : Address}
  {loaded : List (CategoryObject × CategoryEntity)}

/-- A copy, with the children that have been pushed into it. -/
def filled (pushed : List (CategoryEntity × Address)) (object : CategoryObject) : CategoryObject :=
  { object with
    children := some ((below (fun item => item.1.parentId) pushed
      (some object.columns.id)).map Prod.snd) }

theorem copyNodes_eq (h : Loaded store categories loaded) (more : Store) :
    copyNodes categories (store ++ more) map =
      (store ++ more ++ loaded.map fun pair => filled [] pair.1,
        placeAll map (store ++ more).length loaded) := by
  induction h generalizing more map with
  | nil => rw [List.map_nil, List.append_nil]; rfl
  | @cons address pair _ _ first _ ih =>
      rw [copyNodes, getElem?_append_of_some first.1]
      dsimp only
      rw [List.append_assoc, ih]
      simp only [List.map_cons, List.append_assoc, List.length_append, List.length_singleton,
        placeAll]
      rfl

theorem placeAll_of_not_mem {id : Uuid} (h : id ∉ loaded.map objectId) :
    placeAll map next loaded id = map id := by
  induction loaded generalizing map next with
  | nil => rfl
  | cons pair loaded ih =>
      rw [List.map_cons, List.mem_cons, not_or] at h
      rw [placeAll, ih h.2, Function.update_of_ne h.1]

theorem placeAll_getElem {i : ℕ} {pair : CategoryObject × CategoryEntity}
    (distinct : (loaded.map objectId).Nodup) (h : loaded[i]? = some pair) :
    placeAll map next loaded (objectId pair) = some (next + i) := by
  induction loaded generalizing map next i with
  | nil => cases h
  | cons first loaded ih =>
      rw [List.map_cons, List.nodup_cons] at distinct
      cases i with
      | zero =>
          cases h
          rw [placeAll, placeAll_of_not_mem distinct.1, Function.update_self, Nat.add_zero]
      | succ i =>
          rw [placeAll, ih distinct.2 h, Nat.add_assoc, Nat.add_comm 1]

end Copies

/-! ## The second loop -/

/-- The objects of before and the copies, after some of them have been pushed. -/
def copies (store : Store) (loaded : List (CategoryObject × CategoryEntity))
    (pushed : List (CategoryEntity × Address)) : Store :=
  store ++ loaded.map fun pair => filled pushed pair.1

abbrev itemParent (item : CategoryEntity × Address) : Option Uuid := item.1.parentId

section Pushes

variable {store : Store} {loaded : List (CategoryObject × CategoryEntity)}
  {pushed : List (CategoryEntity × Address)} {item : CategoryEntity × Address}
  {object : CategoryObject} {pair : CategoryObject × CategoryEntity}

theorem filled_other (other : itemParent item ≠ some object.columns.id) :
    filled (pushed ++ [item]) object = filled pushed object := by
  rw [filled, below_append, below_cons_of_ne other, below_nil, List.append_nil]
  rfl

theorem filled_push (same : itemParent item = some object.columns.id) :
    filled (pushed ++ [item]) object = { filled pushed object with
      children := (filled pushed object).children.map fun children => children ++ [item.2] } := by
  rw [filled, below_append, below_cons_of_eq same, List.map_append]
  rfl

theorem copies_other (other : ∀ pair ∈ loaded, itemParent item ≠ some (objectId pair)) :
    copies store loaded (pushed ++ [item]) = copies store loaded pushed := by
  unfold copies
  rw [List.map_congr_left fun pair mem => filled_other (other pair mem)]

theorem push_copies (distinct : (loaded.map objectId).Nodup) {j : ℕ}
    (h : loaded[j]? = some pair) (same : itemParent item = some (objectId pair)) :
    push (copies store loaded pushed) (store.length + j) item.2 =
      copies store loaded (pushed ++ [item]) := by
  refine List.ext_getElem? fun a => ?_
  rw [push, List.getElem?_modify]
  by_cases old : a < store.length
  · have elsewhere : store.length + j ≠ a := by omega
    simp only [copies, List.getElem?_append_left old, if_neg elsewhere, id_map']
  · obtain ⟨i, rfl⟩ := Nat.exists_eq_add_of_le (Nat.le_of_not_lt old)
    simp only [copies, List.getElem?_append_right (Nat.le_add_right _ _), Nat.add_sub_cancel_left,
      List.getElem?_map]
    cases found : loaded[i]? with
    | none => rfl
    | some other =>
        simp only [Option.map_some, Option.map_eq_map, Option.some.injEq]
        by_cases here : j = i
        · subst here
          cases h.symm.trans found
          rw [if_pos rfl, filled_push same]
        · rw [if_neg (by omega), filled_other]
          rw [same]
          intro ids
          have ids : (loaded.map objectId)[j]? = (loaded.map objectId)[i]? := by
            rw [List.getElem?_map, List.getElem?_map, h, found]
            exact ids
          have short : j < (loaded.map objectId).length := by
            rw [List.length_map]
            exact (List.getElem?_eq_some_iff.mp h).1
          exact here ((List.getElem?_inj short distinct).mp ids)

end Pushes

section Attaching

variable {store : Store} {loaded : List (CategoryObject × CategoryEntity)}

theorem attachNodes_eq (distinct : (loaded.map objectId).Nodup) {rest : List Address}
    {pairs : List (CategoryObject × CategoryEntity)} (each : Loaded store rest pairs)
    {done : List (CategoryObject × CategoryEntity)} (split : loaded = done ++ pairs)
    (pushed : List (CategoryEntity × Address)) (roots : List Address) :
    attachNodes (placeAll (fun _ => none) store.length loaded) rest (copies store loaded pushed)
        roots =
      (copies store loaded
        (pushed ++ (pairs.map Prod.snd).zipIdx (store.length + done.length)),
        roots ++ (below itemParent ((pairs.map Prod.snd).zipIdx (store.length + done.length))
          none).map Prod.snd) := by
  induction each generalizing done pushed roots with
  | nil => simp [attachNodes, below]
  | @cons address pair rest pairs first _ ih =>
      have next : loaded = (done ++ [pair]) ++ pairs := by rw [split, List.append_assoc]; rfl
      have here : loaded[done.length]? = some pair := by
        rw [split, List.getElem?_append_right (Nat.le_refl _), Nat.sub_self]
        rfl
      have node : placeAll (fun _ => none) store.length loaded (objectId pair) =
          some (store.length + done.length) := placeAll_getElem distinct here
      have found : (copies store loaded pushed)[address]? = some pair.1 :=
        getElem?_append_of_some first.1
      have parent : parentId (copies store loaded pushed) pair.1 = pair.2.parentId :=
        parentId_of_shows first.2.parent.append
      have position : store.length + (done ++ [pair]).length = store.length + done.length + 1 := by
        rw [List.length_append, List.length_singleton, Nat.add_assoc]
      have ih := fun pushed roots => ih next pushed roots
      rw [position] at ih
      rw [attachNodes, found]
      dsimp only
      rw [node, parent, List.map_cons, List.zipIdx_cons]
      generalize hitem : (pair.2, store.length + done.length) = item
      have item_up : itemParent item = pair.2.parentId := by rw [← hitem]
      have item_at : item.2 = store.length + done.length := by rw [← hitem]
      generalize (pairs.map Prod.snd).zipIdx (store.length + done.length + 1) = items at ih ⊢
      have split_items : pushed ++ item :: items = (pushed ++ [item]) ++ items := by
        rw [List.append_assoc]
        rfl
      rw [split_items]
      cases up : pair.2.parentId with
      | none =>
          rw [up] at item_up
          have unchanged : copies store loaded (pushed ++ [item]) = copies store loaded pushed :=
            copies_other fun pair _ => by rw [item_up]; exact (Option.some_ne_none _).symm
          dsimp only
          rw [← unchanged, ih, below_cons_of_eq item_up, List.map_cons, item_at,
            List.append_assoc roots]
          rfl
      | some id =>
          rw [up] at item_up
          rw [below_cons_of_ne (item_up ▸ Option.some_ne_none id)]
          dsimp only
          by_cases known : id ∈ loaded.map objectId
          · obtain ⟨other, mem, rfl⟩ := List.mem_map.mp known
            obtain ⟨j, found⟩ := List.getElem?_of_mem mem
            rw [placeAll_getElem distinct found]
            dsimp only
            rw [← item_at, push_copies distinct found item_up, ih]
          · have unchanged : copies store loaded (pushed ++ [item]) = copies store loaded pushed :=
              copies_other fun pair mem same => known (by
                rw [item_up] at same
                rw [Option.some.inj same]
                exact List.mem_map_of_mem mem)
            rw [placeAll_of_not_mem known]
            dsimp only
            rw [← unchanged, ih]

/-- The nodes of the list, with their addresses. -/
def items (store : Store) (entities : List CategoryEntity) : List (CategoryEntity × Address) :=
  entities.zipIdx store.length

/-- The copies stand after the objects of before. Each has those for children whose category
names it, and those without a parent are the roots. -/
theorem buildTree_eq {categories : List Address} (each : Loaded store categories loaded)
    (distinct : (loaded.map objectId).Nodup) :
    buildTree categories store =
      (copies store loaded (items store (loaded.map Prod.snd)),
        (below itemParent (items store (loaded.map Prod.snd)) none).map Prod.snd) := by
  have copied : copyNodes categories store (fun _ => none) =
      (copies store loaded [], placeAll (fun _ => none) store.length loaded) := by
    have copied := @copyNodes_eq _ _ (fun _ => none) _ each []
    rwa [List.append_nil] at copied
  have attached := attachNodes_eq distinct each (List.nil_append loaded).symm [] []
  rw [List.nil_append, List.nil_append] at attached
  rw [buildTree, copied]
  exact attached

end Attaching

/-! ## What the roots show -/

section Showing

variable {store : Store} {categories : List Address} {entities : List CategoryEntity}
  {loaded : List (CategoryObject × CategoryEntity)} {trees : List (Rose CategoryEntity)}

abbrev entityId (entity : CategoryEntity) : Uuid := entity.id

theorem Loaded.denotes (each : Loaded store categories loaded) :
    ∀ pair ∈ loaded, Denotes store pair.1 pair.2 := by
  induction each with
  | nil => exact fun pair mem => by cases mem
  | cons first _ ih =>
      intro pair mem
      rcases List.mem_cons.mp mem with rfl | mem
      · exact first.2
      · exact ih pair mem

theorem Loaded.ids (each : Loaded store categories loaded) :
    loaded.map objectId = (loaded.map Prod.snd).map entityId := by
  rw [List.map_map]
  refine List.map_congr_left fun pair mem => ?_
  rw [objectId, (each.denotes pair mem).columns]
  rfl

/-- A node for each item whose value is in the forest. -/
theorem showsAll_of_items {final : Store} {chosen items : List (CategoryEntity × Address)}
    (values : trees.map Rose.value = chosen.map Prod.fst) (known : chosen ⊆ items)
    (each : ∀ t ∈ trees, ∀ address, (t.value, address) ∈ items →
      Shows final address (nodeOf t)) :
    ShowsAll final (chosen.map Prod.snd) (nodesOf trees) := by
  induction trees generalizing chosen with
  | nil =>
      rw [List.map_eq_nil_iff.mp values.symm]
      exact .nil
  | cons t trees ih =>
      cases chosen with
      | nil => cases values
      | cons item chosen =>
          obtain ⟨first, rest⟩ := List.cons.inj values
          obtain ⟨here, known⟩ := List.cons_subset.mp known
          refine .cons (each t List.mem_cons_self item.2 ?_)
            (ih rest known fun u mem => each u (List.mem_cons_of_mem _ mem))
          rw [first]
          exact here

theorem shows_node (each : Loaded store categories loaded) (tree : Rose CategoryEntity)
    (grown : Grown entityId CategoryEntity.parentId (loaded.map Prod.snd) tree) :
    ∀ address, (tree.value, address) ∈ items store (loaded.map Prod.snd) →
      Shows (copies store loaded (items store (loaded.map Prod.snd))) address (nodeOf tree) := by
  induction tree using Rose.induction with
  | step entity children ih =>
      intro address mem
      obtain ⟨after, found⟩ := List.mk_mem_zipIdx_iff_le_and_getElem?_sub.mp mem
      obtain ⟨i, rfl⟩ := Nat.exists_eq_add_of_le after
      rw [Nat.add_sub_cancel_left, List.getElem?_map] at found
      obtain ⟨pair, found, same⟩ := Option.map_eq_some_iff.mp found
      have same : pair.2 = entity := same
      have denotes := each.denotes pair (List.mem_of_getElem? found)
      rw [same] at denotes
      have here : (copies store loaded (items store (loaded.map Prod.snd)))[store.length + i]? =
          some (filled (items store (loaded.map Prod.snd)) pair.1) := by
        rw [copies, List.getElem?_append_right (Nat.le_add_right _ _), Nat.add_sub_cancel_left,
          List.getElem?_map, found]
        rfl
      refine .node here denotes.columns denotes.parent.append rfl ?_
      refine showsAll_of_items ?_ (List.filter_subset_self _) fun t mem address =>
        ih t mem (grown.child mem) address
      have values := grown _ (Rose.self_mem_subtrees _)
      rw [denotes.columns, ← below_map, items, List.zipIdx_map_fst]
      exact values

/-- The roots show the forest that hangs from the list, and what there was is as it was. -/
theorem buildTree_shows (holds : Holds store categories entities)
    (distinct : (entities.map entityId).Nodup)
    (hangs : Hangs entityId CategoryEntity.parentId entities trees) :
    ShowsAll (buildTree categories store).1 (buildTree categories store).2 (nodesOf trees) ∧
      store <+: (buildTree categories store).1 := by
  obtain ⟨loaded, each, rfl⟩ := holds.loaded
  rw [buildTree_eq each (each.ids ▸ distinct)]
  refine ⟨showsAll_of_items ?_ (List.filter_subset_self _) fun t mem =>
    shows_node each t (hangs.at_root mem), List.prefix_append _ _⟩
  rw [hangs.roots, ← below_map, items, List.zipIdx_map_fst]

end Showing

/-! ## The tree of the service -/

section Nodes

variable {entities : List CategoryEntity} {trees : List (Rose CategoryEntity)}

theorem nodesOf_eq (trees : List (Rose CategoryEntity)) : nodesOf trees = trees.map nodeOf := by
  induction trees with
  | nil => rfl
  | cons tree trees ih => rw [nodesOf, ih, List.map_cons]

theorem ids_nodeOf (tree : Rose CategoryEntity) :
    (nodeOf tree).ids = (Rose.subtrees tree).map fun t => t.value.id := by
  induction tree using Rose.induction with
  | step entity children ih =>
      have below : CategoryNode.idsOf (nodesOf children) =
          (Rose.subtreesOf children).map fun t => t.value.id := by
        induction children with
        | nil => rfl
        | cons child children ih' =>
            rw [nodesOf, CategoryNode.idsOf, ih child List.mem_cons_self, Rose.subtreesOf,
              List.map_append, ih' fun t mem => ih t (List.mem_cons_of_mem _ mem)]
      rw [nodeOf, CategoryNode.ids, below]
      rfl

theorem idsOf_nodesOf (trees : List (Rose CategoryEntity)) :
    CategoryNode.idsOf (nodesOf trees) = (Rose.entriesOf trees).map entityId := by
  induction trees with
  | nil => rfl
  | cons tree trees ih =>
      rw [nodesOf, CategoryNode.idsOf, ih, ids_nodeOf]
      simp [Rose.entriesOf, Rose.subtreesOf]

theorem treeNode?_of_mem (distinct : (entities.map entityId).Nodup) {entity : CategoryEntity}
    (h : entity ∈ entities) : CategoryService.treeNode? entities entity.id = some entity := by
  unfold CategoryService.treeNode?
  cases found : entities.reverse.find? (·.id == entity.id) with
  | none =>
      have other := List.find?_eq_none.mp found entity (List.mem_reverse.mpr h)
      exact absurd (beq_self_eq_true _) other
  | some other =>
      have same : other.id = entity.id := by simpa using List.find?_some found
      have mem := List.mem_reverse.mp (List.mem_of_find?_eq_some found)
      rw [eq_of_key distinct mem h same]

theorem filterMap_treeNode? {β : Type} (distinct : (entities.map entityId).Nodup)
    {chosen : List CategoryEntity} (known : chosen ⊆ entities) (f : CategoryEntity → β) :
    (chosen.filterMap fun c => (CategoryService.treeNode? entities c.id).map f) =
      chosen.map f := by
  rw [List.filterMap_congr fun c mem => by rw [treeNode?_of_mem distinct (known mem)]]
  exact List.filterMap_eq_map' ▸ rfl

theorem growNode_eq (distinct : (entities.map entityId).Nodup) (fuel : ℕ)
    (entity : CategoryEntity) : CategoryService.growNode entities fuel entity =
      nodeOf (grow entityId CategoryEntity.parentId entities fuel entity) := by
  induction fuel generalizing entity with
  | zero => rfl
  | succ fuel ih =>
      have known : entities.filter (fun c => c.parentId == some entity.id) ⊆ entities :=
        List.filter_subset_self _
      rw [CategoryService.growNode, filterMap_treeNode? distinct known, grow, nodeOf, nodesOf_eq,
        List.map_map]
      refine congrArg _ (List.map_congr_left fun c _ => ih c)

/-- The tree that the service answers with is the forest that hangs from its list. -/
theorem buildTree_forest (distinct : (entities.map entityId).Nodup) :
    CategoryService.buildTree entities =
      nodesOf (forest entityId CategoryEntity.parentId entities) := by
  have known : entities.filter (fun c => c.parentId.isNone) ⊆ entities :=
    List.filter_subset_self _
  have roots : entities.filter (fun c => c.parentId.isNone) =
      below CategoryEntity.parentId entities none := by
    refine List.filter_congr fun c _ => ?_
    cases c.parentId <;> rfl
  rw [CategoryService.buildTree, filterMap_treeNode? distinct known, roots, nodesOf_eq, forest,
    List.map_map]
  exact List.map_congr_left fun c _ => growNode_eq distinct _ c

end Nodes

end TreeObjects
end Tenantory
