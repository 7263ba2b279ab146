import Tenantory.CategoryService
import Tenantory.ParentLinks
import Tenantory.SampleShop
import Tenantory.SerialRuns
import Mathlib.Data.List.Lex
import Mathlib.Data.Char

/-! The category tree of a tenant. `TreeOf` says what the tree is for: every live
category stands once in it, under its parent. The query behind it loads categories
without their parents, so that each of them becomes a root. -/

namespace Tenantory

namespace CategoryNode

def column : CategoryNode → CategoryColumns
  | mk category _ _ => category

def children : CategoryNode → List CategoryNode
  | mk _ _ children => children

mutual
/-- The ids of the nodes at and below a node. -/
def ids : CategoryNode → List Uuid
  | mk category _ children => category.id :: idsOf children

def idsOf : List CategoryNode → List Uuid
  | [] => []
  | node :: nodes => ids node ++ idsOf nodes
end

/-- The nodes of a forest. -/
inductive Within (roots : List CategoryNode) : CategoryNode → Prop
  | root {node : CategoryNode} : node ∈ roots → Within roots node
  | child {node parent : CategoryNode} : Within roots parent → node ∈ parent.children →
      Within roots node

/-- In ascending order of name. -/
def Ascending (platform : Platform) (nodes : List CategoryNode) : Prop :=
  nodes.Pairwise fun a b => platform.collate a.column.name b.column.name = true

/-- The tree of the live categories of a tenant. -/
structure TreeOf (platform : Platform) (live : List Category) (roots : List CategoryNode) :
    Prop where
  once : (idsOf roots).Perm (live.map (·.id))
  roots_iff : ∀ c ∈ live, c.id ∈ roots.map (·.column.id) ↔ c.parentId = none
  under_parent : ∀ c ∈ live, ∀ parent, c.parentId = some parent →
    ∃ node, Within roots node ∧ node.column.id = parent ∧
      c.id ∈ node.children.map (·.column.id)
  roots_ascending : Ascending platform roots
  siblings_ascending : ∀ node, Within roots node → Ascending platform node.children

end CategoryNode

/-- The parent links of categories. -/
def categoryLinks (rows : List Category) (id : Uuid) (parent : Option Uuid) : Prop :=
  ∃ c ∈ rows, c.id = id ∧ c.parentId = parent

/-- The live categories of a tenant. -/
def Database.categoriesOf (db : Database) (tenant : Uuid) : List Category :=
  db.categories.select fun c => c.tenantId == tenant && c.live

namespace CategoryService

open CategoryNode

/-! ## Categories without parents -/

def leaf (row : Category) : CategoryNode := .mk row.columns none []

theorem idsOf_leaves (rows : List Category) : idsOf (rows.map leaf) = rows.map (·.id) := by
  induction rows with
  | nil => rfl
  | cons row rows ih => simp [idsOf, ids, leaf, Category.columns, ih]

theorem within_leaves {rows : List Category} {node : CategoryNode}
    (h : Within (rows.map leaf) node) : ∃ row ∈ rows, node = leaf row := by
  induction h with
  | root mem =>
      obtain ⟨row, hr, rfl⟩ := List.mem_map.mp mem
      exact ⟨row, hr, rfl⟩
  | child _ mem ih =>
      obtain ⟨row, -, rfl⟩ := ih
      cases mem

theorem treeNode?_plain {rows : List Category} (distinct : (rows.map (·.id)).Nodup)
    {row : Category} (h : row ∈ rows) :
    treeNode? (rows.map CategoryEntity.plain) row.id = some (CategoryEntity.plain row) := by
  unfold treeNode?
  rw [← List.map_reverse, List.find?_map]
  have distinct : (rows.reverse.map (·.id)).Nodup := by
    rw [List.map_reverse, List.nodup_reverse]
    exact distinct
  have mem : row ∈ rows.reverse := List.mem_reverse.mpr h
  generalize rows.reverse = rows at distinct mem
  induction rows with
  | nil => cases mem
  | cons first rows ih =>
      rw [List.map_cons, List.nodup_cons] at distinct
      rcases List.mem_cons.mp mem with rfl | later
      · simp [CategoryEntity.plain, Category.columns]
      · have other : first.id ≠ row.id := fun same =>
          distinct.1 (same ▸ List.mem_map_of_mem later)
        rw [List.find?_cons_of_neg]
        · exact ih distinct.2 later
        · simpa [CategoryEntity.plain, Category.columns] using other

/-- Entities that are loaded without their parents become roots without children. -/
theorem buildTree_plain {rows : List Category} (distinct : (rows.map (·.id)).Nodup) :
    buildTree (rows.map CategoryEntity.plain) = rows.map leaf := by
  have no_parent : ∀ c ∈ rows.map CategoryEntity.plain, c.parentId = none := by
    intro c hc
    obtain ⟨row, -, rfl⟩ := List.mem_map.mp hc
    rfl
  have grown : ∀ n row, growNode (rows.map CategoryEntity.plain) n (CategoryEntity.plain row) =
      leaf row := by
    intro n row
    cases n with
    | zero => rfl
    | succ n =>
        have none_below : (rows.map CategoryEntity.plain).filter
            (fun c => c.parentId == some (CategoryEntity.plain row).id) = [] := by
          refine List.filter_eq_nil_iff.mpr fun c hc => ?_
          simp [no_parent c hc]
        rw [growNode, none_below]
        rfl
  unfold buildTree
  rw [List.filter_eq_self.mpr fun c hc => by simp [no_parent c hc], List.filterMap_map]
  rw [List.length_map]
  generalize rows.length = n at grown ⊢
  have each : ∀ row ∈ rows, ((fun c => (treeNode? (rows.map CategoryEntity.plain) c.id).map
      (growNode (rows.map CategoryEntity.plain) n)) ∘ CategoryEntity.plain) row =
        some (leaf row) := by
    intro row hr
    have found := treeNode?_plain distinct hr
    show (treeNode? _ row.id).map _ = _
    rw [found, Option.map_some, grown]
  rw [List.filterMap_congr each]
  exact List.filterMap_eq_map' ▸ rfl

/-! ## The tree of the service -/

variable {platform : Platform} {tenantId : String} {tenant : Uuid} {w : World}

/-- The tree that the service answers with, for a live tenant with categories. -/
def rootsOnly (platform : Platform) (ties : Uuid → ℕ) (live : List Category) :
    List CategoryNode :=
  (platform.orderBy ties .asc (fun c => .text c.name) live).map leaf

theorem findTree_answer (named : UuidText.uuidIn tenantId = some tenant)
    (uncached : (w.cached (CacheKeys.categoriesTree tenantId)).bind Cached.categoriesTree? = none) :
    ((findTree platform tenantId).runs w).1 =
      if w.db.liveTenant tenant ∧ w.db.categoriesOf tenant ≠ [] then
        .ok (rootsOnly platform (w.ties 0) (w.db.categoriesOf tenant))
      else .error (.notFound s!"There is no category for tenant {tenantId}") := by
  have rows : (w.db.categories.select fun c =>
      c.tenantId == tenant && w.db.liveTenant tenant && c.live) =
      if w.db.liveTenant tenant then w.db.categoriesOf tenant else [] := by
    cases w.db.liveTenant tenant <;> simp [Database.categoriesOf, Table.select]
  have read : readTree platform tenantId (w.ties 0) w =
      .ok ((platform.orderBy (w.ties 0) .asc (fun c : Category => .text c.name)
        (if w.db.liveTenant tenant then w.db.categoriesOf tenant else [])).map
          CategoryEntity.plain) := by
    simp only [readTree, uuidParam, named]
    rw [← rows]
    rfl
  simp only [findTree, Svc.runs_bind, Svc.runs_get, Svc.follow_ok, uncached, Svc.runs_listing, read]
  by_cases live : w.db.liveTenant tenant = true
  · simp only [live, if_true, true_and]
    have perm := perm_orderBy platform (w.ties 0) .asc (fun c : Category => .text c.name)
      (w.db.categoriesOf tenant)
    have distinct : ((platform.orderBy (w.ties 0) .asc (fun c : Category => .text c.name)
        (w.db.categoriesOf tenant)).map (·.id)).Nodup :=
      (perm.map _).nodup_iff.mpr (nodup_ids w.db.categories _)
    by_cases empty : w.db.categoriesOf tenant = []
    · simp [empty, Platform.orderBy]
    · have some_row : ¬ platform.orderBy (w.ties 0) .asc (fun c : Category => .text c.name)
          (w.db.categoriesOf tenant) = [] := fun none => empty (by simpa [none] using perm)
      simp [empty, some_row, buildTree_plain distinct, rootsOnly, Except.map]
  · simp [live, Platform.orderBy]

theorem treeOf_rootsOnly (ordered : platform.Ordered) (ties : Uuid → ℕ) {live : List Category}
    (no_parent : ∀ c ∈ live, c.parentId = none) :
    TreeOf platform live (rootsOnly platform ties live) := by
  have perm := perm_orderBy platform ties .asc (fun c : Category => .text c.name) live
  refine ⟨?_, fun c hc => ?_, fun c hc parent up => ?_, ?_, fun node inside => ?_⟩
  · rw [rootsOnly, idsOf_leaves]
    exact perm.map _
  · have root : c.id ∈ (rootsOnly platform ties live).map (·.column.id) := by
      rw [rootsOnly, List.map_map]
      exact List.mem_map.mpr ⟨c, perm.mem_iff.mpr hc, rfl⟩
    simp [no_parent c hc, root]
  · rw [no_parent c hc] at up
    cases up
  · have sorted : (platform.orderBy ties .asc (fun c : Category => .text c.name) live).Pairwise
        fun r s => platform.le (.text r.name) (.text s.name) = true :=
      Platform.pairwise_orderBy ordered live
    exact List.pairwise_map.mpr sorted
  · obtain ⟨row, -, rfl⟩ := within_leaves inside
    exact List.Pairwise.nil

theorem no_parent_of_treeOf {ties : Uuid → ℕ} {live : List Category}
    (tree : TreeOf platform live (rootsOnly platform ties live)) :
    ∀ c ∈ live, c.parentId = none := by
  intro c hc
  have perm := perm_orderBy platform ties .asc (fun c : Category => .text c.name) live
  refine (tree.roots_iff c hc).mp ?_
  rw [rootsOnly, List.map_map]
  exact List.mem_map.mpr ⟨c, perm.mem_iff.mpr hc, rfl⟩

end CategoryService

open CategoryService CategoryNode

/-- `findTree` returns the tenant's tree exactly where there is nothing to nest: it has
live categories and none of them has a parent. -/
theorem findTree_returns_tree {platform : Platform} (ordered : platform.Ordered)
    {tenantId : String} {tenant : Uuid} (named : UuidText.uuidIn tenantId = some tenant) (w : World)
    (uncached :
      (w.cached (CacheKeys.categoriesTree tenantId)).bind Cached.categoriesTree? = none) :
    (∃ roots, ((CategoryService.findTree platform tenantId).runs w).1 = .ok roots ∧
        TreeOf platform (w.db.categoriesOf tenant) roots) ↔
      w.db.liveTenant tenant = true ∧ w.db.categoriesOf tenant ≠ [] ∧
        ∀ c ∈ w.db.categoriesOf tenant, c.parentId = none := by
  rw [findTree_answer named uncached]
  constructor
  · rintro ⟨roots, answer, tree⟩
    split at answer
    · rename_i found
      cases answer
      exact ⟨found.1, found.2, no_parent_of_treeOf tree⟩
    · cases answer
  · rintro ⟨live, some_row, no_parent⟩
    exact ⟨_, if_pos ⟨live, some_row⟩, treeOf_rootsOnly ordered _ no_parent⟩

namespace SampleShop

def plainText : Platform where
  toLowerCase s := s
  normalizeNFD s := s
  digest _ := ""
  collate a b := decide (a.toList ≤ b.toList)
  fold s := s
  dateTime _ := none
  timestamp _ := .error .invalidText
  sortText _ _ := .ok fun _ _ => .ok .null

theorem plainText_ordered : plainText.Ordered where
  total a b := by simpa [plainText] using Std.le_total (a := a.toList) (b := b.toList)
  trans a b c h h' := by
    simp only [plainText, decide_eq_true_eq] at h h' ⊢
    exact Std.le_trans h h'

theorem plainText_deterministic (s t : String) (h : plainText.collate s t = true)
    (h' : plainText.collate t s = true) : s = t := by
  simp only [plainText, decide_eq_true_eq] at h h'
  exact String.toList_inj.mp (Std.le_antisymm h h')

/-- The digest of a list query counts its page. -/
def pageDigest : Json → String
  | .obj ((_, .num page) :: _) => String.ofList (List.replicate page.num.toNat 'p')
  | _ => ""

def paging : Platform := { plainText with digest := pageDigest }

theorem pageDigest_inj {m n : ℕ}
    (h : pageDigest (.obj [("page", .num m)]) = pageDigest (.obj [("page", .num n)])) : m = n := by
  have counted (k : ℕ) :
      pageDigest (.obj [("page", .num k)]) = String.ofList (List.replicate k 'p') := by
    change String.ofList (List.replicate (k : ℚ).num.toNat 'p') = _
    rw [Rat.num_natCast, Int.toNat_natCast]
  rw [counted, counted] at h
  simpa using congrArg List.length (String.ofList_injective h)

theorem paging_ordered : paging.Ordered := ⟨plainText_ordered.total, plainText_ordered.trans⟩

def subcategory : Category := ⟨0xcb, tenantId, "Polos", "polos", some categoryId, 0, 0, none⟩

/-- The shop with a category below its category. -/
def nested : Database :=
  { unstocked with categories := ⟨[category, subcategory], by decide⟩ }

/-- Three root categories of the shop, a removed one, and one of another tenant. -/
def departments : Database :=
  { unstocked with
    categories := ⟨[category, ⟨0xcc, tenantId, "Hats", "hats", none, 0, 0, none⟩,
      ⟨0xcd, tenantId, "Belts", "belts", none, 0, 0, none⟩,
      ⟨0xce, tenantId, "Scarves", "scarves", none, 0, 0, some 1⟩,
      ⟨0xcf, 0x72, "Shoes", "shoes", none, 0, 0, none⟩], by decide⟩ }

end SampleShop

open SampleShop

theorem findTree_returns_tree_shop :
    ∃ roots, ((CategoryService.findTree plainText (UuidText.uuidOut SampleShop.tenantId)).runs
        (world departments)).1 = .ok roots ∧
      TreeOf plainText ((world departments).db.categoriesOf SampleShop.tenantId) roots :=
  (findTree_returns_tree plainText_ordered (UuidText.uuidIn_uuidOut SampleShop.tenantId)
    (world departments) rfl).mpr (by decide)

/-- A subcategory comes back as a root. -/
theorem findTree_flattens :
    (∀ c ∈ nested.categoriesOf SampleShop.tenantId,
        Rooted (categoryLinks (nested.categoriesOf SampleShop.tenantId)) c.id) ∧
      ¬ ∃ roots,
        ((CategoryService.findTree plainText (UuidText.uuidOut SampleShop.tenantId)).runs
          (world nested)).1 = .ok roots ∧
        TreeOf plainText (nested.categoriesOf SampleShop.tenantId) roots := by
  have rows : nested.categoriesOf SampleShop.tenantId = [category, subcategory] := by decide
  have top : Rooted (categoryLinks [category, subcategory]) SampleShop.categoryId :=
    .root ⟨category, by simp, rfl, rfl⟩
  refine ⟨?_, ?_⟩
  · rw [rows]
    intro c hc
    rcases List.mem_cons.mp hc with rfl | hc
    · exact top
    · rcases List.mem_cons.mp hc with rfl | hc
      · exact .under ⟨subcategory, by simp, rfl, rfl⟩ top
      · cases hc
  · rintro ⟨roots, answer, tree⟩
    rw [findTree_answer (UuidText.uuidIn_uuidOut SampleShop.tenantId) rfl] at answer
    have found : (world nested).db.liveTenant SampleShop.tenantId = true ∧
        (world nested).db.categoriesOf SampleShop.tenantId ≠ [] := by decide
    rw [if_pos found] at answer
    cases answer
    have root := no_parent_of_treeOf tree subcategory (by decide)
    cases root

end Tenantory
