import Tenantory.ParentLinks
import Mathlib.Data.List.Nodup
import Mathlib.Data.List.Perm.Subperm
import Mathlib.Data.List.Lemmas

/-! Forests of the elements of a list. Each element has a key and may name the key of its
parent. A forest hangs from the list when its roots are the elements without a parent and each
node has the elements that name it as its children, all in the order of the list. Such a forest
has the elements from which one comes to a root, once each. -/

namespace Tenantory

inductive Rose (α : Type) : Type
  | node (value : α) (children : List (Rose α))

namespace Rose

variable {α : Type}

def value : Rose α → α
  | node value _ => value

def children : Rose α → List (Rose α)
  | node _ children => children

mutual
/-- The trees at and below a node. -/
def subtrees : Rose α → List (Rose α)
  | node value children => node value children :: subtreesOf children

def subtreesOf : List (Rose α) → List (Rose α)
  | [] => []
  | tree :: trees => subtrees tree ++ subtreesOf trees
end

/-- The values of a forest. -/
def entriesOf (trees : List (Rose α)) : List α := (subtreesOf trees).map value

theorem induction {motive : Rose α → Prop}
    (step : ∀ value children, (∀ child ∈ children, motive child) →
      motive (node value children)) :
    ∀ tree, motive tree
  | node value children => step value children fun child _ => induction step child

theorem subtreesOf_eq (trees : List (Rose α)) : subtreesOf trees = trees.flatMap subtrees := by
  induction trees with
  | nil => rfl
  | cons tree trees ih => rw [subtreesOf, List.flatMap_cons, ih]

theorem mem_subtreesOf {tree : Rose α} {trees : List (Rose α)} :
    tree ∈ subtreesOf trees ↔ ∃ root ∈ trees, tree ∈ subtrees root := by
  rw [subtreesOf_eq, List.mem_flatMap]

theorem mem_subtrees {tree : Rose α} {value : α} {children : List (Rose α)} :
    tree ∈ subtrees (node value children) ↔
      tree = node value children ∨ tree ∈ subtreesOf children := by
  rw [subtrees, List.mem_cons]

theorem self_mem_subtrees (tree : Rose α) : tree ∈ subtrees tree := by
  cases tree
  exact List.mem_cons_self

theorem root_mem {tree : Rose α} {trees : List (Rose α)} (h : tree ∈ trees) :
    tree ∈ subtreesOf trees := mem_subtreesOf.mpr ⟨tree, h, self_mem_subtrees tree⟩

theorem child_mem_subtrees {tree child : Rose α} (h : child ∈ tree.children) (root : Rose α)
    (inside : tree ∈ subtrees root) : child ∈ subtrees root := by
  induction root using induction with
  | step value children ih =>
      rw [mem_subtrees] at inside ⊢
      refine .inr ?_
      rcases inside with rfl | inside
      · exact root_mem h
      · obtain ⟨below, mem, inside⟩ := mem_subtreesOf.mp inside
        exact mem_subtreesOf.mpr ⟨below, mem, ih below mem inside⟩

theorem child_mem {tree child : Rose α} {trees : List (Rose α)}
    (inside : tree ∈ subtreesOf trees)
    (h : child ∈ tree.children) : child ∈ subtreesOf trees := by
  obtain ⟨root, mem, inside⟩ := mem_subtreesOf.mp inside
  exact mem_subtreesOf.mpr ⟨root, mem, child_mem_subtrees h root inside⟩

theorem root_or_child_below (root : Rose α) : ∀ tree ∈ subtrees root,
    tree = root ∨ ∃ parent ∈ subtrees root, tree ∈ parent.children := by
  induction root using induction with
  | step value children ih =>
      intro tree inside
      rcases mem_subtrees.mp inside with same | inside
      · exact .inl same
      · refine .inr ?_
        obtain ⟨child, mem, inside⟩ := mem_subtreesOf.mp inside
        rcases ih child mem tree inside with rfl | ⟨parent, deeper, below⟩
        · exact ⟨_, self_mem_subtrees _, mem⟩
        · exact ⟨parent, mem_subtrees.mpr (.inr (mem_subtreesOf.mpr ⟨child, mem, deeper⟩)),
            below⟩

/-- Every tree is a root or a child of another one. -/
theorem root_or_child {tree : Rose α} {trees : List (Rose α)}
    (inside : tree ∈ subtreesOf trees) :
    tree ∈ trees ∨ ∃ parent ∈ subtreesOf trees, tree ∈ parent.children := by
  obtain ⟨root, mem, inside⟩ := mem_subtreesOf.mp inside
  rcases root_or_child_below root tree inside with rfl | ⟨parent, deeper, below⟩
  · exact .inl mem
  · exact .inr ⟨parent, mem_subtreesOf.mpr ⟨root, mem, deeper⟩, below⟩

end Rose

namespace ParentForest

open Rose

variable {α κ : Type} [DecidableEq κ] (key : α → κ) (up : α → Option κ) (list : List α)

/-- The elements that name a parent, or none. -/
def below (parent : Option κ) : List α := list.filter fun a => up a == parent

def Links (k : κ) (parent : Option κ) : Prop := ∃ a ∈ list, key a = k ∧ up a = parent

/-- At and below a node, the children are the elements that name their parent. -/
def Grown (tree : Rose α) : Prop :=
  ∀ t ∈ subtrees tree, t.children.map value = below up list (some (key t.value))

structure Hangs (trees : List (Rose α)) : Prop where
  roots : trees.map value = below up list none
  grown : ∀ t ∈ subtreesOf trees, t.children.map value = below up list (some (key t.value))

variable {key up list} {a b : α} {parent : Option κ} {tree : Rose α} {trees : List (Rose α)}

theorem mem_below : a ∈ below up list parent ↔ a ∈ list ∧ up a = parent := by
  rw [below, List.mem_filter, beq_iff_eq]

theorem below_nil : below up [] parent = [] := rfl

theorem below_cons_of_eq (h : up a = parent) :
    below up (a :: list) parent = a :: below up list parent :=
  List.filter_cons_of_pos (beq_iff_eq.mpr h)

theorem below_cons_of_ne (h : up a ≠ parent) :
    below up (a :: list) parent = below up list parent :=
  List.filter_cons_of_neg (fun same => h (beq_iff_eq.mp same))

theorem below_append (list' : List α) :
    below up (list ++ list') parent = below up list parent ++ below up list' parent :=
  List.filter_append _ _

theorem below_map {β : Type} (f : β → α) (elements : List β) :
    below up (elements.map f) parent = (below (fun b => up (f b)) elements parent).map f := by
  rw [below, List.filter_map]
  rfl

theorem links_of_below (h : a ∈ below up list parent) : Links key up list (key a) parent :=
  ⟨a, (mem_below.mp h).1, rfl, (mem_below.mp h).2⟩

theorem Hangs.at_root (hangs : Hangs key up list trees) (h : tree ∈ trees) :
    Grown key up list tree :=
  fun t inside => hangs.grown t (mem_subtreesOf.mpr ⟨tree, h, inside⟩)

theorem Grown.child (grown : Grown key up list tree) {child : Rose α}
    (h : child ∈ tree.children) :
    Grown key up list child := by
  intro t inside
  refine grown t ?_
  cases tree
  exact mem_subtrees.mpr (.inr (mem_subtreesOf.mpr ⟨child, h, inside⟩))

theorem Grown.link (grown : Grown key up list tree) {child : Rose α}
    (h : child ∈ tree.children) :
    Links key up list (key child.value) (some (key tree.value)) := by
  refine links_of_below ?_
  rw [← grown tree (self_mem_subtrees tree)]
  exact List.mem_map_of_mem h

/-! ## One forest for a list -/

theorem eq_of_values {ts us : List (Rose α)} (same : ts.map value = us.map value)
    (each : ∀ t ∈ ts, ∀ u ∈ us, t.value = u.value → t = u) : ts = us := by
  induction ts generalizing us with
  | nil => exact (List.map_eq_nil_iff.mp same.symm).symm
  | cons t ts ih =>
      cases us with
      | nil => cases same
      | cons u us =>
          obtain ⟨first, rest⟩ := List.cons.inj same
          rw [each t List.mem_cons_self u List.mem_cons_self first,
            ih rest fun t mem u mem' => each t (List.mem_cons_of_mem _ mem) u
              (List.mem_cons_of_mem _ mem')]

theorem Grown.unique (tree : Rose α) : ∀ other : Rose α, Grown key up list tree →
    Grown key up list other → tree.value = other.value → tree = other := by
  induction tree using Rose.induction with
  | step a ts ih =>
      rintro ⟨b, us⟩ grown grown' same
      have same : a = b := same
      subst same
      have lists : ts.map value = us.map value :=
        (grown _ (self_mem_subtrees _)).trans (grown' _ (self_mem_subtrees _)).symm
      rw [eq_of_values lists fun t mem u mem' =>
        ih t mem u (grown.child mem) (grown'.child mem')]

theorem Hangs.unique {others : List (Rose α)} (hangs : Hangs key up list trees)
    (hangs' : Hangs key up list others) : trees = others :=
  eq_of_values (hangs.roots.trans hangs'.roots.symm) fun t mem u mem' =>
    Grown.unique t u (hangs.at_root mem) (hangs'.at_root mem')

/-! ## The elements of the forest -/

/-- The keys that are rooted are those of the forest. -/
theorem Hangs.exists_iff (hangs : Hangs key up list trees) (k : κ) :
    (∃ t ∈ subtreesOf trees, key t.value = k) ↔ Rooted (Links key up list) k := by
  constructor
  · rintro ⟨t, inside, rfl⟩
    obtain ⟨root, mem, inside⟩ := mem_subtreesOf.mp inside
    have first : Rooted (Links key up list) (key root.value) :=
      .root (links_of_below (hangs.roots ▸ List.mem_map_of_mem mem))
    have grown := hangs.at_root mem
    clear mem
    induction root using Rose.induction with
    | step a ts ih =>
        rcases mem_subtrees.mp inside with rfl | inside
        · exact first
        · obtain ⟨child, mem, inside⟩ := mem_subtreesOf.mp inside
          exact ih child mem inside (.under (grown.link mem) first) (grown.child mem)
  · intro rooted
    induction rooted with
    | root link =>
        obtain ⟨a, ha, rfl, none⟩ := link
        have mem : a ∈ trees.map value := by
          rw [hangs.roots]
          exact mem_below.mpr ⟨ha, none⟩
        obtain ⟨t, ht, rfl⟩ := List.mem_map.mp mem
        exact ⟨t, root_mem ht, rfl⟩
    | under link _ ih =>
        obtain ⟨t, inside, same⟩ := ih
        obtain ⟨a, ha, rfl, some⟩ := link
        have mem : a ∈ t.children.map value := by
          rw [hangs.grown t inside, same]
          exact mem_below.mpr ⟨ha, some⟩
        obtain ⟨child, hc, rfl⟩ := List.mem_map.mp mem
        exact ⟨child, child_mem inside hc, rfl⟩

theorem Grown.above (tree : Rose α) (grown : Grown key up list tree) :
    ∀ t ∈ subtrees tree, Above (Links key up list) (key t.value) (key tree.value) := by
  induction tree using Rose.induction with
  | step a ts ih =>
      intro t inside
      rcases mem_subtrees.mp inside with rfl | inside
      · exact .refl _
      · obtain ⟨child, mem, inside⟩ := mem_subtreesOf.mp inside
        exact (ih child mem (grown.child mem) t inside).close (grown.link mem)

theorem Hangs.rooted (hangs : Hangs key up list trees) {t : Rose α}
    (inside : t ∈ subtreesOf trees) :
    Rooted (Links key up list) (key t.value) :=
  (hangs.exists_iff _).mp ⟨t, inside, rfl⟩

section Distinct

variable (distinct : (list.map key).Nodup)

include distinct

omit [DecidableEq κ] in
theorem eq_of_key (ha : a ∈ list) (hb : b ∈ list) (same : key a = key b) : a = b :=
  List.inj_on_of_nodup_map distinct ha hb same

omit [DecidableEq κ] in
theorem links_functional (k : κ) (p q : Option κ) (hp : Links key up list k p)
    (hq : Links key up list k q) : p = q := by
  obtain ⟨a, ha, rfl, rfl⟩ := hp
  obtain ⟨b, hb, same, rfl⟩ := hq
  rw [eq_of_key distinct hb ha same]

omit [DecidableEq κ] in
/-- None of two nodes under one parent, or of two roots, is above the other. -/
theorem siblings_apart {k k' : κ} (link : Links key up list k parent)
    (link' : Links key up list k' parent) (rooted : Rooted (Links key up list) k')
    (above : Above (Links key up list) k k') : k = k' := by
  have functional : ∀ k p q, Links key up list k p → Links key up list k q → p = q :=
    links_functional distinct
  cases above with
  | refl => rfl
  | step first rest =>
      cases functional _ _ _ first link
      exact absurd ⟨link', rest⟩ (rooted.not_cycle functional)

/-- The trees of siblings share no key. -/
theorem nodup_siblings {ts : List (Rose α)} (values : ts.map value = below up list parent)
    (grown : ∀ t ∈ ts, Grown key up list t)
    (rooted : ∀ t ∈ ts, Rooted (Links key up list) (key t.value))
    (each : ∀ t ∈ ts, ((subtrees t).map (key ∘ value)).Nodup) :
    ((subtreesOf ts).map (key ∘ value)).Nodup := by
  have functional : ∀ k p q, Links key up list k p → Links key up list k q → p = q :=
    links_functional distinct
  have links : ∀ t ∈ ts, Links key up list (key t.value) parent := fun t mem =>
    links_of_below (values ▸ List.mem_map_of_mem mem)
  have keys : (ts.map (key ∘ value)).Nodup := by
    rw [← List.map_map, values]
    exact (List.filter_sublist.map key).nodup distinct
  rw [subtreesOf_eq, List.map_flatMap, List.nodup_flatMap]
  refine ⟨each, (List.pairwise_map.mp keys).imp_of_mem ?_⟩
  intro t u ht hu different
  refine List.disjoint_left.mpr ?_
  intro k in_t in_u
  obtain ⟨s, hs, rfl⟩ := List.mem_map.mp in_t
  obtain ⟨s', hs', same⟩ := List.mem_map.mp in_u
  have above := (grown t ht).above t s hs
  have above' := (grown u hu).above u s' hs'
  rw [Function.comp_apply, Function.comp_apply] at same
  rw [same] at above'
  rcases above.comparable functional above' with first | second
  · exact different (siblings_apart distinct (links t ht) (links u hu) (rooted u hu) first)
  · exact different (siblings_apart distinct (links u hu) (links t ht) (rooted t ht) second).symm

theorem Grown.nodup (tree : Rose α) (grown : Grown key up list tree)
    (rooted : Rooted (Links key up list) (key tree.value)) :
    ((subtrees tree).map (key ∘ value)).Nodup := by
  induction tree using Rose.induction with
  | step a ts ih =>
      have below_rooted : ∀ t ∈ ts, Rooted (Links key up list) (key t.value) :=
        fun t mem => Rooted.under (grown.link mem) rooted
      rw [subtrees, List.map_cons, List.nodup_cons]
      refine ⟨?_, nodup_siblings distinct (grown _ (self_mem_subtrees _))
        (fun t mem => grown.child mem) below_rooted
        fun t mem => ih t mem (grown.child mem) (below_rooted t mem)⟩
      intro again
      obtain ⟨t, inside, same⟩ := List.mem_map.mp again
      obtain ⟨child, mem, inside⟩ := mem_subtreesOf.mp inside
      have above : Above (Links key up list) (key t.value) (key child.value) :=
        (grown.child mem).above child t inside
      rw [show key t.value = key a from same] at above
      exact (below_rooted child mem).not_cycle (links_functional distinct)
        ⟨grown.link mem, above⟩

theorem Hangs.nodup (hangs : Hangs key up list trees) : ((entriesOf trees).map key).Nodup := by
  have rooted : ∀ t ∈ trees, Rooted (Links key up list) (key t.value) :=
    fun t mem => hangs.rooted (root_mem mem)
  rw [entriesOf, List.map_map]
  exact nodup_siblings distinct hangs.roots (fun t mem => hangs.at_root mem) rooted
    fun t mem => (hangs.at_root mem).nodup distinct t (rooted t mem)

/-- Nothing is lost exactly when one comes from every element to a root. -/
theorem Hangs.perm_iff (hangs : Hangs key up list trees) :
    ((entriesOf trees).map key).Perm (list.map key) ↔
      ∀ a ∈ list, Rooted (Links key up list) (key a) := by
  have mem_iff : ∀ k, k ∈ (entriesOf trees).map key ↔ Rooted (Links key up list) k := by
    intro k
    rw [entriesOf, List.map_map, List.mem_map, ← hangs.exists_iff]
    rfl
  constructor
  · intro perm a ha
    exact (mem_iff _).mp (perm.mem_iff.mpr (List.mem_map_of_mem ha))
  · intro rooted
    refine (List.perm_ext_iff_of_nodup (hangs.nodup distinct) distinct).mpr fun k => ?_
    rw [mem_iff]
    constructor
    · intro h
      obtain ⟨_, a, ha, rfl, -⟩ := h.linked
      exact List.mem_map_of_mem ha
    · intro mem
      obtain ⟨a, ha, rfl⟩ := List.mem_map.mp mem
      exact rooted a ha

end Distinct

/-! ## Growing the forest -/

/-- A node with the elements below it, `n` levels deep. -/
def grow (key : α → κ) (up : α → Option κ) (list : List α) : ℕ → α → Rose α
  | 0, a => .node a []
  | n + 1, a => .node a ((below up list (some (key a))).map (grow key up list n))

def forest (key : α → κ) (up : α → Option κ) (list : List α) : List (Rose α) :=
  (below up list none).map (grow key up list list.length)

theorem value_grow (n : ℕ) (a : α) : (grow key up list n a).value = a := by
  cases n <;> rfl

theorem map_value_grow (n : ℕ) (elements : List α) :
    (elements.map (grow key up list n)).map value = elements := by
  rw [List.map_map]
  exact (List.map_congr_left fun a _ => value_grow n a).trans (List.map_id _)

theorem Grown.node {ts : List (Rose α)} (values : ts.map value = below up list (some (key a)))
    (grown : ∀ t ∈ ts, Grown key up list t) : Grown key up list (.node a ts) := by
  intro t inside
  rcases mem_subtrees.mp inside with rfl | inside
  · exact values
  · obtain ⟨child, mem, inside⟩ := mem_subtreesOf.mp inside
    exact grown child mem t inside

omit [DecidableEq κ] in
/-- A trail through the keys of the list without repetition has not more steps than the list. -/
theorem trail_short {trail : List κ} (nodup : trail.Nodup) (known : trail ⊆ list.map key) :
    trail.length ≤ list.length := by
  have short := (nodup.subperm known).length_le
  rwa [List.length_map] at short

section Distinct

variable (distinct : (list.map key).Nodup)

include distinct

/-- As deep as the list is long is deep enough; the trail has the keys from a root to `a`. -/
theorem grown_grow {n : ℕ} {trail : List κ} (ha : a ∈ list)
    (rooted : Rooted (Links key up list) (key a)) (nodup : (key a :: trail).Nodup)
    (known : trail ⊆ list.map key) (above : ∀ k ∈ trail, Above (Links key up list) (key a) k)
    (deep : list.length ≤ trail.length + n) : Grown key up list (grow key up list n a) := by
  have known : key a :: trail ⊆ list.map key :=
    List.cons_subset.mpr ⟨List.mem_map_of_mem ha, known⟩
  induction n generalizing a trail with
  | zero =>
      have short := trail_short nodup known
      rw [List.length_cons] at short
      omega
  | succ n ih =>
      refine Grown.node (map_value_grow n _) fun t mem => ?_
      obtain ⟨b, hb, rfl⟩ := List.mem_map.mp mem
      have link : Links key up list (key b) (some (key a)) := links_of_below hb
      have rooted_b := Rooted.under link rooted
      have above_a : ∀ k ∈ key a :: trail, Above (Links key up list) (key a) k := by
        intro k mem
        rcases List.mem_cons.mp mem with rfl | mem
        · exact .refl _
        · exact above k mem
      have fresh : key b ∉ key a :: trail := fun mem =>
        rooted_b.not_cycle (links_functional distinct) ⟨link, above_a _ mem⟩
      refine ih (mem_below.mp hb).1 rooted_b (List.nodup_cons.mpr ⟨fresh, nodup⟩) known
        (fun k mem => .step link (above_a k mem)) (by rw [List.length_cons]; omega)
        (List.cons_subset.mpr ⟨List.mem_map_of_mem (mem_below.mp hb).1, known⟩)

theorem hangs_forest : Hangs key up list (forest key up list) := by
  have roots : (forest key up list).map value = below up list none := map_value_grow _ _
  refine ⟨roots, fun t inside => ?_⟩
  obtain ⟨root, mem, inside⟩ := mem_subtreesOf.mp inside
  obtain ⟨a, ha, rfl⟩ := List.mem_map.mp mem
  exact grown_grow distinct (mem_below.mp ha).1 (.root (links_of_below ha))
    (List.nodup_singleton _) (List.nil_subset _) (fun k mem => by cases mem)
    (by rw [List.length_nil, Nat.zero_add]) t inside

omit distinct [DecidableEq κ] in
/-- Links that run in no circle and end in the list lead to a root; the trail has the keys that
one has come past. -/
theorem rooted_of_trail {n : ℕ} {trail : List κ} (acyclic : Acyclic (Links key up list))
    (closed : ∀ a ∈ list, ∀ p, up a = some p → p ∈ list.map key) (ha : a ∈ list)
    (nodup : (key a :: trail).Nodup) (known : trail ⊆ list.map key)
    (above : ∀ k ∈ trail, Above (Links key up list) k (key a))
    (deep : list.length ≤ trail.length + n) : Rooted (Links key up list) (key a) := by
  have known : key a :: trail ⊆ list.map key :=
    List.cons_subset.mpr ⟨List.mem_map_of_mem ha, known⟩
  induction n generalizing a trail with
  | zero =>
      have short := trail_short nodup known
      rw [List.length_cons] at short
      omega
  | succ n ih =>
      cases parent : up a with
      | none => exact .root ⟨a, ha, rfl, parent⟩
      | some p =>
          obtain ⟨b, hb, rfl⟩ := List.mem_map.mp (closed a ha p parent)
          have link : Links key up list (key a) (some (key b)) := ⟨a, ha, rfl, parent⟩
          have above_a : ∀ k ∈ key a :: trail, Above (Links key up list) k (key a) := by
            intro k mem
            rcases List.mem_cons.mp mem with rfl | mem
            · exact .refl _
            · exact above k mem
          have fresh : key b ∉ key a :: trail := fun mem => acyclic _ _ link (above_a _ mem)
          exact .under link (ih hb (List.nodup_cons.mpr ⟨fresh, nodup⟩) known
            (fun k mem => (above_a k mem).close link) (by rw [List.length_cons]; omega)
            (List.cons_subset.mpr ⟨List.mem_map_of_mem hb, known⟩))

omit [DecidableEq κ] in
/-- Where links run in no circle, all lead to a root exactly when they all end in the list. -/
theorem all_rooted_iff (acyclic : Acyclic (Links key up list)) :
    (∀ a ∈ list, Rooted (Links key up list) (key a)) ↔
      ∀ a ∈ list, ∀ p, up a = some p → p ∈ list.map key := by
  constructor
  · intro rooted a ha p parent
    cases rooted a ha with
    | root none =>
        cases links_functional distinct _ _ _ none ⟨a, ha, rfl, parent⟩
    | under some rooted =>
        cases links_functional distinct _ _ _ some ⟨a, ha, rfl, parent⟩
        obtain ⟨q, b, hb, rfl, -⟩ := rooted.linked
        exact List.mem_map_of_mem hb
  · intro closed a ha
    exact rooted_of_trail acyclic closed ha (List.nodup_singleton _) (List.nil_subset _)
      (fun k mem => by cases mem) (by rw [List.length_nil, Nat.zero_add])

end Distinct

/-! ## Flattening a forest -/

/-- Each node of the forest names the node above it. -/
structure PlacedTrees (key : α → κ) (up : α → Option κ) (trees : List (Rose α)) :
    Prop where
  distinct : ((entriesOf trees).map key).Nodup
  roots : ∀ t ∈ trees, up t.value = none
  children : ∀ t ∈ subtreesOf trees, ∀ c ∈ t.children, up c.value = some (key t.value)

/-- The list has the nodes of the forest in an order that keeps that of the roots and that of the
children of each node. -/
structure Linearizes (list : List α) (trees : List (Rose α)) : Prop where
  perm : list.Perm (entriesOf trees)
  roots : (trees.map value).Sublist list
  children : ∀ t ∈ subtreesOf trees, (t.children.map value).Sublist list

theorem below_of_sublist {elements : List α} (nodup : list.Nodup) (order : elements.Sublist list)
    (iff : ∀ a ∈ list, a ∈ elements ↔ up a = parent) : elements = below up list parent := by
  have kept : elements.filter (fun a => up a == parent) = elements :=
    List.filter_eq_self.mpr fun a mem => beq_iff_eq.mpr ((iff a (order.subset mem)).mp mem)
  have sublist : elements.Sublist (below up list parent) := by
    have filtered := order.filter fun a => up a == parent
    rwa [kept] at filtered
  refine sublist.eq_of_length_le (List.Subperm.length_le ?_)
  refine (nodup.filter _).subperm fun a mem => ?_
  obtain ⟨ha, up_a⟩ := mem_below.mp mem
  exact (iff a ha).mpr up_a

/-- The forest hangs from each of its linearizations. -/
theorem PlacedTrees.hangs (placed : PlacedTrees key up trees) (linear : Linearizes list trees) :
    Hangs key up list trees := by
  have nodup : list.Nodup := linear.perm.nodup_iff.mpr (.of_map _ placed.distinct)
  have found : ∀ a ∈ list, ∃ t ∈ subtreesOf trees, t.value = a := fun a ha =>
    List.mem_map.mp (linear.perm.mem_iff.mp ha)
  have same : ∀ t ∈ subtreesOf trees, ∀ u ∈ subtreesOf trees,
    key t.value = key u.value → t = u := by
    intro t ht u hu keys
    have distinct := placed.distinct
    rw [entriesOf, List.map_map] at distinct
    exact List.inj_on_of_nodup_map distinct ht hu keys
  refine ⟨below_of_sublist nodup linear.roots ?_, fun t inside => below_of_sublist nodup
    (linear.children t inside) ?_⟩
  · intro a ha
    obtain ⟨t, inside, rfl⟩ := found a ha
    constructor
    · intro mem
      obtain ⟨root, hr, values⟩ := List.mem_map.mp mem
      rw [← values]
      exact placed.roots root hr
    · intro none
      rcases root_or_child inside with mem | ⟨u, hu, mem⟩
      · exact List.mem_map_of_mem mem
      · rw [placed.children u hu t mem] at none
        cases none
  · intro a ha
    obtain ⟨u, inside', rfl⟩ := found a ha
    constructor
    · intro mem
      obtain ⟨c, hc, values⟩ := List.mem_map.mp mem
      rw [← values]
      exact placed.children t inside c hc
    · intro some
      rcases root_or_child inside' with mem | ⟨v, hv, mem⟩
      · rw [placed.roots u mem] at some
        cases some
      · rw [placed.children v hv u mem] at some
        rw [← same v hv t inside (Option.some.inj some)]
        exact List.mem_map_of_mem mem

theorem PlacedTrees.forest_eq (placed : PlacedTrees key up trees) (linear : Linearizes list trees) :
    forest key up list = trees := by
  have distinct : (list.map key).Nodup := (linear.perm.map key).nodup_iff.mpr placed.distinct
  exact (hangs_forest distinct).unique (placed.hangs linear)

end ParentForest
end Tenantory
