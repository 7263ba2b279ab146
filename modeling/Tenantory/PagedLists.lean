import Mathlib.Data.List.Nodup
import Mathlib.Data.List.Perm.Basic

/-! Lists that are read page by page. The pages of one arrangement, put together, give
the arrangement back. Where rows may be equal in the order and every page is cut from an
arrangement of its own, the pages give every row once if and only if no page begins
between two equal rows. -/

namespace PagedLists

variable {α : Type} {limit : ℕ} {rows : List α}

/-- Page `n`, counted from zero. -/
def page (limit : ℕ) (rows : List α) (n : ℕ) : List α := (rows.drop (n * limit)).take limit

theorem take_append_page (limit : ℕ) (rows : List α) (n : ℕ) :
    rows.take (n * limit) ++ page limit rows n = rows.take ((n + 1) * limit) := by
  rw [Nat.succ_mul, List.take_add, page]

theorem length_page {n : ℕ} (full : (n + 1) * limit ≤ rows.length) :
    (page limit rows n).length = limit := by
  rw [page, List.length_take, List.length_drop]
  have split : (n + 1) * limit = n * limit + limit := Nat.succ_mul n limit
  omega

theorem mem_take_iff {a : α} {n : ℕ} :
    a ∈ rows.take (n * limit) ↔ ∃ m < n, a ∈ page limit rows m := by
  induction n with
  | zero => simp
  | succ n ih =>
      rw [← take_append_page, List.mem_append, ih]
      constructor
      · rintro (⟨m, earlier, mem⟩ | mem)
        · exact ⟨m, Nat.lt_succ_of_lt earlier, mem⟩
        · exact ⟨n, Nat.lt_succ_self n, mem⟩
      · rintro ⟨m, earlier, mem⟩
        by_cases last : m = n
        · exact .inr (last ▸ mem)
        · exact .inl ⟨m, by omega, mem⟩

/-! ## Walks -/

/-- The first `count` pages, page `n` cut from `arranged n`. -/
def walk (limit : ℕ) (arranged : ℕ → List α) (count : ℕ) : List α :=
  (List.range count).flatMap fun n => page limit (arranged n) n

@[simp] theorem walk_zero (arranged : ℕ → List α) : walk limit arranged 0 = [] := rfl

theorem walk_succ (arranged : ℕ → List α) (count : ℕ) :
    walk limit arranged (count + 1) =
      walk limit arranged count ++ page limit (arranged count) count := by
  simp [walk, List.range_succ]

theorem walk_same (rows : List α) (count : ℕ) :
    walk limit (fun _ => rows) count = rows.take (count * limit) := by
  induction count with
  | zero => simp
  | succ count ih => rw [walk_succ, ih, take_append_page]

/-! ## Orders with equal rows -/

section Ties

variable {le : α → α → Bool}

/-- How many rows come before `a` in every arrangement. -/
def before (le : α → α → Bool) (rows : List α) (a : α) : ℕ := rows.countP fun b => !le a b

/-- How many rows come before `a` or are equal to it. -/
def upTo (le : α → α → Bool) (rows : List α) (a : α) : ℕ := rows.countP fun b => le b a

/-- No page begins between two equal rows. -/
def Apart (le : α → α → Bool) (limit : ℕ) (rows : List α) : Prop :=
  ∀ a ∈ rows, ∀ n, n * limit ≤ before le rows a ∨ upTo le rows a ≤ n * limit

/-- The rows in some order that `le` allows. -/
structure Arrangement (le : α → α → Bool) (rows arranged : List α) : Prop where
  perm : arranged.Perm rows
  sorted : arranged.Pairwise fun a b => le a b = true

variable {arranged arranged' : List α} {a : α} {k : ℕ}

theorem countP_lt_length {p : α → Bool} (mem : a ∈ rows) (fails : p a = false) :
    rows.countP p < rows.length := by
  refine Nat.lt_of_le_of_ne List.countP_le_length fun all => ?_
  have holds := List.countP_eq_length.mp all a mem
  rw [fails] at holds
  cases holds

namespace Arrangement

variable (refl : ∀ a : α, le a a = true)

include refl

/-- A row among the first `k` has less than `k` rows before it. -/
theorem before_lt (arrangement : Arrangement le rows arranged) (mem : a ∈ arranged.take k) :
    before le rows a < k := by
  have sorted := arrangement.sorted
  rw [← List.take_append_drop k arranged] at sorted
  have after := (List.pairwise_append.mp sorted).2.2
  have none_later : (arranged.drop k).countP (fun b => !le a b) = 0 := by
    rw [List.countP_eq_zero]
    intro b later
    simp [after a mem b later]
  have own : (!le a a) = false := by rw [refl a]; rfl
  calc before le rows a
      = arranged.countP fun b => !le a b := (arrangement.perm.countP_eq _).symm
    _ = (arranged.take k ++ arranged.drop k).countP fun b => !le a b := by
        rw [List.take_append_drop]
    _ = (arranged.take k).countP fun b => !le a b := by
        rw [List.countP_append, none_later, Nat.add_zero]
    _ < (arranged.take k).length := countP_lt_length mem own
    _ ≤ k := List.length_take_le k arranged

/-- A row behind the first `k` has more than `k` rows that are not after it. -/
theorem lt_upTo (arrangement : Arrangement le rows arranged) (mem : a ∈ arranged.drop k) :
    k < upTo le rows a := by
  have sorted := arrangement.sorted
  rw [← List.take_append_drop k arranged] at sorted
  have after := (List.pairwise_append.mp sorted).2.2
  have inside : k < arranged.length := by
    by_contra short
    rw [List.drop_eq_nil_of_le (by omega)] at mem
    cases mem
  have earlier : (arranged.take k).countP (fun b => le b a) = k := by
    rw [List.countP_eq_length.mpr fun b first => after b first a mem, List.length_take]
    omega
  have own : 0 < (arranged.drop k).countP (fun b => le b a) :=
    List.countP_pos_iff.mpr ⟨a, mem, refl a⟩
  calc k < (arranged.take k).countP (fun b => le b a) +
        (arranged.drop k).countP (fun b => le b a) := by omega
    _ = arranged.countP fun b => le b a := by rw [← List.countP_append, List.take_append_drop]
    _ = upTo le rows a := arrangement.perm.countP_eq _

/-- The first pages hold the rows that have few rows up to them. -/
theorem take_eq_filter (arrangement : Arrangement le rows arranged) (apart : Apart le limit rows)
    (n : ℕ) : arranged.take (n * limit) =
      arranged.filter fun a => upTo le rows a ≤ n * limit := by
  have first : (arranged.take (n * limit)).filter (fun a => upTo le rows a ≤ n * limit) =
      arranged.take (n * limit) := by
    refine List.filter_eq_self.mpr fun a mem => decide_eq_true ?_
    have few := arrangement.before_lt refl mem
    have stored := arrangement.perm.subset (List.mem_of_mem_take mem)
    exact (apart a stored n).resolve_left (by omega)
  have rest : (arranged.drop (n * limit)).filter (fun a => upTo le rows a ≤ n * limit) = [] := by
    refine List.filter_eq_nil_iff.mpr fun a mem => ?_
    have many := arrangement.lt_upTo refl mem
    simpa using many
  calc arranged.take (n * limit)
      = (arranged.take (n * limit) ++ arranged.drop (n * limit)).filter
          fun a => upTo le rows a ≤ n * limit := by
        rw [List.filter_append, first, rest, List.append_nil]
    _ = arranged.filter fun a => upTo le rows a ≤ n * limit := by rw [List.take_append_drop]

theorem take_perm (arrangement : Arrangement le rows arranged)
    (arrangement' : Arrangement le rows arranged') (apart : Apart le limit rows) (n : ℕ) :
    (arranged.take (n * limit)).Perm (arranged'.take (n * limit)) := by
  rw [arrangement.take_eq_filter refl apart, arrangement'.take_eq_filter refl apart]
  exact (arrangement.perm.trans arrangement'.perm.symm).filter _

end Arrangement

/-- With no page beginning between equal rows a walk gives every row once, from whatever
arrangements its pages are cut. -/
theorem walk_perm (refl : ∀ a : α, le a a = true) {arranged : ℕ → List α} {count : ℕ}
    (arrangement : ∀ n, Arrangement le rows (arranged n)) (apart : Apart le limit rows)
    (enough : rows.length ≤ count * limit) : (walk limit arranged count).Perm rows := by
  have pages : ∀ n, (walk limit arranged n).Perm ((arranged n).take (n * limit)) := by
    intro n
    induction n with
    | zero => simp
    | succ n ih =>
        have extended : (walk limit arranged (n + 1)).Perm
          ((arranged n).take ((n + 1) * limit)) := by
          rw [walk_succ, ← take_append_page]
          exact ih.append_right _
        exact extended.trans ((arrangement n).take_perm refl (arrangement (n + 1)) apart (n + 1))
  have all := pages count
  rw [List.take_of_length_le (by rw [(arrangement count).perm.length_eq]; exact enough)] at all
  exact all.trans (arrangement count).perm

theorem apart_congr {le' : α → α → Bool}
    (same : ∀ a ∈ rows, ∀ b ∈ rows, le a b = le' a b) :
    Apart le limit rows ↔ Apart le' limit rows := by
  refine forall₂_congr fun a mem => ?_
  have counts : before le rows a = before le' rows a := by
    refine List.countP_congr fun b hb => ?_
    rw [same a mem b hb]
  have counts' : upTo le rows a = upTo le' rows a := by
    refine List.countP_congr fun b hb => ?_
    rw [same b hb a mem]
  rw [counts, counts']

/-- With no two equal rows no page begins between equal rows. -/
theorem apart_of_distinct (distinct : rows.Pairwise fun a b =>
    ¬ (le a b = true ∧ le b a = true)) :
    Apart le limit rows := by
  intro a mem n
  obtain ⟨first, rest, rfl⟩ := List.append_of_mem mem
  obtain ⟨-, after, across⟩ := List.pairwise_append.mp distinct
  have early : first.countP (fun b => le b a) ≤ first.countP fun b => !le a b := by
    refine List.countP_mono_left fun b hb below => ?_
    have strict := across b hb a List.mem_cons_self
    simpa [below] using strict
  have late : rest.countP (fun b => le b a) ≤ rest.countP fun b => !le a b := by
    refine List.countP_mono_left fun b hb below => ?_
    have strict := (List.pairwise_cons.mp after).1 b hb
    simpa [below] using strict
  have close : upTo le (first ++ a :: rest) a ≤ before le (first ++ a :: rest) a + 1 := by
    simp only [upTo, before, List.countP_append, List.countP_cons]
    split
    · split <;> omega
    · split <;> omega
  omega

/-- A row that comes before its equals is among the first `k` if few rows are before it. -/
theorem mem_take_of_first (perm : arranged.Perm rows) (mem : a ∈ rows)
    (first : arranged.Pairwise fun b c => c = a → le a b = false) (few : before le rows a < k) :
    a ∈ arranged.take k := by
  by_contra behind
  have mem := perm.mem_iff.mpr mem
  rw [← List.take_append_drop k arranged] at mem first
  have late : a ∈ arranged.drop k := (List.mem_append.mp mem).resolve_left behind
  have inside : k < arranged.length := by
    by_contra short
    rw [List.drop_eq_nil_of_le (by omega)] at late
    cases late
  have all : (arranged.take k).countP (fun b => !le a b) = (arranged.take k).length := by
    refine List.countP_eq_length.mpr fun b earlier => ?_
    rw [(List.pairwise_append.mp first).2.2 b earlier a late rfl]
    rfl
  have many : (arranged.take k).countP (fun b => !le a b) ≤ before le rows a := by
    rw [before, ← perm.countP_eq]
    exact (List.take_sublist k arranged).countP_le
  rw [all, List.length_take] at many
  omega

/-- A row that comes after its equals is behind the first `k` if many rows are up to it. -/
theorem mem_drop_of_last (perm : arranged.Perm rows) (mem : a ∈ rows)
    (last : arranged.Pairwise fun b c => b = a → le c a = false) (many : k < upTo le rows a) :
    a ∈ arranged.drop k := by
  by_contra ahead
  have mem := perm.mem_iff.mpr mem
  rw [← List.take_append_drop k arranged] at mem last
  have early : a ∈ arranged.take k := (List.mem_append.mp mem).resolve_right ahead
  have none_later : (arranged.drop k).countP (fun b => le b a) = 0 := by
    rw [List.countP_eq_zero]
    intro b later
    simp [(List.pairwise_append.mp last).2.2 a early b later rfl]
  have few : upTo le rows a ≤ k := by
    calc upTo le rows a
        = (arranged.take k ++ arranged.drop k).countP fun b => le b a := by
          rw [List.take_append_drop]
          exact (perm.countP_eq _).symm
      _ = (arranged.take k).countP fun b => le b a := by
          rw [List.countP_append, none_later, Nat.add_zero]
      _ ≤ (arranged.take k).length := List.countP_le_length
      _ ≤ k := List.length_take_le k arranged
  omega

/-- A row that stands on two pages is given twice. -/
theorem not_nodup_walk {arranged : ℕ → List α} {m n count : ℕ} (order : m < n)
    (inside : n < count)
    (early : a ∈ page limit (arranged m) m) (late : a ∈ page limit (arranged n) n) :
    ¬ (walk limit arranged count).Nodup := by
  intro nodup
  have apart := (List.nodup_flatMap.mp nodup).2
  have places := List.pairwise_iff_getElem.mp apart m n
    (by simpa using Nat.lt_trans order inside) (by simpa using inside) order
  simp only [List.getElem_range, Function.onFun] at places
  exact places early late

/-- A row that one arrangement puts on the first `n` pages and another one behind them is
given twice by a reader who changes between the two after `n` pages. -/
theorem not_nodup_of_changed {n count : ℕ} (nodup : arranged'.Nodup)
    (early : a ∈ arranged.take (n * limit)) (late : a ∈ arranged'.drop (n * limit))
    (enough : arranged'.length ≤ count * limit) :
    ¬ (walk limit (fun m => if m < n then arranged else arranged') count).Nodup := by
  obtain ⟨m, first, onEarly⟩ := mem_take_iff.mp early
  have all : a ∈ arranged'.take (count * limit) := by
    rw [List.take_of_length_le enough]
    exact List.mem_of_mem_drop late
  obtain ⟨m', inside, onLate⟩ := mem_take_iff.mp all
  have behind : n ≤ m' := by
    by_contra ahead
    have taken : a ∈ arranged'.take (n * limit) := mem_take_iff.mpr ⟨m', by omega, onLate⟩
    exact List.disjoint_take_drop nodup (Nat.le_refl _) taken late
  refine not_nodup_walk (a := a) (m := m) (n := m') (by omega) inside ?_ ?_
  · rw [if_pos first]
    exact onEarly
  · rw [if_neg (by omega)]
    exact onLate

end Ties

/-! ## Cuts -/

section Cuts

variable {cuts : ℕ → List α} {last : ℕ} (whole : (List.range (last + 1)).flatMap cuts = rows)
  (full : ∀ n < last, (cuts n).length = limit)

include whole full

/-- Full cuts that make up the list lie in it one after the other. -/
theorem drop_eq_cut_append {n : ℕ} (le : n ≤ last) :
    ∃ rest, rows.drop (n * limit) = cuts n ++ rest ∧
    (n = last → rest = []) := by
  have before : ((List.range n).flatMap cuts).length = n * limit := by
    rw [List.length_flatMap, List.map_congr_left (g := fun _ => limit) fun m mem =>
      full m (Nat.lt_of_lt_of_le (List.mem_range.mp mem) le), List.map_const', List.length_range,
      List.sum_replicate_nat]
  have parts : List.range (last + 1) = List.range n ++ (n :: List.range' (n + 1) (last - n)) := by
    have count : last + 1 = n + (last - n + 1) := by omega
    rw [count, List.range_eq_range', List.range_eq_range', ← List.range'_append_1, Nat.zero_add,
      List.range'_succ]
  refine ⟨(List.range' (n + 1) (last - n)).flatMap cuts, ?_, ?_⟩
  · rw [← whole, parts, List.flatMap_append, ← before, List.drop_left, List.flatMap_cons]
  · rintro rfl
    simp

/-- Each of them begins where the ones before it end. -/
theorem start_eq {skip : ℕ} {n : ℕ} (nodup : rows.Nodup) (positive : 0 < limit)
    (le : n ≤ last)
    (inside : n * limit < rows.length) (cut : cuts n = (rows.drop skip).take limit) :
    skip = n * limit := by
  obtain ⟨rest, split, ends⟩ := drop_eq_cut_append whole full le
  have filled : rows.drop (n * limit) ≠ [] := by
    simpa [List.drop_eq_nil_iff] using inside
  have shown : cuts n ≠ [] := by
    intro none
    rcases Nat.lt_or_eq_of_le le with earlier | same
    · have length := full n earlier
      rw [none] at length
      exact Nat.ne_of_lt positive length
    · rw [none, ends same] at split
      exact filled split
  obtain ⟨first, others, shape⟩ := List.exists_cons_of_ne_nil shown
  have here : rows[n * limit]? = some first := by
    rw [← List.head?_drop, split, shape]
    rfl
  have there : rows[skip]? = some first := by
    rw [← List.head?_drop]
    cases later : rows.drop skip with
    | nil =>
        rw [cut, later, List.take_nil] at shape
        cases shape
    | cons r rest =>
        obtain ⟨k, rfl⟩ := Nat.exists_eq_succ_of_ne_zero (Nat.ne_of_gt positive)
        rw [cut, later, List.take_succ_cons] at shape
        exact congrArg some (List.cons.inj shape).1
  exact (List.getElem?_inj (List.getElem?_eq_some_iff.mp there).1 nodup).mp (there.trans here.symm)

end Cuts

end PagedLists
