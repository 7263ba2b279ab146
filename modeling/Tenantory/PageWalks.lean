import Tenantory.PagedLists
import Tenantory.QueryPlatform
import Tenantory.SerialRuns
import Tenantory.StoredRows

/-! A reader who walks through a list: page 1, and then the pages that it announces. -/

namespace Tenantory

open PagedLists

variable {ρ σ : Type} [Entity ρ]

/-! ## Pages -/

theorem pageCount_le_iff {total limit n : ℕ} (positive : 0 < limit) :
    pageCount total limit ≤ n ↔ total ≤ n * limit := by
  unfold pageCount
  rw [← Nat.lt_succ_iff, Nat.div_lt_iff_lt_mul positive, Nat.succ_mul]
  omega

theorem lt_pageCount_iff {total limit n : ℕ} (positive : 0 < limit) :
    n < pageCount total limit ↔ n * limit < total := by
  rw [← not_le, pageCount_le_iff positive, not_le]

/-! ## Arrangements -/

namespace Platform

/-- Whether `r` may stand before `s` in a list ordered by the key. -/
def sorts (platform : Platform) (order : SortOrder) (key : σ → SortValue) (r s : σ) : Bool :=
  match order with
  | .asc => platform.le (key r) (key s)
  | .desc => platform.le (key s) (key r)

/-- Two keys that may stand in either order are the same, if the collation tells any two
texts apart. -/
theorem le_antisymm {platform : Platform}
    (deterministic : ∀ s t, platform.collate s t = true → platform.collate t s = true → s = t)
    {a b : SortValue} (h : platform.le a b = true) (h' : platform.le b a = true) : a = b := by
  cases a with
  | text s =>
      cases b with
      | text t => rw [deterministic s t h h']
      | number _ => cases h'
      | null => cases h'
  | number p =>
      cases b with
      | text _ => cases h
      | number q =>
          simp only [le, decide_eq_true_eq] at h h'
          rw [Rat.le_antisymm h h']
      | null => cases h'
  | null =>
      cases b with
      | text _ => cases h
      | number _ => cases h
      | null => rfl

variable {platform : Platform} {ties : Uuid → ℕ} {order : SortOrder} {key : ρ → SortValue}
  {rows : List ρ} {a : ρ}

theorem precedes_eq (r s : ρ) : platform.precedes ties order key r s =
    (platform.sorts order key r s &&
      (!platform.sorts order key s r || ties (Entity.id r) ≤ ties (Entity.id s))) := by
  cases order <;> rfl

section Ordered

variable (ordered : platform.Ordered)

include ordered

omit [Entity ρ] in
theorem sorts_refl (r : ρ) : platform.sorts order key r r = true := by
  cases order
  · exact (le_or_le ordered (key r) (key r)).elim id id
  · exact (le_or_le ordered (key r) (key r)).elim id id

theorem pairwise_precedes (rows : List ρ) : (platform.orderBy ties order key rows).Pairwise
    fun r s => platform.precedes ties order key r s = true := by
  have total : Std.Total fun r s => platform.precedes ties order key r s = true :=
    ⟨precedes_total ordered⟩
  have trans : IsTrans ρ fun r s => platform.precedes ties order key r s = true :=
    ⟨precedes_trans ordered⟩
  exact List.pairwise_insertionSort _ rows

/-- ORDER BY puts the rows in an order that its key allows. -/
theorem arrangement_orderBy (ties : Uuid → ℕ) (order : SortOrder) (key : ρ → SortValue)
    (rows : List ρ) :
    Arrangement (platform.sorts order key) rows (platform.orderBy ties order key rows) where
  perm := perm_orderBy platform ties order key rows
  sorted := (pairwise_precedes ordered rows).imp fun {r s} first => by
    rw [precedes_eq, Bool.and_eq_true] at first
    exact first.1

omit ordered in
theorem ids_apart_orderBy (ids : (rows.map Entity.id).Nodup) :
    (platform.orderBy ties order key rows).Pairwise fun b c => Entity.id b ≠ Entity.id c :=
  List.pairwise_map.mp
    (((perm_orderBy platform ties order key rows).map Entity.id).nodup_iff.mpr ids)

/-- A row of the lowest rank comes before the rows with its key. -/
theorem first_orderBy (ids : (rows.map Entity.id).Nodup)
    (lowest : ∀ id, id ≠ Entity.id a → ties (Entity.id a) < ties id) :
    (platform.orderBy ties order key rows).Pairwise
      fun b c => c = a → platform.sorts order key a b = false := by
  refine ((pairwise_precedes ordered rows).and (ids_apart_orderBy ids)).imp ?_
  intro b c both last
  obtain ⟨precedes, different⟩ := both
  subst last
  have higher := lowest (Entity.id b) different
  rw [precedes_eq, Bool.and_eq_true, Bool.or_eq_true, decide_eq_true_eq] at precedes
  simpa using precedes.2.resolve_right (by omega)

/-- A row of the highest rank comes after the rows with its key. -/
theorem last_orderBy (ids : (rows.map Entity.id).Nodup)
    (highest : ∀ id, id ≠ Entity.id a → ties id < ties (Entity.id a)) :
    (platform.orderBy ties order key rows).Pairwise
      fun b c => b = a → platform.sorts order key c a = false := by
  refine ((pairwise_precedes ordered rows).and (ids_apart_orderBy ids)).imp ?_
  intro b c both first
  obtain ⟨precedes, different⟩ := both
  subst first
  have lower := highest (Entity.id c) different.symm
  rw [precedes_eq, Bool.and_eq_true, Bool.or_eq_true, decide_eq_true_eq] at precedes
  simpa using precedes.2.resolve_right (by omega)

end Ordered
end Platform

/-! ## Walks -/

variable {list : ℕ → Svc (PaginatedResponse σ)}

/-- `count` pages, one after the other from `page` on. -/
def followingPages (list : ℕ → Svc (PaginatedResponse σ)) :
    (count page : ℕ) → Svc (List (PaginatedResponse σ))
  | 0, _ => pure []
  | count + 1, page => do
      let response ← list page
      let rest ← followingPages list count (page + 1)
      pure (response :: rest)

def walkPages (list : ℕ → Svc (PaginatedResponse σ)) : Svc (List (PaginatedResponse σ)) := do
  let first ← list 1
  let rest ← followingPages list (first.pageMeta.totalPages - 1) 2
  pure (first :: rest)

/-- In a state for it, page `n`, counted from zero, is answered with a response for it,
and the state is then one for the page after it. -/
def AnswersPages (list : ℕ → Svc (PaginatedResponse σ)) (state : ℕ → World → Prop)
    (answered : ℕ → PaginatedResponse σ → Prop) : Prop :=
  ∀ n w, state n w → ∃ response w', (list (n + 1)).runs w = (.ok response, w') ∧
    answered n response ∧ state (n + 1) w'

namespace AnswersPages

variable {state : ℕ → World → Prop} {answered : ℕ → PaginatedResponse σ → Prop}
  {w : World}

theorem following (answers : AnswersPages list state answered) (count n : ℕ) (h : state n w) :
    ∃ responses w', (followingPages list count (n + 1)).runs w = (.ok responses, w') ∧
      List.Forall₂ answered (List.range' n count) responses := by
  induction count generalizing n w with
  | zero => exact ⟨[], w, rfl, .nil⟩
  | succ count ih =>
      obtain ⟨response, w', run, good, next⟩ := answers n w h
      obtain ⟨responses, w'', runs, all⟩ := ih (n + 1) next
      refine ⟨response :: responses, w'', ?_, ?_⟩
      · rw [followingPages, Svc.runs_bind, run, Svc.follow_ok, Svc.runs_bind, runs]
        rfl
      · rw [List.range'_succ]
        exact .cons good all

/-- A walk answers with the pages that page 1 announces. -/
theorem walk (answers : AnswersPages list state answered) (total : ℕ)
    (announced : ∀ response, answered 0 response → response.pageMeta.totalPages = total)
    (h : state 0 w) : ∃ responses, ((walkPages list).runs w).1 = .ok responses ∧
      List.Forall₂ answered (List.range (max 1 total)) responses := by
  obtain ⟨first, w', run, good, next⟩ := answers 0 w h
  obtain ⟨rest, w'', runs, all⟩ := answers.following (total - 1) 1 next
  refine ⟨first :: rest, ?_, ?_⟩
  · rw [walkPages, Svc.runs_bind, run, Svc.follow_ok, Svc.runs_bind, announced first good, runs]
    rfl
  · have count : max 1 total = total - 1 + 1 := by omega
    rw [count, List.range_eq_range', List.range'_succ]
    exact .cons good all

end AnswersPages

/-! ### Lists whose pages leave the state as it is -/

theorem mapM_eq_ok {ε α β : Type} {f : α → Except ε β} {l : List α} {bs : List β} :
    l.mapM f = .ok bs ↔ List.Forall₂ (fun a b => f a = .ok b) l bs := by
  induction l generalizing bs with
  | nil =>
      constructor
      · intro none
        cases none
        exact .nil
      · intro all
        cases all
        rfl
  | cons a l ih =>
      rw [List.mapM_cons]
      constructor
      · intro made
        obtain ⟨b, first, made⟩ := bind_eq_ok.mp made
        obtain ⟨bs, rest, made⟩ := bind_eq_ok.mp made
        cases made
        exact .cons first (ih.mp rest)
      · rintro (_ | ⟨first, rest⟩)
        rw [first, ih.mpr rest]
        rfl

section Unchanged

variable {answer : ℕ → Except Err (PaginatedResponse σ)} {w : World}
  (runs : ∀ n, (list (n + 1)).runs w = (answer n, w))

include runs

theorem runs_followingPages (count n : ℕ) : (followingPages list count (n + 1)).runs w =
    ((List.range' n count).mapM answer, w) := by
  induction count generalizing n with
  | zero => rfl
  | succ count ih =>
      rw [followingPages, Svc.runs_bind, runs, List.range'_succ, List.mapM_cons]
      cases answer n with
      | error e => rfl
      | ok response =>
          rw [Svc.follow_ok, Svc.runs_bind, ih]
          cases (List.range' (n + 1) count).mapM answer <;> rfl

/-- A walk asks for the pages that page 1 announces. -/
theorem walk_answer {total : ℕ}
    (announced : ∀ n response, answer n = .ok response → response.pageMeta.totalPages = total) :
    ((walkPages list).runs w).1 = (List.range (max 1 total)).mapM answer := by
  have count : max 1 total = total - 1 + 1 := by omega
  rw [walkPages, Svc.runs_bind, runs 0, count, List.range_eq_range', List.range'_succ,
    List.mapM_cons]
  cases first : answer 0 with
  | error e => rfl
  | ok response =>
      rw [Svc.follow_ok, Svc.runs_bind, announced 0 response first, runs_followingPages runs]
      cases (List.range' (0 + 1) (total - 1)).mapM answer <;> rfl

end Unchanged

theorem flatMap_of_forall₂ {f : ℕ → List σ} {places : List ℕ}
    {responses : List (PaginatedResponse σ)}
    (all : List.Forall₂ (fun n response => response.data = f n) places responses) :
    responses.flatMap (·.data) = places.flatMap f := by
  induction all with
  | nil => rfl
  | cons data _ ih => rw [List.flatMap_cons, List.flatMap_cons, data, ih]

/-- A walk through the list gives the rows, each once. -/
def Lossless (list : ℕ → Svc (PaginatedResponse σ)) (rows : List σ) (w : World) : Prop :=
  ∃ responses, ((walkPages list).runs w).1 = .ok responses ∧
    (responses.flatMap (·.data)).Perm rows

section Ties

variable {platform : Platform} {order : SortOrder} {key : ρ → SortValue} {rows : List ρ}
  {limit : ℕ} {entity : ρ → σ}

/-- What a response shows of the rows in the order for `ties`: their page `n`. -/
structure ShowsPage (platform : Platform) (order : SortOrder) (key : ρ → SortValue)
    (rows : List ρ) (entity : ρ → σ) (limit n : ℕ) (ties : Uuid → ℕ)
    (response : PaginatedResponse σ) : Prop where
  data : response.data =
    (PagedLists.page limit (platform.orderBy ties order key rows) n).map entity
  totalPages : response.pageMeta.totalPages = max 1 (pageCount rows.length limit)

/-- Where no page begins between rows with equal keys, a walk gives every row once. -/
theorem lossless_of_apart (ordered : platform.Ordered) (positive : 0 < limit)
    (apart : Apart (platform.sorts order key) limit rows)
    {state : ℕ → World → Prop} {w : World}
    (answers : AnswersPages list state fun n response =>
      ∃ ties, ShowsPage platform order key rows entity limit n ties response)
    (h : state 0 w) : Lossless list (rows.map entity) w := by
  obtain ⟨responses, run, all⟩ := answers.walk
    (max 1 (pageCount rows.length limit))
    (fun response shown => shown.elim fun ties shows => shows.totalPages) h
  refine ⟨responses, run, ?_⟩
  have each : ∀ n, ∃ ties, ∀ inside : n < responses.length, responses[n].data =
      (PagedLists.page limit (platform.orderBy ties order key rows) n).map entity := by
    intro n
    by_cases inside : n < responses.length
    · obtain ⟨ties, shows⟩ := all.get (by rw [all.length_eq]; exact inside) inside
      refine ⟨ties, fun _ => ?_⟩
      simpa only [List.get_eq_getElem, List.getElem_range] using shows.data
    · exact ⟨fun _ => 0, fun h => absurd h inside⟩
  choose ranks shown using each
  have count : responses.length = max 1 (max 1 (pageCount rows.length limit)) := by
    rw [← all.length_eq, List.length_range]
  have data : responses.flatMap (·.data) = (PagedLists.walk limit
      (fun n => platform.orderBy (ranks n) order key rows) responses.length).map entity := by
    rw [flatMap_of_forall₂
        (List.forall₂_iff_get.mpr ⟨List.length_range, fun n inside _ => ?_⟩),
      PagedLists.walk, List.map_flatMap]
    have inside' : n < responses.length := by simpa using inside
    simpa only [List.get_eq_getElem, List.getElem_range] using shown n inside'
  have enough : rows.length ≤ responses.length * limit := by
    rw [← pageCount_le_iff positive, count]
    omega
  rw [data]
  exact (walk_perm (Platform.sorts_refl ordered)
    (fun n => Platform.arrangement_orderBy ordered (ranks n) order key rows) apart enough).map
      entity

/-- Ranks that put row `a` before all others on the first `n` pages and after all others
on the pages that follow. -/
def changedRanks (a : Uuid) (n page : ℕ) (id : Uuid) : ℕ :=
  if page < n then (if id = a then 0 else 1) else if id = a then 1 else 0

/-- Where a page begins between rows with equal keys, a walk that meets the rows in two
orders gives a row twice. -/
theorem not_lossless (ordered : platform.Ordered) (ids : (rows.map Entity.id).Nodup)
    (positive : 0 < limit) {a : ρ} (mem : a ∈ rows) {n : ℕ}
    (few : before (platform.sorts order key) rows a < n * limit)
    (many : n * limit < upTo (platform.sorts order key) rows a)
    {state : ℕ → World → Prop} {w : World}
    (answers : AnswersPages list state fun m response =>
      ShowsPage platform order key rows entity limit m (changedRanks (Entity.id a) n m) response)
    (entities : (rows.map entity).Nodup) (h : state 0 w) :
    ¬ Lossless list (rows.map entity) w := by
  rintro ⟨responses, run, perm⟩
  have start : 0 < n := Nat.pos_of_ne_zero fun zero => by simp [zero] at few
  obtain ⟨responses', run', all⟩ := answers.walk
    (max 1 (pageCount rows.length limit)) (fun response shows => shows.totalPages) h
  cases run.symm.trans run'
  let early := platform.orderBy (changedRanks (Entity.id a) n 0) order key rows
  let late := platform.orderBy (changedRanks (Entity.id a) n n) order key rows
  have data : responses.flatMap (·.data) = (PagedLists.walk limit
      (fun m => if m < n then early else late)
      (max 1 (max 1 (pageCount rows.length limit)))).map entity := by
    rw [flatMap_of_forall₂ (all.imp fun m response shows => shows.data), PagedLists.walk,
      List.map_flatMap]
    refine List.flatMap_congr fun m _ => ?_
    by_cases first : m < n
    · have ranks : changedRanks (Entity.id a) n m = changedRanks (Entity.id a) n 0 := by
        funext id
        rw [changedRanks, changedRanks, if_pos first, if_pos start]
      simp only [if_pos first, ranks, early]
    · have ranks : changedRanks (Entity.id a) n m = changedRanks (Entity.id a) n n := by
        funext id
        rw [changedRanks, changedRanks, if_neg first, if_neg (Nat.lt_irrefl n)]
      simp only [if_neg first, ranks, late]
  rw [data] at perm
  have enough : late.length ≤ max 1 (max 1 (pageCount rows.length limit)) * limit := by
    rw [(perm_orderBy platform _ order key rows).length_eq, ← pageCount_le_iff positive]
    omega
  have nodup : late.Nodup :=
    (perm_orderBy platform _ order key rows).nodup_iff.mpr (List.Nodup.of_map _ ids)
  refine not_nodup_of_changed (a := a) nodup ?_ ?_ enough
    (List.Nodup.of_map _ (perm.nodup_iff.mpr entities))
  · refine mem_take_of_first (perm_orderBy platform _ order key rows) mem
      (Platform.first_orderBy ordered ids fun id other => ?_) few
    simp [changedRanks, start, other]
  · refine mem_drop_of_last (perm_orderBy platform _ order key rows) mem
      (Platform.last_orderBy ordered ids fun id other => ?_) many
    simp [changedRanks, other]

/-- A walk gives every row once, whatever the ranks, if and only if no page begins
between rows with equal keys. -/
theorem lossless_iff_apart (ordered : platform.Ordered) (ids : (rows.map Entity.id).Nodup)
    (entities : (rows.map entity).Nodup) (positive : 0 < limit) {good : World → Prop}
    (answers : ∀ w, good w → ∃ state : ℕ → World → Prop, state 0 w ∧
      AnswersPages list state fun n response =>
        ∃ ties, ShowsPage platform order key rows entity limit n ties response)
    (ranked : ∀ ranks : ℕ → Uuid → ℕ, ∃ w, good w ∧
      ∃ state : ℕ → World → Prop, state 0 w ∧
      AnswersPages list state fun n response =>
        ShowsPage platform order key rows entity limit n (ranks n) response) :
    (∀ w, good w → Lossless list (rows.map entity) w) ↔
      Apart (platform.sorts order key) limit rows := by
  constructor
  · intro lossless a mem n
    by_contra inside
    obtain ⟨few, many⟩ := not_or.mp inside
    obtain ⟨w, fine, state, start, pages⟩ := ranked (changedRanks (Entity.id a) n)
    exact not_lossless ordered ids positive mem (not_le.mp few)
      (not_le.mp many) pages entities start
      (lossless w fine)
  · intro apart w fine
    obtain ⟨state, start, pages⟩ := answers w fine
    exact lossless_of_apart ordered positive apart pages start

/-- A state with these tables and ranks, and nothing in the cache. -/
def Database.ranked (db : Database) (ties : ℕ → Uuid → ℕ) : World where
  db := db
  cache := []
  pending := []
  nextTx := 0
  clock := 0
  ids _ := 0
  draws _ := 0
  ties := ties
  journal := []

/-- The same for a list that every call reads from the tables. -/
theorem lossless_iff_of_read (ordered : platform.Ordered) (ids : (rows.map Entity.id).Nodup)
    (entities : (rows.map entity).Nodup) (positive : 0 < limit) {db : Database}
    (read : ∀ n w, w.db = db → ∃ response,
      (list (n + 1)).runs w = (.ok response, { w with ties := fun m => w.ties (m + 1) }) ∧
        ShowsPage platform order key rows entity limit n (w.ties 0) response) :
    (∀ w, w.db = db → Lossless list (rows.map entity) w) ↔
      Apart (platform.sorts order key) limit rows := by
  refine lossless_iff_apart ordered ids entities positive ?_ ?_
  · intro w same
    refine ⟨fun _ w => w.db = db, same, fun n w same => ?_⟩
    obtain ⟨response, run, shows⟩ := read n w same
    exact ⟨response, _, run, ⟨_, shows⟩, same⟩
  · intro ranks
    refine ⟨db.ranked ranks, rfl, fun n w => w.db = db ∧ w.ties = fun m => ranks (n + m),
      ⟨rfl, by simp [Database.ranked]⟩, ?_⟩
    rintro n w ⟨same, left⟩
    obtain ⟨response, run, shows⟩ := read n w same
    rw [left] at shows
    refine ⟨response, _, run, shows, same, ?_⟩
    funext m
    rw [left]
    exact congrArg ranks (by omega)

/-- The same for a list of the rows themselves. -/
theorem lossless_iff_of_rows {list : ℕ → Svc (PaginatedResponse ρ)}
    (ordered : platform.Ordered)
    (ids : (rows.map Entity.id).Nodup) (positive : 0 < limit) {db : Database}
    (link : ℕ → String)
    (read : ∀ n w, w.db = db → (list (n + 1)).runs w =
      (.ok (paginated (PagedLists.page limit (platform.orderBy (w.ties 0) order key rows) n)
        rows.length (max 1 (pageCount rows.length limit)) (n + 1) limit link),
        { w with ties := fun m => w.ties (m + 1) })) :
    (∀ w, w.db = db → Lossless list rows w) ↔
      Apart (platform.sorts order key) limit rows := by
  have entities : (rows.map id).Nodup := by
    rw [List.map_id]
    exact List.Nodup.of_map _ ids
  have both := lossless_iff_of_read ordered ids entities positive fun n w same =>
    ⟨_, read n w same, (List.map_id _).symm, rfl⟩
  rwa [List.map_id] at both

end Ties

end Tenantory
