import Tenantory.SerialRuns

/-! Reading through the cache. A cache-aside function answers with the object under its
key; without one it answers with what it reads, and puts that under the key. -/

namespace Tenantory

/-- The parts of a cache-aside function. `ranks` says that its read depends on how the
server ranks ties. -/
structure CacheAside (α : Type) where
  key : String
  cached? : Cached → Option α
  wrap : α → Cached
  fresh : (Uuid → ℕ) → World → Except Err α
  ranks : Bool

/-- What a finder throws for a row that is not there. -/
def orMissing {α : Type} (missing : Err) : Except Err (Option α) → Except Err α
  | .ok (some a) => .ok a
  | .ok none => .error missing
  | .error e => .error e

theorem orMissing_eq_ok {α : Type} {missing : Err} {read : Except Err (Option α)} {a : α} :
    orMissing missing read = .ok a ↔ read = .ok (some a) := by
  constructor
  · intro h
    unfold orMissing at h
    split at h
    · cases h
      rfl
    · cases h
    · cases h
  · intro h
    rw [h]
    rfl

namespace CacheAside

open Svc

variable {α : Type} (view : CacheAside α) {w w' : World} {a : α}

/-- What the function finds in the cache. -/
def hit (w : World) : Option α := (w.cached view.key).bind view.cached?

/-- The world after the read. -/
def read (w : World) : World :=
  if view.ranks then { w with ties := fun n => w.ties (n + 1) } else w

def answer (w : World) : Except Err α × World :=
  match view.hit w with
  | some a => (.ok a, w)
  | none =>
      match view.fresh (w.ties 0) w with
      | .error e => (.error e, view.read w)
      | .ok a => (.ok a, (view.read w).setKey view.key (view.wrap a))

/-- The function answers with `a` and leaves `w'`. -/
inductive Finds (w : World) : α → World → Prop
  | hit {a : α} : view.hit w = some a → Finds w a w
  | miss {a : α} : view.hit w = none → view.fresh (w.ties 0) w = .ok a →
      Finds w a ((view.read w).setKey view.key (view.wrap a))

@[simp] theorem read_db (w : World) : (view.read w).db = w.db := by
  unfold read
  split <;> rfl

@[simp] theorem read_cache (w : World) : (view.read w).cache = w.cache := by
  unfold read
  split <;> rfl

@[simp] theorem read_clock (w : World) : (view.read w).clock = w.clock := by
  unfold read
  split <;> rfl

@[simp] theorem read_ids (w : World) : (view.read w).ids = w.ids := by
  unfold read
  split <;> rfl

variable {view}

theorem finds_iff : view.answer w = (.ok a, w') ↔ view.Finds w a w' := by
  unfold answer
  constructor
  · intro h
    split at h
    · rename_i hit
      cases h
      exact .hit hit
    · rename_i miss
      split at h
      · cases h
      · rename_i read
        cases h
        exact .miss miss read
  · intro h
    cases h with
    | hit hit => simp [hit]
    | miss miss read => simp [miss, read]

/-- A read that fails leaves the cache alone. -/
theorem answer_error {e : Err} (h : (view.answer w).1 = .error e) :
    (view.answer w).2 = view.read w := by
  unfold answer at h ⊢
  cases hc : view.hit w with
  | some a => simp [hc] at h
  | none =>
      cases hr : view.fresh (w.ties 0) w with
      | error e => rfl
      | ok a => simp [hc, hr] at h

/-- An object comes from the cache or from the database as it is. -/
theorem Finds.source (h : view.Finds w a w') :
    view.hit w = some a ∨ view.fresh (w.ties 0) w = .ok a := by
  cases h with
  | hit hit => exact .inl hit
  | miss _ read => exact .inr read

theorem Finds.cachedAll {P : String → Cached → Prop} (h : view.Finds w a w')
    (all : w.CachedAll P)
    (fresh : view.fresh (w.ties 0) w = .ok a → P view.key (view.wrap a)) : w'.CachedAll P := by
  cases h with
  | hit _ => exact all
  | miss _ read =>
      refine World.CachedAll.setKey ?_ (fresh read)
      unfold World.CachedAll
      rw [view.read_cache]
      exact all

/-- The function keeps a property of the cached objects that its reads have. -/
theorem answer_cachedAll {P : String → Cached → Prop} (all : w.CachedAll P)
    (fresh : ∀ a, view.fresh (w.ties 0) w = .ok a → P view.key (view.wrap a)) :
    (view.answer w).2.CachedAll P := by
  cases h : view.answer w with
  | mk answer w' =>
      cases answer with
      | ok a => exact (finds_iff.mp h).cachedAll all (fresh a)
      | error e =>
          have same := answer_error (by rw [h])
          rw [h] at same
          unfold World.CachedAll
          rw [same, view.read_cache]
          exact all

/-- A read of these tables can answer with the object. -/
def Gives (view : CacheAside α) (db : Database) (a : α) : Prop :=
  ∃ ties w, w.db = db ∧ view.fresh ties w = .ok a

/-- The read looks at the tables only. -/
def ReadsTables (view : CacheAside α) : Prop :=
  ∀ ties w w', w.db = w'.db → view.fresh ties w = view.fresh ties w'

/-- What the function answers is what it can answer without a cache. -/
theorem answer_uncached (tables : view.ReadsTables)
    (copy : ∀ a, view.hit w = some a → view.Gives w.db a) :
    ∃ ties, (view.answer w).1 = (view.answer { w with cache := [], ties }).1 := by
  have uncached : ∀ ties, (view.answer { w with cache := [], ties }).1 =
      view.fresh (ties 0) w := by
    intro ties
    have same := tables (ties 0) { w with cache := [], ties } w rfl
    change (match view.fresh (ties 0) { w with cache := [], ties } with
      | .error e => (.error e, _)
      | .ok a => (.ok a, _) : Except Err α × World).1 = _
    rw [same]
    cases view.fresh (ties 0) w <;> rfl
  cases hit : view.hit w with
  | some a =>
      obtain ⟨ties, w', same, read⟩ := copy a hit
      refine ⟨fun _ => ties, ?_⟩
      rw [uncached, ← tables ties w' w same, read]
      simp [answer, hit]
  | none =>
      refine ⟨w.ties, ?_⟩
      rw [uncached]
      unfold answer
      rw [hit]
      cases view.fresh (w.ties 0) w <;> rfl

namespace Finds

theorem db (h : view.Finds w a w') : w'.db = w.db := by
  cases h with
  | hit _ => rfl
  | miss _ _ => exact view.read_db w

theorem clock (h : view.Finds w a w') : w'.clock = w.clock := by
  cases h with
  | hit _ => rfl
  | miss _ _ => exact view.read_clock w

theorem ids (h : view.Finds w a w') : w'.ids = w.ids := by
  cases h with
  | hit _ => rfl
  | miss _ _ => exact view.read_ids w

/-- The function puts its object under its key, and nothing else. -/
theorem cache (h : view.Finds w a w') {entry : String × Cached} (mem : entry ∈ w'.cache) :
    entry = (view.key, view.wrap a) ∨ entry ∈ w.cache := by
  cases h with
  | hit _ => exact .inr mem
  | miss _ _ =>
      rcases List.mem_cons.mp mem with rfl | old
      · exact .inl rfl
      · refine .inr ?_
        rw [← view.read_cache w]
        exact List.mem_of_mem_filter old

end Finds

@[simp] theorem answer_db (w : World) : (view.answer w).2.db = w.db := by
  unfold answer
  split
  · rfl
  · split
    · exact view.read_db w
    · exact view.read_db w

end CacheAside
end Tenantory
