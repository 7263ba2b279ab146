import Mathlib.Data.List.Pairwise
import Mathlib.Data.List.Basic

/-! Tables under unique constraints. `conflict` says that two rows may not stand
in one table; a table carries the proof that none of its rows conflict, so that
an insert or update that would break a constraint has no table as its result.
Restricting a table to a class of rows commutes with every statement about the
rows of that class. -/

namespace Tenantory

class Constrained (ρ : Type) where
  conflict : ρ → ρ → Bool
  refl : ∀ r, conflict r r = true
  symm : ∀ r s, conflict r s = conflict s r

export Constrained (conflict)

structure Table (ρ : Type) [Constrained ρ] where
  rows : List ρ
  separate : rows.Pairwise fun r s => conflict r s = false

namespace Table

variable {ρ : Type} [Constrained ρ]

instance : Membership ρ (Table ρ) where
  mem t r := r ∈ t.rows

@[simp] theorem mem_rows {t : Table ρ} {r : ρ} : r ∈ t.rows ↔ r ∈ t := Iff.rfl

instance : EmptyCollection (Table ρ) where
  emptyCollection := ⟨[], List.Pairwise.nil⟩

@[simp] theorem rows_empty : (∅ : Table ρ).rows = [] := rfl

theorem rows_inj {t u : Table ρ} (h : t.rows = u.rows) : t = u := by
  cases t
  cases u
  congr

theorem conflict_comm (r s : ρ) : conflict r s = conflict s r := Constrained.symm r s

@[simp] theorem conflict_self (r : ρ) : conflict r r = true := Constrained.refl r

/-- Conflicting rows of one table are the same row. -/
theorem eq_of_conflict {t : Table ρ} {r s : ρ} (hr : r ∈ t) (hs : s ∈ t)
    (h : conflict r s = true) : r = s := by
  by_contra ne
  have : Std.Symm fun r s : ρ => conflict r s = false :=
    ⟨fun r s apart => by rwa [conflict_comm]⟩
  have apart := t.separate.forall hr hs ne
  simp [apart] at h

/-! ## Reading -/

def find? (t : Table ρ) (p : ρ → Bool) : Option ρ := t.rows.find? p

def select (t : Table ρ) (p : ρ → Bool) : List ρ := t.rows.filter p

theorem mem_of_find? {t : Table ρ} {p : ρ → Bool} {r : ρ} (h : t.find? p = some r) : r ∈ t :=
  List.mem_of_find?_eq_some h

theorem holds_of_find? {t : Table ρ} {p : ρ → Bool} {r : ρ} (h : t.find? p = some r) :
    p r = true := by
  simpa using List.find?_some h

theorem find?_eq_none {t : Table ρ} {p : ρ → Bool} :
    t.find? p = none ↔ ∀ r ∈ t, p r = false := by
  simp [find?]

/-- A row is found by any test that only the rows in conflict with it can pass. -/
theorem find?_of_mem {t : Table ρ} {p : ρ → Bool} {r : ρ} (hr : r ∈ t) (hp : p r = true)
    (only : ∀ s ∈ t, p s = true → conflict r s = true) : t.find? p = some r := by
  cases hf : t.find? p with
  | none =>
      have absent := find?_eq_none.mp hf r hr
      simp [absent] at hp
  | some s =>
      have found := mem_of_find? hf
      rw [eq_of_conflict hr found (only s found (holds_of_find? hf))]

/-! ## Writing -/

def insert? (t : Table ρ) (r : ρ) : Option (Table ρ) :=
  if h : t.rows.any (conflict r) = true then none
  else some ⟨t.rows ++ [r], by
    refine List.pairwise_append.mpr ⟨t.separate, List.pairwise_singleton _ _, ?_⟩
    intro s hs u hu
    have hu' : u = r := by simpa using hu
    subst hu'
    rw [conflict_comm]
    simpa using (List.any_eq_false.mp (by simpa using h)) s hs⟩

theorem insert?_eq_some {t u : Table ρ} {r : ρ} (h : t.insert? r = some u) :
    u.rows = t.rows ++ [r] ∧ ∀ s ∈ t, conflict r s = false := by
  unfold insert? at h
  split at h
  · cases h
  · rename_i free
    cases h
    refine ⟨rfl, fun s hs => ?_⟩
    simpa using (List.any_eq_false.mp (by simpa using free)) s hs

theorem insert?_of_free {t : Table ρ} {r : ρ} (free : ∀ s ∈ t, conflict r s = false) :
    ∃ u, t.insert? r = some u ∧ u.rows = t.rows ++ [r] := by
  have none_conflicts : t.rows.any (conflict r) = false := by
    refine List.any_eq_false.mpr fun s hs => ?_
    simp [free s hs]
  refine ⟨_, dif_neg (by simp [none_conflicts]), rfl⟩

/-- UPDATE: `f` on the rows that pass `p`, refused when two rows would then conflict. -/
def update? (t : Table ρ) (p : ρ → Bool) (f : ρ → ρ) : Option (Table ρ) :=
  if h : (t.rows.map fun r => if p r then f r else r).Pairwise fun r s => conflict r s = false then
    some ⟨_, h⟩
  else none

theorem update?_eq_some {t u : Table ρ} {p : ρ → Bool} {f : ρ → ρ}
    (h : t.update? p f = some u) :
    u.rows = t.rows.map fun r => if p r then f r else r := by
  unfold update? at h
  split at h
  · cases h
    rfl
  · cases h

theorem update?_congr {t : Table ρ} {p : ρ → Bool} {f g : ρ → ρ}
    (same : ∀ r ∈ t, p r = true → f r = g r) : t.update? p f = t.update? p g := by
  have rows : (t.rows.map fun r => if p r then f r else r) =
      t.rows.map fun r => if p r then g r else r := by
    refine List.map_congr_left fun r hr => ?_
    cases hp : p r with
    | false => rfl
    | true => exact same r hr hp
  simp only [update?, rows]

/-- One row is rewritten to one that no other row conflicts with. -/
theorem update?_of_apart {t : Table ρ} {p : ρ → Bool} {f : ρ → ρ} {row : ρ}
    (one : ∀ r ∈ t, p r = true → r = row)
    (apart : ∀ s ∈ t, p s = false → conflict (f row) s = false) :
    ∃ u, t.update? p f = some u := by
  have separate : (t.rows.map fun r => if p r then f r else r).Pairwise
      fun r s => conflict r s = false := by
    refine List.pairwise_map.mpr (t.separate.imp_of_mem fun {r s} hr hs separate => ?_)
    cases hp : p r with
    | false =>
        cases hq : p s with
        | false => simpa using separate
        | true =>
            obtain rfl := one s hs hq
            rw [conflict_comm]
            simpa using apart r hr hp
    | true =>
        obtain rfl := one r hr hp
        cases hq : p s with
        | false => simpa using apart s hs hq
        | true =>
            obtain rfl := one s hs hq
            simp at separate
  exact ⟨_, dif_pos separate⟩

/-- The rows that pass `p` are rewritten by an `f` that keeps what the constraints read. -/
def modify (t : Table ρ) (p : ρ → Bool) (f : ρ → ρ)
    (keeps : ∀ r s, conflict (f r) s = conflict r s) : Table ρ where
  rows := t.rows.map fun r => if p r then f r else r
  separate := by
    refine List.pairwise_map.mpr (t.separate.imp fun {r s} apart => ?_)
    have right : ∀ a, conflict a (f s) = conflict a s := fun a => by
      rw [conflict_comm, keeps, conflict_comm]
    split <;> split <;> simp [keeps, right, apart]

@[simp] theorem rows_modify (t : Table ρ) (p : ρ → Bool) (f : ρ → ρ)
    (keeps : ∀ r s, conflict (f r) s = conflict r s) :
    (t.modify p f keeps).rows = t.rows.map fun r => if p r then f r else r := rfl

theorem mem_modify {t : Table ρ} {p : ρ → Bool} {f : ρ → ρ}
    {keeps : ∀ r s, conflict (f r) s = conflict r s} {s : ρ} :
    s ∈ t.modify p f keeps ↔ ∃ r ∈ t, (if p r then f r else r) = s := by
  show s ∈ (t.modify p f keeps).rows ↔ _
  simp

theorem mem_insert? {t u : Table ρ} {r s : ρ} (h : t.insert? r = some u) :
    s ∈ u ↔ s ∈ t ∨ s = r := by
  show s ∈ u.rows ↔ _
  rw [(insert?_eq_some h).1]
  simp

theorem mem_update? {t u : Table ρ} {p : ρ → Bool} {f : ρ → ρ} {s : ρ}
    (h : t.update? p f = some u) : s ∈ u ↔ ∃ r ∈ t, (if p r then f r else r) = s := by
  show s ∈ u.rows ↔ _
  rw [update?_eq_some h]
  simp

/-! ## Restricting -/

section Restrict

variable {keep p q : ρ → Bool} {t u : Table ρ}

/-- The rows that pass `keep`. -/
def only (keep : ρ → Bool) (t : Table ρ) : Table ρ :=
  ⟨t.rows.filter keep, t.separate.filter _⟩

@[simp] theorem rows_only : (t.only keep).rows = t.rows.filter keep := rfl

@[simp] theorem mem_only {r : ρ} : r ∈ t.only keep ↔ r ∈ t ∧ keep r = true := by
  show r ∈ (t.only keep).rows ↔ _
  simp

theorem fails_of_out (kept : ∀ r ∈ t, p r = true → keep r = true) {r : ρ} (hr : r ∈ t)
    (out : keep r = false) : p r = false := by
  by_contra holds
  simp [kept r hr (by simpa using holds)] at out

/-- Rewriting rows that are not kept. -/
theorem only_of_map {g : ρ → ρ} (rows : u.rows = t.rows.map g)
    (keeps : ∀ r ∈ t, keep (g r) = keep r) (same : ∀ r ∈ t, keep r = true → g r = r) :
    u.only keep = t.only keep := by
  refine rows_inj ?_
  rw [rows_only, rows_only, rows, List.filter_map]
  have tests : t.rows.filter (keep ∘ g) = t.rows.filter keep := List.filter_congr keeps
  rw [tests]
  refine (List.map_congr_left fun r hr => ?_).trans (List.map_id _)
  obtain ⟨mem, kept⟩ := List.mem_filter.mp hr
  exact same r mem kept

/-- A test that only kept rows pass selects what it selects in the whole table. -/
theorem select_only (kept : ∀ r ∈ t, p r = true → keep r = true)
    (same : ∀ r ∈ t, keep r = true → q r = p r) : (t.only keep).select q = t.select p := by
  show (t.rows.filter keep).filter q = t.rows.filter p
  rw [List.filter_filter]
  refine List.filter_congr fun r hr => ?_
  cases hk : keep r with
  | true => simp [same r hr hk]
  | false => simp [fails_of_out kept hr hk]

theorem find?_eq_head? : t.find? p = (t.select p).head? := List.head?_filter.symm

theorem find?_only (kept : ∀ r ∈ t, p r = true → keep r = true)
    (same : ∀ r ∈ t, keep r = true → q r = p r) : (t.only keep).find? q = t.find? p := by
  rw [find?_eq_head?, find?_eq_head?, select_only kept same]

theorem any_eq_isSome : t.rows.any p = (t.find? p).isSome := by
  rw [find?, List.isSome_find?]

theorem any_only (kept : ∀ r ∈ t, p r = true → keep r = true)
    (same : ∀ r ∈ t, keep r = true → q r = p r) :
    (t.only keep).rows.any q = t.rows.any p := by
  rw [any_eq_isSome, any_eq_isSome, find?_only kept same]

/-- A row in conflict with kept rows only is inserted into the kept rows alike. -/
theorem insert?_only {r : ρ} (kept : keep r = true)
    (apart : ∀ s ∈ t, keep s = false → conflict r s = false) :
    (t.only keep).insert? r = (t.insert? r).map (only keep) := by
  have same : (t.only keep).rows.any (conflict r) = t.rows.any (conflict r) :=
    any_only (fun s hs meets => by
      by_contra out
      simp [apart s hs (by simpa using out)] at meets) fun _ _ _ => rfl
  unfold insert?
  by_cases h : t.rows.any (conflict r) = true
  · rw [dif_pos h, dif_pos (same.trans h)]
    rfl
  · rw [dif_neg h, dif_neg (by rw [same]; exact h)]
    refine congrArg some (rows_inj ?_)
    simp [kept]

theorem only_of_insert? {r : ρ} (out : keep r = false) (h : t.insert? r = some u) :
    u.only keep = t.only keep := by
  refine rows_inj ?_
  simp [(insert?_eq_some h).1, out]

/-- An UPDATE of kept rows that stay kept touches no other row. -/
theorem filter_update (f : ρ → ρ) (within : ∀ r ∈ t, p r = true → keep r = true)
    (stays : ∀ r ∈ t, p r = true → keep (f r) = true) :
    (t.rows.map fun r => if p r then f r else r).filter keep =
      (t.rows.filter keep).map fun r => if p r then f r else r := by
  rw [List.filter_map]
  refine congrArg _ (List.filter_congr fun r hr => ?_)
  cases hp : p r with
  | true => simp [hp, within r hr hp, stays r hr hp]
  | false => simp [hp]

theorem update?_only (f : ρ → ρ) (within : ∀ r ∈ t, p r = true → keep r = true)
    (stays : ∀ r ∈ t, p r = true → keep (f r) = true)
    (apart : ∀ r ∈ t, p r = true → ∀ s ∈ t, keep s = false → conflict (f r) s = false) :
    (t.only keep).update? p f = (t.update? p f).map (only keep) := by
  have rows := filter_update f within stays
  have separate : (((t.only keep).rows.map fun r => if p r then f r else r).Pairwise
      fun r s => conflict r s = false) ↔ (t.rows.map fun r => if p r then f r else r).Pairwise
        fun r s => conflict r s = false := by
    rw [rows_only, ← rows]
    refine ⟨fun kept => ?_, fun h => h.filter _⟩
    rw [rows, List.pairwise_map, List.pairwise_filter] at kept
    rw [List.pairwise_map]
    refine (kept.and t.separate).imp_of_mem fun {r s} hr hs both => ?_
    obtain ⟨here, before⟩ := both
    cases hr' : keep r with
    | true =>
        cases hs' : keep s with
        | true => exact here hr' hs'
        | false =>
            have still := fails_of_out within hs hs'
            cases hp : p r with
            | true => simpa [still] using apart r hr hp s hs hs'
            | false => simpa [still] using before
    | false =>
        have still := fails_of_out within hr hr'
        cases hp : p s with
        | true =>
            rw [conflict_comm]
            simpa [still] using apart s hs hp r hr hr'
        | false => simpa [still] using before
  unfold update?
  by_cases h : (t.rows.map fun r => if p r then f r else r).Pairwise fun r s => conflict r s = false
  · rw [dif_pos h, dif_pos (separate.mpr h)]
    exact congrArg some (rows_inj rows.symm)
  · rw [dif_neg h, dif_neg (mt separate.mp h)]
    rfl

theorem only_of_update? {f : ρ → ρ} (out : ∀ r ∈ t, p r = true → keep r = false)
    (stays : ∀ r ∈ t, p r = true → keep (f r) = false) (h : t.update? p f = some u) :
    u.only keep = t.only keep := by
  refine rows_inj ?_
  rw [rows_only, update?_eq_some h, List.filter_map, rows_only]
  have same : t.rows.filter (keep ∘ fun r => if p r then f r else r) = t.rows.filter keep := by
    refine List.filter_congr fun r hr => ?_
    cases hp : p r with
    | true => simp [hp, out r hr hp, stays r hr hp]
    | false => simp [hp]
  rw [same]
  refine List.map_congr_left (fun r hr => ?_) |>.trans (List.map_id _)
  have keeps := List.of_mem_filter hr
  have still : p r = false := by
    by_contra holds
    simp [out r (List.mem_of_mem_filter hr) (by simpa using holds)] at keeps
  simp [still]

end Restrict

end Table
end Tenantory
