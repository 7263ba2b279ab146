import Tenantory.ProgramPool
import Mathlib.Data.Set.Insert

/-! Programs and the states they have seen. What a program does is explained by any state that
one of its atoms has acted on, not only by the one it finds. In an interleaving these are
states that the pool has come through. -/

namespace Tenantory
namespace Prog

variable {σ ε L α β : Type} {may : Set σ → σ → σ → Prop}
  {post post' : Set σ → α → Prop}
  {seen : Set σ}

/-- Every atom takes a step that `may` admits for the states seen so far, the one it acts on
among them, and `post` holds of these and what is returned. What an atom leaves is seen as well;
one that fails has seen nothing. -/
def Recalls (may : Set σ → σ → σ → Prop) :
    Prog σ ε L α → (Set σ → α → Prop) → Set σ → Prop
  | ret a, post, seen => post seen a
  | atom a k, post, seen =>
      (∀ s, may (insert s seen) s (a.act s).2 ∧
        Recalls may (k (a.act s).1) post (insert (a.act s).2 (insert s seen))) ∧
      ∀ e, Recalls may (k (.error e)) post seen

theorem Recalls.mono {p : Prog σ ε L α} (h : p.Recalls may post seen)
    (imp : ∀ seen a, post seen a → post' seen a) : p.Recalls may post' seen := by
  induction p generalizing seen with
  | ret a => exact imp seen a h
  | atom a k ih => exact ⟨fun s => ⟨(h.1 s).1, ih _ (h.1 s).2⟩, fun e => ih _ (h.2 e)⟩

theorem Recalls.bind {p : Prog σ ε L β} {f : β → Prog σ ε L α}
    (h : p.Recalls may (fun seen b => (f b).Recalls may post seen) seen) :
    (p.bind f).Recalls may post seen := by
  induction p generalizing seen with
  | ret a => exact h
  | atom a k ih => exact ⟨fun s => ⟨(h.1 s).1, ih _ (h.1 s).2⟩, fun e => ih _ (h.2 e)⟩

/-- What has been seen stays seen. -/
theorem Recalls.grows {p : Prog σ ε L α} (h : p.Recalls may post seen) :
    p.Recalls may (fun seen' a => seen ⊆ seen' ∧ post seen' a) seen := by
  induction p generalizing seen with
  | ret a => exact ⟨subset_rfl, h⟩
  | atom a k ih =>
      refine ⟨fun s => ⟨(h.1 s).1, (ih _ (h.1 s).2).mono fun _ _ more => ⟨?_, more.2⟩⟩,
        fun e => ih _ (h.2 e)⟩
      exact ((Set.subset_insert s seen).trans (Set.subset_insert _ _)).trans more.1

/-- A program whose steps need no past. -/
theorem recalls_of_guarded {p : Prog σ ε L α} {Inv : σ → σ → Prop}
    (h : ∀ s₀, p.Guarded (fun _ _ => True) (Inv s₀)) (here : ∀ s, Inv s s)
    (admits : ∀ seen s t, Inv s t → may seen s t) : p.Recalls may (fun _ _ => True) seen := by
  induction p generalizing seen with
  | ret a => trivial
  | atom a k ih =>
      refine ⟨fun s => ⟨admits _ s _ ((h s).1 s (here s) trivial), ?_⟩, fun e => ?_⟩
      · exact ih _ fun s₀ => (h s₀).2 _
      · exact ih _ fun s₀ => (h s₀).2 _

end Prog

namespace Pool

variable {σ ε L ι α : Type} [DecidableEq ι] {fault : L → ε → Prop}
  {cond : σ → ι → L → Prop}
  {may : Set σ → σ → σ → Prop} {past : Set σ} {c d : Pool σ ε L ι α}

/-- An interleaving from `c`, and the states that it has come through. -/
inductive Through (fault : L → ε → Prop) (cond : σ → ι → L → Prop)
    (c : Pool σ ε L ι α) :
    Set σ → Pool σ ε L ι α → Prop
  | start : Through fault cond c {c.state} c
  | step {past : Set σ} {d e : Pool σ ε L ι α} : Through fault cond c past d →
      Step fault cond d e → Through fault cond c (insert e.state past) e

theorem Through.last (through : Through fault cond c past d) : d.state ∈ past := by
  cases through with
  | start => exact Set.mem_singleton _
  | step _ _ => exact Set.mem_insert _ _

theorem Reach.through (reach : Reach fault cond c d) : ∃ past, Through fault cond c past d := by
  induction reach with
  | refl => exact ⟨_, .start⟩
  | step _ step ih =>
      obtain ⟨past, through⟩ := ih
      exact ⟨_, through.step step⟩

/-- Each of the states has been the last one. -/
theorem Through.before {s : σ} (through : Through fault cond c past d) (mem : s ∈ past) :
    ∃ before ⊆ past, ∃ e, Through fault cond c before e ∧ e.state = s := by
  induction through with
  | start =>
      rw [Set.mem_singleton_iff] at mem
      exact ⟨_, subset_rfl, c, .start, mem.symm⟩
  | @step past d e through step ih =>
      rcases Set.mem_insert_iff.mp mem with rfl | mem
      · exact ⟨_, subset_rfl, e, through.step step, rfl⟩
      · obtain ⟨before, less, e', through', same⟩ := ih mem
        exact ⟨before, less.trans (Set.subset_insert _ _), e', through', same⟩

/-- An interleaving that goes on. -/
theorem Through.further {e : Pool σ ε L ι α} (through : Through fault cond c past d)
    (reach : Reach fault cond d e) : ∃ past' ⊇ past, Through fault cond c past' e := by
  induction reach with
  | refl => exact ⟨past, subset_rfl, through⟩
  | step _ step ih =>
      obtain ⟨past', more, through⟩ := ih
      exact ⟨_, more.trans (Set.subset_insert _ _), through.step step⟩

/-- Programs that recall act as the states admit that the interleaving has come through, and an
invariant about these and the state is kept. -/
theorem recalled_through {post : ι → Set σ → α → Prop} {inv : Set σ → σ → Prop}
    (steps : ∀ seen past s t, seen ⊆ past → s ∈ past → may seen s t → inv past s →
      inv (insert t past) t)
    (start : inv {c.state} c.state) (recalls : ∀ i, (c.progs i).Recalls may (post i) ∅)
    (through : Through fault cond c past d) :
    inv past d.state ∧ ∀ i, ∃ seen ⊆ past, (d.progs i).Recalls may (post i) seen := by
  induction through with
  | start => exact ⟨start, fun i => ⟨∅, Set.empty_subset _, recalls i⟩⟩
  | @step past d e before step ih =>
      obtain ⟨kept, recalled⟩ := ih
      -- the program that has moved goes on with more seen, the others as they were
      have continued : ∀ (i : ι) (p : Prog σ ε L α) (seen : Set σ),
        seen ⊆ insert e.state past →
          p.Recalls may (post i) seen → ∀ j, ∃ seen ⊆ insert e.state past,
            (Function.update d.progs i p j).Recalls may (post j) seen := by
        intro i p seen less moved j
        by_cases hj : j = i
        · subst hj
          rw [Function.update_self]
          exact ⟨seen, less, moved⟩
        · rw [Function.update_of_ne hj]
          obtain ⟨seen, less, waits⟩ := recalled j
          exact ⟨seen, less.trans (Set.subset_insert _ _), waits⟩
      cases step with
      | act i a k hp ready met =>
          obtain ⟨seen, less, here⟩ := recalled i
          rw [hp] at here
          have seeing : insert d.state seen ⊆ past := Set.insert_subset before.last less
          refine ⟨steps _ _ _ _ seeing before.last (here.1 d.state).1 kept, ?_⟩
          exact continued i _ _ (Set.insert_subset_insert seeing) (here.1 d.state).2
      | fail i a k err hp faulty =>
          obtain ⟨seen, less, here⟩ := recalled i
          rw [hp] at here
          -- the state is the last one still
          have same : insert d.state past = past := Set.insert_eq_of_mem before.last
          refine ⟨?_, continued i _ _ (less.trans (Set.subset_insert _ _)) (here.2 err)⟩
          show inv (insert d.state past) d.state
          rw [same]
          exact kept

end Pool
end Tenantory
