import Tenantory.ProgramPool
import Mathlib.Algebra.BigOperators.Group.Finset.Piecewise
import Mathlib.Algebra.Order.BigOperators.Group.Finset

/-! Programs that pay for their answers. The state has a credit that no step raises, and what a
step takes from it the program may spend. What the programs of an interleaving spend together
is covered by the credit of the state that it has started in. -/

namespace Tenantory

open scoped BigOperators

namespace Prog

variable {σ ε L α β : Type} {credit : σ → ℤ} {charge : α → ℤ} {toll : β → ℤ}
  {paid paid' : ℤ}

/-- No atom raises the credit, and an answer is charged no more than the atoms have taken from
it, together with what has been `paid` before. An atom that fails takes nothing. -/
def Pays (credit : σ → ℤ) : Prog σ ε L α → (α → ℤ) → ℤ → Prop
  | ret a, charge, paid => charge a ≤ paid
  | atom a k, charge, paid =>
      (∀ s, credit (a.act s).2 ≤ credit s ∧
        Pays credit (k (a.act s).1) charge (paid + (credit s - credit (a.act s).2))) ∧
      ∀ e, Pays credit (k (.error e)) charge paid

theorem Pays.mono {p : Prog σ ε L α} (h : p.Pays credit charge paid) (more : paid ≤ paid') :
    p.Pays credit charge paid' := by
  induction p generalizing paid paid' with
  | ret a => exact le_trans h more
  | atom a k ih =>
      refine ⟨fun s => ⟨(h.1 s).1, ih _ (h.1 s).2 ?_⟩, fun e => ih _ (h.2 e) more⟩
      exact add_le_add_left more _

theorem Pays.bind {p : Prog σ ε L β} {f : β → Prog σ ε L α} (h : p.Pays credit toll paid)
    (rest : ∀ b, (f b).Pays credit charge (toll b)) : (p.bind f).Pays credit charge paid := by
  induction p generalizing paid with
  | ret b => exact (rest b).mono h
  | atom a k ih => exact ⟨fun s => ⟨(h.1 s).1, ih _ (h.1 s).2⟩, fun e => ih _ (h.2 e)⟩

/-- A program that is charged nothing. -/
theorem pays_of_guarded {p : Prog σ ε L α}
    (h : ∀ s₀, p.Guarded (fun _ _ => True) fun s => credit s ≤ credit s₀) :
    p.Pays credit (fun _ => 0) 0 := by
  induction p with
  | ret a => exact le_rfl
  | atom a k ih =>
      refine ⟨fun s => ?_, fun e => ih _ fun s₀ => (h s₀).2 _⟩
      have less : credit (a.act s).2 ≤ credit s := (h s).1 s le_rfl trivial
      exact ⟨less, (ih _ fun s₀ => (h s₀).2 _).mono (by omega)⟩

end Prog

namespace Pool

variable {σ ε L ι α : Type} [DecidableEq ι] {fault : L → ε → Prop}
  {cond : σ → ι → L → Prop}
  {credit : σ → ℤ} {charge : ι → α → ℤ} {c d : Pool σ ε L ι α}

theorem sum_update_le (s : Finset ι) (paid : ι → ℤ) (i : ι) {more : ℤ} (pos : 0 ≤ more) :
    ∑ j ∈ s, Function.update paid i (paid i + more) j ≤ ∑ j ∈ s, paid j + more := by
  by_cases mem : i ∈ s
  · have others := Finset.sum_update_of_mem mem paid (paid i + more)
    have split := Finset.sum_eq_add_sum_sdiff_singleton_of_mem mem paid
    omega
  · rw [Finset.sum_update_of_notMem mem]
    omega

/-- What each program has paid so far, and that the credit covers it. -/
theorem paid_reach (pays : ∀ i, (c.progs i).Pays credit (charge i) 0)
    (reach : Reach fault cond c d) :
    ∃ paid : ι → ℤ, (∀ i, 0 ≤ paid i ∧ (d.progs i).Pays credit (charge i) (paid i)) ∧
      ∀ s : Finset ι, ∑ i ∈ s, paid i + credit d.state ≤ credit c.state := by
  induction reach with
  | refl => exact ⟨fun _ => 0, fun i => ⟨le_rfl, pays i⟩, fun s => by simp⟩
  | @step d e _ step ih =>
      obtain ⟨paid, going, covered⟩ := ih
      cases step with
      | act i a k hp ready met =>
          obtain ⟨owed, here⟩ := going i
          rw [hp] at here
          obtain ⟨less, next⟩ := here.1 d.state
          have took : 0 ≤ credit d.state - credit (a.act d.state).2 := by omega
          refine ⟨Function.update paid i (paid i + (credit d.state - credit (a.act d.state).2)),
            fun j => ?_, fun s => ?_⟩
          · by_cases hj : j = i
            · subst hj
              simp only [Function.update_self]
              exact ⟨by omega, next⟩
            · simp only [Function.update_of_ne hj]
              exact going j
          · have before := covered s
            have after := sum_update_le s paid i took
            show _ + credit (a.act d.state).2 ≤ _
            omega
      | fail i a k err hp faulty =>
          refine ⟨paid, fun j => ?_, covered⟩
          by_cases hj : j = i
          · subst hj
            obtain ⟨owed, here⟩ := going j
            rw [hp] at here
            simp only [Function.update_self]
            exact ⟨owed, here.2 err⟩
          · simp only [Function.update_of_ne hj]
            exact going j

/-- The answers that have been given are covered. -/
theorem charged_reach (pays : ∀ i, (c.progs i).Pays credit (charge i) 0)
    (reach : Reach fault cond c d) (s : Finset ι) (answer : ι → α)
    (returned : ∀ i ∈ s, d.progs i = .ret (answer i)) :
    ∑ i ∈ s, charge i (answer i) + credit d.state ≤ credit c.state := by
  obtain ⟨paid, going, covered⟩ := paid_reach pays reach
  have charged : ∑ i ∈ s, charge i (answer i) ≤ ∑ i ∈ s, paid i := by
    refine Finset.sum_le_sum fun i mem => ?_
    have done := (going i).2
    rw [returned i mem] at done
    exact done
  have before := covered s
  omega

end Pool
end Tenantory
