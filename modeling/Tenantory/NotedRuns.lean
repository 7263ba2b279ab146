import Tenantory.ProgramPool

/-! Programs under an observer, who takes notes of the atoms that act and of the states
in which they do. The notes are beside the state and do not touch it: the pool takes the
same steps with an observer as without one. What a program has seen earlier can be read
off the notes, and so be part of a condition on its later steps. -/

namespace Tenantory

variable {σ ε L α β H ι : Type}

namespace Prog

/-- The program with notes of its atoms. -/
def noted (note : L → σ → H → H) : Prog σ ε L α → Prog (σ × H) ε L α
  | ret a => ret a
  | atom a k => atom
      ⟨a.label, fun s => a.ready s.1, fun s =>
        ((a.act s.1).1, (a.act s.1).2, note a.label s.1 s.2)⟩
      fun r => (k r).noted note

variable {note : L → σ → H → H}

@[simp] theorem noted_ret (a : α) : (ret a : Prog σ ε L α).noted note = ret a := rfl

@[simp] theorem noted_bind (p : Prog σ ε L α) (f : α → Prog σ ε L β) :
    (p.bind f).noted note = (p.noted note).bind fun a => (f a).noted note := by
  induction p with
  | ret a => rfl
  | atom a k ih => exact congrArg (atom _) (funext ih)

theorem noted_eq_ret {p : Prog σ ε L α} {a : α} (h : p.noted note = ret a) : p = ret a := by
  cases p with
  | ret b =>
      cases h
      rfl
  | atom b k => cases h

end Prog

namespace Pool

variable [DecidableEq ι] {fault : L → ε → Prop} {note : ι → L → σ → H → H}
  {c d : Pool σ ε L ι α}

/-- The pool under an observer who has taken the notes `h` so far. -/
def noted (note : ι → L → σ → H → H) (h : H) (c : Pool σ ε L ι α) :
    Pool (σ × H) ε L ι α :=
  ⟨(c.state, h), fun i => (c.progs i).noted (note i)⟩

theorem noted_update (progs : ι → Prog σ ε L α) (i : ι) (p : Prog σ ε L α) :
    (fun j => (Function.update progs i p j).noted (note j)) =
      Function.update (fun j => (progs j).noted (note j)) i (p.noted (note i)) := by
  funext j
  by_cases same : j = i
  · subst same
    rw [Function.update_self, Function.update_self]
  · rw [Function.update_of_ne same, Function.update_of_ne same]

/-- A step under the observer is a step. -/
theorem step_of_noted {cond : σ × H → ι → L → Prop} {h : H} {e : Pool (σ × H) ε L ι α}
    (step : Step fault cond (c.noted note h) e) :
    ∃ d h', e = d.noted note h' ∧ Step fault (fun _ _ _ => True) c d := by
  cases step with
  | act i a k hp ready met =>
      cases here : c.progs i with
      | ret b =>
          have same : (c.progs i).noted (note i) = .atom a k := hp
          rw [here] at same
          cases same
      | atom b l =>
          have same : (c.progs i).noted (note i) = .atom a k := hp
          rw [here] at same
          cases same
          refine ⟨_, note i b.label c.state h, ?_, .act i b l here ready trivial⟩
          unfold noted
          rw [noted_update]
  | fail i a k e hp faulty =>
      cases here : c.progs i with
      | ret b =>
          have same : (c.progs i).noted (note i) = .atom a k := hp
          rw [here] at same
          cases same
      | atom b l =>
          have same : (c.progs i).noted (note i) = .atom a k := hp
          rw [here] at same
          cases same
          refine ⟨_, h, ?_, .fail i b l e here faulty⟩
          unfold noted
          rw [noted_update]

theorem reach_of_noted {cond : σ × H → ι → L → Prop} {h : H}
    {e : Pool (σ × H) ε L ι α}
    (reach : Reach fault cond (c.noted note h) e) :
    ∃ d h', e = d.noted note h' ∧ Reach fault (fun _ _ _ => True) c d := by
  induction reach with
  | refl => exact ⟨c, h, rfl, .refl⟩
  | step _ step ih =>
      obtain ⟨d, h', rfl, reach⟩ := ih
      obtain ⟨d', h'', rfl, next⟩ := step_of_noted step
      exact ⟨d', h'', rfl, reach.step next⟩

/-- Every step can be observed. -/
theorem noted_of_step (step : Step fault (fun _ _ _ => True) c d) (h : H) :
    ∃ h', Step fault (fun _ _ _ => True) (c.noted note h) (d.noted note h') := by
  cases step with
  | act i a k hp ready met =>
      refine ⟨note i a.label c.state h, ?_⟩
      have atom : (c.noted note h).progs i = (Prog.atom a k).noted (note i) :=
        congrArg (Prog.noted (note i)) hp
      unfold noted
      rw [noted_update]
      exact .act i _ _ atom ready trivial
  | fail i a k e hp faulty =>
      refine ⟨h, ?_⟩
      have atom : (c.noted note h).progs i = (Prog.atom a k).noted (note i) :=
        congrArg (Prog.noted (note i)) hp
      unfold noted
      rw [noted_update]
      exact .fail i _ _ e atom faulty

theorem noted_of_reach (reach : Reach fault (fun _ _ _ => True) c d) (h : H) :
    ∃ h', Reach fault (fun _ _ _ => True) (c.noted note h) (d.noted note h') := by
  induction reach with
  | refl => exact ⟨h, .refl⟩
  | step _ step ih =>
      obtain ⟨h', reach⟩ := ih
      obtain ⟨h'', next⟩ := noted_of_step step h'
      exact ⟨h'', reach.step next⟩

end Pool

namespace Protocol

variable [DecidableEq ι] {G : Type} {P : Protocol (σ × H) ε L ι G}
  {note : L → σ → H → H}

/-- One observed atom that is always ready. -/
theorem Sim.noted {i : ι} {post : G → α → Prop} {a : Atom σ ε L β}
    {k : Except ε β → Prog σ ε L α}
    {g : G} (ready : ∀ s, a.ready s = true)
    (acts : ∀ s h γ, P.inv (s, h) γ → γ i = g → P.cond (s, h) i a.label →
      ∃ g', P.inv ((a.act s).2, note a.label s h) (Function.update γ i g') ∧
        P.Sim i post ((k (a.act s).1).noted note) g')
    (fails : ∀ e, P.fault a.label e → ∀ s h γ, P.inv (s, h) γ → γ i = g →
      ∃ g', P.inv (s, h) (Function.update γ i g') ∧
        P.Sim i post ((k (.error e)).noted note) g') :
    P.Sim i post ((Prog.atom a k).noted note) g :=
  ⟨fun s _ _ _ => .inl (ready s.1), fun s γ inv hg _ cond => acts s.1 s.2 γ inv hg cond,
    fun e he s γ inv hg => fails e he s.1 s.2 γ inv hg⟩

end Protocol
end Tenantory
