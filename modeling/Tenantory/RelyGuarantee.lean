import Tenantory.ProgramPool

/-! Programs among others that act on the same state. Between two atoms of a program
the others may take any steps that its rely admits. The state gives out numbered
resources; a program owns those that it was given, and the rely of a program says
what the others leave to its owner. What every atom of a program keeps, the pool of
such programs keeps in every interleaving. -/

namespace Tenantory

structure Discipline (σ ε L : Type) where
  good : σ → Prop
  /-- resources with smaller numbers have been given out -/
  issued : σ → ℕ
  /-- the steps that the owner of the resources may see others take -/
  rely : (ℕ → Prop) → σ → σ → Prop
  fault : L → ε → Prop
  refl : ∀ own s, rely own s s
  trans : ∀ {own s t u}, rely own s t → rely own t u → rely own s u
  issued_le : ∀ {own s t}, rely own s t → issued s ≤ issued t

namespace Discipline

variable {σ ε L ι α β V : Type} (D : Discipline σ ε L)

/-- A step that an owner of `own` may take: everybody else may rely on it. -/
def Spares (own : ℕ → Prop) (s t : σ) : Prop :=
  ∀ others : ℕ → Prop, (∀ n, others n → n < D.issued s ∧ ¬ own n) → D.rely others s t

/-- What the owner of `own` owns after a step. -/
def acquired (own : ℕ → Prop) (s t : σ) : ℕ → Prop :=
  fun n => own n ∨ D.issued s ≤ n ∧ n < D.issued t

/-- Every atom of the program is safe where it acts, keeps the state good and spares
the others, whatever these do in between and whichever atoms fail. -/
def Keeps (safe : ∀ β : Type, Atom σ ε L β → σ → Prop) :
    Prog σ ε L α → ((ℕ → Prop) → α → σ → Prop) → (ℕ → Prop) → σ → Prop
  | .ret a, post, own, s => post own a s
  | .atom a k, post, own, s =>
      (safe _ a s ∧ D.good (a.act s).2 ∧ D.Spares own s (a.act s).2) ∧
      (∀ t, D.rely (D.acquired own s (a.act s).2) (a.act s).2 t → D.good t →
        Keeps safe (k (a.act s).1) post (D.acquired own s (a.act s).2) t) ∧
      ∀ e, D.fault a.label e → ∀ t, D.rely own s t → D.good t →
        Keeps safe (k (.error e)) post own t

variable {D} {safe : ∀ β : Type, Atom σ ε L β → σ → Prop}
  {post post' : (ℕ → Prop) → α → σ → Prop}
  {own : ℕ → Prop} {s t : σ}

theorem Keeps.mono {p : Prog σ ε L α} (h : D.Keeps safe p post own s)
    (imp : ∀ own a s, post own a s → post' own a s) : D.Keeps safe p post' own s := by
  induction p generalizing own s with
  | ret a => exact imp own a s h
  | atom a k ih =>
      exact ⟨h.1, fun t step good => ih _ (h.2.1 t step good),
        fun e he t step good => ih _ (h.2.2 e he t step good)⟩

theorem Keeps.bind {p : Prog σ ε L β} {f : β → Prog σ ε L α}
    (h : D.Keeps safe p (fun own b s => D.Keeps safe (f b) post own s) own s) :
    D.Keeps safe (p.bind f) post own s := by
  induction p generalizing own s with
  | ret a => exact h
  | atom a k ih =>
      exact ⟨h.1, fun t step good => ih _ (h.2.1 t step good),
        fun e he t step good => ih _ (h.2.2 e he t step good)⟩

/-- What everybody may rely on stays true beside a program, and the state stays good. -/
theorem Keeps.frame {p : Prog σ ε L α} {F : σ → Prop} (h : D.Keeps safe p post own s)
    (good : D.good s) (stable : ∀ own s t, D.rely own s t → F s → F t) (now : F s) :
    D.Keeps safe p (fun own a s => post own a s ∧ D.good s ∧ F s) own s := by
  induction p generalizing own s with
  | ret a => exact ⟨h, good, now⟩
  | atom a k ih =>
      refine ⟨h.1, fun t step good => ih _ (h.2.1 t step good) good ?_,
        fun e he t step good => ih _ (h.2.2 e he t step good) good (stable _ _ _ step now)⟩
      have spared := h.1.2.2 (fun _ => False) fun _ none => none.elim
      exact stable _ _ _ step (stable _ _ _ spared now)

/-! ## Pools -/

variable {guards : ι → ∀ β : Type, Atom σ ε L β → σ → Prop}

/-- Every program of the pool keeps the discipline from every state that the others may
bring about, and no resource has two owners. -/
def Disciplined (D : Discipline σ ε L)
    (guards : ι → ∀ β : Type, Atom σ ε L β → σ → Prop)
    (c : Pool σ ε L ι α) : Prop :=
  D.good c.state ∧ ∃ own : ι → ℕ → Prop,
    (∀ i j n, own i n → own j n → i = j) ∧ (∀ i n, own i n → n < D.issued c.state) ∧
    ∀ i t, D.rely (own i) c.state t → D.good t →
      D.Keeps (guards i) (c.progs i) (fun _ _ _ => True) (own i) t

theorem disciplined_start {s : σ} {progs : ι → Prog σ ε L α} (good : D.good s)
    (keeps : ∀ i t, D.good t → D.Keeps (guards i) (progs i) (fun _ _ _ => True)
    (fun _ => False) t) :
    D.Disciplined guards ⟨s, progs⟩ :=
  ⟨good, fun _ _ => False, fun _ _ _ none => none.elim, fun _ _ none => none.elim,
    fun i t _ good' => keeps i t good'⟩

variable [DecidableEq ι]

theorem disciplined_step {cond : σ → ι → L → Prop} {c d : Pool σ ε L ι α}
    (h : D.Disciplined guards c) (step : Pool.Step D.fault cond c d) : D.Disciplined guards d := by
  obtain ⟨good, own, apart, old, keeps⟩ := h
  cases step with
  | act i a k hp _ _ =>
      have here := keeps i c.state (D.refl _ _) good
      rw [hp] at here
      obtain ⟨⟨-, good', spares⟩, next, -⟩ := here
      have grows : D.issued c.state ≤ D.issued (a.act c.state).2 :=
        D.issued_le (spares (fun _ => False) fun _ none => none.elim)
      refine ⟨good', Function.update own i (D.acquired (own i) c.state (a.act c.state).2), ?_, ?_,
        ?_⟩
      · -- what program `i` has been given nobody had before
        have fresh : ∀ j n, j ≠ i → D.acquired (own i) c.state (a.act c.state).2 n →
            ¬ own j n := by
          intro j n hj mine theirs
          rcases mine with mine | ⟨new, -⟩
          · exact hj (apart j i n theirs mine)
          · have := old j n theirs
            omega
        intro j l n hj hl
        by_cases hji : j = i
        · by_cases hli : l = i
          · rw [hji, hli]
          · subst hji
            rw [Function.update_self] at hj
            rw [Function.update_of_ne hli] at hl
            exact absurd hl (fresh l n hli hj)
        · rw [Function.update_of_ne hji] at hj
          by_cases hli : l = i
          · subst hli
            rw [Function.update_self] at hl
            exact absurd hj (fresh j n hji hl)
          · rw [Function.update_of_ne hli] at hl
            exact apart j l n hj hl
      · intro j n hj
        show n < D.issued (a.act c.state).2
        by_cases hji : j = i
        · subst hji
          rw [Function.update_self] at hj
          rcases hj with mine | ⟨-, new⟩
          · have := old j n mine
            omega
          · exact new
        · rw [Function.update_of_ne hji] at hj
          have := old j n hj
          omega
      · intro j t step good''
        by_cases hji : j = i
        · subst hji
          simp only [Function.update_self] at step ⊢
          exact next t step good''
        · simp only [Function.update_of_ne hji] at step ⊢
          have spared := spares (own j) fun n theirs =>
            ⟨old j n theirs, fun mine => hji (apart j i n theirs mine)⟩
          exact keeps j t (D.trans spared step) good''
  | fail i a k e hp faulty =>
      refine ⟨good, own, apart, old, fun j t step good' => ?_⟩
      by_cases hji : j = i
      · subst hji
        have here := keeps j c.state (D.refl _ _) good
        rw [hp] at here
        simp only [Function.update_self]
        exact here.2.2 e faulty t step good'
      · simp only [Function.update_of_ne hji]
        exact keeps j t step good'

theorem disciplined_reach {cond : σ → ι → L → Prop} {c d : Pool σ ε L ι α}
    (h : D.Disciplined guards c) (reach : Pool.Reach D.fault cond c d) :
    D.Disciplined guards d := by
  induction reach with
  | refl => exact h
  | step _ s ih => exact disciplined_step ih s

end Discipline
end Tenantory
