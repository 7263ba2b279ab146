import Tenantory.ProgramPool

/-! Interleavings in which each program has a past: the states that its own steps were taken
in. What a program has looked up there may be out of date at a later step; a condition on the
run says what the others have left as it was. A program attests facts of its steps, given the
condition, the state's invariant and what every step relies on; where the facts are all that
its atoms need to keep the invariant, every interleaving keeps it. -/

namespace Tenantory

namespace Pool

variable {σ ε L ι α : Type} [DecidableEq ι]

/-- Pools reached by any interleaving, with the past of each program. Every acting step meets
`cond` for the past of its program. -/
inductive Traced (fault : L → ε → Prop) (cond : List σ → σ → L → Prop)
    (c : Pool σ ε L ι α) :
    (ι → List σ) → Pool σ ε L ι α → Prop
  | refl : Traced fault cond c (fun _ => []) c
  | act {β : Type} {past : ι → List σ} {d : Pool σ ε L ι α} (i : ι) (a : Atom σ ε L β)
      (k : Except ε β → Prog σ ε L α) : Traced fault cond c past d →
        d.progs i = .atom a k →
      a.ready d.state = true → cond (past i) d.state a.label →
      Traced fault cond c (Function.update past i (past i ++ [d.state]))
        ⟨(a.act d.state).2, Function.update d.progs i (k (a.act d.state).1)⟩
  | fail {β : Type} {past : ι → List σ} {d : Pool σ ε L ι α} (i : ι) (a : Atom σ ε L β)
      (k : Except ε β → Prog σ ε L α) (e : ε) : Traced fault cond c past d →
      d.progs i = .atom a k → fault a.label e →
      Traced fault cond c past ⟨d.state, Function.update d.progs i (k (.error e))⟩

end Pool

/-- What programs that interleave go by. -/
structure Terms (σ ε L : Type) where
  fault : L → ε → Prop
  /-- what is asked of an acting step, given the past of its program -/
  cond : List σ → σ → L → Prop
  good : σ → Prop
  /-- what every step makes of a state, whoever takes it -/
  rely : σ → σ → Prop
  refl : ∀ s, rely s s
  /-- the fact that a step acts on -/
  holds : σ → L → Prop

namespace Prog

variable {σ ε L α β : Type} {T : Terms σ ε L}

/-- Wherever an atom of the program acts under the condition, in a good state that can be
relied on to have come from those of the past, its fact holds; `post` is about the past that
the program ends with. -/
def Attests (T : Terms σ ε L) : Prog σ ε L α → (List σ → α → Prop) → List σ → Prop
  | ret a, post, past => post past a
  | atom a k, post, past =>
      (∀ s, T.good s → (∀ u ∈ past, T.rely u s) → T.cond past s a.label →
        T.holds s a.label ∧ Attests T (k (a.act s).1) post (past ++ [s])) ∧
      ∀ e, T.fault a.label e → Attests T (k (.error e)) post past

theorem Attests.mono {p : Prog σ ε L α} {post post' : List σ → α → Prop} {past : List σ}
    (h : p.Attests T post past)
    (imp : ∀ past a, post past a → post' past a) :
    p.Attests T post' past := by
  induction p generalizing past with
  | ret a => exact imp past a h
  | atom a k ih =>
      refine ⟨fun s here relied met => ?_, fun e faulty => ih _ (h.2 e faulty)⟩
      obtain ⟨fact, rest⟩ := h.1 s here relied met
      exact ⟨fact, ih _ rest⟩

theorem Attests.bind {p : Prog σ ε L β} {f : β → Prog σ ε L α}
    {post : List σ → α → Prop}
    {past : List σ} (h : p.Attests T
      (fun past b => (f b).Attests T post past) past) :
    (p.bind f).Attests T post past := by
  induction p generalizing past with
  | ret b => exact h
  | atom a k ih =>
      refine ⟨fun s here relied met => ?_, fun e faulty => ih _ (h.2 e faulty)⟩
      obtain ⟨fact, rest⟩ := h.1 s here relied met
      exact ⟨fact, ih _ rest⟩

theorem guarded_trivial {holds : σ → L → Prop} (p : Prog σ ε L α) :
    p.Guarded holds fun _ => True := by
  induction p with
  | ret a => trivial
  | atom a k ih => exact ⟨fun _ _ _ => trivial, ih⟩

/-- An invariant that is kept from state to state along the steps of a program. -/
theorem guarded_of_steps {holds : σ → L → Prop} {R : σ → σ → Prop} {Inv : σ → Prop}
    {p : Prog σ ε L α} (refl : ∀ s, R s s) (kept : ∀ {s t}, R s t → Inv s → Inv t)
    (steps : ∀ s₀, p.Guarded holds (R s₀)) : p.Guarded holds Inv := by
  induction p with
  | ret a => trivial
  | atom a k ih =>
      exact ⟨fun s inv fact => kept ((steps s).1 s (refl s) fact) inv,
        fun r => ih r fun s₀ => (steps s₀).2 r⟩

end Prog

namespace Pool

variable {σ ε L ι α : Type} [DecidableEq ι] {T : Terms σ ε L}

/-- The programs attest from their pasts on, and all that has been seen can be relied on. -/
structure Attesting (T : Terms σ ε L) (past : ι → List σ) (d : Pool σ ε L ι α) :
    Prop where
  state : T.good d.state
  relied : ∀ i, ∀ u ∈ past i, T.rely u d.state
  keeps : ∀ i, (d.progs i).Guarded T.holds T.good
  relies : ∀ u i, (d.progs i).Guarded T.holds (T.rely u)
  attests : ∀ i, (d.progs i).Attests T (fun _ _ => True) (past i)

/-- One program has been replaced by a continuation of it. -/
theorem guarded_continued {Inv : σ → Prop} {progs : ι → Prog σ ε L α} {i : ι} {β : Type}
    {a : Atom σ ε L β} {k : Except ε β → Prog σ ε L α}
    (keeps : ∀ j, (progs j).Guarded T.holds Inv)
    (hp : progs i = .atom a k) (r : Except ε β) (j : ι) :
    (Function.update progs i (k r) j).Guarded T.holds Inv := by
  have own := keeps i
  rw [hp] at own
  exact (Function.forall_update_iff progs fun _ p => p.Guarded T.holds Inv).mpr
    ⟨own.2 r, fun j _ => keeps j⟩ j

theorem attesting_act {β : Type} {past : ι → List σ} {d : Pool σ ε L ι α} {i : ι}
    {a : Atom σ ε L β} {k : Except ε β → Prog σ ε L α} (h : d.Attesting T past)
    (hp : d.progs i = .atom a k)
    (met : T.cond (past i) d.state a.label) :
    T.holds d.state a.label ∧ Attesting T
      (Function.update past i (past i ++ [d.state]))
      ⟨(a.act d.state).2, Function.update d.progs i (k (a.act d.state).1)⟩ := by
  have here := h.attests i
  rw [hp] at here
  obtain ⟨fact, rest⟩ := here.1 d.state h.state (h.relied i) met
  have kept : ∀ Inv : σ → Prop, (∀ j, (d.progs j).Guarded T.holds Inv) → Inv d.state →
      Inv (a.act d.state).2 := by
    intro Inv keeps inv
    have own := keeps i
    rw [hp] at own
    exact own.1 d.state inv fact
  refine ⟨fact, kept T.good h.keeps h.state, ?_, guarded_continued h.keeps hp _,
    fun u => guarded_continued (h.relies u) hp _, fun j => ?_⟩
  · refine (Function.forall_update_iff past fun _ seen => ∀ u ∈ seen, T.rely u _).mpr
      ⟨fun u seen => kept (T.rely u) (h.relies u) ?_,
        fun j _ u seen => kept (T.rely u) (h.relies u) (h.relied j u seen)⟩
    rcases List.mem_append.mp seen with before | now
    · exact h.relied i u before
    · rw [List.mem_singleton.mp now]
      exact T.refl d.state
  · dsimp only
    by_cases hj : j = i
    · subst hj
      rw [Function.update_self, Function.update_self]
      exact rest
    · rw [Function.update_of_ne hj, Function.update_of_ne hj]
      exact h.attests j

theorem attesting_fail {β : Type} {past : ι → List σ} {d : Pool σ ε L ι α} {i : ι}
    {a : Atom σ ε L β} {k : Except ε β → Prog σ ε L α} {e : ε}
    (h : d.Attesting T past) (hp : d.progs i = .atom a k)
    (faulty : T.fault a.label e) : Attesting T past
      ⟨d.state, Function.update d.progs i (k (.error e))⟩ := by
  have here := h.attests i
  rw [hp] at here
  exact ⟨h.state, h.relied, guarded_continued h.keeps hp _,
    fun u => guarded_continued (h.relies u) hp _,
    (Function.forall_update_iff d.progs fun j p =>
      p.Attests T (fun _ _ => True) (past j)).mpr
        ⟨here.2 e faulty, fun j _ => h.attests j⟩⟩

/-- What the programs attest is so in the whole run, which keeps what their atoms keep. -/
theorem attesting_traced {c d : Pool σ ε L ι α} {past : ι → List σ}
    (start : c.Attesting T fun _ => [])
    (run : Traced T.fault T.cond c past d) :
    Reach T.fault (fun s _ l => T.holds s l) c d ∧ d.Attesting T past := by
  induction run with
  | refl => exact ⟨.refl, start⟩
  | act i a k _ hp ready met ih =>
      obtain ⟨fact, after⟩ := attesting_act ih.2 hp met
      exact ⟨ih.1.step (.act i a k hp ready fact), after⟩
  | fail i a k e _ hp faulty ih =>
      exact ⟨ih.1.step (.fail i a k e hp faulty), attesting_fail ih.2 hp faulty⟩

/-! ## Running a schedule -/

/-- One acting step under a check that sees the past of its program. -/
def nextTraced (check : List σ → σ → L → Bool) (past : ι → List σ)
    (d : Pool σ ε L ι α) (i : ι) :
    Option ((ι → List σ) × Pool σ ε L ι α) :=
  match d.progs i with
  | .ret _ => none
  | .atom a k =>
      if a.ready d.state && check (past i) d.state a.label then
        some (Function.update past i (past i ++ [d.state]),
          ⟨(a.act d.state).2, Function.update d.progs i (k (a.act d.state).1)⟩)
      else none

def scheduleTraced (check : List σ → σ → L → Bool) :
    (ι → List σ) → Pool σ ε L ι α → List ι → Option (Pool σ ε L ι α)
  | _, d, [] => some d
  | past, d, i :: is =>
      match nextTraced check past d i with
      | none => none
      | some (past, d) => scheduleTraced check past d is

variable {fault : L → ε → Prop} {check : List σ → σ → L → Bool}

theorem traced_of_schedule {c d e : Pool σ ε L ι α} {past : ι → List σ} {is : List ι}
    (run : Traced fault (fun past s l => check past s l = true) c past d)
    (h : scheduleTraced check past d is = some e) :
    ∃ past, Traced fault (fun past s l => check past s l = true) c past e := by
  induction is generalizing past d with
  | nil =>
      cases h
      exact ⟨past, run⟩
  | cons i is ih =>
      rw [scheduleTraced] at h
      unfold nextTraced at h
      split at h
      · cases h
      · rename_i past' d' step
        split at step
        · cases step
        · rename_i a k hp
          split at step
          · rename_i able
            rw [Bool.and_eq_true] at able
            cases step
            exact ih (run.act i a k hp able.1 able.2) h
          · cases step

theorem Traced.mono {cond cond' : List σ → σ → L → Prop} {c d : Pool σ ε L ι α}
    {past : ι → List σ}
    (h : Traced fault cond c past d) (imp : ∀ past s l, cond past s l → cond' past s l) :
    Traced fault cond' c past d := by
  induction h with
  | refl => exact .refl
  | act i a k _ hp ready met ih => exact ih.act i a k hp ready (imp _ _ _ met)
  | fail i a k e _ hp faulty ih => exact ih.fail i a k e hp faulty

/-- What is seen of the last pool of a schedule is seen of a pool that it has come to. -/
theorem exists_of_scheduleTraced {β : Type} {c : Pool σ ε L ι α} {is : List ι}
    {view : Pool σ ε L ι α → β} {b : β}
    (h : (scheduleTraced check (fun _ => []) c is).map view = some b) :
    ∃ past d, Traced fault (fun past s l => check past s l = true) c past d ∧ view d = b := by
  obtain ⟨d, hd, seen⟩ := Option.map_eq_some_iff.mp h
  obtain ⟨past, run⟩ := traced_of_schedule .refl hd
  exact ⟨past, d, run, seen⟩

end Pool
end Tenantory
