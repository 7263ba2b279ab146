import Tenantory.EffectProgram
import Mathlib.Data.DFinsupp.WellFounded
import Mathlib.Logic.Function.Basic

/-! Interleavings of any number of programs over one shared state. A step lets
one program act (when its atom is ready) or fail. `Sim` verifies one program
at a time against a protocol: an invariant of the shared state and of a ghost
state for each program. A pool of verified programs keeps the invariant in
every interleaving, and can step until every program has returned. -/

namespace Tenantory

structure Pool (σ ε L ι α : Type) where
  state : σ
  progs : ι → Prog σ ε L α

namespace Pool

variable {σ ε L ι α : Type} [DecidableEq ι]

/-- One step of program `i`; `act` carries the state and label it starts from. -/
inductive Step (fault : L → ε → Prop) (cond : σ → ι → L → Prop) :
    Pool σ ε L ι α → Pool σ ε L ι α → Prop
  | act {β : Type} {c : Pool σ ε L ι α} (i : ι) (a : Atom σ ε L β)
      (k : Except ε β → Prog σ ε L α) : c.progs i = .atom a k → a.ready c.state = true →
      cond c.state i a.label →
      Step fault cond c ⟨(a.act c.state).2, Function.update c.progs i (k (a.act c.state).1)⟩
  | fail {β : Type} {c : Pool σ ε L ι α} (i : ι) (a : Atom σ ε L β)
      (k : Except ε β → Prog σ ε L α) (e : ε) : c.progs i = .atom a k →
        fault a.label e →
      Step fault cond c ⟨c.state, Function.update c.progs i (k (.error e))⟩

/-- Pools reached by any interleaving whose acting steps all meet `cond`. -/
inductive Reach (fault : L → ε → Prop) (cond : σ → ι → L → Prop)
    (c : Pool σ ε L ι α) :
    Pool σ ε L ι α → Prop
  | refl : Reach fault cond c c
  | step {d e : Pool σ ε L ι α} : Reach fault cond c d → Step fault cond d e →
      Reach fault cond c e

def result? : Prog σ ε L α → Option α
  | .ret a => some a
  | .atom _ _ => none

/-- What the two programs of a pool have returned. -/
def results (c : Pool σ ε L (Fin 2) α) : Option α × Option α :=
  (result? (c.progs 0), result? (c.progs 1))

/-- Every program has returned. -/
def Finished (c : Pool σ ε L ι α) : Prop := ∀ i, (result? (c.progs i)).isSome

theorem result?_eq_some {p : Prog σ ε L α} {a : α} : result? p = some a ↔ p = .ret a := by
  cases p <;> simp [result?]

/-! ## Invariants -/

/-- Programs that restore what they break, and which of them still have to. -/
def Owing (fault : L → ε → Prop) (cond : σ → ι → L → Prop) (Inv : σ → Prop)
    (c : Pool σ ε L ι α) (owes : ι → Bool) : Prop :=
  (∀ i, (c.progs i).Restores fault (fun s l => cond s i l) Inv (owes i)) ∧
    ((∀ i, owes i = false) → Inv c.state)

theorem owing_step {fault : L → ε → Prop} {cond : σ → ι → L → Prop} {Inv : σ → Prop}
    {c d : Pool σ ε L ι α} {owes : ι → Bool} (h : Owing fault cond Inv c owes)
    (step : Step fault cond c d) : ∃ owes', Owing fault cond Inv d owes' := by
  obtain ⟨restores, kept⟩ := h
  have continued : ∀ (i : ι) (p : Prog σ ε L α) (b : Bool),
      p.Restores fault (fun s l => cond s i l) Inv b → ∀ j,
        (Function.update c.progs i p j).Restores fault (fun s l => cond s j l) Inv
          (Function.update owes i b j) := by
    intro i p b hp j
    by_cases hj : j = i
    · subst hj
      rwa [Function.update_self, Function.update_self]
    · rw [Function.update_of_ne hj, Function.update_of_ne hj]
      exact restores j
  cases step with
  | act i a k hp _ met =>
      have here := restores i
      rw [hp] at here
      obtain ⟨b, rest, restored⟩ := here.1 _ met
      refine ⟨Function.update owes i b, continued i _ b rest, fun settled => ?_⟩
      have own := settled i
      rw [Function.update_self] at own
      refine restored own fun before => kept fun j => ?_
      by_cases hj : j = i
      · exact hj ▸ before
      · have other := settled j
        rwa [Function.update_of_ne hj] at other
  | fail i a k e hp faulty =>
      have here := restores i
      rw [hp] at here
      refine ⟨owes, fun j => ?_, kept⟩
      have same := continued i _ (owes i) (here.2 e faulty) j
      rwa [Function.update_eq_self] at same

theorem owing_reach {fault : L → ε → Prop} {cond : σ → ι → L → Prop}
    {Inv : σ → Prop}
    {c d : Pool σ ε L ι α} (start : ∃ owes, Owing fault cond Inv c owes)
    (reach : Reach fault cond c d) : ∃ owes, Owing fault cond Inv d owes := by
  induction reach with
  | refl => exact start
  | step _ step ih =>
      obtain ⟨owes, h⟩ := ih
      exact owing_step h step

/-- Once all programs have returned, what they restore holds. -/
theorem reach_restores {fault : L → ε → Prop} {cond : σ → ι → L → Prop}
    {I : σ → Prop}
    {c d : Pool σ ε L ι α} (start : I c.state)
    (restores : ∀ i, (c.progs i).Restores fault (fun s l => cond s i l) I false)
    (reach : Reach fault cond c d) (finished : d.Finished) : I d.state := by
  obtain ⟨owes, restores, kept⟩ :=
    owing_reach ⟨fun _ => false, restores, fun _ => start⟩ reach
  refine kept fun i => ?_
  obtain ⟨a, returned⟩ := Option.isSome_iff_exists.mp (finished i)
  have here := restores i
  rw [result?_eq_some.mp returned] at here
  exact here

/-! ## Termination -/

/-- A step replaces a program by one of its continuations. -/
inductive Below : Prog σ ε L α → Prog σ ε L α → Prop
  | answer {β : Type} (a : Atom σ ε L β) (k : Except ε β → Prog σ ε L α)
      (r : Except ε β) :
      Below (k r) (.atom a k)

theorem below_wellFounded : WellFounded (Below (σ := σ) (ε := ε) (L := L) (α := α)) := by
  refine ⟨fun p => ?_⟩
  induction p with
  | ret a => exact ⟨_, fun q below => nomatch below⟩
  | atom a k ih =>
      refine ⟨_, fun q below => ?_⟩
      cases below with
      | answer _ _ r => exact ih r

/-- Finitely many programs take finitely many steps, whatever the interleaving. -/
theorem step_wellFounded [Finite ι] (fault : L → ε → Prop) (cond : σ → ι → L → Prop) :
    WellFounded fun d c : Pool σ ε L ι α => Step fault cond c d := by
  have lex := Pi.Lex.wellFounded (WellOrderingRel (α := ι))
    fun _ : ι => below_wellFounded (σ := σ) (ε := ε) (L := L) (α := α)
  refine Subrelation.wf (fun {d c} step => ?_) (InvImage.wf Pool.progs lex)
  have replaced : ∃ i p, Below p (c.progs i) ∧ d.progs = Function.update c.progs i p := by
    cases step with
    | act i a k hp _ _ => exact ⟨i, _, hp ▸ .answer a k _, rfl⟩
    | fail i a k e hp _ => exact ⟨i, _, hp ▸ .answer a k _, rfl⟩
  obtain ⟨i, p, below, same⟩ := replaced
  refine ⟨i, fun j before => ?_, ?_⟩
  · have other : j ≠ i := fun eq => irrefl_of WellOrderingRel i (eq ▸ before)
    rw [same, Function.update_of_ne other]
  · rw [same, Function.update_self]
    exact below

/-! ## Running a schedule -/

/-- One acting step, if the atom is ready and passes the check. -/
def next (check : σ → ι → L → Bool) (c : Pool σ ε L ι α) (i : ι) :
    Option (Pool σ ε L ι α) :=
  match c.progs i with
  | .ret _ => none
  | .atom a k =>
      if a.ready c.state && check c.state i a.label then
        some ⟨(a.act c.state).2, Function.update c.progs i (k (a.act c.state).1)⟩
      else none

def schedule (check : σ → ι → L → Bool) (c : Pool σ ε L ι α) :
    List ι → Option (Pool σ ε L ι α)
  | [] => some c
  | i :: is => (c.next check i).bind fun d => d.schedule check is

variable {fault : L → ε → Prop} {check : σ → ι → L → Bool}

theorem step_of_next {c d : Pool σ ε L ι α} {i : ι} (h : c.next check i = some d) :
    Step fault (fun s i l => check s i l = true) c d := by
  unfold next at h
  split at h
  · cases h
  · rename_i a k hp
    split at h
    · rename_i able
      simp only [Bool.and_eq_true] at able
      cases h
      exact .act i a k hp able.1 able.2
    · cases h

theorem Reach.trans {cond : σ → ι → L → Prop} {c d e : Pool σ ε L ι α}
    (h : Reach fault cond c d) (h' : Reach fault cond d e) : Reach fault cond c e := by
  induction h' with
  | refl => exact h
  | step _ s ih => exact ih.step s

theorem Reach.mono {cond cond' : σ → ι → L → Prop} {c d : Pool σ ε L ι α}
    (h : Reach fault cond c d) (imp : ∀ s i l, cond s i l → cond' s i l) :
    Reach fault cond' c d := by
  induction h with
  | refl => exact .refl
  | step _ s ih =>
      refine ih.step ?_
      cases s with
      | act i a k hp ready met => exact .act i a k hp ready (imp _ _ _ met)
      | fail i a k e hp faulty => exact .fail i a k e hp faulty

theorem reach_of_schedule {c d : Pool σ ε L ι α} {is : List ι}
    (h : c.schedule check is = some d) :
    Reach fault (fun s i l => check s i l = true) c d := by
  induction is generalizing c with
  | nil => cases h; exact .refl
  | cons i is ih =>
      obtain ⟨e, he, hd⟩ := Option.bind_eq_some_iff.mp h
      exact (Reach.refl.step (step_of_next he)).trans (ih hd)

/-- What is seen of the last pool of a schedule is seen of a reached pool. -/
theorem exists_of_schedule {β : Type} {c : Pool σ ε L ι α} {is : List ι}
    {view : Pool σ ε L ι α → β} {b : β} (h : (c.schedule check is).map view = some b) :
    ∃ d, Reach fault (fun s i l => check s i l = true) c d ∧ view d = b := by
  obtain ⟨d, hd, seen⟩ := Option.map_eq_some_iff.mp h
  exact ⟨d, reach_of_schedule hd, seen⟩

end Pool

/-! ## Verification of one program against a protocol -/

/-- `inv` ties the shared state to the ghost states; `holds` marks the ghost
states of a program that others may have to wait for. -/
structure Protocol (σ ε L ι G : Type) where
  inv : σ → (ι → G) → Prop
  fault : L → ε → Prop
  cond : σ → ι → L → Prop
  holds : G → Prop

namespace Protocol

variable {σ ε L ι α β G : Type} [DecidableEq ι]

/-- Program `i` in ghost state `g` keeps the protocol until it returns, and then
leaves a ghost state and a value in `post`. -/
def Sim (P : Protocol σ ε L ι G) (i : ι) (post : G → α → Prop) :
    Prog σ ε L α → G → Prop
  | .ret a, g => post g a
  | .atom a k, g =>
      (∀ s γ, P.inv s γ → γ i = g → a.ready s = true ∨ ¬ P.holds g ∧ ∃ j,
        P.holds (γ j)) ∧
      (∀ s γ, P.inv s γ → γ i = g → a.ready s = true → P.cond s i a.label →
        ∃ g', P.inv (a.act s).2 (Function.update γ i g') ∧ P.Sim i post (k (a.act s).1) g') ∧
      (∀ e, P.fault a.label e → ∀ s γ, P.inv s γ → γ i = g →
        ∃ g', P.inv s (Function.update γ i g') ∧ P.Sim i post (k (.error e)) g')

variable {P : Protocol σ ε L ι G}

theorem Sim.mono {i : ι} {post post' : G → α → Prop} {p : Prog σ ε L α} {g : G}
    (h : P.Sim i post p g) (imp : ∀ g a, post g a → post' g a) : P.Sim i post' p g := by
  induction p generalizing g with
  | ret a => exact imp g a h
  | atom a k ih =>
      refine ⟨h.1, fun s γ inv hg ready cond => ?_, fun e he s γ inv hg => ?_⟩
      · obtain ⟨g', inv', sim⟩ := h.2.1 s γ inv hg ready cond
        exact ⟨g', inv', ih _ sim⟩
      · obtain ⟨g', inv', sim⟩ := h.2.2 e he s γ inv hg
        exact ⟨g', inv', ih _ sim⟩

theorem Sim.bind {i : ι} {post : G → β → Prop} {p : Prog σ ε L α}
    {f : α → Prog σ ε L β} {g : G}
    (h : P.Sim i (fun g' a => P.Sim i post (f a) g') p g) : P.Sim i post (p.bind f) g := by
  induction p generalizing g with
  | ret a => exact h
  | atom a k ih =>
      refine ⟨h.1, fun s γ inv hg ready cond => ?_, fun e he s γ inv hg => ?_⟩
      · obtain ⟨g', inv', sim⟩ := h.2.1 s γ inv hg ready cond
        exact ⟨g', inv', ih _ sim⟩
      · obtain ⟨g', inv', sim⟩ := h.2.2 e he s γ inv hg
        exact ⟨g', inv', ih _ sim⟩

/-- An atom that only reads leaves the ghost states alone. -/
theorem Sim.read {i : ι} {post : G → α → Prop} {a : Atom σ ε L β}
    {k : Except ε β → Prog σ ε L α}
    {g : G} (ready : ∀ s, a.ready s = true) (reads : ∀ s, (a.act s).2 = s)
    (answered : ∀ s γ, P.inv s γ → γ i = g → P.cond s i a.label →
      P.Sim i post (k (a.act s).1) g)
    (failed : ∀ e, P.fault a.label e → P.Sim i post (k (.error e)) g) :
    P.Sim i post (.atom a k) g := by
  refine ⟨fun s γ _ _ => .inl (ready s), fun s γ inv hg _ cond => ⟨g, ?_, ?_⟩,
    fun e he s γ inv hg => ⟨g, ?_, failed e he⟩⟩
  · rw [reads, ← hg, Function.update_eq_self]
    exact inv
  · exact answered s γ inv hg cond
  · rw [← hg, Function.update_eq_self]
    exact inv

/-- The pool's programs are simulated by ghost states that satisfy the invariant;
one that has returned holds nothing and meets `done`. -/
def Holds (P : Protocol σ ε L ι G) (done : ι → G → α → Prop) (c : Pool σ ε L ι α) :
    Prop :=
  ∃ γ, P.inv c.state γ ∧ ∀ i, P.Sim i (fun g a => done i g a ∧ ¬ P.holds g)
    (c.progs i) (γ i)

variable {done : ι → G → α → Prop}

theorem sim_update (post : ι → G → α → Prop) {progs : ι → Prog σ ε L α}
    {γ : ι → G} {i : ι}
    {p : Prog σ ε L α} {g : G} (h : ∀ j, P.Sim j (post j) (progs j) (γ j))
    (hp : P.Sim i (post i) p g) (j : ι) :
    P.Sim j (post j) (Function.update progs i p j) (Function.update γ i g j) := by
  by_cases hj : j = i
  · subst hj
    simpa using hp
  · simpa [Function.update_of_ne hj] using h j

theorem holds_step {c d : Pool σ ε L ι α} (h : P.Holds done c)
    (step : Pool.Step P.fault P.cond c d) : P.Holds done d := by
  obtain ⟨γ, inv, sim⟩ := h
  cases step with
  | act i a k hp ready cond =>
      have si := sim i
      rw [hp] at si
      obtain ⟨g', inv', sim'⟩ := si.2.1 c.state γ inv rfl ready cond
      exact ⟨_, inv', sim_update (fun i g a => done i g a ∧ ¬ P.holds g) sim sim'⟩
  | fail i a k e hp hf =>
      have si := sim i
      rw [hp] at si
      obtain ⟨g', inv', sim'⟩ := si.2.2 e hf c.state γ inv rfl
      exact ⟨_, inv', sim_update (fun i g a => done i g a ∧ ¬ P.holds g) sim sim'⟩

theorem holds_reach {c d : Pool σ ε L ι α} (h : P.Holds done c)
    (reach : Pool.Reach P.fault P.cond c d) : P.Holds done d := by
  induction reach with
  | refl => exact h
  | step _ s ih => exact holds_step ih s

/-- A program that has returned has met its final condition. -/
theorem Holds.returned {c : Pool σ ε L ι α} (h : P.Holds done c) :
    ∃ γ, P.inv c.state γ ∧ ∀ i a, c.progs i = .ret a → done i (γ i) a := by
  obtain ⟨γ, inv, sim⟩ := h
  refine ⟨γ, inv, fun i a ha => ?_⟩
  have si := sim i
  rw [ha] at si
  exact si.1

/-- A pool with an unfinished program has a program whose atom is ready: the
waiting programs wait for one that does not wait itself. -/
theorem Holds.progress {c : Pool σ ε L ι α} (h : P.Holds done c) (unfinished : ¬ c.Finished) :
    ∃ i, (c.next (fun _ _ _ => true) i).isSome := by
  obtain ⟨γ, inv, sim⟩ := h
  have able : ∀ i, (∀ β (a : Atom σ ε L β) k, c.progs i = .atom a k →
    a.ready c.state = true) →
      (Pool.result? (c.progs i)).isSome = false → (c.next (fun _ _ _ => true) i).isSome := by
    intro i ready hr
    unfold Pool.next
    cases hp : c.progs i with
    | ret a => simp [hp, Pool.result?] at hr
    | atom a k => simp [ready _ a k hp]
  obtain ⟨i, hi⟩ := not_forall.mp unfinished
  have hi' : (Pool.result? (c.progs i)).isSome = false := by simpa using hi
  cases hp : c.progs i with
  | ret a => simp [hp, Pool.result?] at hi'
  | atom a k =>
      have si := sim i
      rw [hp] at si
      rcases si.1 c.state γ inv rfl with ready | ⟨-, j, hj⟩
      · refine ⟨i, able i (fun β b l hb => ?_) hi'⟩
        rw [hp] at hb
        cases hb
        exact ready
      · have sj := sim j
        cases hq : c.progs j with
        | ret b =>
            rw [hq] at sj
            exact absurd hj sj.2
        | atom b l =>
            rw [hq] at sj
            refine ⟨j, able j (fun β b' l' hb => ?_) (by simp [hq, Pool.result?])⟩
            rw [hq] at hb
            cases hb
            exact (sj.1 c.state γ inv rfl).resolve_right fun w => w.1 hj

end Protocol
end Tenantory
