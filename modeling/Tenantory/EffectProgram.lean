import Mathlib.Control.Basic
import Mathlib.Logic.Basic

/-! Finite programs over atomic actions of a shared state. An atom carries a
label, a readiness test (a false test means the caller has to wait) and the
action; it answers with a value or an error. The same program text has three
meanings: a serial run, a run in which atoms may fail instead of acting, and
(in `ProgramPool`) an interleaving with other programs. -/

namespace Tenantory

structure Atom (σ ε L β : Type) where
  label : L
  ready : σ → Bool
  act : σ → Except ε β × σ

inductive Prog (σ ε L α : Type) : Type 1
  | ret (a : α)
  | atom {β : Type} (a : Atom σ ε L β) (k : Except ε β → Prog σ ε L α)

namespace Prog

variable {σ ε L α β γ : Type}

def bind : Prog σ ε L α → (α → Prog σ ε L β) → Prog σ ε L β
  | ret a, f => f a
  | atom a k, f => atom a fun r => (k r).bind f

instance : Monad (Prog σ ε L) where
  pure := ret
  bind := bind

@[simp] theorem pure_eq (a : α) : (pure a : Prog σ ε L α) = ret a := rfl

@[simp] theorem bind_eq (p : Prog σ ε L α) (f : α → Prog σ ε L β) :
    p >>= f = p.bind f := rfl

@[simp] theorem ret_bind (a : α) (f : α → Prog σ ε L β) : (ret a).bind f = f a := rfl

@[simp] theorem atom_bind {δ : Type} (a : Atom σ ε L δ) (k : Except ε δ → Prog σ ε L α)
    (f : α → Prog σ ε L β) : (atom a k).bind f = atom a fun r => (k r).bind f := rfl

theorem bind_ret (p : Prog σ ε L α) : p.bind ret = p := by
  induction p with
  | ret a => rfl
  | atom a k ih =>
      rw [atom_bind]
      congr 1
      funext r
      exact ih r

theorem bind_assoc (p : Prog σ ε L α) (f : α → Prog σ ε L β) (g : β → Prog σ ε L γ) :
    (p.bind f).bind g = p.bind fun a => (f a).bind g := by
  induction p with
  | ret a => rfl
  | atom a k ih =>
      simp only [atom_bind]
      congr 1
      funext r
      exact ih r

instance : LawfulMonad (Prog σ ε L) :=
  LawfulMonad.mk' _ (fun p => bind_ret p) (fun _ _ => rfl) (fun p f g => bind_assoc p f g)

/-! ## Serial runs -/

def run : Prog σ ε L α → σ → α × σ
  | ret a, s => (a, s)
  | atom a k, s => (k (a.act s).1).run (a.act s).2

@[simp] theorem run_ret (a : α) (s : σ) : (ret a : Prog σ ε L α).run s = (a, s) := rfl

@[simp] theorem run_atom {δ : Type} (a : Atom σ ε L δ)
    (k : Except ε δ → Prog σ ε L α) (s : σ) :
    (atom a k).run s = (k (a.act s).1).run (a.act s).2 := rfl

@[simp] theorem run_bind (p : Prog σ ε L α) (f : α → Prog σ ε L β) (s : σ) :
    (p.bind f).run s = (f (p.run s).1).run (p.run s).2 := by
  induction p generalizing s with
  | ret a => rfl
  | atom a k ih => exact ih _ _

/-! ## Runs with failing atoms

`fault l e` says that an atom labelled `l` may answer with the error `e`
instead of acting. -/

inductive Exec (fault : L → ε → Prop) : Prog σ ε L α → σ → α → σ → Prop
  | ret (a : α) (s : σ) : Exec fault (ret a) s a s
  | act {δ : Type} {a : Atom σ ε L δ} {k : Except ε δ → Prog σ ε L α}
      {s s' : σ} {x : α} :
      Exec fault (k (a.act s).1) (a.act s).2 x s' → Exec fault (atom a k) s x s'
  | fail {δ : Type} {a : Atom σ ε L δ} {k : Except ε δ → Prog σ ε L α}
      {s s' : σ} {x : α}
      (e : ε) : fault a.label e → Exec fault (k (.error e)) s x s' →
        Exec fault (atom a k) s x s'

theorem Exec.bind {fault : L → ε → Prop} {p : Prog σ ε L α}
    {f : α → Prog σ ε L β} {s t u : σ}
    {a : α} {b : β} (h : Exec fault p s a t) (h' : Exec fault (f a) t b u) :
    Exec fault (p.bind f) s b u := by
  induction h with
  | ret a s => exact h'
  | act _ ih => exact .act (ih h')
  | fail e faulty _ ih => exact .fail e faulty (ih h')

theorem Exec.mono {fault fault' : L → ε → Prop} {p : Prog σ ε L α} {s s' : σ} {x : α}
    (h : Exec fault p s x s') (imp : ∀ l e, fault l e → fault' l e) : Exec fault' p s x s' := by
  induction h with
  | ret a s => exact .ret a s
  | act _ ih => exact .act ih
  | fail e faulty _ ih => exact .fail e (imp _ _ faulty) ih

theorem Exec.of_bind {fault : L → ε → Prop} {p : Prog σ ε L α}
    {f : α → Prog σ ε L β} {s u : σ}
    {b : β} (h : Exec fault (p.bind f) s b u) :
    ∃ a t, Exec fault p s a t ∧ Exec fault (f a) t b u := by
  induction p generalizing s with
  | ret a => exact ⟨a, s, .ret a s, h⟩
  | atom a k ih =>
      cases h with
      | act rest =>
          obtain ⟨x, t, first, last⟩ := ih _ rest
          exact ⟨x, t, .act first, last⟩
      | fail e faulty rest =>
          obtain ⟨x, t, first, last⟩ := ih _ rest
          exact ⟨x, t, .fail e faulty first, last⟩

/-- Weakest precondition: `post` holds however the faults fall. -/
def wp (fault : L → ε → Prop) : Prog σ ε L α → (α → σ → Prop) → σ → Prop
  | ret a, post, s => post a s
  | atom a k, post, s =>
      wp fault (k (a.act s).1) post (a.act s).2 ∧
        ∀ e, fault a.label e → wp fault (k (.error e)) post s

variable {fault : L → ε → Prop}

@[simp] theorem wp_ret (a : α) (post : α → σ → Prop) (s : σ) :
    (ret a : Prog σ ε L α).wp fault post s ↔ post a s := Iff.rfl

@[simp] theorem wp_atom {δ : Type} (a : Atom σ ε L δ) (k : Except ε δ → Prog σ ε L α)
    (post : α → σ → Prop) (s : σ) :
    (atom a k).wp fault post s ↔ (k (a.act s).1).wp fault post (a.act s).2 ∧
      ∀ e, fault a.label e → (k (.error e)).wp fault post s := Iff.rfl

@[simp] theorem wp_bind (p : Prog σ ε L α) (f : α → Prog σ ε L β)
    (post : β → σ → Prop) (s : σ) :
    (p.bind f).wp fault post s ↔ p.wp fault (fun a s' => (f a).wp fault post s') s := by
  induction p generalizing s with
  | ret a => rfl
  | atom a k ih =>
      simp only [atom_bind, wp_atom, ih]

theorem wp_mono {p : Prog σ ε L α} {post post' : α → σ → Prop} {s : σ}
    (h : p.wp fault post s) (imp : ∀ a s', post a s' → post' a s') : p.wp fault post' s := by
  induction p generalizing s with
  | ret a => exact imp a s h
  | atom a k ih => exact ⟨ih _ h.1, fun e he => ih _ (h.2 e he)⟩

/-- The calculus is adequate for the runs it speaks about. -/
theorem wp_exec {p : Prog σ ε L α} {post : α → σ → Prop} {s s' : σ} {x : α}
    (h : p.wp fault post s) (run : Exec fault p s x s') : post x s' := by
  induction run with
  | ret a s => exact h
  | act _ ih => exact ih h.1
  | fail e he _ ih => exact ih (h.2 e he)

/-- The serial run is one of the runs with faults. -/
theorem exec_run (p : Prog σ ε L α) (s : σ) : Exec fault p s (p.run s).1 (p.run s).2 := by
  induction p generalizing s with
  | ret a => exact .ret a s
  | atom a k ih => exact .act (ih _ _)

/-- The run in which each atom that `fails` names answers with its error instead of
acting. -/
def runFailing (fails : L → Option ε) : Prog σ ε L α → σ → α × σ
  | ret a, s => (a, s)
  | atom a k, s =>
      match fails a.label with
      | some e => (k (.error e)).runFailing fails s
      | none => (k (a.act s).1).runFailing fails (a.act s).2

theorem exec_runFailing (fails : L → Option ε) (p : Prog σ ε L α) (s : σ) :
    Exec (fun l e => fails l = some e) p s (p.runFailing fails s).1 (p.runFailing fails s).2 := by
  induction p generalizing s with
  | ret a => exact .ret a s
  | atom a k ih =>
      rw [runFailing]
      split
      · rename_i e failed
        exact .fail e failed (ih _ _)
      · exact .act (ih _ _)

theorem runFailing_bind (fails : L → Option ε) (p : Prog σ ε L α)
    (f : α → Prog σ ε L β) (s : σ) :
    (p.bind f).runFailing fails s =
      (f (p.runFailing fails s).1).runFailing fails (p.runFailing fails s).2 := by
  induction p generalizing s with
  | ret a => rfl
  | atom a k ih =>
      simp only [atom_bind, runFailing]
      split
      · exact ih _ _
      · exact ih _ _

/-! ## Recorded runs -/

section Recorded

variable {M : Type} (mark : L → Option M)

/-- The program next to a record, in which each atom that acts and answers leaves the
mark of its label. -/
def recorded : Prog σ ε L α → Prog (σ × List M) ε L α
  | ret a => ret a
  | atom a k =>
      atom
        { label := a.label
          ready := fun s => a.ready s.1
          act := fun s => match a.act s.1 with
            | (.ok b, t) => (.ok b, t, s.2 ++ (mark a.label).toList)
            | (.error e, t) => (.error e, t, s.2) }
        fun r => (k r).recorded

theorem recorded_bind (p : Prog σ ε L α) (f : α → Prog σ ε L β) :
    (p.bind f).recorded mark = (p.recorded mark).bind fun a => (f a).recorded mark := by
  induction p with
  | ret a => rfl
  | atom a k ih =>
      simp only [atom_bind, recorded]
      congr 1
      funext r
      exact ih r

end Recorded

/-! ## Programs that throw -/

instance : MonadFinally (Prog σ ε L) where
  tryFinally' p f := p.bind fun a => (f (some a)).bind fun b => ret (a, b)

section Throwing

variable {post : Except ε β → σ → Prop} {s : σ}

theorem wp_run_bind {p : ExceptT ε (Prog σ ε L) α} {f : α → ExceptT ε (Prog σ ε L) β}
    (h : p.run.wp fault (fun r s' => match r with
      | .ok a => (f a).run.wp fault post s'
      | .error e => post (.error e) s') s) : (p >>= f).run.wp fault post s := by
  change (p.run.bind _).wp fault post s
  rw [wp_bind]
  refine wp_mono h fun r s' h => ?_
  cases r with
  | ok a => exact h
  | error e => exact h

theorem wp_run_tryCatch {p : ExceptT ε (Prog σ ε L) β}
    {handle : ε → ExceptT ε (Prog σ ε L) β}
    (h : p.run.wp fault (fun r s' => match r with
      | .ok a => post (.ok a) s'
      | .error e => (handle e).run.wp fault post s') s) :
    (tryCatch p handle).run.wp fault post s := by
  change (p.run.bind _).wp fault post s
  rw [wp_bind]
  refine wp_mono h fun r s' h => ?_
  cases r with
  | ok a => exact h
  | error e => exact h

/-- An error of the clean-up takes the place of what the program has answered. -/
theorem wp_run_tryFinally {p : ExceptT ε (Prog σ ε L) β}
    {cleanup : ExceptT ε (Prog σ ε L) γ}
    (h : p.run.wp fault (fun r => cleanup.run.wp fault fun c s' => match c with
      | .ok _ => post r s'
      | .error e => post (.error e) s') s) : (tryFinally p cleanup).run.wp fault post s := by
  have unfolded : (tryFinally p cleanup).run = p.run.bind fun r => cleanup.run.bind fun c =>
      ret (match c with
        | .ok _ => r
        | .error e => .error e) := by
    change ((p.run.bind _).bind _).bind _ = _
    rw [bind_assoc, bind_assoc]
    congr 1
    funext r
    cases r with
    | ok a =>
        change (cleanup.run.bind _).bind _ = _
        rw [bind_assoc]
        congr 1
        funext c
        cases c <;> rfl
    | error e =>
        change (cleanup.run.bind _).bind _ = _
        rw [bind_assoc]
        congr 1
        funext c
        cases c <;> rfl
  rw [unfolded, wp_bind]
  refine wp_mono h fun r s' h => ?_
  rw [wp_bind]
  refine wp_mono h fun c s' h => ?_
  cases c with
  | ok b => exact h
  | error e => exact h

/-! The run with failing atoms, step by step. -/

section Failing

variable (fails : L → Option ε) (s : σ)

theorem runFailing_run_bind (p : ExceptT ε (Prog σ ε L) α)
    (f : α → ExceptT ε (Prog σ ε L) β) :
    (p >>= f).run.runFailing fails s = match p.run.runFailing fails s with
      | (.ok a, s') => (f a).run.runFailing fails s'
      | (.error e, s') => (.error e, s') := by
  change (p.run.bind _).runFailing fails s = _
  rw [runFailing_bind]
  generalize p.run.runFailing fails s = out
  obtain ⟨r, s'⟩ := out
  cases r <;> rfl

theorem runFailing_run_tryCatch (p : ExceptT ε (Prog σ ε L) β)
    (handle : ε → ExceptT ε (Prog σ ε L) β) :
    (tryCatch p handle).run.runFailing fails s = match p.run.runFailing fails s with
      | (.ok a, s') => (.ok a, s')
      | (.error e, s') => (handle e).run.runFailing fails s' := by
  change (p.run.bind _).runFailing fails s = _
  rw [runFailing_bind]
  generalize p.run.runFailing fails s = out
  obtain ⟨r, s'⟩ := out
  cases r <;> rfl

/-- One atom, whose error is thrown. -/
theorem runFailing_throwing (a : Atom σ ε L β) :
    (ExceptT.mk (atom a ret)).run.runFailing fails s = match fails a.label with
      | some e => (.error e, s)
      | none => a.act s := by
  change (atom a ret).runFailing fails s = _
  rw [runFailing]
  cases fails a.label <;> rfl

end Failing

end Throwing

/-! ## What every atom of a program keeps -/

/-- Every atom of the program keeps `Inv` where `cond` admits it, whatever the atoms
before it have answered. -/
def Guarded (cond : σ → L → Prop) (Inv : σ → Prop) : Prog σ ε L α → Prop
  | ret _ => True
  | atom a k =>
      (∀ s, Inv s → cond s a.label → Inv (a.act s).2) ∧ ∀ r, Guarded cond Inv (k r)

variable {cond : σ → L → Prop} {Inv : σ → Prop}

@[simp] theorem guarded_ret (a : α) : (ret a : Prog σ ε L α).Guarded cond Inv := trivial

@[simp] theorem guarded_atom {δ : Type} (a : Atom σ ε L δ)
    (k : Except ε δ → Prog σ ε L α) :
    (atom a k).Guarded cond Inv ↔ (∀ s, Inv s → cond s a.label → Inv (a.act s).2) ∧
      ∀ r, (k r).Guarded cond Inv := Iff.rfl

theorem guarded_bind {p : Prog σ ε L α} {f : α → Prog σ ε L β} (hp : p.Guarded cond Inv)
    (hf : ∀ a, (f a).Guarded cond Inv) : (p.bind f).Guarded cond Inv := by
  induction p with
  | ret a => exact hf a
  | atom a k ih => exact ⟨hp.1, fun r => ih r (hp.2 r)⟩

/-- Run by itself, the program keeps what each of its atoms keeps. -/
theorem guarded_run {p : Prog σ ε L α} (h : p.Guarded (fun _ _ => True) Inv) {s : σ}
    (inv : Inv s) : Inv (p.run s).2 := by
  induction p generalizing s with
  | ret a => exact inv
  | atom a k ih => exact ih _ (h.2 _) (h.1 s inv trivial)

/-! ## Programs that make up for what they break -/

/-- The program may break `Inv` and then restores it before it returns; `owes` says
whether it still has to. An atom that fails does not act. -/
def Restores (fault : L → ε → Prop) (cond : σ → L → Prop) (Inv : σ → Prop) :
    Prog σ ε L α → Bool → Prop
  | ret _, owes => owes = false
  | atom a k, owes =>
      (∀ s, cond s a.label → ∃ owes', Restores fault cond Inv (k (a.act s).1) owes' ∧
        (owes' = false → (owes = false → Inv s) → Inv (a.act s).2)) ∧
      ∀ e, fault a.label e → Restores fault cond Inv (k (.error e)) owes

theorem restores_of_guarded {p : Prog σ ε L α} (h : p.Guarded cond Inv) :
    p.Restores fault cond Inv false := by
  induction p with
  | ret a => rfl
  | atom a k ih =>
      exact ⟨fun s met => ⟨false, ih _ (h.2 _), fun _ inv => h.1 s (inv rfl) met⟩,
        fun e _ => ih _ (h.2 _)⟩

theorem restores_bind {p : Prog σ ε L α} {f : α → Prog σ ε L β} {owes : Bool}
    (hp : p.Restores fault cond Inv owes) (hf : ∀ a, (f a).Restores fault cond Inv false) :
    (p.bind f).Restores fault cond Inv owes := by
  induction p generalizing owes with
  | ret a =>
      obtain rfl : owes = false := hp
      exact hf a
  | atom a k ih =>
      refine ⟨fun s met => ?_, fun e faulty => ih _ (hp.2 e faulty)⟩
      obtain ⟨owes', rest, kept⟩ := hp.1 s met
      exact ⟨owes', ih _ rest, kept⟩

end Prog
end Tenantory
