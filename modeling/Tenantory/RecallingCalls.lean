import Tenantory.SeenStates
import Tenantory.SparingCalls

/-! Calls and the states that they have seen: rules for what a call answers with, of these, and
for the steps that they explain. -/

namespace Tenantory

open Svc

section Rules

variable {α β : Type} {may : Set World → World → World → Prop} {seen : Set World}
  {Q : Set World → α → Prop} {R : Set World → β → Prop}

/-- The call takes steps that `may` admits, and `Q` holds of its answer. -/
def Svc.Recalls (may : Set World → World → World → Prop) (seen : Set World) (p : Svc α)
    (Q : Set World → α → Prop) : Prop :=
  p.run.Recalls may (fun seen answer => ∀ a, answer = .ok a → Q seen a) seen

theorem recalls_pure {a : α} (h : Q seen a) : Svc.Recalls may seen (pure a) Q := by
  intro b same
  cases same
  exact h

theorem recalls_throw {e : Err} : Svc.Recalls may seen (throw e : Svc α) Q := by
  intro b impossible
  cases impossible

theorem Svc.Recalls.next {p : Svc α} {f : α → Svc β} (h : p.Recalls may seen Q)
    (rest : ∀ seen a, Q seen a → (f a).Recalls may seen R) :
    (p >>= f).Recalls may seen R := by
  unfold Svc.Recalls
  rw [run_bind]
  refine Prog.Recalls.bind (Prog.Recalls.mono h fun seen answer told => ?_)
  cases answer with
  | ok a => exact rest seen a (told a rfl)
  | error e => exact fun b impossible => nomatch impossible

theorem Svc.Recalls.mono {Q' : Set World → α → Prop} {p : Svc α} (h : p.Recalls may seen Q)
    (imp : ∀ seen a, Q seen a → Q' seen a) : p.Recalls may seen Q' :=
  Prog.Recalls.mono h fun seen _ told a same => imp seen a (told a same)

theorem Svc.Recalls.grows {p : Svc α} (h : p.Recalls may seen Q) :
    p.Recalls may seen fun seen' a => seen ⊆ seen' ∧ Q seen' a :=
  (Prog.Recalls.grows h).mono fun _ _ told a same => ⟨told.1, told.2 a same⟩

theorem Svc.Recalls.map {p : Svc α} {f : α → β} (h : p.Recalls may seen Q)
    (imp : ∀ seen a, Q seen a → R seen (f a)) : Svc.Recalls may seen (f <$> p) R := by
  rw [map_eq_pure_bind]
  exact h.next fun seen a told => recalls_pure (imp seen a told)

theorem recalls_ite {p q : Svc α} {c : Prop} [Decidable c] (yes : p.Recalls may seen Q)
    (no : q.Recalls may seen Q) : Svc.Recalls may seen (if c then p else q) Q := by
  split
  · exact yes
  · exact no

theorem recalls_tryCatch {p : Svc α} {handle : Err → Svc α} (h : p.Recalls may seen Q)
    (rest : ∀ seen e, (handle e).Recalls may seen Q) :
    Svc.Recalls may seen (tryCatch p handle) Q := by
  unfold Svc.Recalls
  rw [run_tryCatch]
  refine Prog.Recalls.bind (Prog.Recalls.mono h fun seen answer told => ?_)
  cases answer with
  | ok a => exact told
  | error e => exact rest seen e

/-- Steps of one kind, whatever has been seen. -/
theorem recalls_stays {S : World → World → Prop} {p : Svc α} (h : Stays S p)
    (here : ∀ w, S w w)
    (admits : ∀ seen w w', S w w' → may seen w w') : p.Recalls may seen fun _ _ => True :=
  Prog.Recalls.mono (Prog.recalls_of_guarded h here admits) fun _ _ _ _ _ => trivial

theorem recalls_rules (admits : ∀ seen (w w' : World), w.Spares w' → may seen w w') :
    CallRules fun _ p => ∀ seen, p.Recalls may (fun _ _ => True) seen where
  sparing spares _ := Prog.recalls_of_guarded spares .refl admits
  bind h rest seen := Prog.Recalls.bind ((h seen).mono fun seen a _ => rest a seen)

theorem Svc.Recalls.run {p : Svc α} (h : ∀ seen, p.Recalls may seen Q) (seen : Set World) :
    p.run.Recalls may (fun _ _ => True) seen :=
  Prog.Recalls.mono (h seen) fun _ _ _ => trivial

theorem recalls_of_run {p : Svc α} (h : ∀ seen, p.run.Recalls may (fun _ _ => True) seen) :
    p.Recalls may seen fun _ _ => True :=
  (h seen).mono fun _ _ _ _ _ => trivial

variable (idle : ∀ seen w, may seen w w)

include idle

theorem recalls_query (read : World → Except Err α) :
    (query read).Recalls may seen fun seen a => ∃ past ∈ seen, read past = .ok a :=
  ⟨fun w => ⟨idle _ w, fun _ same =>
    ⟨w, Set.mem_insert_of_mem _ (Set.mem_insert w seen), same⟩⟩,
    fun _ _ impossible => nomatch impossible⟩

theorem recalls_statement {label : Label} {act : World → Except Err (α × World)}
    (h : ∀ w a w', act w = .ok (a, w') →
      may (insert w seen) w w' ∧ Q (insert w' (insert w seen)) a) :
    (statement label act).Recalls may seen Q := by
  refine ⟨fun w => ?_, fun _ _ impossible => nomatch impossible⟩
  dsimp only
  cases done : act w with
  | error e => exact ⟨idle _ w, fun _ impossible => nomatch impossible⟩
  | ok answer =>
      obtain ⟨admitted, told⟩ := h w answer.1 answer.2 done
      refine ⟨admitted, fun a same => ?_⟩
      cases same
      exact told

end Rules

end Tenantory
