import Tenantory.EffectProgram
import Mathlib.Data.List.Forall2
import Mathlib.Data.Option.Basic

/-! Two serial runs next to each other. Programs are coupled when, from states in a
relation, they end in states in the relation with answers in another one. -/

namespace Tenantory
namespace Prog

variable {σ ε L α β γ δ : Type} {I : σ → σ → Prop}

def Coupled (I : σ → σ → Prop) (R : α → β → Prop) (p : Prog σ ε L α)
    (q : Prog σ ε L β) : Prop :=
  ∀ s t, I s t → R (p.run s).1 (q.run t).1 ∧ I (p.run s).2 (q.run t).2

section Coupled

variable {R : α → β → Prop} {S : γ → δ → Prop}

theorem coupled_ret {a : α} {b : β} (h : R a b) :
    Coupled I R (ret a : Prog σ ε L α) (ret b : Prog σ ε L β) :=
  fun _ _ related => ⟨h, related⟩

theorem coupled_bind {p : Prog σ ε L α} {q : Prog σ ε L β} {f : α → Prog σ ε L γ}
    {g : β → Prog σ ε L δ} (first : Coupled I R p q)
    (rest : ∀ a b, R a b → Coupled I S (f a) (g b)) : Coupled I S (p.bind f) (q.bind g) := by
  intro s t related
  obtain ⟨answers, between⟩ := first s t related
  rw [run_bind, run_bind]
  exact rest _ _ answers _ _ between

theorem Coupled.mono {R' : α → β → Prop} {p : Prog σ ε L α} {q : Prog σ ε L β}
    (h : Coupled I R p q) (imp : ∀ a b, R a b → R' a b) : Coupled I R' p q :=
  fun s t related => ⟨imp _ _ (h s t related).1, (h s t related).2⟩

end Coupled

/-- Both programs have answered, with answers in the relation, or have thrown one error. -/
inductive Paired (R : α → β → Prop) : Except ε α → Except ε β → Prop
  | ok {a : α} {b : β} : R a b → Paired R (.ok a) (.ok b)
  | error (e : ε) : Paired R (.error e) (.error e)

theorem Paired.mono {R R' : α → β → Prop} {r : Except ε α} {r' : Except ε β}
    (h : Paired R r r') (imp : ∀ a b, R a b → R' a b) : Paired R' r r' := by
  cases h with
  | ok related => exact .ok (imp _ _ related)
  | error e => exact .error e

theorem paired_eq_iff {r r' : Except ε α} : Paired (ε := ε) Eq r r' ↔ r = r' := by
  constructor
  · intro h
    cases h with
    | ok same => rw [same]
    | error e => rfl
  · rintro rfl
    cases r with
    | ok a => exact .ok rfl
    | error e => exact .error e

theorem paired_bind {R : α → β → Prop} {S : γ → δ → Prop} {r : Except ε α}
    {r' : Except ε β}
    {f : α → Except ε γ} {g : β → Except ε δ} (first : Paired R r r')
    (rest : ∀ a b, R a b → Paired S (f a) (g b)) : Paired S (r >>= f) (r' >>= g) := by
  cases first with
  | ok related => exact rest _ _ related
  | error e => exact .error e

section Throwing

variable {R : α → β → Prop} {S : γ → δ → Prop}

theorem coupled_run_bind {p : ExceptT ε (Prog σ ε L) α} {q : ExceptT ε (Prog σ ε L) β}
    {f : α → ExceptT ε (Prog σ ε L) γ} {g : β → ExceptT ε (Prog σ ε L) δ}
    (first : Coupled I (Paired R) p.run q.run)
    (rest : ∀ a b, R a b → Coupled I (Paired S) (f a).run (g b).run) :
    Coupled I (Paired S) (p >>= f).run (q >>= g).run := by
  change Coupled I (Paired S) (p.run.bind _) (q.run.bind _)
  refine coupled_bind first fun r r' answers => ?_
  cases answers with
  | ok related => exact rest _ _ related
  | error e => exact coupled_ret (.error e)

theorem coupled_run_tryCatch {p : ExceptT ε (Prog σ ε L) α} {q : ExceptT ε (Prog σ ε L) β}
    {handle : ε → ExceptT ε (Prog σ ε L) α} {handle' : ε → ExceptT ε (Prog σ ε L) β}
    (first : Coupled I (Paired R) p.run q.run)
    (rest : ∀ e, Coupled I (Paired R) (handle e).run (handle' e).run) :
    Coupled I (Paired R) (tryCatch p handle).run (tryCatch q handle').run := by
  change Coupled I (Paired R) (p.run.bind _) (q.run.bind _)
  refine coupled_bind first fun r r' answers => ?_
  cases answers with
  | ok related => exact coupled_ret (.ok related)
  | error e => exact rest e

end Throwing

end Prog

/-! ## Lists that agree item by item -/

section Lists

variable {α β : Type} {R : α → β → Prop} {l : List α} {m : List β} {p : α → Bool}
  {q : β → Bool}

theorem find?_of_forall₂ (h : List.Forall₂ R l m) (same : ∀ a b, R a b → p a = q b) :
    Option.Rel R (l.find? p) (m.find? q) := by
  induction h with
  | nil => exact .none
  | @cons a b l m related rest ih =>
      rw [List.find?_cons, List.find?_cons, same a b related]
      cases q b with
      | true => exact .some related
      | false => exact ih

theorem any_of_forall₂ (h : List.Forall₂ R l m) (same : ∀ a b, R a b → p a = q b) :
    l.any p = m.any q := by
  induction h with
  | nil => rfl
  | @cons a b l m related rest ih => rw [List.any_cons, List.any_cons, same a b related, ih]

theorem forall_iff_of_forall₂ {S : α → Prop} {T : β → Prop} (h : List.Forall₂ R l m)
    (same : ∀ a b, R a b → (S a ↔ T b)) : (∀ a ∈ l, S a) ↔ ∀ b ∈ m, T b := by
  induction h with
  | nil => simp
  | @cons a b l m related rest ih =>
      rw [List.forall_mem_cons, List.forall_mem_cons, same a b related, ih]

theorem pairwise_iff_of_forall₂ {S : α → α → Prop} {T : β → β → Prop}
    (h : List.Forall₂ R l m)
    (same : ∀ a b c d, R a b → R c d → (S a c ↔ T b d)) :
    l.Pairwise S ↔ m.Pairwise T := by
  induction h with
  | nil => simp
  | @cons a b l m related rest ih =>
      rw [List.pairwise_cons, List.pairwise_cons, ih,
        forall_iff_of_forall₂ rest fun c d other => same a b c d related other]

end Lists
end Tenantory
