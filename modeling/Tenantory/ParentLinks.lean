import Mathlib.Logic.Basic

/-! Parent links. `Link a none` says that `a` has no parent, `Link a (some b)` that its
parent is `b`; a node without any link is not there. A node is rooted when following
the links from it ends at a node without parent. -/

namespace Tenantory

inductive Rooted {α : Type} (Link : α → Option α → Prop) : α → Prop
  | root {a : α} : Link a none → Rooted Link a
  | under {a b : α} : Link a (some b) → Rooted Link b → Rooted Link a

/-- `Above Link a b`: following the links from `a` one comes past `b`, or `b` is `a`. -/
inductive Above {α : Type} (Link : α → Option α → Prop) : α → α → Prop
  | refl (a : α) : Above Link a a
  | step {a b c : α} : Link a (some b) → Above Link b c → Above Link a c

/-- Going on from a node that one comes past. -/
theorem Above.close {α : Type} {Link : α → Option α → Prop} {a b c : α} (h : Above Link a b)
    (up : Link b (some c)) : Above Link a c := by
  induction h with
  | refl => exact .step up (.refl _)
  | step first _ ih => exact .step first (ih up)

/-- Nothing but a root is above it. -/
theorem Above.eq_of_root {α : Type} {Link : α → Option α → Prop} {a b : α}
    (h : Above Link a b)
    (root : ∀ q, ¬ Link a (some q)) : b = a := by
  cases h with
  | refl => rfl
  | step up _ => exact absurd up (root _)

theorem Above.mono {α : Type} {Link Link' : α → Option α → Prop} {a b : α}
    (more : ∀ a p, Link a p → Link' a p) (h : Above Link a b) : Above Link' a b := by
  induction h with
  | refl => exact .refl _
  | step up _ ih => exact .step (more _ _ up) ih

/-- Of two nodes that one comes past one comes past one from the other. -/
theorem Above.comparable {α : Type} {Link : α → Option α → Prop} {a b c : α}
    (h : Above Link a b) (functional : ∀ a p q, Link a p → Link a q → p = q)
    (h' : Above Link a c) : Above Link b c ∨ Above Link c b := by
  induction h with
  | refl => exact .inl h'
  | step up rest ih =>
      cases h' with
      | refl => exact .inr (.step up rest)
      | step up' rest' =>
          cases functional _ _ _ up up'
          exact ih rest'

/-- No node is above itself. -/
def Acyclic {α : Type} (Link : α → Option α → Prop) : Prop :=
  ∀ a b, Link a (some b) → ¬ Above Link b a

namespace Rooted

variable {α : Type} {Link Link' : α → Option α → Prop} {a : α}

theorem linked (h : Rooted Link a) : ∃ p, Link a p := by
  cases h with
  | root none => exact ⟨_, none⟩
  | under some _ => exact ⟨_, some⟩

/-- A node of a cycle is not rooted. -/
theorem not_cycle (functional : ∀ a p q, Link a p → Link a q → p = q) {b : α}
    (h : Rooted Link a) : ¬ (Link a (some b) ∧ Above Link b a) := by
  intro cycle
  induction h generalizing b with
  | root none =>
      have same := functional _ _ _ none cycle.1
      cases same
  | @under c d some _ ih =>
      have same := functional _ _ _ some cycle.1
      cases same
      cases cycle.2 with
      | refl => exact ih ⟨some, .refl _⟩
      | step up above =>
          exact ih ⟨up, above.close some⟩

/-- More links root what was rooted. -/
theorem mono (more : ∀ a p, Link a p → Link' a p) (h : Rooted Link a) : Rooted Link' a := by
  induction h with
  | root none => exact .root (more _ _ none)
  | under some _ ih => exact .under (more _ _ some) ih

/-- Putting `x` below a node from which, over the links that stay, one comes neither to
`x` nor to a node put below `x`, and cutting links, keeps every node rooted. -/
theorem relink {x : α} (functional : ∀ a p q, Link a p → Link a q → p = q)
    (rooted : ∀ a p, Link a p → Rooted Link a)
    (stays : ∀ a p, Link a p → ∃ q, Link' a q)
    (there : ∀ a, Link' a (some x) → ∃ q, Link' x q)
    (changed : ∀ a p, Link' a p → a = x ∨ p = some x ∨ p = none ∨ Link a p)
    (chosen : ∀ p, Link' x (some p) → (∃ q, Link p q) ∧
      ∀ y, Above (fun a q => Link a q ∧ Link' a q) p y → y ≠ x ∧ ¬ Link' y (some x)) :
    ∀ a p, Link' a p → Rooted Link' a := by
  have keeps : ∀ a, Rooted Link a → (∀ y, Above (fun a q => Link a q ∧ Link' a q) a y →
      y ≠ x ∧ ¬ Link' y (some x)) → Rooted Link' a := by
    intro a h
    induction h with
    | @root a none =>
        intro clear
        obtain ⟨other, free⟩ := clear a (.refl a)
        obtain ⟨q, hq⟩ := stays a _ none
        rcases changed a q hq with same | put | cut | old
        · exact absurd same other
        · exact absurd (put ▸ hq) free
        · exact .root (cut ▸ hq)
        · exact .root (functional _ _ _ none old ▸ hq)
    | @under a b up _ ih =>
        intro clear
        obtain ⟨other, free⟩ := clear a (.refl a)
        obtain ⟨q, hq⟩ := stays a _ up
        rcases changed a q hq with same | put | cut | old
        · exact absurd same other
        · exact absurd (put ▸ hq) free
        · exact .root (cut ▸ hq)
        · have stayed : Link' a (some b) := functional _ _ _ up old ▸ hq
          exact .under stayed (ih fun y hy => clear y (.step ⟨up, stayed⟩ hy))
  have at_x : ∀ p, Link' x p → Rooted Link' x := by
    intro p hp
    cases p with
    | none => exact .root hp
    | some p =>
        obtain ⟨⟨q, hq⟩, clear⟩ := chosen p hp
        exact .under hp (keeps p (rooted p q hq) clear)
  have old : ∀ a, Rooted Link a → Rooted Link' a := by
    intro a h
    induction h with
    | @root a none =>
        obtain ⟨q, hq⟩ := stays a _ none
        rcases changed a q hq with same | put | cut | old
        · exact same ▸ at_x q (same ▸ hq)
        · obtain ⟨r, hr⟩ := there a (put ▸ hq)
          exact .under (put ▸ hq) (at_x r hr)
        · exact .root (cut ▸ hq)
        · exact .root (functional _ _ _ none old ▸ hq)
    | @under a b up _ ih =>
        obtain ⟨q, hq⟩ := stays a _ up
        rcases changed a q hq with same | put | cut | old
        · exact same ▸ at_x q (same ▸ hq)
        · obtain ⟨r, hr⟩ := there a (put ▸ hq)
          exact .under (put ▸ hq) (at_x r hr)
        · exact .root (cut ▸ hq)
        · exact .under (functional _ _ _ up old ▸ hq) ih
  intro a p hp
  rcases changed a p hp with same | put | cut | link
  · exact same ▸ at_x p (same ▸ hp)
  · obtain ⟨q, hq⟩ := there a (put ▸ hp)
    exact .under (put ▸ hp) (at_x q hq)
  · exact .root (cut ▸ hp)
  · exact old a (rooted a p link)

end Rooted
end Tenantory
