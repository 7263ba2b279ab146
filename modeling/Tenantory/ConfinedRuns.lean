import Tenantory.EffectProgram

/-! Programs that see a part of the state. From states that agree on the part they answer
alike and agree on it again, and what they do to a state stays within bounds that compose.
All this holds of runs whose states are as they are assumed to be. -/

namespace Tenantory

/-- What is assumed of every state that the run comes through. -/
def Prog.Along {σ ε L α : Type} (assumed : σ → Prop) : Prog σ ε L α → σ → Prop
  | .ret _, s => assumed s
  | .atom a k, s => assumed s ∧ (k (a.act s).1).Along assumed (a.act s).2

namespace Prog.Along

variable {σ ε L α β : Type} {assumed : σ → Prop} {s : σ}

theorem first {p : Prog σ ε L α} (h : p.Along assumed s) : assumed s := by
  cases p with
  | ret a => exact h
  | atom a k => exact h.1

theorem of_bind {p : Prog σ ε L β} {f : β → Prog σ ε L α}
    (h : (p.bind f).Along assumed s) :
    p.Along assumed s ∧ (f (p.run s).1).Along assumed (p.run s).2 := by
  induction p generalizing s with
  | ret b => exact ⟨first h, h⟩
  | atom a k ih => exact ⟨⟨h.1, (ih _ h.2).1⟩, (ih _ h.2).2⟩

/-- What is assumed is evaluated state by state. -/
instance decidable [DecidablePred assumed] :
    (p : Prog σ ε L α) → (s : σ) → Decidable (p.Along assumed s)
  | .ret _, s => inferInstanceAs (Decidable (assumed s))
  | .atom a k, s =>
      have := decidable (k (a.act s).1) (a.act s).2
      inferInstanceAs (Decidable (assumed s ∧ (k (a.act s).1).Along assumed (a.act s).2))

end Prog.Along

/-- What is seen of a state, how it may change and what is assumed of it. -/
structure Realm (σ V : Type) where
  view : σ → V
  allows : σ → σ → Prop
  assumed : σ → Prop
  refl : ∀ s, allows s s
  trans : ∀ {s t u}, allows s t → allows t u → allows s u

namespace Realm

variable {σ ε L α β V : Type} (realm : Realm σ V)

/-- A change of the state that depends on no more than what is seen of it. -/
structure Confined (act : σ → β × σ) (s : σ) (t : σ) : Prop where
  answer : (act s).1 = (act t).1
  seen : realm.view (act s).2 = realm.view (act t).2

structure Confines (pre : σ → Prop) (p : Prog σ ε L α) (post : α → σ → Prop) :
    Prop where
  alike : ∀ s t, pre s → pre t → p.Along realm.assumed s → p.Along realm.assumed t →
    realm.view s = realm.view t → realm.Confined p.run s t
  allowed : ∀ s, pre s → p.Along realm.assumed s → realm.allows s (p.run s).2
  meets : ∀ s, pre s → p.Along realm.assumed s → post (p.run s).1 (p.run s).2

variable {realm} {pre pre' : σ → Prop} {post post' : α → σ → Prop}
  {mid : β → σ → Prop}

theorem confines_ret {a : α} (h : ∀ s, pre s → post a s) :
    realm.Confines pre (.ret a : Prog σ ε L α) post where
  alike _ _ _ _ _ _ same := ⟨rfl, same⟩
  allowed s _ _ := realm.refl s
  meets s hs _ := h s hs

theorem confines_absurd {p : Prog σ ε L α} (never : ∀ s, ¬ pre s) :
    realm.Confines pre p post where
  alike s _ hs _ _ _ _ := absurd hs (never s)
  allowed s hs _ := absurd hs (never s)
  meets s hs _ := absurd hs (never s)

theorem Confines.bind {p : Prog σ ε L β} {f : β → Prog σ ε L α}
    (first : realm.Confines pre p mid) (rest : ∀ b, realm.Confines (mid b) (f b) post) :
    realm.Confines pre (p.bind f) post where
  alike s t hs ht along along' same := by
    obtain ⟨before, after⟩ := along.of_bind
    obtain ⟨before', after'⟩ := along'.of_bind
    obtain ⟨answer, seen⟩ := first.alike s t hs ht before before' same
    have later := (rest (p.run s).1).alike (p.run s).2 (p.run t).2 (first.meets s hs before)
      (answer ▸ first.meets t ht before') after (answer ▸ after') seen
    constructor
    · rw [Prog.run_bind, Prog.run_bind, ← answer]
      exact later.answer
    · rw [Prog.run_bind, Prog.run_bind, ← answer]
      exact later.seen
  allowed s hs along := by
    obtain ⟨before, after⟩ := along.of_bind
    rw [Prog.run_bind]
    exact realm.trans (first.allowed s hs before)
      ((rest _).allowed _ (first.meets s hs before) after)
  meets s hs along := by
    obtain ⟨before, after⟩ := along.of_bind
    rw [Prog.run_bind]
    exact (rest _).meets _ (first.meets s hs before) after

theorem Confines.mono {p : Prog σ ε L α} (h : realm.Confines pre p post)
    (strong : ∀ s, pre' s → pre s) (weak : ∀ a s, post a s → post' a s) :
    realm.Confines pre' p post' where
  alike s t hs ht := h.alike s t (strong s hs) (strong t ht)
  allowed s hs := h.allowed s (strong s hs)
  meets s hs along := weak _ _ (h.meets s (strong s hs) along)

/-- What every allowed change keeps is still true after the program. -/
theorem Confines.frame {p : Prog σ ε L α} {F : σ → Prop} (h : realm.Confines pre p post)
    (stable : ∀ s t, realm.allows s t → F s → F t) :
    realm.Confines (fun s => pre s ∧ F s) p fun a s => post a s ∧ F s where
  alike s t hs ht := h.alike s t hs.1 ht.1
  allowed s hs := h.allowed s hs.1
  meets s hs along := ⟨h.meets s hs.1 along, stable _ _ (h.allowed s hs.1 along) hs.2⟩

end Realm
end Tenantory
