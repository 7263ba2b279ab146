import Mathlib.Logic.Function.Basic

/-! Logs of changes to what is stored under keys: what replaying one gives, and logs whose
entries tell what they have found. -/

namespace Tenantory

/-- What was under a key before a change and what is there after it. -/
structure Revision (κ ν : Type) where
  key : κ
  old : Option ν
  new : Option ν
  deriving DecidableEq

namespace Revision

variable {κ ν : Type} [DecidableEq κ] {c : Revision κ ν} {log more : List (Revision κ ν)}
  {s t u : κ → Option ν}

def apply (c : Revision κ ν) (s : κ → Option ν) :
    κ → Option ν := Function.update s c.key c.new

def replay (log : List (Revision κ ν)) (s : κ → Option ν) : κ → Option ν :=
  log.foldl (fun s c => c.apply s) s

/-- Every entry tells what the entries before it have left. -/
def Truthful : List (Revision κ ν) → (κ → Option ν) → Prop
  | [], _ => True
  | c :: log, s => c.old = s c.key ∧ Truthful log (c.apply s)

/-- The log is truthful from `s` on and leads to `t`. -/
structure Leads (log : List (Revision κ ν)) (s t : κ → Option ν) : Prop where
  truthful : Truthful log s
  replayed : replay log s = t

theorem Leads.nil (s : κ → Option ν) : Leads [] s s := ⟨trivial, rfl⟩

theorem Leads.cons (told : c.old = s c.key) (h : Leads log (c.apply s) t) :
    Leads (c :: log) s t :=
  ⟨⟨told, h.truthful⟩, h.replayed⟩

theorem Leads.append (first : Leads log s t) (rest : Leads more t u) : Leads (log ++ more) s u := by
  induction log generalizing s with
  | nil =>
      obtain rfl : s = t := first.replayed
      exact rest
  | cons c log ih =>
      exact (ih ⟨first.truthful.2, first.replayed⟩).cons first.truthful.1

/-- One more entry at the end. -/
theorem Leads.snoc (h : Leads log s t) (told : c.old = t c.key) :
    Leads (log ++ [c]) s (c.apply t) :=
  h.append ((Leads.nil _).cons told)

end Revision
end Tenantory
