import Mathlib.Data.Rat.Defs

/-! JSON documents, as request bodies, `jsonb` columns and event payloads carry
them. An object keeps its fields in the order of the text. -/

namespace Tenantory

inductive Json
  | null
  | bool (b : Bool)
  | num (q : ℚ)
  | str (s : String)
  | arr (items : List Json)
  | obj (fields : List (String × Json))

namespace Json

mutual
def beq : Json → Json → Bool
  | null, null => true
  | bool a, bool b => a == b
  | num a, num b => a == b
  | str a, str b => a == b
  | arr a, arr b => beqItems a b
  | obj a, obj b => beqFields a b
  | _, _ => false

def beqItems : List Json → List Json → Bool
  | [], [] => true
  | a :: as, b :: bs => beq a b && beqItems as bs
  | _, _ => false

def beqFields : List (String × Json) → List (String × Json) → Bool
  | [], [] => true
  | (k, a) :: as, (l, b) :: bs => k == l && beq a b && beqFields as bs
  | _, _ => false
end

mutual
theorem eq_of_beq : ∀ a b : Json, beq a b = true → a = b
  | null, b, h => by cases b <;> simp [beq] at h ⊢
  | bool a, b, h => by cases b <;> simp_all [beq]
  | num a, b, h => by cases b <;> simp_all [beq]
  | str a, b, h => by cases b <;> simp_all [beq]
  | arr a, b, h => by
      cases b with
      | arr b => exact congrArg arr (eq_of_beqItems a b h)
      | _ => simp [beq] at h
  | obj a, b, h => by
      cases b with
      | obj b => exact congrArg obj (eq_of_beqFields a b h)
      | _ => simp [beq] at h

theorem eq_of_beqItems : ∀ a b : List Json, beqItems a b = true → a = b
  | [], b, h => by cases b <;> simp [beqItems] at h ⊢
  | a :: as, b, h => by
      cases b with
      | nil => simp [beqItems] at h
      | cons b bs =>
          have parts : beq a b = true ∧ beqItems as bs = true := by simpa [beqItems] using h
          rw [eq_of_beq a b parts.1, eq_of_beqItems as bs parts.2]

theorem eq_of_beqFields : ∀ a b : List (String × Json), beqFields a b = true → a = b
  | [], b, h => by cases b <;> simp [beqFields] at h ⊢
  | (k, a) :: as, b, h => by
      cases b with
      | nil => simp [beqFields] at h
      | cons b bs =>
          obtain ⟨l, b⟩ := b
          have parts : (k = l ∧ beq a b = true) ∧ beqFields as bs = true := by
            simpa [beqFields] using h
          rw [parts.1.1, eq_of_beq a b parts.1.2, eq_of_beqFields as bs parts.2]
end

mutual
theorem beq_refl : ∀ a : Json, beq a a = true
  | null => rfl
  | bool a => by simp [beq]
  | num a => by simp [beq]
  | str a => by simp [beq]
  | arr a => beqItems_refl a
  | obj a => beqFields_refl a

theorem beqItems_refl : ∀ a : List Json, beqItems a a = true
  | [] => rfl
  | a :: as => by simp [beqItems, beq_refl a, beqItems_refl as]

theorem beqFields_refl : ∀ a : List (String × Json), beqFields a a = true
  | [] => rfl
  | (k, a) :: as => by simp [beqFields, beq_refl a, beqFields_refl as]
end

instance : DecidableEq Json := fun a b =>
  if h : beq a b = true then isTrue (eq_of_beq a b h)
  else isFalse fun e => h (e ▸ beq_refl a)

/-- `document[key]`; `none` is `undefined`. -/
def field? (key : String) : Json → Option Json
  | obj fields => (fields.find? fun f => f.1 == key).map Prod.snd
  | _ => none

def emptyObject : Json := obj []

end Json
end Tenantory
