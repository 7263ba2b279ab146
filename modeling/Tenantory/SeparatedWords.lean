import Mathlib.Computability.Language
import Mathlib.Data.List.Chain

/-! Words joined by single separators: the language `w (s w)*` of nonempty words `w` over some
letters, and how one sees from the letters of a text and their neighbours that it is in it. -/

namespace Tenantory
namespace SeparatedWords

open scoped Computability

variable {α : Type}

def word (letter : α → Bool) : Language α := {w | w ≠ [] ∧ ∀ a ∈ w, letter a = true}

def words (letter : α → Bool) (sep : α) : Language α :=
  word letter * ({[sep]} * word letter)∗

/-- No two separators stand side by side. -/
def Single (sep : α) (text : List α) : Prop := text.IsChain fun a b => a = sep → b ≠ sep

variable {letter : α → Bool} {sep a : α} {text w rest : List α}

theorem word_singleton (known : letter a = true) : [a] ∈ word letter := by
  refine ⟨List.cons_ne_nil _ _, ?_⟩
  intro b mem
  rw [List.mem_singleton.mp mem]
  exact known

/-! ## Building and taking apart -/

theorem words_of_word (h : w ∈ word letter) : w ∈ words letter sep := by
  rw [words, Language.mem_mul]
  exact ⟨w, h, [], Language.nil_mem_kstar _, List.append_nil w⟩

theorem words_join (h : w ∈ word letter) (more : rest ∈ words letter sep) :
    w ++ sep :: rest ∈ words letter sep := by
  rw [words, Language.mem_mul]
  refine ⟨w, h, sep :: rest, ?_, rfl⟩
  rw [words, Language.mem_mul] at more
  obtain ⟨v, hv, tail, ⟨pieces, rfl, each⟩, rfl⟩ := more
  refine Language.mem_kstar.mpr ⟨(sep :: v) :: pieces, rfl, ?_⟩
  intro piece mem
  rcases List.mem_cons.mp mem with same | mem
  · rw [same]
    exact Language.mem_mul.mpr ⟨[sep], rfl, v, hv, rfl⟩
  · exact each piece mem

theorem words_induction {motive : List α → Prop} (one : ∀ w ∈ word letter, motive w)
    (join : ∀ w ∈ word letter, ∀ rest ∈ words letter sep, motive rest →
      motive (w ++ sep :: rest))
    (h : text ∈ words letter sep) : motive text := by
  rw [words, Language.mem_mul] at h
  obtain ⟨w, hw, tail, ⟨pieces, rfl, each⟩, rfl⟩ := h
  induction pieces generalizing w with
  | nil =>
      rw [List.flatten_nil, List.append_nil]
      exact one w hw
  | cons piece pieces ih =>
      obtain ⟨s, same, v, hv, rfl⟩ := Language.mem_mul.mp (each piece List.mem_cons_self)
      cases Set.mem_singleton_iff.mp same
      have later := fun p (mem : p ∈ pieces) => each p (List.mem_cons_of_mem _ mem)
      have more : v ++ pieces.flatten ∈ words letter sep :=
        Language.mem_mul.mpr ⟨v, hv, _, Language.mem_kstar.mpr ⟨pieces, rfl, later⟩, rfl⟩
      have joined := join w hw _ more (ih v hv later)
      rwa [List.flatten_cons, List.append_assoc]

/-- A letter in front makes the first word longer. -/
theorem words_cons (known : letter a = true) (h : text ∈ words letter sep) :
    a :: text ∈ words letter sep := by
  rw [words, Language.mem_mul] at h ⊢
  obtain ⟨w, ⟨-, letters⟩, tail, starred, rfl⟩ := h
  refine ⟨a :: w, ⟨List.cons_ne_nil _ _, ?_⟩, tail, starred, rfl⟩
  intro b mem
  rcases List.mem_cons.mp mem with rfl | mem
  · exact known
  · exact letters b mem

/-! ## Neighbours -/

/-- Letters and separators, the separators single and inside. -/
structure Tidy (letter : α → Bool) (sep : α) (text : List α) : Prop where
  nonempty : text ≠ []
  drawn : ∀ a ∈ text, letter a = true ∨ a = sep
  single : Single sep text
  starts : text.head? ≠ some sep
  ends : text.getLast? ≠ some sep

theorem single_of_not_mem (h : sep ∉ text) : Single sep text := by
  induction text with
  | nil => exact List.isChain_nil
  | cons a text ih =>
      refine List.IsChain.cons (ih fun mem => h (List.mem_cons_of_mem _ mem)) ?_
      rintro b - rfl
      exact absurd List.mem_cons_self h

theorem not_mem_word (other : letter sep = false) (h : w ∈ word letter) : sep ∉ w := by
  intro mem
  rw [h.2 sep mem] at other
  cases other

theorem tidy_of_word (other : letter sep = false) (h : w ∈ word letter) : Tidy letter sep w where
  nonempty := h.1
  drawn a mem := .inl (h.2 a mem)
  single := single_of_not_mem (not_mem_word other h)
  starts same := not_mem_word other h (List.mem_of_mem_head? same)
  ends same := not_mem_word other h (List.mem_of_getLast? same)

theorem tidy_join (other : letter sep = false) (h : w ∈ word letter)
    (more : Tidy letter sep rest) : Tidy letter sep (w ++ sep :: rest) := by
  have outside := not_mem_word other h
  refine ⟨by simp, ?_, ?_, ?_, ?_⟩
  · intro a mem
    rcases List.mem_append.mp mem with mem | mem
    · exact .inl (h.2 a mem)
    · rcases List.mem_cons.mp mem with rfl | mem
      · exact .inr rfl
      · exact more.drawn a mem
  · refine List.IsChain.append (single_of_not_mem outside) (List.IsChain.cons more.single ?_) ?_
    · rintro b first - rfl
      exact more.starts first
    · rintro a last b - rfl
      exact absurd (List.mem_of_getLast? last) outside
  · rw [List.head?_append_of_ne_nil _ h.1]
    exact fun same => outside (List.mem_of_mem_head? same)
  · rw [List.getLast?_append_of_ne_nil _ (List.cons_ne_nil _ _),
      List.getLast?_cons_of_ne_nil more.nonempty]
    exact more.ends

theorem Tidy.tail_drawn {b : α} (h : Tidy letter sep (a :: b :: text)) (known : b ≠ sep) :
    Tidy letter sep (b :: text) where
  nonempty := List.cons_ne_nil _ _
  drawn c mem := h.drawn c (List.mem_cons_of_mem _ mem)
  single := h.single.tail
  starts same := known (Option.some.inj same)
  ends := by
    rw [← List.getLast?_cons_of_ne_nil (List.cons_ne_nil b text)]
    exact h.ends

/-- What follows a first letter and a separator. -/
theorem Tidy.skip (h : Tidy letter sep (a :: sep :: rest)) : Tidy letter sep rest := by
  have last : (sep :: rest).getLast? ≠ some sep := by
    rw [← List.getLast?_cons_of_ne_nil (List.cons_ne_nil sep rest)]
    exact h.ends
  have nonempty : rest ≠ [] := by
    rintro rfl
    exact last rfl
  refine ⟨nonempty, fun c mem => h.drawn c (by simp [mem]), h.single.tail.tail, ?_, ?_⟩
  · intro first
    exact h.single.tail.rel_head? first rfl rfl
  · rwa [List.getLast?_cons_of_ne_nil nonempty] at last

theorem Tidy.words (h : Tidy letter sep text) : text ∈ words letter sep := by
  induction size : text.length using Nat.strong_induction_on generalizing text with
  | _ n ih =>
      cases text with
      | nil => exact absurd rfl h.nonempty
      | cons a text =>
          have known : letter a = true := by
            rcases h.drawn a List.mem_cons_self with known | rfl
            · exact known
            · exact absurd rfl h.starts
          cases text with
          | nil => exact words_of_word (word_singleton known)
          | cons b rest =>
              simp only [List.length_cons] at size
              by_cases same : b = sep
              · subst same
                exact words_join (word_singleton known) (ih rest.length (by omega) h.skip rfl)
              · exact words_cons known
                  (ih (b :: rest).length (by simp; omega) (h.tail_drawn same) rfl)

theorem mem_words_iff (other : letter sep = false) :
    text ∈ words letter sep ↔ Tidy letter sep text := by
  constructor
  · intro h
    exact words_induction (fun w hw => tidy_of_word other hw)
      (fun w hw rest _ tidy => tidy_join other hw tidy) h
  · exact Tidy.words

end SeparatedWords
end Tenantory
