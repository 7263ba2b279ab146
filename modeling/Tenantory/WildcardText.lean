import Tenantory.QueryPlatform
import Mathlib.Data.List.Infix

/-! Patterns between two percent signs. Without metacharacters such a pattern looks for a
substring. With one it matches a text that does not contain the words between the signs. -/

namespace Tenantory

/-- No character has a meaning of its own in a pattern. -/
def PlainChars (chars : List Char) : Prop := ∀ c ∈ chars, c ≠ '%' ∧ c ≠ '_' ∧ c ≠ '\\'

instance (chars : List Char) : Decidable (PlainChars chars) :=
  inferInstanceAs (Decidable (∀ c ∈ chars, c ≠ '%' ∧ c ≠ '_' ∧ c ≠ '\\'))

theorem wildcard_many (pattern text : List Char) :
    wildcard '%' '_' ('%' :: pattern) text = text.tails.any (wildcard '%' '_' pattern) := by
  rw [wildcard.eq_def]
  rfl

theorem wildcard_escape (p c : Char) (pattern text : List Char) :
    wildcard '%' '_' ('\\' :: p :: pattern) (c :: text) =
      (c == p && wildcard '%' '_' pattern text) := rfl

/-- A percent sign matches what a text goes on with. -/
theorem wildcard_rest (text : List Char) : wildcard '%' '_' ['%'] text = true := by
  rw [wildcard_many, List.any_eq_true]
  exact ⟨[], (List.mem_tails _ _).mpr (List.nil_suffix), rfl⟩

theorem wildcard_of_prefix {chars text : List Char} (plain : PlainChars chars)
    (h : chars <+: text) : wildcard '%' '_' (chars ++ ['%']) text = true := by
  induction chars generalizing text with
  | nil => exact wildcard_rest text
  | cons p chars ih =>
      obtain ⟨rest, rfl⟩ := h
      have first := plain p List.mem_cons_self
      rw [List.cons_append, List.cons_append, wildcard_literal first, beq_self_eq_true,
        Bool.true_and]
      exact ih (fun c mem => plain c (List.mem_cons_of_mem _ mem)) (List.prefix_append chars rest)

theorem wildcard_iff_infix {chars text : List Char} (plain : PlainChars chars) :
    wildcard '%' '_' ('%' :: (chars ++ ['%'])) text = true ↔ chars <:+: text := by
  rw [wildcard_many, List.any_eq_true, List.infix_iff_prefix_suffix]
  constructor
  · rintro ⟨rest, tail, matched⟩
    exact ⟨rest, prefix_of_wildcard plain matched, (List.mem_tails _ _).mp tail⟩
  · rintro ⟨rest, start, tail⟩
    exact ⟨rest, (List.mem_tails _ _).mpr tail, wildcard_of_prefix plain start⟩

/-! ## Metacharacters -/

/-- A text that the pattern of the words matches: escaped characters stand for themselves,
percent signs for nothing and underscores for `other`. -/
def matchedText (other : Char) : List Char → List Char
  | [] => []
  | ['\\'] => ['%']
  | '\\' :: c :: rest => c :: matchedText other rest
  | '%' :: rest => matchedText other rest
  | '_' :: rest => other :: matchedText other rest
  | c :: rest => c :: matchedText other rest

/-- The characters of the last case are plain. -/
theorem plain_of_last_case {c : Char} {rest : List Char}
    (no_last : c = '\\' → rest = [] → False)
    (no_escape : ∀ d others, c = '\\' → rest = d :: others → False) (no_many : c ≠ '%')
    (no_single : c ≠ '_') : c ≠ '%' ∧ c ≠ '_' ∧ c ≠ '\\' := by
  refine ⟨no_many, no_single, fun escape => ?_⟩
  cases rest with
  | nil => exact no_last escape rfl
  | cons d others => exact no_escape d others escape rfl

theorem wildcard_matchedText (other : Char) (chars : List Char) :
    wildcard '%' '_' (chars ++ ['%']) (matchedText other chars) = true := by
  fun_induction matchedText other chars with
  | case1 => rfl
  | case2 => rfl
  | case3 c rest ih =>
      rw [List.cons_append, List.cons_append, wildcard_escape, beq_self_eq_true, Bool.true_and]
      exact ih
  | case4 rest ih =>
      rw [List.cons_append, wildcard_many, List.any_eq_true]
      exact ⟨_, (List.mem_tails _ _).mpr List.suffix_rfl, ih⟩
  | case5 rest ih =>
      rw [List.cons_append, wildcard.eq_def]
      exact ih
  | case6 c rest no_last no_escape no_many no_single ih =>
      have plain := plain_of_last_case no_last no_escape no_many no_single
      rw [List.cons_append, wildcard_literal plain, beq_self_eq_true, Bool.true_and]
      exact ih

theorem length_matchedText (other : Char) (chars : List Char) :
    (matchedText other chars).length ≤ chars.length := by
  fun_induction matchedText other chars with
  | case1 => exact Nat.le_refl _
  | case2 => exact Nat.le_refl _
  | case3 c rest ih => exact (Nat.succ_le_succ ih).trans (Nat.le_succ _)
  | case4 rest ih => exact ih.trans (Nat.le_succ _)
  | case5 rest ih => exact Nat.succ_le_succ ih
  | case6 c rest _ _ _ _ ih => exact Nat.succ_le_succ ih

/-- Words that are their own matched text have no metacharacter. -/
theorem plain_of_matchedText_eq {other : Char} (different : other ≠ '_') {chars : List Char}
    (same : matchedText other chars = chars) : PlainChars chars := by
  fun_induction matchedText other chars with
  | case1 => exact fun _ mem => by cases mem
  | case2 => cases same
  | case3 c rest ih =>
      have shorter := length_matchedText other rest
      have lengths := congrArg List.length same
      simp only [List.length_cons] at lengths
      omega
  | case4 rest ih =>
      have shorter := length_matchedText other rest
      have lengths := congrArg List.length same
      simp only [List.length_cons] at lengths
      omega
  | case5 rest ih => exact absurd (List.cons.inj same).1 different
  | case6 c rest no_last no_escape no_many no_single ih =>
      have plain := plain_of_last_case no_last no_escape no_many no_single
      exact List.forall_mem_cons.mpr ⟨plain, ih (List.cons.inj same).2⟩

/-- The matched text of words with a metacharacter does not contain them. -/
theorem not_infix_matchedText {other : Char} (different : other ≠ '_') {chars : List Char}
    (special : ¬ PlainChars chars) : ¬ chars <:+: matchedText other chars := by
  intro inside
  have same := inside.eq_of_length_le (length_matchedText other chars)
  exact special (plain_of_matchedText_eq different same.symm)

theorem mem_matchedText {other c : Char} {chars : List Char} (mem : c ∈ matchedText other chars) :
    c ∈ chars ∨ c = other ∨ c = '%' := by
  fun_induction matchedText other chars with
  | case1 => cases mem
  | case2 => exact .inr (.inr (List.mem_singleton.mp mem))
  | case3 d rest ih =>
      rcases List.mem_cons.mp mem with rfl | later
      · exact .inl (by simp)
      · exact (ih later).imp_left fun old => List.mem_cons_of_mem _ (List.mem_cons_of_mem _ old)
  | case4 rest ih => exact (ih mem).imp_left fun old => List.mem_cons_of_mem _ old
  | case5 rest ih =>
      rcases List.mem_cons.mp mem with rfl | later
      · exact .inr (.inl rfl)
      · exact (ih later).imp_left fun old => List.mem_cons_of_mem _ old
  | case6 d rest _ _ _ _ ih =>
      rcases List.mem_cons.mp mem with rfl | later
      · exact .inl List.mem_cons_self
      · exact (ih later).imp_left fun old => List.mem_cons_of_mem _ old

/-! ## ILIKE -/

namespace Platform

/-- Case folding changes letters one by one, and changes no metacharacter. -/
structure FoldsCase (platform : Platform) (letter : Char → Char) : Prop where
  fold : ∀ text, (platform.fold text).toList = text.toList.map letter
  again : ∀ c, letter (letter c) = letter c
  many : ∀ c, letter c = '%' ↔ c = '%'
  single : ∀ c, letter c = '_' ↔ c = '_'
  escape : ∀ c, letter c = '\\' ↔ c = '\\'

/-- A text contains the words, apart from case. -/
def Contains (platform : Platform) (words text : String) : Prop :=
  (platform.fold words).toList <:+: (platform.fold text).toList

instance (platform : Platform) (words text : String) : Decidable (platform.Contains words text) :=
  inferInstanceAs (Decidable (_ <:+: _))

variable {platform : Platform} {letter : Char → Char} (folds : platform.FoldsCase letter)

include folds

theorem plain_fold {words : String} :
    PlainChars (platform.fold words).toList ↔ PlainChars words.toList := by
  rw [folds.fold]
  unfold PlainChars
  rw [List.forall_mem_map]
  refine forall₂_congr fun c _ => ?_
  rw [ne_eq, ne_eq, ne_eq, folds.many, folds.single, folds.escape]

theorem ilike_eq (words text : String) : platform.ilike ("%" ++ words ++ "%") text =
    wildcard '%' '_' ('%' :: ((platform.fold words).toList ++ ['%']))
    (platform.fold text).toList := by
  have signs : letter '%' = '%' := (folds.many '%').mpr rfl
  unfold ilike
  rw [folds.fold, folds.fold words, String.toList_append, String.toList_append]
  simp [signs]

/-- Words without metacharacters are looked for as they are. -/
theorem ilike_iff_contains {words : String} (plain : PlainChars words.toList) (text : String) :
    platform.ilike ("%" ++ words ++ "%") text = true ↔ platform.Contains words text := by
  rw [ilike_eq folds, wildcard_iff_infix ((plain_fold folds).mpr plain)]
  rfl

/-- Words with a metacharacter match a text that does not contain them. -/
theorem exists_matched {words : String} (special : ¬ PlainChars words.toList) :
    ∃ text, platform.ilike ("%" ++ words ++ "%") text = true ∧
      ¬ platform.Contains words text := by
  let chars := (platform.fold words).toList
  have each : ∀ c ∈ matchedText (letter 'a') chars, letter c = id c := by
    intro c mem
    rcases mem_matchedText mem with old | rfl | rfl
    · rw [show chars = words.toList.map letter from folds.fold words] at old
      obtain ⟨d, -, rfl⟩ := List.mem_map.mp old
      exact folds.again d
    · exact folds.again 'a'
    · exact (folds.many '%').mpr rfl
  have fixed : (matchedText (letter 'a') chars).map letter = matchedText (letter 'a') chars := by
    rw [List.map_congr_left each, List.map_id]
  refine ⟨String.ofList (matchedText (letter 'a') chars), ?_, ?_⟩
  · rw [ilike_eq folds, folds.fold (String.ofList _), String.toList_ofList, fixed, wildcard_many,
      List.any_eq_true]
    exact ⟨_, (List.mem_tails _ _).mpr List.suffix_rfl, wildcard_matchedText _ _⟩
  · unfold Contains
    rw [folds.fold (String.ofList _), String.toList_ofList, fixed]
    refine not_infix_matchedText ?_ fun plain => special ((plain_fold folds).mp plain)
    rw [ne_eq, folds.single]
    decide

end Platform
end Tenantory
