import Tenantory.SlugText
import Tenantory.SeparatedWords
import Mathlib.Data.List.DropRight

/-! What slugs look like: `[a-z0-9]+(-[a-z0-9]+)*` or nothing. The letters and digits of a text
go through in order; of the rest at most a hyphen is left. -/

namespace Tenantory
namespace SlugText

open SeparatedWords

def slugs : Language Char := words isSlugChar '-'

theorem hyphen_apart : isSlugChar '-' = false := by decide

theorem isSlugChar_range {c : Char} (known : isSlugChar c = true) :
    (97 ≤ c.toNat ∧ c.toNat ≤ 122) ∨ (48 ≤ c.toNat ∧ c.toNat ≤ 57) := by
  rcases Bool.or_eq_true_iff.mp known with small | digit
  · obtain ⟨low, high⟩ := Bool.and_eq_true_iff.mp small
    exact .inl ⟨of_decide_eq_true low, of_decide_eq_true high⟩
  · obtain ⟨low, high⟩ := Bool.and_eq_true_iff.mp digit
    exact .inr ⟨of_decide_eq_true low, of_decide_eq_true high⟩

theorem isAccent_of_isSlugChar {c : Char} (known : isSlugChar c = true) : isAccent c = false := by
  have range := isSlugChar_range known
  simp only [isAccent, Bool.and_eq_false_iff, decide_eq_false_iff_not]
  omega

theorem isSpace_of_isSlugChar {c : Char} (known : isSlugChar c = true) : isSpace c = false := by
  have range := isSlugChar_range known
  simp only [isSpace, Bool.or_eq_false_iff, Bool.and_eq_false_iff, decide_eq_false_iff_not,
    beq_eq_false_iff_ne]
  omega

theorem ne_hyphen_of_isSlugChar {c : Char} (known : isSlugChar c = true) : (c == '-') = false := by
  rw [beq_eq_false_iff_ne]
  rintro rfl
  exact absurd known (by decide)

/-! ## Hyphens for runs -/

section Hyphenate

variable {p q : Char → Bool} {c : Char} {text : List Char}

theorem mem_hyphenate (mem : c ∈ hyphenate p text) :
    c = '-' ∨ (c ∈ text ∧ p c = false) := by
  induction text with
  | nil => cases mem
  | cons d text ih =>
      have later := fun mem => (ih mem).imp_right (And.imp_left (List.mem_cons_of_mem d))
      unfold hyphenate at mem
      split at mem
      · split at mem
        · exact later mem
        · rcases List.mem_cons.mp mem with rfl | mem
          · exact .inl rfl
          · exact later mem
      · rename_i kept
        rcases List.mem_cons.mp mem with rfl | mem
        · exact .inr ⟨List.mem_cons_self, Bool.eq_false_of_not_eq_true kept⟩
        · exact later mem

theorem filter_hyphenate (apart : ∀ c, q c = true → p c = false) (other : q '-' = false) :
    (hyphenate p text).filter q = text.filter q := by
  induction text with
  | nil => rfl
  | cons d text ih =>
      unfold hyphenate
      split
      · rename_i run
        have dropped : q d ≠ true := fun kept => by
          rw [apart d kept] at run
          cases run
        rw [List.filter_cons_of_neg dropped]
        split
        · exact ih
        · rw [List.filter_cons_of_neg (by rw [other]; exact Bool.false_ne_true), ih]
      · by_cases kept : q d = true
        · rw [List.filter_cons_of_pos kept, List.filter_cons_of_pos kept, ih]
        · rw [List.filter_cons_of_neg kept, List.filter_cons_of_neg kept, ih]

theorem hyphenate_of_forall (none : ∀ c ∈ text, p c = false) : hyphenate p text = text := by
  induction text with
  | nil => rfl
  | cons d text ih =>
      rw [hyphenate, if_neg (by rw [none d List.mem_cons_self]; exact Bool.false_ne_true),
        ih fun c mem => none c (List.mem_cons_of_mem d mem)]

theorem head?_collapse : (hyphenate (· == '-') text).head? = text.head? := by
  induction text with
  | nil => rfl
  | cons d text ih =>
      unfold hyphenate
      split
      · rename_i same
        have same := beq_iff_eq.mp same
        split
        · rename_i more
          rw [ih]
          cases text with
          | nil => cases more
          | cons e text =>
              have next : e = '-' := by simpa using more
              rw [same, next]
              rfl
        · rw [same]
          rfl
      · rfl

theorem single_collapse : Single '-' (hyphenate (· == '-') text) := by
  induction text with
  | nil => exact List.isChain_nil
  | cons d text ih =>
      unfold hyphenate
      split
      · split
        · exact ih
        · rename_i last
          refine List.IsChain.cons ih ?_
          rintro b first - rfl
          rw [head?_collapse, Option.mem_def] at first
          rw [first] at last
          exact last rfl
      · rename_i kept
        refine List.IsChain.cons ih ?_
        rintro b - rfl
        exact absurd (beq_self_eq_true _) kept

theorem collapse_of_single (single : Single '-' text) : hyphenate (· == '-') text = text := by
  induction text with
  | nil => rfl
  | cons d text ih =>
      unfold hyphenate
      rw [ih single.tail]
      split
      · rename_i same
        have same := beq_iff_eq.mp same
        split
        · rename_i more
          cases text with
          | nil => cases more
          | cons e text =>
              have next : e = '-' := by simpa using more
              exact absurd next (single.rel_head? rfl same)
        · rw [same]
      · rfl

end Hyphenate

/-! ## Ends -/

section Trim

variable {text : List Char}

theorem trimHyphens_eq :
    trimHyphens text = (text.dropWhile (· == '-')).rdropWhile (· == '-') := rfl

theorem infix_trimHyphens : trimHyphens text <:+: text :=
  (List.rdropWhile_prefix _ _).isInfix.trans (List.dropWhile_suffix _).isInfix

theorem trimHyphens_starts : (trimHyphens text).head? ≠ some '-' := by
  intro first
  rw [trimHyphens_eq] at first
  obtain ⟨rest, same⟩ := List.rdropWhile_prefix (· == '-') (text.dropWhile (· == '-'))
  have first : (text.dropWhile (· == '-')).head? = some '-' := by
    rw [← same, List.head?_append, first]
    rfl
  have other := List.head?_dropWhile_not (· == '-') text
  rw [first] at other
  exact absurd other (by decide)

theorem trimHyphens_ends : (trimHyphens text).getLast? ≠ some '-' := by
  intro last
  rw [trimHyphens_eq] at last
  have nonempty : (text.dropWhile (· == '-')).rdropWhile (· == '-') ≠ [] := by
    intro empty
    rw [empty] at last
    cases last
  have other := List.rdropWhile_last_not (· == '-') _ nonempty
  rw [List.getLast?_eq_some_getLast nonempty] at last
  rw [Option.some.inj last] at other
  exact other rfl

theorem filter_dropWhile {q : Char → Bool} (other : q '-' = false) :
    (text.dropWhile (· == '-')).filter q = text.filter q := by
  induction text with
  | nil => rfl
  | cons d text ih =>
      by_cases same : (d == '-') = true
      · rw [List.dropWhile_cons_of_pos (p := (· == '-')) same, ih, List.filter_cons_of_neg]
        rw [beq_iff_eq.mp same, other]
        exact Bool.false_ne_true
      · rw [List.dropWhile_cons_of_neg (p := (· == '-')) same]

theorem filter_trimHyphens {q : Char → Bool} (other : q '-' = false) :
    (trimHyphens text).filter q = text.filter q := by
  rw [trimHyphens, List.filter_reverse, filter_dropWhile other, List.filter_reverse,
    List.reverse_reverse, filter_dropWhile other]

theorem trimHyphens_of_ends (starts : text.head? ≠ some '-') (ends : text.getLast? ≠ some '-') :
    trimHyphens text = text := by
  have front : text.dropWhile (· == '-') = text := by
    cases text with
    | nil => rfl
    | cons d text =>
        refine List.dropWhile_cons_of_neg fun same => starts ?_
        rw [List.head?_cons, beq_iff_eq.mp same]
  rw [trimHyphens_eq, front, List.rdropWhile_eq_self_iff]
  intro nonempty same
  rw [List.getLast?_eq_some_getLast nonempty, beq_iff_eq.mp same] at ends
  exact ends rfl

end Trim

/-! ## The slug of a text -/

/-- What the expressions leave of a text in lower case whose accents are characters of their
own. -/
def slugOf (decomposed : List Char) : List Char :=
  let stripped := decomposed.filter fun c => !isAccent c
  let kept := stripped.filter fun c => isSlugChar c || isSpace c || c == '-'
  trimHyphens (hyphenate (· == '-') (hyphenate isSpace kept))

section Slug

variable {text : List Char}

theorem filter_slugOf : (slugOf text).filter isSlugChar = text.filter isSlugChar := by
  rw [slugOf, filter_trimHyphens hyphen_apart,
    filter_hyphenate (p := (· == '-')) (fun c known => ne_hyphen_of_isSlugChar known) hyphen_apart,
    filter_hyphenate (p := isSpace) (fun c known => isSpace_of_isSlugChar known) hyphen_apart,
    List.filter_filter, List.filter_filter]
  refine List.filter_congr fun c _ => ?_
  cases known : isSlugChar c with
  | false => rfl
  | true => simp [isAccent_of_isSlugChar known]

theorem mem_slugOf {c : Char} (mem : c ∈ slugOf text) : isSlugChar c = true ∨ c = '-' := by
  rcases mem_hyphenate (infix_trimHyphens.subset mem) with same | ⟨mem, -⟩
  · exact .inr same
  · rcases mem_hyphenate mem with same | ⟨mem, shown⟩
    · exact .inr same
    · have kept := (List.mem_filter.mp mem).2
      rw [shown, Bool.or_false] at kept
      exact (Bool.or_eq_true_iff.mp kept).imp_right beq_iff_eq.mp

theorem slugOf_starts : (slugOf text).head? ≠ some '-' := trimHyphens_starts

theorem slugOf_slugs (nonempty : slugOf text ≠ []) : slugOf text ∈ slugs :=
  (mem_words_iff hyphen_apart).mpr
    { nonempty
      drawn := fun _ mem => mem_slugOf mem
      single := single_collapse.infix infix_trimHyphens
      starts := slugOf_starts
      ends := trimHyphens_ends }

theorem slugOf_of_slugs (h : text ∈ slugs) : slugOf text = text := by
  obtain ⟨-, drawn, single, starts, ends⟩ := (mem_words_iff hyphen_apart).mp h
  have stripped : (text.filter fun c => !isAccent c) = text := by
    refine List.filter_eq_self.mpr fun c mem => ?_
    rcases drawn c mem with known | rfl
    · rw [isAccent_of_isSlugChar known]
      rfl
    · decide
  have kept : (text.filter fun c => isSlugChar c || isSpace c || c == '-') = text := by
    refine List.filter_eq_self.mpr fun c mem => ?_
    rcases drawn c mem with known | rfl
    · rw [known]
      rfl
    · decide
  have spaces : ∀ c ∈ text, isSpace c = false := by
    intro c mem
    rcases drawn c mem with known | rfl
    · exact isSpace_of_isSlugChar known
    · decide
  rw [slugOf, stripped, kept, hyphenate_of_forall spaces, collapse_of_single single,
    trimHyphens_of_ends starts ends]

/-- A slug is empty when nothing goes into it. -/
theorem slugOf_eq_nil_iff : slugOf text = [] ↔ ∀ c ∈ text, isSlugChar c = false := by
  constructor
  · intro empty c mem
    have none : text.filter isSlugChar = [] := by rw [← filter_slugOf, empty, List.filter_nil]
    exact Bool.eq_false_of_not_eq_true (List.filter_eq_nil_iff.mp none c mem)
  · intro none
    by_contra nonempty
    have none : text.filter isSlugChar = [] :=
      List.filter_eq_nil_iff.mpr fun c mem => by simp [none c mem]
    rw [← filter_slugOf, List.filter_eq_nil_iff] at none
    obtain ⟨c, rest, same⟩ := List.exists_cons_of_ne_nil nonempty
    have head : c ∈ slugOf text := by rw [same]; exact List.mem_cons_self
    rcases mem_slugOf head with known | rfl
    · exact none c head known
    · exact slugOf_starts (by rw [same, List.head?_cons])

end Slug

/-- Lower case and decomposition leave a text in the characters of slugs as it is. -/
def PlainSlugs (f : String → String) : Prop :=
  ∀ s, (∀ c ∈ s.toList, isSlugChar c = true ∨ c = '-') → f s = s

theorem toLower_of_isSlugChar {c : Char} (known : isSlugChar c = true) : c.toLower = c := by
  have range := isSlugChar_range known
  unfold Char.toLower
  split
  · rename_i upper
    have high : c.toNat ≤ 90 := upper.2
    have low : 65 ≤ c.toNat := upper.1
    omega
  · rfl

theorem ascii_lower : PlainSlugs Platform.ascii.toLowerCase := by
  intro s drawn
  rw [← String.toList_inj, Platform.ascii, String.toList_ofList]
  refine (List.map_congr_left fun c mem => ?_).trans (List.map_id _)
  rcases drawn c mem with known | rfl
  · exact toLower_of_isSlugChar known
  · rfl

section Generate

variable {platform : Platform} {s : String}

def decomposed (platform : Platform) (s : String) : List Char :=
  (platform.normalizeNFD (platform.toLowerCase s)).toList

theorem generateSlug_toList : (generateSlug platform s).toList = slugOf (decomposed platform s) :=
  String.toList_ofList

theorem decomposed_of_drawn (lower : PlainSlugs platform.toLowerCase)
    (nfd : PlainSlugs platform.normalizeNFD)
    (drawn : ∀ c ∈ s.toList, isSlugChar c = true ∨ c = '-') :
    decomposed platform s = s.toList := by
  rw [decomposed, lower s drawn, nfd s drawn]

theorem generateSlug_of_slugs (lower : PlainSlugs platform.toLowerCase)
    (nfd : PlainSlugs platform.normalizeNFD) (h : s.toList ∈ slugs) :
    generateSlug platform s = s := by
  have tidy := (mem_words_iff hyphen_apart).mp h
  rw [← String.toList_inj, generateSlug_toList, decomposed_of_drawn lower nfd tidy.drawn,
    slugOf_of_slugs h]

/-- Slugging is a projection onto the slugs and the empty text, and keeps every letter and
digit. -/
theorem generateSlug_projects (platform : Platform) (lower : PlainSlugs platform.toLowerCase)
    (nfd : PlainSlugs platform.normalizeNFD) (s : String) :
    (generateSlug platform s = "" ∨ (generateSlug platform s).toList ∈ slugs) ∧
    generateSlug platform (generateSlug platform s) = generateSlug platform s ∧
    (s.toList ∈ slugs → generateSlug platform s = s) ∧
    (generateSlug platform s = "" ↔ ∀ c ∈ decomposed platform s, isSlugChar c = false) ∧
    (generateSlug platform s).toList.filter isSlugChar =
      (decomposed platform s).filter isSlugChar := by
  have empty_iff : generateSlug platform s = "" ↔ slugOf (decomposed platform s) = [] := by
    rw [← String.toList_inj, generateSlug_toList]
    rfl
  have form : generateSlug platform s = "" ∨ (generateSlug platform s).toList ∈ slugs := by
    by_cases empty : slugOf (decomposed platform s) = []
    · exact .inl (empty_iff.mpr empty)
    · rw [generateSlug_toList]
      exact .inr (slugOf_slugs empty)
  refine ⟨form, ?_, generateSlug_of_slugs lower nfd, ?_, ?_⟩
  · rcases form with empty | slug
    · rw [empty, ← String.toList_inj, generateSlug_toList,
        decomposed_of_drawn lower nfd (fun c mem => by cases mem)]
      rfl
    · exact generateSlug_of_slugs lower nfd slug
  · rw [empty_iff, slugOf_eq_nil_iff]
  · rw [generateSlug_toList, filter_slugOf]

end Generate

theorem generateSlug_projects_home :
    generateSlug .ascii "Home & Garden" = "home-garden" ∧ "home-garden".toList ∈ slugs ∧
      generateSlug .ascii "home-garden" = "home-garden" := by
  have slug : generateSlug .ascii "Home & Garden" = "home-garden" := by
    rw [← String.toList_inj, generateSlug_toList]
    decide
  obtain ⟨form, again, -⟩ := generateSlug_projects .ascii ascii_lower (fun _ _ => rfl)
    "Home & Garden"
  rw [slug] at form again
  exact ⟨slug, form.resolve_left (by decide), again⟩

end SlugText
end Tenantory
