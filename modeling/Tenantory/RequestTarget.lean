import Mathlib.Data.List.Basic

/-! The text of a request target: the segments of a path and the pairs of a query. A
target that is put together from plain texts is taken apart into them again. -/

/-- A part of a route. -/
inductive PathSegment
  | text (name : String)
  | param
  deriving DecidableEq

/-- The parameters of a path that has the form of a route; case does not matter. -/
def PathSegment.captures : List PathSegment → List String → Option (List String)
  | [], [] => some []
  | text name :: route, segment :: path =>
      if segment.toList.map Char.toLower = name.toList.map Char.toLower then captures route path
      else none
  | param :: route, segment :: path =>
      if segment = "" then none else (captures route path).map (segment :: ·)
  | _, _ => none

structure RequestTarget where
  path : List String
  query : List (String × String)
  deriving DecidableEq

namespace RequestTarget

/-- The texts before and after the first separator. -/
def cut (sep : Char) (text : List Char) : List Char × List Char :=
  (text.takeWhile (· != sep), (text.dropWhile (· != sep)).tail)

def segments (text : List Char) : List String := (text.splitOn '/').map String.ofList

/-- `name=value`; a name without a value has an empty one. -/
def pair (text : List Char) : String × String :=
  (String.ofList (cut '=' text).1, String.ofList (cut '=' text).2)

/-- Empty pieces between the separators are skipped. -/
def pairs (text : List Char) : List (String × String) :=
  ((text.splitOn '&').filter (· != [])).map pair

def read (text : String) : RequestTarget where
  path := segments (cut '?' text.toList).1
  query := pairs (cut '?' text.toList).2

def pairText (p : String × String) : List Char := p.1.toList ++ '=' :: p.2.toList

def pathText (path : List String) : List Char := ['/'].intercalate (path.map String.toList)

def queryText (query : List (String × String)) : List Char :=
  ['&'].intercalate (query.map pairText)

def render (target : RequestTarget) : String :=
  String.ofList (pathText target.path ++ '?' :: queryText target.query)

/-- No text of the target has a character that separates it from the others. -/
structure Plain (target : RequestTarget) : Prop where
  path : ∀ segment ∈ target.path, '/' ∉ segment.toList ∧ '?' ∉ segment.toList
  names : ∀ p ∈ target.query, '&' ∉ p.1.toList ∧ '=' ∉ p.1.toList
  values : ∀ p ∈ target.query, '&' ∉ p.2.toList

theorem cut_append {sep : Char} {before : List Char} (free : sep ∉ before) (after : List Char) :
    cut sep (before ++ sep :: after) = (before, after) := by
  have kept : ∀ c ∈ before, (c != sep) = true := by
    intro c mem
    have other : c ≠ sep := fun same => free (same ▸ mem)
    simpa using other
  unfold cut
  rw [List.takeWhile_append_of_pos kept, List.dropWhile_append_of_pos kept]
  simp

theorem mem_intercalate {sep c : Char} {texts : List (List Char)}
    (mem : c ∈ [sep].intercalate texts) : c = sep ∨ ∃ text ∈ texts, c ∈ text := by
  induction texts with
  | nil => cases mem
  | cons text rest ih =>
      cases rest with
      | nil =>
          rw [List.intercalate_singleton] at mem
          exact .inr ⟨text, List.mem_cons_self, mem⟩
      | cons next rest =>
          rw [List.intercalate_cons_cons, List.append_assoc, List.mem_append] at mem
          rcases mem with mem | mem
          · exact .inr ⟨text, List.mem_cons_self, mem⟩
          · rcases List.mem_append.mp mem with mem | mem
            · exact .inl (List.mem_singleton.mp mem)
            · rcases ih mem with same | ⟨text, there, mem⟩
              · exact .inl same
              · exact .inr ⟨text, List.mem_cons_of_mem _ there, mem⟩

theorem segments_pathText {path : List String} (nonempty : path ≠ [])
    (plain : ∀ segment ∈ path, '/' ∉ segment.toList) : segments (pathText path) = path := by
  unfold segments pathText
  rw [List.splitOn_intercalate _ (by simpa using plain) (by simpa using nonempty), List.map_map]
  simp

theorem pair_pairText {p : String × String} (plain : '=' ∉ p.1.toList) :
    pair (pairText p) = p := by
  unfold pair pairText
  rw [cut_append plain]
  simp

theorem pairs_queryText {query : List (String × String)}
    (names : ∀ p ∈ query, '&' ∉ p.1.toList ∧ '=' ∉ p.1.toList)
    (values : ∀ p ∈ query, '&' ∉ p.2.toList) : pairs (queryText query) = query := by
  cases query with
  | nil => rfl
  | cons first rest =>
      have apart : ∀ text ∈ (first :: rest).map pairText, '&' ∉ text := by
        intro text mem inside
        obtain ⟨p, there, rfl⟩ := List.mem_map.mp mem
        rcases List.mem_append.mp inside with inside | inside
        · exact (names p there).1 inside
        · rcases List.mem_cons.mp inside with equal | inside
          · cases equal
          · exact values p there inside
      have full : ((first :: rest).map pairText).filter (· != []) =
          (first :: rest).map pairText := by
        refine List.filter_eq_self.mpr fun text mem => ?_
        obtain ⟨p, -, rfl⟩ := List.mem_map.mp mem
        simp [pairText]
      unfold pairs queryText
      rw [List.splitOn_intercalate _ apart (by simp), full, List.map_map]
      exact (List.map_congr_left fun p mem => pair_pairText (names p mem).2).trans (List.map_id _)

/-- A plain target is read back. -/
theorem read_render {target : RequestTarget} (nonempty : target.path ≠ [])
    (plain : target.Plain) :
    read (render target) = target := by
  have free : '?' ∉ pathText target.path := by
    intro mem
    rcases mem_intercalate mem with equal | ⟨text, there, mem⟩
    · cases equal
    · obtain ⟨segment, named, rfl⟩ := List.mem_map.mp there
      exact (plain.path segment named).2 mem
  unfold read render
  rw [String.toList_ofList, cut_append free]
  rw [segments_pathText nonempty fun segment mem => (plain.path segment mem).1,
    pairs_queryText plain.names plain.values]

/-! ## Numbers -/

theorem isDigit_of_mem_decimal {n : ℕ} {c : Char} (mem : c ∈ (toString n).toList) :
    c.isDigit = true := by
  rw [Nat.toString_eq_repr, Nat.toList_repr] at mem
  exact Nat.isDigit_of_mem_toDigits (b := 10) (by decide) (by decide) mem

theorem not_mem_decimal {c : Char} (other : c.isDigit = false) (n : ℕ) :
    c ∉ (toString n).toList := fun mem => by
  rw [isDigit_of_mem_decimal mem] at other
  cases other

end RequestTarget
