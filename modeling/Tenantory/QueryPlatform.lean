import Tenantory.ApplicationState
import Mathlib.Data.Char
import Mathlib.Data.List.Lex
import Mathlib.Data.List.Sort

/-! What list queries are made of: patterns, ORDER BY and pages. The functions of
the language runtime and of the database's configuration that the services only
call are the fields of `Platform`. -/

namespace Tenantory

/-! ## Patterns -/

/-- Matches `pattern`, in which `many` stands for any text, `single` for one character
and a backslash for the character after it. -/
def wildcard (many single : Char) : List Char → List Char → Bool
  | [], text => text.isEmpty
  | '\\' :: p :: pattern, text =>
      match text with
      | [] => false
      | c :: text => c == p && wildcard many single pattern text
  | p :: pattern, text =>
      if p == many then text.tails.any (wildcard many single pattern)
      else
        match text with
        | [] => false
        | c :: text => (p == single || p == c) && wildcard many single pattern text

theorem wildcard_literal {many single p : Char} (plain : p ≠ many ∧ p ≠ single ∧ p ≠ '\\')
    (pattern : List Char) (c : Char) (text : List Char) :
    wildcard many single (p :: pattern) (c :: text) =
      (p == c && wildcard many single pattern text) := by
  obtain ⟨no_many, no_single, no_escape⟩ := plain
  rw [wildcard.eq_def]
  split
  · contradiction
  · rename_i heq
    exact absurd (List.cons.inj heq).1 no_escape
  · rename_i heq
    cases heq
    have other : (p == single) = false := by simpa using no_single
    simp [no_many, other]

theorem wildcard_literal_nil {many single p : Char}
    (plain : p ≠ many ∧ p ≠ single ∧ p ≠ '\\')
    (pattern : List Char) : wildcard many single (p :: pattern) [] = false := by
  obtain ⟨no_many, no_single, no_escape⟩ := plain
  rw [wildcard.eq_def]
  split
  · contradiction
  · rfl
  · rename_i heq
    cases heq
    simp [no_many]

/-- Characters that are no wildcards match themselves only. -/
theorem prefix_of_wildcard {many single : Char} {start rest text : List Char}
    (plain : ∀ c ∈ start, c ≠ many ∧ c ≠ single ∧ c ≠ '\\')
    (h : wildcard many single (start ++ rest) text = true) : start <+: text := by
  induction start generalizing text with
  | nil => exact List.nil_prefix
  | cons p start ih =>
      have first := plain p List.mem_cons_self
      cases text with
      | nil => rw [List.cons_append, wildcard_literal_nil first] at h; cases h
      | cons c text =>
          rw [List.cons_append, wildcard_literal first] at h
          have both : p = c ∧ wildcard many single (start ++ rest) text = true := by simpa using h
          obtain ⟨rfl, tail⟩ := both
          exact (List.prefix_cons_inj p).mpr
            (ih (fun d hd => plain d (List.mem_cons_of_mem _ hd)) tail)

/-! ## Sort keys -/

inductive SortOrder
  | asc | desc
  deriving DecidableEq

def SortOrder.text : SortOrder → String
  | asc => "ASC"
  | desc => "DESC"

inductive SortValue
  | text (s : String)
  | number (q : ℚ)
  | null
  deriving DecidableEq

/-- What ORDER BY sees: the stock rows alone, next to their joined variant or warehouse, or
the distinct ids that are selected from the joined rows. -/
inductive SortPlace
  | alone | joined | distinct
  deriving DecidableEq

/-- What the services use of the runtime and of the servers' configuration. -/
structure Platform where
  toLowerCase : String → String
  normalizeNFD : String → String
  /-- the first 16 digits of the SHA-1 digest of a JSON text -/
  digest : Json → String
  /-- `a ≤ b` in the collation of the database -/
  collate : String → String → Bool
  /-- the case folding of ILIKE -/
  fold : String → String
  /-- `new Date(text).getTime()` -/
  dateTime : String → Option ℤ
  /-- what the server reads for a timestamp parameter -/
  timestamp : String → Except Err ℤ
  /-- how the server reads a text in ORDER BY of a stock listing -/
  sortText : SortPlace → String → Except Err (Database → StockLevel → Except Err SortValue)

namespace Platform

def ilike (platform : Platform) (pattern text : String) : Bool :=
  wildcard '%' '_' (platform.fold pattern).toList (platform.fold text).toList

/-- NULL is larger than every value. -/
def le (platform : Platform) : SortValue → SortValue → Bool
  | _, .null => true
  | .null, _ => false
  | .text a, .text b => platform.collate a b
  | .number a, .number b => a ≤ b
  | .text _, .number _ => true
  | .number _, .text _ => false

variable {ρ : Type} [Entity ρ]

/-- Whether `r` may stand before `s`: by their keys, and by rank where these are equal. -/
def precedes (platform : Platform) (ties : Uuid → ℕ) (order : SortOrder)
    (key : ρ → SortValue)
    (r s : ρ) : Bool :=
  let le := fun a b => match order with
    | .asc => platform.le (key a) (key b)
    | .desc => platform.le (key b) (key a)
  le r s && (!le s r || ties (Entity.id r) ≤ ties (Entity.id s))

def orderBy (platform : Platform) (ties : Uuid → ℕ) (order : SortOrder) (key : ρ → SortValue)
    (rows : List ρ) : List ρ :=
  rows.insertionSort fun r s => platform.precedes ties order key r s = true

/-- The collation puts any two texts in an order. -/
structure Ordered (platform : Platform) : Prop where
  total : ∀ a b, platform.collate a b = true ∨ platform.collate b a = true
  trans : ∀ a b c, platform.collate a b = true → platform.collate b c = true →
    platform.collate a c = true

section Ordered

variable {platform : Platform} (ordered : platform.Ordered) {ties : Uuid → ℕ}
  {order : SortOrder}
  {key : ρ → SortValue}

include ordered

theorem le_or_le (a b : SortValue) : platform.le a b = true ∨ platform.le b a = true := by
  cases a with
  | text a =>
      cases b with
      | text b => exact ordered.total a b
      | number _ => exact .inl rfl
      | null => exact .inl rfl
  | number a =>
      cases b with
      | text _ => exact .inr rfl
      | number b => simpa [le] using le_total a b
      | null => exact .inl rfl
  | null => exact .inr (by cases b <;> rfl)

theorem le_of_le_of_le (a b c : SortValue) (h : platform.le a b = true)
    (h' : platform.le b c = true) :
    platform.le a c = true := by
  cases c with
  | null => cases a <;> rfl
  | text c =>
      cases b with
      | text b =>
          cases a with
          | text a => exact ordered.trans a b c h h'
          | number _ => exact h
          | null => exact h
      | number _ => cases h'
      | null => cases h'
  | number c =>
      cases b with
      | number b =>
          cases a with
          | number a => simp only [le, decide_eq_true_eq] at h h' ⊢; exact h.trans h'
          | text _ => rfl
          | null => exact h
      | text _ =>
          cases a with
          | text _ => rfl
          | number _ => cases h
          | null => exact h
      | null => cases h'

theorem precedes_total (r s : ρ) : platform.precedes ties order key r s = true ∨
    platform.precedes ties order key s r = true := by
  have keys := fun a b => le_or_le ordered a b
  have ranks := Nat.le_total (ties (Entity.id r)) (ties (Entity.id s))
  cases order <;> simp only [precedes, Bool.and_eq_true, Bool.or_eq_true, Bool.not_eq_true',
    decide_eq_true_eq] <;> grind

theorem precedes_trans (r s t : ρ) (h : platform.precedes ties order key r s = true)
    (h' : platform.precedes ties order key s t = true) :
    platform.precedes ties order key r t = true := by
  have keys := fun a b c => le_of_le_of_le ordered a b c
  cases order <;> simp only [precedes, Bool.and_eq_true, Bool.or_eq_true, Bool.not_eq_true',
    decide_eq_true_eq] at h h' ⊢ <;> grind

/-- ORDER BY puts the rows in the order of their keys. -/
theorem pairwise_orderBy (rows : List ρ) :
    (platform.orderBy ties .asc key rows).Pairwise
      fun r s => platform.le (key r) (key s) = true := by
  have total : Std.Total fun r s => platform.precedes ties .asc key r s = true :=
    ⟨precedes_total ordered⟩
  have trans : IsTrans ρ fun r s => platform.precedes ties .asc key r s = true :=
    ⟨precedes_trans ordered⟩
  refine (List.pairwise_insertionSort _ rows).imp fun {r s} first => ?_
  simp only [precedes, Bool.and_eq_true] at first
  exact first.1

end Ordered

/-- A platform for texts in ASCII. -/
def ascii : Platform where
  toLowerCase s := String.ofList (s.toList.map Char.toLower)
  normalizeNFD s := s
  digest _ := ""
  collate a b := decide (a.toList ≤ b.toList)
  fold s := String.ofList (s.toList.map Char.toLower)
  dateTime _ := none
  timestamp _ := .error .invalidText
  sortText _ _ := .ok fun _ _ => .ok .null

end Platform

theorem perm_orderBy {ρ : Type} [Entity ρ] (platform : Platform) (ties : Uuid → ℕ)
    (order : SortOrder) (key : ρ → SortValue) (rows : List ρ) :
    (platform.orderBy ties order key rows).Perm rows := List.perm_insertionSort _ rows

/-- A query without ORDER BY: every row has the same key. -/
def unordered {ρ : Type} (_ : ρ) : SortValue := .null

/-- OFFSET and LIMIT. -/
def window {ρ : Type} (skip : ℕ) (take : Option ℕ) (rows : List ρ) : List ρ :=
  match take with
  | some n => (rows.drop skip).take n
  | none => rows.drop skip

/-- OFFSET of a page: a double in the request's arithmetic, and a bigint for the server. -/
def offset (page limit : ℕ) : Except Err ℕ :=
  match Double.round (page - 1 : ℕ) * Double.round limit with
  | .finite skip _ => if skip < 2 ^ 63 then .ok ⌊skip⌋.toNat else .error .outOfRange
  | _ => .error .undefinedColumn

/-- The rows before a page are skipped while doubles and bigints count them exactly. -/
theorem offset_eq {page limit : ℕ} (small : page - 1 < 2 ^ 53) (small' : limit < 2 ^ 53)
    (few : (page - 1) * limit < 2 ^ 53) : offset page limit = .ok ((page - 1) * limit) := by
  have product : Double.round (page - 1 : ℕ) * Double.round limit =
      .finite ((page - 1) * limit : ℕ) (Double.onGrid_nat few) := by
    rw [Double.round_nat small, Double.round_nat small', ← Double.round_nat few, Nat.cast_mul]
    rfl
  have within : (((page - 1) * limit : ℕ) : ℚ) < 2 ^ 63 := by
    have below : (page - 1) * limit < 2 ^ 63 := few.trans (by norm_num)
    exact_mod_cast below
  unfold offset
  rw [product]
  simp only [if_pos within, Int.floor_natCast, Int.toNat_natCast]

/-- `Math.ceil(total / limit)` -/
def pageCount (total limit : ℕ) : ℕ := (total + limit - 1) / limit

def paginated {ρ : Type} (data : List ρ) (totalItems totalPages page limit : ℕ)
    (link : ℕ → String) : PaginatedResponse ρ where
  data := data
  pageMeta :=
    { totalItems, itemCount := data.length, totalPages, itemsPerPage := limit, currentPage := page }
  links :=
    { first := link 1
      previous := if page > 1 then some (link (page - 1)) else none
      next := if page < totalPages then some (link (page + 1)) else none
      last := link totalPages }

end Tenantory
