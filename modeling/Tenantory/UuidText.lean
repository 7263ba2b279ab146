import Mathlib.Data.BitVec
import Mathlib.Data.Nat.Notation
import Mathlib.Logic.Function.Basic
import Mathlib.Tactic.Ring

/-! The text form of 128-bit identifiers. `uuidIn` reads what a database server
reads as a uuid: sixteen bytes in hexadecimal digits of either case, a hyphen
allowed after every second byte, optional braces around the whole. `uuidOut`
writes the one canonical spelling, in lower case and grouped 8-4-4-4-12. -/

namespace Tenantory

abbrev Uuid := BitVec 128

namespace UuidText

def hexValue (c : Char) : Option ℕ :=
  if '0' ≤ c ∧ c ≤ '9' then some (c.toNat - '0'.toNat)
  else if 'a' ≤ c ∧ c ≤ 'f' then some (c.toNat - 'a'.toNat + 10)
  else if 'A' ≤ c ∧ c ≤ 'F' then some (c.toNat - 'A'.toNat + 10)
  else none

def hexDigit (n : ℕ) : Char :=
  if n < 10 then Char.ofNat ('0'.toNat + n) else Char.ofNat ('a'.toNat + n - 10)

/-- Reads `n` more bytes onto `acc`; byte `16 - n` is the next one. -/
def readBytes : ℕ → ℕ → List Char → Option (ℕ × List Char)
  | 0, acc, rest => some (acc, rest)
  | n + 1, acc, c :: d :: rest => do
      let high ← hexValue c
      let low ← hexValue d
      let skipped := match rest with
        | '-' :: rest' => if (15 - n) % 2 = 1 ∧ 0 < n then rest' else rest
        | _ => rest
      readBytes n (acc * 256 + (high * 16 + low)) skipped
  | _ + 1, _, _ => none

def uuidIn (text : String) : Option Uuid :=
  match text.toList with
  | '{' :: chars => do
      let (value, rest) ← readBytes 16 0 chars
      if rest = ['}'] then some (BitVec.ofNat 128 value) else none
  | chars => do
      let (value, rest) ← readBytes 16 0 chars
      if rest = [] then some (BitVec.ofNat 128 value) else none

/-- The last `n` bytes of `value`, a hyphen before those that open a group. -/
def writeBytes (value : ℕ) : ℕ → List Char
  | 0 => []
  | n + 1 =>
      let byte := value / 256 ^ n % 256
      let digits := hexDigit (byte / 16) :: hexDigit (byte % 16) :: writeBytes value n
      if n = 11 ∨ n = 9 ∨ n = 7 ∨ n = 5 then '-' :: digits else digits

def uuidOut (u : Uuid) : String := String.ofList (writeBytes u.toNat 16)

/-! ## The canonical spelling is read back -/

theorem hexValue_hexDigit {n : ℕ} (h : n < 16) : hexValue (hexDigit n) = some n := by
  decide +revert

theorem hexDigit_ne_hyphen {n : ℕ} (h : n < 16) : hexDigit n ≠ '-' := by
  decide +revert

theorem hexDigit_ne_brace {n : ℕ} (h : n < 16) : hexDigit n ≠ '{' := by
  decide +revert

def dropHyphen : List Char → List Char
  | '-' :: rest => rest
  | rest => rest

theorem dropHyphen_of_ne {c : Char} (h : c ≠ '-') (rest : List Char) :
    dropHyphen (c :: rest) = c :: rest := by
  unfold dropHyphen
  split
  · rename_i heq
    exact absurd (List.cons.inj heq).1 h
  · rfl

theorem writeBytes_succ (value n : ℕ) :
    writeBytes value (n + 1) =
      if n = 11 ∨ n = 9 ∨ n = 7 ∨ n = 5 then
        '-' :: hexDigit (value / 256 ^ n % 256 / 16) :: hexDigit (value / 256 ^ n % 256 % 16) ::
          writeBytes value n
      else
        hexDigit (value / 256 ^ n % 256 / 16) :: hexDigit (value / 256 ^ n % 256 % 16) ::
          writeBytes value n := rfl

/-- What stands after the hyphen, if there is one, are the digits of the next byte. -/
theorem dropHyphen_writeBytes (value n : ℕ) :
    dropHyphen (writeBytes value (n + 1)) =
      hexDigit (value / 256 ^ n % 256 / 16) :: hexDigit (value / 256 ^ n % 256 % 16) ::
        writeBytes value n := by
  have plain := dropHyphen_of_ne (hexDigit_ne_hyphen (n := value / 256 ^ n % 256 / 16) (by omega))
  rw [writeBytes_succ]
  split
  · rfl
  · exact plain _

/-- The reader skips exactly the hyphens that the writer puts. -/
theorem skipped_eq (value n : ℕ) (hn : n ≤ 15) :
    (match writeBytes value n with
      | '-' :: rest' => if (15 - n) % 2 = 1 ∧ 0 < n then rest' else writeBytes value n
      | _ => writeBytes value n) = dropHyphen (writeBytes value n) := by
  cases n with
  | zero => rfl
  | succ m =>
      have first := hexDigit_ne_hyphen (n := value / 256 ^ m % 256 / 16) (by omega)
      by_cases group : m = 11 ∨ m = 9 ∨ m = 7 ∨ m = 5
      · have odd : (15 - (m + 1)) % 2 = 1 ∧ 0 < m + 1 := by omega
        simp only [writeBytes_succ, if_pos group, if_pos odd, dropHyphen]
      · rw [dropHyphen_writeBytes]
        simp only [writeBytes_succ, if_neg group]
        split
        · rename_i heq
          exact absurd (List.cons.inj heq).1 first
        · rfl

theorem readBytes_writeBytes (value n acc : ℕ) (hn : n ≤ 16) :
    readBytes n acc (dropHyphen (writeBytes value n)) =
      some (acc * 256 ^ n + value % 256 ^ n, []) := by
  induction n generalizing acc with
  | zero => simp [writeBytes, dropHyphen, readBytes, Nat.mod_one]
  | succ n ih =>
      have byte : value / 256 ^ n % 256 / 16 * 16 + value / 256 ^ n % 256 % 16 =
          value / 256 ^ n % 256 := by omega
      have split : value % 256 ^ (n + 1) =
          value / 256 ^ n % 256 * 256 ^ n + value % 256 ^ n := by
        rw [pow_succ, Nat.mod_mul]
        ring
      have skip := skipped_eq value n (by omega)
      rw [dropHyphen_writeBytes]
      simp only [readBytes, hexValue_hexDigit (show value / 256 ^ n % 256 / 16 < 16 by omega),
        hexValue_hexDigit (show value / 256 ^ n % 256 % 16 < 16 by omega), Option.bind_eq_bind,
        Option.bind_some]
      rw [byte]
      refine Eq.trans (congrArg _ skip) ?_
      rw [ih _ (by omega), split]
      ring_nf

@[simp] theorem uuidIn_uuidOut (u : Uuid) : uuidIn (uuidOut u) = some u := by
  have noHyphen : dropHyphen (writeBytes u.toNat 16) = writeBytes u.toNat 16 := by
    rw [dropHyphen_writeBytes]
    simp [writeBytes]
  have read := readBytes_writeBytes u.toNat 16 0 (by omega)
  have whole : u.toNat % 256 ^ 16 = u.toNat := Nat.mod_eq_of_lt u.isLt
  rw [noHyphen, whole, Nat.zero_mul, Nat.zero_add] at read
  have brace := hexDigit_ne_brace (n := u.toNat / 256 ^ 15 % 256 / 16) (by omega)
  have noBrace : ∀ rest, writeBytes u.toNat 16 ≠ '{' :: rest := by
    intro rest h
    rw [← noHyphen, dropHyphen_writeBytes] at h
    exact brace (List.cons.inj h).1
  unfold uuidIn uuidOut
  rw [String.toList_ofList]
  split
  · rename_i chars heq
    exact absurd heq (noBrace chars)
  · simp [read]

theorem uuidOut_injective : Function.Injective uuidOut := fun u v h => by
  have read := uuidIn_uuidOut u
  rw [h, uuidIn_uuidOut] at read
  exact (Option.some.inj read).symm

theorem length_uuidOut (u : Uuid) : (uuidOut u).toList.length = 36 := by
  rw [uuidOut, String.toList_ofList]
  simp [writeBytes]

/-- The spelling consists of digits and hyphens. -/
theorem of_mem_writeBytes {p : Char → Prop} (hyphen : p '-') (digit : ∀ n < 16, p (hexDigit n))
    {value n : ℕ} {c : Char} (h : c ∈ writeBytes value n) : p c := by
  induction n with
  | zero => cases h
  | succ n ih =>
      have digits : c ∈ hexDigit (value / 256 ^ n % 256 / 16) ::
          hexDigit (value / 256 ^ n % 256 % 16) :: writeBytes value n → p c := by
        intro hc
        rcases List.mem_cons.mp hc with rfl | hc
        · exact digit _ (by omega)
        rcases List.mem_cons.mp hc with rfl | hc
        · exact digit _ (by omega)
        exact ih hc
      rw [writeBytes_succ] at h
      split at h
      · rcases List.mem_cons.mp h with rfl | h
        · exact hyphen
        · exact digits h
      · exact digits h

example : uuidOut 0x0f3c = "00000000-0000-0000-0000-000000000f3c" := by decide

example : uuidIn "\x7b00000000000000000000-000000000F3C\x7d" = some 0x0f3c := by decide

end UuidText
end Tenantory
