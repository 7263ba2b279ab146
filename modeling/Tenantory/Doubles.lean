import Mathlib.Data.Int.Log
import Mathlib.Data.Rat.Floor
import Mathlib.Tactic.Linarith
import Mathlib.Tactic.Positivity

/-! The numbers of the language: binary floating point with 53 bits, rounded to the
nearest value and to the even one of two. Zero has no sign here. -/

namespace Tenantory

/-- The finite values. -/
def OnGrid (q : ℚ) : Prop :=
  ∃ m e : ℤ, |m| < 2 ^ 53 ∧ -1074 ≤ e ∧ e ≤ 971 ∧ q = m * 2 ^ e

inductive Double
  | finite (q : ℚ) (held : OnGrid q)
  | infinite (negative : Bool)
  | nan
  deriving DecidableEq

namespace Double

/-! ## Rounding -/

/-- The nearest integer, and the even one of two. -/
def nearest (q : ℚ) : ℤ :=
  if q - ⌊q⌋ < 1 / 2 then ⌊q⌋
  else if 1 / 2 < q - ⌊q⌋ ∨ ⌊q⌋ % 2 = 1 then ⌊q⌋ + 1
  else ⌊q⌋

/-- The spacing of the values near `q`, as a power of two. -/
def spacing (q : ℚ) : ℤ := max (-1074) (Int.log 2 q - 52)

/-- `q` moved to the values near it. -/
def moved (q : ℚ) : ℚ := nearest (q / 2 ^ spacing q) * 2 ^ spacing q

theorem nearest_le {q : ℚ} {z : ℤ} (le : q ≤ z) : nearest q ≤ z := by
  have floor_le : ⌊q⌋ ≤ z := Int.cast_le.mp ((Int.floor_le q).trans le)
  unfold nearest
  split
  · exact floor_le
  · rename_i half
    have less : ⌊q⌋ < z := by
      refine lt_of_le_of_ne floor_le fun same => half ?_
      rw [same]
      linarith
    split <;> omega

theorem le_nearest {q : ℚ} {z : ℤ} (le : (z : ℚ) ≤ q) : z ≤ nearest q := by
  have le_floor : z ≤ ⌊q⌋ := Int.le_floor.mpr le
  unfold nearest
  split
  · exact le_floor
  · split <;> omega

theorem nearest_int (z : ℤ) : nearest z = z := le_antisymm (nearest_le le_rfl) (le_nearest le_rfl)

theorem two_zpow_pos (e : ℤ) : (0 : ℚ) < 2 ^ e := zpow_pos (by norm_num) e

theorem log_le {q : ℚ} (pos : 0 < q) : (2 : ℚ) ^ Int.log 2 q ≤ q := by
  simpa using Int.zpow_log_le_self (b := 2) (by norm_num) pos

theorem lt_log (q : ℚ) : q < (2 : ℚ) ^ (Int.log 2 q + 1) := by
  simpa using Int.lt_zpow_succ_log_self (b := 2) (by norm_num) q

theorem cast_two_pow (k : ℕ) : ((2 ^ k : ℤ) : ℚ) = 2 ^ (k : ℤ) := by
  rw [zpow_natCast]
  exact Int.cast_pow 2 k

theorem zpow_mul (a b : ℤ) : (2 : ℚ) ^ a * 2 ^ b = 2 ^ (a + b) :=
  (zpow_add₀ (by norm_num) a b).symm

theorem zpow_le {a b : ℤ} (le : a ≤ b) : (2 : ℚ) ^ a ≤ 2 ^ b :=
  zpow_le_zpow_right₀ (by norm_num) le

/-- A value from `q` on is a whole number of spacings near `q`. -/
theorem spaced {q c : ℚ} (pos : 0 < q) (le : q ≤ c) (held : OnGrid c) :
    ∃ z : ℤ, c = z * 2 ^ spacing q := by
  obtain ⟨m, e, small, least, -, rfl⟩ := held
  have fits : spacing q ≤ e := by
    by_contra above
    have large : Int.log 2 q - 52 > e := by
      unfold spacing at above
      omega
    have most : (m : ℚ) ≤ 2 ^ (53 : ℤ) := by
      have := (abs_lt.mp small).2
      exact_mod_cast this.le
    have short : (m : ℚ) * 2 ^ e < 2 ^ Int.log 2 q := by
      have lt : (m : ℚ) < 2 ^ (53 : ℤ) := by exact_mod_cast (abs_lt.mp small).2
      calc (m : ℚ) * 2 ^ e < 2 ^ (53 : ℤ) * 2 ^ e := by
            exact mul_lt_mul_of_pos_right lt (two_zpow_pos e)
        _ = 2 ^ (53 + e) := zpow_mul _ _
        _ ≤ 2 ^ Int.log 2 q := zpow_le (by omega)
    linarith [log_le pos]
  refine ⟨m * 2 ^ (e - spacing q).toNat, ?_⟩
  have split : e = ((e - spacing q).toNat : ℤ) + spacing q := by omega
  push_cast
  rw [mul_assoc, ← zpow_natCast, ← zpow_add₀ (by norm_num), ← split]

/-- Rounding does not pass a value. -/
theorem moved_le {q c : ℚ} (pos : 0 < q) (le : q ≤ c) (held : OnGrid c) : moved q ≤ c := by
  obtain ⟨z, rfl⟩ := spaced pos le held
  have step := two_zpow_pos (spacing q)
  have quotient : q / 2 ^ spacing q ≤ z := (div_le_iff₀ step).mpr le
  exact mul_le_mul_of_nonneg_right (Int.cast_le.mpr (nearest_le quotient)) step.le

theorem moved_nonneg {q : ℚ} (nonneg : 0 ≤ q) : 0 ≤ moved q := by
  have step := two_zpow_pos (spacing q)
  refine mul_nonneg ?_ step.le
  have quotient : ((0 : ℤ) : ℚ) ≤ q / 2 ^ spacing q := by
    simpa using div_nonneg nonneg step.le
  exact_mod_cast le_nearest quotient

/-- A value is its own rounding. -/
theorem moved_held {q : ℚ} (nonneg : 0 ≤ q) (held : OnGrid q) : moved q = q := by
  rcases nonneg.eq_or_lt with rfl | pos
  · have zero := nearest_int 0
    rw [Int.cast_zero] at zero
    simp [moved, zero]
  · obtain ⟨z, same⟩ := spaced pos le_rfl held
    have step := two_zpow_pos (spacing q)
    have quotient : q / 2 ^ spacing q = z := (div_eq_iff step.ne').mpr same
    rw [moved, quotient, nearest_int, ← same]

/-- Rounding does not pass the power of two below. -/
theorem log_le_moved {q : ℚ} (pos : 0 < q) (normal : -1074 ≤ Int.log 2 q - 52) :
    (2 : ℚ) ^ Int.log 2 q ≤ moved q := by
  have same : spacing q = Int.log 2 q - 52 := max_eq_right normal
  have step := two_zpow_pos (spacing q)
  have power : (2 : ℚ) ^ Int.log 2 q = ((2 ^ 52 : ℤ) : ℚ) * 2 ^ spacing q := by
    rw [cast_two_pow, same, zpow_mul]
    congr 1
    omega
  have quotient : ((2 ^ 52 : ℤ) : ℚ) ≤ q / 2 ^ spacing q :=
    (le_div_iff₀ step).mpr (power ▸ log_le pos)
  rw [power, moved]
  exact mul_le_mul_of_nonneg_right (Int.cast_le.mpr (le_nearest quotient)) step.le

theorem onGrid_moved {q : ℚ} (nonneg : 0 ≤ q) (small : moved q < 2 ^ 1024) :
    OnGrid (moved q) := by
  have step := two_zpow_pos (spacing q)
  have least : -1074 ≤ spacing q := le_max_left _ _
  have low : 0 ≤ nearest (q / 2 ^ spacing q) :=
    le_nearest (by simpa using div_nonneg nonneg step.le)
  have high : nearest (q / 2 ^ spacing q) ≤ 2 ^ 53 := by
    refine nearest_le ((div_le_iff₀ step).mpr ?_)
    rw [cast_two_pow, zpow_mul]
    refine (lt_log q).le.trans (zpow_le ?_)
    unfold spacing
    omega
  have most : spacing q ≤ 971 := by
    by_contra above
    have normal : -1074 ≤ Int.log 2 q - 52 := by
      unfold spacing at above
      omega
    have pos : 0 < q := by
      refine nonneg.lt_of_ne fun zero => above ?_
      rw [← zero, spacing, Int.log_zero_right]
      norm_num
    have power : (2 : ℚ) ^ 1024 ≤ 2 ^ Int.log 2 q := by
      refine zpow_natCast (2 : ℚ) 1024 ▸ zpow_le ?_
      unfold spacing at above
      omega
    exact absurd small (not_lt.mpr (power.trans (log_le_moved pos normal)))
  rcases high.lt_or_eq with less | full
  · refine ⟨nearest (q / 2 ^ spacing q), spacing q, ?_, least, most, rfl⟩
    rwa [abs_of_nonneg low]
  · -- a full significand is the next power of two
    have value : moved q = ((2 ^ 52 : ℤ) : ℚ) * 2 ^ (spacing q + 1) := by
      rw [moved, full, cast_two_pow, cast_two_pow, zpow_mul, zpow_mul]
      congr 1
      omega
    refine ⟨2 ^ 52, spacing q + 1, by norm_num, by omega, ?_, value⟩
    by_contra above
    have top : spacing q = 971 := by omega
    rw [value, top, cast_two_pow, zpow_mul] at small
    exact small.ne (zpow_natCast (2 : ℚ) 1024)

theorem onGrid_zero : OnGrid 0 := ⟨0, 0, by norm_num, by norm_num, by norm_num, by norm_num⟩

theorem onGrid_neg {q : ℚ} (held : OnGrid q) : OnGrid (-q) := by
  obtain ⟨m, e, small, least, most, rfl⟩ := held
  exact ⟨-m, e, by rwa [abs_neg], least, most, by push_cast; ring⟩

/-- A whole number of 53 bits. -/
theorem onGrid_nat {n : ℕ} (small : n < 2 ^ 53) : OnGrid n := by
  refine ⟨n, 0, ?_, by norm_num, by norm_num, by simp⟩
  rw [Nat.abs_cast]
  exact_mod_cast small

/-- Powers of two only move the point. -/
theorem onGrid_mul_pow {q : ℚ} (k : ℕ) (held : OnGrid q) (small : |q| * 2 ^ k < 2 ^ 1024) :
    OnGrid (q * 2 ^ k) := by
  obtain ⟨m, e, bits, least, most, rfl⟩ := held
  have shifted : (m : ℚ) * 2 ^ e * 2 ^ k = m * 2 ^ (e + k) := by
    rw [mul_assoc, ← zpow_natCast, zpow_mul]
  rcases le_or_gt (e + k) 971 with fits | above
  · exact ⟨m, e + k, bits, by omega, fits, shifted⟩
  · have split : e + k = ((e + k - 971).toNat : ℤ) + 971 := by omega
    have value : (m : ℚ) * 2 ^ (e + k) =
        ((m * 2 ^ (e + k - 971).toNat : ℤ) : ℚ) * 2 ^ (971 : ℤ) := by
      rw [Int.cast_mul, cast_two_pow, mul_assoc, zpow_mul, ← split]
    refine ⟨m * 2 ^ (e + k - 971).toNat, 971, ?_, by norm_num, le_rfl, shifted.trans value⟩
    have size : |(m : ℚ) * 2 ^ e| * 2 ^ k =
        ((|m * 2 ^ (e + k - 971).toNat| : ℤ) : ℚ) * 2 ^ (971 : ℤ) := by
      rw [← abs_of_pos (show (0 : ℚ) < 2 ^ k by positivity), ← abs_mul, shifted,
        value, abs_mul,
        abs_of_pos (two_zpow_pos 971), Int.cast_abs]
    have bound : ((|m * 2 ^ (e + k - 971).toNat| : ℤ) : ℚ) * 2 ^ (971 : ℤ) <
        ((2 ^ 53 : ℤ) : ℚ) * 2 ^ (971 : ℤ) := by
      rw [← size, cast_two_pow, zpow_mul]
      exact small.trans_eq (zpow_natCast (2 : ℚ) 1024).symm
    exact Int.cast_lt.mp (lt_of_mul_lt_mul_right bound (two_zpow_pos 971).le)

/-- The value nearest to a magnitude. -/
def magnitude (q : ℚ) (nonneg : 0 ≤ q) : Double :=
  if small : moved q < 2 ^ 1024 then .finite (moved q) (onGrid_moved nonneg small)
  else .infinite false

def neg : Double → Double
  | .finite q held => .finite (-q) (onGrid_neg held)
  | .infinite negative => .infinite !negative
  | .nan => .nan

def round (q : ℚ) : Double :=
  if nonneg : 0 ≤ q then magnitude q nonneg
  else (magnitude (-q) (neg_nonneg.mpr (le_of_not_ge nonneg))).neg

/-- The finite values are bounded. -/
theorem abs_lt_of_held {q : ℚ} (held : OnGrid q) : |q| < 2 ^ 1024 := by
  obtain ⟨m, e, bits, -, most, rfl⟩ := held
  have size : |(m : ℚ)| < ((2 ^ 53 : ℤ) : ℚ) := by
    rw [← Int.cast_abs]
    exact Int.cast_lt.mpr bits
  rw [abs_mul, abs_of_pos (two_zpow_pos e)]
  calc |(m : ℚ)| * 2 ^ e < ((2 ^ 53 : ℤ) : ℚ) * 2 ^ e :=
        mul_lt_mul_of_pos_right size (two_zpow_pos e)
    _ = 2 ^ (53 + e) := by
        rw [cast_two_pow, zpow_mul]
        rfl
    _ ≤ 2 ^ (1024 : ℤ) := zpow_le (by omega)
    _ = 2 ^ 1024 := zpow_natCast (2 : ℚ) 1024

theorem round_nonneg {q : ℚ} (nonneg : 0 ≤ q) : round q = magnitude q nonneg := dif_pos nonneg

theorem round_held {q : ℚ} (nonneg : 0 ≤ q) (held : OnGrid q) : round q = .finite q held := by
  have same := moved_held nonneg held
  have small := (le_abs_self q).trans_lt (abs_lt_of_held held)
  rw [round_nonneg nonneg, magnitude, dif_pos (same.symm ▸ small)]
  simp only [same]

theorem round_nat {n : ℕ} (small : n < 2 ^ 53) : round n = .finite n (onGrid_nat small) :=
  round_held (Nat.cast_nonneg n) (onGrid_nat small)

/-- A magnitude that is not above a value rounds to one that is not above it. -/
theorem round_within {q c : ℚ} (nonneg : 0 ≤ q) (le : q ≤ c) (held : OnGrid c) :
    ∃ d held, round q = .finite d held ∧ 0 ≤ d ∧ d ≤ c := by
  have small := (le_abs_self c).trans_lt (abs_lt_of_held held)
  have most : moved q ≤ c := by
    rcases nonneg.eq_or_lt with rfl | pos
    · rw [moved_held le_rfl onGrid_zero]
      exact le
    · exact moved_le pos le held
  rw [round_nonneg nonneg, magnitude, dif_pos (most.trans_lt small)]
  exact ⟨_, _, rfl, moved_nonneg nonneg, most⟩

theorem round_large {q : ℚ} (large : 2 ^ 1024 ≤ q) : round q = .infinite false := by
  have pos : 0 < q := lt_of_lt_of_le (by positivity) large
  have log : 1024 ≤ Int.log 2 q := by
    refine (Int.zpow_le_iff_le_log (by norm_num) pos).mp ?_
    exact (zpow_natCast (2 : ℚ) 1024).trans_le large
  have above : ¬ moved q < 2 ^ 1024 := by
    refine not_lt.mpr (le_trans ?_ (log_le_moved pos (by omega)))
    exact (zpow_natCast (2 : ℚ) 1024).symm.trans_le (zpow_le log)
  rw [round_nonneg pos.le, magnitude, dif_neg above]

/-! ## Arithmetic -/

/-- A literal is rounded, too. -/
instance (n : ℕ) [n.AtLeastTwo] : OfNat Double n := ⟨round n⟩

instance : Zero Double := ⟨.finite 0 onGrid_zero⟩

/-- Zero or more. -/
def Nonneg : Double → Prop
  | .finite q _ => 0 ≤ q
  | .infinite negative => negative = false
  | .nan => False

theorem nonneg_round {q : ℚ} (nonneg : 0 ≤ q) : (round q).Nonneg := by
  rw [round_nonneg nonneg, magnitude]
  split
  · exact moved_nonneg nonneg
  · rfl

theorem nonneg_ofNat (n : ℕ) [n.AtLeastTwo] : (OfNat.ofNat n : Double).Nonneg :=
  nonneg_round (Nat.cast_nonneg n)

/-- `x <= y`, which is false for NaN. -/
def le : Double → Double → Prop
  | .finite p _, .finite q _ => p ≤ q
  | .infinite negative, .finite _ _ => negative = true
  | .finite _ _, .infinite negative => negative = false
  | .infinite negative, .infinite negative' => negative = true ∨ negative' = false
  | .nan, _ | _, .nan => False

instance : LE Double := ⟨le⟩

def mul : Double → Double → Double
  | .finite p _, .finite q _ => round (p * q)
  | .finite p _, .infinite negative | .infinite negative, .finite p _ =>
      if p = 0 then .nan else .infinite (negative != decide (p < 0))
  | .infinite negative, .infinite negative' => .infinite (negative != negative')
  | .nan, _ | _, .nan => .nan

instance : Mul Double := ⟨mul⟩

/-- `Math.min` -/
def min : Double → Double → Double
  | .nan, _ | _, .nan => .nan
  | .infinite true, _ | _, .infinite true => .infinite true
  | .infinite false, x | x, .infinite false => x
  | .finite p held, .finite q held' => if p ≤ q then .finite p held else .finite q held'

/-- `Math.pow(2, k)` -/
def powTwo (k : ℕ) : Double := round (2 ^ k)

theorem powTwo_finite {k : ℕ} (small : k < 1024) : ∃ held, powTwo k = .finite (2 ^ k) held := by
  have below : |(1 : ℚ)| * 2 ^ k < 2 ^ 1024 := by
    rw [abs_one, one_mul]
    exact pow_lt_pow_right₀ (by norm_num) small
  have held : OnGrid (2 ^ k) := by
    have one : OnGrid (1 : ℚ) := by simpa using onGrid_nat (n := 1) (by norm_num)
    simpa using onGrid_mul_pow k one below
  exact ⟨held, round_held (by positivity) held⟩

theorem powTwo_infinite {k : ℕ} (large : 1024 ≤ k) : powTwo k = .infinite false :=
  round_large (pow_le_pow_right₀ (by norm_num) large)

/-- Doubling it `k` times gives no finite value. -/
def Overflows (k : ℕ) : Double → Prop
  | .finite q _ => 0 < q ∧ (1024 ≤ k ∨ 2 ^ 1024 ≤ q * 2 ^ k)
  | .infinite _ => True
  | .nan => False

theorem zero_mul_powTwo {k : ℕ} (large : 1024 ≤ k) : (0 : Double) * powTwo k = .nan := by
  rw [powTwo_infinite large]
  rfl

theorem overflows_mul {x : Double} {k : ℕ} (nonneg : x.Nonneg) (overflows : x.Overflows k) :
    x * powTwo k = .infinite false := by
  cases x with
  | nan => cases overflows
  | infinite negative =>
      obtain rfl : negative = false := nonneg
      rcases lt_or_ge k 1024 with small | large
      · obtain ⟨held, same⟩ := powTwo_finite small
        have pos : (0 : ℚ) < 2 ^ k := by positivity
        rw [same]
        refine (if_neg pos.ne').trans ?_
        rw [decide_eq_false (not_lt.mpr pos.le)]
        rfl
      · rw [powTwo_infinite large]
        rfl
  | finite q held =>
      obtain ⟨pos, large⟩ := overflows
      rcases lt_or_ge k 1024 with small | large'
      · obtain ⟨held', same⟩ := powTwo_finite small
        rw [same]
        exact round_large (large.resolve_left (not_le.mpr small))
      · rw [powTwo_infinite large']
        refine (if_neg pos.ne').trans ?_
        rw [decide_eq_false (not_lt.mpr pos.le)]
        rfl

/-- Doubling is exact where it does not overflow. -/
theorem finite_mul_powTwo {q : ℚ} {held : OnGrid q} {k : ℕ} (nonneg : 0 ≤ q)
    (known : q = 0 → k < 1024) (fits : ¬ (finite q held).Overflows k) :
    ∃ held', finite q held * powTwo k = .finite (q * 2 ^ k) held' := by
  have small : k < 1024 := by
    rcases nonneg.eq_or_lt with zero | pos
    · exact known zero.symm
    · exact not_le.mp fun large => fits ⟨pos, .inl large⟩
  obtain ⟨held', same⟩ := powTwo_finite small
  have below : |q| * 2 ^ k < 2 ^ 1024 := by
    rw [abs_of_nonneg nonneg]
    rcases nonneg.eq_or_lt with zero | pos
    · rw [← zero, zero_mul]
      positivity
    · exact not_le.mp fun large => fits ⟨pos, .inr large⟩
  rw [same]
  exact ⟨onGrid_mul_pow k held below,
    round_held (mul_nonneg nonneg (by positivity)) (onGrid_mul_pow k held below)⟩

/-- A part of a magnitude is no more than it. -/
theorem part_le {r c : ℚ} {held : OnGrid r} {held' : OnGrid c} (nonneg : 0 ≤ r) (part : r ≤ 1)
    (nonneg' : 0 ≤ c) :
    0 ≤ finite r held * finite c held' ∧ finite r held * finite c held' ≤ finite c held' := by
  have product : finite r held * finite c held' = round (r * c) := rfl
  obtain ⟨d, held, same, low, high⟩ :=
    round_within (mul_nonneg nonneg nonneg') (mul_le_of_le_one_left nonneg' part) held'
  rw [product, same]
  exact ⟨low, high⟩

end Double
end Tenantory
