import Tenantory.RetryBackoff
import Mathlib.Order.Bounds.Basic

/-! The runs of the retry loop, seen from outside: the calls of the action, the sleeps
between them and what comes out in the end, for any sequence of outcomes. -/

namespace Tenantory
namespace RetryBackoff

inductive Mark
  | called
  | slept (delay : Double)
  deriving DecidableEq

/-- What has been seen of a run. -/
structure Seen where
  calls : ℕ
  draws : ℕ
  marks : List Mark
  deriving DecidableEq

abbrev Watch := StateM Seen

variable {ε α : Type}

/-- The action whose call `i` ends with `outcome i`; the first call is call 1. -/
def watched (outcome : ℕ → Except ε α) : ExceptT ε Watch α :=
  ExceptT.mk fun seen => (outcome (seen.calls + 1),
    { seen with calls := seen.calls + 1, marks := seen.marks ++ [.called] })

def timer (random : ℕ → Double) : Timer Watch where
  random seen := (random (seen.draws + 1), { seen with draws := seen.draws + 1 })
  sleep delay seen := ((), { seen with marks := seen.marks ++ [.slept delay] })

def observe (random : ℕ → Double) (outcome : ℕ → Except ε α) (options : RetryOptions ε)
    (exhausted : ε) : Except ε α × Seen :=
  (retryWithBackoff (timer random) (watched outcome) options exhausted).run ⟨0, 0, []⟩

/-- The longest sleep after attempt `i`. -/
def cap (options : RetryOptions ε) (i : ℕ) : Double :=
  .min (options.baseDelayMs * .powTwo (i - 1)) options.maxDelayMs

/-- Attempt `i` succeeds, or fails for good. -/
def Settles (options : RetryOptions ε) (outcome : ℕ → Except ε α) (i : ℕ) : Prop :=
  (∃ a, outcome i = .ok a) ∨ ∃ e, outcome i = .error e ∧ options.retryableErrors e = false

/-- Attempt `i` is to be the last. -/
def Ends (options : RetryOptions ε) (outcome : ℕ → Except ε α) (i : ℕ) : Prop :=
  Settles options outcome i ∨ (i : ℤ) = options.maxAttempts

/-- The loop variable in round `i`. -/
def counter (i : ℕ) : ℕ := min i (2 ^ 53)

/-- The loop does not go on after round `i`. -/
def Stops (options : RetryOptions ε) (outcome : ℕ → Except ε α) (i : ℕ) : Prop :=
  Settles options outcome i ∨ (counter i : ℤ) = options.maxAttempts

/-- Attempt `i` and the sleep after it. -/
def round (delay : ℕ → Double) (i : ℕ) : List Mark := [.called, .slept (delay i)]

theorem increment_counter (i : ℕ) : increment (counter i) = counter (i + 1) := by
  unfold increment counter
  split <;> omega

/-- From a certain round on the longest sleep is the same. -/
theorem cap_counter (options : RetryOptions ε) (i : ℕ) :
    cap options (counter i) = cap options i := by
  unfold cap counter
  rcases le_total i (2 ^ 53) with few | many
  · rw [min_eq_left few]
  · rw [min_eq_right many, Double.powTwo_infinite (by norm_num),
      Double.powTwo_infinite (k := i - 1) (by omega)]

section Watched

variable {p : ExceptT ε Watch α} {handle : ε → ExceptT ε Watch α} {seen seen' : Seen}

theorem tryCatch_ok {a : α} (ran : p.run seen = (.ok a, seen')) :
    (tryCatch p handle).run seen = (.ok a, seen') := by
  have ran : p seen = (.ok a, seen') := ran
  simp only [tryCatch, tryCatchThe, MonadExceptOf.tryCatch, ExceptT.tryCatch, ExceptT.run_mk,
    bind, StateT.bind]
  rw [ran]
  rfl

theorem tryCatch_error {e : ε} (ran : p.run seen = (.error e, seen')) :
    (tryCatch p handle).run seen = (handle e).run seen' := by
  have ran : p seen = (.error e, seen') := ran
  simp only [tryCatch, tryCatchThe, MonadExceptOf.tryCatch, ExceptT.tryCatch, ExceptT.run_mk,
    bind, StateT.bind]
  rw [ran]
  rfl

end Watched

section Attempts

variable {random : ℕ → Double} {outcome : ℕ → Except ε α} {options : RetryOptions ε}
  {exhausted : ε}
  {left n : ℕ} {marks : List Mark}

theorem run_watched : (watched outcome).run ⟨n, n, marks⟩ =
    (outcome (n + 1), ⟨n + 1, n, marks ++ [.called]⟩) := rfl

/-- The last attempt. -/
theorem retryFrom_stops (stops : Stops options outcome (n + 1)) :
    (retryFrom (timer random) (watched outcome) options exhausted (left + 1)
      (counter (n + 1))).run ⟨n, n, marks⟩ =
        (outcome (n + 1), ⟨n + 1, n, marks ++ [.called]⟩) := by
  unfold retryFrom
  have ran : (watched outcome).run ⟨n, n, marks⟩ = _ := run_watched
  cases result : outcome (n + 1) with
  | ok a =>
      rw [result] at ran
      exact tryCatch_ok ran
  | error e =>
      rw [result] at ran
      rw [tryCatch_error ran]
      have gives_up : (!options.retryableErrors e ||
          (counter (n + 1) : ℤ) == options.maxAttempts) = true := by
        rcases stops with (⟨a, ok⟩ | ⟨e', failed, fatal⟩) | last
        · rw [result] at ok
          cases ok
        · rw [result] at failed
          cases failed
          rw [fatal]
          rfl
        · rw [last]
          simp
      rw [if_pos gives_up]
      rfl

/-- An attempt that is not the last, and the sleep after it. -/
theorem retryFrom_goes_on (more : ¬ Stops options outcome (n + 1)) :
    (retryFrom (timer random) (watched outcome) options exhausted (left + 1)
        (counter (n + 1))).run ⟨n, n, marks⟩ =
      (retryFrom (timer random) (watched outcome) options exhausted left (counter (n + 2))).run
        ⟨n + 1, n + 1, marks ++ round (fun i => random i * cap options i) (n + 1)⟩ := by
  have ran : (watched outcome).run ⟨n, n, marks⟩ = _ := run_watched
  rw [retryFrom]
  cases result : outcome (n + 1) with
  | ok a => exact absurd (.inl (.inl ⟨a, result⟩)) more
  | error e =>
      rw [result] at ran
      rw [tryCatch_error ran]
      have goes : ¬ (!options.retryableErrors e ||
          (counter (n + 1) : ℤ) == options.maxAttempts) = true := by
        intro stops
        rcases Bool.or_eq_true_iff.mp stops with fatal | last
        · exact more (.inl (.inr ⟨e, result, by simpa using fatal⟩))
        · exact more (.inr (beq_iff_eq.mp last))
      rw [if_neg goes, increment_counter]
      have joined : marks ++ round (fun i => random i * cap options i) (n + 1) =
          (marks ++ [.called]) ++
            [.slept (random (n + 1) * cap options (counter (n + 1)))] := by
        rw [cap_counter, List.append_assoc]
        rfl
      rw [joined]
      rfl

/-- The rounds before the one that stops the loop. -/
theorem retryFrom_rounds (random : ℕ → Double) (exhausted : ε) (left : ℕ) (marks : List Mark)
    {j : ℕ} (more : ∀ i, i < j → ¬ Stops options outcome (n + 1 + i)) :
    (retryFrom (timer random) (watched outcome) options exhausted (j + left)
        (counter (n + 1))).run ⟨n, n, marks⟩ =
      (retryFrom (timer random) (watched outcome) options exhausted left
        (counter (n + j + 1))).run ⟨n + j, n + j, marks ++ (List.range' (n + 1) j).flatMap
          (round fun i => random i * cap options i)⟩ := by
  induction j generalizing n marks with
  | zero => simp
  | succ j ih =>
      have later : ∀ i, i < j → ¬ Stops options outcome (n + 1 + 1 + i) := by
        intro i small
        rw [show n + 1 + 1 + i = n + 1 + (i + 1) by omega]
        exact more (i + 1) (by omega)
      rw [show j + 1 + left = j + left + 1 by omega, retryFrom_goes_on (more 0 (Nat.succ_pos j)),
        ih _ later, List.range'_succ, List.flatMap_cons, List.append_assoc marks]
      rw [show n + 1 + j = n + (j + 1) by omega]

end Attempts

/-- The loop calls the action until an attempt succeeds, fails for good or is the last that is
allowed, and comes out as that attempt did; between two attempts it sleeps once. Without any
attempt allowed it throws. -/
structure RetriesAsTold (random : ℕ → Double) (outcome : ℕ → Except ε α)
    (options : RetryOptions ε) (exhausted : ε) : Prop where
  none_allowed : options.maxAttempts ≤ 0 →
    observe random outcome options exhausted = (.error exhausted, ⟨0, 0, []⟩)
  attempts : 1 ≤ options.maxAttempts → ∃ k,
    IsLeast {i | 1 ≤ i ∧ Ends options outcome i} k ∧
    (observe random outcome options exhausted).1 = outcome k ∧
    (observe random outcome options exhausted).2.calls = k ∧
    ∃ delay : ℕ → Double,
      (∀ i, 1 ≤ i → i < k → 0 ≤ delay i ∧ delay i ≤ cap options i) ∧
      (observe random outcome options exhausted).2.marks =
        (List.range' 1 (k - 1)).flatMap (round delay) ++ [.called]

/-- The loop variable comes to `maxAttempts`, or an attempt ends the loop before. -/
def Counted (outcome : ℕ → Except ε α) (options : RetryOptions ε) : Prop :=
  options.maxAttempts ≤ 2 ^ 53 ∨
    ∃ i : ℕ, 1 ≤ i ∧ (i : ℤ) ≤ options.maxAttempts ∧ Settles options outcome i

/-- No sleep comes after more than 1024 attempts without a base delay, and where the longest
sleep has no bound none is drawn as nothing. -/
def Measurable (random : ℕ → Double) (outcome : ℕ → Except ε α)
    (options : RetryOptions ε) : Prop :=
  ∀ i : ℕ, 1 ≤ i → (i : ℤ) < options.maxAttempts →
    (∀ j, 1 ≤ j → j ≤ i → ¬ Ends options outcome j) →
    (options.baseDelayMs = 0 → i ≤ 1024) ∧
      (options.maxDelayMs = .infinite false → options.baseDelayMs.Overflows (i - 1) →
        random i ≠ 0)

/-- `Math.random` draws from 0 up to, but not, 1. -/
def Draw (r : Double) : Prop := ∃ q held, r = .finite q held ∧ 0 ≤ q ∧ q < 1

section Sleeps

variable {options : RetryOptions ε} {r : Double} {i : ℕ}

/-- What the longest sleep is. -/
theorem cap_cases (base : options.baseDelayMs.Nonneg) (most : options.maxDelayMs.Nonneg) :
    (options.baseDelayMs = 0 ∧ 1024 ≤ i - 1 ∧ cap options i = .nan) ∨
    (¬ (options.baseDelayMs = 0 ∧ 1024 ≤ i - 1) ∧ options.maxDelayMs = .infinite false ∧
      options.baseDelayMs.Overflows (i - 1) ∧ cap options i = .infinite false) ∨
    (¬ (options.baseDelayMs = 0 ∧ 1024 ≤ i - 1) ∧
      ¬ (options.maxDelayMs = .infinite false ∧ options.baseDelayMs.Overflows (i - 1)) ∧
      ∃ c held, cap options i = .finite c held ∧ 0 ≤ c) := by
  unfold cap
  generalize options.baseDelayMs = base' at base ⊢
  generalize options.maxDelayMs = most' at most ⊢
  generalize i - 1 = k
  by_cases none : base' = 0 ∧ 1024 ≤ k
  · obtain ⟨rfl, large⟩ := none
    refine .inl ⟨rfl, large, ?_⟩
    rw [Double.zero_mul_powTwo large]
    rfl
  refine .inr ?_
  by_cases overflows : base'.Overflows k
  · rw [Double.overflows_mul base overflows]
    cases most' with
    | nan => cases most
    | infinite negative =>
        obtain rfl : negative = false := most
        exact .inl ⟨none, rfl, overflows, rfl⟩
    | finite c held => exact .inr ⟨none, fun both => (by cases both.1), c, held, rfl, most⟩
  · refine .inr ⟨none, fun both => overflows both.2, ?_⟩
    cases base' with
    | nan => cases base
    | infinite negative => exact absurd trivial overflows
    | finite b held =>
        have known : b = 0 → k < 1024 := by
          rintro rfl
          exact not_le.mp fun large => none ⟨rfl, large⟩
        obtain ⟨held', same⟩ := Double.finite_mul_powTwo base known overflows
        have nonneg : 0 ≤ b * 2 ^ k := mul_nonneg base (pow_nonneg (by norm_num) k)
        rw [same]
        cases most' with
        | nan => cases most
        | infinite negative =>
            obtain rfl : negative = false := most
            exact ⟨_, held', rfl, nonneg⟩
        | finite c held'' =>
            rcases le_or_gt (b * 2 ^ k) c with le | gt
            · exact ⟨_, held', if_pos le, nonneg⟩
            · exact ⟨c, held'', if_neg (not_le.mpr gt), most⟩

/-- A sleep is within its bounds where its factors are numbers whose product is one. -/
theorem sleep_within_iff (base : options.baseDelayMs.Nonneg) (most : options.maxDelayMs.Nonneg)
    (drawn : Draw r) (later : 1 ≤ i) :
    (0 ≤ r * cap options i ∧ r * cap options i ≤ cap options i) ↔
      (options.baseDelayMs = 0 → i ≤ 1024) ∧ (options.maxDelayMs = .infinite false →
        options.baseDelayMs.Overflows (i - 1) → r ≠ 0) := by
  obtain ⟨q, held, rfl, nonneg, less⟩ := drawn
  rcases cap_cases (i := i) base most with ⟨zero, large, same⟩ |
    ⟨none, unbounded, overflows, same⟩
    | ⟨none, bounded, c, held', same, nonneg'⟩
  · -- the longest sleep is no number
    rw [same]
    refine iff_of_false (fun both => both.1) fun both => ?_
    have := both.1 zero
    omega
  · rw [same]
    have exact_zero : Double.finite q held = 0 ↔ q = 0 :=
      ⟨fun h => by injection h, fun h => by subst h; rfl⟩
    have timely : options.baseDelayMs = 0 → i ≤ 1024 := fun zero => by
      by_contra above
      exact none ⟨zero, by omega⟩
    by_cases zero : q = 0
    · subst zero
      exact iff_of_false (fun both => both.1) fun both => both.2 unbounded overflows rfl
    · have product : Double.finite q held * .infinite false = .infinite false := by
        refine (if_neg zero).trans ?_
        rw [decide_eq_false (not_lt.mpr nonneg)]
        rfl
      rw [product]
      exact iff_of_true ⟨rfl, .inr rfl⟩ ⟨timely, fun _ _ h => zero (exact_zero.mp h)⟩
  · rw [same]
    refine iff_of_true (Double.part_le nonneg less.le nonneg') ⟨fun zero => ?_, ?_⟩
    · by_contra above
      exact none ⟨zero, by omega⟩
    · exact fun unbounded overflows => absurd ⟨unbounded, overflows⟩ bounded

end Sleeps

/-- The marks of a run tell its sleeps. -/
theorem delay_eq_of_rounds {f g : ℕ → Double} {n a : ℕ}
    (same : (List.range' a n).flatMap (round f) = (List.range' a n).flatMap (round g)) :
    ∀ i, a ≤ i → i < a + n → f i = g i := by
  induction n generalizing a with
  | zero => omega
  | succ n ih =>
      rw [List.range'_succ, List.flatMap_cons, List.flatMap_cons] at same
      have parts : f a = g a ∧ (List.range' (a + 1) n).flatMap (round f) =
          (List.range' (a + 1) n).flatMap (round g) := by simpa [round] using same
      intro i low high
      rcases Nat.eq_or_lt_of_le low with rfl | later
      · exact parts.1
      · exact ih parts.2 i later (by omega)

section Runs

variable {random : ℕ → Double} {outcome : ℕ → Except ε α} {options : RetryOptions ε}
  {exhausted : ε}

theorem exists_least (outcome : ℕ → Except ε α) (some : 1 ≤ options.maxAttempts) :
    ∃ k, IsLeast {i | 1 ≤ i ∧ Ends options outcome i} k ∧ k ≤ options.maxAttempts := by
  classical
  have last : ∃ i, 1 ≤ i ∧ Ends options outcome i := by
    refine ⟨options.maxAttempts.toNat, by omega, .inr ?_⟩
    omega
  refine ⟨Nat.find last, ⟨Nat.find_spec last, fun i ends => Nat.find_min' last ends⟩, ?_⟩
  have within := Nat.find_min' last (m := options.maxAttempts.toNat) ⟨by omega, .inr (by omega)⟩
  omega

/-- A round before the last one does not stop the loop. -/
theorem goes_on {i : ℕ} (early : (i : ℤ) < options.maxAttempts)
    (unsettled : ¬ Settles options outcome i) : ¬ Stops options outcome i := by
  rintro (settles | last)
  · exact unsettled settles
  · have : counter i ≤ i := min_le_left _ _
    omega

theorem stops_of_ends {k : ℕ} (least : IsLeast {i | 1 ≤ i ∧ Ends options outcome i} k)
    (within : k ≤ options.maxAttempts) (counted : Counted outcome options) :
    Stops options outcome k := by
  rcases least.1.2 with settles | last
  · exact .inl settles
  rcases counted with few | ⟨i, from_one, below, settles⟩
  · have : counter k = k := min_eq_left (by omega)
    exact .inr (by rw [this, last])
  · have first : k ≤ i := least.2 ⟨from_one, .inl settles⟩
    obtain rfl : i = k := by omega
    exact .inl settles

/-- The whole run. -/
theorem observe_eq {k : ℕ} (least : IsLeast {i | 1 ≤ i ∧ Ends options outcome i} k)
    (within : k ≤ options.maxAttempts) (counted : Counted outcome options) :
    observe random outcome options exhausted = (outcome k, ⟨k, k - 1,
      (List.range' 1 (k - 1)).flatMap (round fun i => random i * cap options i) ++
        [.called]⟩) := by
  have stops := stops_of_ends least within counted
  obtain ⟨⟨from_one, ends⟩, least⟩ := least
  obtain ⟨j, rfl⟩ := Nat.exists_eq_add_of_le' from_one
  have more : ∀ i, i < j → ¬ Stops options outcome (0 + 1 + i) := by
    intro i small
    refine goes_on (by omega) fun settles => ?_
    have : j + 1 ≤ 0 + 1 + i := least ⟨by omega, .inl settles⟩
    omega
  obtain ⟨left, rounds⟩ : ∃ left, options.maxAttempts.toNat = j + (left + 1) :=
    ⟨options.maxAttempts.toNat - (j + 1), by omega⟩
  unfold observe retryWithBackoff
  rw [rounds]
  have before := retryFrom_rounds random exhausted (left + 1) [] more
  rw [Nat.zero_add, Nat.zero_add, List.nil_append] at before
  exact before.trans (retryFrom_stops stops)

/-- The run of a loop that nothing ends. -/
theorem observe_uncounted (uncounted : ¬ Counted outcome options) :
    (observe random outcome options exhausted).2.marks =
      (List.range' 1 options.maxAttempts.toNat).flatMap
        (round fun i => random i * cap options i) := by
  obtain ⟨many, unsettled⟩ := not_or.mp uncounted
  have more : ∀ i, i < options.maxAttempts.toNat → ¬ Stops options outcome (0 + 1 + i) := by
    rintro i small (settles | last)
    · exact unsettled ⟨0 + 1 + i, by omega, by omega, settles⟩
    · have : counter (0 + 1 + i) ≤ 2 ^ 53 := min_le_right _ _
      omega
  have run := retryFrom_rounds random exhausted 0 [] more
  unfold observe retryWithBackoff
  exact congrArg (fun seen => seen.2.marks) run

theorem none_allowed (none : options.maxAttempts ≤ 0) :
    observe random outcome options exhausted = (.error exhausted, ⟨0, 0, []⟩) := by
  unfold observe retryWithBackoff
  rw [Int.toNat_of_nonpos none]
  rfl

/-- A loop that nothing ends sleeps after its last round too. -/
theorem counted_of_told (told : RetriesAsTold random outcome options exhausted) :
    Counted outcome options := by
  by_contra uncounted
  have some : 1 ≤ options.maxAttempts := by
    have := (not_or.mp uncounted).1
    omega
  obtain ⟨k, -, -, -, delay, -, marks⟩ := told.attempts some
  rw [observe_uncounted uncounted] at marks
  have lengths := congrArg List.length marks
  simp [round, List.length_flatMap] at lengths
  omega

variable (unit : ∀ i, Draw (random i)) (base : options.baseDelayMs.Nonneg)
  (most : options.maxDelayMs.Nonneg)

include unit base most

theorem told_of_measurable (counted : Counted outcome options)
    (measurable : Measurable random outcome options) :
    RetriesAsTold random outcome options exhausted := by
  refine ⟨none_allowed, fun some => ?_⟩
  obtain ⟨k, least, within⟩ := exists_least outcome some
  rw [observe_eq least within counted]
  refine ⟨k, least, rfl, rfl, fun i => random i * cap options i, fun i low high => ?_, rfl⟩
  refine (sleep_within_iff base most (unit i) low).mpr (measurable i low (by omega) ?_)
  intro j low' high' ends
  have : k ≤ j := least.2 ⟨low', ends⟩
  omega

theorem measurable_of_told (told : RetriesAsTold random outcome options exhausted) :
    Measurable random outcome options := by
  intro i low high more
  have some : 1 ≤ options.maxAttempts := by omega
  obtain ⟨k, least, within⟩ := exists_least outcome some
  obtain ⟨k', -, -, calls, delay, bounds, marks⟩ := told.attempts some
  rw [observe_eq least within (counted_of_told told)] at calls marks
  obtain rfl : k = k' := calls
  have later : i < k := by
    by_contra early
    exact more k least.1.1 (by omega) least.1.2
  have same := delay_eq_of_rounds (List.append_cancel_right marks) i low (by omega)
  rw [← sleep_within_iff base most (unit i) low]
  exact same ▸ bounds i low later

end Runs

/-- The third outcome is the first success. -/
def thirdSucceeds (i : ℕ) : Except Unit ℕ := if i = 3 then .ok 7 else .error ()

/-- Half of each longest sleep. -/
def half : Double := .finite (1 / 2) ⟨1, -1, by norm_num, by norm_num, by norm_num, by norm_num⟩

theorem draw_half : Draw half := ⟨1 / 2, _, rfl, by norm_num, by norm_num⟩

/-- At most `n` attempts, without a base delay. -/
def undelayed (n : ℤ) : RetryOptions Unit := ⟨n, 0, 0, fun _ => true⟩

end RetryBackoff
end Tenantory
