import Tenantory.Doubles
import Mathlib.Control.Basic

/-! Retrying a failing action with exponential backoff and full jitter. The
action, the random draw and the sleep are effects of an arbitrary monad, so one
definition serves every caller and every observation of a run. -/

namespace Tenantory

universe u

structure RetryOptions (ε : Type) where
  maxAttempts : ℤ
  baseDelayMs : Double
  maxDelayMs : Double
  retryableErrors : ε → Bool

/-- `Math.random` and `setTimeout`. -/
structure Timer (m : Type → Type u) where
  random : m Double
  sleep : Double → m Unit

namespace RetryBackoff

variable {ε α : Type} {m : Type → Type u} [Monad m]

/-- `attempt++` of a double: `2 ^ 53` stays what it is. -/
def increment (attempt : ℕ) : ℕ := if attempt < 2 ^ 53 then attempt + 1 else attempt

/-- The next `left` rounds of the loop, from `attempt` on. -/
def retryFrom (timer : Timer m) (fn : ExceptT ε m α) (options : RetryOptions ε)
    (exhausted : ε) :
    (left attempt : ℕ) → ExceptT ε m α
  | 0, _ => throw exhausted
  | left + 1, attempt =>
      tryCatch fn fun error =>
        if !options.retryableErrors error || (attempt : ℤ) == options.maxAttempts then
          throw error
        else do
          let exponentialDelay := options.baseDelayMs * Double.powTwo (attempt - 1)
          let cappedDelay := Double.min exponentialDelay options.maxDelayMs
          let jitterDelay := (← timer.random) * cappedDelay
          timer.sleep jitterDelay
          retryFrom timer fn options exhausted left (increment attempt)

/-- `exhausted` stands for the error thrown when the loop is never entered. A loop that no attempt
ends in its first `maxAttempts` rounds goes on for ever, and is shown up to there. -/
def retryWithBackoff (timer : Timer m) (fn : ExceptT ε m α) (options : RetryOptions ε)
    (exhausted : ε) : ExceptT ε m α :=
  retryFrom timer fn options exhausted options.maxAttempts.toNat 1

end RetryBackoff
end Tenantory
