import Tenantory.AuditService
import Tenantory.CacheService
import Tenantory.TableStatements

/-! A service run by itself: what it answers and the state it leaves, and the states
that requests reach which are handled one after the other. -/

namespace Tenantory
namespace Svc

variable {α β : Type} {w w' : World}

def runs (p : Svc α) (w : World) : Except Err α × World := p.run.run w

/-- What follows an answer; an error ends the run. -/
def follow (f : α → Svc β) : Except Err α × World → Except Err β × World
  | (.ok a, w) => (f a).runs w
  | (.error e, w) => (.error e, w)

@[simp] theorem follow_ok (f : α → Svc β) (a : α) (w : World) :
    follow f (.ok a, w) = (f a).runs w :=
  rfl

@[simp] theorem follow_error (f : α → Svc β) (e : Err) (w : World) :
    follow f (.error e, w) = (.error e, w) := rfl

@[simp] theorem runs_pure (a : α) (w : World) : (pure a : Svc α).runs w = (.ok a, w) := rfl

@[simp] theorem runs_throw (e : Err) (w : World) : (throw e : Svc α).runs w = (.error e, w) := rfl

@[simp] theorem runs_bind (p : Svc α) (f : α → Svc β) (w : World) :
    (p >>= f).runs w = follow f (p.runs w) := by
  unfold runs
  rw [run_bind, Prog.run_bind]
  generalize p.run.run w = out
  obtain ⟨r, w'⟩ := out
  cases r <;> rfl

@[simp] theorem runs_map (f : α → β) (p : Svc α) (w : World) :
    (f <$> p).runs w = ((p.runs w).1.map f, (p.runs w).2) := by
  rw [map_eq_pure_bind, runs_bind]
  generalize p.runs w = out
  obtain ⟨r, w'⟩ := out
  cases r <;> rfl

@[simp] theorem runs_query (read : World → Except Err α) (w : World) :
    (query read).runs w = (read w, w) := rfl

@[simp] theorem runs_listing (read : (Uuid → ℕ) → World → Except Err α) (w : World) :
    (listing read).runs w = (read (w.ties 0) w, { w with ties := fun n => w.ties (n + 1) }) := rfl

@[simp] theorem runs_emit (event : Event) (w : World) :
    (emit event).runs w = (.ok (), { w with journal := w.journal ++ [event] }) := rfl

/-- What a statement that writes makes of the state. -/
def settle (w : World) : Except Err (α × World) → Except Err α × World
  | .ok (a, w') => (.ok a, w')
  | .error e => (.error e, w)

@[simp] theorem settle_ok (a : α) (w w' : World) : settle w (.ok (a, w')) = (.ok a, w') := rfl

@[simp] theorem settle_error (e : Err) (w : World) :
    settle w (.error e : Except Err (α × World)) = (.error e, w) := rfl

@[simp] theorem runs_statement (label : Label) (act : World → Except Err (α × World))
    (w : World) :
    (statement label act).runs w = settle w (act w) := by
  show ((match act w with
    | .ok (answer, w') => ((.ok answer : Except Err α), w')
    | .error err => (.error err, w)) : Except Err α × World) = _
  cases act w <;> rfl

@[simp] theorem runs_write (act : World → Except Err (α × World)) (w : World) :
    (write act).runs w = settle w (act w) := runs_statement .write act w

@[simp] theorem runs_saving (entity : StoredObject)
    (act : Database → World → Except Err (α × World)) (w : World) :
    (saving entity act).runs w = settle w (act w.db w) := by
  rw [saving, runs_bind, runs_query, follow_ok, runs_statement]

@[simp] theorem runs_softRemoving (entity : StoredObject)
    (act : Database → World → Except Err (α × World)) (w : World) :
    (softRemoving entity act).runs w = settle w (act w.db w) := by
  rw [softRemoving, runs_bind, runs_query, follow_ok, runs_statement]

/-- What a handler makes of a run. -/
def rescue (handle : Err → Svc α) : Except Err α × World → Except Err α × World
  | (.ok a, w) => (.ok a, w)
  | (.error e, w) => (handle e).runs w

@[simp] theorem rescue_ok (handle : Err → Svc α) (a : α) (w : World) :
    rescue handle (.ok a, w) = (.ok a, w) := rfl

@[simp] theorem rescue_error (handle : Err → Svc α) (e : Err) (w : World) :
    rescue handle (.error e, w) = (handle e).runs w := rfl

@[simp] theorem runs_tryCatch (p : Svc α) (handle : Err → Svc α) (w : World) :
    (tryCatch p handle).runs w = rescue handle (p.runs w) := by
  unfold runs
  rw [run_tryCatch, Prog.run_bind]
  generalize p.run.run w = out
  obtain ⟨r, w'⟩ := out
  cases r <;> rfl

/-- The error that leaves the `catch` of a writing service. -/
def reported (taken : Err) (e : Err) : Err := if isUniqueViolation e then taken else e

theorem runs_translated (taken : Err) (p : Svc α) (w : World) :
    (translated taken p).runs w = ((p.runs w).1.mapError (reported taken), (p.runs w).2) := by
  rw [translated, runs_tryCatch]
  generalize p.runs w = out
  obtain ⟨r, w'⟩ := out
  cases r with
  | ok a => rfl
  | error e =>
      rw [rescue_error]
      unfold reported
      cases h : isUniqueViolation e <;> simp [h, Except.mapError]

@[simp] theorem runs_get (key : String) (read : Cached → Option α) (w : World) :
    (CacheService.get key read).runs w = (.ok ((w.cached key).bind read), w) := rfl

@[simp] theorem runs_set (key : String) (value : Cached) (w : World) :
    (CacheService.set key value).runs w = (.ok (), w.setKey key value) := rfl

@[simp] theorem runs_del (key : String) (w : World) :
    (CacheService.del key).runs w = (.ok (), w.deleteKeys (· == key)) := rfl

@[simp] theorem runs_delByPattern (pattern : String) (w : World) :
    (CacheService.delByPattern pattern).runs w =
      (.ok (), w.deleteKeys (CacheService.glob pattern)) := rfl

theorem runs_record (context : Option AuditContextData) (input : AuditEventInput) (w : World) :
    (AuditService.record context input).runs w =
      match AuditService.event? context input with
      | some event => (.ok (), { w with journal := w.journal ++ [.auditLog event] })
      | none => (.error AuditService.missingTenant, w) := by
  unfold AuditService.record
  cases AuditService.event? context input <;> rfl

/-! ## How a run goes on -/

theorem follow_eq_ok {f : α → Svc β} {out : Except Err α × World} {b : β}
    (h : follow f out = (.ok b, w')) : ∃ a, out.1 = .ok a ∧ (f a).runs out.2 = (.ok b, w') := by
  obtain ⟨r, w⟩ := out
  cases r with
  | ok a => exact ⟨a, rfl, h⟩
  | error e => cases h

end Svc

/-! ## Requests -/

/-- A call of a service by an authenticated request. -/
structure Request (Op : Type) where
  context : Option AuditContextData
  tenantId : String
  now : Timestamp
  op : Op

namespace Request

variable {Op : Type}

/-- The state in which a request is handled: time has gone on. -/
def arrive (request : Request Op) (w : World) : World := { w with clock := request.now }

/-- The states that a run of requests reaches. Each is handled to its end, and meets a
condition on the state in which it arrives. -/
inductive Reached (act : Request Op → World → World) (meets : Request Op → World → Prop)
    (start : World) : World → Prop
  | start : Reached act meets start start
  | serve {w : World} (request : Request Op) : Reached act meets start w →
      meets request (request.arrive w) →
      Reached act meets start (act request (request.arrive w))

/-- What holds at the start and is kept by every request that meets the condition. -/
theorem Reached.invariant {act : Request Op → World → World}
    {meets : Request Op → World → Prop} {start w : World} {I : World → Prop}
    (reached : Reached act meets start w) (initial : I start)
    (arrives : ∀ (request : Request Op) w, I w → I (request.arrive w))
    (step : ∀ request w, I w → meets request w → I (act request w)) : I w := by
  induction reached with
  | start => exact initial
  | serve request _ met ih => exact step request _ (arrives request _ ih) met

end Request
end Tenantory
