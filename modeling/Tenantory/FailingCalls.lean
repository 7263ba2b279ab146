import Tenantory.AuditService
import Tenantory.CacheService
import Tenantory.TableStatements

/-! A service whose calls of the database may fail at any point: what holds when it has
answered or thrown. -/

namespace Tenantory
namespace Svc

variable {α β : Type} {fault : Label → Err → Prop} {w : World}

theorem wp_ite {p q : Svc α} {c : Prop} [Decidable c] {post : Except Err α → World → Prop}
    (yes : c → p.run.wp fault post w) (no : ¬ c → q.run.wp fault post w) :
    (if c then p else q).run.wp fault post w := by
  split
  · rename_i h
    exact yes h
  · rename_i h
    exact no h

theorem wp_translated {taken : Err} {p : Svc α} {post : Except Err α → World → Prop}
    (h : p.run.wp fault (fun r w' => match r with
      | .ok a => post (.ok a) w'
      | .error e => post (.error (if isUniqueViolation e then taken else e)) w') w) :
    (translated taken p).run.wp fault post w := by
  refine Prog.wp_run_tryCatch (Prog.wp_mono h fun r w' h => ?_)
  cases r with
  | ok a => exact h
  | error e =>
      dsimp only at h ⊢
      split
      · rename_i unique
        rw [if_pos unique] at h
        exact h
      · rename_i other
        rw [if_neg other] at h
        exact h

/-! ## Statements and commands -/

section Calls

variable {post : Except Err β → World → Prop}

/-- A statement has been made, or it has failed and changed nothing. -/
theorem wp_statement {label : Label} {act : World → Except Err (β × World)}
    (done : ∀ a w', act w = .ok (a, w') → post (.ok a) w') (failed : ∀ e, post (.error e) w) :
    (statement label act).run.wp fault post w := by
  refine wp_perform.mpr ⟨?_, fun e _ => failed e⟩
  cases made : act w with
  | error e => exact failed e
  | ok answer => exact done _ _ made

theorem wp_saving {entity : StoredObject} {act : Database → World → Except Err (β × World)}
    (done : ∀ a w', act w.db w = .ok (a, w') → post (.ok a) w')
    (failed : ∀ e, post (.error e) w) :
    (saving entity act).run.wp fault post w :=
  Prog.wp_run_bind (wp_query (wp_statement done failed) failed)

theorem wp_softRemoving {entity : StoredObject}
    {act : Database → World → Except Err (β × World)}
    (done : ∀ a w', act w.db w = .ok (a, w') → post (.ok a) w')
    (failed : ∀ e, post (.error e) w) :
    (softRemoving entity act).run.wp fault post w :=
  Prog.wp_run_bind (wp_query (wp_statement done failed) failed)

end Calls

/-! A command of Redis that fails is logged, and answers as if it had found nothing. -/

theorem wp_del {key : String} {post : Except Err Unit → World → Prop}
    (done : post (.ok ()) (w.deleteKeys (· == key))) (lost : post (.ok ()) w) :
    (CacheService.del key).run.wp fault post w :=
  ⟨done, fun _ _ => lost⟩

/-- The event is emitted, or there is no tenant to name in it. -/
theorem wp_record {context : Option AuditContextData} {input : AuditEventInput}
    {post : Except Err Unit → World → Prop} (quiet : ∀ e, ¬ fault .emit e)
    (emitted : ∀ event, AuditService.event? context input = some event →
      post (.ok ()) { w with journal := w.journal ++ [.auditLog event] })
    (unnamed : ∀ e, post (.error e) w) : (AuditService.record context input).run.wp
      fault post w := by
  unfold AuditService.record
  cases named : AuditService.event? context input with
  | none => exact unnamed _
  | some event => exact ⟨emitted event named, fun e faulty => absurd faulty (quiet e)⟩

/-! ## Runs -/

/-- Every call of the database or of Redis may fail. -/
def callFault : Label → Err → Prop
  | .emit, _ | .random, _ | .sleep _, _ => False
  | _, _ => True

/-- The service may answer or throw and leave `w'`, as its calls succeed or fail. -/
def Ends (p : Svc α) (w : World) (answer : Except Err α) (w' : World) : Prop :=
  Prog.Exec callFault p.run w answer w'

theorem Ends.meets {p : Svc α} {answer : Except Err α} {w' : World}
    {post : Except Err α → World → Prop} (ends : Ends p w answer w')
    (h : p.run.wp callFault post w) : post answer w' :=
  Prog.wp_exec h ends

/-- The run in which no call fails. -/
theorem ends_runs (p : Svc α) (w : World) : Ends p w (p.run.run w).1 (p.run.run w).2 :=
  Prog.exec_run p.run w

end Svc
end Tenantory
