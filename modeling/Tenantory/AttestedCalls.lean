import Tenantory.OwnPast
import Tenantory.StatementGuards

/-! What the calls of the services attest about the statements in which they store rows, given
what they have looked up before and what the calls beside them leave as it was. -/

namespace Tenantory

/-- The statements that store or remove an object. -/
def Label.stores : Label → Bool
  | .insert _ | .save _ _ | .softRemove _ _ => true
  | _ => false

namespace Svc

variable {α β : Type} {T : Terms World Err Label} {past : List World}
  {post post' : List World → α → Prop}

/-- Only statements that store rows act on a fact. -/
def Lenient (T : Terms World Err Label) : Prop :=
  ∀ w label, label.stores = false → T.holds w label

/-- The call attests the facts that its statements act on; where it does not throw, its answer
and its past are in `post`. -/
def Attests (T : Terms World Err Label) (p : Svc α) (post : List World → α → Prop)
    (past : List World) : Prop :=
  p.run.Attests T (fun past r => ∀ a, r = .ok a → post past a) past

/-- The state may follow the past, and the condition admits a step with the label. -/
structure Meets (T : Terms World Err Label) (past : List World) (w : World)
    (label : Label) : Prop where
  good : T.good w
  relied : ∀ u ∈ past, T.rely u w
  cond : T.cond past w label

theorem Attests.mono {p : Svc α} (h : p.Attests T post past)
    (imp : ∀ past a, post past a → post' past a) : p.Attests T post' past :=
  Prog.Attests.mono h fun past _ answered a same => imp past a (answered a same)

theorem attests_pure {a : α} (h : post past a) : (pure a : Svc α).Attests T post past :=
  fun _ same => Except.ok.inj same ▸ h

theorem attests_throw (e : Err) : (throw e : Svc α).Attests T post past :=
  fun _ same => nomatch same

theorem attests_bind {p : Svc β} {f : β → Svc α}
    (h : p.Attests T (fun past b => (f b).Attests T post past) past) :
    (p >>= f).Attests T post past := by
  unfold Attests
  rw [run_bind]
  refine Prog.Attests.bind (Prog.Attests.mono h fun past r answered => ?_)
  cases r with
  | ok b => exact answered b rfl
  | error e => exact attests_throw e

theorem attests_map {p : Svc β} {f : β → α}
    (h : p.Attests T (fun past b => post past (f b)) past) :
    (f <$> p : Svc α).Attests T post past := by
  rw [map_eq_pure_bind]
  exact attests_bind (h.mono fun _ _ answered => attests_pure answered)

theorem attests_ite {p q : Svc α} {c : Prop} [Decidable c] (hp : c → p.Attests T post past)
    (hq : ¬ c → q.Attests T post past) : (if c then p else q).Attests T post past := by
  split
  · exact hp ‹_›
  · exact hq ‹_›

theorem attests_tryCatch {p : Svc α} {handle : Err → Svc α} (h : p.Attests T post past)
    (rest : ∀ past e, (handle e).Attests T post past) :
    (tryCatch p handle).Attests T post past := by
  unfold Attests
  rw [run_tryCatch]
  refine Prog.Attests.bind (Prog.Attests.mono h fun past r answered => ?_)
  cases r with
  | ok a => exact answered
  | error e => exact rest past e

theorem attests_translated {p : Svc α} (taken : Err) (h : p.Attests T post past) :
    (translated taken p).Attests T post past :=
  attests_tryCatch h fun _ e =>
    attests_ite (fun _ => attests_throw taken) fun _ => attests_throw e

theorem attests_perform {label : Label} {act : World → Except Err α × World}
    (h : ∀ w, Meets T past w label →
      T.holds w label ∧ ∀ a, (act w).1 = .ok a → post (past ++ [w]) a) :
    (perform label act).Attests T post past := by
  refine ⟨fun w good relied met => ?_, fun e _ a same => nomatch same⟩
  obtain ⟨fact, answered⟩ := h w ⟨good, relied, met⟩
  exact ⟨fact, answered⟩

theorem attests_query (lenient : Lenient T) {read : World → Except Err α}
    (h : ∀ w a, Meets T past w .query → read w = .ok a → post (past ++ [w]) a) :
    (query read).Attests T post past :=
  attests_perform fun w met => ⟨lenient w _ rfl, fun a answer => h w a met answer⟩

theorem attests_statement {label : Label} {act : World → Except Err (α × World)}
    (h : ∀ w, Meets T past w label →
      T.holds w label ∧ ∀ a w', act w = .ok (a, w') → post (past ++ [w]) a) :
    (statement label act).Attests T post past := by
  refine attests_perform fun w met => ⟨(h w met).1, fun a answer => ?_⟩
  cases acted : act w with
  | error e =>
      rw [acted] at answer
      cases answer
  | ok result =>
      rw [acted] at answer
      cases answer
      exact (h w met).2 _ _ acted

theorem attests_write (lenient : Lenient T) {act : World → Except Err (α × World)}
    (h : ∀ w a, Meets T past w .write → post (past ++ [w]) a) :
    (write act).Attests T post past :=
  attests_statement fun w met => ⟨lenient w _ rfl, fun a _ _ => h w a met⟩

/-- `save` re-reads what it is about to write. -/
theorem attests_saving (lenient : Lenient T) {entity : StoredObject}
    {act : Database → World → Except Err (α × World)}
    (h : ∀ u w, Meets T past u .query → Meets T (past ++ [u]) w (.save entity u.db) →
      T.holds w (.save entity u.db) ∧
        ∀ a w', act u.db w = .ok (a, w') → post (past ++ [u] ++ [w]) a) :
    (saving entity act).Attests T post past :=
  attests_bind (attests_query lenient fun u _ met same => by
    cases same
    exact attests_statement fun w met' => h u w met met')

theorem attests_softRemoving (lenient : Lenient T) {entity : StoredObject}
    {act : Database → World → Except Err (α × World)}
    (h : ∀ u w, Meets T past u .query → Meets T (past ++ [u]) w (.softRemove entity u.db) →
      T.holds w (.softRemove entity u.db) ∧
        ∀ a w', act u.db w = .ok (a, w') → post (past ++ [u] ++ [w]) a) :
    (softRemoving entity act).Attests T post past :=
  attests_bind (attests_query lenient fun u _ met same => by
    cases same
    exact attests_statement fun w met' => h u w met met')

/-- A command is answered, or fails without a trace. -/
theorem attests_command (lenient : Lenient T) {label : Label} {failed : α}
    {act : World → α × World} (quiet : label.stores = false)
    (h : ∀ w, Meets T past w label → post (past ++ [w]) (act w).1)
    (lost : ∀ e, T.fault label e → post past failed) :
    (CacheService.command label failed act).Attests T post past := by
  refine ⟨fun w good relied met => ⟨lenient w label quiet, fun a same => ?_⟩,
    fun e faulty a same => ?_⟩
  · cases same
    exact h w ⟨good, relied, met⟩
  · cases same
    exact lost e faulty

theorem attests_record (lenient : Lenient T) (context : Option AuditContextData)
    (input : AuditEventInput) :
    (AuditService.record context input).Attests T (fun _ _ => True) past := by
  unfold AuditService.record
  split
  · exact attests_perform fun w _ => ⟨lenient w _ rfl, fun _ _ => trivial⟩
  · exact attests_throw _

theorem attests_del (lenient : Lenient T) (key : String) :
    (CacheService.del key).Attests T (fun _ _ => True) past :=
  attests_command lenient rfl (fun _ _ => trivial) fun _ _ => trivial

theorem attests_delByPattern (lenient : Lenient T) (pattern : String) :
    (CacheService.delByPattern pattern).Attests T (fun _ _ => True) past :=
  attests_command lenient rfl (fun _ _ => trivial) fun _ _ => trivial

end Svc
end Tenantory
