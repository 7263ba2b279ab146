import Tenantory.FailingCalls

/-! A service whose calls may fail, with a record of what it has done: the statements
that have written to the database and the events that have been emitted, in their order. -/

namespace Tenantory

inductive Mark
  | written | emitted
  deriving DecidableEq

def Label.mark : Label → Option Mark
  | .write | .insert _ | .save _ _ | .softRemove _ _ => some .written
  | .insertStock _ _ | .updateStock _ _ => some .written
  | .emit => some .emitted
  | .query | .begin | .commit _ | .rollback _ | .reloadStock _ _ => none
  | .redis | .cacheSet _ _ | .random | .sleep _ => none

namespace Svc

variable {α β : Type} {w v : World} {marks : List Mark}

/-- The service may answer or throw, and leave `w'` and a record of what it has done. -/
def Leaves (p : Svc α) (w : World) (answer : Except Err α) (w' : World) (marks : List Mark) :
    Prop :=
  Prog.Exec callFault (p.run.recorded Label.mark) (w, []) answer (w', marks)

/-- `post` holds of what the service leaves, however its calls fail. -/
def After (p : Svc α) (post : Except Err α → World → List Mark → Prop) (w : World)
    (marks : List Mark) : Prop :=
  (p.run.recorded Label.mark).wp callFault (fun answer s => post answer s.1 s.2) (w, marks)

theorem After.leaves {p : Svc α} {post : Except Err α → World → List Mark → Prop}
    {answer : Except Err α} {w' : World} (after : After p post w [])
    (leaves : Leaves p w answer w' marks) : post answer w' marks := by
  have met := Prog.wp_exec after leaves
  exact met

theorem After.mono {p : Svc α} {post post' : Except Err α → World → List Mark → Prop}
    (after : After p post w marks)
    (imp : ∀ answer w' marks', post answer w' marks' → post' answer w' marks') :
    After p post' w marks :=
  Prog.wp_mono after fun answer s h => imp answer s.1 s.2 h

section Rules

variable {post : Except Err β → World → List Mark → Prop}

theorem after_bind {p : Svc α} {f : α → Svc β}
    (h : After p (fun answer w' marks' => match answer with
      | .ok a => After (f a) post w' marks'
      | .error e => post (.error e) w' marks') w marks) : After (p >>= f) post w marks := by
  unfold After
  rw [run_bind, Prog.recorded_bind, Prog.wp_bind]
  refine Prog.wp_mono h fun answer s h => ?_
  cases answer with
  | ok a => exact h
  | error e => exact h

theorem after_tryCatch {p : Svc β} {handle : Err → Svc β}
    (h : After p (fun answer w' marks' => match answer with
      | .ok a => post (.ok a) w' marks'
      | .error e => After (handle e) post w' marks') w marks) :
    After (tryCatch p handle) post w marks := by
  unfold After
  rw [run_tryCatch, Prog.recorded_bind, Prog.wp_bind]
  refine Prog.wp_mono h fun answer s h => ?_
  cases answer with
  | ok a => exact h
  | error e => exact h

theorem after_perform {label : Label} {act : World → Except Err β × World}
    (acted : match act w with
      | (.ok b, w') => post (.ok b) w' (marks ++ label.mark.toList)
      | (.error e, w') => post (.error e) w' marks)
    (failed : ∀ e, callFault label e → post (.error e) w marks) :
    After (perform label act) post w marks := by
  refine ⟨?_, failed⟩
  dsimp only
  generalize act w = out at acted ⊢
  obtain ⟨answer, w'⟩ := out
  cases answer with
  | ok b => exact acted
  | error e => exact acted

theorem after_query {read : World → Except Err β}
    (answered : ∀ r, read w = r → post r w marks)
    (failed : ∀ e, post (.error e) w marks) : After (query read) post w marks := by
  refine after_perform ?_ fun e _ => failed e
  cases found : read w with
  | ok b =>
      change post (.ok b) w (marks ++ [])
      rw [List.append_nil]
      exact answered _ found
  | error e => exact answered _ found

/-- A statement has been made and has left its mark, or it has failed and left nothing. -/
theorem after_statement {label : Label} {act : World → Except Err (β × World)}
    (writes : label.mark = some .written)
    (done : ∀ b w', act w = .ok (b, w') → post (.ok b) w' (marks ++ [.written]))
    (failed : ∀ e, post (.error e) w marks) : After (statement label act) post w marks := by
  refine after_perform ?_ fun e _ => failed e
  rw [writes]
  cases made : act w with
  | ok answer => exact done _ _ made
  | error e => exact failed e

theorem after_get {key : String} {read : Cached → Option α}
    {post : Except Err (Option α) → World → List Mark → Prop}
    (found : post (.ok ((w.cached key).bind read)) w marks) (lost : post (.ok none) w marks) :
    After (CacheService.get key read) post w marks := by
  refine ⟨?_, fun _ _ => lost⟩
  change post _ w (marks ++ [])
  rw [List.append_nil]
  exact found

end Rules

/-! Redis commands that answer nothing. -/

section Commands

variable {post : Except Err Unit → World → List Mark → Prop}

theorem after_set {key : String} {value : Cached}
    (done : post (.ok ()) (w.setKey key value) marks) (lost : post (.ok ()) w marks) :
    After (CacheService.set key value) post w marks := by
  refine ⟨?_, fun _ _ => lost⟩
  change post _ _ (marks ++ [])
  rw [List.append_nil]
  exact done

theorem after_del {key : String} (done : post (.ok ()) (w.deleteKeys (· == key)) marks)
    (lost : post (.ok ()) w marks) : After (CacheService.del key) post w marks := by
  refine ⟨?_, fun _ _ => lost⟩
  change post _ _ (marks ++ [])
  rw [List.append_nil]
  exact done

theorem after_delByPattern {pattern : String}
    (done : post (.ok ()) (w.deleteKeys (CacheService.glob pattern)) marks)
    (lost : post (.ok ()) w marks) : After (CacheService.delByPattern pattern) post w marks := by
  refine ⟨?_, fun _ _ => lost⟩
  change post _ _ (marks ++ [])
  rw [List.append_nil]
  exact done

theorem after_emit {event : Event}
    (done : post (.ok ()) { w with journal := w.journal ++ [event] } (marks ++ [.emitted])) :
    After (emit event) post w marks :=
  after_perform done fun _ faulty => nomatch faulty

end Commands

/-! ## Services that only read -/

/-- The tables, the clock, the identifiers and the journal are as in `w`. -/
structure Kept (w v : World) : Prop where
  db : v.db = w.db
  clock : v.clock = w.clock
  ids : v.ids = w.ids
  journal : v.journal = w.journal

theorem Kept.refl (w : World) : Kept w w := ⟨rfl, rfl, rfl, rfl⟩

/-- From `v` on the service writes nothing and emits nothing, and what it answers has `Q`. -/
def Reads (w v : World) (p : Svc α) (Q : α → Prop) : Prop :=
  ∀ marks, After p (fun answer v' marks' => Kept w v' ∧ marks' = marks ∧
    ∀ a, answer = .ok a → Q a) v marks

section Reads

variable {P : α → Prop} {Q : β → Prop}

theorem reads_pure {b : β} (kept : Kept w v) (h : Q b) : Reads w v (pure b) Q :=
  fun _ => ⟨kept, rfl, fun _ same => by
    cases same
    exact h⟩

theorem reads_throw {e : Err} (kept : Kept w v) : Reads w v (throw e) Q :=
  fun _ => ⟨kept, rfl, fun _ same => nomatch same⟩

theorem reads_bind {p : Svc α} {f : α → Svc β} (first : Reads w v p P)
    (rest : ∀ a v', P a → Kept w v' → Reads w v' (f a) Q) : Reads w v (p >>= f) Q := by
  intro marks
  refine after_bind ((first marks).mono fun answer v' marks' read => ?_)
  obtain ⟨kept, same, answered⟩ := read
  cases answer with
  | ok a =>
      rw [same]
      exact rest a v' (answered a rfl) kept marks
  | error e => exact ⟨kept, same, fun _ other => nomatch other⟩

theorem reads_ite {p q : Svc β} {c : Prop} [Decidable c] (yes : c → Reads w v p Q)
    (no : ¬ c → Reads w v q Q) : Reads w v (if c then p else q) Q := by
  split
  · rename_i h
    exact yes h
  · rename_i h
    exact no h

theorem reads_query {read : World → Except Err β} (kept : Kept w v)
    (h : ∀ b, read v = .ok b → Q b) : Reads w v (query read) Q := by
  refine fun marks => after_query (fun r answered => ⟨kept, rfl, fun b same => ?_⟩)
    fun e => ⟨kept, rfl, fun _ other => nomatch other⟩
  exact h b (answered.trans same)

/-- A lookup behind the cache answers with the cached object or with the row it reads. -/
theorem reads_cached {key : String} {cached? : Cached → Option β} {wrap : β → Cached}
    {read : World → Except Err (Option β)} {missing : Err} {f g : Option β → Svc β}
    (found : ∀ b, f (some b) = pure b) (looks : f none = query read >>= g)
    (absent : g none = throw missing)
    (loaded : ∀ b, g (some b) = CacheService.set key (wrap b) >>= fun _ => pure b)
    (kept : Kept w v) (hit : ∀ b, (v.cached key).bind cached? = some b → Q b)
    (miss : ∀ b, read v = .ok (some b) → Q b) :
    Reads w v (CacheService.get key cached? >>= f) Q := by
  intro marks
  have missed : After (f none) (fun answer v' marks' => Kept w v' ∧ marks' = marks ∧
      ∀ a, answer = .ok a → Q a) v marks := by
    rw [looks]
    refine after_bind (after_query (fun r answered => ?_)
      fun e => ⟨kept, rfl, fun _ other => nomatch other⟩)
    cases r with
    | error e => exact ⟨kept, rfl, fun _ other => nomatch other⟩
    | ok row =>
        cases row with
        | none =>
            dsimp only
            rw [absent]
            exact reads_throw kept marks
        | some b =>
            have held := miss b answered
            have set : Kept w (v.setKey key (wrap b)) :=
              ⟨kept.db, kept.clock, kept.ids, kept.journal⟩
            dsimp only
            rw [loaded b]
            refine after_bind (after_set ?_ ?_)
            · exact reads_pure set held marks
            · exact reads_pure kept held marks
  refine after_bind (after_get ?_ missed)
  dsimp only
  cases cached : (v.cached key).bind cached? with
  | none => exact missed
  | some b =>
      rw [found b]
      exact reads_pure kept (hit b cached) marks

/-- A check that throws when its query says so. -/
theorem reads_check {check : Svc Unit} {read : World → Except Err Bool} {taken : Err}
    (checks : check = do
      let found ← query read
      if found then throw taken) (kept : Kept w v) : Reads w v check fun _ => True := by
  rw [checks]
  refine reads_bind (P := fun _ => True) (reads_query kept fun _ _ => trivial)
    fun found _ _ kept => ?_
  exact reads_ite (fun _ => reads_throw kept) fun _ => reads_pure kept trivial

/-- A lookup that throws when it finds nothing. -/
theorem reads_found {lookup : Svc β} {read : World → Except Err (Option β)}
    {f : Option β → Svc β}
    {missing : Err} (looks : lookup = query read >>= f) (absent : f none = throw missing)
    (present : ∀ b, f (some b) = pure b) (kept : Kept w v)
    (h : ∀ b, read v = .ok (some b) → Q b) : Reads w v lookup Q := by
  rw [looks]
  refine reads_bind (P := fun found => ∀ b, found = some b → Q b) (reads_query kept ?_)
    fun found u held kept => ?_
  · intro found read b same
    subst same
    exact h b read
  · cases found with
    | none =>
        rw [absent]
        exact reads_throw kept
    | some b =>
        rw [present]
        exact reads_pure kept (held b rfl)

theorem reads_mapM {γ : Type} {f : γ → Svc β} (item : Option γ) (kept : Kept w v)
    (h : ∀ c, Reads w v (f c) fun _ => True) : Reads w v (item.mapM f) fun _ => True := by
  cases item with
  | none => exact reads_pure kept trivial
  | some c => exact reads_bind (h c) fun _ _ _ kept => reads_pure kept trivial

end Reads

/-! ## Services that only delete from the cache -/

/-- The service answers and leaves the tables and the journal alone. -/
def Quiet (p : Svc α) : Prop :=
  ∀ w marks, After p (fun answer w' marks' => (∃ a, answer = .ok a) ∧ w'.db = w.db ∧
    w'.journal = w.journal ∧ marks' = marks) w marks

theorem quiet_pure (a : α) : Quiet (pure a : Svc α) :=
  fun _ _ => ⟨⟨a, rfl⟩, rfl, rfl, rfl⟩

theorem quiet_bind {p : Svc α} {f : α → Svc β} (first : Quiet p) (rest : ∀ a, Quiet (f a)) :
    Quiet (p >>= f) := by
  intro w marks
  refine after_bind ((first w marks).mono fun answer v marks' before => ?_)
  obtain ⟨⟨a, rfl⟩, db, journal, same⟩ := before
  subst same
  refine (rest a v marks').mono fun answer w' marks'' after => ?_
  obtain ⟨answers, db', journal', same⟩ := after
  exact ⟨answers, db'.trans db, journal'.trans journal, same⟩

theorem quiet_del (key : String) : Quiet (CacheService.del key) :=
  fun _ _ => after_del ⟨⟨(), rfl⟩, rfl, rfl, rfl⟩ ⟨⟨(), rfl⟩, rfl, rfl, rfl⟩

theorem quiet_delByPattern (pattern : String) : Quiet (CacheService.delByPattern pattern) :=
  fun _ _ => after_delByPattern ⟨⟨(), rfl⟩, rfl, rfl, rfl⟩
    ⟨⟨(), rfl⟩, rfl, rfl, rfl⟩

end Svc
end Tenantory
