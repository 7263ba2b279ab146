import Tenantory.TenantView

/-! Statements of one tenant: run on the tenant's part of the state a statement has
the same answer and the same effect, and of the rest it changes nothing. -/

namespace Tenantory

open Stored Owned

theorem bind_ok {ε α β : Type} (a : α) (f : α → Except ε β) :
    (Except.ok a >>= f) = f a := rfl

/-- What a statement of tenant `A` makes of the state. -/
structure World.Written (A : Uuid) (w w' : World) : Prop where
  grown : Database.Grown A w.db w'.db
  sound : w.Sound → w'.Sound
  cache : w'.cache = w.cache

namespace World.Written

variable {A : Uuid} {u v w : World}

theorem refl (A : Uuid) (w : World) : Written A w w :=
  ⟨.refl A w.db, fun h => h, rfl⟩

theorem acted (h : Written A u v) : u.Acted A v where
  outside := by
    change (v.db.outside A, v.cache.filter _) = (u.db.outside A, u.cache.filter _)
    rw [h.grown.outside, h.cache]
  extend := h.grown.extend

theorem trans (h : Written A u v) (h' : Written A v w) : Written A u w :=
  ⟨h.grown.trans h'.grown, fun s => h'.sound (h.sound s), h'.cache.trans h.cache⟩

end World.Written

/-- The outcomes of statements without an answer, on the whole state and on the
tenant's part of it. -/
structure Change (A : Uuid) (w : World) (r r' : Except Err World) : Prop where
  alike : r' = r.map (World.restrict A)
  written : ∀ w', r = .ok w' → World.Written A w w'

/-- The same for statements with an answer. -/
structure Statement {β : Type} (A : Uuid) (w : World) (r r' : Except Err (β × World)) :
    Prop where
  alike : r' = r.map fun answer => (answer.1, answer.2.restrict A)
  written : ∀ b w', r = .ok (b, w') → World.Written A w w'

section Rules

variable {β γ : Type} {A : Uuid} {w : World}

theorem change_pure : Change A w (.ok w) (.ok (w.restrict A)) :=
  ⟨rfl, fun _ h => by cases h; exact .refl A _⟩

theorem statement_error {e : Err} :
    Statement A w (.error e : Except Err (β × World)) (.error e) :=
  ⟨rfl, fun _ _ h => nomatch h⟩

theorem statement_pure {b : β} : Statement A w (.ok (b, w)) (.ok (b, w.restrict A)) :=
  ⟨rfl, fun _ _ h => by cases h; exact .refl A _⟩

theorem Change.bind {r r' : Except Err World} {f g : World → Except Err (β × World)}
    (h : Change A w r r')
    (rest : ∀ w', World.Written A w w' → Statement A w' (f w') (g (w'.restrict A))) :
    Statement A w (r >>= f) (r' >>= g) := by
  cases r with
  | error e =>
      rw [h.alike]
      exact statement_error
  | ok w' =>
      have first := h.written w' rfl
      rw [h.alike]
      exact ⟨(rest w' first).alike, fun b v hv => first.trans ((rest w' first).written b v hv)⟩

theorem Change.andThen {r r' : Except Err World} {f g : World → Except Err World}
    (h : Change A w r r')
    (rest : ∀ w', World.Written A w w' → Change A w' (f w') (g (w'.restrict A))) :
    Change A w (r >>= f) (r' >>= g) := by
  cases r with
  | error e =>
      rw [h.alike]
      exact ⟨rfl, fun _ h => nomatch h⟩
  | ok w' =>
      have first := h.written w' rfl
      rw [h.alike]
      exact ⟨(rest w' first).alike, fun v hv => first.trans ((rest w' first).written v hv)⟩

/-- One change for each member of a list. -/
theorem change_foldlM {f g : World → β → Except Err World} {l : List β}
    (step : ∀ w', World.Written A w w' → ∀ b ∈ l, Change A w' (f w' b)
    (g (w'.restrict A) b)) :
    Change A w (l.foldlM f w) (l.foldlM g (w.restrict A)) := by
  induction l generalizing w with
  | nil => exact change_pure
  | cons b l ih =>
      rw [List.foldlM_cons, List.foldlM_cons]
      refine (step w (.refl A w) b List.mem_cons_self).andThen fun w' first => ?_
      exact ih fun w'' later c hc => step w'' (first.trans later) c (List.mem_cons_of_mem b hc)

theorem Statement.map {r r' : Except Err (β × World)} (h : Statement A w r r') (f : β → γ) :
    Statement A w (r >>= fun answer => .ok (f answer.1, answer.2))
      (r' >>= fun answer => .ok (f answer.1, answer.2)) := by
  cases r with
  | error e =>
      rw [h.alike]
      exact statement_error
  | ok answer =>
      rw [h.alike]
      exact ⟨rfl, fun b v hv => by cases hv; exact h.written _ _ rfl⟩

/-- The statement without its answer. -/
theorem Statement.forget {r r' : Except Err (β × World)} (h : Statement A w r r') :
    Change A w (r >>= fun answer => .ok answer.2) (r' >>= fun answer => .ok answer.2) := by
  cases r with
  | error e =>
      rw [h.alike]
      exact ⟨rfl, fun _ h => nomatch h⟩
  | ok answer =>
      rw [h.alike]
      exact ⟨rfl, fun w' hw => by cases hw; exact h.written _ _ rfl⟩

variable {ρ : Type} [Owned ρ]

theorem statement_insert {build : Uuid → Timestamp → ρ} (unused : w.db.Unused (w.ids 0))
    (ids : ∀ id now, Entity.id (build id now) = id)
    (owner : ∀ id now, Entity.owner (build id now) = A)
    (fits : ∀ id now, refs w.db (build id now)) :
    Statement A w (w.insert build) ((w.restrict A).insert build) := by
  have fresh : ∀ s ∈ table (ρ := ρ) w.db,
    Entity.id s ≠ Entity.id (build (w.ids 0) w.clock) := by
    intro s hs
    rw [ids]
    exact unused_table unused s hs
  have alike := Database.insertRow_restrict (owner _ _) fresh (fits (w.ids 0) w.clock)
  constructor
  · rw [World.insert_eq, World.insert_eq]
    show Except.map _ (Database.insertRow (build (w.ids 0) w.clock) (w.db.restrict A)) = _
    rw [alike]
    cases Database.insertRow (build (w.ids 0) w.clock) w.db with
    | error e => rfl
    | ok db => rfl
  · intro row w' h
    rw [World.insert_eq] at h
    cases hr : Database.insertRow (build (w.ids 0) w.clock) w.db with
    | error e => simp [hr, Except.map] at h
    | ok db =>
        rw [hr] at h
        cases h
        have grown := Database.insertRow_grown hr (owner _ _) (fits _ _)
        refine ⟨grown, fun sound => ?_, rfl⟩
        exact {
          isolated := grown.isolated sound.isolated
          cache := fun e he => (sound.cache e he).mono grown.extend
          idle := sound.idle }

theorem change_update {i : Uuid} {f : ρ → ρ} (h : Database.Rewrites A i f w.db) :
    Change A w (w.update i f) ((w.restrict A).update i f) := by
  have alike := Database.updateRow_restrict h
  constructor
  · rw [World.update_eq, World.update_eq]
    show Except.map _ (Database.updateRow i f (w.db.restrict A)) = _
    rw [alike]
    cases Database.updateRow i f w.db with
    | error e => rfl
    | ok db => rfl
  · intro w' hw
    rw [World.update_eq] at hw
    cases hr : Database.updateRow i f w.db with
    | error e => simp [hr, Except.map] at hw
    | ok db =>
        rw [hr] at hw
        cases hw
        have grown := Database.updateRow_grown hr h
        refine ⟨grown, fun sound => ?_, rfl⟩
        exact {
          isolated := grown.isolated sound.isolated
          cache := fun e he => (sound.cache e he).mono grown.extend
          idle := sound.idle }

/-- The row under an owned id is the same in the tenant's part. -/
theorem rowById_restrict {db : Database} {i : Uuid} (h : (table (ρ := ρ) db).Owns A i) :
    (db.restrict A).rowById ρ i = db.rowById ρ i := by
  unfold Database.rowById
  rw [show table (ρ := ρ) (db.restrict A) = (table db).ofOwners (· == A) from table_ofOwners _ _]
  refine Table.find?_only (fun r hr found => ?_) fun _ _ _ => rfl
  have same : Entity.id r = i := by simpa using found
  simp [Table.Owns.owner (same ▸ h) hr]

theorem rowById_of_owns {db : Database} {i : Uuid} (h : (table (ρ := ρ) db).Owns A i) :
    ∃ r, db.rowById ρ i = some r ∧ r ∈ table (ρ := ρ) db ∧ Entity.id r = i ∧
      Entity.owner r = A := by
  obtain ⟨r, hr, found, same, owner⟩ := h.find?
  exact ⟨r, found, hr, same, owner⟩

/-- An UPDATE of an owned row. -/
theorem rewrites_of_owns {db : Database} {i : Uuid} {f : ρ → ρ}
    (h : (table (ρ := ρ) db).Owns A i)
    (keeps : ∀ r ∈ table (ρ := ρ) db, Entity.id r = i → Entity.owner r = A →
      Entity.id (f r) = i ∧ Entity.owner (f r) = A ∧ refs db (f r)) :
    Database.Rewrites A i f db := by
  have owner : ∀ r ∈ table (ρ := ρ) db, Entity.id r = i → Entity.owner r = A :=
    fun r hr same => Table.Owns.owner (same ▸ h) hr
  exact ⟨owner, fun r hr same => (keeps r hr same (owner r hr same)).1,
    fun r hr same => (keeps r hr same (owner r hr same)).2.1,
    fun r hr same => (keeps r hr same (owner r hr same)).2.2⟩

/-- What a statement makes of the state, in a run. -/
theorem Svc.within_settle {P : Fact} {p : Svc β} {Q : β → Fact}
    (act : World → Except Err (β × World)) (runs : ∀ w, p.runs w = settle w (act w))
    (h : ∀ w, w.Sound → w.Fresh → P.holds w.db → Statement A w (act w) (act (w.restrict A)))
    (found : ∀ w b w', w.Sound → P.holds w.db → act w = .ok (b, w') → (Q b).holds w'.db) :
    Svc.Within A P p Q := by
  refine within_run (fun w sound fresh hp => ?_) fun w sound fresh hp => ?_
  · rw [runs, runs, (h w sound fresh hp).alike]
    cases act w with
    | error e => exact ⟨rfl, World.restrict_restrict A w⟩
    | ok answer => exact ⟨rfl, World.restrict_restrict A answer.2⟩
  · rw [runs]
    cases hr : act w with
    | error e => exact ⟨(tenantRealm A).refl w, sound, fun _ ha => nomatch ha⟩
    | ok answer =>
        obtain ⟨b, w'⟩ := answer
        have done := (h w sound fresh hp).written b w' hr
        refine ⟨done.acted, done.sound sound, fun a ha => ?_⟩
        cases ha
        exact found w b w' sound hp hr

theorem Svc.within_statement {P : Fact} {Q : β → Fact} {label : Label}
    {act : World → Except Err (β × World)}
    (h : ∀ w, w.Sound → w.Fresh → P.holds w.db → Statement A w (act w) (act (w.restrict A)))
    (found : ∀ w b w', w.Sound → P.holds w.db → act w = .ok (b, w') → (Q b).holds w'.db) :
    Svc.Within A P (statement label act) Q :=
  within_settle act (runs_statement label act) h found

theorem Svc.within_saving {P : Fact} {Q : β → Fact} {entity : StoredObject}
    {act : Database → World → Except Err (β × World)}
    (h : ∀ w, w.Sound → P.holds w.db →
      Statement A w (act w.db w) (act (w.restrict A).db (w.restrict A)))
    (found : ∀ w b w', w.Sound → P.holds w.db → act w.db w = .ok (b, w') →
      (Q b).holds w'.db) :
    Svc.Within A P (saving entity act) Q :=
  within_settle (fun w => act w.db w) (runs_saving entity act) (fun w sound _ => h w sound) found

theorem Svc.within_softRemoving {P : Fact} {Q : β → Fact} {entity : StoredObject}
    {act : Database → World → Except Err (β × World)}
    (h : ∀ w, w.Sound → P.holds w.db →
      Statement A w (act w.db w) (act (w.restrict A).db (w.restrict A)))
    (found : ∀ w b w', w.Sound → P.holds w.db → act w.db w = .ok (b, w') →
      (Q b).holds w'.db) :
    Svc.Within A P (softRemoving entity act) Q :=
  within_settle (fun w => act w.db w) (runs_softRemoving entity act) (fun w sound _ => h w sound)
    found

end Rules

end Tenantory
