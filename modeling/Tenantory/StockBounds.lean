import Tenantory.StockInterleaving
import Tenantory.StockPlacement

/-! Stock quantities in every interleaving. Calls may overwrite each other, but what a call
writes it has counted from a row that it has read and checked, so that no quantity becomes
negative and every movement that is announced is one step of its operation. -/

namespace Tenantory

open InventoryService UuidText

/-! ## Counts -/

/-- Neither quantity is negative. -/
structure StockMovementSnapshot.Counts (s : StockMovementSnapshot) : Prop where
  available : 0 ≤ s.availableQuantity
  reserved : 0 ≤ s.reservedQuantity

structure StockPatch.Counts (patch : StockPatch) : Prop where
  available : ∀ v, patch.availableQuantity = some v → 0 ≤ v
  reserved : ∀ v, patch.reservedQuantity = some v → 0 ≤ v

def StockWrite.Counts : StockWrite → Prop
  | insert row => row.snapshot.Counts
  | update _ patch => patch.Counts

/-- The operation takes no more units than there are. -/
theorem StockOp.shift_counts {op : StockOp} {q : ℤ} {s : StockMovementSnapshot}
    (positive : 1 ≤ q) (admitted : op.admits q s = true) (counts : s.Counts) :
    (op.shift q s).Counts := by
  obtain ⟨available, reserved⟩ := counts
  cases op with
  | deduct =>
      have enough := StockOp.admits_deduct.mp admitted
      exact ⟨by simp only [StockOp.shift, StockOp.available]; omega,
        by simp only [StockOp.shift, StockOp.reserved]; omega⟩
  | reserve =>
      have enough := StockOp.admits_reserve.mp admitted
      exact ⟨by simp only [StockOp.shift, StockOp.available]; omega,
        by simp only [StockOp.shift, StockOp.reserved]; omega⟩
  | release =>
      have enough := StockOp.admits_release.mp admitted
      exact ⟨by simp only [StockOp.shift, StockOp.available]; omega,
        by simp only [StockOp.shift, StockOp.reserved]; omega⟩
  | replenish =>
      exact ⟨by simp only [StockOp.shift, StockOp.available]; omega,
        by simp only [StockOp.shift, StockOp.reserved]; omega⟩

theorem StockPatch.apply_counts {patch : StockPatch} {row : StockLevel} (counts : patch.Counts)
    (old : row.snapshot.Counts) : (patch.apply row).snapshot.Counts := by
  constructor
  · show 0 ≤ patch.availableQuantity.getD row.availableQuantity
    cases given : patch.availableQuantity with
    | none => exact old.available
    | some v => exact counts.available v given
  · show 0 ≤ patch.reservedQuantity.getD row.reservedQuantity
    cases given : patch.reservedQuantity with
    | none => exact old.reserved
    | some v => exact counts.reserved v given

theorem StockWrite.apply_counts {change : StockWrite} {t : Table StockLevel}
    (counts : change.Counts) (rows : ∀ s ∈ t, s.snapshot.Counts) :
    ∀ s ∈ change.apply t, s.snapshot.Counts := by
  intro s mem
  cases change with
  | insert row =>
      cases inserted : t.insert? row with
      | none =>
          simp only [StockWrite.apply, inserted, Option.getD_none] at mem
          exact rows s mem
      | some u =>
          simp only [StockWrite.apply, inserted, Option.getD_some] at mem
          rcases (Table.mem_insert? inserted).mp mem with old | rfl
          · exact rows s old
          · exact counts
  | update id patch =>
      have mem : s ∈ t.rows.map fun r => if r.id == id then patch.apply r else r := mem
      obtain ⟨r, stored, rfl⟩ := List.mem_map.mp mem
      split
      · exact StockPatch.apply_counts counts (rows r stored)
      · exact rows r stored

/-- One step of the operation, from what it has found. -/
structure StockOp.Makes (op : StockOp) (q : ℤ) (m : StockMovementEvent) : Prop where
  found : m.before.Counts
  admitted : op.admits q m.before = true
  after : m.after = op.shift q m.before

/-! ## The invariant -/

/-- No row that is stored or about to be stored has a negative quantity, and the movements
that have been announced are as they should be. -/
structure World.Counted (fine : StockMovementEvent → Prop) (w : World) : Prop where
  rows : ∀ s ∈ w.db.stockLevels, s.snapshot.Counts
  pending : ∀ p ∈ w.pending, p.2.Counts
  movements : ∀ m, Event.stockMovement m ∈ w.journal → fine m

section Invariant

variable {fine : StockMovementEvent → Prop} {w : World}

theorem World.Counted.write (counted : w.Counted fine) (tx : ℕ) {change : StockWrite}
    (counts : change.Counts) : (w.write tx change).Counted fine where
  rows := counted.rows
  pending p mem := by
    rcases List.mem_append.mp mem with old | new
    · exact counted.pending p old
    · rw [List.mem_singleton.mp new]
      exact counts
  movements := counted.movements

theorem World.Counted.commit (counted : w.Counted fine) (tx : ℕ) :
    (w.commit tx).Counted fine := by
  have applied : ∀ (writes : List (ℕ × StockWrite)) (t : Table StockLevel),
      (∀ p ∈ writes, p ∈ w.pending) → (∀ s ∈ t, s.snapshot.Counts) →
        ∀ s ∈ writes.foldl (fun t p => p.2.apply t) t, s.snapshot.Counts := by
    intro writes
    induction writes with
    | nil => exact fun _ _ rows => rows
    | cons p writes ih =>
        intro t among rows
        refine ih _ (fun q mem => among q (List.mem_cons_of_mem _ mem)) ?_
        exact StockWrite.apply_counts (counted.pending p (among p List.mem_cons_self)) rows
  refine ⟨?_, fun p mem => counted.pending p (List.mem_of_mem_filter mem), fun m mem => ?_⟩
  · exact applied (w.pending.filter (·.1 == tx)) w.db.stockLevels
      (fun p mem => List.mem_of_mem_filter mem) counted.rows
  · rcases List.mem_append.mp mem with old | new
    · exact counted.movements m old
    · cases List.mem_singleton.mp new

theorem World.Counted.rollback (counted : w.Counted fine) (tx : ℕ) :
    (w.rollback tx).Counted fine where
  rows := counted.rows
  pending p mem := counted.pending p (List.mem_of_mem_filter mem)
  movements := counted.movements

theorem World.Counted.announce (counted : w.Counted fine) {event : Event}
    (announced : ∀ m, event = .stockMovement m → fine m) :
    World.Counted fine { w with journal := w.journal ++ [event] } where
  rows := counted.rows
  pending := counted.pending
  movements m mem := by
    rcases List.mem_append.mp mem with old | new
    · exact counted.movements m old
    · exact announced m (List.mem_singleton.mp new).symm

/-- The others may do what they like, as long as they keep the counts. -/
def counting (fine : StockMovementEvent → Prop) : Discipline World Err Label where
  good := World.Counted fine
  issued _ := 0
  rely _ _ _ := True
  fault := dbFault
  refl _ _ := trivial
  trans _ _ := trivial
  issued_le _ := le_rfl

/-! ## Rules -/

variable {α β : Type} {v : World}

/-- The program keeps the counts whatever other such programs do in between, and `Q` holds of
what it returns. -/
def Counting (fine : StockMovementEvent → Prop) (p : Step α) (Q : α → Prop) : Prop :=
  ∀ own w, World.Counted fine w →
    (counting fine).Keeps (fun _ _ _ => True) p (fun _ a _ => Q a) own w

/-- What is known of an answer; of an error nothing is. -/
def Answered (Q : α → Prop) : Except Err α → Prop
  | .ok a => Q a
  | .error _ => True

variable {Q : α → Prop} {R : β → Prop}

theorem counting_ret {a : α} (h : Q a) : Counting fine (.ret a) Q := fun _ _ _ => h

theorem Counting.bind {p : Step α} {f : α → Step β} (h : Counting fine p Q)
    (rest : ∀ a, Q a → Counting fine (f a) R) : Counting fine (p.bind f) R := by
  intro own w counted
  refine Discipline.Keeps.bind ?_
  refine ((h own w counted).frame counted (F := fun _ => True) (fun _ _ _ _ _ => trivial)
    trivial).mono fun own a w told => ?_
  exact rest a told.1 own w told.2.1

theorem Counting.mono {p : Step α} {Q' : α → Prop} (h : Counting fine p Q)
    (weak : ∀ a, Q a → Q' a) : Counting fine p Q' :=
  fun own w counted => (h own w counted).mono fun _ a _ => weak a

theorem counting_atom {a : Atom World Err Label β} {Q : Except Err β → Prop}
    (h : ∀ w, w.Counted fine → (a.act w).2.Counted fine ∧ Q (a.act w).1)
    (failed : ∀ e, Q (.error e)) : Counting fine (.atom a .ret) Q := fun _ w counted =>
  ⟨⟨trivial, (h w counted).1, fun _ _ => trivial⟩, fun _ _ _ => (h w counted).2,
    fun e _ _ _ _ => failed e⟩

theorem counting_query {read : World → Except Err β}
    (h : ∀ w b, w.Counted fine → read w = .ok b → R b) :
    Counting fine (query read).run (Answered R) := by
  refine counting_atom (fun w counted => ⟨counted, ?_⟩) fun _ => trivial
  show Answered R (read w)
  cases answer : read w with
  | error e => trivial
  | ok b => exact h w b counted answer

theorem counting_emit {event : Event} (announced : ∀ m, event = .stockMovement m → fine m) :
    Counting fine (emit event).run (Answered fun _ => True) :=
  counting_atom (fun _ counted => ⟨counted.announce announced, trivial⟩) fun _ => trivial

/-- A step of a service and what follows its answer. -/
theorem Counting.next {p : Svc α} {f : α → Svc β} (h : Counting fine p.run (Answered Q))
    (rest : ∀ a, Q a → Counting fine (f a).run (Answered R)) :
    Counting fine (p >>= f).run (Answered R) := by
  rw [Svc.run_bind]
  refine h.bind fun answer told => ?_
  cases answer with
  | ok a => exact rest a told
  | error e => exact counting_ret trivial

/-- What a statement leaves that is none of the inventory's, as far as stock goes. -/
structure World.StockKept (w w' : World) : Prop where
  stock : w'.db.stockLevels = w.db.stockLevels
  pending : w'.pending = w.pending

theorem World.Beside.stockKept {w' : World} (beside : w.Beside w') : w.StockKept w' :=
  ⟨beside.stock, beside.pending⟩

theorem World.StockKept.trans {u : World} (h : u.StockKept v) (h' : v.StockKept w) :
    u.StockKept w :=
  ⟨h'.stock.trans h.stock, h'.pending.trans h.pending⟩

/-- A call that leaves stock alone, whatever it announces. -/
theorem counting_kept {p : Step α} (announced : ∀ m, fine m)
    (h : ∀ w₀ : World, p.Guarded (fun _ _ => True) w₀.StockKept) :
    Counting fine p fun _ => True := by
  intro own w counted
  induction p generalizing own w with
  | ret a => trivial
  | atom a k ih =>
      have kept : w.StockKept (a.act w).2 := (h w).1 w ⟨rfl, rfl⟩ trivial
      have counted' : (a.act w).2.Counted fine :=
        ⟨kept.stock ▸ counted.rows, kept.pending ▸ counted.pending, fun m _ => announced m⟩
      refine ⟨⟨trivial, counted', fun _ _ => trivial⟩, fun t _ counted => ?_,
        fun e _ t _ counted => ?_⟩
      · exact ih _ (fun w₀ => (h w₀).2 _) _ _ counted
      · exact ih _ (fun w₀ => (h w₀).2 _) _ _ counted

end Invariant

/-! ## Stock calls -/

section Stock

variable {fine : StockMovementEvent → Prop} {m : Movement} {tx : ℕ} {v : Captured}
  {op : StockOp}
  {q : ℤ}

/-- What a save returns shows the quantities that it was given. -/
abbrev SavedAs (s : StockMovementSnapshot) (saved : StockLevel) : Prop := saved.snapshot = s

theorem counting_insertStock {variantId warehouseId : Uuid}
    {build : Uuid → Timestamp → StockLevel}
    {s : StockMovementSnapshot} (counts : s.Counts)
    (built : ∀ id now, (build id now).snapshot = s) :
    Counting fine (insertStock tx variantId warehouseId build).run (Answered (SavedAs s)) := by
  refine counting_atom (fun w counted => ?_) fun _ => trivial
  show (insertAct tx build w).2.Counted fine ∧ Answered (SavedAs s) (insertAct tx build w).1
  unfold insertAct
  simp only
  split
  · exact ⟨counted, trivial⟩
  · split
    · exact ⟨counted, trivial⟩
    · split
      · exact ⟨counted, trivial⟩
      · have row : (StockWrite.insert (build (w.ids 0) w.clock)).Counts := by
          show (build (w.ids 0) w.clock).snapshot.Counts
          rw [built]
          exact counts
        have wrote := counted.write tx row
        exact ⟨⟨wrote.rows, wrote.pending, wrote.movements⟩, built _ _⟩

theorem counting_updateStock {row : StockLevel} {available reserved : Option ℤ}
    (counts : ∀ now, (StockPatch.mk available reserved now).Counts) :
    Counting fine (updateStock tx row available reserved).run
      (Answered (SavedAs row.snapshot)) := by
  refine counting_atom (fun w counted => ?_) fun _ => trivial
  show (updateAct tx row available reserved w).2.Counted fine ∧
    Answered (SavedAs row.snapshot) (updateAct tx row available reserved w).1
  unfold updateAct
  split
  · exact ⟨counted, trivial⟩
  · exact ⟨counted.write tx (counts w.clock), rfl⟩

theorem changed_counts {value stored v : ℤ} (counts : 0 ≤ value)
    (h : changed value stored = some v) : 0 ≤ v := by
  unfold changed at h
  split at h
  · cases h
  · cases h
    exact counts

theorem counting_saveStock {stock : StockEntity} (counts : stock.snapshot.Counts) :
    Counting fine (saveStock tx stock).run (Answered (SavedAs stock.snapshot)) := by
  cases stock with
  | created draft =>
      unfold saveStock
      dsimp only
      cases uuidParam draft.tenantId with
      | error e => exact counting_ret trivial
      | ok tenant => exact counting_insertStock counts fun _ _ => rfl
  | loaded row =>
      have reloads : Counting fine (reloadStock row).run (Answered fun _ => True) :=
        counting_atom (fun w counted => ⟨counted, trivial⟩) fun _ => trivial
      refine reloads.next fun found _ => ?_
      cases found with
      | none => exact counting_insertStock counts fun _ _ => rfl
      | some stored =>
          dsimp only
          split
          · exact counting_ret rfl
          · exact counting_updateStock fun now =>
              ⟨fun _ h => changed_counts counts.available h,
                fun _ h => changed_counts counts.reserved h⟩

theorem counting_find (performs : m.Performs op q) :
    Counting fine m.find.run (Answered fun stock => stock.snapshot.Counts) := by
  have reads : Counting fine (findStock m.tenantId m.variantId m.warehouseId).run
      (Answered fun found => ∀ row, found = some row → row.snapshot.Counts) :=
    counting_query fun w found counted read row same => by
      obtain ⟨tenant, -, read⟩ := bind_eq_ok.mp read
      obtain ⟨variant, -, read⟩ := bind_eq_ok.mp read
      obtain ⟨warehouse, -, last⟩ := bind_eq_ok.mp read
      rw [same] at last
      exact counted.rows row (Table.mem_of_find? (Except.ok.inj last))
  refine reads.next fun found told => ?_
  cases found with
  | some row => exact counting_ret (told row rfl)
  | none =>
      dsimp only
      cases made : m.absent with
      | error missing => exact counting_ret trivial
      | ok draft =>
          obtain ⟨-, -, available, reserved⟩ := performs.draft draft made
          exact counting_ret ⟨available.symm.le, reserved.symm.le⟩

/-- The remembered movement is one step of the operation. -/
abbrev Remembered (op : StockOp) (q : ℤ) {α : Type} (r : Except Err α × Captured) : Prop :=
  ∀ movement, r.2 = some movement → op.Makes q movement

theorem counting_callback (performs : m.Performs op q) (positive : 1 ≤ q)
    (before : ∀ movement, v = some movement → op.Makes q movement) :
    Counting fine ((m.callback tx).run v) (Remembered op q) := by
  unfold Movement.callback
  rw [Attempt.run_bind, Attempt.run_lift, Prog.bind_assoc]
  refine (counting_find performs).bind fun answer counts => ?_
  rw [Prog.ret_bind]
  cases answer with
  | error e => exact counting_ret before
  | ok stock =>
      dsimp only [Attempt.next]
      cases refused : m.refused stock with
      | some err => exact counting_ret before
      | none =>
          have admitted := (performs.refused stock).mp refused
          have shifted : (stock.setQuantities (stock.availableQuantity + m.available)
              (stock.reservedQuantity + m.reserved)).snapshot = op.shift q stock.snapshot := by
            rw [performs.available, performs.reserved]
            cases stock with
            | created draft => rfl
            | loaded row => rfl
          dsimp only
          rw [Attempt.run_bind, Attempt.run_lift, Prog.bind_assoc]
          have saves : Counting fine (saveStock tx (stock.setQuantities
              (stock.availableQuantity + m.available) (stock.reservedQuantity + m.reserved))).run
              (Answered (SavedAs _)) :=
            counting_saveStock (shifted ▸ StockOp.shift_counts positive admitted counts)
          refine saves.bind fun saved told => ?_
          rw [Prog.ret_bind]
          cases saved with
          | error e => exact counting_ret before
          | ok saved =>
              refine counting_ret fun movement same => ?_
              cases same
              exact ⟨counts, admitted, (show saved.snapshot = _ from told).trans shifted⟩

theorem counting_transaction (performs : m.Performs op q) (positive : 1 ≤ q)
    (before : ∀ movement, v = some movement → op.Makes q movement) :
    Counting fine ((transaction m.callback).run v) (Remembered op q) := by
  have begins : Counting fine startTransaction.run (Answered fun _ => True) :=
    counting_atom (fun w counted =>
      ⟨⟨counted.rows, counted.pending, counted.movements⟩, trivial⟩)
      fun _ => trivial
  unfold transaction
  rw [Attempt.run_bind, Attempt.run_lift, Prog.bind_assoc]
  refine begins.bind fun tx _ => ?_
  rw [Prog.ret_bind]
  cases tx with
  | error e => exact counting_ret before
  | ok tx =>
      dsimp only [Attempt.next]
      have commits : Counting fine (commitTransaction tx).run (Answered fun _ => True) :=
        counting_atom (fun w counted => ⟨counted.commit tx, trivial⟩) fun _ => trivial
      have rolls : Counting fine (rollbackTransaction tx).run (Answered fun _ => True) :=
        counting_atom (fun w counted => ⟨counted.rollback tx, trivial⟩) fun _ => trivial
      have rolled (err : Err) {v : Captured}
          (before : ∀ movement, v = some movement → op.Makes q movement) : Counting fine
          ((do Attempt.lift (rollbackTransaction tx); throw err : Attempt StockLevel).run v)
          (Remembered op q) := by
        rw [Attempt.run_bind, Attempt.run_lift, Prog.bind_assoc]
        refine rolls.bind fun done _ => ?_
        rw [Prog.ret_bind]
        cases done with
        | error e => exact counting_ret before
        | ok done => exact counting_ret before
      rw [Attempt.run_tryCatch, Attempt.run_bind, Prog.bind_assoc]
      refine (counting_callback performs positive before).bind fun answer told => ?_
      obtain ⟨answer, v'⟩ := answer
      cases answer with
      | error err => exact rolled err told
      | ok saved =>
          dsimp only [Attempt.next]
          rw [Attempt.run_bind, Attempt.run_lift, Prog.bind_assoc, Prog.bind_assoc]
          refine commits.bind fun done _ => ?_
          rw [Prog.ret_bind]
          cases done with
          | error err => exact rolled err told
          | ok done => exact counting_ret told

theorem counting_retryFrom (performs : m.Performs op q) (positive : 1 ≤ q) (left attempt : ℕ)
    (before : ∀ movement, v = some movement → op.Makes q movement) :
    Counting fine ((RetryBackoff.retryFrom timer (transaction m.callback) retryOptions
      exhausted left attempt).run v) (Remembered op q) := by
  induction left generalizing attempt v with
  | zero => exact counting_ret before
  | succ left ih =>
      unfold RetryBackoff.retryFrom
      rw [Attempt.run_tryCatch]
      refine (counting_transaction performs positive before).bind fun answer told => ?_
      obtain ⟨answer, v'⟩ := answer
      cases answer with
      | ok saved => exact counting_ret told
      | error e =>
          dsimp only [Attempt.handle]
          split
          · exact counting_ret told
          · -- the draw and the sleep leave stock alone
            intro own w counted
            refine ⟨⟨trivial, ⟨counted.rows, counted.pending, counted.movements⟩,
              fun _ _ => trivial⟩, fun t _ counted => ?_, fun e impossible => impossible.elim⟩
            refine ⟨⟨trivial, ⟨counted.rows, counted.pending, counted.movements⟩,
              fun _ _ => trivial⟩, fun u _ counted => ?_, fun e impossible => impossible.elim⟩
            exact ih _ told _ _ counted

theorem counting_record {context : Option AuditContextData} {input : AuditEventInput} :
    Counting fine (AuditService.record context input).run (Answered fun _ => True) := by
  unfold AuditService.record
  cases AuditService.event? context input with
  | none => exact counting_ret trivial
  | some event => exact counting_emit fun m same => by cases same

theorem counting_run (performs : m.Performs op q) (positive : 1 ≤ q)
    (context : Option AuditContextData)
    (made : ∀ movement, op.Makes q movement → fine movement) :
    Counting fine (m.run context).run (Answered fun _ => True) := by
  show Counting fine ((m.attempts.run none).bind _) _
  refine (counting_retryFrom performs positive _ _ fun _ none => by cases none).bind
    fun answer told => ?_
  obtain ⟨answer, captured⟩ := answer
  cases answer with
  | error e => exact counting_ret trivial
  | ok saved =>
      cases captured with
      | none => exact counting_ret trivial
      | some movement =>
          refine Counting.next (Q := fun _ => True) (counting_record.next fun _ _ => ?_) fun _ _ =>
            counting_ret trivial
          exact counting_emit fun m same => by
            cases same
            exact made movement (told movement rfl)

theorem counting_discard {α : Type} {p : Svc α}
    (h : Counting fine p.run (Answered fun _ => True)) :
    Counting fine (do let _ ← p : Svc Unit).run (Answered fun _ => True) :=
  h.next fun _ _ => counting_ret trivial

theorem counting_lookup {α : Type} {p : Svc α} {read : World → Except Err (Option α)}
    {f : Option α → Svc α} (looks : p = query read >>= f)
    (only : ∀ found, (∃ a, f found = pure a) ∨ ∃ e, f found = throw e) :
    Counting fine p.run (Answered fun _ => True) := by
  rw [looks]
  refine Counting.next (Q := fun _ => True) (counting_query fun _ _ _ _ => trivial)
    fun found _ => ?_
  rcases only found with ⟨a, same⟩ | ⟨e, same⟩
  · rw [same]
    exact counting_ret trivial
  · rw [same]
    exact counting_ret trivial

theorem counting_findOneById (tenantId variantId : String) :
    Counting fine (VariantService.findOneById tenantId variantId).run (Answered fun _ => True) :=
  counting_lookup rfl fun found => by
    cases found with
    | none => exact .inr ⟨_, rfl⟩
    | some a => exact .inl ⟨a, rfl⟩

theorem counting_findWarehouse (tenantId id : String) :
    Counting fine (WarehouseService.findOne tenantId id).run (Answered fun _ => True) :=
  counting_lookup rfl fun found => by
    cases found with
    | none => exact .inr ⟨_, rfl⟩
    | some a => exact .inl ⟨a, rfl⟩

theorem StockCall.program_counting (call : StockCall) (positive : 1 ≤ call.dto.quantity)
    (context : Option AuditContextData)
    (made : ∀ movement, call.op.Makes call.dto.quantity movement → fine movement) :
    Counting fine (call.program context).run (Answered fun _ => True) := by
  obtain ⟨op, tenantId, dto⟩ := call
  cases op with
  | reserve =>
      exact counting_discard
        (counting_run (reservation_performs tenantId dto) positive context made)
  | release =>
      exact counting_discard (counting_run (release_performs tenantId dto) positive context made)
  | deduct =>
      refine (counting_findOneById tenantId dto.variantId).next fun variant _ => ?_
      refine (counting_findWarehouse tenantId dto.warehouseId).next fun warehouse _ => ?_
      exact counting_discard (counting_run (deduction_performs tenantId dto variant warehouse)
        positive context made)
  | replenish =>
      refine counting_discard ?_
      refine (counting_findWarehouse tenantId dto.warehouseId).next fun warehouse _ => ?_
      refine (counting_findOneById tenantId dto.variantId).next fun variant _ => ?_
      exact counting_run (replenishment_performs tenantId dto variant warehouse) positive context
        made

end Stock

/-! ## Calls that leave stock alone -/

/-- Every statement of the call leaves stock as it is. -/
abbrev Svc.KeepsStock {α : Type} (w₀ : World) (p : Svc α) : Prop :=
  Svc.Keeps (fun _ _ => True) w₀.StockKept p

theorem kept_of_beside {α : Type} {p : Step α}
    (h : ∀ u : World, p.Guarded (fun _ _ => True) u.Beside) (w₀ : World) :
    p.Guarded (fun _ _ => True) w₀.StockKept := by
  induction p with
  | ret a => trivial
  | atom a k ih =>
      refine ⟨fun s kept _ => ?_, fun r => ih r fun u => (h u).2 r⟩
      exact kept.trans ((h s).1 s (.refl s) trivial).stockKept

theorem Svc.KeepsItems.keepsStock {α : Type} {p : Svc α} (h : ∀ u, KeepsItems u p)
    (w₀ : World) :
    KeepsStock w₀ p :=
  kept_of_beside h w₀

section Kept

open Svc

variable {α : Type} {w₀ : World} {context : Option AuditContextData} {tenantId : String}

/-- A save of a row of another table, and the event about it. -/
theorem keepsStock_saved {entity : StoredObject}
    {act : Database → World → Except Err (α × World)} {input : α → AuditEventInput}
    (h : ∀ loaded w a w', act loaded w = .ok (a, w') → w.StockKept w') :
    KeepsStock w₀ (do
      let saved ← saving entity act
      AuditService.record context (input saved)
      pure saved) := by
  refine keeps_bind ?_ fun saved => keeps_bind ?_ fun _ => keeps_pure saved
  · exact keeps_saving fun loaded w a w' before _ done => before.trans (h loaded w a w' done)
  · exact Svc.KeepsItems.keepsStock (fun _ => keepsItems_record context _) w₀

theorem VariantService.update_keepsStock (productId variantId : String) (dto : UpdateVariantDto) :
    KeepsStock w₀ (update context tenantId productId variantId dto) := by
  refine keeps_bind (keeps_findOne _ productId variantId) fun variant => ?_
  have saves : KeepsStock w₀ (translated skuTaken do
      let draft := patched dto variant
      let saved ← saving (.variant draft.entity) (saveLoaded draft)
      AuditService.record context (updateAudit variant saved)
      pure saved) := by
    refine keeps_translated _ (keepsStock_saved fun loaded w saved w' written => ?_)
    unfold saveLoaded at written
    split at written
    · cases written
    · obtain ⟨row, -, written⟩ := bind_eq_ok.mp written
      obtain ⟨u, updated, last⟩ := bind_eq_ok.mp written
      cases last
      obtain ⟨-, t, -, rfl⟩ := World.update_ok updated
      exact ⟨rfl, rfl⟩
  cases dto.sku.truthy with
  | none => exact saves
  | some sku =>
      dsimp only
      split
      · exact keeps_bind (keeps_assertSkuUniqueness _ _ _) fun _ => saves
      · exact saves

theorem WarehouseService.update_keepsStock (id : String) (dto : UpdateWarehouseDto) :
    KeepsStock w₀ (update context tenantId id dto) := by
  refine keeps_bind (keeps_findOne _ id) fun warehouse => ?_
  have saves : KeepsStock w₀ (translated nameTaken do
      let edited := patched dto warehouse
      let saved ← saving (.warehouse edited) (saveLoaded edited)
      AuditService.record context (updateAudit warehouse saved)
      pure saved) := by
    refine keeps_translated _ (keepsStock_saved fun loaded w saved w' written => ?_)
    unfold saveLoaded at written
    split at written
    · obtain ⟨db, inserted, last⟩ := bind_eq_ok.mp written
      cases last
      obtain ⟨-, -, t, -, rfl⟩ := Database.insertRow_ok inserted
      exact ⟨rfl, rfl⟩
    · obtain ⟨u, updated, last⟩ := bind_eq_ok.mp written
      cases last
      obtain ⟨-, t, -, rfl⟩ := World.update_ok updated
      exact ⟨rfl, rfl⟩
  dsimp only
  cases dto.name.truthy with
  | none => exact saves
  | some name => exact keeps_bind (keeps_assertNameUnique _ _ _) fun _ => saves

end Kept

/-! ## Calls in flight -/

section Calls

variable {platform : Platform} {bcrypt : Bcrypt} {ι : Type}

theorem counting_discarded {α : Type} {p : Svc α} (h : ∀ w₀, Svc.KeepsStock w₀ p) :
    Counting (fun _ => True) (discard p : Svc Unit).run (Answered fun _ => True) :=
  counting_discard ((counting_kept (fun _ => trivial) h).mono fun answer _ => by
    cases answer <;> trivial)

theorem AuditedOp.program_counting (op : AuditedOp) (context : Option AuditContextData)
    (tenantId : String) :
    Counting (fun _ => True) (op.program platform bcrypt context tenantId).run fun _ => True := by
  have discarded {α : Type} {p : Svc α} (h : ∀ w₀, Svc.KeepsStock w₀ p) :
      Counting (fun _ => True) (discard p : Svc Unit).run fun _ => True :=
    (counting_discarded h).mono fun _ _ => trivial
  have kept {α : Type} {p : Svc α} (h : ∀ w₀, Svc.KeepsItems w₀ p) :
      Counting (fun _ => True) (discard p : Svc Unit).run fun _ => True :=
    discarded (Svc.KeepsItems.keepsStock h)
  have whole {p : Svc Unit} (h : ∀ w₀, Svc.KeepsItems w₀ p) :
      Counting (fun _ => True) p.run fun _ => True :=
    counting_kept (fun _ => trivial) (Svc.KeepsItems.keepsStock h)
  cases op with
  | createCategory dto => exact kept fun _ => CategoryService.create_keepsItems dto
  | updateCategory id dto => exact kept fun _ => CategoryService.update_keepsItems dto
  | removeCategory id => exact whole fun _ => CategoryService.remove_keepsItems
  | createProduct dto => exact kept fun _ => ProductService.create_keepsItems dto
  | updateProduct id dto => exact kept fun _ => ProductService.update_keepsItems dto
  | removeProduct id => exact whole fun _ => ProductService.remove_keepsItems
  | createVariant productId dto =>
      exact kept fun _ => VariantService.create_keepsItems productId dto
  | updateVariant productId variantId dto =>
      exact discarded fun _ => VariantService.update_keepsStock productId variantId dto
  | removeVariant productId variantId =>
      exact whole fun _ => VariantService.remove_keepsItems productId variantId
  | createWarehouse dto => exact kept fun _ => WarehouseService.create_keepsItems dto
  | updateWarehouse id dto => exact discarded fun _ => WarehouseService.update_keepsStock id dto
  | removeWarehouse id => exact whole fun _ => WarehouseService.remove_keepsItems
  | createSupplier dto => exact kept fun _ => SupplierService.create_keepsItems dto
  | updateSupplier id dto => exact kept fun _ => SupplierService.update_keepsItems dto
  | removeSupplier id => exact whole fun _ => SupplierService.remove_keepsItems
  | inviteUser dto => exact kept fun _ => TenantUserManagementService.inviteUser_keepsItems dto
  | updateUserRole userId dto =>
      exact kept fun _ => TenantUserManagementService.updateUserRole_keepsItems userId dto
  | updateSettings dto => exact kept fun _ => TenantSettingService.updateSettings_keepsItems dto

theorem ShopCall.program_counting (call : ShopCall)
    (accepted : ∀ stock context, call = .stock stock context → 1 ≤ stock.dto.quantity) :
    Counting (fun _ => True) (call.program platform bcrypt).run fun _ => True := by
  cases call with
  | stock call context =>
      exact (call.program_counting (accepted call context rfl) context fun _ _ => trivial).mono
        fun _ _ => trivial
  | audited op context tenantId => exact op.program_counting context tenantId
  | other p keeps => exact counting_kept (fun _ => trivial) (kept_of_beside keeps)

/-- However calls interleave, fail and are retried, no stock row comes to a negative quantity. -/
theorem quantities_never_negative [DecidableEq ι] {calls : ι → ShopCall} {w : World}
    {c : Pool World Err Label ι (Except Err Unit)}
    (accepted : ∀ i stock context, calls i = .stock stock context → 1 ≤ stock.dto.quantity)
    (rows : ∀ s ∈ w.db.stockLevels, 0 ≤ s.availableQuantity ∧ 0 ≤ s.reservedQuantity)
    (idle : w.pending = [])
    (reach : Pool.Reach dbFault (fun _ _ _ => True) (shopPool platform bcrypt calls w) c) :
    ∀ s ∈ c.state.db.stockLevels, 0 ≤ s.availableQuantity ∧ 0 ≤ s.reservedQuantity := by
  have counted : w.Counted fun _ => True :=
    ⟨fun s mem => ⟨(rows s mem).1, (rows s mem).2⟩, by simp [idle], fun _ _ => trivial⟩
  have start : (counting fun _ => True).Disciplined (fun _ _ _ _ => True)
      (shopPool platform bcrypt calls w) :=
    Discipline.disciplined_start counted fun i t counted =>
      (calls i).program_counting (accepted i) _ t counted
  have kept : c.state.Counted fun _ => True := (Discipline.disciplined_reach start reach).1
  exact fun s mem => ⟨(kept.rows s mem).available, (kept.rows s mem).reserved⟩

/-- What stock calls announce, in whichever order they act: a step of one of them, from
quantities that are not negative and suffice. -/
theorem movements_are_steps [DecidableEq ι] {calls : ι → StockRequest} {w : World}
    {c : Pool World Err Label ι (Except Err Unit)} (accepted : ∀ i, (calls i).Accepted)
    (rows : ∀ s ∈ w.db.stockLevels, 0 ≤ s.availableQuantity ∧ 0 ≤ s.reservedQuantity)
    (idle : w.pending = [])
    (reach : Pool.Reach dbFault (fun _ _ _ => True) (stockPool calls w) c)
    (m : StockMovementEvent) (announced : Event.stockMovement m ∈ c.state.journal) :
    Event.stockMovement m ∈ w.journal ∨
      ∃ i, (calls i).call.op.Makes (calls i).call.dto.quantity m := by
  have counted : w.Counted fun m => Event.stockMovement m ∈ w.journal ∨
      ∃ i, (calls i).call.op.Makes (calls i).call.dto.quantity m :=
    ⟨fun s mem => ⟨(rows s mem).1, (rows s mem).2⟩, by simp [idle], fun _ old => .inl old⟩
  have start : (counting _).Disciplined (fun _ _ _ _ => True) (stockPool calls w) :=
    Discipline.disciplined_start counted fun i t counted =>
      (((calls i).call.program_counting (accepted i) _ fun _ made => .inr ⟨i, made⟩).mono
        fun _ _ => trivial) _ t counted
  exact (Discipline.disciplined_reach start reach).1.movements m announced

end Calls

open SampleShop

/-- The last unit is sold twice, and still no quantity is negative. -/
theorem quantities_never_negative_sale : ∃ c, Pool.Reach dbFault (fun _ _ _ => True)
      (buyers 2 1) c ∧ (∀ i, c.progs i = .ret (.ok ())) ∧
    ∀ s ∈ c.state.db.stockLevels, 0 ≤ s.availableQuantity ∧ 0 ≤ s.reservedQuantity := by
  obtain ⟨c, run, sold⟩ := Pool.exists_of_schedule two_buyers
  have run : Pool.Reach dbFault (fun _ _ _ => True) (buyers 2 1) c :=
    run.mono fun _ _ _ _ => trivial
  refine ⟨c, run, (soldOut_spec sold).1, ?_⟩
  exact @quantities_never_negative plainText hashing (Fin 2) _
    (fun _ => .stock (request .deduct 1).call (some (request .deduct 1).context)) _ c
    (fun _ _ _ same => by cases same; decide) (by decide) rfl run

theorem movements_are_steps_sale : ∃ c, Pool.Reach dbFault (fun _ _ _ => True) (buyers 2 1) c ∧
    ∀ m, Event.stockMovement m ∈ c.state.journal → StockOp.deduct.Makes 1 m := by
  obtain ⟨c, run, sold⟩ := Pool.exists_of_schedule two_buyers
  have run : Pool.Reach dbFault (fun _ _ _ => True) (buyers 2 1) c :=
    run.mono fun _ _ _ _ => trivial
  refine ⟨c, run, fun m announced => ?_⟩
  rcases @movements_are_steps (Fin 2) _ (fun _ => request .deduct 1) _ c
    (fun _ => show (1 : ℤ) ≤ 1 by decide)
      (by decide) rfl run m announced with old | ⟨-, made⟩
  · cases old
  · exact made

end Tenantory
