import Tenantory.SampleShop
import Tenantory.StockEffect

/-! Stock operations under failing attempts. Any database atom of a call may fail
with any error, in any attempt; the postcondition carried through the retry
loop is that the world is still as it was, or that one attempt has committed
one change and is remembered by the captured variable. -/

namespace Tenantory

open InventoryService

/-! ## One attempt -/

/-- Nothing has happened since `w₀` but reads and rolled back writes. -/
structure Untouched (w₀ w : World) : Prop where
  db : w.db = w₀.db
  journal : w.journal = w₀.journal
  pending : w.pending = []

/-- Transaction `tx` is open and holds at most writes of its own. -/
structure Open (tx : ℕ) (w₀ w : World) : Prop where
  db : w.db = w₀.db
  journal : w.journal = w₀.journal
  pending : ∀ p ∈ w.pending, p.1 = tx

/-- Transaction `tx` has staged one application of the operation. -/
structure Staged (tx : ℕ) (op : StockOp) (q : ℤ) (key : StockKey)
    (before : StockMovementSnapshot)
    (saved : StockLevel) (w₀ w : World) : Prop extends Open tx w₀ w where
  applied : Applied op q key before saved.snapshot w₀.db (w.commit tx).db
  threshold : ∀ row, w₀.db.stockAt key = some row →
    saved.safetyThreshold = row.safetyThreshold

theorem Open.commit_pending {tx : ℕ} {w₀ w : World} (h : Open tx w₀ w) :
    (w.commit tx).pending = [] := by
  refine List.filter_eq_nil_iff.mpr fun p hp => ?_
  simp [h.pending p hp]

theorem Open.rollback {tx : ℕ} {w₀ w : World} (h : Open tx w₀ w) :
    Untouched w₀ (w.rollback tx) where
  db := h.db
  journal := h.journal
  pending := by
    refine List.filter_eq_nil_iff.mpr fun p hp => ?_
    simp [h.pending p hp]

theorem Untouched.open {tx : ℕ} {w₀ w : World} (h : Untouched w₀ w) : Open tx w₀ w where
  db := h.db
  journal := h.journal
  pending := by simp [h.pending]

theorem Open.write {tx : ℕ} {w₀ w : World} (h : Untouched w₀ w) (change : StockWrite) :
    Open tx w₀ (w.write tx change) where
  db := h.db
  journal := h.journal
  pending := by simp [World.write, h.pending]

theorem commit_write {tx : ℕ} {w₀ w : World} (h : Untouched w₀ w) (change : StockWrite) :
    ((w.write tx change).commit tx).db = w₀.db.withWrite change := by
  simp [World.commit, World.write, h.pending, h.db, Database.withWrite]

theorem commit_unwritten {tx : ℕ} {w₀ w : World} (h : Untouched w₀ w) :
    (w.commit tx).db = w₀.db := by
  simp [World.commit, h.pending, h.db]

theorem changed_getD (value stored : ℤ) : (changed value stored).getD stored = value := by
  unfold changed
  split
  · rename_i same
    simp [same]
  · rfl

theorem changed_isNone {value stored : ℤ} :
    (changed value stored).isNone = true ↔ value = stored := by
  unfold changed
  split <;> simp_all

/-- The outcome of a step inside transaction `tx` that answers with an entity. -/
def StagedOr (tx : ℕ) (op : StockOp) (q : ℤ) (key : StockKey) (before : StockMovementSnapshot)
    (w₀ : World) : Except Err StockLevel → World → Prop
  | .ok saved, w => Staged tx op q key before saved w₀ w
  | .error _, w => Open tx w₀ w

variable {op : StockOp} {q : ℤ} {key : StockKey} {w₀ w : World} {tx : ℕ}

theorem wp_insertStock {before : StockMovementSnapshot} {variantId warehouseId : Uuid}
    {build : Uuid → Timestamp → StockLevel} (h : Untouched w₀ w)
    (admitted : op.admits q ⟨0, 0⟩ = true) (zero : before = ⟨0, 0⟩)
    (keyed : ∀ id now, (build id now).key = key)
    (values : ∀ id now, (build id now).snapshot = op.shift q ⟨0, 0⟩) :
    (insertStock tx variantId warehouseId build).run.wp dbFault
      (StagedOr tx op q key before w₀) w := by
  refine ⟨?_, fun _ _ => h.open⟩
  show StagedOr tx op q key before w₀ (insertAct tx build w).1 (insertAct tx build w).2
  unfold insertAct
  simp only
  split
  · exact h.open
  · split
    · exact h.open
    · split
      · exact h.open
      · rename_i free _
        have apart : ∀ s ∈ w₀.db.stockLevels,
          conflict (build (w.ids 0) w.clock) s = false := by
          intro s hs
          rw [← h.db] at hs
          simpa using (List.any_eq_false.mp (by simpa using free)) s hs
        have wrote : Open tx w₀ (w.write tx (.insert (build (w.ids 0) w.clock))) := Open.write h _
        refine ⟨⟨wrote.db, wrote.journal, wrote.pending⟩, ?_, fun row stored => ?_⟩
        · show Applied op q key before _ w₀.db ((w.write tx _).commit tx).db
          rw [commit_write h, zero, values, ← keyed (w.ids 0) w.clock]
          exact applied_insert apart admitted (values _ _)
        · obtain ⟨mem, same⟩ := stockAt_eq_some.mp stored
          have meets := apart row mem
          rw [conflict_of_key ((keyed _ _).trans same.symm)] at meets
          cases meets

theorem wp_saveLoaded {row : StockLevel} (after : StockMovementSnapshot) (h : Untouched w₀ w)
    (stored : w₀.db.stockAt key = some row) (admitted : op.admits q row.snapshot = true)
    (values : after = op.shift q row.snapshot) :
    (saveStock tx (.loaded { row with
      availableQuantity := after.availableQuantity
      reservedQuantity := after.reservedQuantity })).run.wp dbFault
        (StagedOr tx op q key row.snapshot w₀) w := by
  have again : w.db.stockLevels.find? (·.id == row.id) = some row := by
    rw [h.db]
    exact find?_id (stockAt_eq_some.mp stored).1
  have unmoved : ∀ found, w₀.db.stockAt key = some found →
      row.safetyThreshold = found.safetyThreshold := fun found again =>
    congrArg StockLevel.safetyThreshold (Option.some.inj (stored.symm.trans again))
  unfold saveStock
  rw [Svc.run_bind, Prog.wp_bind]
  refine Svc.wp_perform.mpr ⟨?_, fun _ _ => h.open⟩
  simp only [again, Svc.next_ok]
  split
  · rename_i same
    simp only [Bool.and_eq_true, changed_isNone] at same
    refine ⟨h.open, ?_, unmoved⟩
    have shifted : op.shift q row.snapshot = row.snapshot := by
      rw [← values]
      simp [StockLevel.snapshot, ← same.1, ← same.2]
    show Applied op q key row.snapshot after w₀.db (w.commit tx).db
    rw [commit_unwritten h, values]
    exact applied_unwritten stored admitted shifted.symm
  · refine ⟨?_, fun _ _ => h.open⟩
    simp only [updateAct]
    split
    · exact h.open
    · refine ⟨Open.write h _, ?_, unmoved⟩
      show Applied op q key row.snapshot after w₀.db ((w.write tx _).commit tx).db
      rw [commit_write h, values]
      refine applied_update stored admitted ?_
      simp [StockPatch.apply, StockLevel.snapshot, changed_getD]

/-! ## The transaction and its retries -/

variable {m : Movement} {captured : Captured}

theorem wp_find (h : Untouched w₀ w)
    (post : Except Err StockEntity → World → Prop) (failed : ∀ e, post (.error e) w)
    (loaded : ∀ key row, Names m.tenantId m.variantId m.warehouseId key →
      w₀.db.stockAt key = some row → post (.ok (.loaded row)) w)
    (created : ∀ key draft, Names m.tenantId m.variantId m.warehouseId key →
      m.absent = .ok draft → post (.ok (.created draft)) w) :
    m.find.run.wp dbFault post w := by
  unfold Movement.find lookup findStock
  rw [Svc.run_bind, Prog.wp_bind]
  refine Svc.wp_query ?_ fun e => failed e
  cases read : stockRead m.tenantId m.variantId m.warehouseId w with
  | error e => exact failed e
  | ok found =>
      obtain ⟨key, names⟩ := names_of_stockRead read
      rw [stockRead_of_names names] at read
      cases found with
      | none =>
          cases absent : m.absent with
          | ok draft => exact created key draft names absent
          | error e => exact failed e
      | some row =>
          have visible := visibleStock_eq_some.mp (Except.ok.inj read)
          rw [h.db] at visible
          exact loaded key row names visible.1

/-- What the callback leaves behind when it answers: one change, staged, with the
captured variable set to its description. -/
def CallbackPost (m : Movement) (op : StockOp) (q : ℤ) (tx : ℕ) (w₀ : World) :
    Except Err StockLevel × Captured → World → Prop
  | (.ok saved, captured), w => ∃ key before, Names m.tenantId m.variantId m.warehouseId key ∧
      captured = some (m.event before saved) ∧ Staged tx op q key before saved w₀ w
  | (.error _, _), w => Open tx w₀ w

theorem wp_save_then {stock : StockEntity} {before : StockMovementSnapshot} (m : Movement)
    (names : Names m.tenantId m.variantId m.warehouseId key)
    (saving : (saveStock tx stock).run.wp dbFault (StagedOr tx op q key before w₀) w) :
    ((do
      let saved ← Attempt.lift (saveStock tx stock)
      set (some (m.event before saved))
      pure saved : Attempt StockLevel).run captured).wp dbFault
        (CallbackPost m op q tx w₀) w := by
  rw [Attempt.run_bind, Attempt.run_lift, Prog.bind_assoc, Prog.wp_bind]
  refine Prog.wp_mono saving fun r w' outcome => ?_
  cases r with
  | error e => exact outcome
  | ok saved => exact ⟨key, before, names, rfl, outcome⟩

theorem wp_callback (tx : ℕ) (performs : m.Performs op q) (h : Untouched w₀ w) :
    ((m.callback tx).run captured).wp dbFault (CallbackPost m op q tx w₀) w := by
  unfold Movement.callback
  rw [Attempt.run_bind, Attempt.run_lift, Prog.bind_assoc, Prog.wp_bind]
  refine wp_find h _ (fun e => h.open) ?_ ?_
  · intro key row names stored
    rw [Prog.ret_bind]
    dsimp only [Attempt.next]
    cases refused : m.refused (.loaded row) with
    | some err => exact h.open
    | none =>
        have admitted := (performs.refused _).mp refused
        refine wp_save_then m names ?_
        rw [performs.available, performs.reserved]
        exact wp_saveLoaded (op.shift q row.snapshot) h stored admitted rfl
  · intro key draft names absent
    rw [Prog.ret_bind]
    dsimp only [Attempt.next]
    cases refused : m.refused (.created draft) with
    | some err => exact h.open
    | none =>
        obtain ⟨keyed, tenant, noneAvailable, noneReserved⟩ := performs.draft draft absent
        have zero : (StockEntity.created draft).snapshot = ⟨0, 0⟩ := by
          simp [StockEntity.snapshot, StockEntity.availableQuantity, StockEntity.reservedQuantity,
            noneAvailable, noneReserved]
        have admitted := (performs.refused _).mp refused
        rw [zero] at admitted
        refine wp_save_then m names ?_
        rw [performs.available, performs.reserved]
        simp only [StockEntity.setQuantities, saveStock, tenant, uuidParam, names.tenant]
        refine wp_insertStock h admitted zero (fun id now => keyed key names id now)
          fun id now => ?_
        simp [StockLevel.snapshot, StockDraft.row, StockOp.shift, StockEntity.availableQuantity,
          StockEntity.reservedQuantity, noneAvailable, noneReserved]

/-- The outcome of an attempt, and of the retry loop. -/
def AttemptPost (m : Movement) (op : StockOp) (q : ℤ) (w₀ : World) :
    Except Err StockLevel × Captured → World → Prop
  | (.ok saved, captured), w =>
      ∃ key before tx, Names m.tenantId m.variantId m.warehouseId key ∧
      captured = some (m.event before saved) ∧
        Applied op q key before saved.snapshot w₀.db w.db ∧
        w.journal = w₀.journal ++ [.committed tx] ∧ w.pending = [] ∧
          ∀ row, w₀.db.stockAt key = some row → saved.safetyThreshold = row.safetyThreshold
  | (.error _, _), w => Untouched w₀ w

theorem wp_transaction (performs : m.Performs op q) (h : Untouched w₀ w) :
    ((transaction m.callback).run captured).wp dbFault (AttemptPost m op q w₀) w := by
  unfold transaction
  rw [Attempt.run_bind, Attempt.run_lift, Prog.bind_assoc, Prog.wp_bind]
  refine Svc.wp_perform.mpr ⟨?_, fun _ _ => h⟩
  have started : Untouched w₀ { w with nextTx := w.nextTx + 1 } :=
    ⟨h.db, h.journal, h.pending⟩
  show ((tryCatch _ _ : Attempt StockLevel).run captured).wp _ _ _
  rw [Attempt.run_tryCatch, Prog.wp_bind, Attempt.run_bind, Prog.wp_bind]
  refine Prog.wp_mono (wp_callback w.nextTx performs started) fun r w' outcome => ?_
  obtain ⟨r, v⟩ := r
  cases r with
  | error e => exact ⟨outcome.rollback, fun _ impossible => impossible.elim⟩
  | ok saved =>
      obtain ⟨key, before, names, event, staged⟩ := outcome
      refine ⟨⟨key, before, w.nextTx, names, event, staged.applied, ?_, staged.commit_pending,
        staged.threshold⟩,
        fun e _ => ⟨staged.rollback, fun _ impossible => impossible.elim⟩⟩
      show w'.journal ++ _ = _
      rw [staged.journal]

theorem Untouched.trans {w' : World} (h : Untouched w₀ w) (h' : Untouched w w') :
    Untouched w₀ w' :=
  ⟨h'.db.trans h.db, h'.journal.trans h.journal, h'.pending⟩

/-- The loop: whatever the earlier attempts did, they are undone. -/
theorem wp_retryFrom (performs : m.Performs op q) (left attempt : ℕ) (h : Untouched w₀ w) :
    ((RetryBackoff.retryFrom timer (transaction m.callback) retryOptions exhausted left
      attempt).run captured).wp dbFault (AttemptPost m op q w₀) w := by
  induction left generalizing attempt w captured with
  | zero => exact h
  | succ left ih =>
      unfold RetryBackoff.retryFrom
      rw [Attempt.run_tryCatch, Prog.wp_bind]
      refine Prog.wp_mono (wp_transaction performs h) fun r w' outcome => ?_
      obtain ⟨r, v⟩ := r
      cases r with
      | ok saved => exact outcome
      | error e =>
          show ((if _ then throw e else _ : Attempt StockLevel).run v).wp _ _ w'
          split
          · exact outcome
          · refine ⟨⟨ih _ ?_, fun _ impossible => impossible.elim⟩,
              fun _ impossible => impossible.elim⟩
            exact ⟨outcome.db, outcome.journal, outcome.pending⟩

/-! ## A whole call -/

/-- One application of the operation, announced after its commit. -/
structure Announced (context : Option AuditContextData) (op : StockOp) (q : ℤ) (key : StockKey)
    (w w' : World) : Prop where
  once : ∃ before after, Applied op q key before after w.db w'.db ∧
    ∃ tx audit movement,
      w'.journal = w.journal ++ [.committed tx, .auditLog audit, .stockMovement movement] ∧
        movement.before = before ∧ movement.after = after ∧
          AuditService.event? context (auditInput movement) = some audit
  settled : w'.pending = []

/-- Nothing has changed that anyone else can see. -/
structure Silent (w w' : World) : Prop where
  db : w'.db = w.db
  journal : w'.journal = w.journal
  settled : w'.pending = []

/-- The movement that a call has published is the change that it has made. -/
structure Published (context : Option AuditContextData) (op : StockOp) (q : ℤ) (key : StockKey)
    (movement : StockMovementEvent) (w w' : World) : Prop where
  names : Names movement.tenantId movement.variantId movement.warehouseId key
  applied : Applied op q key movement.before movement.after w.db w'.db
  journal : ∃ tx audit,
    w'.journal = w.journal ++ [.committed tx, .auditLog audit, .stockMovement movement] ∧
      AuditService.event? context (auditInput movement) = some audit
  threshold : ∀ row, w.db.stockAt key = some row →
    movement.safetyThreshold = row.safetyThreshold
  settled : w'.pending = []

variable {context : Option AuditContextData}

theorem Published.announced {movement : StockMovementEvent} {w' : World}
    (h : Published context op q key movement w w') : Announced context op q key w w' := by
  obtain ⟨tx, audit, journal, recorded⟩ := h.journal
  exact ⟨⟨movement.before, movement.after, h.applied, tx, audit, movement, journal, rfl, rfl,
    recorded⟩, h.settled⟩

/-- A movement that answers has published its ids. -/
def CallPost (context : Option AuditContextData) (op : StockOp) (q : ℤ)
    (tenantId variantId warehouseId : String) (w₀ : World) {α : Type} :
    Except Err α → World → Prop
  | .ok _, w =>
      ∃ key movement, movement.tenantId = tenantId ∧ movement.variantId = variantId ∧
      movement.warehouseId = warehouseId ∧ Published context op q key movement w₀ w
  | .error _, w => Silent w₀ w

/-- A call that answers has changed and announced the row it names; one whose
operation validates has found the variant and the warehouse. -/
def StockCall.Post (call : StockCall) (context : Option AuditContextData) (w₀ : World) :
    Except Err Unit → World → Prop
  | .ok _, w => ∃ key, Names call.tenantId call.dto.variantId call.dto.warehouseId key ∧
      Announced context call.op call.dto.quantity key w₀ w ∧
        (call.op.validates = true → w₀.db.Sells key)
  | .error _, w => Silent w₀ w

/-- What the movement of a call tells: the ids of the call, as it spells them or as the
database does. -/
structure StockCall.Tells (call : StockCall) (key : StockKey) (movement : StockMovementEvent) :
    Prop where
  tenant : movement.tenantId = call.tenantId
  variant : movement.variantId = call.dto.variantId ∨
    movement.variantId = UuidText.uuidOut key.variantId
  warehouse : movement.warehouseId = call.dto.warehouseId ∨
    movement.warehouseId = UuidText.uuidOut key.warehouseId

/-- `StockCall.Post` with the movement that the call has published. -/
def StockCall.Publishes (call : StockCall) (context : Option AuditContextData) (w₀ : World) :
    Except Err Unit → World → Prop
  | .ok _, w =>
      ∃ key movement, Names call.tenantId call.dto.variantId call.dto.warehouseId key ∧
      call.Tells key movement ∧ Published context call.op call.dto.quantity key
        movement w₀ w ∧
        (call.op.validates = true → w₀.db.Sells key)
  | .error _, w => Silent w₀ w

theorem wp_run (performs : m.Performs op q)
    (audited : ∀ input, (AuditService.event? context input).isSome) (h : w.pending = []) :
    (m.run context).run.wp dbFault
      (CallPost context op q m.tenantId m.variantId m.warehouseId w) w := by
  show ((m.attempts.run none).bind _).wp _ _ _
  rw [Prog.wp_bind]
  have idle : Untouched w w := ⟨rfl, rfl, h⟩
  refine Prog.wp_mono (wp_retryFrom performs _ _ idle) fun r w' outcome => ?_
  obtain ⟨r, captured⟩ := r
  cases r with
  | error e => exact ⟨outcome.db, outcome.journal, outcome.pending⟩
  | ok saved =>
      obtain ⟨key, before, tx, names, rfl, applied, journal, settled, threshold⟩ := outcome
      obtain ⟨audit, recorded⟩ :=
        Option.isSome_iff_exists.mp (audited (auditInput (m.event before saved)))
      simp only [publishStockMovement, AuditService.record, recorded, Svc.run_bind, Prog.wp_bind]
      refine ⟨⟨?_, fun _ impossible => impossible.elim⟩,
        fun _ impossible => impossible.elim⟩
      refine ⟨key, m.event before saved, rfl, rfl, rfl, names, applied,
        ⟨tx, audit, ?_, recorded⟩,
        threshold, settled⟩
      simp [journal]

theorem wp_findOneById {tenantId variantId : String}
    {post : Except Err ProductVariant → World → Prop} (failed : ∀ e, post (.error e) w)
    (found : ∀ tenant variant, UuidText.uuidIn tenantId = some tenant →
      UuidText.uuidIn variantId = some variant.id →
        VariantService.readById w.db tenant variant.id = some variant → post (.ok variant) w) :
    (VariantService.findOneById tenantId variantId).run.wp dbFault post w := by
  unfold VariantService.findOneById
  rw [Svc.run_bind, Prog.wp_bind]
  refine Svc.wp_query ?_ fun e => failed e
  cases hv : UuidText.uuidIn variantId with
  | none => simpa [uuidParam, hv, bind, Except.bind] using failed _
  | some id =>
      cases ht : UuidText.uuidIn tenantId with
      | none => simpa [uuidParam, hv, ht, bind, Except.bind] using failed _
      | some tenant =>
          simp only [uuidParam, hv, ht, bind, Except.bind, pure, Except.pure, Svc.next_ok]
          split
          · rename_i variant read
            have passed := Table.holds_of_find? read
            simp only [Bool.and_eq_true, beq_iff_eq] at passed
            obtain rfl : variant.id = id := passed.1.1.1
            exact found tenant variant ht hv read
          · exact failed _

theorem wp_findWarehouse {tenantId id : String} {post : Except Err Warehouse → World → Prop}
    (failed : ∀ e, post (.error e) w)
    (found : ∀ tenant warehouse, UuidText.uuidIn tenantId = some tenant →
      UuidText.uuidIn id = some warehouse.id →
        WarehouseService.readById w.db tenant warehouse.id = some warehouse →
          post (.ok warehouse) w) :
    (WarehouseService.findOne tenantId id).run.wp dbFault post w := by
  unfold WarehouseService.findOne
  rw [Svc.run_bind, Prog.wp_bind]
  refine Svc.wp_query ?_ fun e => failed e
  cases ht : UuidText.uuidIn tenantId with
  | none => simpa [uuidParam, ht, bind, Except.bind] using failed _
  | some tenant =>
      cases hw : UuidText.uuidIn id with
      | none => simpa [uuidParam, ht, hw, bind, Except.bind] using failed _
      | some warehouseId =>
          simp only [uuidParam, ht, hw, bind, Except.bind, pure, Except.pure, Svc.next_ok]
          split
          · rename_i warehouse read
            have passed := Table.holds_of_find? read
            simp only [Bool.and_eq_true, beq_iff_eq] at passed
            obtain rfl : warehouse.id = warehouseId := passed.1.2
            exact found tenant warehouse ht hw read
          · exact failed _

theorem wp_discard {α : Type} {p : Svc α} (post : Except Err α → World → Prop)
    {post' : Except Err Unit → World → Prop} (h : p.run.wp dbFault post w)
    (answered : ∀ a w', post (.ok a) w' → post' (.ok ()) w')
    (failed : ∀ e w', post (.error e) w' → post' (.error e) w') :
    (do let _ ← p : Svc Unit).run.wp dbFault post' w := by
  show (Prog.bind _ _).wp _ _ _
  rw [Prog.wp_bind]
  refine Prog.wp_mono h fun r w' outcome => ?_
  cases r with
  | ok a => exact answered a w' outcome
  | error e => exact failed e w' outcome

/-- The ids that `deductStock` and `replenish` go on with are those of the entities
they have validated, in the database's spelling. -/
theorem post_validated (call : StockCall) {variant : ProductVariant} {warehouse : Warehouse}
    {tenant tenant' : Uuid}
    (ht : UuidText.uuidIn call.tenantId = some tenant)
    (ht' : UuidText.uuidIn call.tenantId = some tenant')
    (hv : UuidText.uuidIn call.dto.variantId = some variant.id)
    (hw : UuidText.uuidIn call.dto.warehouseId = some warehouse.id)
    (readVariant : VariantService.readById w₀.db tenant variant.id = some variant)
    (readWarehouse : WarehouseService.readById w₀.db tenant' warehouse.id = some warehouse)
    {α : Type} (a : α) (w' : World)
    (h : CallPost context call.op call.dto.quantity call.tenantId (UuidText.uuidOut variant.id)
      (UuidText.uuidOut warehouse.id) w₀ (.ok a) w') :
    call.Publishes context w₀ (.ok ()) w' := by
  obtain ⟨key, movement, tenants, variants, warehouses, published⟩ := h
  have names := published.names
  rw [tenants, variants, warehouses] at names
  obtain rfl : key = ⟨tenant, variant.id, warehouse.id⟩ :=
    names.unique ⟨ht, UuidText.uuidIn_uuidOut _, UuidText.uuidIn_uuidOut _⟩
  obtain rfl : tenant = tenant' := Option.some.inj (ht.symm.trans ht')
  have told : call.Tells ⟨tenant, variant.id, warehouse.id⟩ movement :=
    ⟨tenants, .inr variants, .inr warehouses⟩
  have sells : w₀.db.Sells ⟨tenant, variant.id, warehouse.id⟩ :=
    ⟨by simp [readVariant], by simp [readWarehouse]⟩
  exact ⟨_, movement, ⟨ht, hv, hw⟩, told, published, fun _ => sells⟩

theorem post_unvalidated (call : StockCall) (plain : call.op.validates = false) {α : Type} (a : α)
    (w' : World) (h : CallPost context call.op call.dto.quantity call.tenantId call.dto.variantId
      call.dto.warehouseId w₀ (.ok a) w') : call.Publishes context w₀ (.ok ()) w' := by
  obtain ⟨key, movement, tenants, variants, warehouses, published⟩ := h
  have names := published.names
  rw [tenants, variants, warehouses] at names
  exact ⟨key, movement, names, ⟨tenants, .inl variants, .inl warehouses⟩, published,
    fun validates => by simp [plain] at validates⟩

theorem wp_publishes (call : StockCall)
    (audited : ∀ input, (AuditService.event? context input).isSome) (h : w.pending = []) :
    (call.program context).run.wp dbFault (call.Publishes context w) w := by
  have silent : Silent w w := ⟨rfl, rfl, h⟩
  obtain ⟨op, tenantId, dto⟩ := call
  cases op with
  | reserve =>
      exact wp_discard _ (wp_run (reservation_performs tenantId dto) audited h)
        (post_unvalidated ⟨.reserve, tenantId, dto⟩ rfl) fun _ _ unchanged => unchanged
  | release =>
      exact wp_discard _ (wp_run (release_performs tenantId dto) audited h)
        (post_unvalidated ⟨.release, tenantId, dto⟩ rfl) fun _ _ unchanged => unchanged
  | deduct =>
      show (deductStock context tenantId dto).run.wp _ _ _
      unfold deductStock
      rw [Svc.run_bind, Prog.wp_bind]
      refine wp_findOneById (fun e => silent) fun tenant variant ht hv readVariant => ?_
      rw [Svc.next_ok, Svc.run_bind, Prog.wp_bind]
      refine wp_findWarehouse (fun e => silent) fun tenant' warehouse ht' hw readWarehouse => ?_
      exact wp_discard _ (wp_run (deduction_performs tenantId dto variant warehouse) audited h)
        (post_validated ⟨.deduct, tenantId, dto⟩ ht ht' hv hw readVariant readWarehouse)
        fun _ _ unchanged => unchanged
  | replenish =>
      show (do let _ ← replenish context tenantId dto : Svc Unit).run.wp _ _ _
      unfold replenish
      refine wp_discard (fun r w' => (StockCall.mk .replenish tenantId dto).Publishes context w
        (r.map fun _ => ()) w') ?_ (fun _ _ done => done) fun _ _ unchanged => unchanged
      rw [Svc.run_bind, Prog.wp_bind]
      refine wp_findWarehouse (fun e => silent) fun tenant' warehouse ht' hw readWarehouse => ?_
      rw [Svc.next_ok, Svc.run_bind, Prog.wp_bind]
      refine wp_findOneById (fun e => silent) fun tenant variant ht hv readVariant => ?_
      refine Prog.wp_mono
        (wp_run (replenishment_performs tenantId dto variant warehouse) audited h)
          fun r w' done => ?_
      cases r with
      | error e => exact done
      | ok saved =>
          exact post_validated ⟨.replenish, tenantId, dto⟩ ht ht' hv hw readVariant
            readWarehouse saved w' done

theorem wp_program (call : StockCall)
    (audited : ∀ input, (AuditService.event? context input).isSome) (h : w.pending = []) :
    (call.program context).run.wp dbFault (call.Post context w) w := by
  refine Prog.wp_mono (wp_publishes call audited h) fun r w' outcome => ?_
  cases r with
  | error e => exact outcome
  | ok a =>
      obtain ⟨key, movement, names, -, published, validated⟩ := outcome
      exact ⟨key, names, published.announced, validated⟩

/-! ## Exactly once -/

def newEvents (w w' : World) : List Event := w'.journal.drop w.journal.length

def isCommit : Event → Bool
  | .committed _ => true
  | _ => false

def commits (events : List Event) : ℕ := events.countP isCommit

theorem event?_isSome {context : AuditContextData} {tenant : String}
    (h : context.tenantId = some tenant) (present : tenant ≠ "") (input : AuditEventInput) :
    (AuditService.event? (some context) input).isSome = true := by
  simp [AuditService.event?, h, present]

/-- However the attempts of a call fail, it resolves exactly when one of them
commits, and has then changed and announced the row once; a call that rejects
has changed and announced nothing. -/
theorem stock_call_exactly_once (call : StockCall) (context : AuditContextData) (tenant : String)
    (inTenant : context.tenantId = some tenant) (present : tenant ≠ "") (w w' : World)
    (r : Except Err Unit) (alone : w.pending = [])
    (run : Prog.Exec dbFault (call.program (some context)).run w r w') :
    (r.isOk = true ↔ commits (newEvents w w') = 1) ∧
      (r.isOk = true →
        ∃ key, Names call.tenantId call.dto.variantId call.dto.warehouseId key ∧
          Announced (some context) call.op call.dto.quantity key w w') ∧
      (r.isOk = false → w'.db = w.db ∧ newEvents w w' = []) := by
  have outcome := Prog.wp_exec (wp_program call (event?_isSome inTenant present) alone) run
  cases r with
  | error e =>
      have nothing : newEvents w w' = [] := by simp [newEvents, outcome.journal]
      refine ⟨?_, fun resolved => by simp [Except.isOk, Except.toBool] at resolved,
        fun _ => ⟨outcome.db, nothing⟩⟩
      simp [nothing, commits, Except.isOk, Except.toBool]
  | ok a =>
      obtain ⟨key, names, announced, -⟩ := outcome
      obtain ⟨before, after, applied, tx, audit, movement, journal, rest⟩ := announced.once
      have events : newEvents w w' = [.committed tx, .auditLog audit, .stockMovement movement] := by
        simp [newEvents, journal]
      refine ⟨?_, fun _ => ⟨key, names, announced⟩,
        fun rejected => by simp [Except.isOk, Except.toBool] at rejected⟩
      simp [events, commits, List.countP_cons, isCommit, Except.isOk, Except.toBool]

namespace SampleShop

/-- The commits of the first two transactions fail with the error that is retried. -/
def contested : Label → Option Err
  | .commit tx => if tx < 2 then some .optimisticLockVersionMismatch else none
  | _ => none

theorem contested_fault (label : Label) (e : Err) (fails : contested label = some e) :
    dbFault label e := by
  cases label <;> trivial

def contestedSale : Except Err Unit × World :=
  ((SampleShop.call .deduct 2).program (some SampleShop.context)).run.runFailing contested
    (world (stocked 5 0))

end SampleShop

/-- The third attempt commits. -/
theorem stock_call_exactly_once_sale :
    SampleShop.contestedSale.2.nextTx = 3 ∧
    SampleShop.contestedSale.1.isOk = true ∧
    commits (newEvents (SampleShop.world (SampleShop.stocked 5 0)) SampleShop.contestedSale.2) =
      1 ∧
    ∃ key, Names (UuidText.uuidOut SampleShop.tenantId) (UuidText.uuidOut SampleShop.variantId)
        (UuidText.uuidOut SampleShop.warehouseId) key ∧
      Announced (some SampleShop.context) .deduct 2 key (SampleShop.world (SampleShop.stocked 5 0))
        SampleShop.contestedSale.2 := by
  obtain ⟨once, announced, -⟩ := stock_call_exactly_once (SampleShop.call .deduct 2)
    SampleShop.context (UuidText.uuidOut SampleShop.tenantId) rfl (by decide) _ _ _ rfl
    ((Prog.exec_runFailing SampleShop.contested _ (SampleShop.world (SampleShop.stocked 5 0))).mono
      SampleShop.contested_fault)
  have resolved : SampleShop.contestedSale.1.isOk = true := by decide +kernel
  exact ⟨by decide +kernel, resolved, once.mp resolved, announced resolved⟩

end Tenantory
