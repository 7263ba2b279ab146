import Tenantory.StockAttempts

/-! Serial runs of stock operations, from an empty stock table. Two counters of
every row are accounted for by the calls that have resolved; a call resolves
exactly when its row exists and its guard admits it. -/

namespace Tenantory

open InventoryService

/-! ## A call that nothing stands against resolves -/

variable {op : StockOp} {q : ℤ} {key : StockKey} {w : World} {tx : ℕ} {m : Movement}
  {row : StockLevel} {captured : Captured}

/-- What an operation needs: its row, visible, a guard that admits it and columns
that hold the new counters. -/
structure Grants (op : StockOp) (q : ℤ) (key : StockKey) (row : StockLevel) (w : World) :
    Prop where
  visible : w.db.visibleStock key = some row
  admitted : op.admits q row.snapshot = true
  available : inIntRange (op.shift q row.snapshot).availableQuantity = true
  reserved : inIntRange (op.shift q row.snapshot).reservedQuantity = true

theorem Grants.stored (g : Grants op q key row w) : w.db.stockAt key = some row :=
  (visibleStock_eq_some.mp g.visible).1

theorem all_changed {p : ℤ → Bool} {value stored : ℤ} (h : p value = true) :
    (changed value stored).all p = true := by
  unfold changed
  split <;> simp [h]

def noFault (_ : Label) (_ : Err) : Prop := False

def Answers {α : Type} (r : Except Err α) (_ : World) : Prop := ∃ a, r = .ok a

def AttemptAnswers {α : Type} (r : Except Err α × Captured) (_ : World) :
    Prop := ∃ a, r.1 = .ok a

theorem wp_quiet {β : Type} {label : Label} {act : World → Except Err β × World}
    {post : Except Err β → World → Prop} (h : post (act w).1 (act w).2) :
    (perform label act).run.wp noFault post w :=
  Svc.wp_perform.mpr ⟨h, fun _ impossible => impossible.elim⟩

theorem answers_save (g : Grants op q key row w) :
    (saveStock tx (.loaded { row with
      availableQuantity := (op.shift q row.snapshot).availableQuantity
      reservedQuantity := (op.shift q row.snapshot).reservedQuantity })).run.wp noFault
        Answers w := by
  have again : w.db.stockLevels.find? (·.id == row.id) = some row :=
    find?_id (stockAt_eq_some.mp g.stored).1
  unfold saveStock
  rw [Svc.run_bind, Prog.wp_bind]
  refine wp_quiet ?_
  simp only [again, Svc.next_ok]
  split
  · exact ⟨_, rfl⟩
  · refine ⟨?_, fun _ impossible => impossible.elim⟩
    simp [updateAct, all_changed g.available, all_changed g.reserved, Answers]

theorem answers_callback (performs : m.Performs op q)
    (names : Names m.tenantId m.variantId m.warehouseId key) (g : Grants op q key row w) :
    ((m.callback tx).run captured).wp noFault AttemptAnswers w := by
  have granted : m.refused (.loaded row) = none := (performs.refused _).mpr g.admitted
  unfold Movement.callback Movement.find lookup findStock
  rw [Attempt.run_bind, Attempt.run_lift, Prog.bind_assoc, Prog.wp_bind, Svc.run_bind, Prog.wp_bind]
  refine wp_quiet ?_
  simp only [stockRead_of_names names, g.visible, Svc.next_ok, Svc.run_pure, Prog.wp_ret,
    Prog.ret_bind, Attempt.next, granted, performs.available, performs.reserved]
  rw [Attempt.run_bind, Attempt.run_lift, Prog.bind_assoc, Prog.wp_bind]
  refine Prog.wp_mono (answers_save g) fun r w' answered => ?_
  obtain ⟨saved, rfl⟩ := answered
  exact ⟨saved, rfl⟩

theorem answers_attempts (performs : m.Performs op q)
    (names : Names m.tenantId m.variantId m.warehouseId key) (g : Grants op q key row w) :
    (m.attempts.run captured).wp noFault AttemptAnswers w := by
  show (ExceptT.run (RetryBackoff.retryFrom timer (transaction m.callback) retryOptions exhausted
    (4 + 1) 1) captured).wp _ _ _
  unfold RetryBackoff.retryFrom transaction
  rw [Attempt.run_tryCatch, Prog.wp_bind, Attempt.run_bind, Attempt.run_lift, Prog.bind_assoc,
    Prog.wp_bind]
  refine wp_quiet ?_
  show ((tryCatch _ _ : Attempt StockLevel).run captured).wp _ _ _
  rw [Attempt.run_tryCatch, Prog.wp_bind, Attempt.run_bind, Prog.wp_bind]
  refine Prog.wp_mono (answers_callback performs names (w := { w with nextTx := w.nextTx + 1 })
    ⟨g.visible, g.admitted, g.available, g.reserved⟩) fun r w' answered => ?_
  obtain ⟨r, v⟩ := r
  obtain ⟨saved, rfl⟩ := answered
  exact ⟨⟨saved, rfl⟩, fun _ impossible => impossible.elim⟩

theorem answers_run {context : Option AuditContextData}
    (audited : ∀ input, (AuditService.event? context input).isSome) (performs : m.Performs op q)
    (names : Names m.tenantId m.variantId m.warehouseId key) (g : Grants op q key row w) :
    (m.run context).run.wp noFault Answers w := by
  show ((m.attempts.run none).bind _).wp _ _ _
  rw [Prog.wp_bind]
  refine Prog.wp_mono (answers_attempts performs names g) fun r w' answered => ?_
  obtain ⟨r, captured⟩ := r
  obtain ⟨saved, rfl⟩ := answered
  cases captured with
  | none => exact ⟨saved, rfl⟩
  | some movement =>
      obtain ⟨audit, recorded⟩ := Option.isSome_iff_exists.mp (audited (auditInput movement))
      simp only [publishStockMovement, AuditService.record, recorded, Svc.run_bind, Prog.wp_bind]
      exact ⟨⟨⟨saved, rfl⟩, fun _ impossible => impossible.elim⟩,
        fun _ impossible => impossible.elim⟩

theorem variant_id {db : Database} {tenantId id : Uuid} {variant : ProductVariant}
    (read : VariantService.readById db tenantId id = some variant) : variant.id = id := by
  have passed := Table.holds_of_find? read
  simp only [Bool.and_eq_true, beq_iff_eq] at passed
  exact passed.1.1.1

theorem warehouse_id {db : Database} {tenantId id : Uuid} {warehouse : Warehouse}
    (read : WarehouseService.readById db tenantId id = some warehouse) : warehouse.id = id := by
  have passed := Table.holds_of_find? read
  simp only [Bool.and_eq_true, beq_iff_eq] at passed
  exact passed.1.2

theorem live_of_sells {db : Database} (sells : db.Sells key) :
    db.liveVariant key.variantId = true ∧ db.liveWarehouse key.warehouseId = true := by
  obtain ⟨variant, readVariant⟩ := Option.isSome_iff_exists.mp sells.variant
  obtain ⟨warehouse, readWarehouse⟩ := Option.isSome_iff_exists.mp sells.warehouse
  have v := Table.holds_of_find? readVariant
  have h := Table.holds_of_find? readWarehouse
  simp only [Bool.and_eq_true, beq_iff_eq] at v h
  constructor
  · exact List.any_eq_true.mpr ⟨variant, Table.mem_of_find?
      readVariant, by simp [v.1.1.1, v.2]⟩
  · exact List.any_eq_true.mpr ⟨warehouse,
      Table.mem_of_find? readWarehouse, by simp [h.1.2, h.2]⟩

theorem answers_findOneById {tenantId variantId : String}
    (ht : UuidText.uuidIn tenantId = some key.tenantId)
    (hv : UuidText.uuidIn variantId = some key.variantId) {variant : ProductVariant}
    (read : VariantService.readById w.db key.tenantId key.variantId = some variant)
    {post : Except Err ProductVariant → World → Prop} (h : post (.ok variant) w) :
    (VariantService.findOneById tenantId variantId).run.wp noFault post w := by
  unfold VariantService.findOneById
  rw [Svc.run_bind, Prog.wp_bind]
  refine wp_quiet ?_
  simp only [uuidParam, ht, hv, bind, Except.bind, pure, Except.pure, read, Svc.next_ok]
  exact h

theorem answers_findWarehouse {tenantId id : String}
    (ht : UuidText.uuidIn tenantId = some key.tenantId)
    (hw : UuidText.uuidIn id = some key.warehouseId) {warehouse : Warehouse}
    (read : WarehouseService.readById w.db key.tenantId key.warehouseId = some warehouse)
    {post : Except Err Warehouse → World → Prop} (h : post (.ok warehouse) w) :
    (WarehouseService.findOne tenantId id).run.wp noFault post w := by
  unfold WarehouseService.findOne
  rw [Svc.run_bind, Prog.wp_bind]
  refine wp_quiet ?_
  simp only [uuidParam, ht, hw, bind, Except.bind, pure, Except.pure, read, Svc.next_ok]
  exact h

theorem answers_discard {α : Type} {p : Svc α} (h : p.run.wp noFault Answers w) :
    (do let _ ← p : Svc Unit).run.wp noFault Answers w := by
  show (Prog.bind _ _).wp _ _ _
  rw [Prog.wp_bind]
  refine Prog.wp_mono h fun r w' answered => ?_
  obtain ⟨a, rfl⟩ := answered
  exact ⟨(), rfl⟩

theorem answers_program {call : StockCall} {context : Option AuditContextData}
    (audited : ∀ input, (AuditService.event? context input).isSome)
    (names : Names call.tenantId call.dto.variantId call.dto.warehouseId key)
    (sells : w.db.Sells key) (g : Grants call.op call.dto.quantity key row w) :
    (call.program context).run.wp noFault Answers w := by
  obtain ⟨op, tenantId, dto⟩ := call
  obtain ⟨variant, readVariant⟩ := Option.isSome_iff_exists.mp sells.variant
  obtain ⟨warehouse, readWarehouse⟩ := Option.isSome_iff_exists.mp sells.warehouse
  have canonical : Names tenantId (UuidText.uuidOut variant.id)
    (UuidText.uuidOut warehouse.id) key :=
    ⟨names.tenant, by simp [variant_id readVariant], by simp [warehouse_id readWarehouse]⟩
  cases op with
  | reserve =>
      exact answers_discard (answers_run audited (reservation_performs tenantId dto) names g)
  | release => exact answers_discard (answers_run audited (release_performs tenantId dto) names g)
  | deduct =>
      show (deductStock context tenantId dto).run.wp _ _ _
      unfold deductStock
      rw [Svc.run_bind, Prog.wp_bind]
      refine answers_findOneById names.tenant names.variant readVariant ?_
      rw [Svc.next_ok, Svc.run_bind, Prog.wp_bind]
      refine answers_findWarehouse names.tenant names.warehouse readWarehouse ?_
      exact answers_discard
        (answers_run audited (deduction_performs tenantId dto variant warehouse) canonical g)
  | replenish =>
      refine answers_discard ?_
      unfold replenish
      rw [Svc.run_bind, Prog.wp_bind]
      refine answers_findWarehouse names.tenant names.warehouse readWarehouse ?_
      rw [Svc.next_ok, Svc.run_bind, Prog.wp_bind]
      refine answers_findOneById names.tenant names.variant readVariant ?_
      exact answers_run audited (replenishment_performs tenantId dto variant warehouse) canonical g

/-! ## Serial runs -/

/-- A call as the audit interceptor wraps it: the tenant of the context is the
tenant of the call. -/
structure StockRequest where
  call : StockCall
  context : AuditContextData
  inTenant : context.tenantId = some call.tenantId
  present : call.tenantId ≠ ""

namespace StockRequest

def serve (r : StockRequest) (w : World) : Except Err Unit × World :=
  (r.call.program (some r.context)).run.run w

def Accepted (r : StockRequest) : Prop := 1 ≤ r.call.dto.quantity

def Names (r : StockRequest) (key : StockKey) : Prop :=
  Tenantory.Names r.call.tenantId r.call.dto.variantId r.call.dto.warehouseId key

end StockRequest

def StockCall.key? (call : StockCall) : Option StockKey := do
  let tenant ← UuidText.uuidIn call.tenantId
  let variant ← UuidText.uuidIn call.dto.variantId
  let warehouse ← UuidText.uuidIn call.dto.warehouseId
  some ⟨tenant, variant, warehouse⟩

theorem key?_of_names {call : StockCall}
    (names : Names call.tenantId call.dto.variantId call.dto.warehouseId key) :
    call.key? = some key := by
  simp [StockCall.key?, names.tenant, names.variant, names.warehouse]

/-- The calls of a run in their order, each with whether it resolved. -/
abbrev CallLog := List (StockCall × Bool)

/-- The units that the resolved calls of one kind have moved under a key. -/
def CallLog.total (log : CallLog) (op : StockOp) (key : StockKey) : ℤ :=
  ((log.filter fun e => e.2 && e.1.op == op && e.1.key? == some key).map
    fun e => e.1.dto.quantity).sum

/-- States reached by serving accepted requests one after the other. -/
inductive Served (w₀ : World) : World → CallLog → Prop
  | start : Served w₀ w₀ []
  | next {w : World} {log : CallLog} (r : StockRequest) : Served w₀ w log → r.Accepted →
      Served w₀ (r.serve w).2 (log ++ [(r.call, (r.serve w).1.isOk)])

/-- The counters under a key, in terms of the resolved calls. -/
structure Balanced (s : StockMovementSnapshot) (log : CallLog) (key : StockKey) : Prop where
  available_nonneg : 0 ≤ s.availableQuantity
  reserved_nonneg : 0 ≤ s.reservedQuantity
  onHand : s.availableQuantity + s.reservedQuantity =
    log.total .replenish key - log.total .deduct key
  setAside : s.reservedQuantity = log.total .reserve key - log.total .release key

theorem total_append (log : CallLog) (call : StockCall) (ok : Bool) (op : StockOp)
    (key : StockKey) :
    (log ++ [(call, ok)] : CallLog).total op key = log.total op key +
      if ok && call.op == op && call.key? == some key then call.dto.quantity else 0 := by
  unfold CallLog.total
  rw [List.filter_append, List.map_append, List.sum_append]
  congr 1
  split <;> simp_all

theorem balanced_rejected {s : StockMovementSnapshot} {log : CallLog} (call : StockCall)
    (h : Balanced s log key) : Balanced s (log ++ [(call, false)]) key where
  available_nonneg := h.available_nonneg
  reserved_nonneg := h.reserved_nonneg
  onHand := by simpa [total_append] using h.onHand
  setAside := by simpa [total_append] using h.setAside

theorem balanced_elsewhere {s : StockMovementSnapshot} {log : CallLog} {call : StockCall}
    {key' : StockKey} (named : call.key? = some key) (other : key' ≠ key)
    (h : Balanced s log key') : Balanced s (log ++ [(call, true)]) key' := by
  have apart : (call.key? == some key') = false := by
    rw [named]
    simpa using other.symm
  exact {
    available_nonneg := h.available_nonneg
    reserved_nonneg := h.reserved_nonneg
    onHand := by simpa [total_append, apart] using h.onHand
    setAside := by simpa [total_append, apart] using h.setAside }

theorem balanced_applied {before after : StockMovementSnapshot} {log : CallLog} {call : StockCall}
    (positive : 1 ≤ call.dto.quantity) (named : call.key? = some key)
    (step : call.op.apply call.dto.quantity before = some after) (h : Balanced before log key) :
    Balanced after (log ++ [(call, true)]) key := by
  obtain ⟨op, tenantId, dto⟩ := call
  obtain ⟨nonneg, nonneg', onHand, setAside⟩ := h
  unfold StockOp.apply at step
  split at step
  · rename_i admitted
    obtain rfl := Option.some.inj step
    cases op <;>
      refine ⟨?_, ?_, ?_, ?_⟩ <;>
      simp_all [total_append, StockOp.shift, StockOp.available, StockOp.reserved] <;>
      omega
  · cases step

structure LedgerInv (w : World) (log : CallLog) : Prop where
  settled : w.pending = []
  balanced : ∀ key, Balanced (w.db.quantitiesAt key) log key
  sells : ∀ row ∈ w.db.stockLevels, w.db.Sells row.key

theorem serve_post (r : StockRequest) {w : World} (settled : w.pending = []) :
    r.call.Post (some r.context) w (r.serve w).1 (r.serve w).2 :=
  Prog.wp_exec (wp_program r.call (event?_isSome r.inTenant r.present) settled)
    (Prog.exec_run _ w)

theorem Applied.sells {op : StockOp} {q : ℤ} {before after : StockMovementSnapshot}
    {db db' : Database} (h : Applied op q key before after db db') {key' : StockKey} :
    db'.Sells key' ↔ db.Sells key' := by
  rw [h.rest]
  exact ⟨fun s => ⟨s.variant, s.warehouse⟩, fun s => ⟨s.variant, s.warehouse⟩⟩

/-- Rows that an applied operation has not found before it are those it created. -/
theorem Applied.mem {op : StockOp} {q : ℤ} {before after : StockMovementSnapshot}
    {db db' : Database} (h : Applied op q key before after db db') {row : StockLevel}
    (mem : row ∈ db'.stockLevels) : row ∈ db.stockLevels ∨ row.key = key := by
  by_cases same : row.key = key
  · exact .inr same
  · left
    have kept : row ∈ db'.stockLevels.rows.filter (·.key != key) :=
      List.mem_filter.mpr ⟨mem, by simpa using same⟩
    rw [h.others] at kept
    exact (List.mem_filter.mp kept).1

/-- An accepted operation that is not a replenishment needs units to work on. -/
theorem row_of_admitted {call : StockCall} {db : Database} (positive : 1 ≤ call.dto.quantity)
    (consumes : call.op ≠ .replenish)
    (admitted : call.op.admits call.dto.quantity (db.quantitiesAt key) = true) :
    ∃ row, db.stockAt key = some row := by
  cases found : db.stockAt key with
  | some row => exact ⟨row, rfl⟩
  | none =>
      rw [quantitiesAt_of_none found] at admitted
      cases op : call.op <;> simp_all <;> omega

theorem admits_of_apply {op : StockOp} {q : ℤ} {before after : StockMovementSnapshot}
    (h : op.apply q before = some after) : op.admits q before = true := by
  unfold StockOp.apply at h
  split at h
  · assumption
  · cases h

theorem ledgerInv_serve {w : World} {log : CallLog} (h : LedgerInv w log) (r : StockRequest)
    (accepted : r.Accepted) :
    LedgerInv (r.serve w).2 (log ++ [(r.call, (r.serve w).1.isOk)]) := by
  have post := serve_post r h.settled
  generalize (r.serve w).1 = result at post ⊢
  generalize (r.serve w).2 = w' at post ⊢
  cases result with
  | error e =>
      exact {
        settled := post.settled
        balanced := fun key => by
          rw [post.db]
          exact balanced_rejected r.call (h.balanced key)
        sells := by
          rw [post.db]
          exact h.sells }
  | ok a =>
      obtain ⟨key, names, announced, validated⟩ := post
      obtain ⟨before, after, applied, -⟩ := announced.once
      have named := key?_of_names names
      refine ⟨announced.settled, fun key' => ?_, fun row mem => ?_⟩
      · by_cases same : key' = key
        · subst same
          have balanced := h.balanced key'
          rw [← applied.reads] at balanced
          rw [← applied.leaves]
          exact balanced_applied accepted named applied.step balanced
        · have kept : (w'.db).quantitiesAt key' = w.db.quantitiesAt key' := by
            simp [Database.quantitiesAt, applied.stockAt_other same]
          rw [kept]
          exact balanced_elsewhere named same (h.balanced key')
      · rw [applied.sells]
        rcases applied.mem mem with stored | same
        · exact h.sells row stored
        · rw [same]
          by_cases consumes : r.call.op = .replenish
          · exact validated (by simp [consumes, StockOp.validates])
          · have admitted := admits_of_apply applied.step
            rw [applied.reads] at admitted
            obtain ⟨row', found⟩ := row_of_admitted accepted consumes admitted
            obtain ⟨stored, keyed⟩ := stockAt_eq_some.mp found
            rw [← keyed]
            exact h.sells row' stored

theorem ledgerInv_served {w₀ w : World} {log : CallLog} (empty : w₀.db.stockLevels.rows = [])
    (idle : w₀.pending = []) (served : Served w₀ w log) : LedgerInv w log := by
  induction served with
  | start =>
      refine ⟨idle, fun key => ?_, fun row mem => ?_⟩
      · have absent : w₀.db.stockAt key = none := by simp [Database.stockAt, Table.find?, empty]
        rw [quantitiesAt_of_none absent]
        exact ⟨le_refl _, le_refl _, rfl, rfl⟩
      · rw [← Table.mem_rows, empty] at mem
        cases mem
  | next r _ accepted ih => exact ledgerInv_serve ih r accepted

/-! ## When a call fails -/

namespace StockRequest

def RowMissing (r : StockRequest) (db : Database) : Prop :=
  ∀ row ∈ db.stockLevels, ¬ r.Names row.key

/-- The named row has fewer units in a counter than the call asks for. -/
def Short (r : StockRequest) (db : Database) (counter : StockLevel → ℤ) : Prop :=
  ∃ row ∈ db.stockLevels, r.Names row.key ∧ counter row < r.call.dto.quantity

def NotLive (r : StockRequest) (db : Database) : Prop := ∃ key, r.Names key ∧ ¬ db.Sells key

/-- The new counters of the named row fit their columns. -/
def InRange (r : StockRequest) (db : Database) : Prop :=
  ∀ row ∈ db.stockLevels, r.Names row.key →
    r.call.op.admits r.call.dto.quantity row.snapshot = true →
      inIntRange (r.call.op.shift r.call.dto.quantity row.snapshot).availableQuantity = true ∧
        inIntRange (r.call.op.shift r.call.dto.quantity row.snapshot).reservedQuantity = true

end StockRequest

/-- A call on rows resolves exactly when the row it names admits it. -/
theorem resolves_iff {w : World} {log : CallLog} (h : LedgerInv w log) (r : StockRequest)
    (accepted : r.Accepted) (inRange : r.InRange w.db) (consumes : r.call.op ≠ .replenish) :
    (r.serve w).1.isOk = true ↔ ∃ row ∈ w.db.stockLevels, r.Names row.key ∧
      r.call.op.admits r.call.dto.quantity row.snapshot = true := by
  constructor
  · intro resolved
    have post := serve_post r h.settled
    generalize (r.serve w).1 = result at post resolved
    cases result with
    | error e => simp [Except.isOk, Except.toBool] at resolved
    | ok a =>
        obtain ⟨key, names, announced, -⟩ := post
        obtain ⟨before, after, applied, -⟩ := announced.once
        have admitted := admits_of_apply applied.step
        rw [applied.reads] at admitted
        obtain ⟨row, found⟩ := row_of_admitted accepted consumes admitted
        rw [quantitiesAt_of_stockAt found] at admitted
        obtain ⟨stored, keyed⟩ := stockAt_eq_some.mp found
        exact ⟨row, stored, by rw [keyed]; exact names, admitted⟩
  · rintro ⟨row, stored, names, admitted⟩
    have live := live_of_sells (h.sells row stored)
    have grants : Grants r.call.op r.call.dto.quantity row.key row w := {
      visible := visibleStock_eq_some.mpr ⟨stockAt_eq_some.mpr ⟨stored, rfl⟩, live⟩
      admitted := admitted
      available := (inRange row stored names admitted).1
      reserved := (inRange row stored names admitted).2 }
    have answers := Prog.wp_exec (answers_program (event?_isSome r.inTenant r.present) names
      (h.sells row stored) grants) (Prog.exec_run _ w)
    obtain ⟨a, ha⟩ := answers
    show Except.isOk (Prog.run _ w).1 = true
    rw [ha]
    rfl

theorem rejects_iff {w : World} {log : CallLog} (h : LedgerInv w log) (r : StockRequest)
    (accepted : r.Accepted) (inRange : r.InRange w.db) (consumes : r.call.op ≠ .replenish)
    (counter : StockLevel → ℤ)
    (guard : ∀ row, r.call.op.admits r.call.dto.quantity row.snapshot = true ↔
      r.call.dto.quantity ≤ counter row) :
    (r.serve w).1.isOk = false ↔ r.RowMissing w.db ∨ r.Short w.db counter := by
  rw [← Bool.not_eq_true, resolves_iff h r accepted inRange consumes]
  constructor
  · intro refused
    by_cases missing : r.RowMissing w.db
    · exact .inl missing
    · right
      obtain ⟨row, named⟩ := not_forall.mp missing
      obtain ⟨stored, names⟩ := Classical.not_imp.mp named
      refine ⟨row, stored, not_not.mp names, ?_⟩
      by_contra enough
      exact refused ⟨row, stored, not_not.mp names, (guard row).mpr (by omega)⟩
  · rintro (missing | ⟨row, stored, names, short⟩) ⟨row', stored', names', admitted⟩
    · exact missing row' stored' names'
    · have same : row' = row :=
        Table.eq_of_conflict stored' stored (conflict_of_key (names'.unique names))
      rw [same] at admitted
      have enough := (guard row).mp admitted
      omega

/-- The invariant of serial runs from an empty stock table: the counters of every
row are accounted for, there is one row for a variant and a warehouse, a failed
call changes nothing and a call changes no row but its own, and the operations
on rows fail exactly for want of the row or of units. -/
theorem stock_ledger (w₀ w : World) (log : CallLog) (empty : w₀.db.stockLevels.rows = [])
    (idle : w₀.pending = []) (served : Served w₀ w log) :
    (∀ row ∈ w.db.stockLevels, Balanced row.snapshot log row.key) ∧
      (∀ row ∈ w.db.stockLevels, ∀ row' ∈ w.db.stockLevels,
        row.variantId = row'.variantId →
        row.warehouseId = row'.warehouseId → row = row') ∧
      ∀ r : StockRequest, r.Accepted →
        ((r.serve w).1.isOk = false → (r.serve w).2.db = w.db) ∧
          (∀ row, ¬ r.Names row.key →
            (row ∈ (r.serve w).2.db.stockLevels ↔ row ∈ w.db.stockLevels)) ∧
          (r.InRange w.db →
            (r.call.op = .deduct → ((r.serve w).1.isOk = false ↔ r.NotLive w.db ∨
              r.RowMissing w.db ∨ r.Short w.db StockLevel.availableQuantity)) ∧
            (r.call.op = .reserve → ((r.serve w).1.isOk = false ↔
              r.RowMissing w.db ∨ r.Short w.db StockLevel.availableQuantity)) ∧
            (r.call.op = .release → ((r.serve w).1.isOk = false ↔
              r.RowMissing w.db ∨ r.Short w.db StockLevel.reservedQuantity))) := by
  have inv := ledgerInv_served empty idle served
  refine ⟨fun row stored => ?_, fun row stored row' stored' variant warehouse => ?_,
    fun r accepted => ⟨fun rejected => ?_, fun row unnamed => ?_, fun inRange =>
      ⟨fun deduct => ?_, fun reserve => ?_, fun release => ?_⟩⟩⟩
  · have balanced := inv.balanced row.key
    rwa [quantitiesAt_of_stockAt (stockAt_eq_some.mpr ⟨stored, rfl⟩)] at balanced
  · refine Table.eq_of_conflict stored stored' ?_
    simp [conflict, variant, warehouse]
  · have post := serve_post r inv.settled
    generalize (r.serve w).1 = result at post rejected
    cases result with
    | error e => exact post.db
    | ok a => simp [Except.isOk, Except.toBool] at rejected
  · have post := serve_post r inv.settled
    generalize (r.serve w).1 = result at post
    cases result with
    | error e => rw [post.db]
    | ok a =>
        obtain ⟨key, names, announced, -⟩ := post
        obtain ⟨before, after, applied, -⟩ := announced.once
        have other : row.key ≠ key := fun same => unnamed (by rw [same]; exact names)
        have kept : ∀ rows : List StockLevel, row ∈ rows.filter (·.key != key) ↔
          row ∈ rows := by
          intro rows
          simp [List.mem_filter, other]
        rw [← Table.mem_rows, ← Table.mem_rows, ← kept, applied.others, kept]
  · rw [rejects_iff inv r accepted inRange (by simp [deduct]) StockLevel.availableQuantity
      (fun row => by simp [deduct, StockLevel.snapshot])]
    constructor
    · exact .inr
    · rintro (⟨key, names, dead⟩ | failed)
      · left
        intro row stored names'
        rw [names.unique names'] at dead
        exact dead (inv.sells row stored)
      · exact failed
  · exact rejects_iff inv r accepted inRange (by simp [reserve]) _ (fun row => by
      simp [reserve, StockLevel.snapshot])
  · exact rejects_iff inv r accepted inRange (by simp [release]) _ (fun row => by
      simp [release, StockLevel.snapshot])

namespace SampleShop

def request (op : StockOp) (quantity : ℤ) : StockRequest :=
  ⟨call op quantity, context, rfl, by
    show UuidText.uuidOut tenantId ≠ ""
    decide⟩

def opened : World := world unstocked

def delivered : World := ((request .replenish 5).serve opened).2

theorem served_delivered : Served opened delivered [(call .replenish 5, true)] :=
  Served.next (request .replenish 5) .start (show (1 : ℤ) ≤ 5 by decide)

end SampleShop

/-- The state and the log after another request. -/
def StockRequest.logged (out : World × CallLog) (r : StockRequest) : World × CallLog :=
  ((r.serve out.1).2, out.2 ++ [(r.call, (r.serve out.1).1.isOk)])

theorem served_foldl {w₀ : World} {out : World × CallLog} {requests : List StockRequest}
    (served : Served w₀ out.1 out.2) (accepted : ∀ r ∈ requests, r.Accepted) :
    Served w₀ (requests.foldl StockRequest.logged out).1
      (requests.foldl StockRequest.logged out).2 := by
  induction requests generalizing out with
  | nil => exact served
  | cons r requests ih =>
      exact ih (.next r served (accepted r List.mem_cons_self))
        fun r' mem => accepted r' (List.mem_cons_of_mem r mem)

namespace SampleShop

/-- The last deduction asks for more than there is. -/
def dayRequests : List StockRequest :=
  [request .replenish 5, request .reserve 2, request .deduct 2, request .release 1,
    request .deduct 9]

def day : World × CallLog := dayRequests.foldl StockRequest.logged (opened, [])

theorem served_day : Served opened day.1 day.2 := by
  have accepted : ∀ r ∈ dayRequests, 1 ≤ r.call.dto.quantity := by decide
  exact served_foldl .start accepted

end SampleShop

theorem stock_ledger_delivery :
    (SampleShop.day.2.map fun entry => (entry.1.op, entry.2)) =
      [(.replenish, true), (.reserve, true), (.deduct, true), (.release, true),
        (.deduct, false)] ∧
    ∃ row ∈ SampleShop.day.1.db.stockLevels, row.snapshot = ⟨2, 1⟩ ∧
      Balanced row.snapshot SampleShop.day.2 row.key := by
  have stored : ∃ row ∈ SampleShop.day.1.db.stockLevels.rows, row.snapshot = ⟨2, 1⟩ := by
    decide +kernel
  obtain ⟨row, mem, counted⟩ := stored
  exact ⟨by decide +kernel, row, mem, counted, (stock_ledger SampleShop.opened SampleShop.day.1 _
    rfl rfl SampleShop.served_day).1 row mem⟩

/-! ## Reservations and checkouts -/

/-- `d` is the checkout of the units that `r` has reserved. -/
structure IsCheckout (r d : StockRequest) : Prop where
  reserves : r.call.op = .reserve
  deducts : d.call.op = .deduct
  tenantId : d.call.tenantId = r.call.tenantId
  dto : d.call.dto = r.call.dto

/-- The checkout succeeds, takes its units from the reserved ones and from nowhere else. -/
def CompletesCheckout (d : StockRequest) (key : StockKey) (w : World) : Prop :=
  (d.serve w).1.isOk = true ∧
    (d.serve w).2.db.quantitiesAt key =
      ⟨(w.db.quantitiesAt key).availableQuantity,
        (w.db.quantitiesAt key).reservedQuantity - d.call.dto.quantity⟩

/-- After the reservation `r` made at `w`, and whatever others do that leaves its
units reserved, the checkout of `r` is completed. -/
def ReservationGuaranteesCheckout (w : World) (r : StockRequest) : Prop :=
  ∀ key w' log d, r.Names key → Served (r.serve w).2 w' log →
    log.total .release key ≤ (w.db.quantitiesAt key).reservedQuantity + log.total .reserve key →
      IsCheckout r d → CompletesCheckout d key w'

/-- `deductStock` takes its units from the available ones. -/
theorem not_completesCheckout {r d : StockRequest} {key : StockKey} {w : World}
    (settled : w.pending = []) (accepted : r.Accepted) (names : r.Names key)
    (checkout : IsCheckout r d) : ¬ CompletesCheckout d key w := by
  rintro ⟨resolved, consumed⟩
  have post := serve_post d settled
  generalize (d.serve w).1 = result at post resolved
  cases result with
  | error e => simp [Except.isOk, Except.toBool] at resolved
  | ok a =>
      obtain ⟨key', names', announced, -⟩ := post
      obtain ⟨before, after, applied, -⟩ := announced.once
      rw [checkout.tenantId, checkout.dto] at names'
      obtain rfl : key' = key := names'.unique names
      have step := applied.step
      rw [checkout.deducts] at step
      rw [← applied.leaves, ← applied.reads] at consumed
      unfold StockOp.apply at step
      split at step
      · have shifted := Option.some.inj step
        have positive : 1 ≤ d.call.dto.quantity := by
          rw [checkout.dto]
          exact accepted
        have reserved := congrArg StockMovementSnapshot.reservedQuantity (shifted.trans consumed)
        simp only [StockOp.shift, StockOp.reserved] at reserved
        omega
      · cases step

theorem settled_served {w₀ w : World} {log : CallLog} (settled : w₀.pending = [])
    (served : Served w₀ w log) : w.pending = [] := by
  induction served with
  | start => exact settled
  | next r _ _ ih =>
      have post := serve_post r ih
      cases result : (r.serve _).1 with
      | error e =>
          rw [result] at post
          exact post.settled
      | ok a =>
          rw [result] at post
          obtain ⟨_, _, announced, _⟩ := post
          exact announced.settled

def StockRequest.checkout (r : StockRequest) : StockRequest where
  call := { r.call with op := .deduct }
  context := r.context
  inTenant := r.inTenant
  present := r.present

/-- No reservation guarantees its checkout: whatever happens in between, the
deduction does not consume the reservation. -/
theorem reservation_never_guarantees (w₀ w : World) (log : CallLog)
    (empty : w₀.db.stockLevels.rows = []) (idle : w₀.pending = []) (served : Served w₀ w log)
    (r : StockRequest) (accepted : r.Accepted)
    (reserves : r.call.op = .reserve) (resolved : (r.serve w).1.isOk = true) :
    ¬ ReservationGuaranteesCheckout w r ∧
      ∀ key w' log' d, r.Names key → Served (r.serve w).2 w' log' → IsCheckout r d →
        ¬ CompletesCheckout d key w' := by
  have settled : (r.serve w).2.pending = [] :=
    settled_served idle (Served.next r served accepted)
  have never : ∀ key w' log' d, r.Names key → Served (r.serve w).2 w' log' →
    IsCheckout r d →
      ¬ CompletesCheckout d key w' := fun key w' log' d names after checkout =>
    not_completesCheckout (settled_served settled after) accepted names checkout
  refine ⟨fun guaranteed => ?_, never⟩
  have inv := ledgerInv_served empty idle served
  have post := serve_post r inv.settled
  generalize result : (r.serve w).1 = outcome at post resolved
  cases outcome with
  | error e => simp [Except.isOk, Except.toBool] at resolved
  | ok a =>
      obtain ⟨key, names, -⟩ := post
      have checkout : IsCheckout r r.checkout := ⟨reserves, rfl, rfl, rfl⟩
      refine never key _ [] _ names .start checkout ?_
      refine guaranteed key _ [] _ names .start ?_ checkout
      simpa [CallLog.total] using (inv.balanced key).reserved_nonneg

theorem reservation_never_guarantees_sale :
    ¬ ReservationGuaranteesCheckout SampleShop.delivered (SampleShop.request .reserve 2) :=
  (reservation_never_guarantees SampleShop.opened SampleShop.delivered _ rfl rfl
    SampleShop.served_delivered (SampleShop.request .reserve 2) (show (1 : ℤ) ≤ 2 by decide) rfl
    (by decide)).1

/-- All five units reserved, none can be checked out. -/
theorem checkout_of_reservation_refused :
    (∃ log, Served SampleShop.opened SampleShop.delivered log) ∧
      ((SampleShop.request .reserve 5).serve SampleShop.delivered).1.isOk = true ∧
      ¬ ReservationGuaranteesCheckout SampleShop.delivered (SampleShop.request .reserve 5) := by
  refine ⟨⟨_, SampleShop.served_delivered⟩, by decide, fun guaranteed => ?_⟩
  have completed := guaranteed ⟨SampleShop.tenantId, SampleShop.variantId,
    SampleShop.warehouseId⟩
    _ [] (SampleShop.request .deduct 5) ⟨by decide, by decide, by decide⟩ .start (by decide)
    ⟨rfl, rfl, rfl, rfl⟩
  have refused : ((SampleShop.request .deduct 5).serve
      ((SampleShop.request .reserve 5).serve SampleShop.delivered).2).1.isOk = false := by decide
  have resolved := completed.1
  rw [refused] at resolved
  cases resolved

end Tenantory
