import Tenantory.StockPhases
import Mathlib.Algebra.BigOperators.Group.List.Basic

/-! Concurrent stock operations on one row. The version column is incremented but
compared with nothing, so a save can overwrite what others have committed since
the entity was read. In the interleavings in which every save meets the version
that its entity was loaded with, the counters are those of a serial order of
the calls that resolve. -/

namespace Tenantory

open InventoryService

variable {ι : Type}

/-- What calls have read of the row is what it was at its version. -/
def Versioned (γ : ι → Phase) (row : StockLevel) : Prop :=
  ∀ i tx r, γ i = .read tx r → r.id = row.id ∧ r.version ≤ row.version ∧
    (r.version = row.version → r.snapshot = row.snapshot)

/-- An UPDATE of the row that leaves the counters as its call should. -/
def RightUpdate (op : ι → StockOp) (q : ι → ℤ) (row : StockLevel) (i : ι)
    (change : StockWrite) :
    Prop :=
  ∃ patch, change = .update row.id patch ∧
    (op i).apply (q i) row.snapshot = some (patch.apply row).snapshot

/-- One row, the calls that have committed on it in their order, and the
transactions that are still open. -/
structure SharedRow (op : ι → StockOp) (q : ι → ℤ) (key : StockKey)
    (initial : StockMovementSnapshot) (w : World) (γ : ι → Phase) (row : StockLevel)
    (order : List ι) : Prop where
  stored : w.db.stockAt key = some row
  numbered : Numbered w.nextTx γ
  listed : Listed γ order
  effects : order.foldlM (fun s i => (op i).apply (q i) s) initial = some row.snapshot
  versioned : Versioned γ row
  oneWriter : OneWriter (RightUpdate op q row) γ w.pending

/-- An UPDATE leaves no call that has read the row at its new version. -/
theorem Versioned.patched {γ : ι → Phase} {row : StockLevel} (h : Versioned γ row)
    (patch : StockPatch) : Versioned γ (patch.apply row) := by
  intro j tx r read
  obtain ⟨same, older, -⟩ := h j tx r read
  refine ⟨same, older.trans (Nat.le_succ _), fun newest => ?_⟩
  have newer : r.version = row.version + 1 := newest
  omega

variable [DecidableEq ι] {op : ι → StockOp} {q : ι → ℤ} {key : StockKey}
  {initial : StockMovementSnapshot} {w w' : World} {γ : ι → Phase} {row : StockLevel}
  {order : List ι} {i : ι} {tx : ℕ} {g' : Phase}

theorem Versioned.update (h : Versioned γ row)
    (reads : ∀ tx r, g' = .read tx r → r.id = row.id ∧ r.version ≤ row.version ∧
      (r.version = row.version → r.snapshot = row.snapshot)) :
    Versioned (Function.update γ i g') row := by
  intro j tx r read_j
  rcases update_cases read_j with ⟨-, read⟩ | ⟨-, read⟩
  · exact reads tx r read
  · exact h j tx r read

namespace SharedRow

theorem start (h : SharedRow op q key initial w γ row order) (idle : γ i = .idle) :
    SharedRow op q key initial { w with nextTx := w.nextTx + 1 }
      (Function.update γ i (.started w.nextTx)) row order where
  stored := h.stored
  numbered := h.numbered.start
  listed := h.listed.update (by simp [idle]) (by simp)
  effects := h.effects
  versioned := h.versioned.update fun _ _ impossible => by cases impossible
  oneWriter := h.oneWriter.update (by simp [idle]) (by simp) fun _ _ ok => ok

theorem read (h : SharedRow op q key initial w γ row order) (started : γ i = .started tx) :
    SharedRow op q key initial w (Function.update γ i (.read tx row)) row order where
  stored := h.stored
  numbered := h.numbered.keep fun tx' same => by simpa [started, Phase.tx?] using same
  listed := h.listed.update (by simp [started]) (by simp)
  effects := h.effects
  versioned := h.versioned.update fun tx' r same => by
    cases same
    exact ⟨rfl, le_rfl, fun _ => rfl⟩
  oneWriter := h.oneWriter.update (by simp [started]) (by simp) fun _ _ ok => ok

theorem write {r : StockLevel} {patch : StockPatch}
    (h : SharedRow op q key initial w γ row order) (read : γ i = .read tx r)
    (unlocked : w.lockedFor tx r.id = false)
    (right : (op i).apply (q i) row.snapshot = some (patch.apply row).snapshot) :
    SharedRow op q key initial (w.write tx (.update r.id patch))
      (Function.update γ i (.wrote tx)) row order where
  stored := h.stored
  numbered := h.numbered.keep fun tx' same => by simpa [read, Phase.tx?] using same
  listed := h.listed.update (by simp [read]) (by simp)
  effects := h.effects
  versioned := h.versioned.update fun _ _ impossible => by cases impossible
  oneWriter := by
    have same := (h.versioned i tx r read).1
    refine h.oneWriter.write ?_ (by simp [read]) ⟨patch, by rw [same], right⟩
    rintro k tx' _ hk wrote_k ⟨patch', rfl, -⟩ one
    have other : tx' ≠ tx := by
      rintro rfl
      exact hk (h.numbered.distinct k i tx' (by simp [wrote_k, Phase.tx?])
        (by simp [read, Phase.tx?]))
    simp [World.lockedFor, one, StockWrite.locks, other, same] at unlocked

theorem commit (h : SharedRow op q key initial w γ row order) (wrote : γ i = .wrote tx) :
    ∃ row', SharedRow op q key initial (w.commit tx) (Function.update γ i .committed) row'
      (order ++ [i]) := by
  obtain ⟨_, one, only, patch, rfl, right⟩ := h.oneWriter.staged wrote
  have committed : (w.commit tx).db = w.db.withWrite (.update row.id patch) := by
    simp [World.commit, one, Database.withWrite]
  have settled : (w.commit tx).pending = [] := by simp [World.commit, one]
  refine ⟨patch.apply row, ?_, ?_, ?_, ?_, ?_, ?_⟩
  · rw [committed]
    exact stockAt_update patch h.stored
  · exact h.numbered.keep fun tx' impossible => by simp [Phase.tx?] at impossible
  · exact h.listed.commit (by simp [wrote])
  · rw [List.foldlM_append, h.effects]
    simpa using right
  · exact (h.versioned.patched patch).update fun _ _ impossible => by cases impossible
  · rw [settled]
    exact OneWriter.done only (by simp)

theorem rollback (h : SharedRow op q key initial w γ row order) (opened : (γ i).tx? = some tx) :
    SharedRow op q key initial (w.rollback tx) (Function.update γ i .idle) row order where
  stored := h.stored
  numbered := h.numbered.keep fun tx' impossible => by simp [Phase.tx?] at impossible
  listed := h.listed.update (fun committed => by simp [committed, Phase.tx?] at opened) (by simp)
  effects := h.effects
  versioned := h.versioned.update fun _ _ impossible => by cases impossible
  oneWriter := h.oneWriter.rollback h.numbered opened

omit [DecidableEq ι] in
/-- Draws, events and the clock are not part of the invariant. -/
theorem congr (h : SharedRow op q key initial w γ row order) (db : w'.db = w.db)
    (pending : w'.pending = w.pending) (nextTx : w'.nextTx = w.nextTx) :
    SharedRow op q key initial w' γ row order where
  stored := by
    rw [db]
    exact h.stored
  numbered := by
    rw [nextTx]
    exact h.numbered
  listed := h.listed
  effects := h.effects
  versioned := h.versioned
  oneWriter := by
    rw [pending]
    exact h.oneWriter

end SharedRow

/-! ## The calls keep the invariant -/

/-- Both statements of a save find the row at the version of the entity. -/
def savedAsRead (w : World) (_ : ι) : Label → Bool
  | .reloadStock id version | .updateStock id version =>
      w.db.stockLevels.rows.any fun row => row.id == id && row.version == version
  | _ => true

def SavedAsRead (w : World) (i : ι) (label : Label) : Prop := savedAsRead w i label = true

omit [DecidableEq ι] in
theorem row_of_savedAsRead {id : Uuid} {version : ℕ} {label : Label}
    (saves : label = .reloadStock id version ∨ label = .updateStock id version)
    (h : SavedAsRead w i label) : ∃ row ∈ w.db.stockLevels,
      row.id = id ∧ row.version = version := by
  have found : (w.db.stockLevels.rows.any fun row => row.id == id && row.version == version) =
      true := by
    rcases saves with rfl | rfl <;> exact h
  simpa using List.any_eq_true.mp found

/-- Concurrent calls on the row under `key`. -/
def stockProtocol (op : ι → StockOp) (q : ι → ℤ) (key : StockKey)
    (initial : StockMovementSnapshot) : Protocol World Err Label ι Phase where
  inv w γ := ∃ row order, SharedRow op q key initial w γ row order
  fault := dbFault
  cond := SavedAsRead
  holds g := ∃ tx, g = .wrote tx

section Simulation

variable {m : Movement} {captured : Captured} {α : Type}

/-- What a step inside transaction `tx` leaves: a staged write, or an error that the
transaction wrapper will see. -/
def StepDone (tx : ℕ) {β : Type} (g : Phase) : Except Err β → Prop
  | .ok _ => g = .wrote tx
  | .error _ => g.tx? = some tx

theorem sim_perform_read {label : Label} {read : World → Except Err α} {g : Phase}
    {post : Phase → Except Err α → Prop}
    (answered : ∀ w γ row order, SharedRow op q key initial w γ row order → γ i = g →
      SavedAsRead w i label → post g (read w)) (failed : ∀ e, post g (.error e)) :
    (stockProtocol op q key initial).Sim i post (perform label fun w => (read w, w)).run g := by
  refine Protocol.Sim.read (fun _ => rfl) (fun _ => rfl) ?_ fun e _ => failed e
  rintro w γ ⟨row, order, h⟩ at_i cond
  exact answered w γ row order h at_i cond

theorem sim_find (names : Names m.tenantId m.variantId m.warehouseId key)
    {post : Phase → Except Err StockEntity → Prop}
    (failed : ∀ e, post (.started tx) (.error e))
    (loaded : ∀ r, post (.read tx r) (.ok (.loaded r)))
    (created : ∀ draft, m.absent = .ok draft → post (.started tx) (.ok (.created draft))) :
    (stockProtocol op q key initial).Sim i post m.find.run (.started tx) := by
  unfold Movement.find lookup findStock
  rw [Svc.run_bind]
  refine Protocol.Sim.bind ?_
  refine ⟨fun _ _ _ _ => .inl rfl, ?_, fun e _ w γ inv at_i => ⟨.started tx, ?_, failed e⟩⟩
  · rintro w γ ⟨row, order, h⟩ at_i - -
    show ∃ g', _ ∧ Protocol.Sim _ _ _
      (Prog.ret (stockRead m.tenantId m.variantId m.warehouseId w)) g'
    rw [stockRead_of_names names]
    cases visible : w.db.visibleStock key with
    | none =>
        refine ⟨.started tx, ?_, ?_⟩
        · rw [← at_i, Function.update_eq_self]
          exact ⟨row, order, h⟩
        · cases absent : m.absent with
          | ok draft => exact created draft absent
          | error e => exact failed e
    | some row' =>
        have same : row' = row :=
          Option.some.inj ((visibleStock_eq_some.mp visible).1.symm.trans h.stored)
        exact ⟨.read tx row', ⟨row, order, by rw [same]; exact h.read at_i⟩, loaded row'⟩
  · rw [← at_i, Function.update_eq_self]
    exact inv

/-- A failed statement leaves the world as it is. -/
theorem inv_failed {g : Phase} (inv : (stockProtocol op q key initial).inv w γ) (at_i : γ i = g) :
    (stockProtocol op q key initial).inv w (Function.update γ i g) := by
  rw [← at_i, Function.update_eq_self]
  exact inv

/-- The row exists, so an INSERT under its key comes back with an error. -/
theorem sim_insertStock {variantId warehouseId : Uuid} {build : Uuid → Timestamp → StockLevel}
    {g : Phase} (open_i : g.tx? = some tx) (keyed : ∀ id now, (build id now).key = key) :
    (stockProtocol op q key initial).Sim i (StepDone tx)
      (insertStock tx variantId warehouseId build).run g := by
  refine ⟨?_, ?_, fun e _ w γ inv at_i => ⟨g, inv_failed inv at_i, open_i⟩⟩
  · rintro w γ ⟨row, order, h⟩ -
    left
    show (!w.claimedFor tx _) = true
    have unclaimed : w.claimedFor tx (build (w.ids 0) w.clock) = false := by
      rcases h.oneWriter with ⟨none, -⟩ | ⟨k, tx', _, one, -, -, patch, rfl, -⟩
      · simp [World.claimedFor, none]
      · simp [World.claimedFor, one, StockWrite.claims]
    rw [unclaimed]
    rfl
  · rintro w γ ⟨row, order, h⟩ at_i - -
    have taken : w.db.stockLevels.rows.any (conflict (build (w.ids 0) w.clock)) = true := by
      obtain ⟨mem, same⟩ := stockAt_eq_some.mp h.stored
      exact List.any_eq_true.mpr ⟨row, mem, conflict_of_key ((keyed _ _).trans same.symm)⟩
    show ∃ g', _ ∧ Protocol.Sim _ _ _ (Prog.ret (insertAct tx build w).1) g'
    have refused : ∃ e, insertAct tx build w = (.error e, w) := by
      unfold insertAct
      simp only [taken, if_true]
      split <;> exact ⟨_, rfl⟩
    obtain ⟨e, act⟩ := refused
    refine ⟨g, ?_, ?_⟩
    · show (stockProtocol op q key initial).inv (insertAct tx build w).2 _
      rw [act]
      exact inv_failed ⟨row, order, h⟩ at_i
    · rw [act]
      exact open_i

theorem changed_shift {op : StockOp} {q : ℤ} {s : StockMovementSnapshot} (positive : 1 ≤ q) :
    ((changed (op.shift q s).availableQuantity s.availableQuantity).isNone &&
      (changed (op.shift q s).reservedQuantity s.reservedQuantity).isNone) = false := by
  refine Bool.eq_false_iff.mpr fun both => ?_
  simp only [Bool.and_eq_true, changed_isNone] at both
  have moved : s.availableQuantity + op.available q = s.availableQuantity := both.1
  cases op <;> simp only [StockOp.available] at moved <;> omega

theorem sim_saveLoaded {r : StockLevel} (positive : 1 ≤ q i)
    (admitted : (op i).admits (q i) r.snapshot = true) :
    (stockProtocol op q key initial).Sim i (StepDone tx) (saveStock tx (.loaded { r with
      availableQuantity := ((op i).shift (q i) r.snapshot).availableQuantity
      reservedQuantity := ((op i).shift (q i) r.snapshot).reservedQuantity })).run
        (.read tx r) := by
  unfold saveStock
  rw [Svc.run_bind]
  refine Protocol.Sim.bind (sim_perform_read ?_ fun e => rfl)
  intro w γ row order h at_i saved
  obtain ⟨same, -, snapshot⟩ := h.versioned i tx r at_i
  obtain ⟨mem, -⟩ := stockAt_eq_some.mp h.stored
  have found : w.db.stockLevels.find? (·.id == r.id) = some row := by
    rw [same]
    exact find?_id mem
  obtain ⟨row', mem', sameId, sameVersion⟩ := row_of_savedAsRead (.inl rfl) saved
  obtain rfl : row' = row := Table.eq_of_conflict mem' mem (conflict_of_id (sameId.trans same))
  have current : r.snapshot = row'.snapshot := snapshot sameVersion.symm
  have available : row'.availableQuantity = r.availableQuantity :=
    (congrArg StockMovementSnapshot.availableQuantity current).symm
  have reserved : row'.reservedQuantity = r.reservedQuantity :=
    (congrArg StockMovementSnapshot.reservedQuantity current).symm
  have written : ((changed ((op i).shift (q i) r.snapshot).availableQuantity
      row'.availableQuantity).isNone && (changed ((op i).shift (q i) r.snapshot).reservedQuantity
        row'.reservedQuantity).isNone) = false := by
    rw [available, reserved]
    exact changed_shift positive
  rw [found, Svc.next_ok]
  simp only [written, Bool.false_eq_true, if_false]
  refine ⟨?_, ?_, fun e _ w γ inv at_i => ⟨.read tx r, inv_failed inv at_i, rfl⟩⟩
  · rintro w γ ⟨row, order, h⟩ at_i
    by_cases locked : w.lockedFor tx r.id = true
    · have free : ¬ (stockProtocol op q key initial).holds (.read tx r) := by
        rintro ⟨tx', wrote⟩
        cases wrote
      refine .inr ⟨free, ?_⟩
      rcases h.oneWriter with ⟨none, -⟩ | ⟨k, tx', _, -, wrote_k, -⟩
      · simp [World.lockedFor, none] at locked
      · exact ⟨k, tx', wrote_k⟩
    · left
      simpa using locked
  · rintro w γ ⟨row, order, h⟩ at_i ready saved
    obtain ⟨same, -, snapshot⟩ := h.versioned i tx r at_i
    obtain ⟨mem, -⟩ := stockAt_eq_some.mp h.stored
    obtain ⟨row'', mem'', sameId, sameVersion⟩ := row_of_savedAsRead (.inr rfl) saved
    obtain rfl : row'' = row := Table.eq_of_conflict mem'' mem (conflict_of_id (sameId.trans same))
    have now : r.snapshot = row''.snapshot := snapshot sameVersion.symm
    have unlocked : w.lockedFor tx r.id = false := by simpa using ready
    show ∃ g', (stockProtocol op q key initial).inv (updateAct tx _ _ _ w).2 _ ∧
      Protocol.Sim _ _ _ (Prog.ret (updateAct tx _ _ _ w).1) g'
    unfold updateAct
    split
    · exact ⟨.read tx r, inv_failed ⟨row'', order, h⟩ at_i, rfl⟩
    · refine ⟨.wrote tx, ⟨row'', order, h.write (r := r) at_i unlocked ?_⟩, rfl⟩
      rw [← now]
      simp only [StockOp.apply, admitted, if_true]
      congr 1
      have nowAvailable : row''.availableQuantity = r.availableQuantity :=
        (congrArg StockMovementSnapshot.availableQuantity now).symm
      have nowReserved : row''.reservedQuantity = r.reservedQuantity :=
        (congrArg StockMovementSnapshot.reservedQuantity now).symm
      simp only [StockPatch.apply, StockLevel.snapshot, available, reserved, nowAvailable,
        nowReserved, changed_getD]

theorem sim_callback (performs : m.Performs (op i) (q i)) (positive : 1 ≤ q i)
    (names : Names m.tenantId m.variantId m.warehouseId key) :
    (stockProtocol op q key initial).Sim i (fun g r => StepDone tx g r.1)
      ((m.callback tx).run captured) (.started tx) := by
  have saving : ∀ (stock : StockEntity) (g : Phase) (before : StockMovementSnapshot),
      (stockProtocol op q key initial).Sim i (StepDone tx) (saveStock tx stock).run g →
        (stockProtocol op q key initial).Sim i (fun g r => StepDone tx g r.1)
          ((do
            let saved ← Attempt.lift (saveStock tx stock)
            set (some (m.event before saved))
            pure saved : Attempt StockLevel).run captured) g := by
    intro stock g before saved
    rw [Attempt.run_bind, Attempt.run_lift, Prog.bind_assoc]
    refine Protocol.Sim.bind (saved.mono fun g r outcome => ?_)
    cases r <;> exact outcome
  unfold Movement.callback
  rw [Attempt.run_bind, Attempt.run_lift, Prog.bind_assoc]
  refine Protocol.Sim.bind (sim_find names (fun e => rfl) (fun r => ?_) fun draft absent => ?_)
  · rw [Prog.ret_bind]
    dsimp only [Attempt.next]
    cases refused : m.refused (.loaded r) with
    | some err => exact rfl
    | none =>
        refine saving _ _ _ ?_
        rw [performs.available, performs.reserved]
        exact sim_saveLoaded positive ((performs.refused _).mp refused)
  · rw [Prog.ret_bind]
    dsimp only [Attempt.next]
    cases refused : m.refused (.created draft) with
    | some err => exact rfl
    | none =>
        refine saving _ _ _ ?_
        obtain ⟨keyed, tenant, -⟩ := performs.draft draft absent
        simp only [StockEntity.setQuantities, saveStock, tenant, uuidParam, names.tenant]
        exact sim_insertStock rfl fun id now => keyed key names id now

/-- How an attempt, the retry loop or a call ends. -/
def CallDone (g : Phase) : Except Err α → Prop
  | .ok _ => g = .committed
  | .error _ => g = .idle

/-- From the start of the transaction on: whatever goes wrong ends in a rollback. -/
theorem sim_transactionBody (performs : m.Performs (op i) (q i)) (positive : 1 ≤ q i)
    (names : Names m.tenantId m.variantId m.warehouseId key) (tx : ℕ) :
    (stockProtocol op q key initial).Sim i (fun g r => CallDone g r.1)
      ((tryCatch
        (do
          let result ← m.callback tx
          Attempt.lift (commitTransaction tx)
          pure result)
        fun err => do
          Attempt.lift (rollbackTransaction tx)
          throw err : Attempt StockLevel).run captured) (.started tx) := by
  rw [Attempt.run_tryCatch, Attempt.run_bind]
  have abort : ∀ g (v : Captured) (err : Err), g.tx? = some tx →
      (stockProtocol op q key initial).Sim i (fun g r => CallDone g r.1)
        ((do
          Attempt.lift (rollbackTransaction tx)
          throw err : Attempt StockLevel).run v) g := by
    intro g v err opened
    refine ⟨fun _ _ _ _ => .inl rfl, ?_, fun _ impossible => impossible.elim⟩
    rintro w γ ⟨row, order, h⟩ at_i - -
    exact ⟨.idle, ⟨row, order, h.rollback (by rw [at_i, opened])⟩, rfl⟩
  refine Protocol.Sim.bind (Protocol.Sim.bind ((sim_callback performs positive names).mono ?_))
  rintro g ⟨r, v⟩ outcome
  cases r with
  | error e => exact abort g v e outcome
  | ok saved =>
      obtain rfl : g = .wrote tx := outcome
      refine ⟨fun _ _ _ _ => .inl rfl, ?_, fun e _ w γ inv at_i =>
        ⟨.wrote tx, inv_failed inv at_i, abort _ v e rfl⟩⟩
      rintro w γ ⟨row, order, h⟩ at_i - -
      obtain ⟨row', h'⟩ := h.commit at_i
      exact ⟨.committed, ⟨row', _, h'⟩, rfl⟩

theorem sim_transaction (performs : m.Performs (op i) (q i)) (positive : 1 ≤ q i)
    (names : Names m.tenantId m.variantId m.warehouseId key) :
    (stockProtocol op q key initial).Sim i (fun g r => CallDone g r.1)
      ((transaction m.callback).run captured) .idle := by
  unfold transaction
  rw [Attempt.run_bind, Attempt.run_lift, Prog.bind_assoc]
  refine Protocol.Sim.bind ⟨fun _ _ _ _ => .inl rfl, ?_,
    fun e _ w γ inv at_i => ⟨.idle, inv_failed inv at_i, rfl⟩⟩
  rintro w γ ⟨row, order, h⟩ at_i - -
  exact ⟨.started w.nextTx, ⟨row, order, h.start at_i⟩,
    sim_transactionBody performs positive names w.nextTx⟩

theorem sim_attempts (performs : m.Performs (op i) (q i)) (positive : 1 ≤ q i)
    (names : Names m.tenantId m.variantId m.warehouseId key) (left attempt : ℕ) :
    (stockProtocol op q key initial).Sim i (fun g r => CallDone g r.1)
      ((RetryBackoff.retryFrom timer (transaction m.callback) retryOptions exhausted left
        attempt).run captured) .idle := by
  induction left generalizing attempt captured with
  | zero => exact rfl
  | succ left ih =>
      unfold RetryBackoff.retryFrom
      rw [Attempt.run_tryCatch]
      refine Protocol.Sim.bind ((sim_transaction performs positive names).mono ?_)
      rintro g ⟨r, v⟩ outcome
      cases r with
      | ok saved => exact outcome
      | error e =>
          obtain rfl : g = .idle := outcome
          show Protocol.Sim _ _ _ ((if _ then throw e else _ : Attempt StockLevel).run v) _
          split
          · exact rfl
          · refine ⟨fun _ _ _ _ => .inl rfl, ?_, fun _ impossible => impossible.elim⟩
            rintro w γ ⟨row, order, h⟩ at_i - -
            refine ⟨.idle, inv_failed ⟨row, order, h.congr rfl rfl rfl⟩ at_i, ?_⟩
            refine ⟨fun _ _ _ _ => .inl rfl, ?_, fun _ impossible => impossible.elim⟩
            rintro w γ inv at_i - -
            exact ⟨.idle, inv_failed inv at_i, ih _⟩

/-- Publishing does not fail and touches nothing that is shared. -/
theorem sim_emit {event : Event} {g : Phase} {post : Phase → Except Err Unit → Prop}
    (h : post g (.ok ())) :
    (stockProtocol op q key initial).Sim i post (emit event).run g := by
  refine ⟨fun _ _ _ _ => .inl rfl, ?_, fun _ impossible => impossible.elim⟩
  rintro w γ ⟨row, order, inv⟩ at_i - -
  exact ⟨g, inv_failed ⟨row, order, inv.congr rfl rfl rfl⟩ at_i, h⟩

theorem sim_run {context : Option AuditContextData}
    (audited : ∀ input, (AuditService.event? context input).isSome)
    (performs : m.Performs (op i) (q i)) (positive : 1 ≤ q i)
    (names : Names m.tenantId m.variantId m.warehouseId key) :
    (stockProtocol op q key initial).Sim i CallDone (m.run context).run .idle := by
  refine Protocol.Sim.bind ((sim_attempts performs positive names _ _).mono ?_)
  rintro g ⟨r, v⟩ outcome
  cases r with
  | error e => exact outcome
  | ok saved =>
      cases v with
      | none => exact outcome
      | some movement =>
          obtain ⟨audit, recorded⟩ :=
            Option.isSome_iff_exists.mp (audited (auditInput movement))
          simp only [publishStockMovement, AuditService.record, recorded, Svc.run_bind]
          refine Protocol.Sim.bind (Protocol.Sim.bind (sim_emit ?_))
          exact sim_emit outcome

theorem sim_discard {p : Svc α} {g : Phase}
    (h : (stockProtocol op q key initial).Sim i CallDone p.run g) :
    (stockProtocol op q key initial).Sim i CallDone (do let _ ← p : Svc Unit).run g := by
  rw [Svc.run_bind]
  refine Protocol.Sim.bind (h.mono fun g r outcome => ?_)
  cases r <;> exact outcome

/-- Every call of the service keeps the invariant of the row it names. -/
theorem sim_program (call : StockCall) {context : Option AuditContextData}
    (audited : ∀ input, (AuditService.event? context input).isSome)
    (same_op : op i = call.op) (same_q : q i = call.dto.quantity) (positive : 1 ≤ q i)
    (names : Names call.tenantId call.dto.variantId call.dto.warehouseId key) :
    (stockProtocol op q key initial).Sim i CallDone (call.program context).run .idle := by
  obtain ⟨kind, tenantId, dto⟩ := call
  have canonical : ∀ (variant : ProductVariant) (warehouse : Warehouse),
      UuidText.uuidIn dto.variantId = some variant.id →
        UuidText.uuidIn dto.warehouseId = some warehouse.id →
          Names tenantId (UuidText.uuidOut variant.id) (UuidText.uuidOut warehouse.id) key := by
    intro variant warehouse hv hw
    refine ⟨names.tenant, ?_, ?_⟩
    · rw [UuidText.uuidIn_uuidOut, ← hv]
      exact names.variant
    · rw [UuidText.uuidIn_uuidOut, ← hw]
      exact names.warehouse
  cases kind with
  | reserve =>
      refine sim_discard (sim_run audited ?_ positive names)
      rw [same_op, same_q]
      exact reservation_performs tenantId dto
  | release =>
      refine sim_discard (sim_run audited ?_ positive names)
      rw [same_op, same_q]
      exact release_performs tenantId dto
  | deduct =>
      show Protocol.Sim _ _ _ (deductStock context tenantId dto).run _
      unfold deductStock
      rw [Svc.run_bind]
      refine Protocol.Sim.bind
        (sim_findOneById (fun e _ => rfl) (fun _ _ _ _ _ e => rfl) fun _ variant _ hv _ => ?_)
      rw [Svc.next_ok, Svc.run_bind]
      refine Protocol.Sim.bind
        (sim_findWarehouse (fun e _ => rfl) (fun _ _ _ _ _ e => rfl) fun _ warehouse _ hw _ => ?_)
      refine sim_discard (sim_run audited ?_ positive (canonical variant warehouse hv hw))
      rw [same_op, same_q]
      exact deduction_performs tenantId dto variant warehouse
  | replenish =>
      refine sim_discard ?_
      unfold replenish
      rw [Svc.run_bind]
      refine Protocol.Sim.bind
        (sim_findWarehouse (fun e _ => rfl) (fun _ _ _ _ _ e => rfl) fun _ warehouse _ hw _ => ?_)
      rw [Svc.next_ok, Svc.run_bind]
      refine Protocol.Sim.bind
        (sim_findOneById (fun e _ => rfl) (fun _ _ _ _ _ e => rfl) fun _ variant _ hv _ => ?_)
      refine sim_run audited ?_ positive (canonical variant warehouse hv hw)
      rw [same_op, same_q]
      exact replenishment_performs tenantId dto variant warehouse

end Simulation

/-! ## Serial orders -/

/-- The calls of `order`, one after the other, lead from `initial` to `final`. -/
structure SerialOutcome (calls : ι → StockRequest) (initial final : StockMovementSnapshot)
    (order : List ι) : Prop where
  nodup : order.Nodup
  serial : order.foldlM (fun s i => (calls i).call.op.apply (calls i).call.dto.quantity s) initial =
    some final
  available : final.availableQuantity = initial.availableQuantity +
    (order.map fun i => (calls i).call.op.available (calls i).call.dto.quantity).sum
  reserved : final.reservedQuantity = initial.reservedQuantity +
    (order.map fun i => (calls i).call.op.reserved (calls i).call.dto.quantity).sum
  covered : 0 ≤ initial.availableQuantity → 0 ≤ final.availableQuantity

theorem apply_cases {op : StockOp} {q : ℤ} {before after : StockMovementSnapshot}
    (h : op.apply q before = some after) :
    op.admits q before = true ∧ after = op.shift q before := by
  unfold StockOp.apply at h
  split at h
  · exact ⟨‹_›, (Option.some.inj h).symm⟩
  · cases h

omit [DecidableEq ι] in
theorem serialOutcome {calls : ι → StockRequest} {final : StockMovementSnapshot}
    (accepted : ∀ i, (calls i).Accepted) (nodup : order.Nodup)
    (serial : order.foldlM
      (fun s i => (calls i).call.op.apply (calls i).call.dto.quantity s) initial = some final) :
    SerialOutcome calls initial final order := by
  have sums : final.availableQuantity = initial.availableQuantity +
        (order.map fun i => (calls i).call.op.available (calls i).call.dto.quantity).sum ∧
      final.reservedQuantity = initial.reservedQuantity +
        (order.map fun i => (calls i).call.op.reserved (calls i).call.dto.quantity).sum ∧
      (0 ≤ initial.availableQuantity → 0 ≤ final.availableQuantity) := by
    clear nodup
    induction order generalizing initial with
    | nil =>
        obtain rfl : initial = final := by simpa using serial
        simp
    | cons i order ih =>
        obtain ⟨next, step, rest⟩ := Option.bind_eq_some_iff.mp (by simpa using serial)
        obtain ⟨available, reserved, covered⟩ := ih rest
        obtain ⟨admitted, rfl⟩ := apply_cases step
        have positive : 1 ≤ (calls i).call.dto.quantity := accepted i
        simp only [StockOp.shift] at available reserved covered
        refine ⟨?_, ?_, fun nonneg => covered ?_⟩
        · rw [available, List.map_cons, List.sum_cons, add_assoc]
        · rw [reserved, List.map_cons, List.sum_cons, add_assoc]
        · cases kind : (calls i).call.op <;>
            simp only [kind, StockOp.admits_deduct, StockOp.admits_reserve] at admitted <;>
            simp only [StockOp.available] <;> omega
  exact ⟨nodup, serial, sums.1, sums.2.1, sums.2.2⟩

def stockPool (calls : ι → StockRequest) (w : World) :
    Pool World Err Label ι (Except Err Unit) where
  state := w
  progs i := ((calls i).call.program (some (calls i).context)).run

/-- In every interleaving of calls on one row whose saves all find the row at the
version that was read, and however its statements fail, the counters end as in a
serial order of the calls that have resolved. -/
theorem stock_calls_serial (calls : ι → StockRequest) (key : StockKey) (w : World)
    (row : StockLevel) (names : ∀ i, (calls i).Names key) (accepted : ∀ i, (calls i).Accepted)
    (idle : w.pending = []) (stored : w.db.stockAt key = some row)
    (c : Pool World Err Label ι (Except Err Unit))
    (run : Pool.Reach dbFault SavedAsRead (stockPool calls w) c) (finished : c.Finished) :
    ∃ order, SerialOutcome calls row.snapshot (c.state.db.quantitiesAt key) order ∧
      ∀ i, i ∈ order ↔ c.progs i = .ret (.ok ()) := by
  let P := stockProtocol (fun i => (calls i).call.op) (fun i => (calls i).call.dto.quantity) key
    row.snapshot
  have start : P.Holds (fun _ g r => CallDone g r) (stockPool calls w) := by
    refine ⟨fun _ => .idle, ⟨row, [], stored, ⟨?_, ?_⟩, ⟨.nil, ?_⟩, rfl, ?_,
      .inl ⟨idle, ?_⟩⟩,
      fun i => ?_⟩
    · exact fun _ _ impossible => by simp [Phase.tx?] at impossible
    · exact fun _ _ _ impossible => by simp [Phase.tx?] at impossible
    · simp
    · exact fun _ _ _ impossible => by cases impossible
    · simp
    · have sim : P.Sim i CallDone ((stockPool calls w).progs i) .idle :=
        sim_program (calls i).call (event?_isSome (calls i).inTenant (calls i).present) rfl rfl
          (accepted i) (names i)
      refine sim.mono fun g r outcome => ⟨outcome, ?_⟩
      rintro ⟨tx, rfl⟩
      cases r <;> cases outcome
  obtain ⟨γ, ⟨row', order, shared⟩, returned⟩ := (Protocol.holds_reach start run).returned
  refine ⟨order, ?_, fun i => ?_⟩
  · rw [quantitiesAt_of_stockAt shared.stored]
    exact serialOutcome accepted shared.listed.nodup shared.effects
  · rw [shared.listed.members]
    obtain ⟨r, hr⟩ := Option.isSome_iff_exists.mp (finished i)
    rw [Pool.result?_eq_some] at hr
    have outcome := returned i r hr
    cases r with
    | ok a =>
        have done : γ i = .committed := outcome
        simp [hr, done]
    | error e =>
        have given_up : γ i = .idle := outcome
        simp [hr, given_up]

namespace SampleShop

def rowKey : StockKey := ⟨tenantId, variantId, warehouseId⟩

/-- `n` buyers of one unit each. -/
def buyers (n : ℕ) (available : ℤ) : Pool World Err Label (Fin n) (Except Err Unit) :=
  stockPool (fun _ => request .deduct 1) (world (stocked available 0))

/-- All calls have resolved and nothing is left. -/
def soldOut {n : ℕ} (c : Pool World Err Label (Fin n) (Except Err Unit)) : Bool :=
  (List.finRange n).all (fun i => (Pool.result? (c.progs i)).any Except.isOk) &&
    c.state.db.quantitiesAt rowKey == ⟨0, 0⟩

theorem soldOut_spec {n : ℕ} {c : Pool World Err Label (Fin n) (Except Err Unit)}
    (h : soldOut c = true) :
    (∀ i, c.progs i = .ret (.ok ())) ∧ c.state.db.quantitiesAt rowKey = ⟨0, 0⟩ := by
  simp only [soldOut, Bool.and_eq_true, beq_iff_eq, List.all_eq_true] at h
  refine ⟨fun i => ?_, h.2⟩
  obtain ⟨r, hr, ok⟩ := (Option.any_eq_true _ _).mp (h.1 i (List.mem_finRange i))
  rw [Pool.result?_eq_some.mp hr]
  cases r with
  | ok a => rfl
  | error e => cases ok

/-- Whether each of the calls has resolved. -/
def answers {n : ℕ} (c : Pool World Err Label (Fin n) (Except Err Unit)) : List (Option Bool) :=
  (List.finRange n).map fun i => (Pool.result? (c.progs i)).map Except.isOk

theorem finished_of_answers {n : ℕ} {c : Pool World Err Label (Fin n) (Except Err Unit)}
    (h : ∀ a ∈ answers c, a.isSome = true) : c.Finished := fun i => by
  have answered := h _ (List.mem_map_of_mem (List.mem_finRange i))
  rwa [Option.isSome_map] at answered

/-- Three buyers of two units begin together; each reads the row after the one before has
committed, and the last one finds nothing left. -/
theorem three_buyers : ((buyers 3 2).schedule savedAsRead
      [0, 1, 2, 0, 1, 2, 0, 1, 2, 0, 0, 0, 0, 1, 0, 1, 1, 1, 2, 0, 1, 1, 2]).map answers =
    some [some true, some true, some false] := by decide

/-- Both buyers read the row before either of them writes it. -/
theorem two_buyers : ((buyers 2 1).schedule (fun _ _ _ => true)
    [0, 0, 0, 0, 0, 1, 1, 1, 1, 1, 0, 0, 0, 0, 1, 1, 1, 1]).map soldOut = some true := by decide

end SampleShop

theorem stock_calls_serial_sale : ∃ c, Pool.Reach dbFault SavedAsRead
    (SampleShop.buyers 3 2) c ∧
    SampleShop.answers c = [some true, some true, some false] ∧
    ∃ order, SerialOutcome (fun _ : Fin 3 => SampleShop.request .deduct 1) ⟨2, 0⟩
      (c.state.db.quantitiesAt SampleShop.rowKey) order ∧
        ∀ i, i ∈ order ↔ c.progs i = .ret (.ok ()) := by
  obtain ⟨c, run, seen⟩ := Pool.exists_of_schedule SampleShop.three_buyers
  have finished : c.Finished := SampleShop.finished_of_answers (by rw [seen]; decide)
  exact ⟨c, run, seen, stock_calls_serial (fun _ : Fin 3 => SampleShop.request .deduct 1)
    SampleShop.rowKey (SampleShop.world (SampleShop.stocked 2 0)) (SampleShop.stock 2 0)
    (fun _ => ⟨by decide, by decide, by decide⟩) (fun _ => show (1 : ℤ) ≤ 1 by decide) rfl
    (by decide) c run finished⟩

/-- Two buyers get the last unit: the second save overwrites the first. -/
theorem last_unit_sold_twice : ∃ c, Pool.Reach dbFault (fun _ _ _ => True)
      (SampleShop.buyers 2 1) c ∧ (∀ i, c.progs i = .ret (.ok ())) ∧
    ¬ ∃ order, SerialOutcome (fun _ : Fin 2 => SampleShop.request .deduct 1) ⟨1, 0⟩
      (c.state.db.quantitiesAt SampleShop.rowKey) order ∧
        ∀ i, i ∈ order ↔ c.progs i = .ret (.ok ()) := by
  obtain ⟨c, run, sold⟩ := Pool.exists_of_schedule SampleShop.two_buyers
  obtain ⟨resolved, left⟩ := SampleShop.soldOut_spec sold
  refine ⟨c, run.mono fun _ _ _ _ => trivial, resolved, ?_⟩
  rintro ⟨order, outcome, members⟩
  have all : order.Perm (List.finRange 2) :=
    (List.perm_ext_iff_of_nodup outcome.nodup (List.nodup_finRange 2)).mpr fun i => by
      simp [members, resolved]
  have available := outcome.available
  rw [left, (all.map _).sum_eq] at available
  revert available
  decide

end Tenantory
