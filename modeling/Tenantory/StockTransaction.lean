import Tenantory.TableStatements

/-! Transactions on `stock_levels` as the entity manager runs them. The server
works at READ COMMITTED: a query sees the committed rows, an UPDATE waits for
the other writers of its row, an INSERT for the other writers of its unique
keys. What a transaction writes is pending until it commits. -/

namespace Tenantory

/-- The variable `movement` that the retried closure assigns. -/
abbrev Captured := Option StockMovementEvent

/-- The code of `retryWithBackoff(fn)`; the captured variable keeps its value when an
attempt fails. -/
abbrev Attempt := ExceptT Err (StateT Captured Step)

def Attempt.lift {α : Type} (p : Svc α) : Attempt α :=
  ExceptT.mk fun movement => p.run.bind fun r => .ret (r, movement)

namespace Attempt

variable {α β : Type}

@[simp] theorem run_pure (a : α) (v : Captured) :
    (pure a : Attempt α).run v = .ret (.ok a, v) := rfl

@[simp] theorem run_throw (e : Err) (v : Captured) :
    (throw e : Attempt α).run v = .ret (.error e, v) := rfl

@[simp] theorem run_lift (p : Svc α) (v : Captured) :
    (lift p).run v = p.run.bind fun r => .ret (r, v) := rfl

@[simp] theorem run_set (v w : Captured) :
    (set w : Attempt Unit).run v = .ret (.ok ⟨⟩, w) := rfl

def next (f : α → Attempt β) : Except Err α × Captured → Step (Except Err β × Captured)
  | (.ok a, v) => (f a).run v
  | (.error e, v) => .ret (.error e, v)

@[simp] theorem run_bind (p : Attempt α) (f : α → Attempt β) (v : Captured) :
    (p >>= f).run v = (p.run v).bind (next f) := by
  show Prog.bind _ _ = _
  congr 1
  funext r
  obtain ⟨r, v⟩ := r
  cases r <;> rfl

def handle (f : Err → Attempt α) : Except Err α × Captured → Step (Except Err α × Captured)
  | (.ok a, v) => .ret (.ok a, v)
  | (.error e, v) => (f e).run v

@[simp] theorem run_tryCatch (p : Attempt α) (f : Err → Attempt α) (v : Captured) :
    (tryCatch p f).run v = (p.run v).bind (handle f) := by
  show Prog.bind _ _ = _
  congr 1
  funext r
  obtain ⟨r, v⟩ := r
  cases r <;> rfl

end Attempt

namespace StockWrite

def apply : StockWrite → Table StockLevel → Table StockLevel
  -- the index entry was taken by the INSERT, so nothing can conflict at the commit
  | insert row, t => (t.insert? row).getD t
  | update id patch, t => t.modify (·.id == id) patch.apply fun _ _ => rfl

/-- An UPDATE of row `id` has to wait for this write. -/
def locks (id : Uuid) : StockWrite → Bool
  | insert row => row.id == id
  | update id' _ => id' == id

/-- An INSERT of `row` has to wait for this write. -/
def claims (row : StockLevel) : StockWrite → Bool
  | insert row' => conflict row row'
  | update _ _ => false

end StockWrite

namespace World

def commit (w : World) (tx : ℕ) : World :=
  { w with
    db := { w.db with
      stockLevels :=
        (w.pending.filter (·.1 == tx)).foldl (fun t p => p.2.apply t) w.db.stockLevels }
    pending := w.pending.filter (·.1 != tx)
    journal := w.journal ++ [.committed tx] }

def rollback (w : World) (tx : ℕ) : World :=
  { w with pending := w.pending.filter (·.1 != tx) }

def write (w : World) (tx : ℕ) (change : StockWrite) : World :=
  { w with pending := w.pending ++ [(tx, change)] }

def lockedFor (w : World) (tx : ℕ) (id : Uuid) : Bool :=
  w.pending.any fun p => p.1 != tx && p.2.locks id

def claimedFor (w : World) (tx : ℕ) (row : StockLevel) : Bool :=
  w.pending.any fun p => p.1 != tx && p.2.claims row

end World

/-! ## Statements -/

def startTransaction : Svc ℕ :=
  perform .begin fun w => (.ok w.nextTx, { w with nextTx := w.nextTx + 1 })

def commitTransaction (tx : ℕ) : Svc Unit :=
  perform (.commit tx) fun w => (.ok (), w.commit tx)

def rollbackTransaction (tx : ℕ) : Svc Unit :=
  perform (.rollback tx) fun w => (.ok (), w.rollback tx)

def transaction {α : Type} (callback : ℕ → Attempt α) : Attempt α := do
  let tx ← Attempt.lift startTransaction
  tryCatch
    (do
      let result ← callback tx
      Attempt.lift (commitTransaction tx)
      pure result)
    fun err => do
      Attempt.lift (rollbackTransaction tx)
      throw err

/-- A `StockLevel` object that `repo.create` made and no save has given an id yet. -/
structure StockDraft where
  tenantId : String
  variantId : Uuid
  warehouseId : Uuid
  availableQuantity : ℤ
  reservedQuantity : ℤ
  safetyThreshold : ℤ

def StockDraft.row (draft : StockDraft) (tenantId id : Uuid) (now : Timestamp) : StockLevel where
  id
  tenantId
  variantId := draft.variantId
  warehouseId := draft.warehouseId
  availableQuantity := draft.availableQuantity
  reservedQuantity := draft.reservedQuantity
  safetyThreshold := draft.safetyThreshold
  version := 1
  createdAt := now
  updatedAt := now

inductive StockEntity
  | created (draft : StockDraft)
  | loaded (row : StockLevel)

namespace StockEntity

def availableQuantity : StockEntity → ℤ
  | created draft => draft.availableQuantity
  | loaded row => row.availableQuantity

def reservedQuantity : StockEntity → ℤ
  | created draft => draft.reservedQuantity
  | loaded row => row.reservedQuantity

def snapshot (stock : StockEntity) : StockMovementSnapshot :=
  ⟨stock.availableQuantity, stock.reservedQuantity⟩

/-- Assigns the two quantities of the object in memory. -/
def setQuantities (stock : StockEntity) (available reserved : ℤ) : StockEntity :=
  match stock with
  | created draft =>
      created { draft with availableQuantity := available, reservedQuantity := reserved }
  | loaded row => loaded { row with availableQuantity := available, reservedQuantity := reserved }

end StockEntity

/-- Whether the foreign keys of the row name stored rows, soft-deleted or not. -/
def referencesExist (db : Database) (row : StockLevel) : Bool :=
  (db.tenants.rows.any (·.id == row.tenantId)) &&
    (db.variants.rows.any (·.id == row.variantId)) &&
    db.warehouses.rows.any (·.id == row.warehouseId)

def insertAct (tx : ℕ) (build : Uuid → Timestamp → StockLevel) (w : World) :
    Except Err StockLevel × World :=
  let row := build (w.ids 0) w.clock
  if !(inIntRange row.availableQuantity && inIntRange row.reservedQuantity) then
    (.error .outOfRange, w)
  else if w.db.stockLevels.rows.any (conflict row) then (.error .uniqueViolation, w)
  else if !referencesExist w.db row then (.error .foreignKeyViolation, w)
  else (.ok row, { w.write tx (.insert row) with ids := fun n => w.ids (n + 1) })

def insertStock (tx : ℕ) (variantId warehouseId : Uuid)
    (build : Uuid → Timestamp → StockLevel) : Svc StockLevel :=
  ExceptT.mk <| Prog.atom
    { label := .insertStock variantId warehouseId
      ready := fun w => !w.claimedFor tx (build (w.ids 0) w.clock)
      act := insertAct tx build } Prog.ret

def reloadStock (row : StockLevel) : Svc (Option StockLevel) :=
  perform (.reloadStock row.id row.version) fun w =>
    (.ok (w.db.stockLevels.find? (·.id == row.id)), w)

def updateAct (tx : ℕ) (row : StockLevel) (available reserved : Option ℤ) (w : World) :
    Except Err StockLevel × World :=
  if !((available.all inIntRange) && reserved.all inIntRange) then (.error .outOfRange, w)
  else
    let stored := w.db.stockLevels.find? (·.id == row.id)
    (.ok { row with version := (stored.getD row).version + 1, updatedAt := w.clock },
      w.write tx (.update row.id ⟨available, reserved, w.clock⟩))

/-- UPDATE of the given columns by primary key. -/
def updateStock (tx : ℕ) (row : StockLevel) (available reserved : Option ℤ) : Svc StockLevel :=
  ExceptT.mk <| Prog.atom
    { label := .updateStock row.id row.version
      ready := fun w => !w.lockedFor tx row.id
      act := updateAct tx row available reserved } Prog.ret

/-- The columns whose value in memory differs from the stored one. -/
def changed (value stored : ℤ) : Option ℤ := if value = stored then none else some value

/-- `manager.save`: an object without id is inserted; a loaded one is compared with
the row as it is now, and the columns that differ are written. -/
def saveStock (tx : ℕ) : StockEntity → Svc StockLevel
  | .created draft =>
      match uuidParam draft.tenantId with
      | .ok tenantId => insertStock tx draft.variantId draft.warehouseId (draft.row tenantId)
      | .error err => throw err
  | .loaded row => do
      match ← reloadStock row with
      | none => insertStock tx row.variantId row.warehouseId fun _ _ => row
      | some stored =>
          let available := changed row.availableQuantity stored.availableQuantity
          let reserved := changed row.reservedQuantity stored.reservedQuantity
          if available.isNone && reserved.isNone then pure row
          else updateStock tx row available reserved

end Tenantory
