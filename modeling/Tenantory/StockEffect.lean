import Tenantory.InventoryService

/-! What a stock operation is for: a guarded change of two counters, the units
that can be sold and the units set aside. `Applied` says that a database
differs from another by one such change of the row under one key and by nothing
else; the writes that the transactions leave pending are of this kind. -/

namespace Tenantory

namespace StockOp

def available : StockOp → ℤ → ℤ
  | deduct, q => -q
  | reserve, q => -q
  | release, q => q
  | replenish, q => q

def reserved : StockOp → ℤ → ℤ
  | deduct, _ => 0
  | reserve, q => q
  | release, q => -q
  | replenish, _ => 0

def admits (op : StockOp) (q : ℤ) (s : StockMovementSnapshot) : Bool :=
  match op with
  | deduct => q ≤ s.availableQuantity
  | reserve => q ≤ s.availableQuantity
  | release => q ≤ s.reservedQuantity
  | replenish => true

@[simp] theorem admits_deduct {q : ℤ} {s : StockMovementSnapshot} :
    deduct.admits q s = true ↔ q ≤ s.availableQuantity := decide_eq_true_iff

@[simp] theorem admits_reserve {q : ℤ} {s : StockMovementSnapshot} :
    reserve.admits q s = true ↔ q ≤ s.availableQuantity := decide_eq_true_iff

@[simp] theorem admits_release {q : ℤ} {s : StockMovementSnapshot} :
    release.admits q s = true ↔ q ≤ s.reservedQuantity := decide_eq_true_iff

@[simp] theorem admits_replenish {q : ℤ} {s : StockMovementSnapshot} :
    replenish.admits q s = true := rfl

def shift (op : StockOp) (q : ℤ) (s : StockMovementSnapshot) : StockMovementSnapshot :=
  ⟨s.availableQuantity + op.available q, s.reservedQuantity + op.reserved q⟩

def apply (op : StockOp) (q : ℤ) (s : StockMovementSnapshot) : Option StockMovementSnapshot :=
  if op.admits q s then some (op.shift q s) else none

end StockOp

/-- Which row an operation names. -/
structure StockKey where
  tenantId : Uuid
  variantId : Uuid
  warehouseId : Uuid
  deriving DecidableEq

def StockLevel.key (row : StockLevel) : StockKey :=
  ⟨row.tenantId, row.variantId, row.warehouseId⟩

def StockLevel.snapshot (row : StockLevel) : StockMovementSnapshot :=
  ⟨row.availableQuantity, row.reservedQuantity⟩

namespace Database

def stockAt (db : Database) (key : StockKey) : Option StockLevel :=
  db.stockLevels.find? (·.key == key)

/-- The counters under a key; no row counts as no units. -/
def quantitiesAt (db : Database) (key : StockKey) : StockMovementSnapshot :=
  ((db.stockAt key).map StockLevel.snapshot).getD ⟨0, 0⟩

end Database

/-! ## Rows under a key -/

theorem conflict_of_key {r s : StockLevel} (h : r.key = s.key) : conflict r s = true := by
  have parts : r.tenantId = s.tenantId ∧ r.variantId = s.variantId ∧
      r.warehouseId = s.warehouseId := by simpa [StockLevel.key] using h
  simp [conflict, parts.2.1, parts.2.2]

theorem conflict_of_id {r s : StockLevel} (h : r.id = s.id) : conflict r s = true :=
  Entity.same_id r s h

theorem stockAt_eq_some {db : Database} {key : StockKey} {row : StockLevel} :
    db.stockAt key = some row ↔ row ∈ db.stockLevels ∧ row.key = key := by
  constructor
  · intro h
    exact ⟨Table.mem_of_find? h, by simpa using Table.holds_of_find? h⟩
  · rintro ⟨mem, rfl⟩
    refine Table.find?_of_mem mem (by simp) fun s _ hs => ?_
    exact conflict_of_key (by simpa using hs : s.key = row.key).symm

theorem stockAt_eq_none {db : Database} {key : StockKey} :
    db.stockAt key = none ↔ ∀ row ∈ db.stockLevels, row.key ≠ key := by
  simp [Database.stockAt, Table.find?_eq_none]

theorem find?_id {t : Table StockLevel} {row : StockLevel} (mem : row ∈ t) :
    t.find? (·.id == row.id) = some row := by
  refine Table.find?_of_mem mem (by simp) fun s _ hs => ?_
  exact conflict_of_id (by simpa using hs : s.id = row.id).symm

/-! ## The operations of the service

`Names` reads the three ids of a call; `Performs` says which counter change a
movement of the service makes and under which guard. -/

open InventoryService

structure Names (tenantId variantId warehouseId : String) (key : StockKey) : Prop where
  tenant : UuidText.uuidIn tenantId = some key.tenantId
  variant : UuidText.uuidIn variantId = some key.variantId
  warehouse : UuidText.uuidIn warehouseId = some key.warehouseId

theorem Names.unique {t v h : String} {key key' : StockKey} (n : Names t v h key)
    (n' : Names t v h key') : key = key' := by
  obtain ⟨a, b, c⟩ := key
  obtain ⟨a', b', c'⟩ := key'
  have tenant : a = a' := Option.some.inj (n.tenant.symm.trans n'.tenant)
  have variant : b = b' := Option.some.inj (n.variant.symm.trans n'.variant)
  have warehouse : c = c' := Option.some.inj (n.warehouse.symm.trans n'.warehouse)
  rw [tenant, variant, warehouse]

/-- The row that an operation finds: the one under its key, as long as the variant
and the warehouse are live. -/
def Database.visibleStock (db : Database) (key : StockKey) : Option StockLevel :=
  if db.liveVariant key.variantId && db.liveWarehouse key.warehouseId then db.stockAt key else none

theorem visibleStock_eq_some {db : Database} {key : StockKey} {row : StockLevel} :
    db.visibleStock key = some row ↔ db.stockAt key = some row ∧
      db.liveVariant key.variantId = true ∧ db.liveWarehouse key.warehouseId = true := by
  unfold Database.visibleStock
  split <;> simp_all

theorem stockRead_of_names {t v h : String} {key : StockKey} (n : Names t v h key) (w : World) :
    stockRead t v h w = .ok (w.db.visibleStock key) := by
  have same : (fun s : StockLevel => s.tenantId == key.tenantId && s.variantId == key.variantId &&
      s.warehouseId == key.warehouseId && w.db.liveVariant key.variantId &&
        w.db.liveWarehouse key.warehouseId) = fun s => (s.key == key) &&
          (w.db.liveVariant key.variantId && w.db.liveWarehouse key.warehouseId) := by
    funext s
    obtain ⟨t, v, h⟩ := key
    simp [StockLevel.key, Bool.beq_eq_decide_eq, Bool.and_assoc]
  have read : stockRead t v h w = .ok (w.db.stockLevels.find? fun s =>
      s.tenantId == key.tenantId && s.variantId == key.variantId &&
        s.warehouseId == key.warehouseId && w.db.liveVariant key.variantId &&
          w.db.liveWarehouse key.warehouseId) := by
    simp only [stockRead, uuidParam, n.tenant, n.variant, n.warehouse]
    rfl
  rw [read, same]
  unfold Database.visibleStock
  split
  · rename_i live
    simp [live, Database.stockAt]
  · rename_i dead
    simp [dead, Table.find?]

theorem names_of_stockRead {t v h : String} {w : World} {found : Option StockLevel}
    (read : stockRead t v h w = .ok found) : ∃ key, Names t v h key := by
  simp only [stockRead, uuidParam] at read
  cases ht : UuidText.uuidIn t with
  | none => simp [ht, bind, Except.bind] at read
  | some tenant =>
      cases hv : UuidText.uuidIn v with
      | none => simp [ht, hv, bind, Except.bind] at read
      | some variant =>
          cases hh : UuidText.uuidIn h with
          | none => simp [ht, hv, hh, bind, Except.bind] at read
          | some warehouse => exact ⟨⟨tenant, variant, warehouse⟩, ht, hv, hh⟩

/-- The variant and the warehouse of a key are live and belong to its tenant, as
`deductStock` and `replenish` check. -/
structure Database.Sells (db : Database) (key : StockKey) : Prop where
  variant : (VariantService.readById db key.tenantId key.variantId).isSome
  warehouse : (WarehouseService.readById db key.tenantId key.warehouseId).isSome

def StockOp.validates : StockOp → Bool
  | deduct | replenish => true
  | reserve | release => false

structure InventoryService.Movement.Performs (m : Movement) (op : StockOp) (q : ℤ) : Prop where
  available : m.available = op.available q
  reserved : m.reserved = op.reserved q
  refused : ∀ stock, m.refused stock = none ↔ op.admits q stock.snapshot = true
  draft : ∀ draft, m.absent = .ok draft →
    (∀ key, Names m.tenantId m.variantId m.warehouseId key → ∀ id now,
      (draft.row key.tenantId id now).key = key) ∧ draft.tenantId = m.tenantId ∧
        draft.availableQuantity = 0 ∧ draft.reservedQuantity = 0

theorem deduction_performs (tenantId : String) (dto : StockDto) (variant : ProductVariant)
    (warehouse : Warehouse) :
    (deduction tenantId dto variant warehouse).Performs .deduct dto.quantity where
  available := rfl
  reserved := rfl
  refused stock := by simp [deduction, StockEntity.snapshot]
  draft _ h := by cases h

theorem replenishment_performs (tenantId : String) (dto : StockDto) (variant : ProductVariant)
    (warehouse : Warehouse) :
    (replenishment tenantId dto variant warehouse).Performs .replenish dto.quantity where
  available := rfl
  reserved := rfl
  refused stock := by simp [replenishment]
  draft _ h := by
    cases h
    refine ⟨fun key n id now => ?_, rfl, rfl, rfl⟩
    have v := n.variant
    have h := n.warehouse
    simp only [replenishment, UuidText.uuidIn_uuidOut, Option.some.injEq] at v h
    simp [StockDraft.row, newStock, StockLevel.key, v, h]

theorem reservation_performs (tenantId : String) (dto : StockDto) :
    (reservation tenantId dto).Performs .reserve dto.quantity where
  available := rfl
  reserved := rfl
  refused stock := by simp [reservation, StockEntity.snapshot]
  draft _ h := by cases h

theorem release_performs (tenantId : String) (dto : StockDto) :
    (release tenantId dto).Performs .release dto.quantity where
  available := rfl
  reserved := rfl
  refused stock := by simp [release, StockEntity.snapshot]
  draft _ h := by cases h

/-! ## One change -/

/-- `db'` is `db` after one application of the operation to the row under `key`. -/
structure Applied (op : StockOp) (q : ℤ) (key : StockKey) (before after : StockMovementSnapshot)
    (db db' : Database) : Prop where
  reads : before = db.quantitiesAt key
  leaves : after = db'.quantitiesAt key
  step : op.apply q before = some after
  stored : (db'.stockAt key).isSome
  others : db'.stockLevels.rows.filter (·.key != key) = db.stockLevels.rows.filter (·.key != key)
  rest : db' = { db with stockLevels := db'.stockLevels }

theorem quantitiesAt_of_stockAt {db : Database} {key : StockKey} {row : StockLevel}
    (h : db.stockAt key = some row) : db.quantitiesAt key = row.snapshot := by
  simp [Database.quantitiesAt, h]

theorem quantitiesAt_of_none {db : Database} {key : StockKey} (h : db.stockAt key = none) :
    db.quantitiesAt key = ⟨0, 0⟩ := by
  simp [Database.quantitiesAt, h]

/-- The stock table with one write of a transaction in it. -/
def Database.withWrite (db : Database) (change : StockWrite) : Database :=
  { db with stockLevels := change.apply db.stockLevels }

@[simp] theorem key_apply (patch : StockPatch) (row : StockLevel) :
    (patch.apply row).key = row.key := rfl

theorem stockAt_update {db : Database} {key : StockKey} {row : StockLevel} (patch : StockPatch)
    (h : db.stockAt key = some row) :
    (db.withWrite (.update row.id patch)).stockAt key = some (patch.apply row) := by
  obtain ⟨mem, rfl⟩ := stockAt_eq_some.mp h
  refine stockAt_eq_some.mpr ⟨?_, key_apply patch row⟩
  exact List.mem_map.mpr ⟨row, mem, if_pos (by simp)⟩

theorem others_update {db : Database} {key : StockKey} {row : StockLevel} (patch : StockPatch)
    (h : db.stockAt key = some row) :
    (db.withWrite (.update row.id patch)).stockLevels.rows.filter (·.key != key) =
      db.stockLevels.rows.filter (·.key != key) := by
  obtain ⟨mem, rfl⟩ := stockAt_eq_some.mp h
  have keyed : ((fun s : StockLevel => s.key != row.key) ∘
      fun s => if s.id == row.id then patch.apply s else s) = fun s => s.key != row.key := by
    funext s
    by_cases hs : s.id = row.id <;> simp [hs]
  show (db.stockLevels.rows.map _).filter _ = _
  rw [List.filter_map, keyed]
  refine (List.map_congr_left fun s hs => ?_).trans (List.map_id _)
  obtain ⟨stored, other⟩ := List.mem_filter.mp hs
  have apart : ¬ s.id = row.id := fun same => by
    rw [Table.eq_of_conflict stored mem (conflict_of_id same)] at other
    simp at other
  simp [apart]

theorem applied_update {op : StockOp} {q : ℤ} {db : Database} {key : StockKey} {row : StockLevel}
    {patch : StockPatch} (h : db.stockAt key = some row)
    (admitted : op.admits q row.snapshot = true)
    (values : (patch.apply row).snapshot = op.shift q row.snapshot) :
    Applied op q key row.snapshot (op.shift q row.snapshot) db
      (db.withWrite (.update row.id patch)) where
  reads := (quantitiesAt_of_stockAt h).symm
  leaves := by rw [quantitiesAt_of_stockAt (stockAt_update patch h), values]
  step := by simp [StockOp.apply, admitted]
  stored := by simp [stockAt_update patch h]
  others := others_update patch h
  rest := rfl

theorem applied_unwritten {op : StockOp} {q : ℤ} {db : Database} {key : StockKey}
    {row : StockLevel}
    (h : db.stockAt key = some row) (admitted : op.admits q row.snapshot = true)
    (values : row.snapshot = op.shift q row.snapshot) :
    Applied op q key row.snapshot (op.shift q row.snapshot) db db where
  reads := (quantitiesAt_of_stockAt h).symm
  leaves := by rw [quantitiesAt_of_stockAt h, ← values]
  step := by simp [StockOp.apply, admitted]
  stored := by simp [h]
  others := rfl
  rest := rfl

theorem rows_insert {t : Table StockLevel} {row : StockLevel}
    (free : ∀ s ∈ t, conflict row s = false) :
    ((StockWrite.insert row).apply t).rows = t.rows ++ [row] := by
  obtain ⟨u, inserted, rows⟩ := Table.insert?_of_free free
  simp [StockWrite.apply, inserted, rows]

theorem stockAt_insert {db : Database} {row : StockLevel}
    (free : ∀ s ∈ db.stockLevels, conflict row s = false) :
    (db.withWrite (.insert row)).stockAt row.key = some row := by
  refine stockAt_eq_some.mpr ⟨?_, rfl⟩
  show row ∈ ((StockWrite.insert row).apply db.stockLevels).rows
  simp [rows_insert free]

theorem applied_insert {op : StockOp} {q : ℤ} {db : Database} {row : StockLevel}
    (free : ∀ s ∈ db.stockLevels, conflict row s = false)
    (admitted : op.admits q ⟨0, 0⟩ = true)
    (values : row.snapshot = op.shift q ⟨0, 0⟩) :
    Applied op q row.key ⟨0, 0⟩ (op.shift q ⟨0, 0⟩) db (db.withWrite (.insert row)) where
  reads := by
    refine (quantitiesAt_of_none (stockAt_eq_none.mpr fun s mem same => ?_)).symm
    have apart := free s mem
    rw [conflict_of_key same.symm] at apart
    cases apart
  leaves := by rw [quantitiesAt_of_stockAt (stockAt_insert free), values]
  step := by simp [StockOp.apply, admitted]
  stored := by simp [stockAt_insert free]
  others := by
    show ((StockWrite.insert row).apply db.stockLevels).rows.filter _ = _
    simp [rows_insert free]
  rest := rfl

theorem Applied.stockAt_other {op : StockOp} {q : ℤ} {key key' : StockKey}
    {before after : StockMovementSnapshot} {db db' : Database}
    (h : Applied op q key before after db db') (other : key' ≠ key) :
    db'.stockAt key' = db.stockAt key' := by
  have narrowed : ∀ rows : List StockLevel,
      (rows.filter (·.key != key)).find? (·.key == key') = rows.find? (·.key == key') := by
    intro rows
    rw [List.find?_filter]
    congr 1
    funext row
    by_cases same : row.key = key'
    · simp [same, other]
    · simp [same]
  show db'.stockLevels.rows.find? _ = db.stockLevels.rows.find? _
  rw [← narrowed db'.stockLevels.rows, h.others, narrowed]

end Tenantory
