import Tenantory.StockInterleaving
import Mathlib.Algebra.Order.BigOperators.Group.Finset
import Mathlib.Algebra.Order.BigOperators.Group.List

/-! Concurrent replenishments of an item that has no stock row yet. The lookup
and the INSERT are separate statements, so two calls may both find nothing; the
later INSERT is then refused by the unique constraint, and the predicate of the
retry does not accept that error. In the interleavings in which every INSERT
still finds the item without a row, all calls resolve and leave one row. -/

namespace Tenantory

open InventoryService

variable {ι : Type}

/-- A stock row for the variant and the warehouse of the key, of any tenant. -/
def StockKey.Occupied (key : StockKey) (s : StockLevel) : Prop :=
  s.variantId = key.variantId ∧ s.warehouseId = key.warehouseId

/-- Nothing is in the way of an INSERT under the key. -/
structure Vacant (key : StockKey) (w : World) : Prop where
  free : ∀ s ∈ w.db.stockLevels, ¬ key.Occupied s
  fresh : ∀ n, ∀ s ∈ w.db.stockLevels, s.id ≠ w.ids n

def FirstInsert (q : ι → ℤ) (key : StockKey) (t : Table StockLevel) (i : ι)
    (change : StockWrite) : Prop :=
  ∃ row, change = .insert row ∧ row.key = key ∧ row.snapshot = ⟨q i, 0⟩ ∧
    ∀ s ∈ t, conflict row s = false

/-- Counters that replenishments of `bound` units in total can have left. -/
structure Within (bound : ℤ) (s : StockMovementSnapshot) : Prop where
  available_nonneg : 0 ≤ s.availableQuantity
  available_le : s.availableQuantity ≤ bound
  reserved : s.reservedQuantity = 0

/-- An UPDATE that keeps the row within what its call adds to the bound. -/
def Restock (q : ι → ℤ) (row : StockLevel) (bound : ℤ) (i : ι) (change : StockWrite) :
    Prop :=
  ∃ patch, change = .update row.id patch ∧ Within (bound + q i) (patch.apply row).snapshot

/-- The row is there; every call that has read it has seen it within the bound. -/
structure Held (q : ι → ℤ) (key : StockKey) (bound : ℤ) (w : World) (γ : ι → Phase)
    (row : StockLevel) : Prop where
  stored : w.db.stockAt key = some row
  within : Within bound row.snapshot
  reads : ∀ i tx r, γ i = .read tx r → r.id = row.id ∧ Within bound r.snapshot
  oneWriter : OneWriter (Restock q row bound) γ w.pending

/-- No call has committed yet and none has seen a row. -/
structure Missing (q : ι → ℤ) (key : StockKey) (w : World) (γ : ι → Phase)
    (order : List ι) :
    Prop where
  vacant : Vacant key w
  none : order = []
  unread : ∀ i tx r, γ i ≠ .read tx r
  oneWriter : OneWriter (FirstInsert q key w.db.stockLevels) γ w.pending

structure FirstStock (q : ι → ℤ) (key : StockKey) (catalog : Database) (w : World)
    (γ : ι → Phase) (order : List ι) : Prop where
  catalog : w.db = { catalog with stockLevels := w.db.stockLevels }
  numbered : Numbered w.nextTx γ
  listed : Listed γ order
  stock : Missing q key w γ order ∨ ∃ row, Held q key (order.map q).sum w γ row

variable [DecidableEq ι] {q : ι → ℤ} {key : StockKey} {catalog : Database} {w w' : World}
  {γ : ι → Phase} {order : List ι} {i : ι} {tx : ℕ} {row : StockLevel} {bound : ℤ}

theorem Within.mono {bound' : ℤ} {s : StockMovementSnapshot} (h : Within bound s)
    (le : bound ≤ bound') : Within bound' s :=
  ⟨h.available_nonneg, h.available_le.trans le, h.reserved⟩

theorem Within.add {s : StockMovementSnapshot} {n : ℤ} (h : Within bound s) (nonneg : 0 ≤ n) :
    Within (bound + n) (StockOp.replenish.shift n s) where
  available_nonneg := add_nonneg h.available_nonneg nonneg
  available_le := by
    have le := h.available_le
    simp only [StockOp.shift, StockOp.available]
    omega
  reserved := by simp [StockOp.shift, StockOp.reserved, h.reserved]

/-- The patch of a save within the bound, on a row within the bound. -/
theorem Within.patched {r : StockLevel} {n : ℤ} (h : Within bound row.snapshot)
    (seen : Within bound r.snapshot) (nonneg : 0 ≤ n) (stored : ℤ) (now : Timestamp) :
    Within (bound + n) ((⟨changed (r.availableQuantity + n) stored, none, now⟩ :
      StockPatch).apply row).snapshot := by
  unfold changed
  split
  · exact h.mono (by omega)
  · exact { (seen.add nonneg) with reserved := h.reserved }

theorem Held.update {g : Phase} (h : Held q key bound w γ row)
    (unwritten : ∀ tx, γ i ≠ .wrote tx)
    (unwritten' : ∀ tx, g ≠ .wrote tx)
    (reads : ∀ tx r, g = .read tx r → r.id = row.id ∧ Within bound r.snapshot) :
    Held q key bound w (Function.update γ i g) row where
  stored := h.stored
  within := h.within
  reads j tx r read_j := by
    rcases update_cases read_j with ⟨-, read⟩ | ⟨-, read⟩
    · exact reads tx r read
    · exact h.reads j tx r read
  oneWriter := h.oneWriter.update unwritten unwritten' fun _ _ ok => ok

theorem Missing.update {g : Phase} (h : Missing q key w γ order)
    (unwritten : ∀ tx, γ i ≠ .wrote tx)
    (unwritten' : ∀ tx, g ≠ .wrote tx) (unread : ∀ tx r, g ≠ .read tx r) :
    Missing q key w (Function.update γ i g) order where
  vacant := h.vacant
  none := h.none
  unread j tx r read_j := by
    rcases update_cases read_j with ⟨-, read⟩ | ⟨-, read⟩
    · exact unread tx r read
    · exact h.unread j tx r read
  oneWriter := h.oneWriter.update unwritten unwritten' fun _ _ ok => ok

omit [DecidableEq ι] in
theorem Held.mono {b : ℤ} (h : Held q key bound w γ row) (le : bound ≤ b) :
    Held q key b w γ row where
  stored := h.stored
  within := h.within.mono le
  reads i tx r read := ⟨(h.reads i tx r read).1, (h.reads i tx r read).2.mono le⟩
  oneWriter := by
    rcases h.oneWriter with quiet | ⟨k, tx, change, one, wrote, only, patch, same, within⟩
    · exact .inl quiet
    · exact .inr ⟨k, tx, change, one, wrote, only, patch, same, within.mono (by omega)⟩

namespace FirstStock

theorem start (h : FirstStock q key catalog w γ order) (idle : γ i = .idle) :
    FirstStock q key catalog { w with nextTx := w.nextTx + 1 }
      (Function.update γ i (.started w.nextTx)) order where
  catalog := h.catalog
  numbered := h.numbered.start
  listed := h.listed.update (by simp [idle]) (by simp)
  stock := by
    rcases h.stock with missing | ⟨row, held⟩
    · have kept := missing.update (i := i) (g := .started w.nextTx) (by simp [idle]) (by simp)
        (by simp)
      exact .inl ⟨⟨kept.vacant.free, kept.vacant.fresh⟩, kept.none, kept.unread,
        kept.oneWriter⟩
    · have kept := held.update (i := i) (g := .started w.nextTx) (by simp [idle]) (by simp)
        (by simp)
      exact .inr ⟨row, kept.stored, kept.within, kept.reads, kept.oneWriter⟩

theorem read (h : FirstStock q key catalog w γ order) (started : γ i = .started tx)
    (stored : w.db.stockAt key = some row) :
    FirstStock q key catalog w (Function.update γ i (.read tx row)) order where
  catalog := h.catalog
  numbered := h.numbered.keep fun tx' same => by simpa [started, Phase.tx?] using same
  listed := h.listed.update (by simp [started]) (by simp)
  stock := by
    rcases h.stock with missing | ⟨row', held⟩
    · obtain ⟨mem, keyed⟩ := stockAt_eq_some.mp stored
      have occupied : key.Occupied row := by
        rw [← keyed]
        exact ⟨rfl, rfl⟩
      exact absurd occupied (missing.vacant.free row mem)
    · obtain rfl : row' = row := Option.some.inj (held.stored.symm.trans stored)
      refine .inr ⟨row', held.update (by simp [started]) (by simp) fun tx' r same => ?_⟩
      cases same
      exact ⟨rfl, held.within⟩

/-- The row of an INSERT that passed the constraints waits for the commit. -/
theorem insert {w' : World} (h : FirstStock q key catalog w γ order)
    (missing : Missing q key w γ order)
    (started : γ i = .started tx) (right : FirstInsert q key w.db.stockLevels i (.insert row))
    (unclaimed : w.claimedFor tx row = false) (db : w'.db = w.db) (nextTx : w'.nextTx = w.nextTx)
    (pending : w'.pending = w.pending ++ [(tx, .insert row)])
    (ids : ∀ n, ∃ m, w'.ids n = w.ids m) :
    FirstStock q key catalog w' (Function.update γ i (.wrote tx)) order where
  catalog := by
    rw [db]
    exact h.catalog
  numbered := by
    rw [nextTx]
    exact h.numbered.keep fun tx' same => by simpa [started, Phase.tx?] using same
  listed := h.listed.update (by simp [started]) (by simp)
  stock := by
    refine .inl ⟨⟨?_, fun n s mem => ?_⟩, missing.none, fun j tx' r read_j => ?_, ?_⟩
    · rw [db]
      exact missing.vacant.free
    · obtain ⟨m, same⟩ := ids n
      rw [same]
      exact missing.vacant.fresh m s (db ▸ mem)
    · rcases update_cases read_j with ⟨-, impossible⟩ | ⟨-, read⟩
      · cases impossible
      · exact missing.unread j tx' r read
    · rw [pending, db]
      refine missing.oneWriter.write ?_ (by simp [started]) right
      rintro k tx' _ hk wrote_k ⟨row', rfl, keyed', -⟩ one
      obtain ⟨row'', same, keyed, -⟩ := right
      obtain rfl : row = row'' := StockWrite.insert.inj same
      have other : tx' ≠ tx := by
        rintro rfl
        exact hk (h.numbered.distinct k i tx' (by simp [wrote_k, Phase.tx?])
          (by simp [started, Phase.tx?]))
      have clash : conflict row row' = true := conflict_of_key (keyed.trans keyed'.symm)
      simp [World.claimedFor, one, StockWrite.claims, other, clash] at unclaimed

theorem write {r : StockLevel} {patch : StockPatch} (h : FirstStock q key catalog w γ order)
    (held : Held q key (order.map q).sum w γ row) (read : γ i = .read tx r)
    (unlocked : w.lockedFor tx r.id = false)
    (within : Within ((order.map q).sum + q i) (patch.apply row).snapshot) :
    FirstStock q key catalog (w.write tx (.update r.id patch))
      (Function.update γ i (.wrote tx)) order where
  catalog := h.catalog
  numbered := h.numbered.keep fun tx' same => by simpa [read, Phase.tx?] using same
  listed := h.listed.update (by simp [read]) (by simp)
  stock := by
    have same := (held.reads i tx r read).1
    refine .inr ⟨row, held.stored, held.within, fun j tx' r' read_j => ?_, ?_⟩
    · rcases update_cases read_j with ⟨-, impossible⟩ | ⟨-, read'⟩
      · cases impossible
      · exact held.reads j tx' r' read'
    · refine held.oneWriter.write ?_ (by simp [read]) ⟨patch, by rw [same], within⟩
      rintro k tx' _ hk wrote_k ⟨patch', rfl, -⟩ one
      have other : tx' ≠ tx := by
        rintro rfl
        exact hk (h.numbered.distinct k i tx' (by simp [wrote_k, Phase.tx?])
          (by simp [read, Phase.tx?]))
      simp [World.lockedFor, one, StockWrite.locks, other, same] at unlocked

omit [DecidableEq ι] in
theorem sum_append (order : List ι) (i : ι) :
    ((order ++ [i]).map q).sum = (order.map q).sum + q i := by
  simp

/-- The commit of an INSERT makes the row, the commit of an UPDATE keeps it. -/
theorem commit (h : FirstStock q key catalog w γ order) (positive : ∀ i, 1 ≤ q i)
    (wrote : γ i = .wrote tx) :
    FirstStock q key catalog (w.commit tx) (Function.update γ i .committed) (order ++ [i]) where
  catalog := by
    rw [World.commit, h.catalog]
  numbered := h.numbered.keep fun tx' impossible => by simp [Phase.tx?] at impossible
  listed := h.listed.commit (by simp [wrote])
  stock := by
    right
    rcases h.stock with missing | ⟨row, held⟩
    · obtain ⟨_, one, only, row, rfl, keyed, values, free⟩ := missing.oneWriter.staged wrote
      have db : (w.commit tx).db = w.db.withWrite (.insert row) := by
        simp [World.commit, one, Database.withWrite]
      have settled : (w.commit tx).pending = [] := by simp [World.commit, one]
      refine ⟨row, ?_, ?_, fun j tx' r read_j => ?_, ?_⟩
      · rw [db, ← keyed]
        exact stockAt_insert free
      · have pos : 0 ≤ q i := zero_le_one.trans (positive i)
        rw [values, sum_append, missing.none]
        exact ⟨pos, by simp, rfl⟩
      · rcases update_cases read_j with ⟨-, impossible⟩ | ⟨-, read⟩
        · cases impossible
        · exact absurd read (missing.unread j tx' r)
      · rw [settled]
        exact OneWriter.done only (by simp)
    · obtain ⟨_, one, only, patch, rfl, within⟩ := held.oneWriter.staged wrote
      have db : (w.commit tx).db = w.db.withWrite (.update row.id patch) := by
        simp [World.commit, one, Database.withWrite]
      have settled : (w.commit tx).pending = [] := by simp [World.commit, one]
      have pos := positive i
      refine ⟨patch.apply row, ?_, ?_, fun j tx' r read_j => ?_, ?_⟩
      · rw [db]
        exact stockAt_update patch held.stored
      · rw [sum_append]
        exact within
      · rcases update_cases read_j with ⟨-, impossible⟩ | ⟨-, read⟩
        · cases impossible
        · obtain ⟨same, seen⟩ := held.reads j tx' r read
          rw [sum_append]
          exact ⟨same, seen.mono (by omega)⟩
      · rw [settled]
        exact OneWriter.done only (by simp)

/-- A transaction whose save had nothing to change commits nothing. -/
theorem commit_unwritten {r : StockLevel} (h : FirstStock q key catalog w γ order)
    (positive : ∀ i, 1 ≤ q i) (read : γ i = .read tx r) :
    FirstStock q key catalog (w.commit tx) (Function.update γ i .committed) (order ++ [i]) where
  catalog := by
    rw [World.commit, h.catalog]
  numbered := h.numbered.keep fun tx' impossible => by simp [Phase.tx?] at impossible
  listed := h.listed.commit (by simp [read])
  stock := by
    right
    rcases h.stock with missing | ⟨row, held⟩
    · exact absurd read (missing.unread i tx r)
    · have others : ∀ p ∈ w.pending, p.1 ≠ tx := fun p hp =>
        held.oneWriter.none_of_unwritten (i := i) h.numbered (by simp [read, Phase.tx?])
          (by simp [read]) hp
      have none : w.pending.filter (·.1 == tx) = [] :=
        List.filter_eq_nil_iff.mpr fun p hp => by simpa using others p hp
      have kept : w.pending.filter (·.1 != tx) = w.pending :=
        List.filter_eq_self.mpr fun p hp => by simpa using others p hp
      have pos := positive i
      have more := (held.mono (b := ((order ++ [i]).map q).sum)
        (by rw [sum_append]; omega)).update (i := i) (g := .committed) (by simp [read]) (by simp)
          (by simp)
      refine ⟨row, ?_, more.within, more.reads, ?_⟩
      · simp only [World.commit, none]
        exact held.stored
      · simp only [World.commit, kept]
        exact more.oneWriter

omit [DecidableEq ι] in
/-- The journal and the clock are not part of the invariant. -/
theorem congr (h : FirstStock q key catalog w γ order) (db : w'.db = w.db)
    (pending : w'.pending = w.pending) (nextTx : w'.nextTx = w.nextTx) (ids : w'.ids = w.ids) :
    FirstStock q key catalog w' γ order where
  catalog := by
    rw [db]
    exact h.catalog
  numbered := by
    rw [nextTx]
    exact h.numbered
  listed := h.listed
  stock := by
    rcases h.stock with ⟨⟨free, fresh⟩, none, unread, oneWriter⟩ | ⟨row, held⟩
    · left
      rw [← db] at free fresh oneWriter
      rw [← pending] at oneWriter
      rw [← ids] at fresh
      exact ⟨⟨free, fresh⟩, none, unread, oneWriter⟩
    · right
      refine ⟨row, ?_, held.within, held.reads, ?_⟩
      · rw [db]
        exact held.stored
      · rw [pending]
        exact held.oneWriter

end FirstStock

/-! ## The calls keep the invariant -/

/-- An INSERT still finds the item without a row. -/
def insertsFirst (w : World) (_ : ι) : Label → Bool
  | .insertStock variantId warehouseId => w.db.stockLevels.rows.all fun s =>
      !(s.variantId == variantId && s.warehouseId == warehouseId)
  | _ => true

def InsertsFirst (w : World) (i : ι) (label : Label) : Prop := insertsFirst w i label = true

omit [DecidableEq ι] in
theorem free_of_insertsFirst (h : InsertsFirst w i (.insertStock key.variantId key.warehouseId)) :
    ∀ s ∈ w.db.stockLevels, ¬ key.Occupied s := by
  intro s mem occupied
  have apart := List.all_eq_true.mp h s mem
  simp [occupied.1, occupied.2] at apart

/-- Concurrent replenishments of the item that `key` names. -/
def firstProtocol (q : ι → ℤ) (key : StockKey) (catalog : Database) :
    Protocol World Err Label ι Phase where
  inv w γ := ∃ order, FirstStock q key catalog w γ order
  fault := noFault
  cond := InsertsFirst
  holds g := ∃ tx, g = .wrote tx

/-- The item is on sale, and the units of all calls together fit the column. -/
structure Restockable (q : ι → ℤ) (key : StockKey) (catalog : Database) : Prop where
  sells : catalog.Sells key
  positive : ∀ i, 1 ≤ q i
  inRange : ∀ order : List ι, order.Nodup → inIntRange (order.map q).sum = true

section Simulation

variable {tenantId : String} {dto : StockDto} {variant : ProductVariant} {warehouse : Warehouse}
  {captured : Captured} {α : Type}

/-- What a save leaves: a staged write, or a row that needed none. -/
def Saved (tx : ℕ) (g : Phase) (r : Except Err α) : Prop :=
  (∃ a, r = .ok a) ∧ (g = .wrote tx ∨ ∃ row, g = .read tx row)

/-- How an attempt, the retry loop or a call ends. -/
def Committed (g : Phase) (r : Except Err α) : Prop := g = .committed ∧ ∃ a, r = .ok a

theorem sells_of_catalog {db catalog : Database}
    (same : db = { catalog with stockLevels := db.stockLevels }) (sells : catalog.Sells key) :
    db.Sells key := by
  rw [same]
  exact ⟨sells.variant, sells.warehouse⟩

theorem referencesExist_of_sells {db : Database} (sells : db.Sells key) {row : StockLevel}
    (keyed : row.key = key) : referencesExist db row = true := by
  subst keyed
  obtain ⟨variant, readVariant⟩ := Option.isSome_iff_exists.mp sells.variant
  obtain ⟨warehouse, readWarehouse⟩ := Option.isSome_iff_exists.mp sells.warehouse
  have v := Table.holds_of_find? readVariant
  have h := Table.holds_of_find? readWarehouse
  simp only [Bool.and_eq_true, beq_iff_eq, StockLevel.key] at v h
  obtain ⟨tenant, stored, live⟩ := List.any_eq_true.mp v.1.2
  have tenantStored : (db.tenants.rows.any (·.id == row.tenantId)) = true :=
    List.any_eq_true.mpr ⟨tenant, stored, by simp_all⟩
  have variantStored : (db.variants.rows.any (·.id == row.variantId)) = true :=
    List.any_eq_true.mpr ⟨variant, Table.mem_of_find? readVariant, by simp [v.1.1.1]⟩
  have warehouseStored : (db.warehouses.rows.any (·.id == row.warehouseId)) = true :=
    List.any_eq_true.mpr ⟨warehouse, Table.mem_of_find? readWarehouse, by simp [h.1.2]⟩
  simp [referencesExist, tenantStored, variantStored, warehouseStored]

theorem inv_kept {g : Phase} (inv : (firstProtocol q key catalog).inv w γ) (at_i : γ i = g) :
    (firstProtocol q key catalog).inv w (Function.update γ i g) := by
  rw [← at_i, Function.update_eq_self]
  exact inv

theorem firstSim_findOrCreate
    (names : Names tenantId (UuidText.uuidOut variant.id) (UuidText.uuidOut warehouse.id) key)
    {post : Phase → Except Err StockEntity → Prop}
    (loaded : ∀ r, post (.read tx r) (.ok (.loaded r)))
    (created : post (.started tx) (.ok (.created (newStock tenantId warehouse variant)))) :
    (firstProtocol q key catalog).Sim i post (findOrCreate tenantId warehouse variant).run
      (.started tx) := by
  unfold findOrCreate lookup findStock
  rw [Svc.run_bind]
  refine Protocol.Sim.bind ⟨fun _ _ _ _ => .inl rfl, ?_, fun e faulty => faulty.elim⟩
  rintro w γ ⟨order, h⟩ at_i - -
  show ∃ g', _ ∧ Protocol.Sim _ _ _ (Prog.ret (stockRead tenantId _ _ w)) g'
  rw [stockRead_of_names names]
  cases visible : w.db.visibleStock key with
  | none =>
      exact ⟨.started tx, inv_kept ⟨order, h⟩ at_i, created⟩
  | some row =>
      exact ⟨.read tx row, ⟨order, h.read at_i (visibleStock_eq_some.mp visible).1⟩,
        loaded row⟩

/-- An INSERT that finds nothing in its way is staged. -/
theorem firstSim_insert (able : Restockable q key catalog)
    {build : Uuid → Timestamp → StockLevel}
    (keyed : ∀ id now, (build id now).key = key)
    (identified : ∀ id now, (build id now).id = id)
    (values : ∀ id now, (build id now).snapshot = ⟨q i, 0⟩) :
    (firstProtocol q key catalog).Sim i (Saved tx)
      (insertStock tx key.variantId key.warehouseId build).run (.started tx) := by
  refine ⟨?_, ?_, fun e faulty => faulty.elim⟩
  · rintro w γ ⟨order, h⟩ at_i
    by_cases claimed : w.claimedFor tx (build (w.ids 0) w.clock) = true
    · have waits : ¬ (firstProtocol q key catalog).holds (.started tx) := by
        rintro ⟨tx', impossible⟩
        cases impossible
      refine .inr ⟨waits, ?_⟩
      have staged : w.pending ≠ [] := fun none => by simp [World.claimedFor, none] at claimed
      rcases h.stock with missing | ⟨row, held⟩
      · rcases missing.oneWriter with ⟨none, -⟩ | ⟨k, tx', _, -, wrote_k, -⟩
        · exact absurd none staged
        · exact ⟨k, tx', wrote_k⟩
      · rcases held.oneWriter with ⟨none, -⟩ | ⟨k, tx', _, -, wrote_k, -⟩
        · exact absurd none staged
        · exact ⟨k, tx', wrote_k⟩
    · left
      show (!w.claimedFor tx _) = true
      simpa using claimed
  · rintro w γ ⟨order, h⟩ at_i ready first
    have unclaimed : w.claimedFor tx (build (w.ids 0) w.clock) = false := by
      have passed : (!w.claimedFor tx (build (w.ids 0) w.clock)) = true := ready
      simpa using passed
    have free := free_of_insertsFirst first
    rcases h.stock with missing | ⟨row, held⟩
    · have apart : ∀ s ∈ w.db.stockLevels, conflict (build (w.ids 0) w.clock) s = false := by
        intro s mem
        refine Bool.eq_false_iff.mpr fun clash => ?_
        have sameKey := keyed (w.ids 0) w.clock
        simp only [conflict, Bool.or_eq_true, Bool.and_eq_true, beq_iff_eq] at clash
        rcases clash with sameId | ⟨sameVariant, sameWarehouse⟩
        · exact missing.vacant.fresh 0 s mem (by rw [← sameId, identified])
        · refine free s mem ⟨?_, ?_⟩
          · rw [← sameVariant, ← sameKey]
            rfl
          · rw [← sameWarehouse, ← sameKey]
            rfl
      have accepted : insertAct tx build w = (.ok (build (w.ids 0) w.clock),
          { w.write tx (.insert (build (w.ids 0) w.clock)) with
            ids := fun n => w.ids (n + 1) }) := by
        have unique : w.db.stockLevels.rows.any (conflict (build (w.ids 0) w.clock)) = false :=
          List.any_eq_false.mpr fun s mem => by simp [apart s mem]
        have quantities := values (w.ids 0) w.clock
        simp only [StockLevel.snapshot, StockMovementSnapshot.mk.injEq] at quantities
        have exist := referencesExist_of_sells (sells_of_catalog h.catalog able.sells)
          (keyed (w.ids 0) w.clock)
        have zero : inIntRange 0 = true := by decide
        have one : inIntRange (q i) = true := by
          simpa using able.inRange [i] (List.nodup_singleton i)
        simp [insertAct, unique, exist, quantities.1, quantities.2, one, zero]
      show ∃ g', (firstProtocol q key catalog).inv (insertAct tx build w).2 _ ∧
        Protocol.Sim _ _ _ (Prog.ret (insertAct tx build w).1) g'
      rw [accepted]
      refine ⟨.wrote tx, ⟨order, ?_⟩, ⟨_, rfl⟩, .inl rfl⟩
      exact h.insert missing at_i ⟨_, rfl, keyed _ _, values _ _, apart⟩ unclaimed rfl rfl rfl
        fun n => ⟨n + 1, rfl⟩
    · obtain ⟨mem, sameKey⟩ := stockAt_eq_some.mp held.stored
      have occupied : key.Occupied row := by
        rw [← sameKey]
        exact ⟨rfl, rfl⟩
      exact absurd occupied (free row mem)

theorem changed_zero {value stored : ℤ} (h : value = 0) (h' : stored = 0) :
    changed value stored = none := by
  simp [changed, h, h']

/-- A loaded row is saved with its units added, or already has the value. -/
theorem firstSim_saveLoaded {r : StockLevel} (able : Restockable q key catalog) :
    (firstProtocol q key catalog).Sim i (Saved tx) (saveStock tx (.loaded { r with
      availableQuantity := r.availableQuantity + q i
      reservedQuantity := r.reservedQuantity + 0 })).run (.read tx r) := by
  unfold saveStock
  rw [Svc.run_bind]
  refine Protocol.Sim.bind (Protocol.Sim.read (fun _ => rfl) (fun _ => rfl) ?_
    fun e faulty => faulty.elim)
  rintro w γ ⟨order, h⟩ at_i -
  rcases h.stock with missing | ⟨row, held⟩
  · exact absurd at_i (missing.unread i tx r)
  obtain ⟨same, seen⟩ := held.reads i tx r at_i
  obtain ⟨mem, -⟩ := stockAt_eq_some.mp held.stored
  have found : w.db.stockLevels.find? (·.id == r.id) = some row := by
    rw [same]
    exact find?_id mem
  have unreserved : changed (r.reservedQuantity + 0) row.reservedQuantity = none := by
    have none_seen : r.reservedQuantity = 0 := seen.reserved
    exact changed_zero (by simp [none_seen]) held.within.reserved
  show Protocol.Sim _ _ _ (Svc.next _ (.ok (w.db.stockLevels.find? (·.id == r.id)))) _
  rw [found, Svc.next_ok]
  simp only [unreserved, Option.isNone_none, Bool.and_true]
  split
  · exact ⟨⟨_, rfl⟩, .inr ⟨r, rfl⟩⟩
  refine ⟨?_, ?_, fun e faulty => faulty.elim⟩
  · rintro w γ ⟨order, h⟩ at_i
    by_cases locked : w.lockedFor tx r.id = true
    · have waits : ¬ (firstProtocol q key catalog).holds (.read tx r) := by
        rintro ⟨tx', impossible⟩
        cases impossible
      refine .inr ⟨waits, ?_⟩
      rcases h.stock with missing | ⟨row, held⟩
      · exact absurd at_i (missing.unread i tx r)
      · rcases held.oneWriter with ⟨none, -⟩ | ⟨k, tx', _, -, wrote_k, -⟩
        · simp [World.lockedFor, none] at locked
        · exact ⟨k, tx', wrote_k⟩
    · left
      simpa using locked
  · rintro w γ ⟨order, h⟩ at_i ready -
    have unlocked : w.lockedFor tx r.id = false := by simpa using ready
    rcases h.stock with missing | ⟨row', held⟩
    · exact absurd at_i (missing.unread i tx r)
    obtain ⟨-, seen⟩ := held.reads i tx r at_i
    have least : 0 ≤ r.availableQuantity := seen.available_nonneg
    have most : r.availableQuantity ≤ (order.map q).sum := seen.available_le
    have pos := able.positive i
    have fits : inIntRange (r.availableQuantity + q i) = true := by
      have total := able.inRange (order ++ [i]) (h.listed.commit (by simp [at_i])).nodup
      rw [FirstStock.sum_append] at total
      simp only [inIntRange, Bool.and_eq_true, decide_eq_true_eq] at total ⊢
      omega
    show ∃ g', (firstProtocol q key catalog).inv (updateAct tx _ _ _ w).2 _ ∧
      Protocol.Sim _ _ _ (Prog.ret (updateAct tx _ _ _ w).1) g'
    have values : (changed (r.availableQuantity + q i) row.availableQuantity).all inIntRange =
        true := by
      unfold changed
      split <;> simp [fits]
    unfold updateAct
    simp only [values, Option.all_none, Bool.and_self, Bool.not_true, Bool.false_eq_true, if_false]
    refine ⟨.wrote tx, ⟨order, h.write held at_i unlocked ?_⟩, ⟨_, rfl⟩, .inl rfl⟩
    exact held.within.patched seen (by omega) _ _

theorem firstSim_callback (able : Restockable q key catalog) (quantity : dto.quantity = q i)
    (names : Names tenantId (UuidText.uuidOut variant.id) (UuidText.uuidOut warehouse.id) key) :
    (firstProtocol q key catalog).Sim i (fun g r => Saved tx g r.1)
      (((replenishment tenantId dto variant warehouse).callback tx).run captured)
      (.started tx) := by
  have saving : ∀ (stock : StockEntity) (g : Phase),
      (firstProtocol q key catalog).Sim i (Saved tx) (saveStock tx (stock.setQuantities
        (stock.availableQuantity + dto.quantity) (stock.reservedQuantity + 0))).run g →
          (firstProtocol q key catalog).Sim i (fun g r => Saved tx g r.1)
            ((do
              let saved ← Attempt.lift (saveStock tx (stock.setQuantities
                (stock.availableQuantity + dto.quantity) (stock.reservedQuantity + 0)))
              set (some ((replenishment tenantId dto variant warehouse).event stock.snapshot saved))
              pure saved : Attempt StockLevel).run captured) g := by
    intro stock g saved
    rw [Attempt.run_bind, Attempt.run_lift, Prog.bind_assoc]
    refine Protocol.Sim.bind (saved.mono ?_)
    rintro g r ⟨⟨row, rfl⟩, phase⟩
    exact ⟨⟨row, rfl⟩, phase⟩
  have sameVariant : variant.id = key.variantId := by
    simpa using names.variant
  have sameWarehouse : warehouse.id = key.warehouseId := by
    simpa using names.warehouse
  unfold Movement.callback
  rw [Attempt.run_bind, Attempt.run_lift, Prog.bind_assoc, find_replenishment]
  refine Protocol.Sim.bind (firstSim_findOrCreate names (fun r => saving _ _ ?_) (saving _ _ ?_))
  · rw [quantity]
    exact firstSim_saveLoaded able
  · simp only [StockEntity.setQuantities, saveStock, newStock, uuidParam, names.tenant,
      sameVariant, sameWarehouse]
    refine firstSim_insert able (fun id now => rfl) (fun id now => rfl) fun id now => ?_
    simp [StockDraft.row, StockLevel.snapshot, StockEntity.availableQuantity,
      StockEntity.reservedQuantity, quantity]

/-- An attempt that the lookup does not mislead commits. -/
theorem firstSim_transaction (able : Restockable q key catalog) (quantity : dto.quantity = q i)
    (names : Names tenantId (UuidText.uuidOut variant.id) (UuidText.uuidOut warehouse.id) key) :
    (firstProtocol q key catalog).Sim i (fun g r => Committed g r.1)
      ((transaction (replenishment tenantId dto variant warehouse).callback).run captured)
      .idle := by
  unfold transaction
  rw [Attempt.run_bind, Attempt.run_lift, Prog.bind_assoc]
  refine Protocol.Sim.bind ⟨fun _ _ _ _ => .inl rfl, ?_, fun e faulty => faulty.elim⟩
  rintro w γ ⟨order, h⟩ at_i - -
  refine ⟨.started w.nextTx, ⟨order, h.start at_i⟩, ?_⟩
  show Protocol.Sim _ _ _ ((tryCatch _ _ : Attempt StockLevel).run captured) _
  rw [Attempt.run_tryCatch, Attempt.run_bind]
  refine Protocol.Sim.bind (Protocol.Sim.bind ((firstSim_callback able quantity names).mono ?_))
  rintro g ⟨r, v⟩ ⟨⟨saved, rfl⟩, phase⟩
  refine ⟨fun _ _ _ _ => .inl rfl, ?_, fun e faulty => faulty.elim⟩
  rintro w' γ' ⟨order', h'⟩ at_i - -
  refine ⟨.committed, ⟨order' ++ [i], ?_⟩, rfl, _, rfl⟩
  rcases phase with rfl | ⟨row, rfl⟩
  · exact h'.commit able.positive at_i
  · exact h'.commit_unwritten able.positive at_i

theorem firstSim_emit {event : Event} {g : Phase} {post : Phase → Except Err Unit → Prop}
    (h : post g (.ok ())) : (firstProtocol q key catalog).Sim i post (emit event).run g := by
  refine ⟨fun _ _ _ _ => .inl rfl, ?_, fun e faulty => faulty.elim⟩
  rintro w γ ⟨order, inv⟩ at_i - -
  exact ⟨g, inv_kept ⟨order, inv.congr rfl rfl rfl rfl⟩ at_i, h⟩

/-- The first attempt commits, so the retry loop ends with it. -/
theorem firstSim_run {context : Option AuditContextData} (able : Restockable q key catalog)
    (audited : ∀ input, (AuditService.event? context input).isSome)
    (quantity : dto.quantity = q i)
    (names : Names tenantId (UuidText.uuidOut variant.id) (UuidText.uuidOut warehouse.id) key) :
    (firstProtocol q key catalog).Sim i Committed
      ((replenishment tenantId dto variant warehouse).run context).run .idle := by
  have attempts : (firstProtocol q key catalog).Sim i (fun g r => Committed g r.1)
      ((replenishment tenantId dto variant warehouse).attempts.run none) .idle := by
    show Protocol.Sim _ _ _ ((tryCatch _ _ : Attempt StockLevel).run none) _
    rw [Attempt.run_tryCatch]
    refine Protocol.Sim.bind ((firstSim_transaction able quantity names).mono ?_)
    rintro g ⟨r, v⟩ ⟨phase, saved, rfl⟩
    exact ⟨phase, saved, rfl⟩
  refine Protocol.Sim.bind (attempts.mono ?_)
  rintro g ⟨r, v⟩ ⟨phase, saved, rfl⟩
  cases v with
  | none => exact ⟨phase, saved, rfl⟩
  | some movement =>
      obtain ⟨audit, recorded⟩ := Option.isSome_iff_exists.mp (audited (auditInput movement))
      simp only [publishStockMovement, AuditService.record, recorded, Svc.run_bind]
      refine Protocol.Sim.bind (Protocol.Sim.bind (firstSim_emit ?_))
      exact firstSim_emit ⟨phase, saved, rfl⟩

theorem firstSim_program {call : StockCall} {context : Option AuditContextData}
    (able : Restockable q key catalog)
    (audited : ∀ input, (AuditService.event? context input).isSome)
    (replenishes : call.op = .replenish) (quantity : call.dto.quantity = q i)
    (names : Names call.tenantId call.dto.variantId call.dto.warehouseId key) :
    (firstProtocol q key catalog).Sim i Committed (call.program context).run .idle := by
  obtain ⟨op, tenantId, dto⟩ := call
  obtain rfl : op = .replenish := replenishes
  have found : (firstProtocol q key catalog).Sim i Committed (replenish context tenantId dto).run
      .idle := by
    unfold replenish
    rw [Svc.run_bind]
    refine Protocol.Sim.bind (sim_findWarehouse (fun e faulty => faulty.elim) ?_ ?_)
    · rintro w γ ⟨order, h⟩ - missing
      have stored := (sells_of_catalog h.catalog able.sells).warehouse
      rw [missing key.tenantId key.warehouseId names.tenant names.warehouse] at stored
      cases stored
    · intro _ warehouse _ hw _
      rw [Svc.next_ok, Svc.run_bind]
      refine Protocol.Sim.bind (sim_findOneById (fun e faulty => faulty.elim) ?_ ?_)
      · rintro w γ ⟨order, h⟩ - missing
        have stored := (sells_of_catalog h.catalog able.sells).variant
        rw [missing key.tenantId key.variantId names.tenant names.variant] at stored
        cases stored
      · intro _ variant _ hv _
        refine firstSim_run able audited quantity ⟨names.tenant, ?_, ?_⟩
        · rw [UuidText.uuidIn_uuidOut, ← hv]
          exact names.variant
        · rw [UuidText.uuidIn_uuidOut, ← hw]
          exact names.warehouse
  show Protocol.Sim _ _ _ ((do
    let _ ← replenish context tenantId dto : Svc Unit)).run _
  rw [Svc.run_bind]
  refine Protocol.Sim.bind (found.mono ?_)
  rintro g r ⟨phase, saved, rfl⟩
  exact ⟨phase, (), rfl⟩

end Simulation

theorem restockable [Fintype ι] {calls : ι → StockRequest}
    (accepted : ∀ i, (calls i).Accepted)
    (sells : catalog.Sells key) (fits : ∑ i, (calls i).call.dto.quantity ≤ 2147483647) :
    Restockable (fun i => (calls i).call.dto.quantity) key catalog where
  sells := sells
  positive := accepted
  inRange order nodup := by
    have nonneg : ∀ i, 0 ≤ (calls i).call.dto.quantity := fun i =>
      zero_le_one.trans (accepted i)
    have least : 0 ≤ (order.map fun i => (calls i).call.dto.quantity).sum :=
      List.sum_nonneg fun n mem => by
        obtain ⟨i, -, rfl⟩ := List.mem_map.mp mem
        exact nonneg i
    have most : (order.map fun i => (calls i).call.dto.quantity).sum ≤
        ∑ i, (calls i).call.dto.quantity := by
      rw [← List.sum_toFinset _ nodup]
      exact Finset.sum_le_sum_of_subset_of_nonneg (Finset.subset_univ _) fun i _ _ => nonneg i
    simp only [inIntRange, Bool.and_eq_true, decide_eq_true_eq]
    omega

/-- In every interleaving of replenishments whose INSERTs all find the item still
without a row, no call fails, some call can go on until all have resolved, and
then there is exactly one row. -/
theorem first_replenish_resolves [Fintype ι] [Nonempty ι] (calls : ι → StockRequest)
    (key : StockKey) (w : World) (names : ∀ i, (calls i).Names key)
    (accepted : ∀ i, (calls i).Accepted) (replenishes : ∀ i, (calls i).call.op = .replenish)
    (sells : w.db.Sells key) (vacant : Vacant key w) (idle : w.pending = [])
    (fits : ∑ i, (calls i).call.dto.quantity ≤ 2147483647)
    (c : Pool World Err Label ι (Except Err Unit))
    (run : Pool.Reach noFault InsertsFirst (stockPool calls w) c) :
    (∀ i r, c.progs i = .ret r → r = .ok ()) ∧
      (¬ c.Finished → ∃ d, Pool.Step noFault (fun _ _ _ => True) c d) ∧
      Acc (fun d c => Pool.Step noFault (fun _ _ _ => True) c d) c ∧
      (c.Finished → ∃! row, row ∈ c.state.db.stockLevels ∧ key.Occupied row) := by
  let P := firstProtocol (fun i => (calls i).call.dto.quantity) key w.db
  have start : P.Holds (fun _ g r => Committed g r) (stockPool calls w) := by
    refine ⟨fun _ => .idle, ⟨[], rfl, ⟨?_, ?_⟩, ⟨.nil, ?_⟩,
      .inl ⟨vacant, rfl, ?_, .inl ⟨idle, ?_⟩⟩⟩,
      fun i => ?_⟩
    · exact fun _ _ impossible => by simp [Phase.tx?] at impossible
    · exact fun _ _ _ impossible => by simp [Phase.tx?] at impossible
    · simp
    · simp
    · simp
    · have sim : P.Sim i Committed ((stockPool calls w).progs i) .idle :=
        firstSim_program (restockable accepted sells fits)
          (event?_isSome (calls i).inTenant (calls i).present) (replenishes i) rfl (names i)
      refine sim.mono fun g r outcome => ⟨outcome, ?_⟩
      rintro ⟨tx, rfl⟩
      cases outcome.1
  have holds := Protocol.holds_reach start run
  obtain ⟨γ, ⟨order, first⟩, returned⟩ := holds.returned
  refine ⟨fun i r hr => (returned i r hr).2.elim fun _ ok => ok, fun unfinished => ?_,
    (Pool.step_wellFounded _ _).apply c, fun finished => ?_⟩
  · obtain ⟨i, able⟩ := holds.progress unfinished
    obtain ⟨d, next⟩ := Option.isSome_iff_exists.mp able
    have step : Pool.Step noFault (fun _ _ _ => true = true) c d := Pool.step_of_next next
    exact ⟨d, by simpa using step⟩
  · obtain ⟨i⟩ := ‹Nonempty ι›
    obtain ⟨r, hr⟩ := Option.isSome_iff_exists.mp (finished i)
    have committed := (returned i r (Pool.result?_eq_some.mp hr)).1
    have listed : i ∈ order := (first.listed.members i).mpr committed
    rcases first.stock with missing | ⟨row, held⟩
    · rw [missing.none] at listed
      cases listed
    · obtain ⟨mem, keyed⟩ := stockAt_eq_some.mp held.stored
      have occupied : key.Occupied row := by
        rw [← keyed]
        exact ⟨rfl, rfl⟩
      refine ⟨row, ⟨mem, occupied⟩, fun row' other => ?_⟩
      obtain ⟨mem', occupied'⟩ := other
      refine Table.eq_of_conflict mem' mem ?_
      simp [conflict, occupied.1, occupied.2, occupied'.1, occupied'.2]

namespace SampleShop

/-- Two deliveries of one unit each for the item that has no row yet. -/
def deliveries : Pool World Err Label (Fin 2) (Except Err Unit) :=
  stockPool (fun _ => request .replenish 1) (world unstocked)

def outcomes (c : Pool World Err Label (Fin 2) (Except Err Unit)) :
    Option (Except Err Unit) × Option (Except Err Unit) :=
  c.results

/-- Both begin, and the second delivery looks for the row after the first has committed. -/
theorem deliveries_in_turn : (deliveries.schedule insertsFirst
      [0, 1, 0, 1, 0, 1, 0, 0, 0, 0, 1, 1, 1, 1, 1, 1, 0]).map outcomes =
    some (some (.ok ()), some (.ok ())) := by decide

/-- Both deliveries look for the row before either of them inserts it. -/
theorem deliveries_at_once : (deliveries.schedule (fun _ _ _ => true)
      [0, 0, 0, 0, 1, 1, 1, 1, 0, 0, 0, 0, 1, 1]).map outcomes =
    some (some (.ok ()), some (.error Err.uniqueViolation)) := by decide

end SampleShop

theorem first_replenish_resolves_in_turn : ∃ c,
    Pool.Reach noFault InsertsFirst SampleShop.deliveries c ∧
      (∀ i, c.progs i = .ret (.ok ())) ∧
        ∃! row, row ∈ c.state.db.stockLevels ∧ SampleShop.rowKey.Occupied row := by
  obtain ⟨c, run, seen⟩ := Pool.exists_of_schedule SampleShop.deliveries_in_turn
  obtain ⟨first, second⟩ := Prod.mk.inj seen
  have resolved : ∀ i, c.progs i = .ret (.ok ()) := fun i => by
    rw [← Pool.result?_eq_some]
    match i with
    | 0 => exact first
    | 1 => exact second
  have shown := first_replenish_resolves (fun _ : Fin 2 => SampleShop.request .replenish 1)
    SampleShop.rowKey (SampleShop.world SampleShop.unstocked)
      (fun _ => ⟨by decide, by decide, by decide⟩)
    (fun _ => show (1 : ℤ) ≤ 1 by decide) (fun _ => rfl) ⟨by decide, by decide⟩
    ⟨fun s mem => absurd mem List.not_mem_nil, fun n s mem => absurd mem List.not_mem_nil⟩ rfl
    (by decide) c run
  exact ⟨c, run, resolved, shown.2.2.2 fun i => by simp [resolved i, Pool.result?]⟩

/-- The loser of two first deliveries gets the unique violation. -/
theorem second_delivery_refused : ∃ c, Pool.Reach noFault (fun _ _ _ => True)
    SampleShop.deliveries c ∧ c.Finished ∧
      c.progs 1 = .ret (.error Err.uniqueViolation) := by
  obtain ⟨c, run, seen⟩ := Pool.exists_of_schedule SampleShop.deliveries_at_once
  obtain ⟨first, second⟩ := Prod.mk.inj seen
  refine ⟨c, run.mono fun _ _ _ _ => trivial, fun i => ?_, Pool.result?_eq_some.mp second⟩
  match i with
  | 0 => simp [first]
  | 1 => simp [second]

end Tenantory
