import Tenantory.ItemOwners
import Tenantory.RelyGuarantee
import Tenantory.StockEffect

/-! Stock rows name a variant and a warehouse of their own tenant, in every interleaving
of stock calls with calls that create, change and remove what they name. A stock call
knows so of the row that it inserts: it has found both under its tenant, and no other
call gives them to another one. -/

namespace Tenantory

open InventoryService UuidText

/-- The variant and the warehouse of the key are stored under its tenant. -/
structure Database.Places (db : Database) (key : StockKey) : Prop where
  variant : db.variants.Owns key.tenantId key.variantId
  warehouse : db.warehouses.Owns key.tenantId key.warehouseId

theorem Database.Places.mono {db db' : Database} {key : StockKey} (kept : db.ItemsKept db')
    (h : db.Places key) : db'.Places key :=
  ⟨kept.variants _ _ h.variant, kept.warehouses _ _ h.warehouse⟩

/-- All stock rows are in their place, those that open transactions insert too. -/
structure World.Placed (w : World) : Prop where
  rows : ∀ s ∈ w.db.stockLevels, w.db.Places s.key
  pending : ∀ p ∈ w.pending, ∀ row, p.2 = .insert row → w.db.Places row.key

theorem World.Beside.placed {w w' : World} (beside : w.Beside w') (placed : w.Placed) :
    w'.Placed where
  rows s hs := by
    rw [beside.stock] at hs
    exact (placed.rows s hs).mono beside.items
  pending p hp row inserted := by
    rw [beside.pending] at hp
    exact (placed.pending p hp row inserted).mono beside.items

/-- Others keep the owners of the items. -/
def placing : Discipline World Err Label where
  good := World.Placed
  issued _ := 0
  rely _ w w' := w.db.ItemsKept w'.db
  fault := dbFault
  refl _ w := .refl w.db
  trans h h' := h.trans h'
  issued_le _ := le_rfl

/-- What is known of the owners of items and stays true. -/
structure ItemFact where
  holds : Database → Prop
  mono : ∀ {db db' : Database}, db.ItemsKept db' → holds db → holds db'

namespace ItemFact

def none : ItemFact := ⟨fun _ => True, fun _ h => h⟩

def and (P Q : ItemFact) : ItemFact :=
  ⟨fun db => P.holds db ∧ Q.holds db, fun kept h => ⟨P.mono kept h.1, Q.mono kept h.2⟩⟩

/-- What an answer tells. -/
def answered {α : Type} (Q : α → ItemFact) : Except Err α → ItemFact
  | .ok a => Q a
  | .error _ => none

def variant (A id : Uuid) : ItemFact :=
  ⟨fun db => db.variants.Owns A id, fun kept => kept.variants A id⟩

def warehouse (A id : Uuid) : ItemFact :=
  ⟨fun db => db.warehouses.Owns A id, fun kept => kept.warehouses A id⟩

/-- The items that were stored in a database are stored under the same tenants. -/
def since (loaded : Database) : ItemFact := ⟨loaded.ItemsKept, fun kept h => h.trans kept⟩

end ItemFact

/-! ## Rules -/

variable {α β : Type} {P : ItemFact} {Q : α → ItemFact} {R : β → ItemFact}

/-- The program keeps stock rows in their places, whatever other such programs do in
between; `Q` is known of what it returns. -/
def Places (P : ItemFact) (p : Step α) (Q : α → ItemFact) : Prop :=
  ∀ own w, w.Placed → P.holds w.db →
    placing.Keeps (fun _ _ _ => True) p (fun _ a w' => (Q a).holds w'.db) own w

theorem places_ret {a : α} (h : ∀ db, P.holds db → (Q a).holds db) : Places P (.ret a) Q :=
  fun _ _ _ known => h _ known

theorem Places.mono {P' : ItemFact} {Q' : α → ItemFact} {p : Step α} (h : Places P p Q)
    (pre : ∀ db, P'.holds db → P.holds db)
    (post : ∀ a db, (Q a).holds db → (Q' a).holds db) : Places P' p Q' :=
  fun own w placed known => (h own w placed (pre _ known)).mono fun _ a _ => post a _

theorem Places.weaken {p : Step α} (h : Places .none p Q) : Places P p Q :=
  h.mono (fun _ _ => trivial) fun _ _ told => told

theorem Places.bind {p : Step α} {f : α → Step β} (h : Places P p Q)
    (rest : ∀ a, Places (P.and (Q a)) (f a) R) : Places P (p.bind f) R := by
  intro own w placed known
  refine Discipline.Keeps.bind ?_
  refine ((h own w placed known).frame placed (F := fun w => P.holds w.db)
    (fun _ s t (kept : s.db.ItemsKept t.db) => P.mono kept) known).mono fun own a w told => ?_
  exact rest a own w told.2.1 ⟨told.2.2, told.1⟩

theorem places_atom {a : Atom World Err Label β} {Q : Except Err β → ItemFact}
    (h : ∀ w, w.Placed → P.holds w.db → (a.act w).2.Placed ∧
      w.db.ItemsKept (a.act w).2.db ∧
      (Q (a.act w).1).holds (a.act w).2.db)
    (failed : ∀ e db, (Q (.error e)).holds db) : Places P (.atom a .ret) Q := by
  intro own w placed known
  obtain ⟨placed', kept, told⟩ := h w placed known
  refine ⟨⟨trivial, placed', fun _ _ => kept⟩, fun t later _ => ?_,
    fun e _ t _ _ => failed e _⟩
  exact (Q (a.act w).1).mono later told

theorem places_query {read : World → Except Err α}
    (h : ∀ w a, w.Placed → P.holds w.db → read w = .ok a → (Q a).holds w.db) :
    Places P (query read).run (ItemFact.answered Q) := by
  refine places_atom (fun w placed known => ⟨placed, .refl w.db, ?_⟩) fun _ _ => trivial
  show (ItemFact.answered Q (read w)).holds w.db
  cases answer : read w with
  | error e => trivial
  | ok a => exact h w a placed known answer

/-- A call that leaves items and stock alone. -/
theorem places_of_guarded {p : Step α}
    (h : ∀ w₀ : World, p.Guarded (fun _ _ => True) w₀.Beside) :
    Places .none p fun _ => .none := by
  intro own w placed _
  induction p generalizing own w with
  | ret a => trivial
  | atom a k ih =>
      have beside : w.Beside (a.act w).2 := (h w).1 w (.refl w) trivial
      refine ⟨⟨trivial, beside.placed placed, fun _ _ => beside.items⟩, fun t _ placed => ?_,
        fun e _ t _ placed => ?_⟩
      · exact ih _ (fun w₀ => (h w₀).2 _) _ _ placed trivial
      · exact ih _ (fun w₀ => (h w₀).2 _) _ _ placed trivial

theorem places_of_keepsItems {p : Svc α} (h : ∀ w₀, Svc.KeepsItems w₀ p) :
    Places P p.run fun _ => .none :=
  (places_of_guarded h).weaken

/-- A step of a service and what follows its answer. -/
theorem Places.next {p : Svc α} {f : α → Svc β} {R : Except Err β → ItemFact}
    (h : Places P p.run (ItemFact.answered Q))
    (rest : ∀ a, Places (P.and (Q a)) (f a).run R) (failed : ∀ e db, (R (.error e)).holds db) :
    Places P (p >>= f).run R := by
  rw [Svc.run_bind]
  refine h.bind fun answer => ?_
  cases answer with
  | ok a => exact rest a
  | error e => exact places_ret fun db _ => failed e db

/-- A lookup that throws when it finds nothing. -/
theorem places_found {lookup : Svc α} {read : World → Except Err (Option α)}
    {f : Option α → Svc α} {missing : Err} (looks : lookup = query read >>= f)
    (absent : f none = throw missing) (present : ∀ a, f (some a) = pure a)
    (h : ∀ w a, w.Placed → P.holds w.db → read w = .ok (some a) → (Q a).holds w.db) :
    Places P lookup.run (ItemFact.answered Q) := by
  have reads : Places P (query read).run (ItemFact.answered fun found =>
      ⟨fun db => ∀ a, found = some a → (Q a).holds db,
        fun kept h a ha => (Q a).mono kept (h a ha)⟩) :=
    places_query fun w found placed known answer a ha => h w a placed known (ha ▸ answer)
  rw [looks]
  refine reads.next (fun found => ?_) fun _ _ => trivial
  cases found with
  | none =>
      rw [absent]
      exact places_ret fun _ _ => trivial
  | some a =>
      rw [present]
      exact places_ret fun _ known => known.2 a rfl

/-! ## Saving variants and warehouses -/

section Items

variable {context : Option AuditContextData} {tenantId : String}

/-- A save of what has been found before it is loaded again. -/
theorem places_saving {entity : StoredObject}
    {act : Database → World → Except Err (α × World)}
    (h : ∀ loaded w a w', P.holds loaded → loaded.ItemsKept w.db →
      act loaded w = .ok (a, w') →
      w.Beside w') :
    Places P (saving entity act).run fun _ => .none := by
  have loads : Places P (query fun w => .ok w.db).run (ItemFact.answered fun loaded =>
      (ItemFact.since loaded).and ⟨fun _ => P.holds loaded, fun _ known => known⟩) :=
    places_query fun w loaded _ known answer => by
      cases answer
      exact ⟨.refl w.db, known⟩
  refine loads.next (fun loaded => ?_) fun _ _ => trivial
  refine places_atom (fun w placed known => ?_) fun _ _ => trivial
  obtain ⟨-, since, known⟩ := known
  dsimp only
  cases written : act loaded w with
  | error e => exact ⟨placed, .refl w.db, trivial⟩
  | ok answer =>
      have beside : w.Beside answer.2 := h loaded w answer.1 answer.2 known since written
      exact ⟨beside.placed placed, beside.items, trivial⟩

theorem places_translated {taken : Err} {p : Svc α} (h : Places P p.run fun _ => .none) :
    Places P (translated taken p).run fun _ => .none := by
  unfold translated
  rw [Svc.run_tryCatch]
  refine h.bind fun answer => ?_
  cases answer with
  | ok a => exact places_ret fun _ _ => trivial
  | error e =>
      refine places_of_keepsItems fun w₀ => ?_
      exact Svc.keeps_ite (Svc.keeps_throw _) (Svc.keeps_throw _)

/-- A save and the event about it. -/
theorem places_saved {entity : StoredObject} {act : Database → World → Except Err (α × World)}
    {input : α → AuditEventInput}
    (h : ∀ loaded w a w', P.holds loaded → loaded.ItemsKept w.db →
      act loaded w = .ok (a, w') →
      w.Beside w') :
    Places P (do
      let saved ← saving entity act
      AuditService.record context (input saved)
      pure saved : Svc α).run fun _ => .none := by
  rw [Svc.run_bind]
  refine (places_saving h).bind fun answer => ?_
  cases answer with
  | ok saved => exact places_of_keepsItems fun w₀ => keepsItems_recorded _ saved
  | error e => exact places_ret fun _ _ => trivial

/-- A check that comes before. -/
theorem Places.after {p : Svc β} {f : β → Svc α} (check : ∀ w₀, Svc.KeepsItems w₀ p)
    (rest : ∀ b, Places P (f b).run fun _ => .none) : Places P (p >>= f).run fun _ => .none := by
  rw [Svc.run_bind]
  refine (places_of_keepsItems check).bind fun answer => ?_
  cases answer with
  | ok b => exact (rest b).mono (fun _ known => known.1) fun _ _ _ => trivial
  | error e => exact places_ret fun _ _ => trivial

theorem VariantService.update_places (productId variantId : String) (dto : UpdateVariantDto) :
    Places .none (update context tenantId productId variantId dto).run fun _ => .none := by
  have found : Places .none (findOne tenantId productId variantId).run
      (ItemFact.answered fun variant => .variant variant.tenantId variant.id) :=
    places_found rfl rfl (fun _ => rfl) fun w variant _ _ read => by
      obtain ⟨i, -, read⟩ := bind_eq_ok.mp read
      obtain ⟨tenant, -, read⟩ := bind_eq_ok.mp read
      obtain ⟨product, -, last⟩ := bind_eq_ok.mp read
      exact Table.owns_of_mem (Table.mem_of_find? (Except.ok.inj last))
  refine found.next (fun variant => ?_) fun _ _ => trivial
  have saves : Places (ItemFact.none.and (.variant variant.tenantId variant.id))
      (translated skuTaken do
        let draft := patched dto variant
        let saved ← saving (.variant draft.entity) (saveLoaded draft)
        AuditService.record context (updateAudit variant saved)
        pure saved).run fun _ => .none := by
    refine places_translated (places_saved fun loaded w saved w' known since written => ?_)
    have owned : loaded.variants.Owns (patched dto variant).entity.tenantId
        (patched dto variant).entity.id := known.2
    exact saveLoaded_beside owned since written
  cases dto.sku.truthy with
  | none => exact saves
  | some sku =>
      dsimp only
      split
      · exact .after (fun w₀ => keeps_assertSkuUniqueness _ _ _) fun _ => saves
      · exact saves

theorem WarehouseService.update_places (id : String) (dto : UpdateWarehouseDto) :
    Places .none (update context tenantId id dto).run fun _ => .none := by
  have found : Places .none (findOne tenantId id).run
      (ItemFact.answered fun warehouse => .warehouse warehouse.tenantId warehouse.id) :=
    places_found rfl rfl (fun _ => rfl) fun w warehouse _ _ read => by
      obtain ⟨tenant, -, read⟩ := bind_eq_ok.mp read
      obtain ⟨i, -, last⟩ := bind_eq_ok.mp read
      exact Table.owns_of_mem (Table.mem_of_find? (Except.ok.inj last))
  refine found.next (fun warehouse => ?_) fun _ _ => trivial
  have saves : Places (ItemFact.none.and (.warehouse warehouse.tenantId warehouse.id))
      (translated nameTaken do
        let edited := patched dto warehouse
        let saved ← saving (.warehouse edited) (saveLoaded edited)
        AuditService.record context (updateAudit warehouse saved)
        pure saved).run fun _ => .none := by
    refine places_translated (places_saved fun loaded w saved w' known since written => ?_)
    have owned : loaded.warehouses.Owns (patched dto warehouse).tenantId
        (patched dto warehouse).id := known.2
    exact saveLoaded_beside owned since written
  dsimp only
  cases dto.name.truthy with
  | none => exact saves
  | some name => exact .after (fun w₀ => keeps_assertNameUnique _ _ _) fun _ => saves

end Items

/-! ## Stock calls -/

section Stock

variable {m : Movement} {tx : ℕ} {v : Captured}

/-- The row that a draft becomes is in its place. -/
def StockDraft.Placed (draft : StockDraft) (db : Database) : Prop :=
  ∀ tenant, uuidParam draft.tenantId = .ok tenant →
    db.Places ⟨tenant, draft.variantId, draft.warehouseId⟩

def StockEntity.Placed (db : Database) : StockEntity → Prop
  | .created draft => draft.Placed db
  | .loaded row => db.Places row.key

namespace ItemFact

def stock (stock : StockEntity) : ItemFact where
  holds db := stock.Placed db
  mono kept h := by
    cases stock with
    | created draft => exact fun tenant owner => (h tenant owner).mono kept
    | loaded row => exact Database.Places.mono kept h

/-- What the movement makes of a missing row is in its place. -/
def absent (m : Movement) : ItemFact where
  holds db := ∀ draft, m.absent = .ok draft → draft.Placed db
  mono kept h draft made tenant owner := (h draft made tenant owner).mono kept

end ItemFact

theorem StockWrite.apply_placed {db : Database} {change : StockWrite} {t : Table StockLevel}
    (inserts : ∀ row, change = .insert row → db.Places row.key)
    (rows : ∀ s ∈ t, db.Places s.key) : ∀ s ∈ change.apply t, db.Places s.key := by
  intro s hs
  cases change with
  | insert row =>
      cases inserted : t.insert? row with
      | none =>
          simp only [StockWrite.apply, inserted, Option.getD_none] at hs
          exact rows s hs
      | some u =>
          simp only [StockWrite.apply, inserted, Option.getD_some] at hs
          rcases (Table.mem_insert? inserted).mp hs with old | rfl
          · exact rows s old
          · exact inserts s rfl
  | update id patch =>
      have hs : s ∈ t.rows.map fun r => if r.id == id then patch.apply r else r := hs
      obtain ⟨r, hr, rfl⟩ := List.mem_map.mp hs
      have old := rows r hr
      split
      · rwa [key_apply]
      · exact old

theorem World.Placed.commit {w : World} (placed : w.Placed) (tx : ℕ) : (w.commit tx).Placed := by
  have applied : ∀ (writes : List (ℕ × StockWrite)) (t : Table StockLevel),
      (∀ p ∈ writes, p ∈ w.pending) → (∀ s ∈ t, w.db.Places s.key) →
        ∀ s ∈ writes.foldl (fun t p => p.2.apply t) t, w.db.Places s.key := by
    intro writes
    induction writes with
    | nil => exact fun _ _ rows => rows
    | cons p writes ih =>
        intro t among rows
        refine ih _ (fun q hq => among q (List.mem_cons_of_mem _ hq)) ?_
        exact StockWrite.apply_placed (placed.pending p (among p List.mem_cons_self)) rows
  have rows := applied (w.pending.filter (·.1 == tx)) w.db.stockLevels
    (fun p hp => List.mem_of_mem_filter hp) placed.rows
  refine ⟨fun s hs => ?_, fun p hp row inserted => ?_⟩
  · exact ⟨(rows s hs).variant, (rows s hs).warehouse⟩
  · have staged := placed.pending p (List.mem_of_mem_filter hp) row inserted
    exact ⟨staged.variant, staged.warehouse⟩

theorem World.Placed.write {w : World} (placed : w.Placed) (tx : ℕ) {change : StockWrite}
    (inserts : ∀ row, change = .insert row → w.db.Places row.key) :
    (w.write tx change).Placed where
  rows := placed.rows
  pending p hp row inserted := by
    rcases List.mem_append.mp hp with old | new
    · exact placed.pending p old row inserted
    · rw [List.mem_singleton.mp new] at inserted
      exact inserts row inserted

theorem places_insertStock {variantId warehouseId : Uuid}
    {build : Uuid → Timestamp → StockLevel}
    (h : ∀ db, P.holds db → ∀ id now, db.Places (build id now).key) :
    Places P (insertStock tx variantId warehouseId build).run fun _ => .none := by
  refine places_atom (fun w placed known => ?_) fun _ _ => trivial
  show (insertAct tx build w).2.Placed ∧ w.db.ItemsKept (insertAct tx build w).2.db ∧ True
  unfold insertAct
  simp only
  split
  · exact ⟨placed, .refl w.db, trivial⟩
  · split
    · exact ⟨placed, .refl w.db, trivial⟩
    · split
      · exact ⟨placed, .refl w.db, trivial⟩
      · have wrote : (w.write tx (.insert (build (w.ids 0) w.clock))).Placed :=
          placed.write tx fun row same => by
            cases same
            exact h w.db known _ _
        exact ⟨⟨wrote.rows, wrote.pending⟩, .refl w.db, trivial⟩

theorem places_updateStock (row : StockLevel) (available reserved : Option ℤ) :
    Places P (updateStock tx row available reserved).run fun _ => .none := by
  refine places_atom (fun w placed _ => ?_) fun _ _ => trivial
  show (updateAct tx row available reserved w).2.Placed ∧
    w.db.ItemsKept (updateAct tx row available reserved w).2.db ∧ True
  unfold updateAct
  split
  · exact ⟨placed, .refl w.db, trivial⟩
  · exact ⟨placed.write tx fun row inserted => (by cases inserted), .refl w.db, trivial⟩

theorem places_saveStock (stock : StockEntity) :
    Places (.stock stock) (saveStock tx stock).run fun _ => .none := by
  cases stock with
  | created draft =>
      unfold saveStock
      cases owner : uuidParam draft.tenantId with
      | error e =>
          dsimp only
          rw [owner]
          exact places_ret fun _ _ => trivial
      | ok tenant =>
          dsimp only
          rw [owner]
          exact places_insertStock fun db known id now => known tenant owner
  | loaded row =>
      unfold saveStock
      rw [Svc.run_bind]
      have reloads : Places (.stock (.loaded row)) (reloadStock row).run fun _ => .none :=
        places_atom (fun w placed _ => ⟨placed, .refl w.db, trivial⟩) fun _ _ => trivial
      refine reloads.bind fun answer => ?_
      cases answer with
      | error e => exact places_ret fun _ _ => trivial
      | ok found =>
          cases found with
          | none => exact places_insertStock fun db known id now => known.1
          | some stored =>
              rw [Svc.next_ok]
              dsimp only
              split
              · exact places_ret fun _ _ => trivial
              · exact places_updateStock row _ _

theorem places_find (m : Movement) :
    Places (.absent m) m.find.run (ItemFact.answered ItemFact.stock) := by
  have reads : Places (.absent m) (findStock m.tenantId m.variantId m.warehouseId).run
      (ItemFact.answered fun found => ⟨fun db => ∀ row, found = some row → db.Places row.key,
        fun kept h row hr => (h row hr).mono kept⟩) :=
    places_query fun w found placed _ read row hr => by
      obtain ⟨tenant, -, read⟩ := bind_eq_ok.mp read
      obtain ⟨variant, -, read⟩ := bind_eq_ok.mp read
      obtain ⟨warehouse, -, last⟩ := bind_eq_ok.mp read
      rw [hr] at last
      exact placed.rows row (Table.mem_of_find? (Except.ok.inj last))
  refine reads.next (fun found => ?_) fun _ _ => trivial
  cases found with
  | some row => exact places_ret fun _ known => known.2 row rfl
  | none =>
      cases made : m.absent with
      | ok draft => exact places_ret fun _ known => known.1 draft made
      | error missing => exact places_ret fun _ _ => trivial

/-- A step of an attempt and what follows its answer. -/
theorem Places.attempt {p : Attempt β} {f : β → Attempt α}
    (h : Places P (p.run v) fun _ => .none)
    (rest : ∀ b v', Places P ((f b).run v') fun _ => .none) :
    Places P ((p >>= f).run v) fun _ => .none := by
  rw [Attempt.run_bind]
  refine h.bind fun answer => ?_
  obtain ⟨answer, v'⟩ := answer
  cases answer with
  | ok b => exact (rest b v').mono (fun _ known => known.1) fun _ _ _ => trivial
  | error e => exact places_ret fun _ _ => trivial

theorem Places.lifted {p : Svc β} (h : Places P p.run fun _ => .none) :
    Places P ((Attempt.lift p).run v) fun _ => .none := by
  rw [Attempt.run_lift]
  exact h.bind fun _ => places_ret fun _ _ => trivial

theorem Places.caught {p : Attempt α} {handle : Err → Attempt α}
    (h : Places P (p.run v) fun _ => .none)
    (rest : ∀ e v', Places P ((handle e).run v') fun _ => .none) :
    Places P ((tryCatch p handle : Attempt α).run v) fun _ => .none := by
  rw [Attempt.run_tryCatch]
  refine h.bind fun answer => ?_
  obtain ⟨answer, v'⟩ := answer
  cases answer with
  | ok a => exact places_ret fun _ _ => trivial
  | error e => exact (rest e v').mono (fun _ known => known.1) fun _ _ _ => trivial

theorem places_callback (m : Movement) (tx : ℕ) :
    Places (.absent m) ((m.callback tx).run v) fun _ => .none := by
  unfold Movement.callback
  rw [Attempt.run_bind, Attempt.run_lift, Prog.bind_assoc]
  refine (places_find m).bind fun answer => ?_
  cases answer with
  | error e => exact places_ret fun _ _ => trivial
  | ok stock =>
      rw [Prog.ret_bind]
      dsimp only [Attempt.next]
      cases m.refused stock with
      | some err => exact places_ret fun _ _ => trivial
      | none =>
          refine Places.attempt (.lifted ((places_saveStock _).mono (fun db known => ?_)
            fun _ _ _ => trivial)) fun saved v' => places_ret fun _ _ => trivial
          have stored : stock.Placed db := known.2
          cases stock with
          | created draft => exact stored
          | loaded row => exact stored

theorem places_transaction (m : Movement) :
    Places (.absent m) ((transaction m.callback).run v) fun _ => .none := by
  unfold transaction
  refine Places.attempt (.lifted ?_) fun tx v' => .caught (.attempt (places_callback m tx)
    fun saved v' => .attempt (.lifted ?_) fun _ v' => places_ret fun _ _ => trivial)
    fun e v' => .attempt (.lifted ?_) fun _ v' => places_ret fun _ _ => trivial
  · exact places_atom (fun w placed _ =>
      ⟨⟨placed.rows, placed.pending⟩, .refl w.db, trivial⟩)
      fun _ _ => trivial
  · refine places_atom (fun w placed _ => ?_) fun _ _ => trivial
    exact ⟨placed.commit tx, ⟨fun _ _ h => h, fun _ _ h => h⟩, trivial⟩
  · refine places_atom (fun w placed _ => ?_) fun _ _ => trivial
    exact ⟨⟨placed.rows, fun p hp => placed.pending p (List.mem_of_mem_filter hp)⟩,
      .refl w.db,
      trivial⟩

theorem places_retryFrom (m : Movement) (left attempt : ℕ) :
    Places (.absent m) ((RetryBackoff.retryFrom timer (transaction m.callback) retryOptions
      exhausted left attempt).run v) fun _ => .none := by
  induction left generalizing attempt v with
  | zero => exact places_ret fun _ _ => trivial
  | succ left ih =>
      unfold RetryBackoff.retryFrom
      refine Places.caught (places_transaction m) fun e v' => ?_
      split
      · exact places_ret fun _ _ => trivial
      · -- the draw and the sleep leave the tables alone
        intro own w placed known
        refine ⟨⟨trivial, ⟨placed.rows, placed.pending⟩, fun _ _ => .refl w.db⟩,
          fun t kept placed => ?_, fun e impossible => impossible.elim⟩
        refine ⟨⟨trivial, ⟨placed.rows, placed.pending⟩, fun _ _ => .refl t.db⟩,
          fun u kept' placed => ?_, fun e impossible => impossible.elim⟩
        exact ih _ _ _ placed ((ItemFact.absent m).mono kept' ((ItemFact.absent m).mono kept known))

theorem places_run (m : Movement) (context : Option AuditContextData) :
    Places (.absent m) (m.run context).run fun _ => .none := by
  show Places (.absent m) ((m.attempts.run none).bind _) _
  refine Places.bind (places_retryFrom m _ _) fun answer => ?_
  obtain ⟨answer, captured⟩ := answer
  cases answer with
  | error e => exact places_ret fun _ _ => trivial
  | ok saved =>
      cases captured with
      | none => exact places_ret fun _ _ => trivial
      | some movement =>
          refine places_of_keepsItems fun w₀ => Svc.keeps_bind (Svc.keeps_bind ?_ fun _ => ?_)
            fun _ => Svc.keeps_pure _
          · exact keepsItems_record _ _
          · exact ⟨fun _ before _ => ⟨before.items, before.stock, before.pending⟩,
              fun _ => trivial⟩

/-- A text that reads as a tenant's id, and what is known of that tenant. -/
def ItemFact.under (tenantId : String) (Q : Uuid → ItemFact) : ItemFact where
  holds db := ∀ tenant, uuidParam tenantId = .ok tenant → (Q tenant).holds db
  mono kept h tenant owner := (Q tenant).mono kept (h tenant owner)

theorem places_findOneById (tenantId variantId : String) :
    Places P (VariantService.findOneById tenantId variantId).run
      (ItemFact.answered fun variant => .under tenantId fun A => .variant A variant.id) :=
  places_found rfl rfl (fun _ => rfl) fun w variant _ _ read tenant owner => by
    obtain ⟨i, -, read⟩ := bind_eq_ok.mp read
    obtain ⟨tenant', owner', last⟩ := bind_eq_ok.mp read
    cases owner.symm.trans owner'
    have passed := Table.holds_of_find? (Except.ok.inj last)
    simp only [Bool.and_eq_true, beq_iff_eq] at passed
    exact ⟨variant, Table.mem_of_find? (Except.ok.inj last), rfl, passed.1.1.2⟩

theorem places_findWarehouse (tenantId id : String) :
    Places P (WarehouseService.findOne tenantId id).run
      (ItemFact.answered fun warehouse => .under tenantId fun A => .warehouse A warehouse.id) :=
  places_found rfl rfl (fun _ => rfl) fun w warehouse _ _ read tenant owner => by
    obtain ⟨tenant', owner', read⟩ := bind_eq_ok.mp read
    obtain ⟨i, -, last⟩ := bind_eq_ok.mp read
    cases owner.symm.trans owner'
    have passed := Table.holds_of_find? (Except.ok.inj last)
    simp only [Bool.and_eq_true, beq_iff_eq] at passed
    exact ⟨warehouse, Table.mem_of_find? (Except.ok.inj last), rfl, passed.1.1⟩

theorem places_discard {p : Svc α} (h : Places P p.run fun _ => .none) :
    Places P (do let _ ← p : Svc Unit).run fun _ => .none := by
  rw [Svc.run_bind]
  refine h.bind fun answer => ?_
  cases answer with
  | ok a => exact places_ret fun _ _ => trivial
  | error e => exact places_ret fun _ _ => trivial

/-- A movement that creates no row. -/
theorem places_move {m : Movement} {missing : Err} (absent : m.absent = .error missing)
    (context : Option AuditContextData) :
    Places P (do let _ ← m.run context : Svc Unit).run fun _ => .none := by
  refine places_discard ((places_run m context).mono (fun db _ draft made => ?_)
    fun _ _ _ => trivial)
  rw [absent] at made
  cases made

theorem StockCall.program_places (call : StockCall) (context : Option AuditContextData) :
    Places .none (call.program context).run fun _ => .none := by
  obtain ⟨op, tenantId, dto⟩ := call
  cases op with
  | reserve => exact places_move rfl context
  | release => exact places_move rfl context
  | deduct =>
      refine (places_findOneById tenantId dto.variantId).next (fun variant => ?_) fun _ _ => trivial
      refine (places_findWarehouse tenantId dto.warehouseId).next (fun warehouse => ?_)
        fun _ _ => trivial
      exact places_move rfl context
  | replenish =>
      refine places_discard ?_
      refine (places_findWarehouse tenantId dto.warehouseId).next (fun warehouse => ?_)
        fun _ _ => trivial
      refine (places_findOneById tenantId dto.variantId).next (fun variant => ?_) fun _ _ => trivial
      refine (places_run _ context).mono (fun db known draft made tenant owner => ?_)
        fun _ _ _ => trivial
      cases made
      exact ⟨known.2 tenant owner, known.1.2 tenant owner⟩

end Stock

/-! ## Calls in flight -/

/-- A call of the application: of the inventory, one that leaves an audit trail, or any
other that takes out no variant and no warehouse and writes no stock rows. -/
inductive ShopCall
  | stock (call : StockCall) (context : Option AuditContextData)
  | audited (op : AuditedOp) (context : Option AuditContextData) (tenantId : String)
  | other (p : Svc Unit) (keeps : ∀ w₀, Svc.KeepsItems w₀ p)

section Calls

variable {platform : Platform} {bcrypt : Bcrypt} {ι : Type}

def ShopCall.program (platform : Platform) (bcrypt : Bcrypt) : ShopCall → Svc Unit
  | stock call context => call.program context
  | audited op context tenantId => op.program platform bcrypt context tenantId
  | other p _ => p

theorem places_discarded {p : Svc α} (h : ∀ w₀, Svc.KeepsItems w₀ p) :
    Places .none (discard p : Svc Unit).run fun _ => .none :=
  places_discard (places_of_keepsItems h)

theorem AuditedOp.program_places (op : AuditedOp) (context : Option AuditContextData)
    (tenantId : String) :
    Places .none (op.program platform bcrypt context tenantId).run fun _ => .none := by
  cases op with
  | createCategory dto => exact places_discarded fun w₀ => CategoryService.create_keepsItems dto
  | updateCategory id dto =>
      exact places_discarded fun w₀ => CategoryService.update_keepsItems dto
  | removeCategory id => exact places_of_keepsItems fun w₀ => CategoryService.remove_keepsItems
  | createProduct dto => exact places_discarded fun w₀ => ProductService.create_keepsItems dto
  | updateProduct id dto => exact places_discarded fun w₀ => ProductService.update_keepsItems dto
  | removeProduct id => exact places_of_keepsItems fun w₀ => ProductService.remove_keepsItems
  | createVariant productId dto =>
      exact places_discarded fun w₀ => VariantService.create_keepsItems productId dto
  | updateVariant productId variantId dto =>
      exact places_discard (VariantService.update_places productId variantId dto)
  | removeVariant productId variantId =>
      exact places_of_keepsItems fun w₀ => VariantService.remove_keepsItems productId variantId
  | createWarehouse dto => exact places_discarded fun w₀ => WarehouseService.create_keepsItems dto
  | updateWarehouse id dto => exact places_discard (WarehouseService.update_places id dto)
  | removeWarehouse id => exact places_of_keepsItems fun w₀ => WarehouseService.remove_keepsItems
  | createSupplier dto => exact places_discarded fun w₀ => SupplierService.create_keepsItems dto
  | updateSupplier id dto =>
      exact places_discarded fun w₀ => SupplierService.update_keepsItems dto
  | removeSupplier id => exact places_of_keepsItems fun w₀ => SupplierService.remove_keepsItems
  | inviteUser dto =>
      exact places_discarded fun w₀ => TenantUserManagementService.inviteUser_keepsItems dto
  | updateUserRole userId dto =>
      exact places_discarded fun w₀ =>
        TenantUserManagementService.updateUserRole_keepsItems userId dto
  | updateSettings dto =>
      exact places_discarded fun w₀ => TenantSettingService.updateSettings_keepsItems dto

theorem ShopCall.program_places (call : ShopCall) :
    Places .none (call.program platform bcrypt).run fun _ => .none := by
  cases call with
  | stock call context => exact call.program_places context
  | audited op context tenantId => exact op.program_places context tenantId
  | other p keeps => exact places_of_keepsItems keeps

/-- Calls that run beside each other. -/
def shopPool (platform : Platform) (bcrypt : Bcrypt) (calls : ι → ShopCall) (w : World) :
    Pool World Err Label ι (Except Err Unit) where
  state := w
  progs i := ((calls i).program platform bcrypt).run

/-- However the calls interleave and fail, stock rows stay with items of their tenant. -/
theorem placed_reached [DecidableEq ι] {calls : ι → ShopCall} {w : World}
    {c : Pool World Err Label ι (Except Err Unit)} (placed : w.Placed)
    (reach : Pool.Reach dbFault (fun _ _ _ => True) (shopPool platform bcrypt calls w) c) :
    c.state.Placed := by
  have start : placing.Disciplined (fun _ _ _ _ => True) (shopPool platform bcrypt calls w) :=
    Discipline.disciplined_start placed fun i t placed =>
      (calls i).program_places _ t placed trivial
  exact (Discipline.disciplined_reach start reach).1

end Calls

end Tenantory
