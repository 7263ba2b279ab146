import Tenantory.ConfinedListing
import Tenantory.StockAttempts

/-! The four stock operations are confined to the tenant that they are called for. What a
transaction has written is pending until it commits; the row is one of the tenant, so that
the commit changes the tenant's part of the table only. -/

namespace Tenantory

open UuidText Stored Owned Svc InventoryService

/-! ## Writes of a transaction -/

/-- The write is one of the tenant: the row that it inserts is new and names items of the
tenant, or the row that it changes is the tenant's. -/
def StockWrite.Fits (A : Uuid) (db : Database) : StockWrite → Prop
  | insert row => row.tenantId = A ∧ db.variants.Owns A row.variantId ∧
      db.warehouses.Owns A row.warehouseId ∧ ∀ s ∈ db.stockLevels, s.id ≠ row.id
  | update id _ => db.stockLevels.Owns A id

section Writes

variable {A : Uuid} {db : Database} {change : StockWrite} {row : StockLevel}

/-- Rows of other tenants name other variants, so that they cannot conflict. -/
theorem conflict_foreign (isolated : db.Isolated)
    (fits : (StockWrite.insert row).Fits A db) {s : StockLevel} (mem : s ∈ db.stockLevels)
    (foreign : s.tenantId ≠ A) : conflict row s = false := by
  obtain ⟨-, variant, -, fresh⟩ := fits
  by_contra meets
  have meets : (row.id == s.id ||
      (row.variantId == s.variantId && row.warehouseId == s.warehouseId)) = true :=
    Bool.eq_true_of_not_eq_false meets
  rcases Bool.or_eq_true_iff.mp meets with same | both
  · exact fresh s mem (beq_iff_eq.mp same).symm
  · have same : row.variantId = s.variantId := beq_iff_eq.mp (Bool.and_eq_true_iff.mp both).1
    obtain ⟨v, stored, named, owner⟩ := same ▸ variant
    have refers := isolated.variant s mem
    rw [← named] at refers
    exact foreign ((Table.Owns.owner refers stored).symm.trans owner)

theorem apply_inside (isolated : db.Isolated) (fits : change.Fits A db) :
    change.apply (db.stockLevels.ofOwners (· == A)) =
      (change.apply db.stockLevels).ofOwners (· == A) := by
  cases change with
  | insert row =>
      have kept : (Entity.owner row == A) = true := beq_iff_eq.mpr fits.1
      have inserted : (db.stockLevels.ofOwners (· == A)).insert? row =
          (db.stockLevels.insert? row).map (Table.ofOwners (· == A)) :=
        Table.insert?_only kept fun s mem out =>
          conflict_foreign isolated fits mem (by simpa using out)
      simp only [StockWrite.apply, inserted]
      cases db.stockLevels.insert? row <;> rfl
  | update id patch =>
      have own : ∀ s ∈ db.stockLevels, (s.id == id) = true →
        (Entity.owner s == A) = true := by
        intro s mem same
        exact beq_iff_eq.mpr (Table.Owns.owner_of_id fits mem (beq_iff_eq.mp same))
      exact Table.rows_inj (Table.filter_update patch.apply own own).symm

theorem apply_outside (fits : change.Fits A db) :
    (change.apply db.stockLevels).ofOwners (· != A) = db.stockLevels.ofOwners (· != A) := by
  cases change with
  | insert row =>
      have out : (Entity.owner row != A) = false := by
        have owner : Entity.owner row = A := fits.1
        simp [owner]
      cases inserted : db.stockLevels.insert? row with
      | none => simp only [StockWrite.apply, inserted, Option.getD_none]
      | some t =>
          simp only [StockWrite.apply, inserted, Option.getD_some]
          exact Table.only_of_insert? out inserted
  | update id patch =>
      refine Table.only_of_map (Table.rows_modify _ _ patch.apply fun _ _ => rfl) (fun s _ => ?_)
        fun s mem foreign => ?_
      · split
        · rfl
        · rfl
      · have other : (s.id == id) = false := by
          by_contra same
          have same : s.id = id := by simpa using same
          have owner : Entity.owner s = A := Table.Owns.owner_of_id fits mem same
          simp [owner] at foreign
        simp [other]

/-- The rows after the write: those that were there, some of them changed in their
quantities, and the inserted one. -/
theorem mem_apply {s : StockLevel} (mem : s ∈ change.apply db.stockLevels) :
    (∃ r ∈ db.stockLevels, s.id = r.id ∧ s.key = r.key) ∨ change = .insert s := by
  cases change with
  | insert row =>
      cases inserted : db.stockLevels.insert? row with
      | none =>
          simp only [StockWrite.apply, inserted, Option.getD_none] at mem
          exact .inl ⟨s, mem, rfl, rfl⟩
      | some t =>
          simp only [StockWrite.apply, inserted, Option.getD_some] at mem
          rcases (Table.mem_insert? inserted).mp mem with old | rfl
          · exact .inl ⟨s, old, rfl, rfl⟩
          · exact .inr rfl
  | update id patch =>
      have mem : s ∈ db.stockLevels.modify (·.id == id) patch.apply fun _ _ => rfl := mem
      obtain ⟨r, stored, rfl⟩ := Table.mem_modify.mp mem
      refine .inl ⟨r, stored, ?_⟩
      split
      · exact ⟨rfl, key_apply patch r⟩
      · exact ⟨rfl, rfl⟩

theorem owns_apply {B id : Uuid} (own : db.stockLevels.Owns B id) :
    (change.apply db.stockLevels).Owns B id := by
  obtain ⟨r, stored, named, owner⟩ := own
  cases change with
  | insert row =>
      cases inserted : db.stockLevels.insert? row with
      | none =>
          simp only [StockWrite.apply, inserted, Option.getD_none]
          exact ⟨r, stored, named, owner⟩
      | some t =>
          simp only [StockWrite.apply, inserted, Option.getD_some]
          exact ⟨r, (Table.mem_insert? inserted).mpr (.inl stored), named, owner⟩
  | update id' patch =>
      refine ⟨if r.id == id' then patch.apply r else r,
        List.mem_map.mpr ⟨r, stored, rfl⟩, ?_⟩
      split
      · exact ⟨named, owner⟩
      · exact ⟨named, owner⟩

theorem withWrite_restrict (isolated : db.Isolated) (fits : change.Fits A db) :
    (db.restrict A).withWrite change = (db.withWrite change).restrict A := by
  have inside := apply_inside isolated fits
  show Database.mk _ _ _ _ _ _ _ _ _ _ _ = Database.mk _ _ _ _ _ _ _ _ _ _ _
  congr 1

theorem withWrite_grown (fits : change.Fits A db) :
    Database.Grown A db (db.withWrite change) := by
  have ext : db.Extends (db.withWrite change) :=
    { Database.Extends.refl db with stockLevels := fun _ _ own => owns_apply own }
  refine ⟨?_, ext, fun isolated => { isolated with variant := ?_, warehouse := ?_ }⟩
  · have outside := apply_outside fits
    show Database.mk _ _ _ _ _ _ _ _ _ _ _ = Database.mk _ _ _ _ _ _ _ _ _ _ _
    congr 1
  · intro s mem
    rcases mem_apply mem with ⟨r, stored, -, same⟩ | rfl
    · have variant := isolated.variant r stored
      have tenant : s.tenantId = r.tenantId := congrArg StockKey.tenantId same
      have named : s.variantId = r.variantId := congrArg StockKey.variantId same
      rw [tenant, named]
      exact variant
    · rw [fits.1]
      exact fits.2.1
  · intro s mem
    rcases mem_apply mem with ⟨r, stored, -, same⟩ | rfl
    · have warehouse := isolated.warehouse r stored
      have tenant : s.tenantId = r.tenantId := congrArg StockKey.tenantId same
      have named : s.warehouseId = r.warehouseId := congrArg StockKey.warehouseId same
      rw [tenant, named]
      exact warehouse
    · rw [fits.1]
      exact fits.2.2.1

end Writes

/-! ## Open transactions -/

/-- The tenant's transaction is open and has written at most one row. -/
structure World.Staging (A : Uuid) (tx : ℕ) (w : World) : Prop where
  settled : World.Sound { w with pending := [] }
  pending : w.pending = [] ∨ ∃ change, w.pending = [(tx, change)] ∧ change.Fits A w.db

variable {A : Uuid} {tx : ℕ} {w : World}

theorem World.Sound.staging (sound : w.Sound) : w.Staging A tx :=
  ⟨{ sound with idle := rfl }, .inl sound.idle⟩

theorem World.Staging.rollback (staging : w.Staging A tx) : (w.rollback tx).Sound := by
  have gone : w.pending.filter (·.1 != tx) = [] := by
    rcases staging.pending with none | ⟨change, one, -⟩
    · rw [none]
      rfl
    · simp [one]
  exact { staging.settled with idle := gone }

theorem confines_rollback : (tenantRealm A).Confines (fun w => w.Staging A tx)
    (rollbackTransaction tx).run fun r w => r = .ok () ∧ w.Sound :=
  confines_part (fun _ _ _ => ⟨rfl, by simp [rollbackTransaction, perform, World.rollback,
    World.restrict]⟩) fun w staging _ =>
      ⟨⟨rfl, .refl w.db⟩, rfl, staging.rollback⟩

theorem commit_none (none : w.pending = []) :
    w.commit tx = { w with journal := w.journal ++ [.committed tx] } := by
  unfold World.commit
  rw [none]
  obtain ⟨db, cache, pending, nextTx, clock, ids, draws, ties, journal⟩ := w
  cases none
  rfl

theorem commit_one {change : StockWrite} (one : w.pending = [(tx, change)]) :
    w.commit tx = { w with
      db := w.db.withWrite change
      pending := []
      journal := w.journal ++ [.committed tx] } := by
  unfold World.commit
  rw [one]
  simp [Database.withWrite]

theorem confines_commit : (tenantRealm A).Confines (fun w => w.Staging A tx)
    (commitTransaction tx).run fun r w => r = .ok () ∧ w.Sound := by
  refine confines_part (fun w staging _ => ⟨rfl, ?_⟩) fun w staging _ => ?_
  · change ((w.restrict A).commit tx).restrict A = (w.commit tx).restrict A
    rcases staging.pending with none | ⟨change, one, fits⟩
    · rw [commit_none none, commit_none (w := w.restrict A) none]
      simp [World.restrict]
    · rw [commit_one one, commit_one (w := w.restrict A) one]
      simp [World.restrict, withWrite_restrict staging.settled.isolated fits]
  · change w.Acted A (w.commit tx) ∧ _ ∧ (w.commit tx).Sound
    rcases staging.pending with none | ⟨change, one, fits⟩
    · rw [commit_none none]
      exact ⟨⟨rfl, .refl w.db⟩, rfl, { staging.settled with idle := none }⟩
    · have grown := withWrite_grown fits
      rw [commit_one one]
      refine ⟨⟨congrArg (Prod.mk · _) grown.outside, grown.extend⟩, rfl, ?_⟩
      exact {
        isolated := grown.isolated staging.settled.isolated
        cache := fun e he => (staging.settled.cache e he).mono grown.extend
        idle := rfl }

/-! ## Statements of a transaction -/

/-- What a transaction saves: a draft under the tenant for items of the tenant, or one of
its rows. -/
def StockEntity.OwnedBy (A : Uuid) (db : Database) : StockEntity → Prop
  | .created draft => draft.tenantId = uuidOut A ∧ db.variants.Owns A draft.variantId ∧
      db.warehouses.Owns A draft.warehouseId
  | .loaded row => db.stockLevels.Owns A row.id

theorem StockEntity.OwnedBy.mono {db db' : Database} {stock : StockEntity} (ext : db.Extends db')
    (h : stock.OwnedBy A db) : stock.OwnedBy A db' := by
  cases stock with
  | created draft => exact ⟨h.1, ext.variants _ _ h.2.1, ext.warehouses _ _ h.2.2⟩
  | loaded row => exact ext.stockLevels _ _ h

def Fact.stockEntity (A : Uuid) (stock : StockEntity) : Fact where
  holds := stock.OwnedBy A
  mono := StockEntity.OwnedBy.mono

/-- What the movement makes of a missing row. -/
def Fact.absent (A : Uuid) (m : Movement) : Fact where
  holds db := ∀ draft, m.absent = .ok draft → (StockEntity.created draft).OwnedBy A db
  mono ext h draft made := (h draft made).mono ext

theorem stockRead_restrict (isolated : w.db.Isolated) (variantId warehouseId : String) :
    stockRead (uuidOut A) variantId warehouseId (w.restrict A) =
      stockRead (uuidOut A) variantId warehouseId w := by
  unfold stockRead
  rw [uuidParam_uuidOut]
  cases uuidParam variantId with
  | error e => rfl
  | ok variant =>
      cases uuidParam warehouseId with
      | error e => rfl
      | ok warehouse =>
          refine congrArg Except.ok (Table.find?_ofOwner (fun r h => ?_) fun r mem owner => ?_)
          · simp only [Bool.and_eq_true, beq_iff_eq] at h
            exact h.1.1.1.1
          · have owner : r.tenantId = A := owner
            by_cases items : r.variantId = variant ∧ r.warehouseId = warehouse
            · obtain ⟨rfl, rfl⟩ := items
              have variants : (w.restrict A).db.liveVariant r.variantId =
                  w.db.liveVariant r.variantId :=
                liveVariant_restrict (owner ▸ isolated.variant r mem)
              have warehouses : (w.restrict A).db.liveWarehouse r.warehouseId =
                  w.db.liveWarehouse r.warehouseId :=
                liveWarehouse_restrict (owner ▸ isolated.warehouse r mem)
              rw [variants, warehouses]
            · have other : (r.variantId == variant && r.warehouseId == warehouse) = false := by
                by_contra both
                exact items (by simpa using both)
              rw [Bool.and_assoc (r.tenantId == A), other, Bool.and_false]
              rfl

theorem within_find {P : Fact} {m : Movement} (tenant : m.tenantId = uuidOut A)
    (absent : ∀ db, P.holds db → (Fact.absent A m).holds db) :
    Svc.Within A P m.find (.stockEntity A) := by
  unfold Movement.find lookup findStock
  rw [tenant]
  refine (within_query (Q := Fact.found fun row : StockLevel => .stock A row.id) fun w sound _ =>
    ⟨stockRead_restrict sound.isolated _ _, fun found read => ?_⟩).bind fun found => ?_
  · cases found with
    | none => trivial
    | some row =>
        unfold stockRead at read
        rw [uuidParam_uuidOut, bind_ok] at read
        obtain ⟨variant, -, read⟩ := bind_eq_ok.mp read
        obtain ⟨warehouse, -, read⟩ := bind_eq_ok.mp read
        have read := Except.ok.inj read
        have holds := Table.holds_of_find? read
        simp only [Bool.and_eq_true, beq_iff_eq] at holds
        exact ⟨row, Table.mem_of_find? read, rfl, holds.1.1.1.1⟩
  · cases found with
    | some row => exact within_pure fun db known => known.2
    | none =>
        dsimp only
        cases made : m.absent with
        | error missing => exact within_throw
        | ok draft => exact within_pure fun db known => absent db known.1 draft made

theorem referencesExist_restrict {db : Database} {row : StockLevel} (owner : row.tenantId = A)
    (variant : db.variants.Owns A row.variantId)
    (warehouse : db.warehouses.Owns A row.warehouseId) :
    referencesExist (db.restrict A) row = referencesExist db row := by
  have kept : (A == A) = true := beq_self_eq_true A
  have tenants : (db.restrict A).tenants.rows.any (·.id == row.tenantId) =
      db.tenants.rows.any (·.id == row.tenantId) := hasTenant_ofOwners (by rw [owner]; exact kept)
  have variants : (db.restrict A).variants.rows.any (·.id == row.variantId) =
      db.variants.rows.any (·.id == row.variantId) := variant.any_ofOwners kept
  have warehouses : (db.restrict A).warehouses.rows.any (·.id == row.warehouseId) =
      db.warehouses.rows.any (·.id == row.warehouseId) := warehouse.any_ofOwners kept
  unfold referencesExist
  rw [tenants, variants, warehouses]

theorem any_conflict_restrict {db : Database} {row : StockLevel}
    (isolated : db.Isolated) (fits : (StockWrite.insert row).Fits A db) :
    (db.restrict A).stockLevels.rows.any (conflict row) =
      db.stockLevels.rows.any (conflict row) := by
  refine Table.any_only (fun s mem meets => ?_) fun _ _ _ => rfl
  by_contra out
  have apart := conflict_foreign isolated fits mem (by simpa using out)
  rw [apart] at meets
  cases meets

/-- The row that the next INSERT stores. -/
theorem fits_next (fresh : w.Fresh) {row : StockLevel} (id : row.id = w.ids 0)
    (owner : row.tenantId = A) (variant : w.db.variants.Owns A row.variantId)
    (warehouse : w.db.warehouses.Owns A row.warehouseId) :
    (StockWrite.insert row).Fits A w.db := by
  refine ⟨owner, variant, warehouse, fun s mem => ?_⟩
  rw [id]
  exact fresh.next.stockLevels s mem

theorem confines_insertStock {draft : StockDraft} :
    (tenantRealm A).Confines
      (fun w => w.Sound ∧ (Fact.stockEntity A (.created draft)).holds w.db)
      (insertStock tx draft.variantId draft.warehouseId (draft.row A)).run
      fun _ w => w.Staging A tx := by
  refine confines_part (fun w known fresh => ?_) fun w known fresh => ?_
  · obtain ⟨sound, -, variant, warehouse⟩ := known
    have fits : (StockWrite.insert (draft.row A (w.ids 0) w.clock)).Fits A w.db :=
      fits_next fresh rfl rfl variant warehouse
    have meets := any_conflict_restrict sound.isolated fits
    have refers : referencesExist (w.db.restrict A) (draft.row A (w.ids 0) w.clock) =
        referencesExist w.db (draft.row A (w.ids 0) w.clock) :=
      referencesExist_restrict rfl variant warehouse
    change (insertAct tx (draft.row A) (w.restrict A)).1 = (insertAct tx (draft.row A) w).1 ∧
      (insertAct tx (draft.row A) (w.restrict A)).2.restrict A =
        (insertAct tx (draft.row A) w).2.restrict A
    have next : (w.restrict A).ids 0 = w.ids 0 ∧ (w.restrict A).clock = w.clock := ⟨rfl, rfl⟩
    unfold insertAct
    simp only [next, World.restrict_db, meets, refers]
    split
    · exact ⟨rfl, World.restrict_restrict A w⟩
    · split
      · exact ⟨rfl, World.restrict_restrict A w⟩
      · split
        · exact ⟨rfl, World.restrict_restrict A w⟩
        · exact ⟨rfl, by simp [World.restrict, World.write]⟩
  · obtain ⟨sound, -, variant, warehouse⟩ := known
    have fits : (StockWrite.insert (draft.row A (w.ids 0) w.clock)).Fits A w.db :=
      fits_next fresh rfl rfl variant warehouse
    change w.Acted A (insertAct tx (draft.row A) w).2 ∧
      (insertAct tx (draft.row A) w).2.Staging A tx
    unfold insertAct
    simp only
    split
    · exact ⟨(tenantRealm A).refl w, sound.staging⟩
    · split
      · exact ⟨(tenantRealm A).refl w, sound.staging⟩
      · split
        · exact ⟨(tenantRealm A).refl w, sound.staging⟩
        · refine ⟨⟨rfl, .refl w.db⟩, ?_, .inr ⟨_, ?_, fits⟩⟩
          · exact {
              isolated := sound.isolated
              cache := sound.cache
              idle := rfl }
          · simp [World.write, sound.idle]

theorem confines_updateStock (row : StockLevel) (available reserved : Option ℤ) :
    (tenantRealm A).Confines (fun w => w.Sound ∧ w.db.stockLevels.Owns A row.id)
      (updateStock tx row available reserved).run fun _ w => w.Staging A tx := by
  refine confines_part (fun w known _ => ?_) fun w known _ => ?_
  · obtain ⟨sound, own⟩ := known
    have stored : (w.restrict A).db.stockLevels.find? (·.id == row.id) =
        w.db.stockLevels.find? (·.id == row.id) :=
      Table.find?_only (fun r mem found => beq_iff_eq.mpr
        (Table.Owns.owner_of_id own mem (beq_iff_eq.mp found))) fun _ _ _ => rfl
    change (updateAct tx row available reserved (w.restrict A)).1 =
        (updateAct tx row available reserved w).1 ∧
      (updateAct tx row available reserved (w.restrict A)).2.restrict A =
        (updateAct tx row available reserved w).2.restrict A
    have clock : (w.restrict A).clock = w.clock := rfl
    unfold updateAct
    simp only [stored, clock]
    split
    · exact ⟨rfl, World.restrict_restrict A w⟩
    · exact ⟨rfl, by simp [World.restrict, World.write]⟩
  · obtain ⟨sound, own⟩ := known
    change w.Acted A (updateAct tx row available reserved w).2 ∧
      (updateAct tx row available reserved w).2.Staging A tx
    unfold updateAct
    split
    · exact ⟨(tenantRealm A).refl w, sound.staging⟩
    · have fits : (StockWrite.update row.id ⟨available, reserved, w.clock⟩).Fits A w.db := own
      refine ⟨⟨rfl, .refl w.db⟩, { sound with idle := rfl }, .inr ⟨_, ?_, fits⟩⟩
      simp [World.write, sound.idle]

theorem confines_saveStock (stock : StockEntity) :
    (tenantRealm A).Confines (fun w => w.Sound ∧ (Fact.stockEntity A stock).holds w.db)
      (saveStock tx stock).run fun _ w => w.Staging A tx := by
  cases stock with
  | created draft =>
      unfold saveStock
      dsimp only
      cases owner : uuidParam draft.tenantId with
      | error e => exact Realm.confines_ret fun _ known => known.1.staging
      | ok tenant =>
          by_cases own : tenant = A
          · rw [own]
            exact confines_insertStock
          · -- the draft is one of the tenant
            refine Realm.confines_absurd fun w known => own ?_
            have same : Except.ok tenant = (Except.ok A : Except Err Uuid) := by
              rw [← owner, known.2.1, uuidParam_uuidOut]
            exact Except.ok.inj same
  | loaded row =>
      unfold saveStock
      rw [Svc.run_bind]
      have reloads : (tenantRealm A).Confines
          (fun w => w.Sound ∧ w.db.stockLevels.Owns A row.id) (reloadStock row).run
          fun r w => (w.Sound ∧ w.db.stockLevels.Owns A row.id) ∧
            ∃ stored, r = .ok (some stored) := by
        refine confines_part (fun w known _ => ?_) fun w known _ => ?_
        · have stored : (w.restrict A).db.stockLevels.find? (·.id == row.id) =
              w.db.stockLevels.find? (·.id == row.id) :=
            Table.find?_only (fun r mem found => beq_iff_eq.mpr
              (Table.Owns.owner_of_id known.2 mem (beq_iff_eq.mp found))) fun _ _ _ => rfl
          exact ⟨congrArg Except.ok stored, World.restrict_restrict A w⟩
        · obtain ⟨stored, mem, found, -, -⟩ := known.2.find?
          exact ⟨(tenantRealm A).refl w, known, stored, congrArg Except.ok found⟩
      refine reloads.bind fun answer => ?_
      cases answer with
      | error e => exact Realm.confines_ret fun _ known => known.1.1.staging
      | ok found =>
          rw [Svc.next_ok]
          cases found with
          | none =>
              exact Realm.confines_absurd fun w known => by
                obtain ⟨stored, same⟩ := known.2
                cases same
          | some stored =>
              dsimp only
              split
              · exact Realm.confines_ret fun _ known => known.1.1.staging
              · exact (confines_updateStock row _ _).mono (fun _ known => known.1) fun _ _ h => h

/-! ## Transactions and retries -/

section Attempts

variable {P : Fact} {m : Movement} {v : Captured}

theorem confines_callback (tenant : m.tenantId = uuidOut A)
    (absent : ∀ db, P.holds db → (Fact.absent A m).holds db) :
    (tenantRealm A).Confines (fun w => w.Sound ∧ P.holds w.db) ((m.callback tx).run v)
      fun _ w => w.Staging A tx := by
  unfold Movement.callback
  rw [Attempt.run_bind, Attempt.run_lift, Prog.bind_assoc]
  refine (within_find tenant absent).keeping.bind fun answer => ?_
  rw [Prog.ret_bind]
  cases answer with
  | error e => exact Realm.confines_ret fun _ known => known.1.staging
  | ok stock =>
      dsimp only [Attempt.next]
      cases m.refused stock with
      | some err => exact Realm.confines_ret fun _ known => known.1.staging
      | none =>
          dsimp only
          rw [Attempt.run_bind, Attempt.run_lift, Prog.bind_assoc]
          refine ((confines_saveStock _).mono (fun w known => ⟨known.1, ?_⟩)
            fun _ _ h => h).bind
            fun saved => ?_
          · have owned : stock.OwnedBy A w.db := known.2.2 stock rfl
            cases stock with
            | created draft => exact owned
            | loaded row => exact owned
          · rw [Prog.ret_bind]
            cases saved with
            | error e => exact Realm.confines_ret fun _ staging => staging
            | ok saved => exact Realm.confines_ret fun _ staging => staging

theorem confines_begin : (tenantRealm A).Confines World.Sound startTransaction.run
    fun _ w => w.Sound :=
  confines_part (fun _ _ _ => ⟨rfl, by simp [startTransaction, perform, World.restrict]⟩)
    fun w sound _ => ⟨⟨rfl, .refl w.db⟩, { sound with }⟩

/-- The open transaction is settled, by a commit or by a rollback. -/
theorem confines_settled (tenant : m.tenantId = uuidOut A)
    (absent : ∀ db, P.holds db → (Fact.absent A m).holds db) :
    (tenantRealm A).Confines (fun w => w.Sound ∧ P.holds w.db)
      ((transaction m.callback).run v) fun _ w => w.Sound := by
  unfold transaction
  rw [Attempt.run_bind, Attempt.run_lift, Prog.bind_assoc]
  refine (confines_begin.frame fun _ _ step => P.mono step.extend).bind fun tx => ?_
  rw [Prog.ret_bind]
  cases tx with
  | error e => exact Realm.confines_ret fun _ known => known.1
  | ok tx =>
      dsimp only [Attempt.next]
      rw [Attempt.run_tryCatch, Attempt.run_bind, Prog.bind_assoc]
      refine (confines_callback tenant absent).bind fun answer => ?_
      obtain ⟨answer, v'⟩ := answer
      have rolled : ∀ err : Err, (tenantRealm A).Confines (fun w => w.Staging A tx)
          ((do Attempt.lift (rollbackTransaction tx); throw err : Attempt StockLevel).run v')
          fun _ w => w.Sound := by
        intro err
        rw [Attempt.run_bind, Attempt.run_lift, Prog.bind_assoc]
        refine confines_rollback.bind fun done => ?_
        rw [Prog.ret_bind]
        cases done with
        | error e => exact Realm.confines_ret fun _ known => known.2
        | ok done => exact Realm.confines_ret fun _ known => known.2
      cases answer with
      | error err => exact rolled err
      | ok saved =>
          dsimp only [Attempt.next]
          rw [Attempt.run_bind, Attempt.run_lift, Prog.bind_assoc, Prog.bind_assoc]
          refine confines_commit.bind fun done => ?_
          rw [Prog.ret_bind]
          cases done with
          | error e =>
              exact Realm.confines_absurd fun w known => by cases known.1
          | ok done => exact Realm.confines_ret fun _ known => known.2

theorem confines_transaction (tenant : m.tenantId = uuidOut A)
    (absent : ∀ db, P.holds db → (Fact.absent A m).holds db) :
    (tenantRealm A).Confines (fun w => w.Sound ∧ P.holds w.db)
      ((transaction m.callback).run v) fun _ w => w.Sound ∧ P.holds w.db :=
  ((confines_settled tenant absent).frame fun _ _ step => P.mono step.extend).mono
    (fun _ known => ⟨known, known.2⟩) fun _ _ h => h

/-- A random draw or a sleep. -/
theorem confines_draws {α β : Type} {a : Atom World Err Label β} {k : Except Err β → Step α}
    {post : α → World → Prop} (alike : ∀ w, (a.act (w.restrict A)).1 = (a.act w).1)
    (seen : ∀ w, (a.act (w.restrict A)).2.restrict A = (a.act w).2.restrict A)
    (draws : ∀ w, ∃ draws, (a.act w).2 = { w with draws := draws })
    (rest : ∀ r, (tenantRealm A).Confines (fun w => w.Sound ∧ P.holds w.db) (k r) post) :
    (tenantRealm A).Confines (fun w => w.Sound ∧ P.holds w.db) (.atom a k) post := by
  refine Realm.Confines.bind (p := .atom a .ret) (confines_part
    (fun w _ _ => ⟨alike w, seen w⟩) fun w known _ => ?_) rest
  obtain ⟨later, same⟩ := draws w
  have run : (Prog.run (.atom a .ret) w).2 = { w with draws := later } := same
  rw [run]
  exact ⟨⟨rfl, .refl w.db⟩, { known.1 with }, known.2⟩

theorem confines_retryFrom (tenant : m.tenantId = uuidOut A)
    (absent : ∀ db, P.holds db → (Fact.absent A m).holds db) (left attempt : ℕ) :
    (tenantRealm A).Confines (fun w => w.Sound ∧ P.holds w.db)
      ((RetryBackoff.retryFrom timer (transaction m.callback) retryOptions exhausted left
        attempt).run v) fun _ w => w.Sound := by
  induction left generalizing attempt v with
  | zero => exact Realm.confines_ret fun _ known => known.1
  | succ left ih =>
      unfold RetryBackoff.retryFrom
      rw [Attempt.run_tryCatch]
      refine (confines_transaction tenant absent).bind fun answer => ?_
      obtain ⟨answer, v'⟩ := answer
      cases answer with
      | ok saved => exact Realm.confines_ret fun _ known => known.1
      | error e =>
          dsimp only [Attempt.handle]
          split
          · exact Realm.confines_ret fun _ known => known.1
          · -- the draw and the sleep leave what is known as it is
            refine confines_draws (fun _ => rfl) (fun w => by simp [World.restrict])
              (fun w => ⟨_, rfl⟩) fun draw => ?_
            exact confines_draws (fun _ => rfl) (World.restrict_restrict A)
              (fun w => ⟨w.draws, rfl⟩) fun _ => ih _

theorem within_move (tenant : m.tenantId = uuidOut A)
    (absent : ∀ db, P.holds db → (Fact.absent A m).holds db)
    (context : Option AuditContextData) : Svc.Within A P (m.run context) fun _ => .none := by
  show (tenantRealm A).Confines _ ((m.attempts.run none).bind _) _
  refine (confines_retryFrom tenant absent _ _).bind fun answer => ?_
  obtain ⟨answer, captured⟩ := answer
  have publishes : ∀ (saved : StockLevel) (movement : StockMovementEvent),
      Svc.Within A .none (do publishStockMovement context movement; pure saved : Svc StockLevel)
        fun _ => .none := fun saved movement =>
    (within_record.bind fun _ => within_emit).bind fun _ => within_pure fun _ _ => trivial
  cases answer with
  | error e => exact Realm.confines_ret fun _ sound => ⟨sound, fun _ _ => trivial⟩
  | ok saved =>
      cases captured with
      | none => exact Realm.confines_ret fun _ sound => ⟨sound, fun _ _ => trivial⟩
      | some movement =>
          exact Realm.Confines.mono (publishes saved movement) (fun _ sound => ⟨sound, trivial⟩)
            fun _ _ h => h

end Attempts

/-! ## The operations -/

namespace InventoryService

variable {context : Option AuditContextData} {dto : StockDto}

/-- A movement that creates no row. -/
theorem within_moving {P : Fact} {m : Movement} {missing : Err} (tenant : m.tenantId = uuidOut A)
    (absent : m.absent = .error missing) :
    Svc.Within A P (do let _ ← m.run context : Svc Unit) fun _ => .none := by
  refine (within_move tenant (fun _ _ draft made => ?_) context).bind fun _ =>
    within_pure fun _ _ => trivial
  rw [absent] at made
  cases made

theorem within_reserveStock :
    Svc.Within A .none (reserveStock context (uuidOut A) dto) fun _ => .none :=
  within_moving rfl rfl

theorem within_releaseStock :
    Svc.Within A .none (releaseStock context (uuidOut A) dto) fun _ => .none :=
  within_moving rfl rfl

theorem within_deductStock :
    Svc.Within A .none (deductStock context (uuidOut A) dto) fun _ => .none :=
  (VariantService.within_findOneById dto.variantId).weaken.bind fun _ =>
    (WarehouseService.within_findOne dto.warehouseId).weaken.bind fun _ => within_moving rfl rfl

theorem within_replenish :
    Svc.Within A .none (replenish context (uuidOut A) dto) fun _ => .none := by
  refine (WarehouseService.within_findOne dto.warehouseId).weaken.bind fun warehouse => ?_
  refine (VariantService.within_findOneById dto.variantId).weaken.bind fun variant => ?_
  refine within_move rfl (fun db known draft made => ?_) context
  cases made
  exact ⟨rfl, known.2, known.1.2.1⟩

end InventoryService

end Tenantory
