import Tenantory.StockLedger
import Tenantory.StockPlacement

/-! Stock calls that name a variant or a warehouse that is removed or another tenant's.
`deductStock` and `replenish` look both up first; `reserveStock` and `releaseStock` only
look for the row, whose joins pass over removed items and which is never that of another
tenant's item. -/

namespace Tenantory

open InventoryService

/-- The key names a variant or a warehouse that is soft-deleted or another tenant's. -/
inductive Database.DeadItem (db : Database) (key : StockKey) : Prop
  | variant (v : ProductVariant) : v ∈ db.variants → v.id = key.variantId →
      v.deletedAt.isSome ∨ v.tenantId ≠ key.tenantId → DeadItem db key
  | warehouse (h : Warehouse) : h ∈ db.warehouses → h.id = key.warehouseId →
      h.deletedAt.isSome ∨ h.tenantId ≠ key.tenantId → DeadItem db key

variable {db : Database} {key : StockKey}

theorem Database.DeadItem.unread (dead : db.DeadItem key) :
    VariantService.readById db key.tenantId key.variantId = none ∨
      WarehouseService.readById db key.tenantId key.warehouseId = none := by
  cases dead with
  | variant v mem named gone =>
      refine .inl (Table.find?_eq_none.mpr fun r hr => ?_)
      by_contra passes
      simp only [Bool.and_eq_true, beq_iff_eq, Bool.not_eq_false] at passes
      obtain ⟨⟨⟨same, owner⟩, -⟩, live⟩ := passes
      obtain rfl : r = v := Table.eq_of_id hr mem (same.trans named.symm)
      rcases gone with removed | foreign
      · simp [Option.isNone_iff_eq_none.mp live] at removed
      · exact foreign owner
  | warehouse h mem named gone =>
      refine .inr (Table.find?_eq_none.mpr fun r hr => ?_)
      by_contra passes
      simp only [Bool.and_eq_true, beq_iff_eq, Bool.not_eq_false] at passes
      obtain ⟨⟨owner, same⟩, live⟩ := passes
      obtain rfl : r = h := Table.eq_of_id hr mem (same.trans named.symm)
      rcases gone with removed | foreign
      · simp [Option.isNone_iff_eq_none.mp live] at removed
      · exact foreign owner

/-- Where stock rows are in their places, none can be seen under the key. -/
theorem Database.DeadItem.hidden (placed : ∀ s ∈ db.stockLevels, db.Places s.key)
    (dead : db.DeadItem key) : db.visibleStock key = none := by
  refine Option.eq_none_iff_forall_not_mem.mpr fun row seen => ?_
  obtain ⟨stored, live, open_⟩ := visibleStock_eq_some.mp seen
  obtain ⟨mem, keyed⟩ := stockAt_eq_some.mp stored
  have places := placed row mem
  rw [keyed] at places
  cases dead with
  | variant v mem named gone =>
      rcases gone with removed | foreign
      · obtain ⟨r, hr, passes⟩ := List.any_eq_true.mp live
        simp only [Bool.and_eq_true, beq_iff_eq] at passes
        obtain rfl : r = v := Table.eq_of_id hr mem (passes.1.trans named.symm)
        simp [Option.isNone_iff_eq_none.mp passes.2] at removed
      · exact foreign (places.variant.owner_of_id mem named)
  | warehouse h mem named gone =>
      rcases gone with removed | foreign
      · obtain ⟨r, hr, passes⟩ := List.any_eq_true.mp open_
        simp only [Bool.and_eq_true, beq_iff_eq] at passes
        obtain rfl : r = h := Table.eq_of_id hr mem (passes.1.trans named.symm)
        simp [Option.isNone_iff_eq_none.mp passes.2] at removed
      · exact foreign (places.warehouse.owner_of_id mem named)

/-! ## Refusals -/

/-- The errors that a call may end in; a retried error ends in another one. -/
structure FailsWith (fault : Label → Err → Prop) (E : Err → Prop) : Prop where
  missing : ∀ message, E (.notFound message)
  faulty : ∀ label e, fault label e → dbFault label e ∧ E e
  retried : ∀ e, E e → retryOptions.retryableErrors e = true → E exhausted

/-- The call has failed; the tables are as they were, and it has staged nothing. -/
structure Refused (E : Err → Prop) (w₀ : World) (e : Err) (w : World) : Prop where
  error : E e
  db : w.db = w₀.db
  pending : ∀ p ∈ w.pending, p ∈ w₀.pending

def RefusedBy (E : Err → Prop) (w₀ : World) {α : Type} : Except Err α → World → Prop
  | .ok _, _ => False
  | .error e, w => Refused E w₀ e w

def AttemptRefused (E : Err → Prop) (w₀ : World) {α : Type} :
    Except Err α × Captured → World → Prop
  | (.ok _, _), _ => False
  | (.error e, _), w => Refused E w₀ e w

section Refusals

variable {fault : Label → Err → Prop} {E : Err → Prop} {w₀ w : World} {m : Movement}
  {captured : Captured} {message : String} {context : Option AuditContextData}

/-- Nothing that counts has happened. -/
structure Idle (w₀ w : World) : Prop where
  db : w.db = w₀.db
  pending : ∀ p ∈ w.pending, p ∈ w₀.pending

theorem Idle.refused (idle : Idle w₀ w) {e : Err} (error : E e) : Refused E w₀ e w :=
  ⟨error, idle.db, idle.pending⟩

theorem Refused.idle {e : Err} (h : Refused E w₀ e w) : Idle w₀ w := ⟨h.db, h.pending⟩

/-- A movement that finds no row and makes none. -/
structure Blind (m : Movement) (key : StockKey) (message : String) : Prop where
  names : Names m.tenantId m.variantId m.warehouseId key
  absent : m.absent = .error (.notFound message)

theorem refused_callback (ends : FailsWith fault E) (blind : Blind m key message)
    (hidden : w₀.db.visibleStock key = none) (tx : ℕ) (idle : Idle w₀ w) :
    ((m.callback tx).run captured).wp fault (AttemptRefused E w₀) w := by
  unfold Movement.callback Movement.find lookup findStock
  rw [Attempt.run_bind, Attempt.run_lift, Prog.bind_assoc, Prog.wp_bind, Svc.run_bind, Prog.wp_bind]
  refine Svc.wp_perform.mpr ⟨?_, fun e faulty => idle.refused (ends.faulty _ e faulty).2⟩
  have none_seen : stockRead m.tenantId m.variantId m.warehouseId w = .ok none := by
    rw [stockRead_of_names blind.names, idle.db, hidden]
  dsimp only
  rw [none_seen, Svc.next_ok]
  dsimp only
  rw [blind.absent]
  exact idle.refused (ends.missing message)

theorem refused_transaction (ends : FailsWith fault E) (blind : Blind m key message)
    (hidden : w₀.db.visibleStock key = none) (idle : Idle w₀ w) :
    ((transaction m.callback).run captured).wp fault (AttemptRefused E w₀) w := by
  unfold transaction
  rw [Attempt.run_bind, Attempt.run_lift, Prog.bind_assoc, Prog.wp_bind]
  refine Svc.wp_perform.mpr ⟨?_, fun e faulty => idle.refused (ends.faulty _ e faulty).2⟩
  have started : Idle w₀ { w with nextTx := w.nextTx + 1 } := ⟨idle.db, idle.pending⟩
  show ((tryCatch _ _ : Attempt StockLevel).run captured).wp _ _ _
  rw [Attempt.run_tryCatch, Prog.wp_bind, Attempt.run_bind, Prog.wp_bind]
  refine Prog.wp_mono (refused_callback ends blind hidden w.nextTx started) fun r w' refused => ?_
  obtain ⟨r, v⟩ := r
  cases r with
  | ok saved => exact refused.elim
  | error e =>
      have rolled : Idle w₀ (w'.rollback w.nextTx) :=
        ⟨refused.db, fun p hp => refused.pending p (List.mem_of_mem_filter hp)⟩
      exact ⟨rolled.refused refused.error, fun e faulty =>
        refused.idle.refused (ends.faulty _ e faulty).2⟩

theorem refused_retryFrom (ends : FailsWith fault E) (blind : Blind m key message)
    (hidden : w₀.db.visibleStock key = none) (left attempt : ℕ) (idle : Idle w₀ w)
    (entered : left = 0 → E exhausted) :
    ((RetryBackoff.retryFrom timer (transaction m.callback) retryOptions exhausted left
      attempt).run captured).wp fault (AttemptRefused E w₀) w := by
  induction left generalizing attempt w captured with
  | zero => exact idle.refused (entered rfl)
  | succ left ih =>
      unfold RetryBackoff.retryFrom
      rw [Attempt.run_tryCatch, Prog.wp_bind]
      refine Prog.wp_mono (refused_transaction ends blind hidden idle) fun r w' refused => ?_
      obtain ⟨r, v⟩ := r
      cases r with
      | ok saved => exact refused.elim
      | error e =>
          show ((if _ then throw e else _ : Attempt StockLevel).run v).wp _ _ w'
          split
          · exact refused
          · rename_i again
            have retryable : retryOptions.retryableErrors e = true := by
              simp only [Bool.or_eq_true, not_or, Bool.not_eq_true] at again
              simpa using again.1
            have spent : E exhausted := ends.retried e refused.error retryable
            refine ⟨⟨ih _ ⟨refused.db, refused.pending⟩ fun _ => spent,
              fun e faulty => ?_⟩,
              fun e faulty => ?_⟩
            · exact (ends.faulty _ e faulty).1.elim
            · exact (ends.faulty _ e faulty).1.elim

theorem refused_run (ends : FailsWith fault E) (blind : Blind m key message)
    (hidden : w₀.db.visibleStock key = none) (idle : Idle w₀ w) :
    (m.run context).run.wp fault (RefusedBy E w₀) w := by
  show ((m.attempts.run none).bind _).wp _ _ _
  rw [Prog.wp_bind]
  have entered : retryOptions.maxAttempts.toNat = 0 → E exhausted := fun none => by
    cases none
  refine Prog.wp_mono (refused_retryFrom ends blind hidden _ _ idle entered) fun r w' refused => ?_
  obtain ⟨r, v⟩ := r
  cases r with
  | ok saved => exact refused.elim
  | error e => exact refused

theorem refused_discard {α : Type} {p : Svc α} (h : p.run.wp fault (RefusedBy E w₀) w) :
    (do let _ ← p : Svc Unit).run.wp fault (RefusedBy E w₀) w := by
  show (Prog.bind _ _).wp _ _ _
  rw [Prog.wp_bind]
  refine Prog.wp_mono h fun r w' refused => ?_
  cases r with
  | ok a => exact refused.elim
  | error e => exact refused

/-- The lookups of `deductStock` and `replenish`: each goes on with an item or fails. -/
theorem refused_findOneById (ends : FailsWith fault E) {tenantId variantId : String}
    (ht : UuidText.uuidIn tenantId = some key.tenantId)
    (hv : UuidText.uuidIn variantId = some key.variantId) (idle : Idle w₀ w)
    {post : Except Err ProductVariant → World → Prop}
    (found : ∀ variant, VariantService.readById w₀.db key.tenantId key.variantId =
      some variant →
      post (.ok variant) w) (failed : ∀ e, E e → post (.error e) w) :
    (VariantService.findOneById tenantId variantId).run.wp fault post w := by
  unfold VariantService.findOneById
  rw [Svc.run_bind, Prog.wp_bind]
  refine Svc.wp_perform.mpr ⟨?_, fun e faulty => failed e (ends.faulty _ e faulty).2⟩
  simp only [uuidParam, ht, hv, bind, Except.bind, pure, Except.pure, Svc.next_ok, idle.db]
  cases read : VariantService.readById w₀.db key.tenantId key.variantId with
  | none => exact failed _ (ends.missing _)
  | some variant => exact found variant read

theorem refused_findWarehouse (ends : FailsWith fault E) {tenantId id : String}
    (ht : UuidText.uuidIn tenantId = some key.tenantId)
    (hw : UuidText.uuidIn id = some key.warehouseId) (idle : Idle w₀ w)
    {post : Except Err Warehouse → World → Prop}
    (found : ∀ warehouse, WarehouseService.readById w₀.db key.tenantId key.warehouseId =
      some warehouse → post (.ok warehouse) w) (failed : ∀ e, E e → post (.error e) w) :
    (WarehouseService.findOne tenantId id).run.wp fault post w := by
  unfold WarehouseService.findOne
  rw [Svc.run_bind, Prog.wp_bind]
  refine Svc.wp_perform.mpr ⟨?_, fun e faulty => failed e (ends.faulty _ e faulty).2⟩
  simp only [uuidParam, ht, hw, bind, Except.bind, pure, Except.pure, Svc.next_ok, idle.db]
  cases read : WarehouseService.readById w₀.db key.tenantId key.warehouseId with
  | none => exact failed _ (ends.missing _)
  | some warehouse => exact found warehouse read

theorem refused_program (ends : FailsWith fault E) {call : StockCall}
    (names : Names call.tenantId call.dto.variantId call.dto.warehouseId key)
    (placed : ∀ s ∈ w.db.stockLevels, w.db.Places s.key) (dead : w.db.DeadItem key) :
    (call.program context).run.wp fault (RefusedBy E w) w := by
  have idle : Idle w w := ⟨rfl, fun _ h => h⟩
  have refused : ∀ {e}, E e → Refused E w e w := fun error => idle.refused error
  obtain ⟨op, tenantId, dto⟩ := call
  cases op with
  | reserve => exact refused_discard (refused_run ends ⟨names, rfl⟩ (dead.hidden placed) idle)
  | release => exact refused_discard (refused_run ends ⟨names, rfl⟩ (dead.hidden placed) idle)
  | deduct =>
      show (deductStock context tenantId dto).run.wp _ _ _
      unfold deductStock
      rw [Svc.run_bind, Prog.wp_bind]
      refine refused_findOneById ends names.tenant names.variant idle (fun variant live => ?_)
        fun e error => refused error
      rw [Svc.next_ok, Svc.run_bind, Prog.wp_bind]
      refine refused_findWarehouse ends names.tenant names.warehouse idle
        (fun warehouse open_ => ?_)
        fun e error => refused error
      rcases dead.unread with unread | unread
      · simp [unread] at live
      · simp [unread] at open_
  | replenish =>
      show (do let _ ← replenish context tenantId dto : Svc Unit).run.wp _ _ _
      refine refused_discard ?_
      unfold replenish
      rw [Svc.run_bind, Prog.wp_bind]
      refine refused_findWarehouse ends names.tenant names.warehouse idle
        (fun warehouse open_ => ?_)
        fun e error => refused error
      rw [Svc.next_ok, Svc.run_bind, Prog.wp_bind]
      refine refused_findOneById ends names.tenant names.variant idle (fun variant live => ?_)
        fun e error => refused error
      rcases dead.unread with unread | unread
      · simp [unread] at live
      · simp [unread] at open_

end Refusals

theorem failsWith_notFound : FailsWith noFault fun e => ∃ message, e = .notFound message where
  missing message := ⟨message, rfl⟩
  faulty _ _ impossible := impossible.elim
  retried e missing retryable := by
    obtain ⟨message, rfl⟩ := missing
    simp [retryOptions, Err.notFound] at retryable

theorem failsWith_any : FailsWith dbFault fun _ => True :=
  ⟨fun _ => trivial, fun _ _ faulty => ⟨faulty, trivial⟩, fun _ _ _ => trivial⟩

/-- In every state that calls reach from an empty stock table, however they interleave
and fail: a stock call that names a removed or a foreign item is answered with
NotFound; whichever of its statements fail, it throws, changes no table and stages
no write. -/
theorem dead_items_do_not_move {ι : Type} [DecidableEq ι] (platform : Platform) (bcrypt : Bcrypt)
    (calls : ι → ShopCall) (start : World) (c : Pool World Err Label ι (Except Err Unit))
    (empty : start.db.stockLevels.rows = []) (nothing : start.pending = [])
    (reach : Pool.Reach dbFault (fun _ _ _ => True) (shopPool platform bcrypt calls start) c)
    (call : StockCall) (context : Option AuditContextData) (key : StockKey)
    (names : Names call.tenantId call.dto.variantId call.dto.warehouseId key)
    (dead : c.state.db.DeadItem key) :
    (∃ message, ((call.program context).runs c.state).1 = .error (.notFound message)) ∧
      ((call.program context).runs c.state).2.db.stockLevels = c.state.db.stockLevels ∧
      ∀ answer w', Prog.Exec dbFault (call.program context).run c.state answer w' →
        answer.isOk = false ∧ w'.db.stockLevels = c.state.db.stockLevels ∧
          ∀ p ∈ w'.pending, p ∈ c.state.pending := by
  have placed : start.Placed := {
    rows := fun s hs => by
      rw [← Table.mem_rows, empty] at hs
      cases hs
    pending := fun p hp => by
      rw [nothing] at hp
      cases hp }
  have rows := (placed_reached placed reach).rows
  have outcome : RefusedBy _ c.state ((call.program context).runs c.state).1
      ((call.program context).runs c.state).2 :=
    Prog.wp_exec (refused_program failsWith_notFound names rows dead) (Prog.exec_run _ c.state)
  refine ⟨?_, ?_, fun answer w' run => ?_⟩
  · generalize ((call.program context).runs c.state).1 = answer at outcome
    cases answer with
    | ok a => exact outcome.elim
    | error e =>
        obtain ⟨message, rfl⟩ := outcome.error
        exact ⟨message, rfl⟩
  · generalize ((call.program context).runs c.state).1 = answer at outcome
    cases answer with
    | ok a => exact outcome.elim
    | error e => rw [outcome.db]
  · have outcome := Prog.wp_exec (refused_program failsWith_any names rows dead) run
    cases answer with
    | ok a => exact outcome.elim
    | error e => exact ⟨rfl, by rw [outcome.db], outcome.pending⟩

namespace SampleShop

/-- A delivery, and the removal of the variant that it is for. -/
def delivery (i : Fin 2) : ShopCall :=
  if i.val = 0 then .stock (call .replenish 5) (some context)
  else .audited (.removeVariant (UuidText.uuidOut productId) (UuidText.uuidOut variantId))
    (some context) (UuidText.uuidOut tenantId)

/-- The row is in stock and its variant is removed. -/
def outlived {ι : Type} (c : Pool World Err Label ι (Except Err Unit)) : Bool :=
  (c.state.db.stockLevels.rows.any fun row => row.variantId == variantId) &&
    c.state.db.variants.rows.any fun v => v.id == variantId && v.deletedAt.isSome

end SampleShop

theorem dead_items_do_not_move_outlived :
    ∃ c, Pool.Reach dbFault (fun _ _ _ => True) (shopPool SampleShop.plainText SampleShop.hashing
        SampleShop.delivery (SampleShop.world SampleShop.unstocked)) c ∧
      c.state.db.stockLevels.rows ≠ [] ∧
      ∃ message, (((SampleShop.call .reserve 2).program (some SampleShop.context)).runs
        c.state).1 = .error (.notFound message) := by
  have shown : ((shopPool SampleShop.plainText SampleShop.hashing SampleShop.delivery
      (SampleShop.world SampleShop.unstocked)).schedule (fun _ _ _ => true)
        [0, 1, 0, 0, 0, 0, 0, 0, 0, 1, 1, 1]).map SampleShop.outlived = some true := by
    decide
  obtain ⟨c, run, outlived⟩ := Pool.exists_of_schedule shown
  have reach : Pool.Reach dbFault (fun _ _ _ => True) (shopPool SampleShop.plainText
      SampleShop.hashing SampleShop.delivery (SampleShop.world SampleShop.unstocked)) c :=
    run.mono fun _ _ _ _ => trivial
  simp only [SampleShop.outlived, Bool.and_eq_true, List.any_eq_true, beq_iff_eq] at outlived
  obtain ⟨⟨row, stored, -⟩, v, mem, named, removed⟩ := outlived
  have names : Names (UuidText.uuidOut SampleShop.tenantId) (UuidText.uuidOut SampleShop.variantId)
      (UuidText.uuidOut SampleShop.warehouseId)
      ⟨SampleShop.tenantId, SampleShop.variantId, SampleShop.warehouseId⟩ :=
    ⟨by decide, by decide, by decide⟩
  refine ⟨c, reach, List.ne_nil_of_mem stored, ?_⟩
  exact (dead_items_do_not_move SampleShop.plainText SampleShop.hashing SampleShop.delivery
    (SampleShop.world SampleShop.unstocked) c rfl rfl reach (SampleShop.call .reserve 2)
    (some SampleShop.context) _ names (.variant v mem named (.inl removed))).1

end Tenantory
