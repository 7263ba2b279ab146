import Tenantory.NotificationDelivery
import Tenantory.StockLedger

/-! Low-stock alerts in serial runs of stock calls on one row. Between the calls
recipients read and remove notifications, and users change; every movement that a
committed call publishes is handled before the next step. -/

namespace Tenantory
namespace LowStockAlerts

open InventoryService NotificationService UuidText

/-! ## Steps -/

/-- A movement is handled to its end, and what it dispatches is stored. -/
inductive Handled (movement : StockMovementEvent) : World → World → Prop
  | quiet {w : World} :
      StockMovementNotificationListener.handleStockMovement movement = .ok none →
      Handled movement w w
  | stored {payload : NotificationDispatchEvent} {w w' : World} :
      StockMovementNotificationListener.handleStockMovement movement = .ok (some payload) →
      Prog.Exec dbFault (NotificationListener.deliver payload).run w (.ok ()) w' →
      Handled movement w w'

/-- The movements among published events, handled one after the other. -/
inductive HandledAll : List Event → World → World → Prop
  | done (w : World) : HandledAll [] w w
  | movement {movement : StockMovementEvent} {events : List Event} {u v w : World} :
      Handled movement u v → HandledAll events v w →
      HandledAll (.stockMovement movement :: events) u w
  | other {event : Event} {events : List Event} {v w : World} :
      (∀ movement, event ≠ .stockMovement movement) → HandledAll events v w →
      HandledAll (event :: events) v w

/-- The call names the row by its ids as the database spells them. -/
structure On (key : StockKey) (r : StockRequest) : Prop where
  tenant : r.call.tenantId = uuidOut key.tenantId
  variant : r.call.dto.variantId = uuidOut key.variantId
  warehouse : r.call.dto.warehouseId = uuidOut key.warehouseId

inductive Step (key : StockKey) : World → World → Prop
  | stock {r : StockRequest} {answer : Except Err Unit} {u v w : World} : On key r →
      Prog.Exec dbFault (r.call.program (some r.context)).run u answer v →
      HandledAll (newEvents u v) v w → Step key u w
  | markRead (tenantId recipientId id : String) {answer : Except Err Unit} {v w : World} :
      Prog.Exec dbFault (NotificationService.markRead tenantId recipientId id).run v answer w →
      Step key v w
  | markAllRead (tenantId recipientId : String) {answer : Except Err ℕ} {v w : World} :
      Prog.Exec dbFault (NotificationService.markAllRead tenantId recipientId).run v answer w →
      Step key v w
  | remove (tenantId recipientId id : String) {answer : Except Err Unit} {v w : World} :
      Prog.Exec dbFault (NotificationService.remove tenantId recipientId id).run v answer w →
      Step key v w
  /-- users are activated, deactivated or given other roles -/
  | users (t : Table User) (w : World) : Step key w { w with db := { w.db with users := t } }
  | time (now : Timestamp) (w : World) : Step key w { w with clock := now }

/-- The available quantity falls from above the threshold to it or below. -/
def Crosses (key : StockKey) (w w' : World) : Prop :=
  ∃ row row', w.db.stockAt key = some row ∧ w'.db.stockAt key = some row' ∧
    row.safetyThreshold < row.availableQuantity ∧ row'.availableQuantity ≤ row.safetyThreshold

/-- The states that a run reaches, with the one that its last crossing has left. -/
inductive Run (key : StockKey) (start : World) : World → Option World → Prop
  | start : Run key start start none
  | quiet {v w : World} {last : Option World} : Run key start v last → Step key v w →
      ¬ Crosses key v w → Run key start w last
  | crossing {v w : World} {last : Option World} : Run key start v last → Step key v w →
      Crosses key v w → Run key start w (some w)

/-! ## Alerts -/

def dedupKey (key : StockKey) : String := s!"{uuidOut key.variantId}:{uuidOut key.warehouseId}"

/-- A low-stock notification for the row. -/
structure Alert (key : StockKey) (n : Notification) : Prop where
  tenant : n.tenantId = key.tenantId
  type : n.type = .lowStock
  key : n.dedupKey = some (dedupKey key)

/-- One that user `u` has neither read nor removed. -/
structure Unread (key : StockKey) (u : Uuid) (n : Notification) : Prop extends Alert key n where
  recipient : n.recipientId = u
  unread : n.readAt = none
  live : n.deletedAt = none

/-- An active administrator or warehouse manager of the tenant. -/
def Recipient (key : StockKey) (db : Database) (u : Uuid) : Prop :=
  ∃ user ∈ db.users, user.id = u ∧ user.tenantId = key.tenantId ∧
    (user.role = .warehouseManager ∨ user.role = .tenantAdmin) ∧ user.isActive = true ∧
      user.deletedAt = none

/-- The user has an alert to read, or has read or removed one since `last`. -/
def Covered (key : StockKey) (last w : World) (u : Uuid) : Prop :=
  (∃ n ∈ w.db.notifications, Unread key u n) ∨
    ∃ m ∈ last.db.notifications, Unread key u m ∧
      ∃ n ∈ w.db.notifications, n.id = m.id ∧ (n.readAt ≠ none ∨ n.deletedAt ≠ none)

/-- The step to `w'` has created the notification. -/
def Created (w w' : World) (n : Notification) : Prop :=
  n ∈ w'.db.notifications ∧ ∀ m ∈ w.db.notifications, m.id ≠ n.id

variable {key : StockKey} {start v w w' : World} {last : Option World} {u : Uuid}
  {movement : StockMovementEvent}

theorem Unread.of_aged {m n : Notification} (aged : Aged m n) (h : Unread key u n) :
    Unread key u m where
  tenant := aged.tenant.symm.trans h.tenant
  type := aged.type.symm.trans h.type
  key := aged.key.symm.trans h.key
  recipient := aged.recipient.symm.trans h.recipient
  unread := aged.read h.unread
  live := aged.removed h.live

/-! ## What one step does -/

/-- Notifications at most grow older. -/
def Ages (w w' : World) : Prop :=
  ∃ f, (∀ n, Aged n (f n)) ∧ w'.db.notifications.rows = w.db.notifications.rows.map f

/-- Every recipient without an unread alert gets one. -/
structure Alerts (key : StockKey) (w w' : World) : Prop where
  users : w'.db.users = w.db.users
  added : ∃ added : List Notification,
    w'.db.notifications.rows = w.db.notifications.rows ++ added ∧
      (added.map (·.recipientId)).Nodup ∧ (∀ n ∈ added, Unread key n.recipientId n) ∧
      ∀ u, u ∈ added.map (·.recipientId) ↔ Recipient key w.db u ∧
        ∀ n ∈ w.db.notifications, ¬ Unread key u n

theorem Ages.refl : Ages w w := ⟨fun n => n, Aged.refl, by simp⟩

theorem ages_of_same (same : w'.db.notifications = w.db.notifications) : Ages w w' :=
  ⟨fun n => n, Aged.refl, by simp [same]⟩

theorem not_crosses_of_same (same : w'.db.stockLevels = w.db.stockLevels) :
    ¬ Crosses key w w' := by
  rintro ⟨row, row', found, found', above, below⟩
  have unmoved : row' = row := by
    unfold Database.stockAt at found found'
    rw [same, found] at found'
    exact (Option.some.inj found').symm
  rw [unmoved] at below
  omega

/-- The movement of a call on the row speaks of the row. -/
structure Speaks (key : StockKey) (movement : StockMovementEvent) : Prop where
  tenant : movement.tenantId = uuidOut key.tenantId
  variant : movement.variantId = uuidOut key.variantId
  warehouse : movement.warehouseId = uuidOut key.warehouseId

theorem speaks_of_tells {r : StockRequest} (on : On key r) (told : r.call.Tells key movement) :
    Speaks key movement where
  tenant := told.tenant.trans on.tenant
  variant := told.variant.elim (fun same => same.trans on.variant) fun same => same
  warehouse := told.warehouse.elim (fun same => same.trans on.warehouse) fun same => same

theorem names_of_on {r : StockRequest} (on : On key r) :
    Names r.call.tenantId r.call.dto.variantId r.call.dto.warehouseId key := by
  rw [on.tenant, on.variant, on.warehouse]
  exact ⟨uuidIn_uuidOut _, uuidIn_uuidOut _, uuidIn_uuidOut _⟩

/-- What is dispatched for a movement that crosses the threshold. -/
structure Asks (key : StockKey) (payload : NotificationDispatchEvent) : Prop where
  tenant : uuidIn payload.tenantId = some key.tenantId
  named : payload.recipientIds = []
  roles : payload.recipientRoles = [.warehouseManager, .tenantAdmin]
  type : payload.type = .lowStock
  key : payload.dedupKey = some (dedupKey key)

theorem dispatched (speaks : Speaks key movement) (present : movement.tenantId ≠ "")
    (crossed : StockMovementNotificationListener.crossedThreshold movement = true) :
    ∃ payload, StockMovementNotificationListener.handleStockMovement movement =
      .ok (some payload) ∧
      Asks key payload := by
  unfold StockMovementNotificationListener.handleStockMovement NotificationService.dispatch
  rw [if_pos crossed]
  refine ⟨_, if_neg present, ?_, rfl, rfl, rfl, ?_⟩
  · change uuidIn movement.tenantId = some key.tenantId
    rw [speaks.tenant, uuidIn_uuidOut]
  · change some (StockMovementNotificationListener.dedupKey movement) = _
    unfold StockMovementNotificationListener.dedupKey dedupKey
    rw [speaks.variant, speaks.warehouse]

theorem Asks.addressed {payload : NotificationDispatchEvent} (asks : Asks key payload)
    {db : Database} :
    NotificationListener.Addressed payload key.tenantId db u ↔ Recipient key db u := by
  unfold NotificationListener.Addressed Recipient
  rw [asks.roles]
  simp only [List.mem_cons, List.not_mem_nil, or_false]

theorem Asks.unread {payload : NotificationDispatchEvent} (asks : Asks key payload)
    {n : Notification} :
    NotificationListener.Unread payload key.tenantId u n ↔ Unread key u n := by
  constructor
  · intro h
    exact ⟨⟨h.tenant, h.type.trans asks.type, h.key.trans asks.key⟩, h.recipient,
      h.unread, h.live⟩
  · intro h
    exact ⟨h.tenant, h.recipient, h.type.trans asks.type.symm,
      h.key.trans asks.key.symm, h.unread,
      h.live⟩

theorem dedupKey_ne_empty : dedupKey key ≠ "" := by
  intro empty
  have longer := congrArg String.length empty
  have colon : (toString ":").length = 1 := rfl
  have nothing : "".length = 0 := rfl
  simp only [dedupKey, String.length_append] at longer
  omega

/-- What a step on the row leaves behind. -/
structure Outcome (key : StockKey) (w w' : World) : Prop where
  settled : w'.pending = []
  stored : (w'.db.stockAt key).isSome
  alerted : ¬ Crosses key w w' ∧ Ages w w' ∨ Crosses key w w' ∧ Alerts key w w'

theorem outcome_of_answered (settled : w.pending = []) (stored : (w.db.stockAt key).isSome)
    (h : Answered w w') : Outcome key w w' := by
  obtain ⟨rest, aged⟩ := h
  have stocks : w'.db.stockLevels = w.db.stockLevels := by rw [rest]
  refine ⟨by rw [rest]; exact settled, ?_, .inl ⟨not_crosses_of_same stocks, aged⟩⟩
  unfold Database.stockAt at stored ⊢
  rw [stocks]
  exact stored

theorem alerts_of_delivered {payload : NotificationDispatchEvent} (asks : Asks key payload)
    (h : NotificationListener.Delivered payload key.tenantId w w') : Alerts key w w' := by
  obtain ⟨ids, distinct, ⟨rest, added, rows, named, fresh⟩, chosen⟩ := h
  refine ⟨by rw [rest], added, rows, named ▸ distinct, fun n hn => ?_, fun u => ?_⟩
  · exact asks.unread.mp ((fresh n hn).unread_of asks.tenant)
  · rw [named, chosen, asks.addressed]
    refine and_congr_right fun _ => ?_
    exact ⟨fun none n mem unread => none n mem (asks.unread.mpr unread),
      fun none n mem unread => none n mem (asks.unread.mp unread)⟩

/-- A published movement crosses the threshold when the row does. -/
theorem crossed_iff {context : Option AuditContextData} {op : StockOp} {q : ℤ}
    {row row' : StockLevel}
    (published : Published context op q key movement w w')
    (stored : w.db.stockAt key = some row) (stored' : w'.db.stockAt key = some row') :
    StockMovementNotificationListener.crossedThreshold movement = true ↔ Crosses key w w' := by
  have before : movement.before = row.snapshot :=
    published.applied.reads.trans (quantitiesAt_of_stockAt stored)
  have after : movement.after = row'.snapshot :=
    published.applied.leaves.trans (quantitiesAt_of_stockAt stored')
  have crossed : StockMovementNotificationListener.crossedThreshold movement = true ↔
      row.safetyThreshold < row.availableQuantity ∧
        row'.availableQuantity ≤ row.safetyThreshold := by
    unfold StockMovementNotificationListener.crossedThreshold
    rw [before, after, published.threshold row stored, Bool.and_eq_true, decide_eq_true_iff,
      decide_eq_true_iff]
    rfl
  rw [crossed]
  constructor
  · rintro ⟨above, below⟩
    exact ⟨row, row', stored, stored', above, below⟩
  · rintro ⟨found, found', same, same', above, below⟩
    obtain rfl := Option.some.inj (stored.symm.trans same)
    obtain rfl := Option.some.inj (stored'.symm.trans same')
    exact ⟨above, below⟩

/-- What a stock call does to the notifications is done by the handling of its movement. -/
theorem outcome_of_published {context : Option AuditContextData} {op : StockOp} {q : ℤ}
    (published : Published context op q key movement w v) (stored : (w.db.stockAt key).isSome)
    (speaks : Speaks key movement) (present : movement.tenantId ≠ "")
    (handled : Handled movement v w') : Outcome key w w' := by
  obtain ⟨row, found⟩ := Option.isSome_iff_exists.mp stored
  obtain ⟨row', found'⟩ := Option.isSome_iff_exists.mp published.applied.stored
  have crossed := crossed_iff published found found'
  have notes : v.db.notifications = w.db.notifications := by rw [published.applied.rest]
  have users : v.db.users = w.db.users := by rw [published.applied.rest]
  cases handled with
  | quiet silent =>
      refine ⟨published.settled, published.applied.stored, .inl ⟨fun crosses => ?_, ?_⟩⟩
      · obtain ⟨payload, dispatches, -⟩ := dispatched speaks present (crossed.mpr crosses)
        rw [dispatches] at silent
        cases silent
      · exact ages_of_same notes
  | stored dispatches delivers =>
      rename_i payload
      have crossing : StockMovementNotificationListener.crossedThreshold movement = true := by
        by_contra short
        unfold StockMovementNotificationListener.handleStockMovement at dispatches
        rw [if_neg short] at dispatches
        cases dispatches
      obtain ⟨payload', same, asks⟩ := dispatched speaks present crossing
      obtain rfl := Option.some.inj (Except.ok.inj (dispatches.symm.trans same))
      obtain ⟨targets, ids, delivered⟩ := Prog.wp_exec NotificationListener.wp_deliver delivers
      have delivered := delivered.delivered asks.named asks.key dedupKey_ne_empty asks.tenant
      have rest := delivered.grown.choose_spec.2.1.rest
      have alerts := alerts_of_delivered asks delivered
      have stocks : w'.db.stockLevels = v.db.stockLevels := by rw [rest]
      have same' : w'.db.stockAt key = v.db.stockAt key := by
        unfold Database.stockAt
        rw [stocks]
      refine ⟨by rw [rest]; exact published.settled,
        by rw [same']; exact published.applied.stored,
        .inr ⟨?_, ?_⟩⟩
      · obtain ⟨r, r', stored, stored', above, below⟩ := crossed.mp crossing
        exact ⟨r, r', stored, same'.trans stored', above, below⟩
      · obtain ⟨users', added, rows, distinct, unread, chosen⟩ := alerts
        refine ⟨users'.trans users, added, by rw [rows, notes], distinct, unread, fun u => ?_⟩
        rw [chosen]
        unfold Recipient
        rw [users, notes]

theorem step_outcome (settled : w.pending = []) (stored : (w.db.stockAt key).isSome)
    (step : Step key w w') : Outcome key w w' := by
  cases step with
  | markRead tenantId recipientId id run =>
      have answered := Prog.wp_exec (wp_markRead tenantId recipientId id) run
      exact outcome_of_answered settled stored answered
  | markAllRead tenantId recipientId run =>
      have answered := Prog.wp_exec (wp_markAllRead tenantId recipientId) run
      exact outcome_of_answered settled stored answered
  | remove tenantId recipientId id run =>
      have answered := Prog.wp_exec (wp_remove tenantId recipientId id) run
      exact outcome_of_answered settled stored answered
  | users t => exact ⟨settled, stored, .inl ⟨not_crosses_of_same rfl, ages_of_same rfl⟩⟩
  | time now => exact ⟨settled, stored, .inl ⟨not_crosses_of_same rfl, ages_of_same rfl⟩⟩
  | stock on run handled =>
      rename_i r answer v
      have outcome := Prog.wp_exec
        (wp_publishes r.call (event?_isSome r.inTenant r.present) settled) run
      cases answer with
      | error e =>
          have none_published : newEvents w v = [] := by simp [newEvents, outcome.journal]
          rw [none_published] at handled
          cases handled
          refine ⟨outcome.settled, by rw [outcome.db]; exact stored, .inl ⟨?_, ?_⟩⟩
          · exact not_crosses_of_same (by rw [outcome.db])
          · exact ages_of_same (by rw [outcome.db])
      | ok a =>
          obtain ⟨named, movement, names, told, published, -⟩ := outcome
          obtain rfl : named = key := names.unique (names_of_on on)
          obtain ⟨tx, audit, journal, -⟩ := published.journal
          have events : newEvents w v = [.committed tx, .auditLog audit,
            .stockMovement movement] := by
            simp [newEvents, journal]
          have present : movement.tenantId ≠ "" := by
            rw [told.tenant]
            exact r.present
          rw [events] at handled
          have ends : Handled movement v w' := by
            cases handled with
            | other _ handled =>
                cases handled with
                | other _ handled =>
                    cases handled with
                    | movement handled done =>
                        cases done
                        exact handled
                    | other unlike _ => exact absurd rfl (unlike movement)
          exact outcome_of_published published stored (speaks_of_tells on told) present ends

/-! ## Runs -/

/-- Two unread alerts of one user are one. -/
def Once (key : StockKey) (db : Database) : Prop :=
  ∀ u, ∀ m ∈ db.notifications, ∀ n ∈ db.notifications, Unread key u m →
    Unread key u n → m = n

/-- The notifications are those that the last crossing has left, older by now. -/
def Since (last w : World) : Prop :=
  ∀ n ∈ w.db.notifications, ∃ m ∈ last.db.notifications, Aged m n

structure Inv (key : StockKey) (w : World) (last : Option World) : Prop where
  settled : w.pending = []
  stored : (w.db.stockAt key).isSome
  once : Once key w.db
  since : ∀ v, last = some v → Since v w
  covered : ∀ v, last = some v → ∀ u, Recipient key v.db u → Covered key v w u

theorem Once.ages (once : Once key w.db) (ages : Ages w w') : Once key w'.db := by
  obtain ⟨f, older, rows⟩ := ages
  intro u m hm n hn unread unread'
  rw [← Table.mem_rows, rows] at hm hn
  obtain ⟨m, stored, rfl⟩ := List.mem_map.mp hm
  obtain ⟨n, stored', rfl⟩ := List.mem_map.mp hn
  rw [once u m stored n stored' (unread.of_aged (older m)) (unread'.of_aged (older n))]

theorem Since.ages (since : Since v w) (ages : Ages w w') : Since v w' := by
  obtain ⟨f, older, rows⟩ := ages
  intro n hn
  rw [← Table.mem_rows, rows] at hn
  obtain ⟨n, stored, rfl⟩ := List.mem_map.mp hn
  obtain ⟨m, then_stored, aged⟩ := since n stored
  exact ⟨m, then_stored, aged.trans (older n)⟩

/-- An alert that a user no longer has to read has been read or removed. -/
theorem Covered.ages (covered : Covered key v w u) (since : Since v w) (ages : Ages w w') :
    Covered key v w' u := by
  obtain ⟨f, older, rows⟩ := ages
  have moved : ∀ n ∈ w.db.notifications, f n ∈ w'.db.notifications := fun n hn => by
    rw [← Table.mem_rows, rows]
    exact List.mem_map_of_mem hn
  rcases covered with ⟨n, stored, unread⟩ | ⟨m, stored, unread, n, stored', same, done⟩
  · by_cases still : (f n).readAt = none ∧ (f n).deletedAt = none
    · refine .inl ⟨f n, moved n stored, ?_⟩
      have aged := older n
      exact ⟨⟨aged.tenant.trans unread.tenant, aged.type.trans unread.type,
        aged.key.trans unread.key⟩, aged.recipient.trans unread.recipient, still.1, still.2⟩
    · obtain ⟨m, then_stored, aged⟩ := since n stored
      refine .inr ⟨m, then_stored, unread.of_aged aged, f n, moved n stored, ?_, ?_⟩
      · exact (older n).id.trans aged.id
      · exact not_and_or.mp still
  · refine .inr ⟨m, stored, unread, f n, moved n stored', (older n).id.trans same, ?_⟩
    exact done.imp (fun read unread => read ((older n).read unread)) fun removed live =>
      removed ((older n).removed live)

theorem mem_of_alerts {added : List Notification} {n : Notification}
    (rows : w'.db.notifications.rows = w.db.notifications.rows ++ added) :
    n ∈ w'.db.notifications ↔ n ∈ w.db.notifications ∨ n ∈ added := by
  rw [← Table.mem_rows, rows, List.mem_append, Table.mem_rows]

theorem Alerts.once (alerts : Alerts key w w') (once : Once key w.db) : Once key w'.db := by
  obtain ⟨-, added, rows, distinct, unread, chosen⟩ := alerts
  -- nobody with an unread alert is among those who get one
  have apart : ∀ u, ∀ m ∈ w.db.notifications, ∀ n ∈ added, Unread key u m →
    Unread key u n → False := by
    intro u m hm n hn before after
    have chosen_u := (chosen u).mp (after.recipient ▸ List.mem_map_of_mem hn)
    exact chosen_u.2 m hm before
  intro u m hm n hn before after
  rcases (mem_of_alerts rows).mp hm with old | new
  · rcases (mem_of_alerts rows).mp hn with old' | new'
    · exact once u m old n old' before after
    · exact (apart u m old n new' before after).elim
  · rcases (mem_of_alerts rows).mp hn with old' | new'
    · exact (apart u n old' m new after before).elim
    · exact List.inj_on_of_nodup_map distinct new new'
        (before.recipient.trans after.recipient.symm)

theorem Alerts.covered (alerts : Alerts key w w') (recipient : Recipient key w'.db u) :
    Covered key w' w' u := by
  obtain ⟨users, added, rows, -, unread, chosen⟩ := alerts
  have before : Recipient key w.db u := by
    unfold Recipient
    rw [← users]
    exact recipient
  by_cases held : ∃ n ∈ w.db.notifications, Unread key u n
  · obtain ⟨n, stored, mine⟩ := held
    exact .inl ⟨n, (mem_of_alerts rows).mpr (.inl stored), mine⟩
  · have picked := (chosen u).mpr ⟨before, fun n stored mine => held ⟨n, stored, mine⟩⟩
    obtain ⟨n, new, rfl⟩ := List.mem_map.mp picked
    exact .inl ⟨n, (mem_of_alerts rows).mpr (.inr new), unread n new⟩

theorem run_inv (fresh : ∀ n ∈ start.db.notifications, ¬ Alert key n)
    (stored : (start.db.stockAt key).isSome) (idle : start.pending = [])
    (run : Run key start w last) : Inv key w last := by
  induction run with
  | start =>
      refine ⟨idle, stored, fun u m hm n hn unread => ?_, fun v none => ?_, fun v none => ?_⟩
      · exact absurd unread.toAlert (fresh m hm)
      · cases none
      · cases none
  | quiet _ step uncrossed ih =>
      obtain ⟨settled, stored', alerted⟩ := step_outcome ih.settled ih.stored step
      have ages := (alerted.resolve_right fun crossing => uncrossed crossing.1).2
      exact ⟨settled, stored', ih.once.ages ages, fun v hv => (ih.since v hv).ages ages,
        fun v hv u recipient => (ih.covered v hv u recipient).ages (ih.since v hv) ages⟩
  | crossing _ step crosses ih =>
      obtain ⟨settled, stored', alerted⟩ := step_outcome ih.settled ih.stored step
      have alerts := (alerted.resolve_left fun quiet => quiet.1 crosses).2
      refine ⟨settled, stored', alerts.once ih.once, fun v hv => ?_, fun v hv u recipient => ?_⟩
      · obtain rfl := Option.some.inj hv
        exact fun n hn => ⟨n, hn, Aged.refl n⟩
      · obtain rfl := Option.some.inj hv
        exact alerts.covered recipient

theorem created_of_outcome (outcome : Outcome key w w') {n : Notification}
    (created : Created w w' n) : Crosses key w w' ∧ ∃ added : List Notification,
      (added.map (·.recipientId)).Nodup ∧ ∀ m, Created w w' m → m ∈ added := by
  rcases outcome.alerted with ⟨-, f, older, rows⟩ | ⟨crosses, alerts⟩
  · have aged := created.1
    rw [← Table.mem_rows, rows] at aged
    obtain ⟨m, stored, rfl⟩ := List.mem_map.mp aged
    exact absurd (older m).id.symm (created.2 m stored)
  · obtain ⟨-, added, rows, distinct, -⟩ := alerts
    refine ⟨crosses, added, distinct, fun m created' => ?_⟩
    exact ((mem_of_alerts rows).mp created'.1).resolve_left fun old => created'.2 m old rfl

end LowStockAlerts

open LowStockAlerts

/-- Notifications are created only where the available quantity falls across the
threshold, and then at most one for each user; everyone who is to be told at the last
crossing has an alert to read or has read or removed one since, and nobody has two. -/
theorem low_stock_alerts (key : StockKey) (start w : World) (last : Option World)
    (fresh : ∀ n ∈ start.db.notifications, ¬ Alert key n)
    (stored : (start.db.stockAt key).isSome) (idle : start.pending = [])
    (run : Run key start w last) :
    (∀ w', LowStockAlerts.Step key w w' →
      (∀ n, Created w w' n → Crosses key w w') ∧
        ∀ m n, Created w w' m → Created w w' n → m.recipientId = n.recipientId → m = n) ∧
      (∀ v, last = some v → ∀ u, Recipient key v.db u → Covered key v w u) ∧
      ∀ u, ∀ m ∈ w.db.notifications, ∀ n ∈ w.db.notifications,
        Unread key u m → Unread key u n → m = n := by
  have inv := run_inv fresh stored idle run
  refine ⟨fun w' step => ?_, inv.covered, inv.once⟩
  have outcome := step_outcome inv.settled inv.stored step
  refine ⟨fun n created => (created_of_outcome outcome created).1,
    fun m n created created' same => ?_⟩
  obtain ⟨-, added, distinct, inside⟩ := created_of_outcome outcome created
  exact List.inj_on_of_nodup_map distinct (inside m created) (inside n created') same

namespace SampleShop

def managerId : Uuid := 0x3a

def manager : User :=
  ⟨managerId, tenantId, "store@acme.test", "Mae", "Ward", "", .warehouseManager,
    true, 0, 0, none⟩

/-- Twenty-five units in stock, a threshold of twenty and somebody to be told. -/
def staffed : World := world { stocked 25 0 with users := one manager }

def stockKey : StockKey := ⟨tenantId, variantId, warehouseId⟩

def sold : World := ((request .deduct 10).serve staffed).2

def lowStock : StockMovementEvent where
  tenantId := UuidText.uuidOut tenantId
  stockLevelId := UuidText.uuidOut stockId
  variantId := UuidText.uuidOut variantId
  warehouseId := UuidText.uuidOut warehouseId
  sku := some "TSH-BLU-M"
  before := ⟨25, 0⟩
  after := ⟨15, 0⟩
  safetyThreshold := 20

theorem sold_publishes : ∃ audit, newEvents staffed sold =
    [.committed 0, .auditLog audit, .stockMovement lowStock] := ⟨_, rfl⟩

def lowStockAlert : NotificationDispatchEvent where
  tenantId := UuidText.uuidOut tenantId
  recipientIds := []
  recipientRoles := [.warehouseManager, .tenantAdmin]
  type := .lowStock
  title := "Low stock alert"
  body := some "Available stock for TSH-BLU-M dropped to 15 (threshold: 20)."
  data := (StockMovementNotificationListener.lowStockInput lowStock).data
  dedupKey := some (LowStockAlerts.dedupKey stockKey)

def alerted : World := ((NotificationListener.deliver lowStockAlert).run.run sold).2

theorem run_alerted : Run stockKey staffed alerted (some alerted) := by
  obtain ⟨audit, events⟩ := sold_publishes
  have dispatches : StockMovementNotificationListener.handleStockMovement lowStock =
      .ok (some lowStockAlert) := by decide
  have delivers : Prog.Exec dbFault (NotificationListener.deliver lowStockAlert).run sold (.ok ())
      alerted := Prog.exec_run _ _
  have handled : HandledAll (newEvents staffed sold) sold alerted := by
    rw [events]
    exact .other (by simp) (.other (by simp) (.movement (.stored dispatches delivers) (.done _)))
  refine .crossing .start (.stock (r := request .deduct 10) ⟨rfl, rfl, rfl⟩ (Prog.exec_run _ _)
    handled) ?_
  exact ⟨stock 25 0, _, rfl, rfl, by decide, by decide⟩

end SampleShop

theorem low_stock_alerts_sale :
    Covered SampleShop.stockKey SampleShop.alerted SampleShop.alerted SampleShop.managerId := by
  have covered := (low_stock_alerts SampleShop.stockKey SampleShop.staffed SampleShop.alerted
    (some SampleShop.alerted) (fun n none => by cases none) rfl rfl SampleShop.run_alerted).2.1
  exact covered _ rfl _ ⟨SampleShop.manager, List.mem_singleton.mpr rfl, rfl, rfl,
    .inl rfl, rfl, rfl⟩

end Tenantory
