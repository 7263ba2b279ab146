import Tenantory.NotificationDelivery
import Tenantory.TenantStatements

/-! The feed of a recipient and the fan-out to the users with given roles are confined to
the tenant that they are called for. -/

namespace Tenantory

open UuidText Stored LawfulTable Owned Svc

/-! ## Statements that change many rows -/

section Modify

variable {ρ β : Type} [Owned ρ] {A : Uuid} {w : World} {p : ρ → Bool} {f : ρ → ρ}
  {keeps : ∀ r s, conflict (f r) s = conflict r s}

/-- An UPDATE of rows of the tenant that keeps their ids and their owner. -/
theorem statement_modify {b : β}
    (within : ∀ r ∈ table (ρ := ρ) w.db, p r = true → Entity.owner r = A)
    (ids : ∀ r, Entity.id (f r) = Entity.id r)
      (owners : ∀ r, Entity.owner (f r) = Entity.owner r)
    (isolates : w.db.Isolated → (put ((table w.db).modify p f keeps) w.db).Isolated) :
    Statement A w (.ok (b, { w with db := put ((table w.db).modify p f keeps) w.db }))
      (.ok (b, { w.restrict A with
        db := put ((table (w.restrict A).db).modify p f keeps) (w.restrict A).db })) := by
  have own : ∀ r ∈ table (ρ := ρ) w.db, p r = true → (Entity.owner r == A) = true :=
    fun r hr hp => beq_iff_eq.mpr (within r hr hp)
  have inside : (table (ρ := ρ) (w.restrict A).db).modify p f keeps =
      ((table w.db).modify p f keeps).ofOwners (· == A) := by
    rw [World.restrict_db, Database.restrict, table_ofOwners]
    refine Table.rows_inj (Table.filter_update f own fun r hr hp => ?_).symm
    rw [owners]
    exact own r hr hp
  have ext : w.db.Extends (put ((table w.db).modify p f keeps) w.db) := by
    refine extends_put fun B i ⟨r, hr, same, owner⟩ => ?_
    refine ⟨if p r then f r else r, Table.mem_modify.mpr ⟨r, hr, rfl⟩, ?_, ?_⟩
    · split
      · exact (ids r).trans same
      · exact same
    · split
      · exact (owners r).trans owner
      · exact owner
  have grown : Database.Grown A w.db (put ((table w.db).modify p f keeps) w.db) := by
    refine ⟨?_, ext, isolates⟩
    have out : ((table (ρ := ρ) w.db).modify p f keeps).ofOwners (· != A) =
        (table w.db).ofOwners (· != A) := by
      refine Table.only_of_map (Table.rows_modify _ _ _ _) (fun r _ => ?_) fun r hr foreign => ?_
      · split
        · rw [owners]
        · rfl
      · have still : p r = false := by
          by_contra passes
          have same := within r hr (by simpa using passes)
          simp [same] at foreign
        simp [still]
    rw [Database.outside, put_ofOwners, out, ← table_ofOwners, put_table]
    rfl
  constructor
  · refine congrArg Except.ok (congrArg (Prod.mk b) ?_)
    rw [inside]
    show World.mk _ _ _ _ _ _ _ _ _ = World.mk _ _ _ _ _ _ _ _ _
    congr 1
    exact (put_ofOwners (ρ := ρ) _ _ _).symm
  · intro b' w' h
    cases h
    refine ⟨grown, fun sound => ?_, rfl⟩
    exact {
      isolated := grown.isolated sound.isolated
      cache := fun e he => (sound.cache e he).mono ext
      idle := sound.idle }

end Modify

/-! ## The feed -/

namespace NotificationService

variable {A : Uuid} {P : Fact} {platform : Platform}

theorem admits_owner {filter : FeedFilter} (tenant : filter.tenant = A) {n : Notification}
    (h : filter.admits n = true) : Entity.owner n = A := by
  unfold FeedFilter.admits at h
  simp only [Bool.and_eq_true, beq_iff_eq] at h
  exact h.1.1.1.1.1.1.trans tenant

theorem feedFilter_tenant {recipientId : String} {query : Option NotificationQueryDto}
    {filter : FeedFilter} (h : feedFilter platform (uuidOut A) recipientId query = .ok filter) :
    filter.tenant = A := by
  unfold feedFilter at h
  rw [uuidParam_uuidOut, bind_ok] at h
  obtain ⟨recipient, -, h⟩ := bind_eq_ok.mp h
  obtain ⟨start, -, h⟩ := bind_eq_ok.mp h
  obtain ⟨stop, -, h⟩ := bind_eq_ok.mp h
  cases h
  rfl

/-- A query on the feed of a recipient. -/
theorem within_feed {α : Type} {recipientId : String} {request : Option NotificationQueryDto}
    (read : FeedFilter → Database → Except Err α)
    (h : ∀ filter db, filter.tenant = A → read filter (db.restrict A) = read filter db) :
    Svc.Within A P (query fun w => do
      let filter ← feedFilter platform (uuidOut A) recipientId request
      read filter w.db) fun _ => .none := by
  refine within_query fun w _ _ => ⟨?_, fun _ _ => trivial⟩
  cases made : feedFilter platform (uuidOut A) recipientId request with
  | error e => rfl
  | ok filter => exact h filter w.db (feedFilter_tenant made)

theorem select_restrict (db : Database) {p : Notification → Bool}
    (own : ∀ n, p n = true → Entity.owner n = A) :
    (db.restrict A).notifications.select p = db.notifications.select p :=
  Table.select_ofOwner own fun _ _ _ => rfl

theorem within_findFeed (recipientId : String) (request : NotificationQueryDto) :
    Svc.Within A P (findFeed platform (uuidOut A) recipientId request) fun _ => .none := by
  unfold findFeed
  cases assertDateRange platform request with
  | error err => exact within_throw
  | ok _ =>
      refine Within.bind (within_feed (fun filter db => do
        let skip ← offset (request.page.getD 1) (request.limit.getD 20)
        let rows := db.notifications.select filter.admits
        pure (window skip (some (request.limit.getD 20)) (newestFirst platform rows), rows.length))
          fun filter db tenant => ?_) fun page => within_pure fun _ _ => trivial
      have rows := select_restrict db fun n h => admits_owner tenant h
      simp only [rows]

theorem within_getUnreadCount (recipientId : String) :
    Svc.Within A P (getUnreadCount platform (uuidOut A) recipientId) fun _ => .none := by
  refine within_feed (fun filter db =>
    .ok (db.notifications.select fun n => filter.admits n && n.readAt.isNone).length)
      fun filter db tenant => ?_
  have rows := select_restrict (p := fun n => filter.admits n && n.readAt.isNone) db
    fun n h => admits_owner tenant (Bool.and_eq_true_iff.mp h).1
  simp only [rows]

/-! ### Actions -/

/-- An action on notifications of the tenant. -/
theorem statement_updateWhere {w : World} {p : Notification → Bool}
    {f : Notification → Notification} {keeps : ∀ r s, conflict (f r) s = conflict r s}
    (own : ∀ n, p n = true → Entity.owner n = A)
    (stays : ∀ n, (f n).id = n.id ∧ (f n).tenantId = n.tenantId) :
    Statement A w (.ok (updateWhere p f keeps w)) (.ok (updateWhere p f keeps (w.restrict A))) := by
  have rows : (w.restrict A).db.notifications.select p = w.db.notifications.select p :=
    select_restrict w.db own
  unfold updateWhere
  rw [rows]
  exact statement_modify (ρ := Notification) (fun n _ passes => own n passes)
    (fun n => (stays n).1) (fun n => (stays n).2) fun isolated => { isolated with }

/-- The UPDATE of an action, whose ids may be no uuids. -/
theorem within_write {α : Type} (ids : Except Err α) (p : α → Notification → Bool)
    (f : Timestamp → Notification → Notification)
    (keeps : ∀ now r s, conflict (f now r) s = conflict r s)
    (own : ∀ a n, ids = .ok a → p a n = true → Entity.owner n = A)
    (stays : ∀ now n, (f now n).id = n.id ∧ (f now n).tenantId = n.tenantId) :
    Svc.Within A P (write fun w => do
      let a ← ids
      pure (updateWhere (p a) (f w.clock) (keeps w.clock) w)) fun _ => .none := by
  refine within_statement (fun w _ _ _ => ?_) fun _ _ _ _ _ _ => trivial
  cases made : ids with
  | error e => exact statement_error
  | ok a => exact statement_updateWhere (fun n passes => own a n made passes) (stays w.clock)

theorem within_markRead (recipientId id : String) :
    Svc.Within A P (markRead (uuidOut A) recipientId id) fun _ => .none := by
  have looked : Svc.Within A (P.and .none) (query fun w => do
      let id ← uuidParam id
      let tenant ← uuidParam (uuidOut A)
      let recipient ← uuidParam recipientId
      pure (w.db.notifications.find? fun n =>
        n.id == id && n.tenantId == tenant && n.recipientId == recipient && n.deletedAt.isNone))
      fun _ => .none := by
    refine within_query fun w _ _ => ⟨?_, fun _ _ => trivial⟩
    rw [uuidParam_uuidOut]
    cases uuidParam id with
    | error e => rfl
    | ok id =>
        cases uuidParam recipientId with
        | error e => rfl
        | ok recipient =>
            refine congrArg Except.ok (Table.find?_ofOwner (fun r h => ?_) fun _ _ _ => rfl)
            simp only [Bool.and_eq_true, beq_iff_eq] at h
            exact h.1.1.2
  refine Within.bind (Q := fun _ => .none) ?_ fun affected => ?_
  · exact within_statement (fun w _ _ _ => statement_error) fun _ _ _ _ _ _ => trivial
  · refine within_ite (fun _ => within_pure fun _ _ => trivial) fun _ => ?_
    refine looked.bind fun existing => ?_
    exact within_ite (fun _ => within_throw) fun _ => within_pure fun _ _ => trivial

theorem within_markAllRead (recipientId : String) :
    Svc.Within A P (markAllRead (uuidOut A) recipientId) fun _ => .none := by
  unfold markAllRead write
  exact within_statement (fun w _ _ _ => statement_error) fun _ _ _ _ _ _ => trivial

theorem within_remove (recipientId id : String) :
    Svc.Within A P (remove (uuidOut A) recipientId id) fun _ => .none := by
  refine Within.bind (Q := fun _ => .none) ?_ fun affected =>
    within_ite (fun _ => within_throw) fun _ => within_pure fun _ _ => trivial
  have writes := within_write (A := A) (P := P)
    (do
      let uuid ← uuidParam id
      let tenant ← uuidParam (uuidOut A)
      let recipient ← uuidParam recipientId
      pure (uuid, tenant, recipient))
    (fun ids n => n.id == ids.1 && n.tenantId == ids.2.1 && n.recipientId == ids.2.2 &&
      n.deletedAt.isNone) markedDeleted (fun _ _ _ => rfl) ?_ fun _ _ => ⟨rfl, rfl⟩
  · simpa only [bind_assoc, pure_bind] using writes
  · intro ids n made passes
    simp only [uuidParam_uuidOut, bind_ok] at made
    obtain ⟨uuid, -, made⟩ := bind_eq_ok.mp made
    obtain ⟨recipient, -, made⟩ := bind_eq_ok.mp made
    cases made
    simp only [Bool.and_eq_true, beq_iff_eq] at passes
    exact passes.1.1.2

end NotificationService

/-! ## Fan-out -/

/-- The recipients are users of the tenant, and none of them is named twice. -/
def Fact.recipients (A : Uuid) (ids : List String) : Fact where
  holds db := ids.Nodup ∧ ∀ text ∈ ids, ∃ u, text = uuidOut u ∧ db.users.Owns A u
  mono ext h :=
    ⟨h.1, fun text mem => (h.2 text mem).imp fun _ both => ⟨both.1, ext.users _ _ both.2⟩⟩

/-- There are no more of them than users. -/
theorem recipients_length {A : Uuid} {ids : List String} {db : Database}
    (h : (Fact.recipients A ids).holds db) : ids.length ≤ db.users.rows.length := by
  have among : ids ⊆ db.users.rows.map fun u => uuidOut u.id := by
    intro text mem
    obtain ⟨u, rfl, row, stored, named, -⟩ := h.2 text mem
    exact List.mem_map.mpr ⟨row, stored, congrArg uuidOut named⟩
  simpa using (h.1.subperm among).length_le

namespace NotificationListener

variable {A : Uuid} {P : Fact} {payload : NotificationDispatchEvent}

theorem within_resolveRecipients (tenant : payload.tenantId = uuidOut A)
    (roles : payload.recipientIds = []) :
    Svc.Within A P (resolveRecipients payload) (.recipients A) := by
  unfold resolveRecipients
  rw [roles]
  refine within_ite (fun _ => within_pure fun _ _ =>
    ⟨List.nodup_nil, fun _ mem => by cases mem⟩)
    fun _ => ?_
  refine Within.bind (Q := fun users => Fact.all fun u : { u // u ∈ users } => .user A u.1.id)
    (within_query fun w _ _ => ⟨?_, fun users read => ?_⟩) fun users => ?_
  · rw [tenant, uuidParam_uuidOut]
    refine congrArg Except.ok (Table.select_ofOwner (fun r h => ?_) fun _ _ _ => rfl)
    simp only [Bool.and_eq_true, beq_iff_eq] at h
    exact h.1.1.1
  · rw [tenant, uuidParam_uuidOut] at read
    cases read
    rintro ⟨u, mem⟩
    obtain ⟨stored, h⟩ := List.mem_filter.mp mem
    simp only [Bool.and_eq_true, beq_iff_eq] at h
    exact ⟨u, stored, rfl, h.1.1.1⟩
  · refine within_pure fun db known => ⟨nodup_addAll List.nodup_nil, fun text mem => ?_⟩
    rcases mem_addAll.mp mem with old | new
    · cases old
    · obtain ⟨u, listed, rfl⟩ := List.mem_map.mp new
      exact ⟨u.id, rfl, known.2 ⟨u, listed⟩⟩

theorem within_filterDeduplicated (tenant : payload.tenantId = uuidOut A) (dedupKey : String)
    (recipientIds : List String)
    (own : ∀ db, P.holds db → (Fact.recipients A recipientIds).holds db) :
    Svc.Within A P (filterDeduplicated payload dedupKey recipientIds) (.recipients A) := by
  refine Within.bind (Q := fun _ => .none) (within_query fun w _ _ => ⟨?_, fun _ _ => trivial⟩)
    fun already => within_pure fun db known => ?_
  · rw [tenant, uuidParam_uuidOut]
    cases recipientIds.mapM uuidParam with
    | error e => rfl
    | ok ids =>
        refine congrArg Except.ok (Table.select_ofOwner (fun r h => ?_) fun _ _ _ => rfl)
        simp only [Bool.and_eq_true, beq_iff_eq] at h
        exact h.1.1.1.1.1
  · have told := own db known.1
    exact ⟨told.1.filter _, fun text mem => told.2 text (List.mem_of_mem_filter mem)⟩

/-- The INSERT of the row for one recipient. -/
def insertFor (payload : NotificationDispatchEvent) (tenant : Uuid) (w : World)
    (recipientId : String) : Except Err World := do
  let recipient ← uuidParam recipientId
  let (_, w) ← w.insert fun id now =>
    { id, tenantId := tenant, recipientId := recipient, type := payload.type,
      title := payload.title, body := payload.body, data := payload.data,
      dedupKey := payload.dedupKey, readAt := none, createdAt := now, updatedAt := now,
      deletedAt := none : Notification }
  pure w

theorem change_insertFor {w : World} {u : Uuid} (unused : w.db.Unused (w.ids 0))
    (own : w.db.users.Owns A u) :
    Change A w (insertFor payload A w (uuidOut u))
      (insertFor payload A (w.restrict A) (uuidOut u)) := by
  unfold insertFor
  rw [uuidParam_uuidOut, bind_ok, bind_ok]
  exact Statement.forget (statement_insert (ρ := Notification) unused (fun _ _ => rfl)
    (fun _ _ => rfl) fun _ _ => own)

/-- The ids that are left are still new, as the row takes the first. -/
theorem freshFor_insertFor {n : ℕ} {w w' : World} {tenant : Uuid} {text : String}
    (fresh : w.FreshFor (n + 1)) (h : insertFor payload tenant w text = .ok w') :
    w'.FreshFor n := by
  obtain ⟨recipient, -, h⟩ := bind_eq_ok.mp h
  obtain ⟨answer, inserted, last⟩ := bind_eq_ok.mp h
  cases last
  obtain ⟨db, stored, same⟩ := bind_eq_ok.mp inserted
  cases same
  refine ⟨fun i less => ?_, fun i hi j hj same => ?_⟩
  · refine Database.insertRow_unused stored (fun same => ?_) (fresh.unused (i + 1) (by omega))
    exact absurd (fresh.distinct 0 (by omega) (i + 1) (by omega) same) (by omega)
  · have same := fresh.distinct (i + 1) (by omega) (j + 1) (by omega) same
    omega

theorem change_saveRows {w : World} {targets : List String} (fresh : w.FreshFor targets.length)
    (own : ∀ text ∈ targets, ∃ u, text = uuidOut u ∧ w.db.users.Owns A u) :
    Change A w (targets.foldlM (insertFor payload A) w)
      (targets.foldlM (insertFor payload A) (w.restrict A)) := by
  induction targets generalizing w with
  | nil => exact change_pure
  | cons text targets ih =>
      rw [List.foldlM_cons, List.foldlM_cons]
      obtain ⟨u, rfl, owned⟩ := own text List.mem_cons_self
      have first : Change A w (insertFor payload A w (uuidOut u)) _ :=
        change_insertFor (fresh.unused 0 (Nat.succ_pos _)) owned
      cases made : insertFor payload A w (uuidOut u) with
      | error e =>
          rw [made] at first
          rw [first.alike]
          exact ⟨rfl, fun _ h => nomatch h⟩
      | ok w' =>
          rw [made] at first
          rw [first.alike]
          have later := ih (freshFor_insertFor fresh made) fun text mem =>
            (own text (List.mem_cons_of_mem _ mem)).imp fun u both =>
              ⟨both.1, (first.written w' rfl).grown.extend.users _ _ both.2⟩
          exact ⟨later.alike, fun v hv => (first.written w' rfl).trans (later.written v hv)⟩

theorem statement_saveRows {w : World} (fresh : w.Fresh) (tenant : payload.tenantId = uuidOut A)
    {targets : List String} (own : (Fact.recipients A targets).holds w.db) :
    Statement A w (saveRows payload targets w) (saveRows payload targets (w.restrict A)) := by
  have enough : w.FreshFor targets.length :=
    fresh.mono (Nat.le_succ_of_le (recipients_length own))
  unfold saveRows
  rw [tenant, uuidParam_uuidOut, bind_ok, bind_ok]
  exact Change.bind (change_saveRows enough own.2) fun v _ => statement_pure

/-- The rows for the recipients that are left, if any are. -/
theorem within_saved (tenant : payload.tenantId = uuidOut A) (targets : List String)
    (own : ∀ db, P.holds db → (Fact.recipients A targets).holds db) :
    Svc.Within A P (if targets.isEmpty then pure () else
      statement (.insert (.notifications payload.tenantId payload.type payload.dedupKey targets))
        (saveRows payload targets)) fun _ => .none :=
  within_ite (fun _ => within_pure fun _ _ => trivial) fun _ =>
    within_statement (fun _ _ fresh known => statement_saveRows fresh tenant (own _ known))
      fun _ _ _ _ _ _ => trivial

theorem within_handleDispatch (tenant : payload.tenantId = uuidOut A)
    (roles : payload.recipientIds = []) :
    Svc.Within A P (handleDispatch payload) fun _ => .none := by
  refine Within.tryCatch ?_ fun _ => within_pure fun _ _ => trivial
  refine (within_resolveRecipients tenant roles).bind fun recipientIds => ?_
  have delivered {p : Svc (List String)}
      (found : Svc.Within A (P.and (.recipients A recipientIds)) p (.recipients A)) :
      Svc.Within A (P.and (.recipients A recipientIds)) (p >>= fun targets =>
        if targets.isEmpty then pure () else
          statement
            (.insert (.notifications payload.tenantId payload.type payload.dedupKey targets))
            (saveRows payload targets)) fun _ => .none :=
    found.bind fun targets => within_saved tenant targets fun db known => known.2
  dsimp only
  split
  · exact delivered (within_pure fun db known => known.2)
  · exact delivered (within_pure fun db known => known.2)
  · refine within_ite (fun _ => ?_) fun _ => ?_
    · exact delivered (within_pure fun _ _ => ⟨List.nodup_nil, fun _ mem => by cases mem⟩)
    · exact delivered (within_filterDeduplicated tenant _ recipientIds fun db known => known.2)

end NotificationListener
end Tenantory
