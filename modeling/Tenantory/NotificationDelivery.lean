import Tenantory.FailingCalls
import Tenantory.NotificationService
import Tenantory.StoredRows

/-! What the dispatch of a notification adds to the table, and what the actions of a
recipient make of the rows there. -/

namespace Tenantory

namespace NotificationListener

open UuidText

/-! ## Texts of ids -/

theorem map_uuidIn {texts : List String} {ids : List Uuid} (h : texts.mapM uuidParam = .ok ids) :
    texts.map uuidIn = ids.map some := by
  induction texts generalizing ids with
  | nil =>
      cases h
      rfl
  | cons text texts ih =>
      rw [List.mapM_cons] at h
      obtain ⟨id, named, h⟩ := bind_eq_ok.mp h
      obtain ⟨others, rest, h⟩ := bind_eq_ok.mp h
      cases h
      rw [List.map_cons, List.map_cons, uuidParam_eq_ok.mp named, ih rest]

theorem mem_of_map_uuidIn {texts : List String} {ids : List Uuid}
    (h : texts.map uuidIn = ids.map some) {u : Uuid} :
    u ∈ ids ↔ ∃ text ∈ texts, uuidIn text = some u := by
  have lifted : some u ∈ ids.map some ↔ u ∈ ids := by simp
  rw [← lifted, ← h, List.mem_map]

theorem mem_addAll {set new : List String} {text : String} :
    text ∈ addAll set new ↔ text ∈ set ∨ text ∈ new := by
  induction new generalizing set with
  | nil => simp [addAll]
  | cons first new ih =>
      have added : text ∈ (if set.contains first then set else set ++ [first]) ↔
          text ∈ set ∨ text = first := by
        split
        · rename_i there
          rw [List.contains_iff_mem] at there
          exact ⟨.inl, fun h => h.elim id fun same => same ▸ there⟩
        · rw [List.mem_append, List.mem_singleton]
      change text ∈ addAll (if set.contains first then set else set ++ [first]) new ↔ _
      rw [ih, added, List.mem_cons, or_assoc]

theorem nodup_addAll {set new : List String} (distinct : set.Nodup) : (addAll set new).Nodup := by
  induction new generalizing set with
  | nil => exact distinct
  | cons first new ih =>
      change (addAll (if set.contains first then set else set ++ [first]) new).Nodup
      refine ih ?_
      split
      · exact distinct
      · rename_i absent
        rw [List.contains_iff_mem] at absent
        refine List.nodup_append.mpr ⟨distinct, List.nodup_singleton _,
          fun a ha b hb same => ?_⟩
        rw [List.mem_singleton.mp hb] at same
        exact absent (same ▸ ha)

/-- The users to whom an event is addressed by their role. -/
def Addressed (payload : NotificationDispatchEvent) (tenant : Uuid) (db : Database) (u : Uuid) :
    Prop :=
  ∃ user ∈ db.users, user.id = u ∧ user.tenantId = tenant ∧
    user.role ∈ payload.recipientRoles ∧
    user.isActive = true ∧ user.deletedAt = none

/-- A notification of the event's type and key that its recipient has neither read nor
removed. -/
structure Unread (payload : NotificationDispatchEvent) (tenant u : Uuid) (n : Notification) :
    Prop where
  tenant : n.tenantId = tenant
  recipient : n.recipientId = u
  type : n.type = payload.type
  key : n.dedupKey = payload.dedupKey
  unread : n.readAt = none
  live : n.deletedAt = none

/-- The event lists the id, or names it through a role. -/
def Named (payload : NotificationDispatchEvent) (db : Database) (text : String) : Prop :=
  text ∈ payload.recipientIds ∨ ∃ tenant u, uuidIn payload.tenantId = some tenant ∧
    Addressed payload tenant db u ∧ text = uuidOut u

/-- The event has a key, and the user has an unread notification of it. -/
def Held (payload : NotificationDispatchEvent) (db : Database) (u : Uuid) : Prop :=
  (∃ key, payload.dedupKey = some key ∧ key ≠ "") ∧
    ∃ tenant, uuidIn payload.tenantId = some tenant ∧
      ∃ n ∈ db.notifications, Unread payload tenant u n

variable {payload : NotificationDispatchEvent} {tenant : Uuid} {w w' : World} {key : String}
  {fault : Label → Err → Prop}

/-! ## Recipients -/

theorem wp_resolveRecipients {post : Except Err (List String) → World → Prop}
    (failed : ∀ e, post (.error e) w)
    (found : ∀ texts : List String, texts.Nodup →
      (∀ text, text ∈ texts ↔ Named payload w.db text) → post (.ok texts) w) :
    (resolveRecipients payload).run.wp fault post w := by
  have listed : (addAll [] payload.recipientIds).Nodup := nodup_addAll List.nodup_nil
  unfold resolveRecipients
  refine Svc.wp_ite (fun none => ?_) fun _ => ?_
  · have unnamed : payload.recipientRoles = [] := List.isEmpty_iff.mp none
    refine found _ listed fun text => ?_
    rw [mem_addAll]
    constructor
    · exact fun h => h.elim (fun empty => nomatch empty) .inl
    · rintro (named | ⟨tenant, u, -, ⟨user, -, -, -, role, -⟩, -⟩)
      · exact .inr named
      · rw [unnamed] at role
        cases role
  · refine Prog.wp_run_bind (Svc.wp_query ?_ failed)
    cases ht : uuidIn payload.tenantId with
    | none =>
        simp only [uuidParam, ht]
        exact failed _
    | some tenant =>
        simp only [uuidParam, ht, bind, Except.bind, pure, Except.pure]
        generalize selected : w.db.users.select _ = users
        refine found _ (nodup_addAll listed) fun text => ?_
        rw [mem_addAll, mem_addAll]
        refine or_congr ⟨fun h => h.resolve_left (fun empty => nomatch empty), .inr⟩ ?_
        rw [List.mem_map]
        constructor
        · rintro ⟨user, mem, rfl⟩
          rw [← selected] at mem
          obtain ⟨stored, passes⟩ := List.mem_filter.mp mem
          simp only [Bool.and_eq_true, beq_iff_eq, List.contains_iff_mem, Option.isNone_iff_eq_none]
            at passes
          exact ⟨tenant, user.id, ht,
            ⟨user, stored, rfl, passes.1.1.1, passes.1.1.2, passes.1.2,
            passes.2⟩, rfl⟩
        · rintro ⟨t, u, same, ⟨user, stored, rfl, owned, role, active, live⟩, rfl⟩
          obtain rfl : tenant = t := Option.some.inj (ht.symm.trans same)
          refine ⟨user, ?_, rfl⟩
          rw [← selected]
          refine List.mem_filter.mpr ⟨stored, ?_⟩
          simp [owned, role, active, live]

/-- The texts of the users that already have one, among those that are given. -/
theorem wp_filterDeduplicated {post : Except Err (List String) → World → Prop}
    {texts : List String}
    (keyed : payload.dedupKey = some key) (some_key : key ≠ "")
    (failed : ∀ e, post (.error e) w)
    (found : ∀ keep : String → Bool, (∀ text ∈ texts, keep text = true ↔
      ¬ ∃ u, Held payload w.db u ∧ text = uuidOut u) → post (.ok (texts.filter keep)) w) :
    (filterDeduplicated payload key texts).run.wp fault post w := by
  unfold filterDeduplicated
  refine Prog.wp_run_bind (Svc.wp_query ?_ failed)
  cases ht : uuidIn payload.tenantId with
  | none =>
      simp only [uuidParam, ht]
      exact failed _
  | some tenant =>
      simp only [uuidParam_eq_ok.mpr ht, bind, Except.bind, pure, Except.pure]
      cases hi : texts.mapM uuidParam with
      | error e => exact failed e
      | ok ids =>
          have listed := map_uuidIn hi
          refine found _ fun text mem => ?_
          rw [Bool.not_eq_true', ← Bool.not_eq_true, List.contains_iff_mem, List.mem_map]
          refine not_congr ?_
          constructor
          · rintro ⟨n, selected, rfl⟩
            obtain ⟨stored, passes⟩ := List.mem_filter.mp selected
            simp only [Bool.and_eq_true, beq_iff_eq, Option.isNone_iff_eq_none] at passes
            obtain ⟨⟨⟨⟨⟨owned, -⟩, same⟩, unread⟩, live⟩, -⟩ := passes
            have type : n.type = payload.type := by
              cases n.type
              cases payload.type
              rfl
            exact ⟨n.recipientId, ⟨⟨key, keyed, some_key⟩, tenant, ht, n, stored,
              owned, rfl, type,
              same.trans keyed.symm, unread, live⟩, rfl⟩
          · rintro ⟨u, ⟨-, t, same, n, stored, h⟩, rfl⟩
            obtain rfl : tenant = t := Option.some.inj (ht.symm.trans same)
            refine ⟨n, List.mem_filter.mpr ⟨stored, ?_⟩, by rw [h.recipient]⟩
            have inside : u ∈ ids := (mem_of_map_uuidIn listed).mpr ⟨_, mem, uuidIn_uuidOut u⟩
            simp [h.tenant, h.recipient, h.type, h.key, h.unread, h.live, keyed, inside]

/-! ## Delivery -/

/-- An unread notification that tells what the event does. -/
structure Tells (payload : NotificationDispatchEvent) (n : Notification) : Prop where
  tenant : uuidIn payload.tenantId = some n.tenantId
  type : n.type = payload.type
  title : n.title = payload.title
  body : n.body = payload.body
  data : n.data = payload.data
  key : n.dedupKey = payload.dedupKey
  unread : n.readAt = none
  live : n.deletedAt = none

theorem Tells.unread_of {n : Notification} (h : Tells payload n)
    (ht : uuidIn payload.tenantId = some tenant) : Unread payload tenant n.recipientId n :=
  ⟨Option.some.inj (h.tenant.symm.trans ht), rfl, h.type, h.key, h.unread, h.live⟩

/-- The row that one recipient gets. -/
def saveRow (payload : NotificationDispatchEvent) (tenant : Uuid) (w : World)
    (recipientId : String) :
    Except Err World := do
  let recipient ← uuidParam recipientId
  let (_, w) ← w.insert fun id now =>
    { id, tenantId := tenant, recipientId := recipient, type := payload.type,
      title := payload.title, body := payload.body, data := payload.data,
      dedupKey := payload.dedupKey, readAt := none, createdAt := now, updatedAt := now,
      deletedAt := none : Notification }
  pure w

theorem saveRows_eq (targets : List String) :
    saveRows payload targets w = (do
      let tenant ← uuidParam payload.tenantId
      let w ← targets.foldlM (saveRow payload tenant) w
      pure ((), w)) := rfl

/-- The notifications have grown by one for each of `ids`, and nothing else has changed
but the ids still to be generated. -/
structure Grown (payload : NotificationDispatchEvent) (ids : List Uuid) (w w' : World) : Prop where
  rest : w' = { w with db := { w.db with notifications := w'.db.notifications }, ids := w'.ids }
  added : ∃ added : List Notification,
    w'.db.notifications.rows = w.db.notifications.rows ++ added ∧
      added.map (·.recipientId) = ids ∧
      ∀ n ∈ added, Tells payload n

theorem Grown.refl : Grown payload [] w w := ⟨rfl, [], by simp, rfl, by simp⟩

theorem Grown.trans {ids more : List Uuid} {v : World} (h : Grown payload ids w v)
    (h' : Grown payload more v w') : Grown payload (ids ++ more) w w' := by
  obtain ⟨rest, added, rows, named, fresh⟩ := h
  obtain ⟨rest', added', rows', named', fresh'⟩ := h'
  refine ⟨?_, added ++ added', ?_, ?_, fun n hn => ?_⟩
  · rw [rest', rest]
  · rw [rows', rows, List.append_assoc]
  · rw [List.map_append, named, named']
  · rcases List.mem_append.mp hn with mem | mem
    · exact fresh n mem
    · exact fresh' n mem

theorem saveRow_ok {text : String} (ht : uuidIn payload.tenantId = some tenant)
    (h : saveRow payload tenant w text = .ok w') :
    ∃ u, uuidIn text = some u ∧ Grown payload [u] w w' := by
  obtain ⟨u, named, h⟩ := bind_eq_ok.mp h
  obtain ⟨⟨row, v⟩, inserted, same⟩ := bind_eq_ok.mp h
  cases same
  obtain ⟨built, -, -, t, rows, rfl⟩ := World.insert_ok inserted
  refine ⟨u, uuidParam_eq_ok.mp named, rfl, [row], rows, ?_, fun n hn => ?_⟩
  · rw [built]
    rfl
  · rw [List.mem_singleton.mp hn, built]
    exact ⟨ht, rfl, rfl, rfl, rfl, rfl, rfl, rfl⟩

theorem saveEach_ok {targets : List String} (ht : uuidIn payload.tenantId = some tenant)
    (h : targets.foldlM (saveRow payload tenant) w = .ok w') :
    ∃ ids, targets.map uuidIn = ids.map some ∧ Grown payload ids w w' := by
  induction targets generalizing w with
  | nil =>
      cases h
      exact ⟨[], rfl, Grown.refl⟩
  | cons text targets ih =>
      rw [List.foldlM_cons] at h
      obtain ⟨v, first, others⟩ := bind_eq_ok.mp h
      obtain ⟨u, named, grown⟩ := saveRow_ok ht first
      obtain ⟨ids, texts, more⟩ := ih others
      exact ⟨u :: ids, by rw [List.map_cons, named, texts]; rfl, grown.trans more⟩

theorem saveRows_ok {targets : List String} (h : saveRows payload targets w = .ok ((), w')) :
    ∃ ids, targets.map uuidIn = ids.map some ∧ Grown payload ids w w' := by
  rw [saveRows_eq] at h
  obtain ⟨tenant, named, h⟩ := bind_eq_ok.mp h
  obtain ⟨v, saved, same⟩ := bind_eq_ok.mp h
  cases same
  exact saveEach_ok (uuidParam_eq_ok.mp named) saved

/-- What a delivery does: `targets` are the texts that are named and not yet notified. -/
structure Delivers (payload : NotificationDispatchEvent) (targets : List String) (ids : List Uuid)
    (w w' : World) : Prop where
  distinct : targets.Nodup
  chosen : ∀ text, text ∈ targets ↔
    Named payload w.db text ∧ ¬ ∃ u, Held payload w.db u ∧ text = uuidOut u
  texts : targets.map uuidIn = ids.map some
  grown : Grown payload ids w w'

def DeliverPost (payload : NotificationDispatchEvent) (w : World) :
    Except Err Unit → World → Prop
  | .ok _, w' => ∃ targets ids, Delivers payload targets ids w w'
  | .error _, w' => w' = w

theorem wp_deliver : (deliver payload).run.wp fault (DeliverPost payload w) w := by
  unfold deliver
  refine Prog.wp_run_bind (wp_resolveRecipients (fun _ => rfl) fun texts distinct named => ?_)
  -- the texts that are left, whichever branch has found them
  have rest : ∀ targets : List String, targets.Nodup →
      (∀ text, text ∈ targets ↔
        Named payload w.db text ∧ ¬ ∃ u, Held payload w.db u ∧ text = uuidOut u) →
      (if targets.isEmpty then pure ()
        else statement
          (.insert (.notifications payload.tenantId payload.type payload.dedupKey targets))
          (saveRows payload targets) : Svc Unit).run.wp fault (DeliverPost payload w) w := by
    intro targets distinct chosen
    refine Svc.wp_ite (fun empty => ?_) fun _ => ?_
    · rw [List.isEmpty_iff.mp empty] at chosen
      exact ⟨[], [], List.nodup_nil, chosen, rfl, Grown.refl⟩
    · refine Svc.wp_statement (fun _ w' saved => ?_) fun _ => rfl
      obtain ⟨ids, parsed, grown⟩ := saveRows_ok saved
      exact ⟨targets, ids, distinct, chosen, parsed, grown⟩
  have all : (∀ key, payload.dedupKey = some key → key = "") → ∀ text, text ∈ texts ↔
      Named payload w.db text ∧ ¬ ∃ u, Held payload w.db u ∧ text = uuidOut u := by
    intro unkeyed text
    rw [named]
    refine ⟨fun h => ⟨h, ?_⟩, fun h => h.1⟩
    rintro ⟨u, ⟨⟨key, keyed, some_key⟩, -⟩, -⟩
    exact some_key (unkeyed key keyed)
  dsimp only
  split
  · rename_i none
    exact rest texts distinct (all fun key keyed => nomatch none.symm.trans keyed)
  · rename_i empty
    exact rest texts distinct (all fun key keyed => (Option.some.inj (empty.symm.trans keyed)).symm)
  · rename_i key some_key keyed
    split
    · rename_i none
      have unnamed : texts = [] := List.isEmpty_iff.mp none
      rw [unnamed] at named
      refine rest [] List.nodup_nil fun text => ⟨fun mem => (nomatch mem), fun h => ?_⟩
      exact (named text).mpr h.1
    · refine Prog.wp_run_bind (wp_filterDeduplicated keyed some_key (fun _ => rfl)
        fun keep kept => ?_)
      refine rest _ (distinct.filter _) fun text => ?_
      rw [List.mem_filter]
      constructor
      · exact fun h => ⟨(named text).mp h.1, (kept text h.1).mp h.2⟩
      · exact fun h => ⟨(named text).mpr h.1, (kept text ((named text).mpr h.1)).mpr h.2⟩

namespace Delivers

variable {targets : List String} {ids : List Uuid}

theorem mem_iff (h : Delivers payload targets ids w w') {u : Uuid} : u ∈ ids ↔
    ∃ text, (Named payload w.db text ∧ ¬ ∃ v, Held payload w.db v ∧ text = uuidOut v) ∧
      uuidIn text = some u := by
  rw [mem_of_map_uuidIn h.texts]
  exact exists_congr fun text => and_congr_left fun _ => h.chosen text

theorem parsed (h : Delivers payload targets ids w w') {text : String} (mem : text ∈ targets) :
    ∃ u, uuidIn text = some u := by
  have inside : uuidIn text ∈ ids.map some := h.texts ▸ List.mem_map_of_mem mem
  obtain ⟨u, -, same⟩ := List.mem_map.mp inside
  exact ⟨u, same.symm⟩

/-- No user is named twice when no two texts name one. -/
theorem nodup_iff (h : Delivers payload targets ids w w') :
    ids.Nodup ↔ ∀ a ∈ targets, ∀ b ∈ targets, uuidIn a = uuidIn b → a = b := by
  have lifted : (ids.map some).Nodup ↔ ids.Nodup :=
    List.nodup_map_iff (Option.some_injective _)
  rw [← lifted, ← h.texts]
  exact List.nodup_map_iff_inj_on h.distinct

end Delivers

/-- Everyone addressed who has no unread one of this key gets one. -/
structure Delivered (payload : NotificationDispatchEvent) (tenant : Uuid) (w w' : World) :
    Prop where
  grown : ∃ ids : List Uuid, ids.Nodup ∧ Grown payload ids w w' ∧
    ∀ u, u ∈ ids ↔ Addressed payload tenant w.db u ∧
      ∀ n ∈ w.db.notifications, ¬ Unread payload tenant u n

/-- The delivery of an event that names its recipients by their roles only. -/
theorem Delivers.delivered {targets : List String} {ids : List Uuid}
    (h : Delivers payload targets ids w w') (unlisted : payload.recipientIds = [])
    (keyed : payload.dedupKey = some key) (some_key : key ≠ "")
    (ht : uuidIn payload.tenantId = some tenant) : Delivered payload tenant w w' := by
  have named : ∀ text, Named payload w.db text ↔
      ∃ u, Addressed payload tenant w.db u ∧ text = uuidOut u := by
    intro text
    unfold Named
    rw [unlisted, ht]
    simp
  have held : ∀ u, Held payload w.db u ↔ ∃ n ∈ w.db.notifications,
    Unread payload tenant u n := by
    intro u
    unfold Held
    rw [keyed, ht]
    simp [some_key]
  refine ⟨ids, h.nodup_iff.mpr fun a ha b hb same => ?_, h.grown, fun u => ?_⟩
  · obtain ⟨u, -, rfl⟩ := (named a).mp ((h.chosen a).mp ha).1
    obtain ⟨v, -, rfl⟩ := (named b).mp ((h.chosen b).mp hb).1
    rw [uuidIn_uuidOut, uuidIn_uuidOut] at same
    rw [Option.some.inj same]
  · rw [h.mem_iff]
    constructor
    · rintro ⟨text, ⟨addressed, free⟩, parsed⟩
      obtain ⟨v, hv, rfl⟩ := (named text).mp addressed
      rw [uuidIn_uuidOut] at parsed
      obtain rfl : v = u := Option.some.inj parsed
      exact ⟨hv, fun n mem unread => free ⟨v, (held v).mpr ⟨n, mem, unread⟩, rfl⟩⟩
    · rintro ⟨addressed, free⟩
      refine ⟨uuidOut u, ⟨(named _).mpr ⟨u, addressed, rfl⟩, ?_⟩, uuidIn_uuidOut u⟩
      rintro ⟨v, holds, same⟩
      obtain ⟨n, mem, unread⟩ := (held v).mp holds
      exact free n mem (uuidOut_injective same ▸ unread)

end NotificationListener

namespace NotificationService

open UuidText

variable {w w' : World}

/-- A notification later on: the recipient may have read or removed it. -/
structure Aged (m n : Notification) : Prop where
  id : n.id = m.id
  tenant : n.tenantId = m.tenantId
  recipient : n.recipientId = m.recipientId
  type : n.type = m.type
  key : n.dedupKey = m.dedupKey
  read : n.readAt = none → m.readAt = none
  removed : n.deletedAt = none → m.deletedAt = none

theorem Aged.refl (n : Notification) : Aged n n :=
  ⟨rfl, rfl, rfl, rfl, rfl, fun unread => unread, fun live => live⟩

theorem Aged.trans {l m n : Notification} (h : Aged l m) (h' : Aged m n) : Aged l n where
  id := h'.id.trans h.id
  tenant := h'.tenant.trans h.tenant
  recipient := h'.recipient.trans h.recipient
  type := h'.type.trans h.type
  key := h'.key.trans h.key
  read unread := h.read (h'.read unread)
  removed live := h.removed (h'.removed live)

theorem aged_markedDeleted (now : Timestamp) (n : Notification) : Aged n (markedDeleted now n) :=
  ⟨rfl, rfl, rfl, rfl, rfl, fun unread => unread, fun live => (nomatch live)⟩

/-- Nothing has changed but the age of notifications. -/
structure Answered (w w' : World) : Prop where
  rest : w' = { w with db := { w.db with notifications := w'.db.notifications } }
  aged : ∃ f, (∀ n, Aged n (f n)) ∧ w'.db.notifications.rows = w.db.notifications.rows.map f

theorem Answered.refl : Answered w w := ⟨rfl, fun n => n, Aged.refl, by simp⟩

theorem answered_updateWhere {p : Notification → Bool} {f : Notification → Notification}
    {keeps : ∀ r s, conflict (f r) s = conflict r s} {affected : ℕ} (ages : ∀ n, Aged n (f n))
    (h : (pure (updateWhere p f keeps w) : Except Err (ℕ × World)) = .ok (affected, w')) :
    Answered w w' := by
  cases h
  refine ⟨rfl, fun n => if p n then f n else n, fun n => ?_, rfl⟩
  change Aged n (if p n then f n else n)
  by_cases hp : p n = true
  · rw [if_pos hp]
    exact ages n
  · rw [if_neg hp]
    exact Aged.refl n

/-- The UPDATE of the read marks is refused. -/
theorem wp_markRead (tenantId recipientId i : String) :
    (markRead tenantId recipientId i).run.wp dbFault (fun _ => Answered w) w := by
  unfold markRead
  rw [Svc.run_bind, Prog.wp_bind]
  refine Svc.wp_statement (fun affected w' h => ?_) fun e => ?_
  · rw [qualify_singular] at h
    cases h
  · exact Answered.refl

theorem wp_markAllRead (tenantId recipientId : String) :
    (markAllRead tenantId recipientId).run.wp dbFault (fun _ => Answered w) w := by
  unfold markAllRead write
  refine Svc.wp_statement (fun affected w' h => ?_) fun e => ?_
  · rw [qualify_singular] at h
    cases h
  · exact Answered.refl

theorem wp_remove (tenantId recipientId i : String) :
    (remove tenantId recipientId i).run.wp dbFault (fun _ => Answered w) w := by
  unfold remove
  rw [Svc.run_bind, Prog.wp_bind]
  refine Svc.wp_statement (fun affected w' h => ?_) fun _ => Answered.refl
  obtain ⟨id, -, h⟩ := bind_eq_ok.mp h
  obtain ⟨tenant, -, h⟩ := bind_eq_ok.mp h
  obtain ⟨recipient, -, h⟩ := bind_eq_ok.mp h
  have answered := answered_updateWhere (aged_markedDeleted w.clock) h
  rw [Svc.next_ok]
  split
  · exact answered
  · exact answered

end NotificationService
end Tenantory
