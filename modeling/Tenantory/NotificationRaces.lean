import Tenantory.AttestedCalls
import Tenantory.NotificationFanOut

/-! Dispatches and the actions of recipients, interleaved: how many unread notifications of
one key a recipient may come to have. A dispatch looks for them in one statement and inserts
in a later one; nobody gets two as long as nobody is notified in between. -/

namespace Tenantory

open Svc UuidText

/-- Two notifications of one key to one recipient, neither of them read or removed. -/
structure Repeats (m n : Notification) : Prop where
  tenant : m.tenantId = n.tenantId
  recipient : m.recipientId = n.recipientId
  type : m.type = n.type
  key : m.dedupKey = n.dedupKey
  keyed : n.dedupKey ≠ none
  unread : m.readAt = none ∧ n.readAt = none
  live : m.deletedAt = none ∧ n.deletedAt = none

instance (m n : Notification) : Decidable (Repeats m n) :=
  decidable_of_iff (m.tenantId = n.tenantId ∧ m.recipientId = n.recipientId ∧
    m.type = n.type ∧
    m.dedupKey = n.dedupKey ∧ n.dedupKey ≠ none ∧ (m.readAt = none ∧ n.readAt = none) ∧
    m.deletedAt = none ∧ n.deletedAt = none)
    ⟨fun ⟨h₁, h₂, h₃, h₄, h₅, h₆, h₇⟩ =>
      ⟨h₁, h₂, h₃, h₄, h₅, h₆, h₇⟩,
      fun ⟨h₁, h₂, h₃, h₄, h₅, h₆, h₇⟩ =>
        ⟨h₁, h₂, h₃, h₄, h₅, h₆, h₇⟩⟩

theorem Repeats.symm {m n : Notification} (h : Repeats m n) : Repeats n m :=
  ⟨h.tenant.symm, h.recipient.symm, h.type.symm, h.key.symm, h.key ▸ h.keyed, h.unread.symm,
    h.live.symm⟩

/-- Of one key, a recipient has at most one unread notification. -/
def UnreadOnce (db : Database) : Prop :=
  ∀ m ∈ db.notifications.rows, ∀ n ∈ db.notifications.rows, Repeats m n → m.id = n.id

instance (db : Database) : Decidable (UnreadOnce db) := by
  unfold UnreadOnce
  infer_instance

/-- Notifications under a key are inserted for users of whom none has an unread one at that
moment, and none is named twice. -/
def NotifiesOnce (w : World) : Label → Prop
  | .insert (.notifications tenantId type (some key) recipientIds) =>
      (recipientIds.filterMap uuidIn).Nodup ∧ ∀ n ∈ w.db.notifications.rows,
        uuidIn tenantId = some n.tenantId → n.type = type → n.dedupKey = some key →
          n.readAt = none → n.deletedAt = none → n.recipientId ∉ recipientIds.filterMap uuidIn
  | _ => True

/-! ## The condition on the schedule -/

/-- The user has an unread notification of the key. -/
def HasUnread (w : World) (tenant recipient : Uuid) (type : NotificationType) (key : String) :
    Prop :=
  ∃ n ∈ w.db.notifications.rows, n.tenantId = tenant ∧ n.recipientId = recipient ∧
    n.type = type ∧ n.dedupKey = some key ∧ n.readAt = none ∧ n.deletedAt = none

instance (w : World) (tenant recipient : Uuid) (type : NotificationType) (key : String) :
    Decidable (HasUnread w tenant recipient type key) := by
  unfold HasUnread
  infer_instance

/-- Since the dispatch's own earlier statements none of those it inserts for has been notified:
who has an unread notification of the key by now had one then. -/
def UntoldSince (past : List World) (w : World) : Label → Prop
  | .insert (.notifications tenantId type (some key) recipientIds) =>
      ∀ n ∈ w.db.notifications.rows, uuidIn tenantId = some n.tenantId → n.type = type →
        n.dedupKey = some key → n.readAt = none → n.deletedAt = none →
          n.recipientId ∈ recipientIds.filterMap uuidIn →
            ∀ u ∈ past, HasUnread u n.tenantId n.recipientId type key
  | _ => True

instance (past : List World) (w : World) (label : Label) :
    Decidable (UntoldSince past w label) := by
  unfold UntoldSince
  split <;> infer_instance

/-- The recipients are spelled as the server spells ids, and the key is no empty text. -/
structure NotificationDispatchEvent.Spelled (payload : NotificationDispatchEvent) : Prop where
  recipients : ∀ text ∈ payload.recipientIds, ∃ id, text = uuidOut id
  key : payload.dedupKey ≠ some ""

/-- What the calls go by. -/
def notifyingTerms : Terms World Err Label where
  fault := dbFault
  cond := UntoldSince
  good w := UnreadOnce w.db
  rely _ _ := True
  refl _ := trivial
  holds := NotifiesOnce

theorem lenient_notifying : Lenient notifyingTerms := by
  intro w label quiet
  cases label <;> trivial

variable {payload : NotificationDispatchEvent} {w w' : World}

/-! ## Statements -/

theorem NotificationListener.saveRows_once {targets : List String} (once : UnreadOnce w.db)
    (admitted : NotifiesOnce w
      (.insert (.notifications payload.tenantId payload.type payload.dedupKey targets)))
    (h : saveRows payload targets w = .ok ((), w')) : UnreadOnce w'.db := by
  obtain ⟨ids, texts, grown⟩ := saveRows_ok h
  obtain ⟨added, rows, named, tells⟩ := grown.added
  have parsed : targets.filterMap uuidIn = ids := by
    have both := congrArg (List.filterMap id) texts
    simpa [List.filterMap_map] using both
  have tells_key : ∀ n ∈ added, n.dedupKey ≠ none →
    ∃ key, payload.dedupKey = some key := by
    intro n hn keyed
    rw [(tells n hn).key] at keyed
    exact Option.ne_none_iff_exists'.mp keyed
  -- nobody who has an unread one gets another
  have apart : ∀ m ∈ w.db.notifications.rows, ∀ n ∈ added, ¬ Repeats m n := by
    intro m hm n hn repeats
    obtain ⟨key, keyed⟩ := tells_key n hn repeats.keyed
    have told := tells n hn
    rw [keyed] at admitted
    refine admitted.2 m hm (told.tenant.trans (congrArg some repeats.tenant.symm))
      (repeats.type.trans told.type) (repeats.key.trans (told.key.trans keyed)) repeats.unread.1
      repeats.live.1 ?_
    rw [parsed, ← named, repeats.recipient]
    exact List.mem_map_of_mem hn
  intro m hm n hn repeats
  rw [rows] at hm hn
  rcases List.mem_append.mp hm with old | new
  · rcases List.mem_append.mp hn with old' | new'
    · exact once m old n old' repeats
    · exact absurd repeats (apart m old n new')
  · rcases List.mem_append.mp hn with old' | new'
    · exact absurd repeats.symm (apart n old' m new)
    · obtain ⟨key, keyed⟩ := tells_key n new' repeats.keyed
      rw [keyed] at admitted
      have distinct := admitted.1
      rw [parsed, ← named] at distinct
      rw [List.inj_on_of_nodup_map distinct new new' repeats.recipient]

theorem NotificationService.answered_once (once : UnreadOnce w.db) (answered : Answered w w') :
    UnreadOnce w'.db := by
  obtain ⟨-, f, aged, rows⟩ := answered
  intro m hm n hn repeats
  rw [rows] at hm hn
  obtain ⟨m, stored, rfl⟩ := List.mem_map.mp hm
  obtain ⟨n, stored', rfl⟩ := List.mem_map.mp hn
  have before : Repeats m n := {
    tenant := (aged m).tenant.symm.trans (repeats.tenant.trans (aged n).tenant)
    recipient := (aged m).recipient.symm.trans (repeats.recipient.trans (aged n).recipient)
    type := (aged m).type.symm.trans (repeats.type.trans (aged n).type)
    key := (aged m).key.symm.trans (repeats.key.trans (aged n).key)
    keyed := (aged n).key ▸ repeats.keyed
    unread := ⟨(aged m).read repeats.unread.1, (aged n).read repeats.unread.2⟩
    live := ⟨(aged m).removed repeats.live.1, (aged n).removed repeats.live.2⟩ }
  rw [(aged m).id, (aged n).id]
  exact once m stored n stored' before

/-! ## Calls -/

abbrev KeepsOnce {α : Type} (p : Svc α) : Prop := KeepsTables NotifiesOnce UnreadOnce p

theorem NotificationListener.handleDispatch_once (payload : NotificationDispatchEvent) :
    KeepsOnce (handleDispatch payload) := by
  have saves : ∀ targets : List String, KeepsOnce (if targets.isEmpty then pure ()
      else statement
        (.insert (.notifications payload.tenantId payload.type payload.dedupKey targets))
        (saveRows payload targets) : Svc Unit) := fun targets =>
    keeps_ite (keeps_pure _) (keeps_statement fun _ _ _ once admitted saved =>
      saveRows_once once admitted saved)
  refine keeps_tryCatch (keeps_bind ?_ fun recipientIds => ?_) fun _ => keeps_pure _
  · exact keeps_ite (keeps_pure _) (keeps_bind (keeps_query _) fun _ => keeps_pure _)
  · dsimp only
    split
    · exact saves _
    · exact saves _
    · split
      · exact saves []
      · exact keeps_bind (keeps_bind (keeps_query _) fun _ => keeps_pure _) fun _ => saves _

namespace NotificationListener

/-- Different texts, each spelled as an id. -/
theorem exists_ids {texts : List String} (distinct : texts.Nodup)
    (spelled : ∀ text ∈ texts, ∃ id, text = uuidOut id) :
    ∃ ids : List Uuid, ids.Nodup ∧ texts = ids.map uuidOut := by
  have named : texts ∈ Set.range (List.map uuidOut) := by
    rw [Set.range_list_map]
    intro text mem
    obtain ⟨id, same⟩ := spelled text mem
    exact ⟨id, same.symm⟩
  obtain ⟨ids, rfl⟩ := named
  exact ⟨ids, distinct.of_map, rfl⟩

theorem attests_resolveRecipients {post : List World → List String → Prop} {past : List World}
    (spelled : payload.Spelled)
    (h : ∀ past (ids : List Uuid), ids.Nodup → post past (ids.map uuidOut)) :
    (resolveRecipients payload).Attests notifyingTerms post past := by
  have listed : (addAll [] payload.recipientIds).Nodup := nodup_addAll List.nodup_nil
  refine attests_ite (fun _ => attests_pure ?_) fun _ =>
    attests_bind (attests_query lenient_notifying fun w users _ _ => attests_pure ?_)
  · obtain ⟨ids, distinct, same⟩ := exists_ids listed fun text mem =>
      spelled.recipients text ((mem_addAll.mp mem).resolve_left (fun empty => nomatch empty))
    rw [same]
    exact h _ ids distinct
  · have joined : (addAll (addAll [] payload.recipientIds)
        (users.map fun u => uuidOut u.id)).Nodup := nodup_addAll listed
    obtain ⟨ids, distinct, same⟩ := exists_ids joined fun text mem => by
        rcases mem_addAll.mp mem with listed | user
        · exact spelled.recipients text
            ((mem_addAll.mp listed).resolve_left (fun empty => nomatch empty))
        · obtain ⟨u, -, rfl⟩ := List.mem_map.mp user
          exact ⟨u.id, rfl⟩
    rw [same]
    exact h _ ids distinct

/-- Those that are left had no unread notification of the key when the dispatch looked. -/
theorem attests_filterDeduplicated {post : List World → List String → Prop} {past : List World}
    {key : String} {ids : List Uuid}
    (h : ∀ u (keep : Uuid → Bool), (∀ tenant, uuidIn payload.tenantId = some tenant →
      ∀ id ∈ ids, keep id = true → ¬ HasUnread u tenant id payload.type key) →
        post (past ++ [u]) ((ids.filter keep).map uuidOut)) :
    (filterDeduplicated payload key (ids.map uuidOut)).Attests notifyingTerms post past := by
  refine attests_bind (attests_query lenient_notifying fun u notified _ read => attests_pure ?_)
  rw [List.filter_map]
  refine h u _ fun tenant ht id mem kept => ?_
  rintro ⟨n, stored, rfl, rfl, type, keyed, unread, live⟩
  obtain ⟨tenant, ht', read⟩ := bind_eq_ok.mp read
  obtain rfl : n.tenantId = tenant := Option.some.inj (ht.symm.trans (uuidParam_eq_ok.mp ht'))
  obtain ⟨listed, parsed, read⟩ := bind_eq_ok.mp read
  have found := Except.ok.inj read
  have parsed := map_uuidIn parsed
  rw [List.map_map, show uuidIn ∘ uuidOut = some from funext uuidIn_uuidOut] at parsed
  obtain rfl : ids = listed := List.map_injective_iff.mpr (Option.some_injective _) parsed
  have skipped : n ∈ notified := by
    rw [← found]
    refine List.mem_filter.mpr ⟨stored, ?_⟩
    simp [type, keyed, unread, live, mem]
  have listed : uuidOut n.recipientId ∈ notified.map fun n => uuidOut n.recipientId :=
    List.mem_map_of_mem (f := fun n : Notification => uuidOut n.recipientId) skipped
  rw [Function.comp_apply, Bool.not_eq_true', ← Bool.not_eq_true, List.contains_iff_mem] at kept
  exact kept listed

theorem attests_handleDispatch {past : List World} (spelled : payload.Spelled) :
    (handleDispatch payload).Attests notifyingTerms (fun _ _ => True) past := by
  have saves : ∀ (past : List World) (ids : List Uuid), ids.Nodup →
      (∀ key, payload.dedupKey = some key → ∃ u ∈ past, ∀ tenant,
        uuidIn payload.tenantId = some tenant → ∀ id ∈ ids,
          ¬ HasUnread u tenant id payload.type key) →
      (if (ids.map uuidOut).isEmpty then pure ()
        else statement (.insert (.notifications payload.tenantId payload.type payload.dedupKey
          (ids.map uuidOut))) (saveRows payload (ids.map uuidOut)) : Svc Unit).Attests
            notifyingTerms (fun _ _ => True) past := by
    intro past ids distinct looked
    refine attests_ite (fun _ => attests_pure trivial) fun _ =>
      attests_statement fun w met => ⟨?_, fun _ _ _ => trivial⟩
    have met := met.cond
    have parsed : (ids.map uuidOut).filterMap uuidIn = ids := by
      rw [List.filterMap_map, show uuidIn ∘ uuidOut = some from funext uuidIn_uuidOut,
        List.filterMap_some]
    cases keyed : payload.dedupKey with
    | none => trivial
    | some key =>
        change UntoldSince past w (.insert (.notifications _ _ payload.dedupKey _)) at met
        rw [keyed] at met
        obtain ⟨u, seen, untold⟩ := looked key keyed
        refine ⟨parsed.symm ▸ distinct, fun n stored owner type key unread live told => ?_⟩
        have before := met n stored owner type key unread live told u seen
        rw [parsed] at told
        exact untold n.tenantId owner n.recipientId told before
  refine attests_tryCatch
    (attests_bind (attests_resolveRecipients spelled fun past ids distinct => ?_))
    fun _ _ => attests_pure trivial
  dsimp only
  split
  · rename_i unkeyed
    exact saves past ids distinct fun key keyed => nomatch unkeyed.symm.trans keyed
  · rename_i empty
    exact absurd empty spelled.key
  · rename_i key _ keyed
    split
    · refine attests_bind (attests_pure ?_)
      exact attests_ite (fun _ => attests_pure trivial) fun some => absurd rfl some
    · refine attests_bind (attests_filterDeduplicated fun u keep untold => ?_)
      refine saves _ _ (distinct.filter _) fun key' keyed' =>
        ⟨u, List.mem_append_right _ List.mem_cons_self, fun tenant ht id mem => ?_⟩
      obtain rfl : key = key' := Option.some.inj (keyed.symm.trans keyed')
      obtain ⟨mem, kept⟩ := List.mem_filter.mp mem
      exact untold tenant ht id mem kept

end NotificationListener

namespace NotificationService

theorem markRead_once (tenantId recipientId id : String) :
    KeepsOnce (markRead tenantId recipientId id) := by
  refine keeps_bind (keeps_statement fun w affected w' once _ h => ?_) fun _ =>
    keeps_ite (keeps_pure _) (keeps_bind (keeps_query _) fun _ =>
      keeps_ite (keeps_throw _) (keeps_pure _))
  rw [qualify_singular] at h
  cases h

theorem markAllRead_once (tenantId recipientId : String) :
    KeepsOnce (markAllRead tenantId recipientId) := by
  unfold markAllRead write
  refine keeps_statement fun w affected w' once _ h => ?_
  rw [qualify_singular] at h
  cases h

theorem remove_once (tenantId recipientId id : String) :
    KeepsOnce (remove tenantId recipientId id) := by
  refine keeps_bind (keeps_statement fun w affected w' once _ h => ?_) fun _ =>
    keeps_ite (keeps_throw _) (keeps_pure _)
  obtain ⟨id, -, h⟩ := bind_eq_ok.mp h
  obtain ⟨tenant, -, h⟩ := bind_eq_ok.mp h
  obtain ⟨recipient, -, h⟩ := bind_eq_ok.mp h
  exact answered_once once (answered_updateWhere (aged_markedDeleted w.clock) h)

end NotificationService

/-! ## Interleavings -/

inductive NotificationCall
  | handleDispatch (payload : NotificationDispatchEvent)
  | markRead (tenantId recipientId id : String)
  | markAllRead (tenantId recipientId : String)
  | remove (tenantId recipientId id : String)

def NotificationCall.program : NotificationCall → Svc Unit
  | handleDispatch payload => NotificationListener.handleDispatch payload
  | markRead tenantId recipientId id => NotificationService.markRead tenantId recipientId id
  | markAllRead tenantId recipientId =>
      discard <| NotificationService.markAllRead tenantId recipientId
  | remove tenantId recipientId id => NotificationService.remove tenantId recipientId id

theorem NotificationCall.keeps_once (call : NotificationCall) : KeepsOnce call.program := by
  cases call with
  | handleDispatch payload => exact NotificationListener.handleDispatch_once payload
  | markRead tenantId recipientId id =>
      exact NotificationService.markRead_once tenantId recipientId id
  | markAllRead tenantId recipientId =>
      exact keeps_map _ (NotificationService.markAllRead_once tenantId recipientId)
  | remove tenantId recipientId id => exact NotificationService.remove_once tenantId recipientId id

/-- Calls, none of which has begun. -/
def notificationPool {ι : Type} (calls : ι → NotificationCall) (w : World) :
    Pool World Err Label ι (Except Err Unit) :=
  ⟨w, fun i => (calls i).program.run⟩

theorem NotificationCall.attests (call : NotificationCall)
    (spelled : ∀ payload, call = .handleDispatch payload → payload.Spelled) :
    call.program.Attests notifyingTerms (fun _ _ => True) [] := by
  cases call with
  | handleDispatch payload =>
      exact NotificationListener.attests_handleDispatch (spelled payload rfl)
  | markRead tenantId recipientId id =>
      refine attests_bind (attests_write lenient_notifying fun _ _ _ => ?_)
      refine attests_ite (fun _ => attests_pure trivial) fun _ =>
        attests_bind (attests_query lenient_notifying fun _ _ _ _ => ?_)
      exact attests_ite (fun _ => attests_throw _) fun _ => attests_pure trivial
  | markAllRead tenantId recipientId =>
      exact attests_map (attests_write lenient_notifying fun _ _ _ => trivial)
  | remove tenantId recipientId id =>
      refine attests_bind (attests_write lenient_notifying fun _ _ _ => ?_)
      exact attests_ite (fun _ => attests_throw _) fun _ => attests_pure trivial

/-- However many dispatches and actions interleave: as long as none of those that a dispatch
inserts for is notified since it has looked, nobody has two of one key. -/
theorem unread_once {ι : Type} [DecidableEq ι] (calls : ι → NotificationCall)
    (spelled : ∀ i payload, calls i = .handleDispatch payload → payload.Spelled) (w : World)
    (once : UnreadOnce w.db) (past : ι → List World)
    (c : Pool World Err Label ι (Except Err Unit))
    (run : Pool.Traced dbFault UntoldSince (notificationPool calls w) past c) :
    UnreadOnce c.state.db := by
  have start : (notificationPool calls w).Attesting notifyingTerms fun _ => [] := {
    state := once
    relied := fun _ _ seen => nomatch seen
    keeps := fun i => (calls i).keeps_once
    relies := fun _ _ => Prog.guarded_trivial _
    attests := fun i => Prog.Attests.mono ((calls i).attests (spelled i)) fun _ _ _ => trivial }
  exact (Pool.attesting_traced start run).2.state

/-! One event, dispatched twice. -/

namespace SampleShop

def checkedTwice : Fin 2 → NotificationCall := fun _ =>
  .handleDispatch (stockCheck (uuidOut clerkId))

/-- Whom the notifications are for. -/
def notifiedUsers (c : Pool World Err Label (Fin 2) (Except Err Unit)) : List Uuid :=
  c.state.db.notifications.rows.map Notification.recipientId

/-- The second dispatch resolves its recipients before the first one inserts, and looks for
an unread notification after that. -/
theorem checked_in_turn : (Pool.scheduleTraced
    (fun past w label => decide (UntoldSince past w label)) (fun _ => [])
      (notificationPool checkedTwice office) [0, 1, 0, 0, 1]).map notifiedUsers =
        some [clerkId] := by decide +kernel

/-- Both dispatches look for an unread notification before either of them inserts one. -/
theorem looked_at_once : ((notificationPool checkedTwice office).schedule
    (fun _ _ _ => true) [0, 0, 1, 1, 0, 1]).map (fun c => decide (UnreadOnce c.state.db)) =
      some false := by decide

end SampleShop

theorem unread_once_in_turn : ∃ past c, Pool.Traced dbFault UntoldSince
    (notificationPool SampleShop.checkedTwice SampleShop.office) past c ∧
      SampleShop.notifiedUsers c = [SampleShop.clerkId] ∧ UnreadOnce c.state.db := by
  obtain ⟨past, c, run, seen⟩ := Pool.exists_of_scheduleTraced SampleShop.checked_in_turn
  have spelled : ∀ i payload, SampleShop.checkedTwice i = .handleDispatch payload →
      payload.Spelled := by
    rintro i payload ⟨⟩
    exact ⟨fun text mem => ⟨_, List.mem_singleton.mp mem⟩, by decide⟩
  have met : Pool.Traced dbFault UntoldSince _ past c := run.mono fun _ _ _ => of_decide_eq_true
  exact ⟨past, c, met, seen, unread_once _ spelled _ (by decide) past c met⟩

theorem clerk_notified_twice : ∃ c, Pool.Reach dbFault (fun _ _ _ => True)
    (notificationPool SampleShop.checkedTwice SampleShop.office) c ∧
      UnreadOnce SampleShop.office.db ∧ ¬ UnreadOnce c.state.db := by
  obtain ⟨c, run, seen⟩ := Pool.exists_of_schedule SampleShop.looked_at_once
  exact ⟨c, run.mono fun _ _ _ _ => trivial, by decide, of_decide_eq_false seen⟩

end Tenantory
