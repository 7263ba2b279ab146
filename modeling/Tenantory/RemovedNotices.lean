import Tenantory.ListFilters
import Tenantory.NotificationActions
import Tenantory.NotificationRaces
import Tenantory.SparingCalls
import Tenantory.SpentCredit
import Tenantory.CategoryTree
import Mathlib.Algebra.BigOperators.Ring.Finset

/-! How many notifications a recipient is told to have removed. `remove` resolves if its UPDATE
has stamped a row; however many of these run beside each other, and beside dispatches and
whatever else, no notification is removed twice. -/

namespace Tenantory

open Svc UuidText

/-! ## Counts -/

/-- The notification is for the recipient, removed or not. -/
def addressed (tenant recipient : Uuid) (n : Notification) : Bool :=
  n.tenantId == tenant && n.recipientId == recipient

/-- The notification is in the recipient's feed. -/
def inFeed (tenant recipient : Uuid) (n : Notification) : Bool :=
  addressed tenant recipient n && n.deletedAt.isNone

def feedCount (tenant recipient : Uuid) (db : Database) : ℕ :=
  (db.notifications.select (inFeed tenant recipient)).length

def addressedCount (tenant recipient : Uuid) (db : Database) : ℕ :=
  (db.notifications.select (addressed tenant recipient)).length

/-- What there is to remove, less what has been delivered. -/
def feedCredit (tenant recipient : Uuid) (w : World) : ℤ :=
  feedCount tenant recipient w.db - addressedCount tenant recipient w.db

/-- The feed without a filter. -/
def wholeFeed : NotificationQueryDto := ⟨none, none, none, none, none, none⟩

/-- What the feed gives as the number of its notifications. -/
def FeedTotal (platform : Platform) (tenantId recipientId : String) (w : World) (total : ℕ) :
    Prop :=
  ∃ feed, ((NotificationService.findFeed platform tenantId recipientId wholeFeed).runs w).1 =
    .ok feed ∧ feed.pageMeta.totalItems = total

section Counts

variable {tenant recipient : Uuid} {w w' : World}

theorem feedTotal (platform : Platform) {tenantId recipientId : String}
    (ht : uuidIn tenantId = some tenant) (hr : uuidIn recipientId = some recipient) (w : World) :
    FeedTotal platform tenantId recipientId w (feedCount tenant recipient w.db) := by
  have read : NotificationService.feedFilter platform tenantId recipientId (some wholeFeed) =
      .ok ⟨tenant, recipient, false, none, none, none⟩ := by
    unfold NotificationService.feedFilter
    rw [uuidParam_eq_ok.mpr ht, uuidParam_eq_ok.mpr hr]
    rfl
  refine ⟨_, NotificationService.runs_feed rfl read
    (offset_eq (by norm_num [wholeFeed]) (by norm_num [wholeFeed]) (by norm_num [wholeFeed])), ?_⟩
  refine congrArg List.length (List.filter_congr fun n _ => ?_)
  simp [NotificationService.FeedFilter.admits, inFeed, addressed]

theorem addressed_of_inFeed {n : Notification} (h : inFeed tenant recipient n = true) :
    addressed tenant recipient n = true := (Bool.and_eq_true _ _ ▸ h).1

/-- A dispatch adds at most as many to the feed as it delivers. -/
theorem feedCredit_grown {payload : NotificationDispatchEvent} {ids : List Uuid}
    (grown : NotificationListener.Grown payload ids w w') :
    feedCredit tenant recipient w' ≤ feedCredit tenant recipient w := by
  obtain ⟨-, added, rows, -, -⟩ := grown
  have fewer : (added.filter (inFeed tenant recipient)).length ≤
      (added.filter (addressed tenant recipient)).length :=
    List.Sublist.length_le (List.monotone_filter_right added fun n => addressed_of_inFeed)
  simp only [feedCredit, feedCount, addressedCount, Table.select, rows, List.filter_append,
    List.length_append]
  omega

/-- An UPDATE that leaves no row that it affects in the feed. -/
theorem feedCredit_stamped {p : Notification → Bool} {f : Notification → Notification}
    {keeps : ∀ r s, conflict (f r) s = conflict r s}
    (same : ∀ n, addressed tenant recipient (f n) = addressed tenant recipient n)
    (stamped : ∀ n, inFeed tenant recipient (f n) = false) :
    feedCredit tenant recipient (NotificationService.updateWhere p f keeps w).2 +
      (w.db.notifications.rows.filter fun n =>
        inFeed tenant recipient n && p n).length =
      feedCredit tenant recipient w := by
  have addressees : ((w.db.notifications.rows.map fun n => if p n then f n else n).filter
      (addressed tenant recipient)).length =
        (w.db.notifications.rows.filter (addressed tenant recipient)).length := by
    rw [List.filter_map, List.length_map]
    refine congrArg List.length (List.filter_congr fun n _ => ?_)
    cases h : p n <;> simp [h, same]
  -- the feed is what is affected and what stays
  have parts := List.length_eq_length_filter_add
    (l := w.db.notifications.rows.filter (inFeed tenant recipient)) p
  rw [List.filter_filter, List.filter_filter] at parts
  have left : ((w.db.notifications.rows.map fun n => if p n then f n else n).filter
      (inFeed tenant recipient)).length =
        (w.db.notifications.rows.filter fun n =>
          !p n && inFeed tenant recipient n).length := by
    rw [List.filter_map, List.length_map]
    refine congrArg List.length (List.filter_congr fun n _ => ?_)
    cases h : p n <;> simp [h, stamped]
  simp only [feedCredit, feedCount, addressedCount, Table.select,
    NotificationService.updateWhere, Table.rows_modify, addressees, left]
  simp only [Bool.and_comm (p _)] at parts
  omega

end Counts

/-! ## Calls -/

section Calls

variable {tenant recipient : Uuid} {platform : Platform} {bcrypt : Bcrypt} {tenantId : String}
  {context : Option AuditContextData}

/-- The credit has not grown. -/
def Wanes (tenant recipient : Uuid) (w w' : World) : Prop :=
  feedCredit tenant recipient w' ≤ feedCredit tenant recipient w

theorem feedCredit_same {w w' : World} (same : w'.db.notifications = w.db.notifications) :
    feedCredit tenant recipient w' = feedCredit tenant recipient w := by
  simp only [feedCredit, feedCount, addressedCount, same]

theorem overlooks_wanes : Overlooks (Wanes tenant recipient) where
  trans less less' := le_trans less' less
  spares spares := (feedCredit_same spares.notifications).le

theorem wanes_updateWhere {w : World} {p : Notification → Bool}
    {f : Notification → Notification} {keeps : ∀ r s, conflict (f r) s = conflict r s}
    (same : ∀ n, addressed tenant recipient (f n) = addressed tenant recipient n)
    (stamped : ∀ n, inFeed tenant recipient (f n) = false) :
    Wanes tenant recipient w (NotificationService.updateWhere p f keeps w).2 := by
  have counted : feedCredit tenant recipient
      (NotificationService.updateWhere p f keeps w).2 + _ = feedCredit tenant recipient w :=
    feedCredit_stamped same stamped
  unfold Wanes
  omega

theorem inFeed_markedDeleted (now : Timestamp) (n : Notification) :
    inFeed tenant recipient (NotificationService.markedDeleted now n) = false :=
  Bool.and_false _

namespace NotificationService

theorem markRead_wanes (recipientId id : String) :
    Stays (Wanes tenant recipient) (markRead tenantId recipientId id) := by
  refine Svc.Stays.next (stays_statement overlooks_wanes fun w affected w' h => ?_) fun _ =>
    stays_ite (stays_pure _) ((stays_query _).next fun _ =>
      stays_ite (stays_throw _) (stays_pure _))
  rw [qualify_singular] at h
  cases h

theorem markAllRead_wanes (recipientId : String) :
    Stays (Wanes tenant recipient) (markAllRead tenantId recipientId) := by
  unfold markAllRead write
  refine stays_statement overlooks_wanes fun w affected w' h => ?_
  rw [qualify_singular] at h
  cases h

end NotificationService

theorem NotificationListener.handleDispatch_wanes (payload : NotificationDispatchEvent) :
    Stays (Wanes tenant recipient) (handleDispatch payload) := by
  have saves : ∀ targets : List String, Stays (Wanes tenant recipient)
      (if targets.isEmpty then pure ()
        else statement
          (.insert (.notifications payload.tenantId payload.type payload.dedupKey targets))
          (saveRows payload targets) : Svc Unit) := fun targets => by
    refine stays_ite (stays_pure _) (stays_statement overlooks_wanes fun w _ w' saved => ?_)
    obtain ⟨ids, -, grown⟩ := saveRows_ok saved
    exact feedCredit_grown grown
  refine stays_tryCatch (Svc.Stays.next ?_ fun recipientIds => ?_) fun _ => stays_pure _
  · exact stays_ite (stays_pure _) ((stays_query _).next fun _ => stays_pure _)
  · dsimp only
    split
    · exact saves _
    · exact saves _
    · split
      · exact saves []
      · exact ((stays_query _).next fun _ => stays_pure _).next fun _ => saves _

theorem Svc.Stays.wanes {α : Type} {p : Svc α} (calm : Stays World.Calm p) :
    Stays (Wanes tenant recipient) p :=
  Prog.guarded_coarser World.Calm.refl overlooks_wanes.trans
    (fun calm => (feedCredit_same calm.notifications).le) calm

theorem AuditedOp.program_wanes (op : AuditedOp) :
    Stays (Wanes tenant recipient) (op.program platform bcrypt context tenantId) := by
  have sets (w₀ : World) (key : String) (value : Cached) :
      Keeps (fun _ _ => True) (Wanes tenant recipient w₀) (CacheService.set key value) :=
    ⟨fun _ less _ => less, fun _ => trivial⟩
  exact op.program_by overlooks_wanes.rules
    (fun id w₀ => CategoryService.keeps_findOne (sets w₀) tenantId id)
    (fun id w₀ => ProductService.keeps_findOne (sets w₀) tenantId id)
    (fun dto => (TenantUserManagementService.inviteUser_calm dto).wanes)
    (fun userId dto => (TenantUserManagementService.updateUserRole_calm userId dto).wanes)

end Calls

/-! ## Calls in flight -/

/-- A call on notifications, an audited write, a call of the inventory, or any other that leaves
the notifications alone. -/
inductive FeedCall
  | notification (call : NotificationCall)
  | audited (op : AuditedOp) (context : Option AuditContextData) (tenantId : String)
  | stock (call : StockCall) (context : Option AuditContextData)
  | other (p : Svc Unit)
      (apart : Stays (fun w w' => w'.db.notifications = w.db.notifications) p)

def FeedCall.program (platform : Platform) (bcrypt : Bcrypt) : FeedCall → Svc Unit
  | notification call => call.program
  | audited op context tenantId => op.program platform bcrypt context tenantId
  | stock call context => call.program context
  | other p _ => p

/-- Calls that run beside each other. -/
def feedPool {ι : Type} (platform : Platform) (bcrypt : Bcrypt) (calls : ι → FeedCall)
    (w : World) : Pool World Err Label ι (Except Err Unit) where
  state := w
  progs i := ((calls i).program platform bcrypt).run

section Pool

variable {tenant recipient : Uuid} {platform : Platform} {bcrypt : Bcrypt}

/-- An error is free. -/
def billed {α : Type} (charge : α → ℤ) : Except Err α → ℤ
  | .ok a => charge a
  | .error _ => 0

/-- The call pays for its answer. -/
def Svc.Bills {α : Type} (tenant recipient : Uuid) (p : Svc α) (charge : α → ℤ) : Prop :=
  p.run.Pays (feedCredit tenant recipient) (billed charge) 0

theorem bills_statement {α : Type} {label : Label} {act : World → Except Err (α × World)}
    {charge : α → ℤ} (charged : ∀ a, 0 ≤ charge a)
    (h : ∀ w a w', act w = .ok (a, w') →
      feedCredit tenant recipient w' + charge a ≤ feedCredit tenant recipient w) :
    (statement label act).Bills tenant recipient charge := by
  refine ⟨fun w => ?_, fun e => le_rfl⟩
  dsimp only
  cases done : act w with
  | error e => exact ⟨le_rfl, by simp [Prog.Pays, billed]⟩
  | ok answer =>
      have less := h w answer.1 answer.2 done
      have pos := charged answer.1
      refine ⟨by dsimp only; omega, ?_⟩
      show charge answer.1 ≤ 0 + (_ - feedCredit tenant recipient answer.2)
      omega

theorem bills_nothing {p : Svc Unit} (h : Stays (Wanes tenant recipient) p) :
    p.Bills tenant recipient fun _ => 0 := by
  have pays : p.run.Pays (feedCredit tenant recipient) (fun _ => 0) 0 :=
    Prog.pays_of_guarded h
  refine cast (congrArg (fun charge => Prog.Pays _ _ charge 0) (funext fun answer => ?_)) pays
  cases answer <;> rfl

/-- The call removes a notification of the recipient. -/
def NotificationCall.removes (tenant recipient : Uuid) : NotificationCall → Bool
  | remove tenantId recipientId _ =>
      uuidIn tenantId == some tenant && uuidIn recipientId == some recipient
  | _ => false

def FeedCall.removes (tenant recipient : Uuid) : FeedCall → Bool
  | notification call => call.removes tenant recipient
  | _ => false

/-- A removal that resolves says that one notification has gone. -/
def FeedCall.charge (tenant recipient : Uuid) (call : FeedCall) : Unit → ℤ :=
  fun _ => if call.removes tenant recipient then 1 else 0

/-- The UPDATE of a removal takes from the feed what it says to have affected. -/
theorem NotificationService.remove_bills (tenantId recipientId id : String) :
    (remove tenantId recipientId id).Bills tenant recipient
      ((FeedCall.notification (.remove tenantId recipientId id)).charge tenant recipient) := by
  have charged (own : Bool) (affected : ℕ) :
      (0 : ℤ) ≤ if own then (affected : ℤ) else 0 := by
    split <;> omega
  unfold Svc.Bills remove
  rw [Svc.run_bind]
  let taken (affected : ℕ) : ℤ :=
    if (NotificationCall.remove tenantId recipientId id).removes tenant recipient then
      (affected : ℤ) else 0
  refine Prog.Pays.bind (show Svc.Bills tenant recipient _ taken from
    bills_statement (charged _) fun w affected w' h => ?_) ?_
  · obtain ⟨i, -, h⟩ := bind_eq_ok.mp h
    obtain ⟨t, ht, h⟩ := bind_eq_ok.mp h
    obtain ⟨r, hr, h⟩ := bind_eq_ok.mp h
    cases h
    dsimp only [taken]
    split
    · rename_i own
      have own := Bool.and_eq_true _ _ ▸ own
      obtain rfl : t = tenant := Option.some.inj
        ((uuidParam_eq_ok.mp ht).symm.trans (beq_iff_eq.mp own.1))
      obtain rfl : r = recipient := Option.some.inj
        ((uuidParam_eq_ok.mp hr).symm.trans (beq_iff_eq.mp own.2))
      have counted : feedCredit t r
          (updateWhere (fun n => n.id == i && n.tenantId == t && n.recipientId == r &&
              n.deletedAt.isNone)
            (markedDeleted w.clock) (conflict_markedDeleted w.clock) w).2 + _ =
            feedCredit t r w :=
        feedCredit_stamped (fun _ => rfl) (inFeed_markedDeleted w.clock)
      refine (Eq.trans ?_ counted).le
      refine congrArg (fun n : ℕ => _ + (n : ℤ)) (congrArg List.length
        (List.filter_congr fun n _ => ?_))
      simp [inFeed, addressed]
      tauto
    · rw [add_zero]
      exact wanes_updateWhere (fun _ => rfl) (inFeed_markedDeleted w.clock)
  · rintro (e | affected)
    · exact le_rfl
    · rw [Svc.next_ok]
      split
      · exact charged _ affected
      · rename_i stamped
        have few (own : Bool) : (if own then (1 : ℤ) else 0) ≤ if own then
          (affected : ℤ) else 0 := by
          split <;> omega
        exact few _

theorem FeedCall.program_bills (call : FeedCall) :
    (call.program platform bcrypt).Bills tenant recipient (call.charge tenant recipient) := by
  cases call with
  | notification call =>
      cases call with
      | remove tenantId recipientId id => exact NotificationService.remove_bills _ _ _
      | handleDispatch payload =>
          exact bills_nothing (NotificationListener.handleDispatch_wanes payload)
      | markRead tenantId recipientId id =>
          exact bills_nothing (NotificationService.markRead_wanes recipientId id)
      | markAllRead tenantId recipientId =>
          exact bills_nothing (stays_discard (NotificationService.markAllRead_wanes recipientId))
  | audited op context tenantId => exact bills_nothing op.program_wanes
  | stock call context =>
      exact bills_nothing (overlooks_wanes.rules.sparing (call.program_sparing context))
  | other p apart =>
      refine bills_nothing (Prog.guarded_coarser
        (R := fun w w' : World => w'.db.notifications = w.db.notifications) (fun _ => rfl)
        overlooks_wanes.trans (fun same => (feedCredit_same same).le) apart)

end Pool

/-- Beside any other calls, failing wherever they may: the removals of a recipient that have
resolved, and what is in the feed afterwards, are no more than what was in the feed before and
what has been delivered since. -/
theorem removed_once {ι : Type} [DecidableEq ι] {platform : Platform} {bcrypt : Bcrypt}
    {calls : ι → FeedCall} {w : World} {d : Pool World Err Label ι (Except Err Unit)}
    (reach : Pool.Reach callFault (fun _ _ _ => True) (feedPool platform bcrypt calls w) d)
    {tenantId recipientId : String} {tenant recipient : Uuid}
    (ht : uuidIn tenantId = some tenant) (hr : uuidIn recipientId = some recipient)
    (s : Finset ι)
    (resolved : ∀ i ∈ s, (∃ id, calls i = .notification (.remove tenantId recipientId id)) ∧
      d.progs i = .ret (.ok ())) :
    ∃ before after,
      FeedTotal platform tenantId recipientId w before ∧
      FeedTotal platform tenantId recipientId d.state after ∧
      s.card + after + addressedCount tenant recipient w.db ≤
        before + addressedCount tenant recipient d.state.db := by
  refine ⟨_, _, feedTotal platform ht hr w, feedTotal platform ht hr d.state, ?_⟩
  have bills : ∀ i, ((feedPool platform bcrypt calls w).progs i).Pays
      (feedCredit tenant recipient)
      (billed ((calls i).charge tenant recipient)) 0 :=
    fun i => (calls i).program_bills
  have covered := Pool.charged_reach bills reach s (fun _ => .ok ()) fun i mem =>
    (resolved i mem).2
  have charged : ∑ i ∈ s, billed ((calls i).charge tenant recipient)
    (.ok ()) = (s.card : ℤ) := by
    rw [Finset.card_eq_sum_ones, Nat.cast_sum]
    refine Finset.sum_congr rfl fun i mem => ?_
    obtain ⟨⟨id, call⟩, -⟩ := resolved i mem
    simp [call, billed, FeedCall.charge, FeedCall.removes, NotificationCall.removes, ht, hr]
  rw [charged] at covered
  simp only [feedCredit, feedPool] at covered
  omega

namespace SampleShop

/-- The clerk removes the letter twice, while a stock check is dispatched. -/
def discardedTwice (i : Fin 3) : FeedCall :=
  if i = 2 then .notification (.handleDispatch (stockCheck (uuidOut clerkId)))
  else .notification (.remove (uuidOut tenantId) (uuidOut clerkId)
    (uuidOut NotificationService.letter.id))

def removalsGiven (c : Pool World Err Label (Fin 3) (Except Err Unit)) :
    List (Option (Except Err Unit)) :=
  [Pool.result? (c.progs 0), Pool.result? (c.progs 1)]

/-- One of the removals resolves, and the other finds nothing. -/
theorem one_removal_resolves : ((feedPool plainText hashing discardedTwice
    NotificationService.mailbox).schedule (fun _ _ _ => true) [2, 2, 1, 0, 2]).map removalsGiven =
      some [some (.error (NotificationService.notFoundError
        (uuidOut NotificationService.letter.id))), some (.ok ())] := by decide

end SampleShop

open SampleShop

theorem removed_once_clerk : ∃ d before after,
    Pool.Reach callFault (fun _ _ _ => True)
      (feedPool plainText hashing discardedTwice NotificationService.mailbox) d ∧
    FeedTotal plainText (uuidOut tenantId) (uuidOut clerkId) NotificationService.mailbox before ∧
    FeedTotal plainText (uuidOut tenantId) (uuidOut clerkId) d.state after ∧
    1 + after + addressedCount tenantId clerkId NotificationService.mailbox.db ≤
      before + addressedCount tenantId clerkId d.state.db := by
  obtain ⟨d, run, seen⟩ := Pool.exists_of_schedule one_removal_resolves
  have run : Pool.Reach callFault (fun _ _ _ => True) _ d := run.mono fun _ _ _ _ => trivial
  simp only [removalsGiven, List.cons.injEq, and_true] at seen
  have resolved : ∀ i ∈ ({1} : Finset (Fin 3)),
      (∃ id, discardedTwice i =
        .notification (.remove (uuidOut tenantId) (uuidOut clerkId) id)) ∧
        d.progs i = .ret (.ok ()) := by
    intro i mem
    rw [Finset.mem_singleton.mp mem]
    exact ⟨⟨_, rfl⟩, Pool.result?_eq_some.mp seen.2⟩
  obtain ⟨before, after, counted, left, covered⟩ := removed_once run
    (uuidIn_uuidOut tenantId) (uuidIn_uuidOut clerkId) {1} resolved
  exact ⟨d, before, after, run, counted, left, covered⟩

end Tenantory
