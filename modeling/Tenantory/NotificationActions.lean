import Tenantory.NotificationFanOut
import Tenantory.SerialRuns

/-! What a recipient's actions on notifications answer, and what they leave of them, over
runs of actions. A removal counts the rows that it stamps, which are the visible ones; the
statements that mark notifications as read name an alias that the server does not know. -/

namespace Tenantory
namespace NotificationService

open UuidText

inductive ActionKind
  | markRead (id : String)
  | markAllRead
  | remove (id : String)

structure RecipientAction where
  tenantId : String
  recipientId : String
  kind : ActionKind

/-- The recipient's own notifications. -/
structure Owns (tenantId recipientId : String) (n : Notification) : Prop where
  tenant : uuidIn tenantId = some n.tenantId
  recipient : uuidIn recipientId = some n.recipientId

/-- The recipient has the notification and has not removed it. -/
def Visible (tenantId recipientId id : String) (db : Database) : Prop :=
  ∃ n ∈ db.notifications, Owns tenantId recipientId n ∧ uuidIn id = some n.id ∧
    n.deletedAt = none

/-- An action on one notification answers by its visibility. -/
structure ByVisibility (tenantId recipientId id : String) (action : Svc Unit) (w : World) :
    Prop where
  resolves : Visible tenantId recipientId id w.db → (action.runs w).1 = .ok ()
  refuses : ¬ Visible tenantId recipientId id w.db →
    action.runs w = (.error (notFoundError id), w)

structure Readable (tenantId recipientId id : String) : Prop where
  tenant : (uuidIn tenantId).isSome
  recipient : (uuidIn recipientId).isSome
  id : (uuidIn id).isSome

namespace RecipientAction

def serve (action : RecipientAction) : Svc Unit :=
  match action.kind with
  | .markRead id => NotificationService.markRead action.tenantId action.recipientId id
  | .markAllRead => discard <| NotificationService.markAllRead action.tenantId action.recipientId
  | .remove id => NotificationService.remove action.tenantId action.recipientId id

def Answers (action : RecipientAction) (w : World) : Prop :=
  match action.kind with
  | .markRead id => ByVisibility action.tenantId action.recipientId id action.serve w
  | .markAllRead => True
  | .remove id => ByVisibility action.tenantId action.recipientId id action.serve w

/-- The server understands the statement of the action, as far as its answer depends on it. -/
def Understood (action : RecipientAction) : Prop :=
  match action.kind with
  | .markRead _ => False
  | .markAllRead => True
  | .remove id => Readable action.tenantId action.recipientId id

/-- What an action makes of a notification. -/
inductive Makes (action : RecipientAction) (now : Timestamp) (m : Notification) :
    Notification → Prop
  | kept : Makes action now m m
  | removed : Owns action.tenantId action.recipientId m → m.deletedAt = none →
      Makes action now m (markedDeleted now m)

end RecipientAction

/-! ## One action -/

variable {w : World} {tenantId recipientId id : String} {tenant recipient i : Uuid}

theorem conflict_markedDeleted (now : Timestamp) (m n : Notification) :
    conflict (markedDeleted now m) n = conflict m n := rfl

theorem updateWhere_none {p : Notification → Bool} {f : Notification → Notification}
    {keeps : ∀ r s, conflict (f r) s = conflict r s}
    (none : ∀ n ∈ w.db.notifications, p n = false) : updateWhere p f keeps w = (0, w) := by
  have rows : (w.db.notifications.modify p f keeps).rows = w.db.notifications.rows := by
    rw [Table.rows_modify]
    refine (List.map_congr_left fun n mem => ?_).trans (List.map_id _)
    rw [none n mem]
    rfl
  have selected : w.db.notifications.select p = [] :=
    List.filter_eq_nil_iff.mpr fun n mem => by simp [none n mem]
  rw [updateWhere, Table.rows_inj rows, selected]
  rfl

theorem updateWhere_pos {p : Notification → Bool} {f : Notification → Notification}
    {keeps : ∀ r s, conflict (f r) s = conflict r s} {n : Notification}
    (mem : n ∈ w.db.notifications) (holds : p n = true) : 0 < (updateWhere p f keeps w).1 :=
  List.length_pos_of_mem (List.mem_filter.mpr ⟨mem, holds⟩)

theorem owns_iff (ht : uuidIn tenantId = some tenant) (hr : uuidIn recipientId = some recipient)
    {n : Notification} :
    Owns tenantId recipientId n ↔ n.tenantId = tenant ∧ n.recipientId = recipient := by
  constructor
  · rintro ⟨owner, receiver⟩
    rw [ht] at owner
    rw [hr] at receiver
    exact ⟨(Option.some.inj owner).symm, (Option.some.inj receiver).symm⟩
  · rintro ⟨rfl, rfl⟩
    exact ⟨ht, hr⟩

section Readable

variable (ht : uuidIn tenantId = some tenant) (hr : uuidIn recipientId = some recipient)
  (hi : uuidIn id = some i)

include ht hr hi

theorem runs_remove : (remove tenantId recipientId id).runs w =
    Svc.follow (fun affected => if affected = 0 then throw (notFoundError id) else pure ())
      (Svc.settle w (.ok (updateWhere
        (fun n => n.id == i && n.tenantId == tenant && n.recipientId == recipient &&
          n.deletedAt.isNone)
        (markedDeleted w.clock) (conflict_markedDeleted _) w))) := by
  unfold remove
  rw [Svc.runs_bind, Svc.runs_write, uuidParam_eq_ok.mpr hi, uuidParam_eq_ok.mpr ht,
    uuidParam_eq_ok.mpr hr]
  rfl

/-- A row that the criteria of `remove` match. -/
theorem named_iff {n : Notification} :
    (n.id == i && n.tenantId == tenant && n.recipientId == recipient &&
        n.deletedAt.isNone) = true ↔
      Owns tenantId recipientId n ∧ uuidIn id = some n.id ∧ n.deletedAt = none := by
  rw [owns_iff ht hr, hi]
  simp only [Bool.and_eq_true, beq_iff_eq, Option.some.injEq, Option.isNone_iff_eq_none]
  constructor
  · rintro ⟨⟨⟨rfl, owner⟩, receiver⟩, live⟩
    exact ⟨⟨owner, receiver⟩, rfl, live⟩
  · rintro ⟨⟨owner, receiver⟩, rfl, live⟩
    exact ⟨⟨⟨rfl, owner⟩, receiver⟩, live⟩

theorem runs_remove_state : ((remove tenantId recipientId id).runs w).2 = (updateWhere
    (fun n => n.id == i && n.tenantId == tenant && n.recipientId == recipient &&
      n.deletedAt.isNone)
    (markedDeleted w.clock) (conflict_markedDeleted _) w).2 := by
  rw [runs_remove ht hr hi, Svc.settle_ok, Svc.follow_ok]
  split <;> rfl

theorem remove_answers :
    ByVisibility tenantId recipientId id (remove tenantId recipientId id) w := by
  refine ⟨?_, fun hidden => ?_⟩
  · rintro ⟨n, mem, owned, same, live⟩
    have named := (named_iff ht hr hi).mpr ⟨owned, same, live⟩
    rw [runs_remove ht hr hi, Svc.settle_ok, Svc.follow_ok, if_neg (updateWhere_pos mem named).ne']
    rfl
  · have none : ∀ n ∈ w.db.notifications, (n.id == i && n.tenantId == tenant &&
        n.recipientId == recipient && n.deletedAt.isNone) = false := by
      intro n mem
      rw [← Bool.not_eq_true, named_iff ht hr hi]
      exact fun named => hidden ⟨n, mem, named⟩
    rw [runs_remove ht hr hi, updateWhere_none none]
    rfl

end Readable

/-! ## Statements that the server refuses -/

/-- The alias is refused before a parameter is read. -/
theorem runs_markRead :
    (markRead tenantId recipientId id).runs w = (.error .undefinedTable, w) := by
  unfold markRead
  rw [Svc.runs_bind, Svc.runs_write, qualify_singular]
  rfl

theorem runs_markAllRead :
    (markAllRead tenantId recipientId).runs w = (.error .undefinedTable, w) := by
  unfold markAllRead
  rw [Svc.runs_write, qualify_singular]
  rfl

theorem params_unreadable {β : Type} (unread : ¬ Readable tenantId recipientId id)
    (statement : Uuid → Uuid → Uuid → Except Err β) :
    (do
      let id ← uuidParam id
      let tenant ← uuidParam tenantId
      let recipient ← uuidParam recipientId
      statement id tenant recipient) = .error Err.invalidText := by
  unfold uuidParam
  cases hi : uuidIn id with
  | none => rfl
  | some i =>
      cases ht : uuidIn tenantId with
      | none => rfl
      | some tenant =>
          cases hr : uuidIn recipientId with
          | none => rfl
          | some recipient => exact absurd ⟨by simp [ht], by simp [hr], by simp [hi]⟩ unread

theorem runs_remove_unreadable (unread : ¬ Readable tenantId recipientId id) :
    (remove tenantId recipientId id).runs w = (.error Err.invalidText, w) := by
  unfold remove
  rw [Svc.runs_bind, Svc.runs_write, params_unreadable unread]
  rfl

/-- An error of the server is not the answer of an action. -/
theorem not_byVisibility {action : Svc Unit} {err : Err} (foreign : err ≠ notFoundError id)
    (failed : action.runs w = (.error err, w)) :
    ¬ ByVisibility tenantId recipientId id action w := by
  intro answers
  by_cases visible : Visible tenantId recipientId id w.db
  · have resolved := answers.resolves visible
    rw [failed] at resolved
    cases resolved
  · have refused := answers.refuses visible
    rw [failed] at refused
    exact foreign (Except.error.inj (Prod.mk.inj refused).1)

theorem RecipientAction.answers_iff (action : RecipientAction) (w : World) :
    action.Answers w ↔ action.Understood := by
  obtain ⟨tenantId, recipientId, kind⟩ := action
  cases kind with
  | markRead id =>
      refine iff_of_false (not_byVisibility ?_ runs_markRead) fun understood => understood
      simp [Err.undefinedTable, Err.notFound, notFoundError]
  | markAllRead => exact Iff.rfl
  | remove id =>
      refine ⟨fun answers => ?_, fun readable => ?_⟩
      · by_contra unread
        exact not_byVisibility (by simp [Err.invalidText, Err.notFound, notFoundError])
          (runs_remove_unreadable unread) answers
      · obtain ⟨tenant, ht⟩ := Option.isSome_iff_exists.mp readable.tenant
        obtain ⟨recipient, hr⟩ := Option.isSome_iff_exists.mp readable.recipient
        obtain ⟨i, hi⟩ := Option.isSome_iff_exists.mp readable.id
        exact remove_answers ht hr hi

/-! ## What an action leaves -/

namespace RecipientAction.Makes

variable {action : RecipientAction} {now : Timestamp} {m n : Notification}

theorem eq_of_other (makes : action.Makes now m n)
    (other : ¬ Owns action.tenantId action.recipientId n) : n = m := by
  cases makes with
  | kept => rfl
  | removed owned _ => exact absurd ⟨owned.tenant, owned.recipient⟩ other

theorem eq_of_other' (makes : action.Makes now m n)
    (other : ¬ Owns action.tenantId action.recipientId m) : n = m := by
  cases makes with
  | kept => rfl
  | removed owned _ => exact absurd owned other

/-- The times that are set are kept. -/
theorem times (makes : action.Makes now m n) :
    n.id = m.id ∧ (m.readAt.isSome → n.readAt = m.readAt) ∧
      (m.deletedAt.isSome → n.deletedAt = m.deletedAt) := by
  cases makes with
  | kept => exact ⟨rfl, fun _ => rfl, fun _ => rfl⟩
  | removed _ live => exact ⟨rfl, fun _ => rfl, fun set => by simp [live] at set⟩

end RecipientAction.Makes

/-- The state after an action: the notifications, made what the action makes of them. -/
def RecipientAction.Leaves (action : RecipientAction) (w w' : World) : Prop :=
  ∃ t g, w' = { w with db := { w.db with notifications := t } } ∧
    t.rows = w.db.notifications.rows.map g ∧ ∀ m, action.Makes w.clock m (g m)

namespace RecipientAction

variable {action : RecipientAction}

theorem leaves_refl : action.Leaves w w :=
  ⟨w.db.notifications, fun m => m, rfl, (List.map_id _).symm, fun _ => .kept⟩

theorem leaves_updateWhere {p : Notification → Bool} {f : Notification → Notification}
    {keeps : ∀ r s, conflict (f r) s = conflict r s}
    (makes : ∀ m, p m = true → action.Makes w.clock m (f m)) :
    action.Leaves w (updateWhere p f keeps w).2 := by
  refine ⟨_, fun m => if p m then f m else m, rfl, rfl, fun m => ?_⟩
  dsimp only
  by_cases holds : p m = true
  · rw [if_pos holds]
    exact makes m holds
  · rw [if_neg holds]
    exact .kept

theorem leaves_serve (action : RecipientAction) (w : World) :
    action.Leaves w (action.serve.runs w).2 := by
  obtain ⟨tenantId, recipientId, kind⟩ := action
  cases kind with
  | markRead id =>
      change Leaves _ w ((NotificationService.markRead tenantId recipientId id).runs w).2
      rw [runs_markRead]
      exact leaves_refl
  | markAllRead =>
      change Leaves _ w (((fun _ => ()) <$> NotificationService.markAllRead tenantId recipientId :
        Svc Unit).runs w).2
      rw [Svc.runs_map, runs_markAllRead]
      exact leaves_refl
  | remove id =>
      change Leaves _ w ((NotificationService.remove tenantId recipientId id).runs w).2
      by_cases readable : Readable tenantId recipientId id
      · obtain ⟨tenant, ht⟩ := Option.isSome_iff_exists.mp readable.tenant
        obtain ⟨recipient, hr⟩ := Option.isSome_iff_exists.mp readable.recipient
        obtain ⟨i, hi⟩ := Option.isSome_iff_exists.mp readable.id
        rw [runs_remove_state ht hr hi]
        refine leaves_updateWhere fun m holds => ?_
        rw [named_iff ht hr hi] at holds
        exact .removed holds.1 holds.2.2
      · rw [runs_remove_unreadable readable]
        exact leaves_refl

end RecipientAction

/-! ## Runs of actions -/

/-- The state after an action at a time. -/
def act (w : World) (call : Timestamp × RecipientAction) : World :=
  (call.2.serve.runs { w with clock := call.1 }).2

def reached (calls : List (Timestamp × RecipientAction)) (w : World) : World := calls.foldl act w

/-- Times that are set have stayed as they are. -/
def TimesKept (db db' : Database) : Prop :=
  ∀ m ∈ db.notifications, ∃ n ∈ db'.notifications, n.id = m.id ∧
    (m.readAt.isSome → n.readAt = m.readAt) ∧ (m.deletedAt.isSome → n.deletedAt = m.deletedAt)

/-- Throughout a run actions answer by visibility, and notifications keep their times and
are changed by their recipient only. -/
structure ActsAsVisible (calls : List (Timestamp × RecipientAction)) (w : World) : Prop where
  answers : ∀ earlier now action, earlier ++ [(now, action)] <+: calls →
    action.Answers { reached earlier w with clock := now }
  others : ∀ earlier now action, earlier ++ [(now, action)] <+: calls →
    ∀ n, ¬ Owns action.tenantId action.recipientId n →
      (n ∈ (reached (earlier ++ [(now, action)]) w).db.notifications ↔
        n ∈ (reached earlier w).db.notifications)
  times : ∀ earlier later, earlier <+: later → later <+: calls →
    TimesKept (reached earlier w).db (reached later w).db

theorem reached_append (earlier later : List (Timestamp × RecipientAction)) (w : World) :
    reached (earlier ++ later) w = reached later (reached earlier w) := List.foldl_append

theorem TimesKept.trans {db db' db'' : Database} (h : TimesKept db db') (h' : TimesKept db' db'') :
    TimesKept db db'' := by
  intro l mem
  obtain ⟨m, mem', id, read, removed⟩ := h l mem
  obtain ⟨n, mem'', id', read', removed'⟩ := h' m mem'
  refine ⟨n, mem'', id'.trans id, fun set => ?_, fun set => ?_⟩
  · have same := read set
    exact (read' (same ▸ set)).trans same
  · have same := removed set
    exact (removed' (same ▸ set)).trans same

section Act

variable (now : Timestamp) (action : RecipientAction) (w : World)

theorem rows_act : ∃ g, (∀ m, action.Makes now m (g m)) ∧
    (act w (now, action)).db.notifications.rows = w.db.notifications.rows.map g := by
  obtain ⟨t, g, left, rows, makes⟩ := action.leaves_serve { w with clock := now }
  refine ⟨g, makes, ?_⟩
  change (action.serve.runs { w with clock := now }).2.db.notifications.rows = _
  rw [left]
  exact rows

theorem act_others {n : Notification} (other : ¬ Owns action.tenantId action.recipientId n) :
    n ∈ (act w (now, action)).db.notifications ↔ n ∈ w.db.notifications := by
  obtain ⟨g, makes, rows⟩ := rows_act now action w
  rw [← Table.mem_rows, rows, List.mem_map]
  constructor
  · rintro ⟨m, mem, rfl⟩
    rwa [(makes m).eq_of_other other]
  · intro mem
    exact ⟨n, mem, (makes n).eq_of_other' other⟩

theorem act_times : TimesKept w.db (act w (now, action)).db := by
  obtain ⟨g, makes, rows⟩ := rows_act now action w
  intro m mem
  refine ⟨g m, ?_, (makes m).times⟩
  rw [← Table.mem_rows, rows]
  exact List.mem_map_of_mem mem

end Act

theorem reached_times (more : List (Timestamp × RecipientAction)) (w : World) :
    TimesKept w.db (reached more w).db := by
  induction more generalizing w with
  | nil => exact fun m mem => ⟨m, mem, rfl, fun _ => rfl, fun _ => rfl⟩
  | cons call more ih => exact (act_times call.1 call.2 w).trans (ih (act w call))

theorem acts_as_visible_iff (calls : List (Timestamp × RecipientAction)) (w : World) :
    ActsAsVisible calls w ↔ ∀ call ∈ calls, call.2.Understood := by
  constructor
  · intro acts call mem
    obtain ⟨earlier, later, rfl⟩ := List.append_of_mem mem
    have run : earlier ++ [call] <+: earlier ++ call :: later :=
      ⟨later, List.append_assoc _ _ _⟩
    exact (call.2.answers_iff { reached earlier w with clock := call.1 }).mp
      (acts.answers earlier call.1 call.2 run)
  · intro understood
    refine ⟨fun earlier now action run => ?_, fun earlier now action run n other => ?_, ?_⟩
    · have mem : (now, action) ∈ calls :=
        run.subset (List.mem_append_right _ (List.mem_singleton_self _))
      exact (action.answers_iff { reached earlier w with clock := now }).mpr
        (understood (now, action) mem)
    · rw [reached_append]
      exact act_others now action _ other
    · rintro earlier later ⟨more, rfl⟩ -
      rw [reached_append]
      exact reached_times more _

/-! ## A notification that cannot be read -/

section Mailbox

open SampleShop

def letter : Notification :=
  ⟨0x40, SampleShop.tenantId, clerkId, .lowStock, "Low stock", none, none, none,
    none, 0, 0, none⟩

def mailbox : World := world { unstocked with users := one clerk, notifications := one letter }

def reading : RecipientAction :=
  ⟨uuidOut SampleShop.tenantId, uuidOut clerkId, .markRead (uuidOut letter.id)⟩

/-- The clerk marks the letter as read, and the call fails. -/
theorem letter_not_read : ¬ ActsAsVisible [(1, reading)] mailbox := by
  intro acts
  have answers := acts.answers [] 1 reading (List.prefix_refl _)
  have visible : Visible (uuidOut SampleShop.tenantId) (uuidOut clerkId) (uuidOut letter.id)
      mailbox.db :=
    ⟨letter, List.mem_singleton_self _, ⟨uuidIn_uuidOut _, uuidIn_uuidOut _⟩,
      uuidIn_uuidOut _, rfl⟩
  have resolved := answers.resolves visible
  have failed : (reading.serve.runs { mailbox with clock := 1 }).1 = .error .undefinedTable :=
    congrArg Prod.fst runs_markRead
  exact absurd (failed.symm.trans resolved) (by simp)

end Mailbox

end NotificationService
end Tenantory
