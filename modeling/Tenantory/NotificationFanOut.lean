import Tenantory.NotificationDelivery
import Tenantory.SampleShop

/-! The fan-out of a notification: which rows one dispatch adds, however its calls of the
database fall. The listener compares the texts of ids, the database the ids themselves. -/

namespace Tenantory
namespace NotificationListener

open UuidText

variable {payload : NotificationDispatchEvent} {targets : List String} {ids : List Uuid}
  {w w' : World}

/-- The event lists the user, or names them through a role. -/
def Recipient (payload : NotificationDispatchEvent) (db : Database) (u : Uuid) : Prop :=
  (∃ text ∈ payload.recipientIds, uuidIn text = some u) ∨
    ∃ tenant, uuidIn payload.tenantId = some tenant ∧ Addressed payload tenant db u

/-- Each recipient who has no unread notification of the key gets one that tells what the
event does, and nothing else changes but the ids still to be generated. -/
structure FannedOut (payload : NotificationDispatchEvent) (w w' : World) : Prop where
  rest : w' = { w with db := { w.db with notifications := w'.db.notifications }, ids := w'.ids }
  added : ∃ added : List Notification,
    w'.db.notifications.rows = w.db.notifications.rows ++ added ∧
      (∀ n ∈ added, Tells payload n) ∧
      (added.map (·.recipientId)).Nodup ∧ ∀ u, u ∈ added.map (·.recipientId) ↔
        Recipient payload w.db u ∧ ¬ Held payload w.db u

/-- The listed ids are spelled as the database spells them, as far as that matters: those of
users who have an unread notification of the key are, and of those of another user no two
differ. -/
structure SpelledAlike (payload : NotificationDispatchEvent) (db : Database) : Prop where
  held : ∀ text ∈ payload.recipientIds, ∀ u, uuidIn text = some u → Held payload db u →
    text = uuidOut u
  free : ∀ a b u, Named payload db a → Named payload db b → uuidIn a = some u →
    uuidIn b = some u → ¬ Held payload db u → a = b

theorem recipient_iff {db : Database} {u : Uuid} :
    Recipient payload db u ↔ ∃ text, Named payload db text ∧ uuidIn text = some u := by
  constructor
  · rintro (⟨text, listed, parsed⟩ | ⟨tenant, ht, addressed⟩)
    · exact ⟨text, .inl listed, parsed⟩
    · exact ⟨uuidOut u, .inr ⟨tenant, u, ht, addressed, rfl⟩, uuidIn_uuidOut u⟩
  · rintro ⟨text, listed | ⟨tenant, v, ht, addressed, rfl⟩, parsed⟩
    · exact .inl ⟨text, listed, parsed⟩
    · rw [uuidIn_uuidOut] at parsed
      exact .inr ⟨tenant, ht, Option.some.inj parsed ▸ addressed⟩

/-- Where ids are spelled alike a text that names a user with an unread one is left out. -/
theorem SpelledAlike.text_of_held {db : Database} (alike : SpelledAlike payload db) {text : String}
    {u : Uuid} (named : Named payload db text) (parsed : uuidIn text = some u)
    (holds : Held payload db u) : text = uuidOut u := by
  rcases named with listed | ⟨tenant, v, -, -, rfl⟩
  · exact alike.held text listed u parsed holds
  · rw [uuidIn_uuidOut] at parsed
    rw [Option.some.inj parsed]

theorem Delivers.fannedOut_iff (h : Delivers payload targets ids w w') :
    FannedOut payload w w' ↔ SpelledAlike payload w.db := by
  constructor
  · rintro ⟨-, added, rows, -, distinct, chosen⟩
    obtain ⟨added', rows', named, -⟩ := h.grown.added
    obtain rfl : added = added' := List.append_cancel_left (rows.symm.trans rows')
    rw [named] at distinct chosen
    constructor
    · intro text listed u parsed holds
      by_contra other
      refine ((chosen u).mp (h.mem_iff.mpr ⟨text, ⟨.inl listed, ?_⟩, parsed⟩)).2 holds
      rintro ⟨v, -, rfl⟩
      rw [uuidIn_uuidOut] at parsed
      exact other (by rw [Option.some.inj parsed])
    · intro a b u ha hb parsed parsed' free
      have target : ∀ text, Named payload w.db text → uuidIn text = some u →
        text ∈ targets := by
        intro text named parsed
        refine (h.chosen text).mpr ⟨named, ?_⟩
        rintro ⟨v, holds, rfl⟩
        rw [uuidIn_uuidOut] at parsed
        exact free (Option.some.inj parsed ▸ holds)
      exact h.nodup_iff.mp distinct a (target a ha parsed) b (target b hb parsed')
        (parsed.trans parsed'.symm)
  · intro alike
    have free : ∀ text u, Named payload w.db text →
        (¬ ∃ v, Held payload w.db v ∧ text = uuidOut v) → uuidIn text = some u →
          ¬ Held payload w.db u := fun text u named kept parsed holds =>
      kept ⟨u, holds, alike.text_of_held named parsed holds⟩
    obtain ⟨added, rows, named, tells⟩ := h.grown.added
    refine ⟨h.grown.rest, added, rows, tells, ?_, fun u => ?_⟩
    · rw [named]
      refine h.nodup_iff.mpr fun a ha b hb same => ?_
      obtain ⟨named_a, kept⟩ := (h.chosen a).mp ha
      obtain ⟨named_b, -⟩ := (h.chosen b).mp hb
      obtain ⟨u, parsed⟩ := h.parsed ha
      exact alike.free a b u named_a named_b parsed (same ▸ parsed) (free a u named_a kept parsed)
    · rw [named, h.mem_iff, recipient_iff]
      constructor
      · rintro ⟨text, ⟨named, kept⟩, parsed⟩
        exact ⟨⟨text, named, parsed⟩, free text u named kept parsed⟩
      · rintro ⟨⟨text, named, parsed⟩, unheld⟩
        refine ⟨text, ⟨named, ?_⟩, parsed⟩
        rintro ⟨v, holds, rfl⟩
        rw [uuidIn_uuidOut] at parsed
        exact unheld (Option.some.inj parsed ▸ holds)

/-! ## Dispatches -/

theorem ends_handleDispatch {answer : Except Err Unit}
    (ends : Svc.Ends (handleDispatch payload) w answer w') :
    answer = .ok () ∧ ∃ r, Svc.Ends (deliver payload) w r w' := by
  obtain ⟨r, v, delivers, logged⟩ := Prog.Exec.of_bind ends
  cases r with
  | ok a =>
      cases logged
      exact ⟨rfl, .ok (), delivers⟩
  | error e =>
      cases logged
      exact ⟨rfl, .error e, delivers⟩

/-- A dispatch resolves. It adds nothing when a call fails, and otherwise it fans the event out
exactly when the ids are spelled alike. -/
theorem dispatch_fans_out (payload : NotificationDispatchEvent) (w w' : World)
    (answer : Except Err Unit) (ends : Svc.Ends (handleDispatch payload) w answer w') :
    answer = .ok () ∧ ∃ r, Svc.Ends (deliver payload) w r w' ∧
      (∀ e, r = .error e → w' = w) ∧
        (r = .ok () → (FannedOut payload w w' ↔ SpelledAlike payload w.db)) := by
  obtain ⟨resolved, r, delivers⟩ := ends_handleDispatch ends
  refine ⟨resolved, r, delivers, ?_, ?_⟩
  · rintro e rfl
    exact delivers.meets wp_deliver
  · rintro rfl
    obtain ⟨targets, ids, h⟩ := delivers.meets wp_deliver
    exact h.fannedOut_iff

end NotificationListener

namespace SampleShop

/-! A clerk who is named twice, and then once more in capitals. -/

def clerkId : Uuid := 0xabcd

def clerk : User :=
  ⟨clerkId, tenantId, "clerk@acme.test", "Cleo", "Park", "", .catalogManager, true, 0, 0,
    none⟩

def office : World := world { unstocked with users := one clerk }

def stockCheck (recipientId : String) : NotificationDispatchEvent where
  tenantId := UuidText.uuidOut tenantId
  recipientIds := [recipientId]
  recipientRoles := [.catalogManager]
  type := .lowStock
  title := "Stock check"
  body := none
  data := none
  dedupKey := some "stock-check"

def capitals : String := "00000000-0000-0000-0000-00000000ABCD"

end SampleShop

namespace NotificationListener

open UuidText SampleShop

def dispatched (recipientId : String) (w : World) : World :=
  ((handleDispatch (stockCheck recipientId)).run.run w).2

theorem dispatched_ends (recipientId : String) (w : World) :
    Svc.Ends (handleDispatch (stockCheck recipientId)) w (.ok ()) (dispatched recipientId w) := by
  have ends := Svc.ends_runs (handleDispatch (stockCheck recipientId)) w
  rw [(ends_handleDispatch ends).1] at ends
  exact ends

theorem stockCheck_alike (db : Database) : SpelledAlike (stockCheck (uuidOut clerkId)) db := by
  have spelled : ∀ text, Named (stockCheck (uuidOut clerkId)) db text →
    ∃ v, text = uuidOut v := by
    rintro text (listed | ⟨tenant, v, -, -, rfl⟩)
    · exact ⟨clerkId, List.mem_singleton.mp listed⟩
    · exact ⟨v, rfl⟩
  have text_of : ∀ text u, Named (stockCheck (uuidOut clerkId)) db text →
    uuidIn text = some u →
      text = uuidOut u := by
    intro text u named parsed
    obtain ⟨v, rfl⟩ := spelled text named
    rw [uuidIn_uuidOut] at parsed
    rw [Option.some.inj parsed]
  constructor
  · exact fun text listed u parsed _ => text_of text u (.inl listed) parsed
  · exact fun a b u ha hb parsed parsed' _ =>
      (text_of a u ha parsed).trans (text_of b u hb parsed').symm

theorem dispatch_fans_out_clerk :
    FannedOut (stockCheck (uuidOut clerkId)) office (dispatched (uuidOut clerkId) office) ∧
      (dispatched (uuidOut clerkId) office).db.notifications.rows.length = 1 := by
  have added : (dispatched (uuidOut clerkId) office).db.notifications.rows.length = 1 := by decide
  obtain ⟨-, r, -, failed, done⟩ :=
    dispatch_fans_out _ office _ _ (dispatched_ends (uuidOut clerkId) office)
  cases r with
  | error e =>
      rw [failed e rfl] at added
      cases added
  | ok a => exact ⟨(done rfl).mpr (stockCheck_alike _), added⟩

theorem dispatch_in_capitals_repeats :
    ¬ ∀ payload w w' answer, Svc.Ends (handleDispatch payload) w answer w' →
      ∃ r, Svc.Ends (deliver payload) w r w' ∧ (∀ e, r = .error e → w' = w) ∧
        (r = .ok () → FannedOut payload w w') := by
  intro all
  obtain ⟨r, delivers, failed, done⟩ := all _ (dispatched (uuidOut clerkId) office) _ _
    (dispatched_ends capitals (dispatched (uuidOut clerkId) office))
  have before : (dispatched (uuidOut clerkId) office).db.notifications.rows.length = 1 := by decide
  have after :
    (dispatched capitals (dispatched (uuidOut clerkId) office)).db.notifications.rows.length
      = 2 := by decide
  have unread : ∃ n ∈ (dispatched (uuidOut clerkId) office).db.notifications.rows,
      n.tenantId = tenantId ∧ n.recipientId = clerkId ∧ n.type = .lowStock ∧
        n.dedupKey = some "stock-check" ∧ n.readAt = none ∧ n.deletedAt = none := by decide
  obtain ⟨n, mem, owned, recipient, type, key, unread, live⟩ := unread
  cases r with
  | error e =>
      rw [failed e rfl, before] at after
      cases after
  | ok a =>
      obtain ⟨targets, ids, h⟩ := delivers.meets wp_deliver
      have alike := h.fannedOut_iff.mp (done rfl)
      have named : uuidIn capitals = some clerkId := by decide
      have spelled := alike.held capitals List.mem_cons_self clerkId named
        ⟨⟨_, rfl, by decide⟩,
        tenantId, uuidIn_uuidOut _, n, mem, owned, recipient, type, key, unread, live⟩
      exact absurd spelled (by decide)

end NotificationListener
end Tenantory
