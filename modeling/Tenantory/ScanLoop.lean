import Tenantory.CacheService

/-! Deleting the keys of a pattern, command by command. A reply to SCAN has some keys and the
cursor to go on with; between any two commands other clients write. Redis promises no more than
that an iteration from cursor 0 back to cursor 0 returns each matching key that is there all the
time. -/

namespace Tenantory
namespace ScanLoop

/-- Where the loop waits for an answer. -/
inductive Phase
  | scanning (cursor : String)
  | deleting (cursor : String) (keys : List String)
  | resolved

/-- `while (cursor !== '0')` -/
def again (cursor : String) : Phase :=
  if cursor ≠ "0" then .scanning cursor else .resolved

def received (nextCursor : String) (keys : List String) : Phase :=
  if keys.length > 0 then .deleting nextCursor keys else again nextCursor

abbrev Keyspace := String → Option Cached

def Keyspace.remove (keyspace : Keyspace) (keys : List String) : Keyspace :=
  fun key => if key ∈ keys then none else keyspace key

inductive ScanEvent
  /-- another client sets or deletes a key, or the key expires -/
  | write (key : String) (value : Option Cached)
  | scanned (nextCursor : String) (keys : List String)
  | deleted
  /-- the command that the loop waits for fails; a DEL may have removed some of its keys -/
  | failed (removed : List String)

structure Call where
  keyspace : Keyspace
  phase : Phase

def start (keyspace : Keyspace) : Call := ⟨keyspace, .scanning "0"⟩

/-- What an event does, or nothing when the loop does not wait for it. -/
def Call.step (call : Call) : ScanEvent → Option Call
  | .write key value => some { call with keyspace := Function.update call.keyspace key value }
  | .scanned nextCursor keys =>
      match call.phase with
      | .scanning _ => some { call with phase := received nextCursor keys }
      | _ => none
  | .deleted =>
      match call.phase with
      | .deleting cursor keys => some ⟨call.keyspace.remove keys, again cursor⟩
      | _ => none
  | .failed removed =>
      -- the error is logged
      match call.phase with
      | .scanning _ => if removed = [] then some { call with phase := .resolved } else none
      | .deleting _ keys =>
          if removed ⊆ keys then some ⟨call.keyspace.remove removed, .resolved⟩ else none
      | .resolved => none

def Call.run (call : Call) : List ScanEvent → Option Call
  | [] => some call
  | event :: events => (call.step event).bind fun next => next.run events

/-- The keyspaces that a run comes through. -/
def Call.keyspaces (call : Call) : List ScanEvent → List Keyspace
  | [] => [call.keyspace]
  | event :: events =>
      call.keyspace :: ((call.step event).map fun next => next.keyspaces events).getD []

/-- What the other clients alone make of the keyspace. -/
def written (keyspace : Keyspace) : List ScanEvent → Keyspace
  | [] => keyspace
  | .write key value :: events => written (Function.update keyspace key value) events
  | _ :: events => written keyspace events

/-- The iteration has come back to cursor 0. -/
def Ended (events : List ScanEvent) : Prop := ∃ keys, .scanned "0" keys ∈ events

/-- The documented behaviour of SCAN with MATCH. -/
structure Guarantee (matched : String → Bool) (keyspace : Keyspace) (events : List ScanEvent) :
    Prop where
  matching : ∀ cursor keys, .scanned cursor keys ∈ events →
    ∀ key ∈ keys, matched key = true
  complete : Ended events → ∀ key, matched key = true →
    (∀ passed ∈ (start keyspace).keyspaces events, (passed key).isSome) →
    ∃ cursor keys, .scanned cursor keys ∈ events ∧ key ∈ keys

def NoFailure (events : List ScanEvent) : Prop := ∀ removed, .failed removed ∉ events

/-- No other client sets the key. -/
def Unset (key : String) (events : List ScanEvent) :
    Prop := ∀ value, .write key (some value) ∉ events

def Call.Waits (call : Call) (key : String) : Prop :=
  ∃ cursor keys, call.phase = .deleting cursor keys ∧ key ∈ keys

/-! ## Steps -/

section Steps

variable {call next final : Call} {event : ScanEvent} {events : List ScanEvent} {key : String}

theorem step_cases (h : call.step event = some next) :
    (∃ key value, event = .write key value ∧
      next = { call with keyspace := Function.update call.keyspace key value }) ∨
    (∃ cursor nextCursor keys, call.phase = .scanning cursor ∧
      event = .scanned nextCursor keys ∧
      next = { call with phase := received nextCursor keys }) ∨
    (∃ cursor keys, call.phase = .deleting cursor keys ∧ event = .deleted ∧
      next = ⟨call.keyspace.remove keys, again cursor⟩) ∨
    (∃ removed, event = .failed removed ∧ (∀ key ∈ removed, call.Waits key) ∧
      next = ⟨call.keyspace.remove removed, .resolved⟩) := by
  cases event with
  | write key value =>
      exact .inl ⟨key, value, rfl, (Option.some.inj h).symm⟩
  | scanned nextCursor keys =>
      cases phase : call.phase with
      | scanning cursor =>
          simp only [Call.step, phase] at h
          exact .inr (.inl ⟨cursor, nextCursor, keys, rfl, rfl, (Option.some.inj h).symm⟩)
      | deleting _ _ => simp only [Call.step, phase, reduceCtorEq] at h
      | resolved => simp only [Call.step, phase, reduceCtorEq] at h
  | deleted =>
      cases phase : call.phase with
      | scanning _ => simp only [Call.step, phase, reduceCtorEq] at h
      | deleting cursor keys =>
          simp only [Call.step, phase] at h
          exact .inr (.inr (.inl ⟨cursor, keys, rfl, rfl, (Option.some.inj h).symm⟩))
      | resolved => simp only [Call.step, phase, reduceCtorEq] at h
  | failed removed =>
      refine .inr (.inr (.inr ⟨removed, rfl, ?_⟩))
      cases phase : call.phase with
      | scanning _ =>
          simp only [Call.step, phase] at h
          split at h
          · rename_i none
            subst none
            exact ⟨fun _ mem => absurd mem List.not_mem_nil, (Option.some.inj h).symm⟩
          · cases h
      | deleting cursor keys =>
          simp only [Call.step, phase] at h
          split at h
          · rename_i some
            exact ⟨fun key mem => ⟨cursor, keys, phase, some mem⟩, (Option.some.inj h).symm⟩
          · cases h
      | resolved => simp only [Call.step, phase, reduceCtorEq] at h

theorem waits_received {nextCursor : String} {keys : List String} {keyspace : Keyspace}
    (mem : key ∈ keys) : Call.Waits ⟨keyspace, received nextCursor keys⟩ key := by
  refine ⟨nextCursor, keys, ?_, mem⟩
  exact if_pos (List.length_pos_of_mem mem)

theorem mem_of_waits_received {nextCursor : String} {keys : List String} {keyspace : Keyspace}
    (waits : Call.Waits ⟨keyspace, received nextCursor keys⟩ key) : key ∈ keys := by
  obtain ⟨cursor, keys', phase, mem⟩ := waits
  simp only [received, again] at phase
  split at phase
  · cases phase
    exact mem
  · split at phase <;> cases phase

theorem not_waits_again {cursor : String} {keyspace : Keyspace} :
    ¬ Call.Waits ⟨keyspace, again cursor⟩ key := by
  rintro ⟨cursor', keys, phase, -⟩
  simp only [again] at phase
  split at phase <;> cases phase

theorem remove_of_mem {keyspace : Keyspace} {keys : List String} (mem : key ∈ keys) :
    keyspace.remove keys key = none := if_pos mem

theorem remove_of_not_mem {keyspace : Keyspace} {keys : List String} (mem : key ∉ keys) :
    keyspace.remove keys key = keyspace key := if_neg mem

/-- A key that is not there and is not set stays away. -/
theorem absent_step (h : call.step event = some next) (absent : call.keyspace key = none)
    (unset : ∀ value, event ≠ .write key (some value)) : next.keyspace key = none := by
  rcases step_cases h with ⟨key', value, rfl, rfl⟩ | ⟨_, _, _, _, _, rfl⟩ |
    ⟨_, keys, _, _, rfl⟩ | ⟨removed, _, _, rfl⟩
  · by_cases same : key = key'
    · subst same
      cases value with
      | none => exact Function.update_self _ _ _
      | some value => exact absurd rfl (unset value)
    · exact (Function.update_of_ne same _ _).trans absent
  · exact absent
  · by_cases mem : key ∈ keys
    · exact remove_of_mem mem
    · exact (remove_of_not_mem mem).trans absent
  · by_cases mem : key ∈ removed
    · exact remove_of_mem mem
    · exact (remove_of_not_mem mem).trans absent

end Steps

/-! ## Runs -/

section Runs

variable {call next final : Call} {event : ScanEvent} {events : List ScanEvent} {key : String}

theorem run_cons (h : call.run (event :: events) = some final) :
    ∃ next, call.step event = some next ∧ next.run events = some final :=
  Option.bind_eq_some_iff.mp h

theorem Unset.tail (unset : Unset key (event :: events)) : Unset key events :=
  fun value mem => unset value (List.mem_cons_of_mem _ mem)

theorem Unset.head (unset : Unset key (event :: events)) (value : Cached) :
    event ≠ .write key (some value) :=
  fun same => unset value (same ▸ List.mem_cons_self)

theorem NoFailure.tail (fine : NoFailure (event :: events)) : NoFailure events :=
  fun removed mem => fine removed (List.mem_cons_of_mem _ mem)

theorem absent_run (h : call.run events = some final) (absent : call.keyspace key = none)
    (unset : Unset key events) : final.keyspace key = none := by
  induction events generalizing call with
  | nil =>
      cases h
      exact absent
  | cons event events ih =>
      obtain ⟨next, stepped, h⟩ := run_cons h
      exact ih h (absent_step stepped absent unset.head) unset.tail

/-- A key that is to be deleted, now or after a later reply, is gone in the end. -/
theorem batched_run (h : call.run events = some final) (unset : Unset key events)
    (fine : NoFailure events) (answered : ¬ final.Waits key)
    (batched : call.Waits key ∨ ∃ cursor keys, .scanned cursor keys ∈ events ∧
      key ∈ keys) :
    final.keyspace key = none := by
  induction events generalizing call with
  | nil =>
      cases h
      rcases batched with waits | ⟨_, _, mem, _⟩
      · exact absurd waits answered
      · cases mem
  | cons event events ih =>
      obtain ⟨next, stepped, h⟩ := run_cons h
      have ih := fun batched => ih h unset.tail fine.tail batched
      rcases step_cases stepped with ⟨key', value, rfl, rfl⟩ |
        ⟨_, nextCursor, keys, phase, rfl, rfl⟩ |
        ⟨cursor, keys, phase, rfl, rfl⟩ | ⟨removed, rfl, _⟩
      · refine ih (batched.imp id ?_)
        rintro ⟨cursor, keys, mem, inside⟩
        rcases List.mem_cons.mp mem with same | mem
        · cases same
        · exact ⟨cursor, keys, mem, inside⟩
      · by_cases here : key ∈ keys
        · exact ih (.inl (waits_received here))
        · refine ih (.inr ?_)
          rcases batched with ⟨_, _, other, _⟩ | ⟨cursor, keys', mem, inside⟩
          · rw [phase] at other
            cases other
          · rcases List.mem_cons.mp mem with same | mem
            · cases same
              exact absurd inside here
            · exact ⟨cursor, keys', mem, inside⟩
      · by_cases here : key ∈ keys
        · exact absent_run h (remove_of_mem here) unset.tail
        · refine ih (.inr ?_)
          rcases batched with ⟨_, keys', same, inside⟩ | ⟨cursor', keys', mem, inside⟩
          · rw [phase] at same
            cases same
            exact absurd inside here
          · rcases List.mem_cons.mp mem with same | mem
            · cases same
            · exact ⟨cursor', keys', mem, inside⟩
      · exact absurd List.mem_cons_self (fine removed)

/-- A key that no reply has is there all the time, or else it is gone in the end. -/
theorem unbatched_run (h : call.run events = some final) (unset : Unset key events)
    (free : ¬ call.Waits key) (never : ∀ cursor keys, .scanned cursor keys ∈ events →
      key ∉ keys) :
    (∀ passed ∈ call.keyspaces events, (passed key).isSome) ∨ final.keyspace key = none := by
  cases present : call.keyspace key with
  | none => exact .inr (absent_run h present unset)
  | some value =>
      have here : (call.keyspace key).isSome := by rw [present]; rfl
      induction events generalizing call value with
      | nil => exact .inl fun passed mem => List.mem_singleton.mp mem ▸ here
      | cons event events ih =>
          obtain ⟨next, stepped, h⟩ := run_cons h
          have later := fun cursor keys mem => never cursor keys (List.mem_cons_of_mem _ mem)
          have free' : ¬ next.Waits key := by
            rcases step_cases stepped with ⟨_, _, rfl, rfl⟩ |
              ⟨_, nextCursor, keys, _, rfl, rfl⟩ |
              ⟨_, _, _, rfl, rfl⟩ | ⟨_, rfl, _, rfl⟩
            · exact free
            · exact fun waits => never _ _ List.mem_cons_self (mem_of_waits_received waits)
            · exact not_waits_again
            · rintro ⟨_, _, phase, _⟩
              cases phase
          cases present' : next.keyspace key with
          | none => exact .inr (absent_run h present' unset.tail)
          | some value' =>
              refine (ih h unset.tail free' later value' present' (by rw [present']; rfl)).imp_left
                ?_
              intro throughout passed mem
              rw [Call.keyspaces, stepped, Option.map_some, Option.getD_some] at mem
              rcases List.mem_cons.mp mem with rfl | mem
              · exact here
              · exact throughout passed mem

/-- The iteration is over, but for the last DEL. -/
def Call.Closing (call : Call) : Prop :=
  call.phase = .resolved ∨ ∃ keys, call.phase = .deleting "0" keys

theorem closing_run (h : call.run events = some final) (closing : call.Closing) :
    final.Closing := by
  induction events generalizing call with
  | nil =>
      cases h
      exact closing
  | cons event events ih =>
      obtain ⟨next, stepped, h⟩ := run_cons h
      refine ih h ?_
      rcases step_cases stepped with ⟨_, _, rfl, rfl⟩ | ⟨_, _, _, phase, rfl, rfl⟩ |
        ⟨cursor, _, phase, rfl, rfl⟩ | ⟨_, rfl, _, rfl⟩
      · exact closing
      · rcases closing with other | ⟨_, other⟩
        · rw [phase] at other
          cases other
        · rw [phase] at other
          cases other
      · rcases closing with other | ⟨_, other⟩
        · rw [phase] at other
          cases other
        · rw [phase] at other
          cases other
          exact .inl rfl
      · exact .inl rfl

theorem ended_run (h : call.run events = some final) (ended : Ended events) : final.Closing := by
  induction events generalizing call with
  | nil =>
      obtain ⟨_, mem⟩ := ended
      cases mem
  | cons event events ih =>
      obtain ⟨next, stepped, h⟩ := run_cons h
      obtain ⟨keys, mem⟩ := ended
      rcases List.mem_cons.mp mem with same | mem
      · refine closing_run h ?_
        rw [← same] at stepped
        rcases step_cases stepped with ⟨_, _, other, _⟩ | ⟨_, _, _, _, same, rfl⟩ |
          ⟨_, _, _, other, _⟩ | ⟨_, other, _⟩
        · cases other
        · cases same
          change received "0" keys = .resolved ∨ ∃ keys',
            received "0" keys = .deleting "0" keys'
          unfold received
          split
          · exact .inr ⟨keys, rfl⟩
          · exact .inl rfl
        · cases other
        · cases other
      · exact ih h ⟨keys, mem⟩

theorem resolved_run (h : call.run events = some final) (resolved : call.phase = .resolved) :
    final.phase = .resolved := by
  induction events generalizing call with
  | nil =>
      cases h
      exact resolved
  | cons event events ih =>
      obtain ⟨next, stepped, h⟩ := run_cons h
      refine ih h ?_
      rcases step_cases stepped with ⟨_, _, rfl, rfl⟩ | ⟨_, _, _, other, _⟩ |
        ⟨_, _, other, _⟩ | ⟨_, rfl, _, rfl⟩
      · exact resolved
      · rw [resolved] at other
        cases other
      · rw [resolved] at other
        cases other
      · rfl

theorem failed_run {removed : List String} (h : call.run events = some final)
    (failed : .failed removed ∈ events) : final.phase = .resolved := by
  induction events generalizing call with
  | nil => cases failed
  | cons event events ih =>
      obtain ⟨next, stepped, h⟩ := run_cons h
      rcases List.mem_cons.mp failed with same | mem
      · refine resolved_run h ?_
        rw [← same] at stepped
        rcases step_cases stepped with ⟨_, _, other, _⟩ | ⟨_, _, _, _, other, _⟩ |
          ⟨_, _, _, other, _⟩ | ⟨_, _, _, rfl⟩
        · cases other
        · cases other
        · cases other
        · rfl
      · exact ih h mem

theorem written_congr {keyspace keyspace' : Keyspace} (events : List ScanEvent)
    (same : keyspace key = keyspace' key) :
    written keyspace events key = written keyspace' events key := by
  induction events generalizing keyspace keyspace' with
  | nil => exact same
  | cons event events ih =>
      cases event with
      | write key' value =>
          refine ih ?_
          by_cases here : key = key'
          · subst here
            rw [Function.update_self, Function.update_self]
          · rw [Function.update_of_ne here, Function.update_of_ne here, same]
      | scanned _ _ => exact ih same
      | deleted => exact ih same
      | failed _ => exact ih same

theorem written_alone {keyspace : Keyspace} (alone : ∀ key value, .write key value ∉ events) :
    written keyspace events = keyspace := by
  induction events with
  | nil => rfl
  | cons event events ih =>
      have ih := ih fun key value mem => alone key value (List.mem_cons_of_mem _ mem)
      cases event with
      | write key value => exact absurd List.mem_cons_self (alone key value)
      | scanned _ _ => exact ih
      | deleted => exact ih
      | failed _ => exact ih

/-- The call writes no key but those that it waits for or gets in replies. -/
theorem sound_run {matched : String → Bool} (h : call.run events = some final)
    (pending : ∀ key, call.Waits key → matched key = true)
    (matching : ∀ cursor keys, .scanned cursor keys ∈ events →
      ∀ key ∈ keys, matched key = true)
    (other : matched key ≠ true) : final.keyspace key = written call.keyspace events key := by
  induction events generalizing call with
  | nil =>
      cases h
      rfl
  | cons event events ih =>
      obtain ⟨next, stepped, h⟩ := run_cons h
      have later := fun cursor keys mem => matching cursor keys (List.mem_cons_of_mem _ mem)
      rcases step_cases stepped with ⟨_, _, rfl, rfl⟩ | ⟨_, _, keys, _, rfl, rfl⟩ |
        ⟨cursor, keys, phase, rfl, rfl⟩ | ⟨removed, rfl, waited, rfl⟩
      · exact ih h pending later
      · have rest := ih h (fun key waits => matching _ _ List.mem_cons_self key
          (mem_of_waits_received waits)) later
        exact rest
      · rw [ih h (fun key waits => absurd waits not_waits_again) later]
        refine written_congr events (remove_of_not_mem fun mem => other ?_)
        exact pending key ⟨cursor, keys, phase, mem⟩
      · rw [ih h (fun key waits => by obtain ⟨_, _, phase, _⟩ := waits; cases phase) later]
        exact written_congr events (remove_of_not_mem fun mem =>
          other (pending key (waited key mem)))

end Runs

/-! ## The call -/

section Calls

variable {matched : String → Bool} {keyspace : Keyspace} {events : List ScanEvent} {final : Call}

theorem not_waits_start {key : String} : ¬ (start keyspace).Waits key := by
  rintro ⟨_, _, phase, _⟩
  cases phase

/-- The iteration has ended and every command is answered. -/
structure Finished (events : List ScanEvent) (final : Call) : Prop where
  ended : Ended events
  fine : NoFailure events
  answered : ∀ cursor keys, final.phase ≠ .deleting cursor keys

theorem Finished.resolved (finished : Finished events final)
    (run : (start keyspace).run events = some final) : final.phase = .resolved := by
  rcases ended_run run finished.ended with resolved | ⟨keys, deleting⟩
  · exact resolved
  · exact absurd deleting (finished.answered _ _)

theorem Finished.gone (finished : Finished events final)
    (run : (start keyspace).run events = some final)
    (guarantee : Guarantee matched keyspace events) {key : String} (known : matched key = true)
    (unset : Unset key events) : final.keyspace key = none := by
  have ended : ¬ final.Waits key :=
    fun ⟨cursor, keys, phase, _⟩ => finished.answered cursor keys phase
  by_cases batched : ∃ cursor keys, .scanned cursor keys ∈ events ∧ key ∈ keys
  · exact batched_run run unset finished.fine ended (.inr batched)
  · have never : ∀ cursor keys, .scanned cursor keys ∈ events → key ∉ keys :=
      fun cursor keys mem inside => batched ⟨cursor, keys, mem, inside⟩
    rcases unbatched_run run unset not_waits_start never with throughout | gone
    · exact absurd (guarantee.complete finished.ended key known throughout) batched
    · exact gone

theorem untouched (run : (start keyspace).run events = some final)
    (guarantee : Guarantee matched keyspace events) {key : String} (other : matched key ≠ true) :
    final.keyspace key = written keyspace events key :=
  sound_run run (fun _ waits => absurd waits not_waits_start) guarantee.matching other

/-- Where no other client writes, the call does what one deletion of all matching keys does. -/
theorem refines_deleteKeys {w : World} {pattern : String} (finished : Finished events final)
    (run : (start w.cached).run events = some final)
    (guarantee : Guarantee (CacheService.glob pattern) w.cached events)
    (alone : ∀ key value, .write key value ∉ events) :
    final.phase = .resolved ∧
      final.keyspace = (w.deleteKeys (CacheService.glob pattern)).cached := by
  refine ⟨finished.resolved run, funext fun key => ?_⟩
  rw [World.cached_deleteKeys]
  by_cases known : CacheService.glob pattern key = true
  · rw [if_pos known, finished.gone run guarantee known fun value => alone key (some value)]
  · rw [if_neg known, untouched run guarantee known, written_alone alone]

end Calls

def sampleKeys : Keyspace := fun key =>
  if key = "p:1" ∨ key = "u:1" then some (.categoriesTree []) else none

/-- A batch without keys, a key that expires meanwhile, and a batch that repeats a key. -/
def sampleReplies : List ScanEvent :=
  [.scanned "7" [], .write "u:1" none, .scanned "0" ["p:1", "p:1"], .deleted]

theorem sample_guarantee : Guarantee (· == "p:1") sampleKeys sampleReplies where
  matching cursor keys mem key inside := by
    simp only [sampleReplies, List.mem_cons, ScanEvent.scanned.injEq, reduceCtorEq,
      List.not_mem_nil, or_false, false_or] at mem
    rcases mem with ⟨-, rfl⟩ | ⟨-, rfl⟩
    · cases inside
    · simpa using inside
  complete _ key known _ := by
    refine ⟨"0", ["p:1", "p:1"], by simp [sampleReplies], ?_⟩
    rw [beq_iff_eq.mp known]
    exact List.mem_cons_self

def sampleEnd : Call :=
  ⟨Keyspace.remove (Function.update sampleKeys "u:1" none) ["p:1", "p:1"], .resolved⟩

theorem sample_finished : Finished sampleReplies sampleEnd where
  ended := ⟨["p:1", "p:1"], by simp [sampleReplies]⟩
  fine := by simp [NoFailure, sampleReplies]
  answered _ _ phase := by cases phase

end ScanLoop
end Tenantory
