import Tenantory.AuditLog
import Tenantory.CoupledRuns
import Tenantory.RequestChecks
import Tenantory.SerialRuns
import Tenantory.StoredRows

/-! States that differ in nothing but the password hashes of their users, and what the
statements and commands of two runs make of them. -/

namespace Tenantory

open Prog Stored

/-! ## States -/

/-- The users differ in their hashes only. -/
def User.Alike (user other : User) : Prop := ∃ hash, other = { user with passwordHash := hash }

inductive Cached.Alike : Cached → Cached → Prop
  | user {user other : User} : user.Alike other → Alike (.user user) (.user other)
  | same (value : Cached) : Alike value value

/-- The rows differ in their hashes only, which their column can hold. -/
structure UsersAlike (t u : Table User) : Prop where
  rows : List.Forall₂ User.Alike t.rows u.rows
  fit : ∀ user ∈ t, fits 255 user.passwordHash = true
  fit' : ∀ user ∈ u, fits 255 user.passwordHash = true

def EntriesAlike (entry other : String × Cached) : Prop :=
  entry.1 = other.1 ∧ entry.2.Alike other.2

inductive World.Alike (w : World) : World → Prop
  | intro {users : Table User} {cache : List (String × Cached)} :
      UsersAlike w.db.users users → List.Forall₂ EntriesAlike w.cache cache →
      World.Alike w { w with db := { w.db with users }, cache }

theorem User.Alike.refl (user : User) : user.Alike user := ⟨user.passwordHash, rfl⟩

/-! ## Tables -/

namespace UsersAlike

variable {t u : Table User}

/-- A test that does not look at the hash. -/
theorem find? (alike : UsersAlike t u) {p : User → Bool}
    (blind : ∀ user hash, p user = p { user with passwordHash := hash }) :
    Option.Rel User.Alike (t.find? p) (u.find? p) := by
  refine find?_of_forall₂ alike.rows fun user other same => ?_
  obtain ⟨hash, rfl⟩ := same
  exact blind user hash

theorem any (alike : UsersAlike t u) {p : User → Bool}
    (blind : ∀ user hash, p user = p { user with passwordHash := hash }) :
    t.rows.any p = u.rows.any p := by
  refine any_of_forall₂ alike.rows fun user other same => ?_
  obtain ⟨hash, rfl⟩ := same
  exact blind user hash

theorem insert? (alike : UsersAlike t u) {row : User} (fit : fits 255 row.passwordHash = true) :
    Option.Rel UsersAlike (t.insert? row) (u.insert? row) := by
  have taken : t.rows.any (Constrained.conflict row) = u.rows.any (Constrained.conflict row) :=
    alike.any fun _ _ => rfl
  have with_row {s : Table User} (h : ∀ user ∈ s, fits 255 user.passwordHash = true) :
      ∀ user ∈ s.rows ++ [row], fits 255 user.passwordHash = true := by
    intro user mem
    rcases List.mem_append.mp mem with old | new
    · exact h user old
    · rw [List.mem_singleton.mp new]
      exact fit
  cases free : u.rows.any (Constrained.conflict row) with
  | true =>
      rw [Table.insert?, dif_pos (taken.trans free), Table.insert?, dif_pos free]
      exact .none
  | false =>
      rw [Table.insert?, dif_neg (by rw [taken, free]; decide), Table.insert?,
        dif_neg (by rw [free]; decide)]
      exact .some ⟨List.rel_append alike.rows (.cons (User.Alike.refl row) .nil),
        with_row alike.fit, with_row alike.fit'⟩

theorem update? (alike : UsersAlike t u) {p : User → Bool} {f g : User → User}
    (blind : ∀ user hash, p user = p { user with passwordHash := hash })
    (same : ∀ user other, user.Alike other → (f user).Alike (g other))
    (fit : ∀ user ∈ t, p user = true → fits 255 (f user).passwordHash = true)
    (fit' : ∀ user ∈ u, p user = true → fits 255 (g user).passwordHash = true) :
    Option.Rel UsersAlike (t.update? p f) (u.update? p g) := by
  have written : List.Forall₂ User.Alike (t.rows.map fun r => if p r then f r else r)
      (u.rows.map fun r => if p r then g r else r) := by
    refine List.rel_map (fun user other related => ?_) alike.rows
    have test : p user = p other := by
      obtain ⟨hash, rfl⟩ := related
      exact blind user hash
    rw [← test]
    split
    · exact same user other related
    · exact related
  have separate : (t.rows.map fun r => if p r then f r else r).Pairwise
        (fun r s => Constrained.conflict r s = false) ↔
      (u.rows.map fun r => if p r then g r else r).Pairwise
        fun r s => Constrained.conflict r s = false := by
    refine pairwise_iff_of_forall₂ written fun a b c d first second => ?_
    obtain ⟨hash, rfl⟩ := first
    obtain ⟨hash', rfl⟩ := second
    exact Iff.rfl
  have kept {s : Table User} {f : User → User}
      (before : ∀ user ∈ s, fits 255 user.passwordHash = true)
      (after : ∀ user ∈ s, p user = true → fits 255 (f user).passwordHash = true) :
      ∀ user ∈ s.rows.map fun r => if p r then f r else r,
        fits 255 user.passwordHash = true := by
    intro user mem
    obtain ⟨old, there, rfl⟩ := List.mem_map.mp mem
    split
    · rename_i hit
      exact after old there hit
    · exact before old there
  by_cases apart : (u.rows.map fun r => if p r then g r else r).Pairwise
      fun r s => Constrained.conflict r s = false
  · rw [Table.update?, dif_pos (separate.mpr apart), Table.update?, dif_pos apart]
    exact .some ⟨written, kept alike.fit fit, kept alike.fit' fit'⟩
  · rw [Table.update?, dif_neg fun h => apart (separate.mp h), Table.update?, dif_neg apart]
    exact .none

end UsersAlike

/-! ## Statements -/

theorem misfit_alike {user other : User} (alike : user.Alike other)
    (fit : fits 255 user.passwordHash = true) (fit' : fits 255 other.passwordHash = true) :
    misfit user = misfit other := by
  obtain ⟨hash, rfl⟩ := alike
  change firstError [(fits 255 user.email, .tooLong), (fits 255 user.firstName, .tooLong),
      (fits 255 user.lastName, .tooLong), (fits 255 user.passwordHash, .tooLong)] =
    firstError [(fits 255 user.email, .tooLong), (fits 255 user.firstName, .tooLong),
      (fits 255 user.lastName, .tooLong), (fits 255 hash, .tooLong)]
  rw [fit, fit']

section Statements

variable {db : Database} {users : Table User}

def AlikeTables (db other : Database) : Prop :=
  ∃ users, other = { db with users } ∧ UsersAlike db.users users

theorem insertRow_alike (alike : UsersAlike db.users users) (row : User) :
    Paired AlikeTables (db.insertRow row) ({ db with users }.insertRow row) := by
  unfold Database.insertRow
  cases checked : misfit row with
  | some e => exact .error e
  | none =>
      have fit : fits 255 row.passwordHash = true :=
        firstError_eq_none.mp checked (fits 255 row.passwordHash, .tooLong)
          (List.mem_of_getElem? (i := 3) rfl)
      have inserted : Option.Rel UsersAlike ((table db).insert? row)
        ((table { db with users }).insert? row) := alike.insert? fit
      have dangles : dangling { db with users } row = dangling db row := rfl
      dsimp only
      rw [dangles]
      generalize (table db).insert? row = t at inserted
      generalize (table { db with users }).insert? row = u at inserted
      cases inserted with
      | none => exact .error _
      | some rows =>
          dsimp only
          split
          · exact .error _
          · exact .ok ⟨_, rfl, rows⟩

/-- UPDATE of a row, in each database by a function of its own. -/
theorem updateRow_alike (alike : UsersAlike db.users users) (id : Uuid) {f g : User → User}
    (same : ∀ user other, user.Alike other → (f user).Alike (g other))
    (fit : ∀ user ∈ db.users, user.id = id → fits 255 (f user).passwordHash = true)
    (fit' : ∀ user ∈ users, user.id = id → fits 255 (g user).passwordHash = true) :
    Paired AlikeTables (db.updateRow id f) ({ db with users }.updateRow id g) := by
  have named (user : User) : (user.id == id) = true ↔ user.id = id := beq_iff_eq
  have found : Option.Rel User.Alike ((table db).find? fun r => Entity.id (r : User) == id)
    ((table { db with users }).find? fun r => Entity.id (r : User) == id) :=
    alike.find? fun _ _ => rfl
  have updated : Option.Rel UsersAlike ((table db).update? (fun r => Entity.id r == id) f)
      ((table { db with users }).update? (fun r => Entity.id r == id) g) :=
    alike.update? (fun _ _ => rfl) same (fun user mem hit => fit user mem ((named user).mp hit))
      fun user mem hit => fit' user mem ((named user).mp hit)
  unfold Database.updateRow
  generalize read : (table db).find? (fun r => Entity.id (r : User) == id) = a at found
  generalize read' : (table { db with users }).find? (fun r => Entity.id (r : User) == id) = b
    at found
  cases found with
  | none => exact .ok ⟨users, rfl, alike⟩
  | @some user other related =>
      have test := Table.holds_of_find? read
      have test' := Table.holds_of_find? read'
      have hit : user.id = id := (named user).mp test
      have hit' : other.id = id := (named other).mp test'
      have checks : misfit (f user) = misfit (g other) := misfit_alike (same _ _ related)
        (fit user (Table.mem_of_find? read) hit) (fit' other (Table.mem_of_find? read') hit')
      have dangles : dangling { db with users } (g other) = dangling db (f user) := by
        obtain ⟨hash, written⟩ := same _ _ related
        rw [written]
        rfl
      dsimp only
      rw [checks, dangles]
      cases misfit (g other) with
      | some e => exact .error e
      | none =>
          dsimp only
          generalize (table db).update? (fun r => Entity.id r == id) f = t at updated
          generalize (table { db with users }).update? (fun r => Entity.id r == id) g = u at updated
          cases updated with
          | none => exact .error _
          | some rows =>
              dsimp only
              split
              · exact .error _
              · exact .ok ⟨_, rfl, rows⟩

end Statements

section Worlds

variable {w v : World}

theorem World.Alike.fit (alike : w.Alike v) :
    ∀ user ∈ w.db.users, fits 255 user.passwordHash = true := by
  cases alike with
  | intro alike _ => exact alike.fit

theorem World.Alike.fit' (alike : w.Alike v) :
    ∀ user ∈ v.db.users, fits 255 user.passwordHash = true := by
  cases alike with
  | intro alike _ => exact alike.fit'

theorem World.insert_alike (alike : w.Alike v) (build : Uuid → Timestamp → User) :
    Paired (fun a b => a.1 = b.1 ∧ a.2.Alike b.2) (w.insert build) (v.insert build) := by
  cases alike with
  | intro alike entries =>
      refine paired_bind (insertRow_alike alike _) fun db other tables => ?_
      obtain ⟨stored, rfl, rows⟩ := tables
      exact .ok ⟨rfl, .intro rows entries⟩

theorem World.update_alike (alike : w.Alike v) (id : Uuid) {f g : User → User}
    (same : ∀ user other, user.Alike other → (f user).Alike (g other))
    (fit : ∀ user ∈ w.db.users, user.id = id → fits 255 (f user).passwordHash = true)
    (fit' : ∀ user ∈ v.db.users, user.id = id → fits 255 (g user).passwordHash = true) :
    Paired World.Alike (w.update id f) (v.update id g) := by
  cases alike with
  | intro alike entries =>
      refine paired_bind (updateRow_alike alike id same fit fit') fun db other tables => ?_
      obtain ⟨stored, rfl, rows⟩ := tables
      exact .ok (.intro rows entries)

end Worlds

/-! ## Calls -/

namespace Svc

variable {α β γ δ : Type} {R : α → β → Prop} {S : γ → δ → Prop}

/-- The programs answer alike from states that differ in the hashes, and leave such states. -/
def HashBlind (R : α → β → Prop) (p : Svc α) (q : Svc β) : Prop :=
  Coupled World.Alike (Paired R) p.run q.run

theorem HashBlind.runs {p : Svc α} {q : Svc β} (blind : HashBlind R p q) {w v : World}
    (alike : w.Alike v) :
    Paired R (p.runs w).1 (q.runs v).1 ∧ (p.runs w).2.Alike (q.runs v).2 :=
  blind w v alike

theorem blind_pure {a : α} {b : β} (related : R a b) : HashBlind R (pure a) (pure b) :=
  coupled_ret (.ok related)

theorem blind_throw (e : Err) : HashBlind R (throw e) (throw e) := coupled_ret (.error e)

theorem HashBlind.bind {p : Svc α} {q : Svc β} {f : α → Svc γ} {g : β → Svc δ}
    (first : HashBlind R p q) (rest : ∀ a b, R a b → HashBlind S (f a) (g b)) :
    HashBlind S (p >>= f) (q >>= g) :=
  coupled_run_bind first rest

theorem HashBlind.map {p : Svc α} {q : Svc β} {f : α → γ} {g : β → δ}
    (first : HashBlind R p q)
    (related : ∀ a b, R a b → S (f a) (g b)) : HashBlind S (f <$> p) (g <$> q) := by
  rw [map_eq_pure_bind, map_eq_pure_bind]
  exact first.bind fun a b h => blind_pure (related a b h)

theorem HashBlind.tryCatch {p : Svc α} {q : Svc β} {handle : Err → Svc α}
    {handle' : Err → Svc β}
    (first : HashBlind R p q) (rest : ∀ e, HashBlind R (handle e) (handle' e)) :
    HashBlind R (MonadExcept.tryCatch p handle) (MonadExcept.tryCatch q handle') :=
  coupled_run_tryCatch first rest

theorem blind_ite {c d : Prop} [Decidable c] [Decidable d] {p p' : Svc α} {q q' : Svc β}
    (same : c ↔ d) (yes : HashBlind R p q) (no : HashBlind R p' q') :
    HashBlind R (if c then p else p') (if d then q else q') := by
  by_cases h : c
  · rw [if_pos h, if_pos (same.mp h)]
    exact yes
  · rw [if_neg h, if_neg fun other => h (same.mpr other)]
    exact no

theorem blind_query {read : World → Except Err α} {read' : World → Except Err β}
    (same : ∀ w v, w.Alike v → Paired R (read w) (read' v)) :
    HashBlind R (query read) (query read') :=
  fun w v alike => ⟨same w v alike, alike⟩

theorem blind_statement {label label' : Label} {act : World → Except Err (α × World)}
    {act' : World → Except Err (β × World)} (same : ∀ w v, w.Alike v →
      Paired (fun a b => R a.1 b.1 ∧ a.2.Alike b.2) (act w) (act' v)) :
    HashBlind R (statement label act) (statement label' act') := by
  intro w v alike
  change Paired R ((statement label act).runs w).1 ((statement label' act').runs v).1 ∧
    ((statement label act).runs w).2.Alike ((statement label' act').runs v).2
  rw [runs_statement, runs_statement]
  have ended := same w v alike
  generalize act w = r at ended
  generalize act' v = r' at ended
  cases ended with
  | ok related => exact ⟨.ok related.1, related.2⟩
  | error e => exact ⟨.error e, alike⟩

theorem blind_record (context : Option AuditContextData) (input : AuditEventInput) :
    HashBlind Eq (AuditService.record context input) (AuditService.record context input) := by
  unfold AuditService.record
  cases AuditService.event? context input with
  | none => exact blind_throw _
  | some event =>
      intro w v alike
      cases alike with
      | intro users cache => exact ⟨.ok rfl, .intro users cache⟩

/-! ### Commands of Redis -/

theorem cached_alike {w v : World} (alike : w.Alike v) (key : String) :
    Option.Rel Cached.Alike (w.cached key) (v.cached key) := by
  cases alike with
  | @intro users cache _ entries =>
      have found : Option.Rel EntriesAlike (w.cache.find? (·.1 == key))
          (cache.find? (·.1 == key)) :=
        find?_of_forall₂ entries fun entry other same => by rw [same.1]
      unfold World.cached
      dsimp only
      generalize w.cache.find? (·.1 == key) = a at found
      generalize cache.find? (·.1 == key) = b at found
      cases found with
      | none => exact .none
      | some related => exact .some related.2

theorem blind_get {key : String} {read : Cached → Option α} {read' : Cached → Option β}
    (same : ∀ a b, a.Alike b → Option.Rel R (read a) (read' b)) :
    HashBlind (Option.Rel R) (CacheService.get key read) (CacheService.get key read') := by
  intro w v alike
  refine ⟨.ok ?_, alike⟩
  have found := cached_alike alike key
  dsimp only
  generalize w.cached key = a at found
  generalize v.cached key = b at found
  cases found with
  | none => exact .none
  | some related => exact same _ _ related

theorem rel_filter_keys {l m : List (String × Cached)} (entries : List.Forall₂ EntriesAlike l m)
    (p : String → Bool) : List.Forall₂ EntriesAlike (l.filter fun entry => p entry.1)
      (m.filter fun entry => p entry.1) :=
  List.rel_filter (fun entry other same => by dsimp only; rw [same.1]) entries

theorem blind_set (key : String) {value value' : Cached} (same : value.Alike value') :
    HashBlind Eq (CacheService.set key value) (CacheService.set key value') := by
  intro w v alike
  cases alike with
  | intro users entries =>
      exact ⟨.ok rfl,
        .intro users (.cons ⟨rfl, same⟩ (rel_filter_keys entries (· != key)))⟩

theorem blind_del (key : String) : HashBlind Eq (CacheService.del key) (CacheService.del key) := by
  intro w v alike
  cases alike with
  | intro users entries =>
      exact ⟨.ok rfl, .intro users (rel_filter_keys entries fun k => !(k == key))⟩

end Svc
end Tenantory
