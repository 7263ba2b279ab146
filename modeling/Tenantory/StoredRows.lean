import Tenantory.TableStatements

/-! What a successful INSERT or UPDATE makes of the rows of its table. -/

namespace Tenantory

open Stored

theorem bind_eq_ok {ε α β : Type} {x : Except ε α} {f : α → Except ε β} {b : β} :
    x >>= f = .ok b ↔ ∃ a, x = .ok a ∧ f a = .ok b := by
  cases x with
  | error e => exact ⟨fun h => (nomatch h), fun ⟨_, h, _⟩ => (nomatch h)⟩
  | ok a => exact ⟨fun h => ⟨a, rfl, h⟩, fun ⟨_, h, rest⟩ => by cases h; exact rest⟩

theorem map_eq_ok {ε α β : Type} {x : Except ε α} {f : α → β} {b : β} :
    x.map f = .ok b ↔ ∃ a, x = .ok a ∧ f a = b := by
  cases x with
  | error e =>
      constructor
      · intro h
        cases h
      · rintro ⟨a, h, -⟩
        cases h
  | ok a =>
      constructor
      · intro h
        exact ⟨a, rfl, Except.ok.inj h⟩
      · rintro ⟨a, h, rfl⟩
        cases h
        rfl

theorem firstError_eq_none {checks : List (Bool × Err)} :
    Stored.firstError checks = none ↔ ∀ check ∈ checks, check.1 = true := by
  simp [Stored.firstError]

theorem uuidParam_eq_ok {text : String} {id : Uuid} :
    uuidParam text = .ok id ↔ UuidText.uuidIn text = some id := by
  unfold uuidParam
  constructor
  · intro h
    split at h
    · rename_i found
      cases h
      exact found
    · cases h
  · intro h
    rw [h]

/-- A table and the database it is part of. -/
class LawfulTable (ρ : Type) extends Stored ρ where
  put_table : ∀ db, put (table db) db = db
  table_put : ∀ t db, table (put t db) = t
  put_put : ∀ t u db, put t (put u db) = put t db

instance : LawfulTable Tenant := ⟨fun _ => rfl, fun _ _ => rfl, fun _ _ _ => rfl⟩
instance : LawfulTable User := ⟨fun _ => rfl, fun _ _ => rfl, fun _ _ _ => rfl⟩
instance : LawfulTable TenantSetting := ⟨fun _ => rfl, fun _ _ => rfl, fun _ _ _ => rfl⟩
instance : LawfulTable Category := ⟨fun _ => rfl, fun _ _ => rfl, fun _ _ _ => rfl⟩
instance : LawfulTable Product := ⟨fun _ => rfl, fun _ _ => rfl, fun _ _ _ => rfl⟩
instance : LawfulTable ProductVariant := ⟨fun _ => rfl, fun _ _ => rfl, fun _ _ _ => rfl⟩
instance : LawfulTable Warehouse := ⟨fun _ => rfl, fun _ _ => rfl, fun _ _ _ => rfl⟩
instance : LawfulTable Supplier := ⟨fun _ => rfl, fun _ _ => rfl, fun _ _ _ => rfl⟩
instance : LawfulTable MediaAsset := ⟨fun _ => rfl, fun _ _ => rfl, fun _ _ _ => rfl⟩
instance : LawfulTable Notification := ⟨fun _ => rfl, fun _ _ => rfl, fun _ _ _ => rfl⟩

variable {ρ : Type}

namespace Table

theorem eq_of_id [Entity ρ] {t : Table ρ} {r s : ρ} (hr : r ∈ t) (hs : s ∈ t)
    (h : Entity.id r = Entity.id s) : r = s :=
  eq_of_conflict hr hs (Entity.same_id r s h)

end Table

namespace Database

section Statements

variable [Stored ρ] {db db' : Database} {row : ρ} {i : Uuid} {f : ρ → ρ}

theorem rowById_eq_some (h : rowById ρ db i = some row) :
    row ∈ (table db : Table ρ) ∧ Entity.id row = i :=
  ⟨Table.mem_of_find? h, by simpa using Table.holds_of_find? h⟩

theorem rowById_of_mem (mem : row ∈ (table db : Table ρ)) :
    rowById ρ db (Entity.id row) = some row :=
  Table.find?_of_mem mem (by simp) fun s _ same =>
    Entity.same_id row s (beq_iff_eq.mp same).symm

theorem rowById_eq_none (h : rowById ρ db i = none) :
    ∀ r ∈ (table db : Table ρ), Entity.id r ≠ i := by
  intro r hr
  simpa using Table.find?_eq_none.mp h r hr

theorem insertRow_ok (h : insertRow row db = .ok db') :
    misfit row = none ∧ dangling db row = false ∧
      ∃ t, (table db).insert? row = some t ∧ db' = put t db := by
  unfold insertRow at h
  cases hm : misfit row with
  | some err => simp [hm] at h
  | none =>
      cases ht : (table (ρ := ρ) db).insert? row with
      | none => simp [hm, ht] at h
      | some t =>
          simp only [hm, ht] at h
          split at h
          · cases h
          · rename_i fits
            cases h
            exact ⟨rfl, by simpa using fits, t, rfl, rfl⟩

theorem updateRow_ok (h : updateRow i f db = .ok db') :
    ((table (ρ := ρ) db).find? (fun r => Entity.id r == i) = none ∧ db' = db) ∨
      ∃ row t, (table (ρ := ρ) db).find? (fun r => Entity.id r == i) = some row ∧
        misfit (f row) = none ∧ dangling db (f row) = false ∧
        (table db).update? (fun r => Entity.id r == i) f = some t ∧ db' = put t db := by
  unfold updateRow at h
  cases hf : (table (ρ := ρ) db).find? fun r => Entity.id r == i with
  | none =>
      rw [hf] at h
      cases h
      exact .inl ⟨rfl, rfl⟩
  | some row =>
      rw [hf] at h
      cases hm : misfit (f row) with
      | some err => simp [hm] at h
      | none =>
          cases ht : (table (ρ := ρ) db).update? (fun r => Entity.id r == i) f with
          | none => simp [hm, ht] at h
          | some t =>
              simp only [hm, ht] at h
              split at h
              · cases h
              · rename_i fits
                cases h
                exact .inr ⟨row, t, rfl, hm, by simpa using fits, rfl, rfl⟩

end Statements

end Database

namespace World

variable [LawfulTable ρ] {w w' : World}

theorem insert_ok {build : Uuid → Timestamp → ρ} {row : ρ}
    (h : w.insert build = .ok (row, w')) :
    row = build (w.ids 0) w.clock ∧ dangling w.db row = false ∧
      (∀ s ∈ table (ρ := ρ) w.db, conflict row s = false) ∧
      ∃ t : Table ρ, t.rows = (table w.db).rows ++ [row] ∧
        w' = { w with db := put t w.db, ids := fun n => w.ids (n + 1) } := by
  rw [insert_eq] at h
  cases hr : w.db.insertRow (build (w.ids 0) w.clock) with
  | error e => simp [hr, Except.map] at h
  | ok db =>
      rw [hr] at h
      cases h
      obtain ⟨-, fits, t, ht, rfl⟩ := Database.insertRow_ok hr
      obtain ⟨rows, free⟩ := Table.insert?_eq_some ht
      exact ⟨rfl, fits, free, t, rows, rfl⟩

/-- An INSERT is accepted when its row passes every check. -/
theorem insert_iff (build : Uuid → Timestamp → ρ) :
    (∃ row w', w.insert build = .ok (row, w')) ↔
      misfit (build (w.ids 0) w.clock) = none ∧
        dangling w.db (build (w.ids 0) w.clock) = false ∧
        ∀ s ∈ table (ρ := ρ) w.db, conflict (build (w.ids 0) w.clock) s = false := by
  constructor
  · rintro ⟨row, w', h⟩
    obtain ⟨db, inserted, -⟩ := bind_eq_ok.mp h
    obtain ⟨fits, keys, t, ht, -⟩ := Database.insertRow_ok inserted
    exact ⟨fits, keys, (Table.insert?_eq_some ht).2⟩
  · rintro ⟨fits, keys, apart⟩
    obtain ⟨t, ht, -⟩ := Table.insert?_of_free apart
    have inserted : w.db.insertRow (build (w.ids 0) w.clock) = .ok (put t w.db) := by
      unfold Database.insertRow
      simp only [fits, ht, keys, Bool.false_eq_true, if_false]
    exact ⟨_, _, by rw [insert_eq, inserted]; rfl⟩

/-- The rows after an UPDATE by id; the row that it changed passes the foreign keys. -/
theorem update_ok {i : Uuid} {f : ρ → ρ} (h : w.update i f = .ok w') :
    (∀ r ∈ table (ρ := ρ) w.db, Entity.id r = i → dangling w.db (f r) = false) ∧
      ∃ t : Table ρ, (t.rows = (table w.db).rows.map fun r => if Entity.id r == i then
        f r else r) ∧
        w' = { w with db := put t w.db } := by
  rw [update_eq] at h
  cases hr : w.db.updateRow i f with
  | error e => simp [hr, Except.map] at h
  | ok db =>
      rw [hr] at h
      cases h
      rcases Database.updateRow_ok hr with ⟨absent, rfl⟩ | ⟨row, t, found, -, fits, ht, rfl⟩
      · have none_has : ∀ r ∈ table (ρ := ρ) w.db, (Entity.id r == i) = false :=
          Table.find?_eq_none.mp absent
        refine ⟨fun r hr same => ?_, table w.db, ?_, by rw [LawfulTable.put_table]⟩
        · simp only [beq_eq_false_iff_ne] at none_has
          exact absurd same (none_has r hr)
        · refine ((List.map_congr_left fun r hr => ?_).trans (List.map_id _)).symm
          simp [none_has r hr]
      · have stored := Table.mem_of_find? found
        have same : Entity.id row = i := by simpa using Table.holds_of_find? found
        refine ⟨fun r hr hi => ?_, t, Table.update?_eq_some ht, rfl⟩
        rw [Table.eq_of_id hr stored (hi.trans same.symm)]
        exact fits

/-- The rows after an UPDATE of a stored row. -/
theorem update_stored {row : ρ} {f : ρ → ρ} (mem : row ∈ table (ρ := ρ) w.db)
    (h : w.update (Entity.id row) f = .ok w') :
    ∃ t : Table ρ, (t.rows = (table w.db).rows.map fun r =>
      if Entity.id r = Entity.id row then f row else r) ∧ w' = { w with db := put t w.db } := by
  obtain ⟨-, t, rows, rfl⟩ := update_ok h
  refine ⟨t, rows.trans (List.map_congr_left fun r hr => ?_), rfl⟩
  by_cases same : Entity.id r = Entity.id row
  · rw [Table.eq_of_id hr mem same]
    simp
  · simp [same]

theorem update_absent {i : Uuid} {f : ρ → ρ}
    (absent : ∀ r ∈ table (ρ := ρ) w.db, Entity.id r ≠ i) :
    w.update i f = .ok w := by
  have none_has : (table (ρ := ρ) w.db).find? (fun r => Entity.id r == i) = none :=
    Table.find?_eq_none.mpr fun r hr => by simpa using absent r hr
  rw [update_eq, Database.updateRow, none_has]
  rfl

/-- Only the row under the id is computed. -/
theorem update_congr {i : Uuid} {f g : ρ → ρ}
    (same : ∀ r ∈ table (ρ := ρ) w.db, Entity.id r = i → f r = g r) :
    w.update i f = w.update i g := by
  have updated : w.db.updateRow i f = w.db.updateRow i g := by
    have tables := Table.update?_congr (t := table (ρ := ρ) w.db)
      (p := fun r => Entity.id r == i) fun r hr hi => same r hr (beq_iff_eq.mp hi)
    unfold Database.updateRow
    cases found : (table (ρ := ρ) w.db).find? fun r => Entity.id r == i with
    | none => rfl
    | some row =>
        have stored := same row (Table.mem_of_find? found)
          (by simpa using Table.holds_of_find? found)
        simp only [stored, tables]
  rw [update_eq, update_eq, updated]

/-- An UPDATE whose row passes every check. -/
theorem update_of {i : Uuid} {f : ρ → ρ} {row : ρ} (mem : row ∈ table (ρ := ρ) w.db)
    (same : Entity.id row = i) (fits : misfit (f row) = none)
    (keys : dangling w.db (f row) = false)
    (apart : ∀ s ∈ table (ρ := ρ) w.db, Entity.id s ≠ i → conflict (f row) s = false) :
    ∃ w', w.update i f = .ok w' := by
  have one : ∀ r ∈ table (ρ := ρ) w.db, (Entity.id r == i) = true → r = row :=
    fun r hr hi =>
    Table.eq_of_id hr mem ((beq_iff_eq.mp hi).trans same.symm)
  have found : (table (ρ := ρ) w.db).find? (fun r => Entity.id r == i) = some row :=
    Table.find?_of_mem mem (by simp [same]) fun s hs hi => by
      rw [one s hs hi]
      exact Table.conflict_self row
  obtain ⟨t, ht⟩ := Table.update?_of_apart (f := f) one fun s hs hi =>
    apart s hs (by simpa using hi)
  refine ⟨{ w with db := put t w.db }, ?_⟩
  rw [update_eq, Database.updateRow, found]
  simp [fits, ht, keys, Except.map]

/-- An UPDATE of a stored row is accepted when what it makes of the row passes every check. -/
theorem update_iff {i : Uuid} {f : ρ → ρ} {row : ρ} (mem : row ∈ table (ρ := ρ) w.db)
    (same : Entity.id row = i) (keeps : Entity.id (f row) = i) :
    (∃ w', w.update i f = .ok w') ↔ misfit (f row) = none ∧ dangling w.db (f row) = false ∧
      ∀ s ∈ table (ρ := ρ) w.db, Entity.id s ≠ i → conflict (f row) s = false := by
  refine ⟨?_, fun ⟨fits, keys, apart⟩ => update_of mem same fits keys apart⟩
  rintro ⟨w', h⟩
  obtain ⟨db, updated, -⟩ := bind_eq_ok.mp h
  rcases Database.updateRow_ok updated with ⟨absent, -⟩ |
    ⟨found, t, stored, fits, keys, ht, -⟩
  · have passed := Table.find?_eq_none.mp absent row mem
    simp [same] at passed
  · have own : Entity.id found = i := by simpa using Table.holds_of_find? stored
    obtain rfl := Table.eq_of_id (Table.mem_of_find? stored) mem (own.trans same.symm)
    refine ⟨fits, keys, fun s hs other => ?_⟩
    by_contra meets
    have written : f found ∈ t := (Table.mem_update? ht).mpr ⟨found, mem, by simp [own]⟩
    have kept : s ∈ t := (Table.mem_update? ht).mpr ⟨s, hs, by simp [other]⟩
    -- two rows of the new table that conflict are one row
    have one := Table.eq_of_conflict written kept (by simpa using meets)
    exact other (by rw [← one]; exact keeps)

end World
end Tenantory
