import Tenantory.StoredRows

/-! Which tenant owns a row, and the part of the database that one tenant owns. Rows
are never taken out of a table, so that the owner of a stored id stays what it is;
`refs` says that the references of a row name rows of its own tenant. -/

namespace Tenantory

variable {ρ : Type}

/-! ## Owned ids -/

/-- The id is that of a stored row of the tenant. -/
def Table.Owns [Entity ρ] (t : Table ρ) (tenant id : Uuid) : Prop :=
  ∃ r ∈ t, Entity.id r = id ∧ Entity.owner r = tenant

/-- The rows of the tenants that pass. -/
def Table.ofOwners [Entity ρ] (p : Uuid → Bool) (t : Table ρ) : Table ρ :=
  t.only fun r => p (Entity.owner r)

namespace Table

variable [Entity ρ] {t : Table ρ} {A id : Uuid} {r : ρ}

theorem Owns.owner (h : t.Owns A (Entity.id r)) (hr : r ∈ t) : Entity.owner r = A := by
  obtain ⟨s, hs, same, owner⟩ := h
  rw [eq_of_id hr hs same.symm, owner]

theorem owns_of_mem (hr : r ∈ t) : t.Owns (Entity.owner r) (Entity.id r) := ⟨r, hr, rfl, rfl⟩

theorem Owns.find? (h : t.Owns A id) :
    ∃ r ∈ t, t.find? (fun r => Entity.id r == id) = some r ∧ Entity.id r = id ∧
      Entity.owner r = A := by
  obtain ⟨r, hr, same, owner⟩ := h
  refine ⟨r, hr, find?_of_mem hr (by simp [same]) fun s _ hs => ?_, same, owner⟩
  exact Entity.same_id r s (by simp_all)

end Table

namespace Table

variable [Entity ρ] {t : Table ρ} {A : Uuid} {p q : ρ → Bool}

/-- What a query of the tenant selects is in the tenant's part of the table. -/
theorem select_ofOwner (own : ∀ r, p r = true → Entity.owner r = A)
    (same : ∀ r ∈ t, Entity.owner r = A → q r = p r) :
    (t.ofOwners (· == A)).select q = t.select p :=
  select_only (fun r _ passes => by simp [own r passes])
    fun r hr kept => same r hr (by simpa using kept)

theorem find?_ofOwner (own : ∀ r, p r = true → Entity.owner r = A)
    (same : ∀ r ∈ t, Entity.owner r = A → q r = p r) :
    (t.ofOwners (· == A)).find? q = t.find? p :=
  find?_only (fun r _ passes => by simp [own r passes])
    fun r hr kept => same r hr (by simpa using kept)

theorem any_ofOwner (own : ∀ r, p r = true → Entity.owner r = A)
    (same : ∀ r ∈ t, Entity.owner r = A → q r = p r) :
    (t.ofOwners (· == A)).rows.any q = t.rows.any p :=
  any_only (fun r _ passes => by simp [own r passes])
    fun r hr kept => same r hr (by simpa using kept)

end Table

@[simp] theorem owner_category (r : Category) : Entity.owner r = r.tenantId := rfl
@[simp] theorem owner_product (r : Product) : Entity.owner r = r.tenantId := rfl
@[simp] theorem owner_variant (r : ProductVariant) : Entity.owner r = r.tenantId := rfl
@[simp] theorem owner_warehouse (r : Warehouse) : Entity.owner r = r.tenantId := rfl
@[simp] theorem owner_supplier (r : Supplier) : Entity.owner r = r.tenantId := rfl
@[simp] theorem owner_stock (r : StockLevel) : Entity.owner r = r.tenantId := rfl
@[simp] theorem owner_notification (r : Notification) : Entity.owner r = r.tenantId := rfl
@[simp] theorem owner_user (r : User) : Entity.owner r = r.tenantId := rfl

/-! ## The database -/

namespace Database

def ofOwners (p : Uuid → Bool) (db : Database) : Database where
  tenants := db.tenants.ofOwners p
  users := db.users.ofOwners p
  tenantSettings := db.tenantSettings.ofOwners p
  categories := db.categories.ofOwners p
  products := db.products.ofOwners p
  variants := db.variants.ofOwners p
  warehouses := db.warehouses.ofOwners p
  suppliers := db.suppliers.ofOwners p
  stockLevels := db.stockLevels.ofOwners p
  mediaAssets := db.mediaAssets.ofOwners p
  notifications := db.notifications.ofOwners p

/-- Every stored id is still stored, with the owner it had. -/
structure Extends (db db' : Database) : Prop where
  users : ∀ A id, db.users.Owns A id → db'.users.Owns A id
  categories : ∀ A id, db.categories.Owns A id → db'.categories.Owns A id
  products : ∀ A id, db.products.Owns A id → db'.products.Owns A id
  variants : ∀ A id, db.variants.Owns A id → db'.variants.Owns A id
  warehouses : ∀ A id, db.warehouses.Owns A id → db'.warehouses.Owns A id
  suppliers : ∀ A id, db.suppliers.Owns A id → db'.suppliers.Owns A id
  stockLevels : ∀ A id, db.stockLevels.Owns A id → db'.stockLevels.Owns A id

theorem Extends.refl (db : Database) : db.Extends db :=
  ⟨fun _ _ h => h, fun _ _ h => h, fun _ _ h => h, fun _ _ h => h, fun _ _ h => h,
    fun _ _ h => h, fun _ _ h => h⟩

theorem Extends.trans {a b c : Database} (h : a.Extends b) (h' : b.Extends c) : a.Extends c :=
  ⟨fun A id o => h'.users A id (h.users A id o),
    fun A id o => h'.categories A id (h.categories A id o),
    fun A id o => h'.products A id (h.products A id o),
    fun A id o => h'.variants A id (h.variants A id o),
    fun A id o => h'.warehouses A id (h.warehouses A id o),
    fun A id o => h'.suppliers A id (h.suppliers A id o),
    fun A id o => h'.stockLevels A id (h.stockLevels A id o)⟩

/-- No row of the tables that the services insert into has the id. -/
structure Unused (db : Database) (id : Uuid) : Prop where
  categories : ∀ r ∈ db.categories, r.id ≠ id
  products : ∀ r ∈ db.products, r.id ≠ id
  variants : ∀ r ∈ db.variants, r.id ≠ id
  warehouses : ∀ r ∈ db.warehouses, r.id ≠ id
  suppliers : ∀ r ∈ db.suppliers, r.id ≠ id
  stockLevels : ∀ r ∈ db.stockLevels, r.id ≠ id
  notifications : ∀ r ∈ db.notifications, r.id ≠ id

instance (db : Database) (id : Uuid) : Decidable (db.Unused id) :=
  decidable_of_iff ((∀ r ∈ db.categories.rows, r.id ≠ id) ∧
    (∀ r ∈ db.products.rows, r.id ≠ id) ∧
      (∀ r ∈ db.variants.rows, r.id ≠ id) ∧ (∀ r ∈ db.warehouses.rows, r.id ≠ id) ∧
      (∀ r ∈ db.suppliers.rows, r.id ≠ id) ∧
        (∀ r ∈ db.stockLevels.rows, r.id ≠ id) ∧
      ∀ r ∈ db.notifications.rows, r.id ≠ id)
    ⟨fun ⟨a, b, c, d, e, f, g⟩ => ⟨a, b, c, d, e, f, g⟩,
      fun h => ⟨h.categories, h.products, h.variants, h.warehouses, h.suppliers, h.stockLevels,
        h.notifications⟩⟩

/-- References do not cross tenants. -/
structure Isolated (db : Database) : Prop where
  parent : ∀ c ∈ db.categories, ∀ p, c.parentId = some p → db.categories.Owns c.tenantId p
  category : ∀ p ∈ db.products, db.categories.Owns p.tenantId p.categoryId
  product : ∀ v ∈ db.variants, db.products.Owns v.tenantId v.productId
  variant : ∀ s ∈ db.stockLevels, db.variants.Owns s.tenantId s.variantId
  warehouse : ∀ s ∈ db.stockLevels, db.warehouses.Owns s.tenantId s.warehouseId

end Database

/-! ## Tables of owned rows -/

/-- A table whose rows are kept apart, across tenants, by their ids alone. -/
class Owned (ρ : Type) extends LawfulTable ρ where
  apart : ∀ r s : ρ, owner r ≠ owner s → id r ≠ id s → conflict r s = false
  /-- the references of the row name rows of its tenant -/
  refs : Database → ρ → Prop
  refs_mono : ∀ {db db' : Database} {r : ρ}, db.Extends db' → refs db r → refs db' r
  dangling_ofOwners : ∀ {p : Uuid → Bool} {db : Database} {r : ρ}, p (owner r) = true →
    refs db r → dangling (db.ofOwners p) r = dangling db r
  table_ofOwners : ∀ p db, table (db.ofOwners p) = (table db).ofOwners p
  put_ofOwners : ∀ p t db, (put t db).ofOwners p = put (t.ofOwners p) (db.ofOwners p)
  extends_put : ∀ {t db}, (∀ A i, (table db).Owns A i → t.Owns A i) → db.Extends (put t db)
  isolated_put : ∀ {t db}, db.Isolated → db.Extends (put t db) →
    (∀ r ∈ t, r ∈ table db ∨ refs (put t db) r) → (put t db).Isolated
  unused_table : ∀ {db : Database} {i}, db.Unused i → ∀ r ∈ table db, id r ≠ i
  unused_put : ∀ {t db i}, db.Unused i → (∀ r ∈ t, id r ≠ i) → (put t db).Unused i

theorem hasTenant_ofOwners {p : Uuid → Bool} {db : Database} {A : Uuid} (h : p A = true) :
    hasTenant (db.ofOwners p) A = hasTenant db A :=
  Table.any_only (fun r _ found => by
    have same : r.id = A := by simpa using found
    show p r.id = true
    rw [same, h]) fun _ _ _ => rfl

/-- A reference to an owned row finds it among the rows of its tenant. -/
theorem Table.Owns.any_ofOwners [Entity ρ] {t : Table ρ} {p : Uuid → Bool} {A i : Uuid}
    (h : t.Owns A i) (kept : p A = true) :
    ((t.ofOwners p).rows.any fun r => Entity.id r == i) = t.rows.any fun r => Entity.id r == i :=
  Table.any_only (fun r hr found => by
    have same : Entity.id r = i := by simpa using found
    show p (Entity.owner r) = true
    rw [Table.Owns.owner (same ▸ h) hr, kept]) fun _ _ _ => rfl

instance : Owned Category where
  apart r s owners ids := by
    have owners : ¬ r.tenantId = s.tenantId := owners
    have ids : ¬ r.id = s.id := ids
    simp [conflict, owners, ids]
  refs db r := ∀ parent, r.parentId = some parent → db.categories.Owns r.tenantId parent
  refs_mono ext h parent hp := ext.categories _ _ (h parent hp)
  dangling_ofOwners {p db r} kept h := by
    have parent : (r.parentId.any fun parent =>
          !(db.ofOwners p).categories.rows.any fun c => c.id == parent) =
        r.parentId.any fun parent => !db.categories.rows.any fun c => c.id == parent := by
      cases hp : r.parentId with
      | none => rfl
      | some parent =>
          exact congrArg (!·) ((h parent hp).any_ofOwners kept)
    have tenant : hasTenant (db.ofOwners p) r.tenantId = hasTenant db r.tenantId :=
      hasTenant_ofOwners kept
    show (!_ || _) = (!_ || _)
    rw [tenant, parent]
  table_ofOwners _ _ := rfl
  put_ofOwners _ _ _ := rfl
  extends_put {t db} h := { Database.Extends.refl db with categories := h }
  isolated_put {t db} iso ext h := {
    parent := fun c hc p hp => by
      rcases h c hc with old | fits
      · exact ext.categories _ _ (iso.parent c old p hp)
      · exact fits p hp
    category := fun p hp => ext.categories _ _ (iso.category p hp)
    product := iso.product
    variant := iso.variant
    warehouse := iso.warehouse }
  unused_table h := h.categories
  unused_put h fresh := { h with categories := fresh }

instance : Owned Product where
  apart r s _ ids := by
    have ids : ¬ r.id = s.id := ids
    simp [conflict, ids]
  refs db r := db.categories.Owns r.tenantId r.categoryId
  refs_mono ext h := ext.categories _ _ h
  dangling_ofOwners kept h := by
    show (!_ || !_) = (!_ || !_)
    exact congrArg₂ (fun a b => !a || !b) (hasTenant_ofOwners kept) (h.any_ofOwners kept)
  table_ofOwners _ _ := rfl
  put_ofOwners _ _ _ := rfl
  extends_put {t db} h := { Database.Extends.refl db with products := h }
  isolated_put {t db} iso ext h := {
    parent := iso.parent
    category := fun p hp => by
      rcases h p hp with old | fits
      · exact ext.categories _ _ (iso.category p old)
      · exact fits
    product := fun v hv => ext.products _ _ (iso.product v hv)
    variant := iso.variant
    warehouse := iso.warehouse }
  unused_table h := h.products
  unused_put h fresh := { h with products := fresh }

instance : Owned ProductVariant where
  apart r s owners ids := by
    have owners : ¬ r.tenantId = s.tenantId := owners
    have ids : ¬ r.id = s.id := ids
    simp [conflict, owners, ids]
  refs db r := db.products.Owns r.tenantId r.productId
  refs_mono ext h := ext.products _ _ h
  dangling_ofOwners kept h := by
    show (!_ || !_) = (!_ || !_)
    exact congrArg₂ (fun a b => !a || !b) (hasTenant_ofOwners kept) (h.any_ofOwners kept)
  table_ofOwners _ _ := rfl
  put_ofOwners _ _ _ := rfl
  extends_put {t db} h := { Database.Extends.refl db with variants := h }
  isolated_put {t db} iso ext h := {
    parent := iso.parent
    category := iso.category
    product := fun v hv => by
      rcases h v hv with old | fits
      · exact ext.products _ _ (iso.product v old)
      · exact fits
    variant := fun s hs => ext.variants _ _ (iso.variant s hs)
    warehouse := iso.warehouse }
  unused_table h := h.variants
  unused_put h fresh := { h with variants := fresh }

instance : Owned Warehouse where
  apart r s _ ids := by
    have ids : ¬ r.id = s.id := ids
    simp [conflict, ids]
  refs _ _ := True
  refs_mono _ _ := trivial
  dangling_ofOwners kept _ := congrArg (!·) (hasTenant_ofOwners kept)
  table_ofOwners _ _ := rfl
  put_ofOwners _ _ _ := rfl
  extends_put {t db} h := { Database.Extends.refl db with warehouses := h }
  isolated_put {t db} iso ext _ :=
    { iso with warehouse := fun s hs => ext.warehouses _ _ (iso.warehouse s hs) }
  unused_table h := h.warehouses
  unused_put h fresh := { h with warehouses := fresh }

instance : Owned Supplier where
  apart r s _ ids := by
    have ids : ¬ r.id = s.id := ids
    simp [conflict, ids]
  refs _ _ := True
  refs_mono _ _ := trivial
  dangling_ofOwners kept _ := congrArg (!·) (hasTenant_ofOwners kept)
  table_ofOwners _ _ := rfl
  put_ofOwners _ _ _ := rfl
  extends_put {t db} h := { Database.Extends.refl db with suppliers := h }
  isolated_put {t db} iso _ _ := { iso with }
  unused_table h := h.suppliers
  unused_put h fresh := { h with suppliers := fresh }

instance : Owned Notification where
  apart r s _ ids := by
    have ids : ¬ r.id = s.id := ids
    simp [conflict, ids]
  refs db r := db.users.Owns r.tenantId r.recipientId
  refs_mono ext h := ext.users _ _ h
  dangling_ofOwners kept h := by
    show (!_ || !_) = (!_ || !_)
    exact congrArg₂ (fun a b => !a || !b) (hasTenant_ofOwners kept) (h.any_ofOwners kept)
  table_ofOwners _ _ := rfl
  put_ofOwners _ _ _ := rfl
  extends_put {t db} _ := { Database.Extends.refl db with }
  isolated_put {t db} iso _ _ := { iso with }
  unused_table h := h.notifications
  unused_put h fresh := { h with notifications := fresh }

/-! ## Statements of one tenant -/

namespace Database

variable [Owned ρ] {db db' : Database} {A i : Uuid} {row : ρ}

open Stored LawfulTable Owned

/-- The part of the database that the tenant owns. -/
def restrict (A : Uuid) (db : Database) : Database := db.ofOwners (· == A)

/-- The part that the other tenants own. -/
def outside (A : Uuid) (db : Database) : Database := db.ofOwners (· != A)

theorem ofOwners_ofOwners (p : Uuid → Bool) (db : Database) :
    (db.ofOwners p).ofOwners p = db.ofOwners p := by
  have twice : ∀ {ρ : Type} [Entity ρ] (t : Table ρ),
    (t.ofOwners p).ofOwners p = t.ofOwners p :=
    fun t => Table.rows_inj (by simp [Table.ofOwners, List.filter_filter])
  simp only [ofOwners, twice]

@[simp] theorem restrict_restrict (A : Uuid) (db : Database) :
    (db.restrict A).restrict A = db.restrict A := ofOwners_ofOwners _ db

/-- What a statement of tenant `A` makes of a database. -/
structure Grown (A : Uuid) (db db' : Database) : Prop where
  outside : db'.outside A = db.outside A
  extend : db.Extends db'
  isolated : db.Isolated → db'.Isolated

theorem Grown.refl (A : Uuid) (db : Database) : Grown A db db := ⟨rfl, .refl db, fun h => h⟩

theorem Grown.trans {a b c : Database} (h : Grown A a b) (h' : Grown A b c) : Grown A a c :=
  ⟨h'.outside.trans h.outside, h.extend.trans h'.extend, fun iso =>
    h'.isolated (h.isolated iso)⟩

theorem insertRow_restrict (owner : Entity.owner row = A)
    (fresh : ∀ s ∈ table (ρ := ρ) db, Entity.id s ≠ Entity.id row) (fits : refs db row) :
    insertRow row (db.restrict A) = (insertRow row db).map (restrict A) := by
  have kept : (Entity.owner row == A) = true := by simp [owner]
  have sub : table (ρ := ρ) (db.restrict A) = (table db).ofOwners (· == A) := table_ofOwners _ _
  have same : ((table (ρ := ρ) db).ofOwners (· == A)).insert? row =
      ((table db).insert? row).map (Table.ofOwners (· == A)) := by
    refine Table.insert?_only kept fun s hs out => ?_
    have foreign : Entity.owner s ≠ A := by simpa using out
    exact apart row s (by rw [owner]; exact foreign.symm) (fresh s hs).symm
  have refers : dangling (db.restrict A) row = dangling db row := dangling_ofOwners kept fits
  unfold insertRow
  cases misfit row with
  | some err => rfl
  | none =>
      rw [sub, same]
      cases (table (ρ := ρ) db).insert? row with
      | none => rfl
      | some t =>
          show (if dangling (db.restrict A) row then _ else Except.ok _) = _
          rw [refers]
          cases dangling db row with
          | true => rfl
          | false => exact congrArg Except.ok (put_ofOwners (ρ := ρ) _ _ _).symm

/-- A row put into its table extends the database by itself. -/
theorem extends_insert {t : Table ρ} (h : (table db).insert? row = some t) :
    db.Extends (put t db) :=
  extends_put fun _ _ ⟨r, hr, same, owner⟩ =>
    ⟨r, (Table.mem_insert? h).mpr (.inl hr), same, owner⟩

theorem insertRow_grown (h : insertRow row db = .ok db') (owner : Entity.owner row = A)
    (fits : refs db row) : Grown A db db' := by
  obtain ⟨-, -, t, ht, rfl⟩ := insertRow_ok h
  have ext := extends_insert ht
  refine ⟨?_, ext, fun iso => isolated_put iso ext fun r hr => ?_⟩
  · have out : t.ofOwners (· != A) = (table db).ofOwners (· != A) :=
      Table.only_of_insert? (by simp [owner]) ht
    show (put t db).ofOwners _ = db.ofOwners _
    rw [put_ofOwners, out, ← table_ofOwners, put_table]
  · rcases (Table.mem_insert? ht).mp hr with old | rfl
    · exact .inl old
    · exact .inr (refs_mono ext fits)

theorem insertRow_unused (h : insertRow row db = .ok db') (fresh : Entity.id row ≠ i)
    (unused : db.Unused i) : db'.Unused i := by
  obtain ⟨-, -, t, ht, rfl⟩ := insertRow_ok h
  refine unused_put unused fun r hr => ?_
  rcases (Table.mem_insert? ht).mp hr with old | rfl
  · exact unused_table unused r old
  · exact fresh

/-- An UPDATE of one row that keeps its id, its tenant and the tenant of its references. -/
structure Rewrites (A i : Uuid) (f : ρ → ρ) (db : Database) : Prop where
  owner : ∀ r ∈ table (ρ := ρ) db, Entity.id r = i → Entity.owner r = A
  keeps_id : ∀ r ∈ table (ρ := ρ) db, Entity.id r = i → Entity.id (f r) = i
  keeps_owner : ∀ r ∈ table (ρ := ρ) db, Entity.id r = i → Entity.owner (f r) = A
  fits : ∀ r ∈ table (ρ := ρ) db, Entity.id r = i → refs db (f r)

variable {f : ρ → ρ}

theorem updateRow_restrict (h : Rewrites A i f db) :
    updateRow i f (db.restrict A) = (updateRow i f db).map (restrict A) := by
  have sub : table (ρ := ρ) (db.restrict A) = (table db).ofOwners (· == A) := table_ofOwners _ _
  have within : ∀ r ∈ table (ρ := ρ) db, (Entity.id r == i) = true →
      (Entity.owner r == A) = true := fun r hr found => by
        simp [h.owner r hr (by simpa using found)]
  have found : ((table (ρ := ρ) db).ofOwners (· == A)).find? (fun r => Entity.id r == i) =
      (table db).find? fun r => Entity.id r == i := Table.find?_only within fun _ _ _ => rfl
  unfold updateRow
  rw [sub, found]
  cases hr : (table (ρ := ρ) db).find? fun r => Entity.id r == i with
  | none => rfl
  | some row =>
      have mem := Table.mem_of_find? hr
      have id : Entity.id row = i := by simpa using Table.holds_of_find? hr
      have same : ((table (ρ := ρ) db).ofOwners (· == A)).update? (fun r => Entity.id r == i) f =
          ((table db).update? (fun r => Entity.id r == i) f).map (Table.ofOwners (· == A)) := by
        refine Table.update?_only f within (fun r hr found => ?_) fun r hr found s hs out => ?_
        · simp [h.keeps_owner r hr (by simpa using found)]
        · have foreign : Entity.owner s ≠ A := by simpa using out
          refine apart _ s (by rw [h.keeps_owner r hr (by simpa using found)]; exact foreign.symm)
            ?_
          intro eq
          rw [h.keeps_id r hr (by simpa using found)] at eq
          exact foreign (h.owner s hs eq.symm)
      have refers : dangling (db.restrict A) (f row) = dangling db (f row) :=
        dangling_ofOwners (by simp [h.keeps_owner row mem id]) (h.fits row mem id)
      dsimp only
      cases misfit (f row) with
      | some err => rfl
      | none =>
          rw [same]
          cases (table (ρ := ρ) db).update? (fun r => Entity.id r == i) f with
          | none => rfl
          | some t =>
              show (if dangling (db.restrict A) (f row) then _ else Except.ok _) = _
              rw [refers]
              cases dangling db (f row) with
              | true => rfl
              | false => exact congrArg Except.ok (put_ofOwners (ρ := ρ) _ _ _).symm

theorem updateRow_grown (h : updateRow i f db = .ok db') (rewrites : Rewrites A i f db) :
    Grown A db db' := by
  rcases updateRow_ok h with ⟨-, rfl⟩ | ⟨-, t, -, -, -, ht, rfl⟩
  · exact .refl A _
  have ext : db.Extends (put t db) := by
    refine extends_put fun B j ⟨r, hr, same, owner⟩ => ?_
    by_cases hi : Entity.id r = i
    · refine ⟨f r, (Table.mem_update? ht).mpr ⟨r, hr, by simp [hi]⟩, ?_, ?_⟩
      · rw [rewrites.keeps_id r hr hi, ← hi, same]
      · rw [rewrites.keeps_owner r hr hi, ← rewrites.owner r hr hi, owner]
    · exact ⟨r, (Table.mem_update? ht).mpr ⟨r, hr, by simp [hi]⟩, same, owner⟩
  refine ⟨?_, ext, fun iso => isolated_put iso ext fun r hr => ?_⟩
  · have out : t.ofOwners (· != A) = (table db).ofOwners (· != A) :=
      Table.only_of_update?
        (fun r hr found => by simp [rewrites.owner r hr (by simpa using found)])
        (fun r hr found => by simp [rewrites.keeps_owner r hr (by simpa using found)]) ht
    show (put t db).ofOwners _ = db.ofOwners _
    rw [put_ofOwners, out, ← table_ofOwners, put_table]
  · obtain ⟨old, hold, rfl⟩ := (Table.mem_update? ht).mp hr
    by_cases hi : Entity.id old = i
    · simp only [hi, beq_self_eq_true, if_true]
      exact .inr (refs_mono ext (rewrites.fits old hold hi))
    · simp only [beq_iff_eq, hi, if_false]
      exact .inl hold

end Database
end Tenantory
