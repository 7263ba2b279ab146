import Tenantory.ConfinedProducts
import Tenantory.ConfinedStores
import Tenantory.StockListing

/-! The stock list is confined to the tenant that it is called for when its sort text is:
the text is an expression of the server, which may read what it likes. -/

namespace Tenantory

open UuidText Stored Owned Svc

/-- The values that the sort text gives to rows of the tenant depend on the tenant's rows
only, wherever references do not cross tenants. -/
def StockQueryDto.SortsWithin (platform : Platform) (A : Uuid) (query : StockQueryDto) : Prop :=
  ∀ place text value, InventoryService.truthy query.sortBy = some text →
    platform.sortText place text = .ok value → ∀ db : Database, db.Isolated →
      ∀ row ∈ db.stockLevels, row.tenantId = A → value (db.restrict A) row = value db row

section Restricted

variable {A : Uuid} {db : Database}

theorem liveVariant_restrict {id : Uuid} (own : db.variants.Owns A id) :
    (db.restrict A).liveVariant id = db.liveVariant id := by
  refine Table.any_only (fun r mem h => ?_) fun _ _ _ => rfl
  have named : r.id = id := beq_iff_eq.mp (Bool.and_eq_true_iff.mp h).1
  subst named
  exact beq_iff_eq.mpr (Table.Owns.owner own mem)

theorem liveWarehouse_restrict {id : Uuid} (own : db.warehouses.Owns A id) :
    (db.restrict A).liveWarehouse id = db.liveWarehouse id := by
  refine Table.any_only (fun r mem h => ?_) fun _ _ _ => rfl
  have named : r.id = id := beq_iff_eq.mp (Bool.and_eq_true_iff.mp h).1
  subst named
  exact beq_iff_eq.mpr (Table.Owns.owner own mem)

end Restricted

namespace InventoryService

section List

variable {A : Uuid} {platform : Platform} {query : StockQueryDto} {db : Database}

/-- A row of the tenant that the database has. -/
def OwnRow (A : Uuid) (db : Database) (row : StockLevel) : Prop :=
  row ∈ db.stockLevels ∧ row.tenantId = A

theorem matching_restrict (isolated : db.Isolated) (variant warehouse : Option Uuid) :
    matching A variant warehouse (db.restrict A) = matching A variant warehouse db := by
  refine Table.select_ofOwner (fun r h => ?_) fun r mem owner => ?_
  · simp only [Bool.and_eq_true, beq_iff_eq] at h
    exact h.1.1
  · have owner : r.tenantId = A := owner
    have variants : (variant.all fun id => r.variantId == id && (db.restrict A).liveVariant id) =
        variant.all fun id => r.variantId == id && db.liveVariant id := by
      cases variant with
      | none => rfl
      | some id =>
          by_cases same : r.variantId = id
          · subst same
            exact congrArg (_ && ·) (liveVariant_restrict (owner ▸ isolated.variant r mem))
          · have other : (r.variantId == id) = false := beq_eq_false_iff_ne.mpr same
            simp only [Option.all_some, other, Bool.false_and]
    have warehouses : (warehouse.all fun id =>
          r.warehouseId == id && (db.restrict A).liveWarehouse id) =
        warehouse.all fun id => r.warehouseId == id && db.liveWarehouse id := by
      cases warehouse with
      | none => rfl
      | some id =>
          by_cases same : r.warehouseId = id
          · subst same
            exact congrArg (_ && ·) (liveWarehouse_restrict (owner ▸ isolated.warehouse r mem))
          · have other : (r.warehouseId == id) = false := beq_eq_false_iff_ne.mpr same
            simp only [Option.all_some, other, Bool.false_and]
    rw [variants, warehouses]

theorem matching_own {variant warehouse : Option Uuid} {row : StockLevel}
    (mem : row ∈ matching A variant warehouse db) : OwnRow A db row := by
  obtain ⟨stored, h⟩ := List.mem_filter.mp mem
  simp only [Bool.and_eq_true, beq_iff_eq] at h
  exact ⟨stored, h.1.1⟩

theorem mapM_congr {ε α β : Type} {f g : α → Except ε β} {l : List α}
    (same : ∀ a ∈ l, f a = g a) : l.mapM f = l.mapM g := by
  induction l with
  | nil => rfl
  | cons a l ih =>
      rw [List.mapM_cons, List.mapM_cons, same a List.mem_cons_self,
        ih fun b mem => same b (List.mem_cons_of_mem a mem)]

theorem orderByText_restrict (sorts : query.SortsWithin platform A) (isolated : db.Isolated)
    (ties : Uuid → ℕ) (order : SortOrder) (place : SortPlace) {rows : List StockLevel}
    (own : ∀ r ∈ rows, OwnRow A db r) :
    orderByText platform ties order place (truthy query.sortBy) (db.restrict A) rows =
      orderByText platform ties order place (truthy query.sortBy) db rows := by
  unfold orderByText
  cases named : truthy query.sortBy with
  | none => rfl
  | some text =>
      dsimp only
      cases read : platform.sortText place text with
      | error e => rfl
      | ok value =>
          simp only [bind_ok]
          refine congrArg (· >>= _) (mapM_congr fun r mem => ?_)
          rw [sorts place text value named read db isolated r (own r mem).1 (own r mem).2]

theorem mem_of_orderByText {ties : Uuid → ℕ} {order : SortOrder} {place : SortPlace}
    {sortBy : Option String} {rows sorted : List StockLevel}
    (h : orderByText platform ties order place sortBy db rows = .ok sorted) :
    ∀ r ∈ sorted, r ∈ rows := by
  intro r mem
  unfold orderByText at h
  cases sortBy with
  | none =>
      cases h
      exact (perm_orderBy platform ties order unordered rows).mem_iff.mp mem
  | some text =>
      obtain ⟨value, -, h⟩ := bind_eq_ok.mp h
      obtain ⟨keys, -, h⟩ := bind_eq_ok.mp h
      cases h
      exact (perm_orderBy platform ties order _ rows).mem_iff.mp mem

theorem orderDistinct_restrict (sorts : query.SortsWithin platform A) (isolated : db.Isolated)
    (ties : Uuid → ℕ) (order : SortOrder) (variant warehouse : Bool) {rows : List StockLevel}
    (own : ∀ r ∈ rows, OwnRow A db r) :
    orderDistinct platform ties order variant warehouse (truthy query.sortBy) (db.restrict A) rows =
      orderDistinct platform ties order variant warehouse (truthy query.sortBy) db rows := by
  unfold orderDistinct
  split
  · rfl
  · exact orderByText_restrict sorts isolated ties order .distinct own

theorem mem_of_orderDistinct {ties : Uuid → ℕ} {order : SortOrder} {variant warehouse : Bool}
    {sortBy : Option String} {rows sorted : List StockLevel}
    (h : orderDistinct platform ties order variant warehouse sortBy db rows = .ok sorted) :
    ∀ r ∈ sorted, r ∈ rows := by
  unfold orderDistinct at h
  split at h
  · obtain ⟨key, -, h⟩ := bind_eq_ok.mp h
    cases h
    exact fun r mem => (perm_orderBy platform ties order key rows).mem_iff.mp mem
  · exact mem_of_orderByText h

theorem view_restrict (isolated : db.Isolated) (variant warehouse : Bool) {row : StockLevel}
    (own : OwnRow A db row) :
    view (db.restrict A) variant warehouse row = view db variant warehouse row := by
  have variants : ((db.restrict A).variants.find? fun v => v.id == row.variantId && v.live) =
      db.variants.find? fun v => v.id == row.variantId && v.live := by
    refine Table.find?_only (fun r mem h => ?_) fun _ _ _ => rfl
    have named : r.id = row.variantId := beq_iff_eq.mp (Bool.and_eq_true_iff.mp h).1
    have refers := isolated.variant row own.1
    rw [own.2, ← named] at refers
    exact beq_iff_eq.mpr (Table.Owns.owner refers mem)
  have warehouses : ((db.restrict A).warehouses.find? fun h => h.id == row.warehouseId && h.live) =
      db.warehouses.find? fun h => h.id == row.warehouseId && h.live := by
    refine Table.find?_only (fun r mem h => ?_) fun _ _ _ => rfl
    have named : r.id = row.warehouseId := beq_iff_eq.mp (Bool.and_eq_true_iff.mp h).1
    have refers := isolated.warehouse row own.1
    rw [own.2, ← named] at refers
    exact beq_iff_eq.mpr (Table.Owns.owner refers mem)
  unfold view
  rw [variants, warehouses]

/-- A page of the ordered rows, with what the query has joined. -/
theorem page_restrict (sorts : query.SortsWithin platform A) (isolated : db.Isolated)
    (ties : Uuid → ℕ) (order : SortOrder) (place : SortPlace) (variant warehouse : Bool)
    {rows : List StockLevel} (own : ∀ r ∈ rows, OwnRow A db r)
    (cut : List StockLevel → List StockLevel)
    (part : ∀ sorted, cut sorted ⊆ sorted) (count : ℕ) :
    (orderByText platform ties order place (truthy query.sortBy) (db.restrict A) rows >>=
        fun sorted => pure ((cut sorted).map (view (db.restrict A) variant warehouse), count)) =
      orderByText platform ties order place (truthy query.sortBy) db rows >>=
        fun sorted => pure ((cut sorted).map (view db variant warehouse), count) := by
  rw [orderByText_restrict sorts isolated ties order place own]
  cases made : orderByText platform ties order place (truthy query.sortBy) db rows with
  | error e => rfl
  | ok sorted =>
      refine congrArg (fun views => Except.ok (views, count)) (List.map_congr_left fun r mem => ?_)
      exact view_restrict isolated variant warehouse
        (own r (mem_of_orderByText made r (part _ mem)))

theorem window_subset {α : Type} (skip limit : ℕ) (rows : List α) :
    window skip (some limit) rows ⊆ rows :=
  fun _ mem => List.mem_of_mem_drop (List.mem_of_mem_take mem)

theorem readPage_restrict (sorts : query.SortsWithin platform A) (skip limit : ℕ)
    (ties : Uuid → ℕ) {w : World} (isolated : w.db.Isolated) :
    readPage platform (uuidOut A) query skip limit ties (w.restrict A) =
      readPage platform (uuidOut A) query skip limit ties w := by
  unfold readPage
  dsimp only
  rw [uuidParam_uuidOut]
  cases direction query.sortOrder with
  | error e => rfl
  | ok order =>
      cases (truthy query.variantId).mapM uuidParam with
      | error e => rfl
      | ok variant =>
          cases (truthy query.warehouseId).mapM uuidParam with
          | error e => rfl
          | ok warehouse =>
              have own : ∀ r ∈ matching A variant warehouse w.db, OwnRow A w.db r :=
                fun r mem => matching_own mem
              simp only [bind_ok, World.restrict_db, matching_restrict isolated]
              split
              · rw [orderDistinct_restrict sorts isolated ties order _ _ own]
                cases made : orderDistinct platform ties order (truthy query.variantId).isSome
                    (truthy query.warehouseId).isSome (truthy query.sortBy) w.db
                    (matching A variant warehouse w.db) with
                | error e => rfl
                | ok sorted =>
                    simp only [bind_ok]
                    split
                    · rfl
                    · refine page_restrict sorts isolated ties order .joined _ _ (fun r mem => ?_)
                        (fun sorted => sorted) (fun sorted => List.Subset.refl sorted) _
                      exact own r (mem_of_orderDistinct made r (window_subset _ _ _ mem))
              · exact page_restrict sorts isolated ties order .alone false false own _
                  (window_subset skip limit) _

theorem within_findAll {P : Fact} (sorts : query.SortsWithin platform A) :
    Svc.Within A P (findAll platform (uuidOut A) query) fun _ => .none :=
  (within_listing fun _ sound _ ties => readPage_restrict sorts _ _ ties sound.isolated).bind
    fun _ => within_pure fun _ _ => trivial

end List
end InventoryService
end Tenantory
