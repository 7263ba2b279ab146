import Tenantory.EntityWalks
import Tenantory.LogWalks
import Tenantory.OrderClauses

/-! What the lists make of their ORDER BY clauses: the rows from which a page is cut stand in the
order that the calls of `orderBy` and `addOrderBy` ask. -/

namespace Tenantory

open PagedLists UuidText

variable {ρ σ : Type} {platform : Platform}

/-! ## Columns by the texts of the clauses -/

def CategoryService.columnKeys : List (String × (Category → SortValue)) :=
  [("category.name", sortColumn .name), ("category.created_at", sortColumn .createdAt),
    ("category.updated_at", sortColumn .updatedAt)]

def ProductService.columnKeys : List (String × (Product → SortValue)) :=
  [("p.name", sortColumn .name), ("p.created_at", sortColumn .createdAt),
    ("p.updated_at", sortColumn .updatedAt)]

def VariantService.columnKeys : List (String × (ProductVariant → SortValue)) :=
  [("v.sku", sortColumn .sku), ("v.price", sortColumn .price),
    ("v.created_at", sortColumn .createdAt), ("v.updated_at", sortColumn .updatedAt)]

def WarehouseService.columnKeys : List (String × (Warehouse → SortValue)) :=
  [("w.name", sortColumn .name), ("w.created_at", sortColumn .createdAt),
    ("w.updated_at", sortColumn .updatedAt)]

def SupplierService.columnKeys : List (String × (Supplier → SortValue)) :=
  [("s.company_name", sortColumn .companyName), ("s.lead_time_days", sortColumn .leadTimeDays),
    ("s.created_at", sortColumn .createdAt), ("s.updated_at", sortColumn .updatedAt)]

def AuditService.columnKeys : List (String × (Audit → SortValue)) :=
  [("log.created_at", fun log => .number log.createdAt),
    ("log.id", fun log => .number log.id.toNat)]

def NotificationService.columnKeys : List (String × (Notification → SortValue)) :=
  [("notification.created_at", fun n => .number n.createdAt),
    ("notification.id", fun n => .number n.id.toNat)]

/-! ## The order that the calls ask -/

namespace OrderBy

/-- The key and the direction of a call. The query builder leaves a column of `undefined` out,
and it orders upwards where it is given no direction. -/
def key (columns : List (String × (ρ → SortValue))) (call : OrderBy) :
    Option ((ρ → SortValue) × SortOrder) := do
  let column ← call.sort.elim (some unordered) fun text => columns.lookup text
  let order ← (InventoryService.direction call.order).toOption
  some (column, order)

/-- `r` may stand before `s`. A call decides where those before it leave the rows equal. -/
def Admits (platform : Platform) (columns : List (String × (ρ → SortValue))) :
    List OrderBy → ρ → ρ → Prop
  | [], _, _ => True
  | call :: calls, r, s => ∃ column order, call.key columns = some (column, order) ∧
      platform.sorts order column r s = true ∧
      (platform.sorts order column s r = true → Admits platform columns calls r s)

theorem direction_text (order : SortOrder) :
    (InventoryService.direction (some order.text)).toOption = some order := by
  cases order <;> rfl

theorem direction_map (order : Option SortOrder) :
    (InventoryService.direction (order.map SortOrder.text)).toOption = some (order.getD .asc) := by
  cases order with
  | none => rfl
  | some order => exact direction_text order

theorem key_eq {columns : List (String × (ρ → SortValue))} {call : OrderBy}
    {column : ρ → SortValue}
    {order : SortOrder}
    (found : (call.sort.elim (some unordered) fun text => columns.lookup text) = some column)
    (directed : (InventoryService.direction call.order).toOption = some order) :
    call.key columns = some (column, order) := by
  rw [key, found, directed]
  rfl

/-- A single call is met by ORDER BY with its key. -/
theorem admits_single [Entity ρ] (ordered : platform.Ordered)
    {columns : List (String × (ρ → SortValue))} {call : OrderBy} {column : ρ → SortValue}
    {order : SortOrder} (read : call.key columns = some (column, order)) (ties : Uuid → ℕ)
    (rows : List ρ) :
    (platform.orderBy ties order column rows).Pairwise (Admits platform columns [call]) :=
  (Platform.arrangement_orderBy ordered ties order column rows).sorted.imp fun first =>
    ⟨column, order, read, first, fun _ => trivial⟩

/-- Calls by a date and an identifier, both downwards, are met by newer rows first. -/
theorem admits_newer [Entity ρ] {columns : List (String × (ρ → SortValue))}
    {date : ρ → Timestamp} {byDate byId : String}
    (dated : columns.lookup byDate = some fun r => .number (date r))
    (named : columns.lookup byId = some fun r => .number (Entity.id r).toNat) {rows : List ρ}
    (newest : rows.Pairwise (newer date)) :
    rows.Pairwise (Admits platform columns
      [⟨some byDate, some "DESC"⟩, ⟨some byId, some "DESC"⟩]) := by
  refine newest.imp fun {r s} first =>
    ⟨fun r => .number (date r), .desc, key_eq dated rfl, ?_, fun back => ?_⟩
  · have dates : date s ≤ date r := first.elim Nat.le_of_lt fun both => both.1.le
    simpa [Platform.sorts, Platform.le] using dates
  · refine ⟨fun r => .number (Entity.id r).toNat, .desc, key_eq named rfl, ?_,
      fun _ => trivial⟩
    have dates : date r ≤ date s := by simpa [Platform.sorts, Platform.le] using back
    have ids : (Entity.id s).toNat ≤ (Entity.id r).toNat :=
      first.elim (fun later => absurd later (Nat.not_lt.mpr dates)) fun both => both.2.le
    simpa [Platform.sorts, Platform.le] using ids

end OrderBy

/-- The page is cut out of the rows in an order that the calls ask. -/
def CutInOrder (platform : Platform) (columns : List (String × (ρ → SortValue)))
    (calls : List OrderBy) (rows : List ρ) (skip : ℕ) (take : Option ℕ) (entity : ρ → σ)
    (page : List σ) : Prop :=
  ∃ sorted : List ρ, sorted.Perm rows ∧ sorted.Pairwise
    (OrderBy.Admits platform columns calls) ∧
    page = (window skip take sorted).map entity

/-- What ORDER BY with the key of a single call makes of the rows. -/
theorem CutInOrder.single [Entity ρ] (ordered : platform.Ordered)
    {columns : List (String × (ρ → SortValue))} {call : OrderBy} {column : ρ → SortValue}
    {order : SortOrder}
    (found : (call.sort.elim (some unordered) fun text => columns.lookup text) = some column)
    (directed : (InventoryService.direction call.order).toOption = some order) (ties : Uuid → ℕ)
    (rows : List ρ) (skip : ℕ) (take : Option ℕ) (entity : ρ → σ) :
    CutInOrder platform columns [call] rows skip take entity
      ((window skip take (platform.orderBy ties order column rows)).map entity) :=
  ⟨_, perm_orderBy platform ties order column rows,
    OrderBy.admits_single ordered (OrderBy.key_eq found directed) ties rows, rfl⟩

/-! ## The lists -/

namespace ListRequest

variable {tenantId productId : String} {tenant product : Uuid}

theorem categories_in_order (ordered : platform.Ordered) {query : CategoryQueryDto}
    {parent : Option Uuid} (owned : uuidIn tenantId = some tenant)
    (asked : CategoryService.askedParent query.parentId = .ok parent)
    (childless : query.includeChildren ≠ some "true") (page limit : ℕ) (ties : Uuid → ℕ)
    (w : World) :
    ∃ data total,
      CategoryService.readPage platform tenantId query page limit ties w = .ok (data, total) ∧
        CutInOrder platform CategoryService.columnKeys (categories query).orderBys
          (CategoryService.matching platform tenant parent query w.db) 0 (some limit)
          CategoryEntity.plain data := by
  refine ⟨_, _, CategoryService.readPage_eq platform query owned asked childless
    page limit ties w,
    CutInOrder.single ordered ?_ (OrderBy.direction_text _) ties _ 0 (some limit) _⟩
  unfold CategoryService.sortKey
  cases query.sortBy.getD .name <;> rfl

theorem products_in_order (ordered : platform.Ordered) {query : ProductQueryDto}
    {category : Option Uuid} (owned : uuidIn tenantId = some tenant)
    (asked : ProductService.askedCategory query.categoryId = .ok category) (skip limit : ℕ)
    (ties : Uuid → ℕ) (w : World) :
    ∃ data total,
      ProductService.readPage platform tenantId query skip limit ties w = .ok (data, total) ∧
        CutInOrder platform ProductService.columnKeys (products query).orderBys
          (ProductService.matching platform tenant category query w.db) skip (some limit)
          ProductEntity.plain data := by
  refine ⟨_, _, ProductService.readPage_eq platform query owned asked skip limit ties w,
    CutInOrder.single ordered ?_ (OrderBy.direction_map _) ties _ skip (some limit) _⟩
  unfold ProductService.sortKey
  rcases query.sortBy with _ | _ | _ | _ <;> rfl

theorem variants_in_order (ordered : platform.Ordered) (query : VariantQueryDto)
    (owned : uuidIn tenantId = some tenant) (named : uuidIn productId = some product)
    (skip limit : ℕ) (ties : Uuid → ℕ) (w : World) :
    ∃ data total,
      VariantService.readPage platform tenantId productId query skip limit ties w =
        .ok (data, total) ∧
        CutInOrder platform VariantService.columnKeys (variants productId query).orderBys
          (VariantService.matching platform tenant product query w.db) skip (some limit) id
          data := by
  refine ⟨_, _, VariantService.readPage_eq platform query owned named skip limit ties w, ?_⟩
  rw [← List.map_id (Tenantory.window _ _ _)]
  refine CutInOrder.single ordered ?_ (OrderBy.direction_map _) ties _ skip (some limit) id
  unfold VariantService.sortKey
  rcases query.sortBy with _ | _ | _ | _ | _ <;> rfl

theorem warehouses_in_order (ordered : platform.Ordered) (query : WarehouseQueryDto)
    (owned : uuidIn tenantId = some tenant) (skip : ℕ) (ties : Uuid → ℕ) (w : World) :
    ∃ data total,
      WarehouseService.readPage platform tenantId query skip ties w = .ok (data, total) ∧
        CutInOrder platform WarehouseService.columnKeys (warehouses query).orderBys
          (WarehouseService.matching platform tenant query w.db) skip query.limit id data := by
  refine ⟨_, _, WarehouseService.readPage_eq platform query owned skip ties w, ?_⟩
  rw [← List.map_id (Tenantory.window _ _ _)]
  refine CutInOrder.single ordered ?_ (OrderBy.direction_map _) ties _ skip query.limit id
  unfold WarehouseService.sortKey
  rcases query.sortBy with _ | _ | _ | _ <;> rfl

theorem suppliers_in_order (ordered : platform.Ordered) (query : SupplierQueryDto)
    (owned : uuidIn tenantId = some tenant) (skip : ℕ) (ties : Uuid → ℕ) (w : World) :
    ∃ data total,
      SupplierService.readPage platform tenantId query skip ties w = .ok (data, total) ∧
        CutInOrder platform SupplierService.columnKeys (suppliers query).orderBys
          (SupplierService.matching platform tenant query w.db) skip query.limit id data := by
  refine ⟨_, _, SupplierService.readPage_eq platform query owned skip ties w, ?_⟩
  rw [← List.map_id (Tenantory.window _ _ _)]
  refine CutInOrder.single ordered ?_ (OrderBy.direction_map _) ties _ skip query.limit id
  unfold SupplierService.sortKey
  rcases query.sortBy with _ | _ | _ | _ | _ <;> rfl

/-- The stock list hands its text and its direction to the server, with no table between. -/
theorem inventory_in_order {query : StockQueryDto} {call : OrderBy}
    (calls : (inventory query).orderBys = [call]) (owned : uuidIn tenantId = some tenant)
    (variantless : InventoryService.truthy query.variantId = none)
    (warehouseless : InventoryService.truthy query.warehouseId = none) (skip limit : ℕ)
    (ties : Uuid → ℕ) (w : World) :
    InventoryService.readPage platform tenantId query skip limit ties w = (do
      let order ← InventoryService.direction call.order
      let rows := InventoryService.matching tenant none none w.db
      let sorted ← InventoryService.orderByText platform ties order .alone
        (InventoryService.truthy call.sort) w.db rows
      pure ((Tenantory.window skip (some limit) sorted).map
        (InventoryService.view w.db false false),
        rows.length)) := by
  obtain rfl : OrderBy.mk query.sortBy query.sortOrder = call := List.singleton_inj.mp calls
  have param : uuidParam tenantId = .ok tenant := by rw [uuidParam, owned]
  unfold InventoryService.readPage
  rw [variantless, warehouseless, param]
  rfl

theorem logs_in_order (query : AuditQueryDto) (entityId : String) (auditLogs : Table Audit)
    (filter : AuditService.LogFilter) {calls : List OrderBy}
    (listed : calls = (logs query).orderBys ∨ calls = (entityLogs entityId query).orderBys) :
    (AuditService.newestFirst platform (auditLogs.select filter.admits)).Pairwise
      (OrderBy.Admits platform AuditService.columnKeys calls) := by
  obtain rfl | rfl := listed <;>
    exact OrderBy.admits_newer rfl rfl (pairwise_newer platform Audit.createdAt (nodup_ids _ _))

theorem notifications_in_order (query : NotificationQueryDto)
    (filter : NotificationService.FeedFilter) (db : Database) :
    (NotificationService.newestFirst platform (db.notifications.select filter.admits)).Pairwise
      (OrderBy.Admits platform NotificationService.columnKeys (notifications query).orderBys) :=
  OrderBy.admits_newer rfl rfl (pairwise_newer platform Notification.createdAt (nodup_ids _ _))

end ListRequest
end Tenantory
