import Mathlib.Data.Set.Finite.Basic
import Mathlib.Data.Set.Finite.Range
import Tenantory.PageLinks

/-! The ORDER BY clauses of the lists: what the handlers give the query builder for the queries
that the validation pipe accepts. -/

namespace Tenantory

open QueryObject

def VariantSort.text : VariantSort → String
  | sku => "sku"
  | price => "price"
  | createdAt => "created_at"
  | updatedAt => "updated_at"

def WarehouseSort.text : WarehouseSort → String
  | name => "name"
  | createdAt => "created_at"
  | updatedAt => "updated_at"

def SupplierSort.text : SupplierSort → String
  | companyName => "company_name"
  | leadTimeDays => "lead_time_days"
  | createdAt => "created_at"
  | updatedAt => "updated_at"

def ProductService.sortColumns : List (String × String) :=
  [("name", "p.name"), ("created_at", "p.created_at"), ("updated_at", "p.updated_at")]

def VariantService.sortColumns : List (String × String) :=
  [("sku", "v.sku"), ("price", "v.price"), ("created_at", "v.created_at"),
    ("updated_at", "v.updated_at")]

def WarehouseService.sortColumns : List (String × String) :=
  [("name", "w.name"), ("created_at", "w.created_at"), ("updated_at", "w.updated_at")]

def SupplierService.sortColumns : List (String × String) :=
  [("company_name", "s.company_name"), ("lead_time_days", "s.lead_time_days"),
    ("created_at", "s.created_at"), ("updated_at", "s.updated_at")]

/-- The arguments of a call of `orderBy` or `addOrderBy`. -/
structure OrderBy where
  sort : Option String
  order : Option String
  deriving DecidableEq

/-- The calls of `orderBy` and `addOrderBy`. A text that a table does not have is looked up as
`undefined`. -/
def ListRequest.orderBys : ListRequest → List OrderBy
  | categories query =>
      [⟨some ("category." ++ (query.sortBy.getD .name).text),
        some (query.sortOrder.getD .asc).text⟩]
  | products query =>
      [⟨query.sortBy.bind fun sort => ProductService.sortColumns.lookup sort.text,
        query.sortOrder.map SortOrder.text⟩]
  | variants _ query =>
      [⟨query.sortBy.bind fun sort => VariantService.sortColumns.lookup sort.text,
        query.sortOrder.map SortOrder.text⟩]
  | warehouses query =>
      [⟨query.sortBy.bind fun sort => WarehouseService.sortColumns.lookup sort.text,
        query.sortOrder.map SortOrder.text⟩]
  | suppliers query =>
      [⟨query.sortBy.bind fun sort => SupplierService.sortColumns.lookup sort.text,
        query.sortOrder.map SortOrder.text⟩]
  | inventory query => [⟨query.sortBy, query.sortOrder⟩]
  | logs _ | entityLogs _ _ =>
      [⟨some "log.created_at", some "DESC"⟩, ⟨some "log.id", some "DESC"⟩]
  | notifications _ =>
      [⟨some "notification.created_at", some "DESC"⟩, ⟨some "notification.id", some "DESC"⟩]

/-! ## Clauses that do not depend on texts -/

def directions : List String := ["ASC", "DESC"]

/-- The columns of `stock_levels` by their names and by their properties. -/
def stockColumns : List String :=
  ["id", "tenant_id", "tenantId", "tenant", "variant_id", "variant", "warehouse_id", "warehouse",
    "available_quantity", "availableQuantity", "reserved_quantity", "reservedQuantity",
    "safety_threshold", "safetyThreshold", "version", "created_at", "createdAt", "updated_at",
    "updatedAt"]

namespace ListHandler

/-- The columns of the listed entity, for the lists that are sorted as the client asks. -/
def columns : ListHandler → List String
  | categories => ["category.name", "category.created_at", "category.updated_at"]
  | products => ["p.name", "p.created_at", "p.updated_at"]
  | variants => ["v.sku", "v.price", "v.created_at", "v.updated_at"]
  | warehouses => ["w.name", "w.created_at", "w.updated_at"]
  | suppliers => ["s.company_name", "s.lead_time_days", "s.created_at", "s.updated_at"]
  | inventory => stockColumns ++ stockColumns.map ("q." ++ ·)
  | logs | entityLogs | notifications => []

/-- The clauses by a column in a direction, and those of the lists with an order of their own. -/
def clauses : ListHandler → List (List OrderBy)
  | logs | entityLogs =>
      [[⟨some "log.created_at", some "DESC"⟩, ⟨some "log.id", some "DESC"⟩]]
  | notifications =>
      [[⟨some "notification.created_at", some "DESC"⟩,
        ⟨some "notification.id", some "DESC"⟩]]
  | handler => handler.columns.flatMap fun column =>
      directions.map fun direction => [⟨some column, some direction⟩]

/-- A query for the stock list asks for no other order than by a column in a direction. -/
def SortsByColumn (query : QueryObject) (handler : ListHandler) : Prop :=
  handler = inventory →
    (∀ text, query.text "sortBy" = some (some text) → text ∈ handler.columns) ∧
      ∀ text, query.text "sortOrder" = some (some text) → text ∈ directions

end ListHandler

theorem mem_byColumns {columns : List String} {column direction : String} :
    [OrderBy.mk (some column) (some direction)] ∈ (columns.flatMap fun column =>
      directions.map fun direction => [⟨some column, some direction⟩]) ↔
        column ∈ columns ∧ direction ∈ directions := by
  simp

/-! ## What the pipe leaves of a query -/

section Sorted

variable {web : WebPlatform} {query : QueryObject}

theorem CategoryQueryDto.sorted {dto : CategoryQueryDto} (read : ofQuery web query = some dto) :
    ∃ sort order, dto.sortBy = some sort ∧ dto.sortOrder = some order := by
  simp only [ofQuery, Option.bind_eq_bind, Option.bind_eq_some_iff, Option.pure_def,
    Option.some.injEq] at read
  obtain ⟨-, -, given, -, -, -, -, -, -, -, -, -, -, -, order, -, rfl⟩ := read
  exact ⟨given.getD .createdAt, order, rfl, rfl⟩

theorem ProductQueryDto.sorted {dto : ProductQueryDto} (read : ofQuery web query = some dto) :
    ∃ sort order, dto.sortBy = some sort ∧ dto.sortOrder = some order := by
  simp only [ofQuery, Option.bind_eq_bind, Option.bind_eq_some_iff, Option.pure_def,
    Option.some.injEq] at read
  obtain ⟨-, -, given, -, -, -, -, -, -, -, -, -, -, -, order, -, rfl⟩ := read
  exact ⟨given.getD .createdAt, order, rfl, rfl⟩

theorem VariantQueryDto.sorted {dto : VariantQueryDto} (read : ofQuery web query = some dto) :
    ∃ sort order, dto.sortBy = some sort ∧ dto.sortOrder = some order := by
  simp only [ofQuery, Option.bind_eq_bind, Option.bind_eq_some_iff, Option.pure_def,
    Option.some.injEq] at read
  obtain ⟨-, -, given, -, -, -, -, -, -, -, -, -, -, -, order, -, rfl⟩ := read
  exact ⟨given.getD .createdAt, order, rfl, rfl⟩

theorem WarehouseQueryDto.sorted {dto : WarehouseQueryDto} (read : ofQuery web query = some dto) :
    ∃ sort order, dto.sortBy = some sort ∧ dto.sortOrder = some order := by
  simp only [ofQuery, Option.bind_eq_bind, Option.bind_eq_some_iff, Option.pure_def,
    Option.some.injEq] at read
  obtain ⟨-, -, given, -, -, -, -, -, -, -, order, -, rfl⟩ := read
  exact ⟨given.getD .createdAt, order, rfl, rfl⟩

theorem SupplierQueryDto.sorted {dto : SupplierQueryDto} (read : ofQuery web query = some dto) :
    ∃ sort order, dto.sortBy = some sort ∧ dto.sortOrder = some order := by
  simp only [ofQuery, Option.bind_eq_bind, Option.bind_eq_some_iff, Option.pure_def,
    Option.some.injEq] at read
  obtain ⟨-, -, given, -, -, -, -, -, -, -, order, -, rfl⟩ := read
  exact ⟨given.getD .createdAt, order, rfl, rfl⟩

/-- The two texts of a stock query go through as they are. -/
theorem StockQueryDto.sorted {dto : StockQueryDto} (read : ofQuery web query = some dto) :
    ∃ sort order, query.text "sortBy" = some sort ∧ query.text "sortOrder" = some order ∧
      dto.sortBy = some (sort.getD "created_at") ∧ dto.sortOrder = some (order.getD "DESC") := by
  simp only [ofQuery, Option.bind_eq_bind, Option.bind_eq_some_iff, Option.pure_def,
    Option.some.injEq] at read
  obtain ⟨-, -, -, -, -, -, -, -, -, -, sort, sorted, order, ordered, rfl⟩ := read
  exact ⟨sort, order, sorted, ordered, rfl, rfl⟩

end Sorted

/-! ## The clauses of the requests -/

namespace ListRequest

variable {web : WebPlatform} {query : QueryObject}

theorem orderBys_inventory {dto : StockQueryDto}
    (read : StockQueryDto.ofQuery web query = some dto) :
    (inventory dto).orderBys ∈ ListHandler.inventory.clauses ↔
      ListHandler.inventory.SortsByColumn query := by
  obtain ⟨sort, order, sorted, ordered, bySort, byOrder⟩ := dto.sorted read
  have calls : (inventory dto).orderBys =
      [⟨some (sort.getD "created_at"), some (order.getD "DESC")⟩] := by
    rw [orderBys, bySort, byOrder]
  have newest : "created_at" ∈ ListHandler.inventory.columns ∧
    "DESC" ∈ directions := by decide
  have apart : ListHandler.inventory.clauses = ListHandler.inventory.columns.flatMap fun column =>
      directions.map fun direction => [⟨some column, some direction⟩] := rfl
  rw [calls, apart, mem_byColumns, ListHandler.SortsByColumn, sorted, ordered]
  cases sort <;> cases order <;> simp [newest]

/-- A clause that takes its column from a table and its direction from the enumeration is one of
the list, whatever the texts of the query. -/
theorem orderBys_of_sorted {handler : ListHandler} {params : List String} {request : ListRequest}
    (accepted : handler.request web params query = some request)
    (other : handler ≠ .inventory) : request.orderBys ∈ handler.clauses := by
  cases handler with
  | categories =>
      obtain ⟨dto, read, rfl⟩ := Option.map_eq_some_iff.mp accepted
      obtain ⟨sort, order, bySort, byOrder⟩ := dto.sorted read
      rw [orderBys, bySort, byOrder]
      cases sort <;> cases order <;> decide
  | products =>
      obtain ⟨dto, read, rfl⟩ := Option.map_eq_some_iff.mp accepted
      obtain ⟨sort, order, bySort, byOrder⟩ := dto.sorted read
      rw [orderBys, bySort, byOrder]
      cases sort <;> cases order <;> decide
  | variants =>
      obtain ⟨segment, -, accepted⟩ := Option.bind_eq_some_iff.mp accepted
      obtain ⟨productId, -, accepted⟩ := Option.bind_eq_some_iff.mp accepted
      obtain ⟨dto, read, rfl⟩ := Option.map_eq_some_iff.mp accepted
      obtain ⟨sort, order, bySort, byOrder⟩ := dto.sorted read
      rw [orderBys, bySort, byOrder]
      cases sort <;> cases order <;> decide
  | warehouses =>
      obtain ⟨dto, read, rfl⟩ := Option.map_eq_some_iff.mp accepted
      obtain ⟨sort, order, bySort, byOrder⟩ := dto.sorted read
      rw [orderBys, bySort, byOrder]
      cases sort <;> cases order <;> decide
  | suppliers =>
      obtain ⟨dto, read, rfl⟩ := Option.map_eq_some_iff.mp accepted
      obtain ⟨sort, order, bySort, byOrder⟩ := dto.sorted read
      rw [orderBys, bySort, byOrder]
      cases sort <;> cases order <;> decide
  | inventory => exact absurd rfl other
  | logs | notifications =>
      obtain ⟨dto, -, rfl⟩ := Option.map_eq_some_iff.mp accepted
      exact List.mem_singleton.mpr rfl
  | entityLogs =>
      obtain ⟨segment, -, accepted⟩ := Option.bind_eq_some_iff.mp accepted
      obtain ⟨entityId, -, accepted⟩ := Option.bind_eq_some_iff.mp accepted
      obtain ⟨dto, -, rfl⟩ := Option.map_eq_some_iff.mp accepted
      exact List.mem_singleton.mpr rfl

/-- Of the lists, only that of the stock puts a text of the query into its ORDER BY clause. The
clause of an accepted query is one of the fixed ones exactly when this text is a column and the
other is a direction, and the accepted queries of this kind have finitely many clauses. -/
theorem orderBys_fixed_iff (web : WebPlatform) :
    (∀ (handler : ListHandler) (params : List String) (query : QueryObject)
      (request : ListRequest), handler.request web params query = some request →
        (request.orderBys ∈ handler.clauses ↔ handler.SortsByColumn query)) ∧
    {clause : List OrderBy | ∃ (handler : ListHandler) (params : List String)
      (query : QueryObject) (request : ListRequest),
        handler.request web params query = some request ∧ handler.SortsByColumn query ∧
          request.orderBys = clause}.Finite := by
  have fixed : ∀ (handler : ListHandler) (params : List String) (query : QueryObject)
      (request : ListRequest), handler.request web params query = some request →
        (request.orderBys ∈ handler.clauses ↔ handler.SortsByColumn query) := by
    intro handler params query request accepted
    by_cases stock : handler = .inventory
    · subst stock
      obtain ⟨dto, read, rfl⟩ := Option.map_eq_some_iff.mp accepted
      exact orderBys_inventory read
    · exact iff_of_true (orderBys_of_sorted accepted stock) fun same => absurd same stock
  refine ⟨fixed, (listHandlers.flatMap ListHandler.clauses).finite_toSet.subset ?_⟩
  rintro clause ⟨handler, params, query, request, accepted, sorts, rfl⟩
  have listed : handler ∈ listHandlers := by cases handler <;> simp [listHandlers]
  exact List.mem_flatMap.mpr ⟨handler, listed,
    (fixed handler params query request accepted).mpr sorts⟩

end ListRequest

open ListRequest

/-! ## Texts that reach the clause -/

namespace SampleShop

/-- The stock with the least that is available. -/
def scarcest : StockQueryDto :=
  ⟨some 1, some 20, none, none, some "q.availableQuantity", some "ASC"⟩

def sleepUrl : String := "/api/v1/inventory?sortBy=pg_sleep(10)"

def asleep : StockQueryDto := ⟨some 1, some 20, none, none, some "pg_sleep(10)", some "DESC"⟩

end SampleShop

theorem orderBys_fixed_iff_scarcest :
    (inventory SampleShop.scarcest).orderBys = [⟨some "q.availableQuantity", some "ASC"⟩] ∧
      (inventory SampleShop.scarcest).orderBys ∈ ListHandler.inventory.clauses :=
  ⟨rfl, ((orderBys_fixed_iff plainWeb).1 .inventory []
    [("sortBy", "q.availableQuantity"), ("sortOrder", "ASC")] (inventory SampleShop.scarcest)
      rfl).mpr fun _ => ⟨fun _ given => by cases given; decide, fun _ given => by
        cases given; decide⟩⟩

/-- The server calls a function that the client names, and there is a clause for each text. -/
theorem orderBys_unbounded :
    get plainWeb SampleShop.sleepUrl = some (inventory SampleShop.asleep) ∧
      (inventory SampleShop.asleep).orderBys = [⟨some "pg_sleep(10)", some "DESC"⟩] ∧
      (inventory SampleShop.asleep).orderBys ∉ ListHandler.inventory.clauses ∧
      ¬ ∃ fixed : Set (List OrderBy), fixed.Finite ∧
        ∀ (params : List String) (query : QueryObject) (request : ListRequest),
          ListHandler.inventory.request plainWeb params query = some request →
            request.orderBys ∈ fixed := by
  refine ⟨rfl, rfl, by decide, fun ⟨fixed, finite, all⟩ => ?_⟩
  let text (n : ℕ) : String := String.ofList (List.replicate n 'x')
  have text_injective : Function.Injective text := fun n m same => by
    simpa [text] using congrArg String.length same
  have asked : ∀ n, [OrderBy.mk (some (text n)) (some "DESC")] ∈ fixed := fun n =>
    all [] [("sortBy", text n)] (inventory ⟨some 1, some 20, none, none, some (text n),
      some "DESC"⟩) rfl
  have clause_injective : Function.Injective fun n =>
      [OrderBy.mk (some (text n)) (some "DESC")] := fun n m same => by
    simp only [List.cons.injEq, OrderBy.mk.injEq, Option.some.injEq, and_true] at same
    exact text_injective same
  exact Set.infinite_range_of_injective clause_injective
    (finite.subset (Set.range_subset_iff.mpr asked))

end Tenantory
