import Tenantory.AuditLog
import Tenantory.RequestTarget
import Tenantory.SerialRuns
import Tenantory.StockListing
import Tenantory.SupplierService
import Tenantory.VariantService
import Tenantory.WarehouseService

/-! Requests for the lists: from the target of a GET request to the handler and its query,
as the routes and the validation pipe read them. -/

namespace Tenantory

/-- What the platform makes of the texts of a target. -/
structure WebPlatform where
  /-- `decodeURIComponent`, which throws on malformed escapes -/
  component : String → Option String
  /-- what a query string stands for -/
  unescape : String → String
  /-- `Number(text)`, when it is finite -/
  number : String → Option ℚ
  isISO8601 : String → Bool
  isUUID : String → Bool
  /-- the pattern of `ParseUUIDPipe` -/
  parsesUUID : String → Bool

/-- The documented behaviour on plain texts. Integers are exact up to 2^53. -/
structure WebPlatform.Lawful (web : WebPlatform) : Prop where
  component : ∀ text : String, '%' ∉ text.toList → web.component text = some text
  unescape : ∀ text : String, '%' ∉ text.toList → '+' ∉ text.toList →
    web.unescape text = text
  number : ∀ n : ℕ, n ≤ 2 ^ 53 → web.number (toString n) = some (n : ℚ)
  parsesUUID : ∀ text : String, web.parsesUUID text = true →
    text ≠ "" ∧ ∀ c ∈ text.toList, c.isAlphanum = true ∨ c = '-'

/-! ## The validation pipe -/

/-- The query object, with the decoded texts. -/
abbrev QueryObject := List (String × String)

namespace QueryObject

/-- No property but these is given. -/
def only (names : List String) (query : QueryObject) : Option Unit :=
  if query.all fun p => names.contains p.1 then some () else none

/-- The text of a property. A name that is given twice makes an array, which no property of
the queries admits. -/
def text (query : QueryObject) (name : String) : Option (Option String) :=
  match query.filter fun p => p.1 == name with
  | [] => some none
  | [p] => some (some p.2)
  | _ => none

/-- A property whose text has to pass a check. -/
def checked (query : QueryObject) (name : String) (valid : String → Bool) :
    Option (Option String) := do
  match ← query.text name with
  | none => some none
  | some text => if valid text then some (some text) else none

/-- A property that is one of some values. -/
def oneOf {α : Type} (query : QueryObject) (name : String) (values : List (String × α)) :
    Option (Option α) := do
  match ← query.text name with
  | none => some none
  | some text => (values.find? fun value => value.1 == text).map fun value => some value.2

/-- An integer from 1 on. -/
def positive (web : WebPlatform) (query : QueryObject) (name : String) (most : Option ℕ) :
    Option (Option ℕ) := do
  match ← query.text name with
  | none => some none
  | some text =>
      let n ← web.number text
      if n.isInt && 1 ≤ n && most.all fun most => n ≤ (most : ℚ) then some (some n.num.toNat)
      else none

/-- A number from 0 on with at most two decimal places. -/
def price (web : WebPlatform) (query : QueryObject) (name : String) : Option (Option ℚ) := do
  match ← query.text name with
  | none => some none
  | some text =>
      let n ← web.number text
      if (n * 100).isInt && 0 ≤ n then some (some n) else none

def page (web : WebPlatform) (query : QueryObject) : Option ℕ :=
  (query.positive web "page" none).map fun given => given.getD 1

def limit (web : WebPlatform) (query : QueryObject) : Option ℕ :=
  (query.positive web "limit" (some 100)).map fun given => given.getD 20

def sortOrder (query : QueryObject) : Option SortOrder :=
  (query.oneOf "sortOrder" [("ASC", .asc), ("DESC", .desc)]).map fun given => given.getD .desc

def isBooleanString (text : String) : Bool := ["true", "false", "1", "0"].contains text

end QueryObject

open QueryObject

def CategoryQueryDto.ofQuery (web : WebPlatform) (query : QueryObject) :
    Option CategoryQueryDto := do
  query.only ["page", "limit", "search", "parentId", "includeChildren", "sortBy", "sortOrder"]
  let sortBy ← query.oneOf "sortBy"
    [("name", CategorySort.name), ("created_at", .createdAt), ("updated_at", .updatedAt)]
  pure {
    page := ← query.page web
    limit := ← query.limit web
    search := ← query.text "search"
    parentId := ← query.text "parentId"
    includeChildren := ← query.checked "includeChildren" isBooleanString
    sortBy := sortBy.getD .createdAt
    sortOrder := ← query.sortOrder }

def ProductQueryDto.ofQuery (web : WebPlatform) (query : QueryObject) :
    Option ProductQueryDto := do
  query.only ["page", "limit", "search", "categoryId", "isActive", "sortBy", "sortOrder"]
  let sortBy ← query.oneOf "sortBy"
    [("name", ProductSort.name), ("created_at", .createdAt), ("updated_at", .updatedAt)]
  pure {
    page := ← query.page web
    limit := ← query.limit web
    search := ← query.text "search"
    categoryId := ← query.checked "categoryId" web.isUUID
    isActive := ← query.checked "isActive" isBooleanString
    sortBy := sortBy.getD .createdAt
    sortOrder := ← query.sortOrder }

def VariantQueryDto.ofQuery (web : WebPlatform) (query : QueryObject) :
    Option VariantQueryDto := do
  query.only ["page", "limit", "search", "minPrice", "maxPrice", "sortBy", "sortOrder"]
  let sortBy ← query.oneOf "sortBy" [("sku", VariantSort.sku), ("price", .price),
    ("created_at", .createdAt), ("updated_at", .updatedAt)]
  pure {
    page := ← query.page web
    limit := ← query.limit web
    search := ← query.text "search"
    minPrice := ← query.price web "minPrice"
    maxPrice := ← query.price web "maxPrice"
    sortBy := sortBy.getD .createdAt
    sortOrder := ← query.sortOrder }

def WarehouseQueryDto.ofQuery (web : WebPlatform) (query : QueryObject) :
    Option WarehouseQueryDto := do
  query.only ["page", "limit", "search", "sortBy", "sortOrder"]
  let sortBy ← query.oneOf "sortBy"
    [("name", WarehouseSort.name), ("created_at", .createdAt), ("updated_at", .updatedAt)]
  pure {
    page := ← query.page web
    limit := ← query.limit web
    search := ← query.text "search"
    sortBy := sortBy.getD .createdAt
    sortOrder := ← query.sortOrder }

def SupplierQueryDto.ofQuery (web : WebPlatform) (query : QueryObject) :
    Option SupplierQueryDto := do
  query.only ["page", "limit", "search", "sortBy", "sortOrder"]
  let sortBy ← query.oneOf "sortBy" [("company_name", SupplierSort.companyName),
    ("lead_time_days", .leadTimeDays), ("created_at", .createdAt), ("updated_at", .updatedAt)]
  pure {
    page := ← query.page web
    limit := ← query.limit web
    search := ← query.text "search"
    sortBy := sortBy.getD .createdAt
    sortOrder := ← query.sortOrder }

def StockQueryDto.ofQuery (web : WebPlatform) (query : QueryObject) : Option StockQueryDto := do
  query.only ["page", "limit", "warehouseId", "variantId", "sortBy", "sortOrder"]
  pure {
    page := ← query.page web
    limit := ← query.limit web
    warehouseId := ← query.checked "warehouseId" web.isUUID
    variantId := ← query.checked "variantId" web.isUUID
    sortBy := (← query.text "sortBy").getD "created_at"
    sortOrder := (← query.text "sortOrder").getD "DESC" }

def AuditQueryDto.ofQuery (web : WebPlatform) (query : QueryObject) : Option AuditQueryDto := do
  query.only ["page", "limit", "actorId", "action", "entityType", "startDate", "endDate"]
  pure {
    page := ← query.page web
    limit := ← query.limit web
    actorId := ← query.checked "actorId" web.isUUID
    action := ← query.oneOf "action" [("CREATE", .create), ("UPDATE", .update),
      ("DELETE", .delete), ("LOGIN", .login), ("LOGOUT", .logout),
      ("UPDATE_INVENTORY", .updateInventory), ("DELETE_PRODUCT", .deleteProduct),
      ("UPDATE_ORDER", .updateOrder), ("VIEW_REPORT", .viewReport)]
    entityType := ← query.oneOf "entityType" [("product", .product),
      ("product_variant", .productVariant), ("category", .category), ("stock_level", .stockLevel),
      ("warehouse", .warehouse), ("supplier", .supplier), ("tenant", .tenant),
      ("tenant_setting", .tenantSetting), ("user", .user)]
    startDate := ← query.checked "startDate" web.isISO8601
    endDate := ← query.checked "endDate" web.isISO8601 }

/-- `Boolean(text)` is true for every text that is not empty. -/
def NotificationQueryDto.ofQuery (web : WebPlatform) (query : QueryObject) :
    Option NotificationQueryDto := do
  query.only ["page", "limit", "unreadOnly", "type", "startDate", "endDate"]
  pure {
    page := ← query.page web
    limit := ← query.limit web
    unreadOnly := (← query.text "unreadOnly").map (· != "")
    type := ← query.oneOf "type" [("low_stock", .lowStock)]
    startDate := ← query.checked "startDate" web.isISO8601
    endDate := ← query.checked "endDate" web.isISO8601 }

/-! ## The routes -/

/-- A call of a list handler. -/
inductive ListRequest
  | categories (query : CategoryQueryDto)
  | products (query : ProductQueryDto)
  | variants (productId : String) (query : VariantQueryDto)
  | warehouses (query : WarehouseQueryDto)
  | suppliers (query : SupplierQueryDto)
  | inventory (query : StockQueryDto)
  | logs (query : AuditQueryDto)
  | entityLogs (entityId : String) (query : AuditQueryDto)
  | notifications (query : NotificationQueryDto)

namespace ListRequest

/-- The page and the limit that are asked for. -/
def window : ListRequest → Option ℕ × Option ℕ
  | categories query => (query.page, query.limit)
  | products query => (query.page, query.limit)
  | variants _ query => (query.page, query.limit)
  | warehouses query => (query.page, query.limit)
  | suppliers query => (query.page, query.limit)
  | inventory query => (query.page, query.limit)
  | logs query => (query.page, query.limit)
  | entityLogs _ query => (query.page, query.limit)
  | notifications query => (query.page, query.limit)

/-- The same request for another page. -/
def atPage (page : ℕ) : ListRequest → ListRequest
  | categories query => categories { query with page }
  | products query => products { query with page }
  | variants productId query => variants productId { query with page }
  | warehouses query => warehouses { query with page }
  | suppliers query => suppliers { query with page }
  | inventory query => inventory { query with page }
  | logs query => logs { query with page }
  | entityLogs entityId query => entityLogs entityId { query with page }
  | notifications query => notifications { query with page }

/-- The request without its filters, in the order that a request without one has. -/
def unfiltered : ListRequest → ListRequest
  | categories query =>
      categories ⟨query.page, query.limit, none, none, none, some .createdAt, some .desc⟩
  | products query =>
      products ⟨query.page, query.limit, none, none, none, some .createdAt, some .desc⟩
  | variants productId query =>
      variants productId ⟨query.page, query.limit, none, none, none,
        some .createdAt, some .desc⟩
  | warehouses query => warehouses ⟨query.page, query.limit, none, some .createdAt, some .desc⟩
  | suppliers query => suppliers ⟨query.page, query.limit, none, some .createdAt, some .desc⟩
  | inventory query =>
      inventory ⟨query.page, query.limit, none, none, some "created_at", some "DESC"⟩
  | logs query => logs ⟨query.page, query.limit, none, none, none, none, none⟩
  | entityLogs entityId query =>
      entityLogs entityId ⟨query.page, query.limit, none, none, none, none, none⟩
  | notifications query => notifications ⟨query.page, query.limit, none, none, none, none⟩

end ListRequest

/-- A parameter of the path that is parsed as a UUID. -/
def WebPlatform.uuid (web : WebPlatform) (segment : String) : Option String := do
  let text ← web.component segment
  if web.parsesUUID text then some text else none

/-- The handlers of the lists. -/
inductive ListHandler
  | categories | products | variants | warehouses | suppliers | inventory | logs | entityLogs
  | notifications

/-- The routes of the lists below the global prefix and the version. -/
def ListHandler.route : ListHandler → List PathSegment
  | categories => [.text "category"]
  | products => [.text "products"]
  | variants => [.text "products", .param, .text "variants"]
  | warehouses => [.text "warehouse"]
  | suppliers => [.text "suppliers"]
  | inventory => [.text "inventory"]
  | logs => [.text "audit", .text "logs"]
  | entityLogs => [.text "audit", .text "logs", .param]
  | notifications => [.text "notifications"]

/-- No other route has the form of one of these, and no two of these have the same. -/
def listHandlers : List ListHandler :=
  [.categories, .products, .variants, .warehouses, .suppliers, .inventory, .logs, .entityLogs,
    .notifications]

/-- One slash at the end of a path does not matter. -/
def handlerOf (path : List String) : Option (ListHandler × List String) :=
  let path := if path.getLast? = some "" then path.dropLast else path
  listHandlers.findSome? fun handler =>
    (PathSegment.captures (.text "" :: .text "api" :: .text "v1" :: handler.route) path).map
      fun params => (handler, params)

/-- What the pipes make of the parameters and the query. -/
def ListHandler.request (web : WebPlatform) (params : List String) (query : QueryObject) :
    ListHandler → Option ListRequest
  | categories => .categories <$> CategoryQueryDto.ofQuery web query
  | products => .products <$> ProductQueryDto.ofQuery web query
  | variants => do
      let productId ← web.uuid (← params[0]?)
      .variants productId <$> VariantQueryDto.ofQuery web query
  | warehouses => .warehouses <$> WarehouseQueryDto.ofQuery web query
  | suppliers => .suppliers <$> SupplierQueryDto.ofQuery web query
  | inventory => .inventory <$> StockQueryDto.ofQuery web query
  | logs => .logs <$> AuditQueryDto.ofQuery web query
  | entityLogs => do
      let entityId ← web.uuid (← params[0]?)
      .entityLogs entityId <$> AuditQueryDto.ofQuery web query
  | notifications => .notifications <$> NotificationQueryDto.ofQuery web query

/-- The call that a GET request for the target comes to. -/
def ListRequest.get (web : WebPlatform) (url : String) : Option ListRequest := do
  let target := RequestTarget.read url
  let (handler, params) ← handlerOf target.path
  handler.request web params (target.query.map fun p => (web.unescape p.1, web.unescape p.2))

/-! ## Answers -/

/-- What a page says of itself. -/
def PaginatedResponse.outline {ρ : Type} (response : PaginatedResponse ρ) :
    PaginationMeta × PaginationLinks :=
  (response.pageMeta, response.links)

/-- The answer of the handler, apart from the data, to a user of the tenant. -/
def ListRequest.answer (platform : Platform) (auditLogs : Table Audit) (tenantId userId : String)
    (w : World) : ListRequest → Except Err (PaginationMeta × PaginationLinks)
  | categories query =>
      ((CategoryService.findAll platform tenantId query).runs w).1.map PaginatedResponse.outline
  | products query =>
      ((ProductService.findAll platform tenantId query).runs w).1.map PaginatedResponse.outline
  | variants productId query =>
      ((VariantService.findAll platform tenantId productId query).runs w).1.map
        PaginatedResponse.outline
  | warehouses query =>
      ((WarehouseService.findAll platform tenantId query).runs w).1.map PaginatedResponse.outline
  | suppliers query =>
      ((SupplierService.findAll platform tenantId query).runs w).1.map PaginatedResponse.outline
  | inventory query =>
      ((InventoryService.findAll platform tenantId query).runs w).1.map PaginatedResponse.outline
  | logs query =>
      ((AuditService.findLogs platform auditLogs tenantId query).runs w).1.map
        PaginatedResponse.outline
  | entityLogs entityId query =>
      ((AuditService.findEntityLogs platform auditLogs tenantId entityId query).runs w).1.map
        PaginatedResponse.outline
  | notifications query =>
      ((NotificationService.findFeed platform tenantId userId query).runs w).1.map
        PaginatedResponse.outline

end Tenantory
