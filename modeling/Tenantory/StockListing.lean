import Tenantory.InventoryService
import Tenantory.QueryPlatform

/-! The stock list. The sort text of the request is handed to the query builder as it
is: without a join it becomes the ORDER BY clause; with a join and a page the query
builder first selects distinct ids and then orders the rows of these ids by the text.
For the distinct ids it looks up a text with a dot as a column of an alias, and leaves
one without a dot to the server. -/

namespace Tenantory

structure StockQueryDto where
  page : Option ℕ
  limit : Option ℕ
  warehouseId : Option String
  variantId : Option String
  sortBy : Option String
  sortOrder : Option String

/-- A listed stock row with the relations that the query joined. -/
structure StockView where
  row : StockLevel
  variant : Option (Option ProductVariant)
  warehouse : Option (Option Warehouse)
  deriving DecidableEq

namespace InventoryService

def truthy (text : Option String) : Option String := text.filter (· != "")

def direction : Option String → Except Err SortOrder
  | none | some "ASC" => .ok .asc
  | some "DESC" => .ok .desc
  | some _ => .error (.other
      "SelectQueryBuilder.addOrderBy \"order\" can accept only \"ASC\" and \"DESC\" values.")

/-! ## Columns by name -/

/-- A column of the listed entity by its property path or its name in the table. -/
def stockProperty : String → Option (StockLevel → SortValue)
  | "id" => some fun r => .number r.id.toNat
  | "tenantId" | "tenant" | "tenant_id" => some fun r => .number r.tenantId.toNat
  | "variant" | "variant_id" => some fun r => .number r.variantId.toNat
  | "warehouse" | "warehouse_id" => some fun r => .number r.warehouseId.toNat
  | "availableQuantity" | "available_quantity" => some fun r => .number r.availableQuantity
  | "reservedQuantity" | "reserved_quantity" => some fun r => .number r.reservedQuantity
  | "safetyThreshold" | "safety_threshold" => some fun r => .number r.safetyThreshold
  | "version" => some fun r => .number r.version
  | "createdAt" | "created_at" => some fun r => .number r.createdAt
  | "updatedAt" | "updated_at" => some fun r => .number r.updatedAt
  | _ => none

def variantProperties : List String :=
  ["id", "tenantId", "tenant", "tenant_id", "product", "product_id", "sku", "price", "attributes",
    "createdAt", "created_at", "updatedAt", "updated_at", "deletedAt", "deleted_at"]

def warehouseProperties : List String :=
  ["id", "tenantId", "tenant", "tenant_id", "name", "location", "createdAt", "created_at",
    "updatedAt", "updated_at", "deletedAt", "deleted_at"]

def unknownProperty : Err := .other "Cannot read properties of undefined (reading 'databaseName')"

def unknownAlias (owner : String) : Err :=
  .other s!"\"{owner}\" alias was not found. Maybe you forgot to join it?"

/-- The key for the rows that an alias with a dot names; all rows of a page share the joined
variant or warehouse. -/
def aliasKey (variant warehouse : Bool) (owner property : String) :
    Except Err (StockLevel → SortValue) :=
  if owner = "q" then
    match stockProperty property with
    | some key => .ok key
    | none => .error unknownProperty
  else if owner = "variant" ∧ variant then
    if variantProperties.contains property then .ok unordered else .error unknownProperty
  else if owner = "warehouse" ∧ warehouse then
    if warehouseProperties.contains property then .ok unordered else .error unknownProperty
  else .error (unknownAlias owner)

/-! ## The list -/

/-- Orders rows by what the server makes of the sort text. -/
def orderByText (platform : Platform) (ties : Uuid → ℕ) (order : SortOrder) (place : SortPlace)
    (sortBy : Option String) (db : Database) (rows : List StockLevel) :
    Except Err (List StockLevel) :=
  match sortBy with
  | none => .ok (platform.orderBy ties order unordered rows)
  | some text => do
      let value ← platform.sortText place text
      let keys ← rows.mapM fun r => do pure (r.id, ← value db r)
      pure (platform.orderBy ties order (fun r => (keys.lookup r.id).getD .null) rows)

/-- Orders the distinct ids. -/
def orderDistinct (platform : Platform) (ties : Uuid → ℕ) (order : SortOrder)
    (variant warehouse : Bool) (sortBy : Option String) (db : Database) (rows : List StockLevel) :
    Except Err (List StockLevel) :=
  match sortBy.map (·.splitOn ".") with
  | some (owner :: part :: path) => do
      let key ← aliasKey variant warehouse owner (".".intercalate (part :: path))
      pure (platform.orderBy ties order key rows)
  | _ => orderByText platform ties order .distinct sortBy db rows

def view (db : Database) (variant warehouse : Bool) (row : StockLevel) : StockView where
  row := row
  variant := if variant then
    some (db.variants.find? fun v => v.id == row.variantId && v.live) else none
  warehouse := if warehouse then
    some (db.warehouses.find? fun h => h.id == row.warehouseId && h.live) else none

def matching (tenant : Uuid) (variant warehouse : Option Uuid) (db : Database) : List StockLevel :=
  db.stockLevels.select fun s =>
    s.tenantId == tenant &&
      (variant.all fun id => s.variantId == id && db.liveVariant id) &&
      warehouse.all fun id => s.warehouseId == id && db.liveWarehouse id

def readPage (platform : Platform) (tenantId : String) (query : StockQueryDto) (skip limit : ℕ)
    (ties : Uuid → ℕ) (w : World) : Except Err (List StockView × ℕ) := do
  let variantId := truthy query.variantId
  let warehouseId := truthy query.warehouseId
  let sortBy := truthy query.sortBy
  let order ← direction query.sortOrder
  let tenant ← uuidParam tenantId
  let variant ← variantId.mapM uuidParam
  let warehouse ← warehouseId.mapM uuidParam
  let rows := matching tenant variant warehouse w.db
  if variantId.isSome || warehouseId.isSome then
    let distinct ←
      orderDistinct platform ties order variantId.isSome warehouseId.isSome sortBy w.db rows
    let chosen := window skip (some limit) distinct
    -- no second query for an empty page
    let sorted ← if chosen.isEmpty then .ok []
      else orderByText platform ties order .joined sortBy w.db chosen
    pure (sorted.map (view w.db variantId.isSome warehouseId.isSome), rows.length)
  else
    let sorted ← orderByText platform ties order .alone sortBy w.db rows
    pure ((window skip (some limit) sorted).map (view w.db false false), rows.length)

def createLink (limit page : ℕ) : String := s!"app/v1/inventory?page={page}&limit={limit}"

/-- A number that counts as no number where the code tests for truth. -/
def positiveOr (default : ℕ) (n : Option ℕ) : ℕ := (n.filter (· != 0)).getD default

def findAll (platform : Platform) (tenantId : String) (query : StockQueryDto) :
    Svc (PaginatedResponse StockView) := do
  let limit := positiveOr 20 query.limit
  let page := positiveOr 1 query.page
  let (data, counts) ←
    listing (readPage platform tenantId query ((page - 1) * limit) limit)
  pure (paginated data counts (pageCount counts limit) page limit (createLink limit))

end InventoryService
end Tenantory
