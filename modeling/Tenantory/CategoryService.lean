import Tenantory.AuditService
import Tenantory.CacheService
import Tenantory.SlugText
import Tenantory.TableStatements

/-! Categories of a tenant: lookups behind the cache, writes that invalidate it. An
entity is loaded, changed in memory and saved; what it carries of its relations
is saved with it. -/

namespace Tenantory

structure CreateCategoryDto where
  name : String
  slug : Property String
  parentId : Property String

structure UpdateCategoryDto where
  name : Property String
  slug : Property String
  parentId : Property String

inductive CategorySort
  | name | createdAt | updatedAt
  deriving DecidableEq

structure CategoryQueryDto where
  page : Option ℕ
  limit : Option ℕ
  search : Option String
  parentId : Option String
  includeChildren : Option String
  sortBy : Option CategorySort
  sortOrder : Option SortOrder

def CategorySort.text : CategorySort → String
  | name => "name"
  | createdAt => "created_at"
  | updatedAt => "updated_at"

/-- The properties of the class with initialisers come first. -/
def CategoryQueryDto.toJson (query : CategoryQueryDto) : Json :=
  .literal [("page", query.page.map .ofNat), ("limit", query.limit.map .ofNat),
    ("sortBy", query.sortBy.map (.str ·.text)), ("sortOrder", query.sortOrder.map (.str ·.text)),
    ("search", query.search.map .str), ("parentId", query.parentId.map .str),
    ("includeChildren", query.includeChildren.map .str)]

/-! ## Entities -/

def Category.columns (row : Category) : CategoryColumns where
  id := row.id
  name := row.name
  slug := row.slug
  createdAt := row.createdAt
  updatedAt := row.updatedAt
  deletedAt := row.deletedAt

def Category.live (row : Category) : Bool := row.deletedAt.isNone

namespace Database

def liveCategory? (db : Database) (id : Uuid) : Option Category :=
  db.categories.find? fun c => c.id == id && c.live

def liveChildren (db : Database) (id : Uuid) : List Category :=
  db.categories.select fun c => c.parentId == some id && c.live

end Database

namespace CategoryEntity

/-- A category loaded without relations. -/
def plain (row : Category) : CategoryEntity := { row.columns with parent := none, children := none }

/-- A category loaded with parent and children. -/
def related (db : Database) (row : Category) : CategoryEntity :=
  { row.columns with
    parent := some ((row.parentId.bind db.liveCategory?).map Category.columns)
    children := some ((db.liveChildren row.id).map Category.columns) }

def parentId (entity : CategoryEntity) : Option Uuid := entity.parent.join.map (·.id)

end CategoryEntity

namespace CategoryService

open UuidText

def slugTaken : Err := .conflict "The provided slug must be unique per-tenant"

/-! ## Statements -/

def slugExists (tenantId slug : String) (excludeId : Option String) (w : World) :
    Except Err Bool := do
  let tenant ← uuidParam tenantId
  let exclude ← excludeId.mapM uuidParam
  pure (w.db.categories.rows.any fun c =>
    c.tenantId == tenant && c.slug == slug && c.live && exclude.all (· != c.id))

def readParent (tenantId parentId : String) (w : World) : Except Err (Option Category) := do
  let id ← uuidParam parentId
  let tenant ← uuidParam tenantId
  pure (w.db.categories.find? fun c =>
    c.id == id && c.tenantId == tenant && w.db.liveTenant tenant && c.live)

/-- `findOne` on id and tenant with both relations. -/
def readOne (tenantId id : String) (w : World) : Except Err (Option CategoryEntity) := do
  let id ← uuidParam id
  let tenant ← uuidParam tenantId
  pure ((w.db.categories.find? fun c =>
    c.id == id && c.tenantId == tenant && w.db.liveTenant tenant && c.live).map
      (CategoryEntity.related w.db))

def countChildren (tenantId id : String) (w : World) : Except Err ℕ := do
  let id ← uuidParam id
  let tenant ← uuidParam tenantId
  pure (w.db.categories.select fun c =>
    c.parentId == some id && (w.db.liveCategory? id).isSome && c.tenantId == tenant &&
      w.db.liveTenant tenant && c.live).length

def readTree (platform : Platform) (tenantId : String) (ties : Uuid → ℕ) (w : World) :
    Except Err (List CategoryEntity) := do
  let tenant ← uuidParam tenantId
  let rows := w.db.categories.select fun c =>
    c.tenantId == tenant && w.db.liveTenant tenant && c.live
  pure ((platform.orderBy ties .asc (fun c => .text c.name) rows).map CategoryEntity.plain)

/-- An INSERT; `parent` is the loaded parent category. -/
def insert (tenantId name slug : String) (parent : Option Category) (w : World) :
    Except Err (CategoryEntity × World) := do
  let tenant ← uuidParam tenantId
  let (row, w) ← w.insert fun id now =>
    { id, tenantId := tenant, name, slug, parentId := parent.map (·.id), createdAt := now,
      updatedAt := now, deletedAt := none : Category }
  let entity := CategoryEntity.plain row
  pure ({ entity with parent := parent.map fun p => some p.columns }, w)

/-- A saved category's children are those it lists: a live child in `db` that it does
not list loses its parent, a listed one that is not a live child there gets it. The
changes are found before the first statement that writes. -/
def saveChildren (entity : CategoryEntity) (db : Database) (w : World) : Except Err World :=
  match entity.children with
  | none => .ok w
  | some listed =>
      let stored := db.liveChildren entity.id
      let bound := listed.filter fun c => stored.all (·.id != c.id)
      let removed := stored.filter fun c => listed.all (·.id != c.id)
      do
        let w ← bound.foldlM (fun w c => w.update c.id fun row : Category =>
          { row with parentId := some entity.id, updatedAt := w.clock }) w
        removed.foldlM (fun w c => w.update c.id fun row : Category =>
          { row with parentId := none, updatedAt := w.clock }) w

/-- The row with the columns of the entity in it. -/
def overwrite (entity : CategoryEntity) (now : Timestamp) (row : Category) : Category :=
  let written := { row with
    name := entity.name
    slug := entity.slug
    parentId := match entity.parent with
      | none => row.parentId
      | some parent => parent.map (·.id)
    createdAt := entity.createdAt
    updatedAt := entity.updatedAt
    deletedAt := entity.deletedAt }
  -- an UPDATE stamps the row unless the entity brings another date
  if written = row then row
  else if entity.updatedAt = row.updatedAt then { written with updatedAt := now } else written

/-- UPDATE of the columns in which `written` differs from the loaded row. -/
def merge (written loaded row : Category) : Category where
  id := column written.id loaded.id row.id
  tenantId := column written.tenantId loaded.tenantId row.tenantId
  name := column written.name loaded.name row.name
  slug := column written.slug loaded.slug row.slug
  parentId := column written.parentId loaded.parentId row.parentId
  createdAt := column written.createdAt loaded.createdAt row.createdAt
  updatedAt := column written.updatedAt loaded.updatedAt row.updatedAt
  deletedAt := column written.deletedAt loaded.deletedAt row.deletedAt

@[simp] theorem merge_self (written row : Category) : merge written row row = written := by
  simp [merge]

/-- What `save` writes for an entity, given what it has loaded. -/
def saveLoaded (entity : CategoryEntity) (loaded : Database) (w : World) :
    Except Err (CategoryEntity × World) :=
  match loaded.rowById Category entity.id with
  -- an INSERT without a tenant
  | none => .error .notNullViolation
  | some stored => do
      let written := overwrite entity w.clock stored
      let w ← w.update entity.id (merge written stored)
      let w ← saveChildren entity loaded w
      pure ({ entity with updatedAt := written.updatedAt }, w)

def softRemoveLoaded (entity : CategoryEntity) (loaded : Database) (w : World) :
    Except Err (Unit × World) := do
  let w ← saveChildren entity loaded w
  let w ← w.update entity.id fun row : Category =>
    { row with deletedAt := some w.clock, updatedAt := w.clock }
  pure ((), w)

/-! ## Lookups -/

def assertSlugUnique (tenantId slug : String) (excludeId : Option String) : Svc Unit := do
  let taken ← query (slugExists tenantId slug excludeId)
  if taken then throw slugTaken

def assertParentExists (tenantId parentId : String) : Svc Category := do
  match ← query (readParent tenantId parentId) with
  | some parent => pure parent
  | none => throw (.notFound s!"Parent category with ID \"{parentId}\" not found")

def findOne (tenantId id : String) : Svc CategoryEntity := do
  let cacheKey := CacheKeys.category tenantId id
  match ← CacheService.get cacheKey Cached.category? with
  | some cached => pure cached
  | none =>
      match ← query (readOne tenantId id) with
      | none => throw (.notFound s!"Category with ID \"{id}\" not found for tenant {tenantId}")
      | some result => do
          CacheService.set cacheKey (.category result)
          pure result

/-! ## The tree -/

section BuildTree

variable (categories : List CategoryEntity)

/-- The node of an id before any child is pushed: the last entity of that id. -/
def treeNode? (id : Uuid) : Option CategoryEntity := categories.reverse.find? (·.id == id)

/-- A node with the children that the loop pushes into it, in the order of the list. -/
def growNode : ℕ → CategoryEntity → CategoryNode
  | 0, entity => .mk entity.toCategoryColumns entity.parent []
  | fuel + 1, entity =>
      .mk entity.toCategoryColumns entity.parent
        ((categories.filter fun c => c.parentId == some entity.id).filterMap fun c =>
          (treeNode? categories c.id).map (growNode fuel))

/-- The roots of the list; a branch is not longer than the list. -/
def buildTree : List CategoryNode :=
  (categories.filter fun c => c.parentId.isNone).filterMap fun c =>
    (treeNode? categories c.id).map (growNode categories categories.length)

end BuildTree

def findTree (platform : Platform) (tenantId : String) : Svc (List CategoryNode) := do
  let cacheKey := CacheKeys.categoriesTree tenantId
  match ← CacheService.get cacheKey Cached.categoriesTree? with
  | some cached => pure cached
  | none => do
      let result ← listing (readTree platform tenantId)
      if result.isEmpty then throw (.notFound s!"There is no category for tenant {tenantId}")
      let tree := buildTree result
      CacheService.set cacheKey (.categoriesTree tree)
      pure tree

/-! ## The list -/

def sortColumn : CategorySort → Category → SortValue
  | .name, c => .text c.name
  | .createdAt, c => .number c.createdAt
  | .updatedAt, c => .number c.updatedAt

/-- The rows of the list's WHERE clause. -/
def matching (platform : Platform) (tenant : Uuid) (parent : Option Uuid)
    (query : CategoryQueryDto) (db : Database) : List Category :=
  db.categories.select fun c =>
    c.tenantId == tenant && c.live &&
      (query.search.all fun search =>
        search == "" || platform.ilike ("%" ++ search ++ "%") c.name) &&
      parent.all fun parent => c.parentId == some parent

/-- The rows of the left join with the live children. -/
def joinChildren (db : Database) (rows : List Category) : List (Category × Option Category) :=
  rows.flatMap fun c =>
    match db.liveChildren c.id with
    | [] => [(c, none)]
    | children => children.map fun child => (c, some child)

/-- One entity for each category of the joined rows, in the order they come. -/
def groupJoined (rows : List (Category × Option Category)) : List CategoryEntity :=
  ((rows.map Prod.fst).dedup).map fun c =>
    { CategoryEntity.plain c with
      children := some ((rows.filter (·.1 == c)).filterMap fun r => r.2.map Category.columns) }

/-- The page of a list with children. `limit` cuts joined rows; an offset makes the
query builder select distinct ids first, out of joined rows that `limit` has cut. -/
def readJoined (platform : Platform) (ties : Uuid → ℕ) (sortBy : CategorySort)
    (sortOrder : SortOrder) (skip limit : ℕ) (rows : List Category) (db : Database) :
    List CategoryEntity :=
  let sorted := fun rows => platform.orderBy ties sortOrder (sortColumn sortBy) rows
  if skip = 0 then groupJoined ((joinChildren db (sorted rows)).take limit)
  else
    let chosen := (((joinChildren db rows).take limit).map Prod.fst).dedup
    let ids := ((sorted chosen).drop skip).map (·.id)
    groupJoined ((joinChildren db (sorted (rows.filter (ids.contains ·.id)))).take limit)

def readPage (platform : Platform) (tenantId : String) (query : CategoryQueryDto)
    (page limit : ℕ) (ties : Uuid → ℕ) (w : World) :
    Except Err (List CategoryEntity × ℕ) := do
  let tenant ← uuidParam tenantId
  let parent ← match query.parentId with
    -- an empty text asks for categories that are not deleted, as every query does
    | some "" => .ok none
    | some parentId => some <$> uuidParam parentId
    | none => .ok none
  let rows := matching platform tenant parent query w.db
  let sortBy := query.sortBy.getD .name
  let sortOrder := query.sortOrder.getD .asc
  if query.includeChildren = some "true" then
    pure (readJoined platform ties sortBy sortOrder ((page - 1) * limit) limit rows w.db,
      rows.length)
  else
    -- with `limit` and no join the query builder leaves the offset out
    let sorted := platform.orderBy ties sortOrder (sortColumn sortBy) rows
    pure ((sorted.take limit).map CategoryEntity.plain, rows.length)

def createLink (limit page : ℕ) : String := s!"/api/v1/categories?page={page}&limit={limit}"

def findAll (platform : Platform) (tenantId : String) (query : CategoryQueryDto) :
    Svc (PaginatedResponse CategoryEntity) := do
  let cacheKey := CacheKeys.categoriesList platform tenantId query.toJson
  match ← CacheService.get cacheKey Cached.categoriesList? with
  | some cached => pure cached
  | none => do
      let page := query.page.getD 1
      let limit := query.limit.getD 10
      let (data, counts) ← listing (readPage platform tenantId query page limit)
      let response := paginated data counts (pageCount counts limit) page limit (createLink limit)
      CacheService.set cacheKey (.categoriesList response)
      pure response

/-! ## Writes -/

def invalidateCollections (tenantId : String) : Svc Unit := do
  CacheService.delByPattern (CacheKeys.categoriesPattern tenantId)
  CacheService.delByPattern (CacheKeys.productsPattern tenantId)

def nullableId (id : Option Uuid) : Json := .nullable (fun id => .str (uuidOut id)) id

def create (platform : Platform) (context : Option AuditContextData) (tenantId : String)
    (dto : CreateCategoryDto) : Svc CategoryEntity := do
  let slug := SlugText.generateSlug platform (dto.slug.truthy.getD dto.name)
  assertSlugUnique tenantId slug none
  let parent ← dto.parentId.truthy.mapM (assertParentExists tenantId)
  translated slugTaken do
    let category ← statement (.insert (.category tenantId dto.name slug (parent.map (·.id))))
      (insert tenantId dto.name slug parent)
    AuditService.record context
      { action := .create
        entityType := .category
        entityId := uuidOut category.id
        oldValues := none
        newValues := some (.obj [("name", .str category.name), ("slug", .str category.slug)])
        metadata := none
        actorId := none }
    invalidateCollections tenantId
    pure category

def updateAudit (target saved : CategoryEntity) : AuditEventInput where
  action := .update
  entityType := .category
  entityId := uuidOut saved.id
  oldValues := some (.obj [("name", .str target.name), ("slug", .str target.slug),
    ("parentId", nullableId target.parentId)])
  newValues := some (.obj [("name", .str saved.name), ("slug", .str saved.slug),
    ("parentId", nullableId saved.parentId)])
  metadata := none
  actorId := none

/-- The parent after an update: the one that is there, none, or a live category. -/
def chooseParent (tenantId id : String) (parentId : Property String)
    (current : Option (Option CategoryColumns)) : Svc (Option (Option CategoryColumns)) :=
  match parentId with
  | .undefined => pure current
  | .null => pure (some none)
  | .value parentId =>
      if parentId = id then throw (.conflict "A category cannot be its own parent")
      else if parentId = "" then pure (some none)
      else do
        let parent ← assertParentExists tenantId parentId
        pure (some (some parent.columns))

def update (platform : Platform) (context : Option AuditContextData) (tenantId id : String)
    (dto : UpdateCategoryDto) : Svc CategoryEntity := do
  let target ← findOne tenantId id
  let name := dto.name.truthy.getD target.name
  let slug := match dto.slug.truthy, dto.name.truthy with
    | some slug, _ => SlugText.generateSlug platform slug
    | none, some name => SlugText.generateSlug platform name
    | none, none => target.slug
  assertSlugUnique tenantId slug (if id = "" then none else some id)
  let parent ← chooseParent tenantId id dto.parentId target.parent
  translated slugTaken do
    let edited := { target with name, slug, parent }
    let saved ← saving (.category edited) (saveLoaded edited)
    AuditService.record context (updateAudit target saved)
    CacheService.del (CacheKeys.category tenantId id)
    invalidateCollections tenantId
    pure saved

def remove (context : Option AuditContextData) (tenantId id : String) : Svc Unit := do
  let target ← findOne tenantId id
  let numberOfChildren ← query (countChildren tenantId id)
  if numberOfChildren > 0 then
    throw (.conflict (s!"Cannot delete category \"{id}\" because it has child categories. " ++
      "Please delete or reassign all child categories first."))
  softRemoving (.category target) (softRemoveLoaded target)
  AuditService.record context
    { action := .delete
      entityType := .category
      entityId := uuidOut target.id
      oldValues := some (.obj [("name", .str target.name), ("slug", .str target.slug)])
      newValues := none
      metadata := none
      actorId := none }
  CacheService.del (CacheKeys.category tenantId id)
  invalidateCollections tenantId

end CategoryService
end Tenantory
