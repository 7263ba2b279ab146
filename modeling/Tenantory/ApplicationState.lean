import Tenantory.Doubles
import Tenantory.EffectProgram
import Tenantory.StoredEntities

/-! The shared state of the running application: the committed tables, the Redis
keys, the writes of open transactions, and the journal of commits and emitted
events. Services are programs over this state that answer or throw; every
database statement, Redis command and emission is one atom. -/

namespace Tenantory

/-! ## Errors -/

inductive Err
  /-- a Nest HTTP exception -/
  | http (status : ℕ) (message : String)
  /-- a QueryFailedError with the SQLSTATE code of the driver -/
  | queryFailed (code : String)
  | optimisticLockVersionMismatch
  | other (message : String)
  deriving DecidableEq

namespace Err

def badRequest (message : String) : Err := http 400 message
def unauthorized (message : String) : Err := http 401 message
def forbidden (message : String) : Err := http 403 message
def notFound (message : String) : Err := http 404 message
def conflict (message : String) : Err := http 409 message
def internalServerError (message : String) : Err := http 500 message

def invalidText : Err := queryFailed "22P02"
def tooLong : Err := queryFailed "22001"
def outOfRange : Err := queryFailed "22003"
def uniqueViolation : Err := queryFailed "23505"
def foreignKeyViolation : Err := queryFailed "23503"
def notNullViolation : Err := queryFailed "23502"
def undefinedColumn : Err := queryFailed "42703"
def undefinedTable : Err := queryFailed "42P01"

end Err

def isUniqueViolation (err : Err) : Bool := err == Err.uniqueViolation

/-! ## Events -/

inductive AuditAction
  | create | update | delete | login | logout | updateInventory | deleteProduct | updateOrder
  | viewReport
  deriving DecidableEq

inductive AuditedEntityType
  | product | productVariant | category | stockLevel | warehouse | supplier | tenant
  | tenantSetting | user
  deriving DecidableEq

/-- What the audit interceptor stores for the request that is being handled. -/
structure AuditContextData where
  tenantId : Option String
  actorId : Option String
  requestId : Option String
  ipAddress : Option String
  userAgent : Option String
  deriving DecidableEq

structure AuditMetadata where
  ipAddress : Option String
  userAgent : Option String
  requestId : Option String
  reason : Option String
  deriving DecidableEq

structure AuditEvent where
  tenantId : String
  actorId : Option String
  action : AuditAction
  entityType : AuditedEntityType
  entityId : String
  oldValues : Option Json
  newValues : Option Json
  metadata : AuditMetadata
  deriving DecidableEq

structure StockMovementSnapshot where
  availableQuantity : ℤ
  reservedQuantity : ℤ
  deriving DecidableEq

structure StockMovementEvent where
  tenantId : String
  stockLevelId : String
  variantId : String
  warehouseId : String
  sku : Option String
  before : StockMovementSnapshot
  after : StockMovementSnapshot
  safetyThreshold : ℤ
  deriving DecidableEq

inductive Event
  | committed (tx : ℕ)
  | auditLog (event : AuditEvent)
  | stockMovement (event : StockMovementEvent)
  deriving DecidableEq

/-! ## Loaded entities and pages -/

/-- The columns of a category entity; the class has no tenant column property. -/
structure CategoryColumns where
  id : Uuid
  name : String
  slug : String
  createdAt : Timestamp
  updatedAt : Timestamp
  deletedAt : Option Timestamp
  deriving DecidableEq

/-- A category object; `none` stands for a relation property that is not present. -/
structure CategoryEntity extends CategoryColumns where
  parent : Option (Option CategoryColumns)
  children : Option (List CategoryColumns)
  deriving DecidableEq

/-- A node of the category tree: the spread category with a list of child nodes. -/
inductive CategoryNode
  | mk (category : CategoryColumns) (parent : Option (Option CategoryColumns))
      (children : List CategoryNode)

/-- What a product object has under `category`: a loaded category or the bare id that a
service has put there. -/
inductive CategoryReference
  | loaded (category : CategoryColumns)
  | named (id : String)
  deriving DecidableEq

structure ProductEntity where
  id : Uuid
  tenantId : Uuid
  name : String
  description : Option String
  skuPrefix : String
  isActive : Bool
  createdAt : Timestamp
  updatedAt : Timestamp
  deletedAt : Option Timestamp
  category : Option (Option CategoryReference)
  variants : Option (List ProductVariant)
  deriving DecidableEq

structure PaginationMeta where
  totalItems : ℕ
  itemCount : ℕ
  totalPages : ℕ
  itemsPerPage : ℕ
  currentPage : ℕ
  deriving DecidableEq

structure PaginationLinks where
  first : String
  previous : Option String
  next : Option String
  last : String
  deriving DecidableEq

structure PaginatedResponse (α : Type) where
  data : List α
  pageMeta : PaginationMeta
  links : PaginationLinks
  deriving DecidableEq

/-- What the services put under their Redis keys. -/
inductive Cached
  | category (entity : CategoryEntity)
  | categoriesList (page : PaginatedResponse CategoryEntity)
  | categoriesTree (roots : List CategoryNode)
  | product (entity : ProductEntity)
  | productsList (page : PaginatedResponse ProductEntity)
  | user (user : User)

/-! ## The state -/

/-- SET columns of an UPDATE of `stock_levels`; `none` leaves the column out. -/
structure StockPatch where
  availableQuantity : Option ℤ
  reservedQuantity : Option ℤ
  updatedAt : Timestamp
  deriving DecidableEq

/-- The version column is incremented by the statement and compared with nothing. -/
def StockPatch.apply (patch : StockPatch) (row : StockLevel) : StockLevel :=
  { row with
    availableQuantity := patch.availableQuantity.getD row.availableQuantity
    reservedQuantity := patch.reservedQuantity.getD row.reservedQuantity
    version := row.version + 1
    updatedAt := patch.updatedAt }

/-- An uncommitted write of an open transaction. -/
inductive StockWrite
  | insert (row : StockLevel)
  | update (id : Uuid) (patch : StockPatch)
  deriving DecidableEq

structure World where
  db : Database
  cache : List (String × Cached)
  pending : List (ℕ × StockWrite)
  nextTx : ℕ
  clock : Timestamp
  /-- the identifiers still to be generated -/
  ids : ℕ → Uuid
  /-- what `Math.random` is still to return -/
  draws : ℕ → Double
  /-- how the listings still to come rank rows with equal sort keys -/
  ties : ℕ → Uuid → ℕ
  journal : List Event

/-- The objects that an INSERT stores, in the words of the call. -/
inductive NewRow
  | category (tenantId name slug : String) (parentId : Option Uuid)
  | product (tenantId categoryId skuPrefix : String)
  | variant (tenantId productId sku : String)
  | warehouse (tenantId name : String)
  | supplier (tenantId companyName : String)
  | tenant (domainName : String)
  | user (tenantId email : String)
  | notifications (tenantId : String) (type : NotificationType) (dedupKey : Option String)
      (recipientIds : List String)

/-- The object that `save` or `softRemove` is given. -/
inductive StoredObject
  | category (entity : CategoryEntity)
  | product (entity : ProductEntity)
  | variant (row : ProductVariant)
  | warehouse (row : Warehouse)
  | supplier (row : Supplier)
  | tenant (row : Tenant)
  | user (row : User)
  | setting (row : TenantSetting)

inductive Label
  | query
  | write
  | insert (row : NewRow)
  /-- the statements that follow the SELECT of a `save` or `softRemove`, with what it
  has loaded -/
  | save (entity : StoredObject) (loaded : Database)
  | softRemove (entity : StoredObject) (loaded : Database)
  | begin
  | commit (tx : ℕ)
  | rollback (tx : ℕ)
  | insertStock (variantId warehouseId : Uuid)
  /-- the two statements that save a loaded entity; `version` is that of the entity -/
  | reloadStock (id : Uuid) (version : ℕ)
  | updateStock (id : Uuid) (version : ℕ)
  | redis
  | cacheSet (key : String) (value : Cached)
  | emit
  | random
  | sleep (ms : Double)

/-- The atoms that reach the database and may come back with any error. A rollback
that fails is swallowed by the transaction wrapper. -/
def dbFault : Label → Err → Prop
  | .query, _ | .write, _ | .insert _, _ | .save _ _, _ | .softRemove _ _, _ => True
  | .begin, _ | .commit _, _ => True
  | .insertStock _ _, _ | .reloadStock _ _, _ | .updateStock _ _, _ => True
  | .rollback _, _ | .redis, _ | .cacheSet _ _, _ | .emit, _ | .random, _ | .sleep _, _ => False

/-! ## Services -/

abbrev Step := Prog World Err Label

abbrev Svc := ExceptT Err Step

def perform {β : Type} (label : Label) (act : World → Except Err β × World) : Svc β :=
  ExceptT.mk (Prog.atom { label, ready := fun _ => true, act } Prog.ret)

def query {β : Type} (read : World → Except Err β) : Svc β :=
  perform .query fun w => (read w, w)

/-- A query whose answer depends on how the server ranks ties. -/
def listing {β : Type} (read : (Uuid → ℕ) → World → Except Err β) : Svc β :=
  perform .query fun w => (read (w.ties 0) w, { w with ties := fun n => w.ties (n + 1) })

/-- Statements that change the tables together, or fail and change nothing. -/
def statement {β : Type} (label : Label) (act : World → Except Err (β × World)) : Svc β :=
  perform label fun w =>
    match act w with
    | .ok (answer, w') => (.ok answer, w')
    | .error err => (.error err, w)

def write {β : Type} (act : World → Except Err (β × World)) : Svc β := statement .write act

/-- `save` of an object with an id: a SELECT loads what is stored of it, and the
statements that follow, in one transaction, write what differs from that. -/
def saving {β : Type} (entity : StoredObject)
    (act : Database → World → Except Err (β × World)) : Svc β := do
  let loaded ← query fun w => .ok w.db
  statement (.save entity loaded) (act loaded)

def softRemoving {β : Type} (entity : StoredObject)
    (act : Database → World → Except Err (β × World)) : Svc β := do
  let loaded ← query fun w => .ok w.db
  statement (.softRemove entity loaded) (act loaded)

/-- A query parameter of type uuid. -/
def uuidParam (text : String) : Except Err Uuid :=
  match UuidText.uuidIn text with
  | some id => .ok id
  | none => .error Err.invalidText

@[simp] theorem uuidParam_uuidOut (u : Uuid) : uuidParam (UuidText.uuidOut u) = .ok u := by
  simp [uuidParam]

def emit (event : Event) : Svc Unit :=
  perform .emit fun w => (.ok (), { w with journal := w.journal ++ [event] })

namespace Svc

variable {α β : Type}

@[simp] theorem run_pure (a : α) : (pure a : Svc α).run = .ret (.ok a) := rfl

@[simp] theorem run_throw (e : Err) : (throw e : Svc α).run = .ret (.error e) := rfl

/-- What follows a program that answered or threw. -/
def next (f : α → Svc β) : Except Err α → Step (Except Err β)
  | .ok a => (f a).run
  | .error e => .ret (.error e)

@[simp] theorem next_ok (f : α → Svc β) (a : α) : next f (.ok a) = (f a).run := rfl

@[simp] theorem next_error (f : α → Svc β) (e : Err) :
    next f (.error e) = .ret (.error e) := rfl

@[simp] theorem run_bind (p : Svc α) (f : α → Svc β) :
    (p >>= f).run = p.run.bind (next f) := by
  show Prog.bind _ _ = _
  congr 1
  funext r
  cases r <;> rfl

/-- What `catch` makes of a program that answered or threw. -/
def caught (handle : Err → Svc α) : Except Err α → Step (Except Err α)
  | .ok a => .ret (.ok a)
  | .error e => (handle e).run

@[simp] theorem caught_ok (handle : Err → Svc α) (a : α) :
    caught handle (.ok a) = .ret (.ok a) := rfl

@[simp] theorem caught_error (handle : Err → Svc α) (e : Err) :
    caught handle (.error e) = (handle e).run := rfl

@[simp] theorem run_tryCatch (p : Svc α) (handle : Err → Svc α) :
    (tryCatch p handle).run = p.run.bind (caught handle) := by
  show Prog.bind _ _ = _
  congr 1
  funext r
  cases r <;> rfl

theorem wp_perform {label : Label} {act : World → Except Err β × World}
    {fault : Label → Err → Prop}
    {post : Except Err β → World → Prop} {w : World} :
    (perform label act).run.wp fault post w ↔
      post (act w).1 (act w).2 ∧ ∀ e, fault label e → post (.error e) w := Iff.rfl

theorem wp_query {read : World → Except Err β} {fault : Label → Err → Prop}
    {post : Except Err β → World → Prop} {w : World} (found : post (read w) w)
    (failed : ∀ e, post (.error e) w) : (query read).run.wp fault post w :=
  wp_perform.mpr ⟨found, fun e _ => failed e⟩

end Svc

end Tenantory
