import Tenantory.AuditService
import Tenantory.NotificationService

/-! The table of the audit log: the listener that stores the events, and the pages that
administrators and auditors read. -/

namespace Tenantory

structure Audit where
  id : Uuid
  tenantId : Uuid
  actorId : Option Uuid
  action : AuditAction
  entityType : AuditedEntityType
  entityId : Uuid
  oldValues : Option Json
  newValues : Option Json
  metadata : AuditMetadata
  createdAt : Timestamp
  deriving DecidableEq

instance : Entity Audit where
  id := Audit.id
  owner := Audit.tenantId
  conflict r s := r.id == s.id
  refl r := by simp
  symm r s := by simp only [BEq.comm]
  same_id r s h := by simp [h]

/-- The state of the application together with the audit log. -/
structure AuditState where
  world : World
  auditLogs : Table Audit

/-! ## The listener -/

namespace AuditListener

def row (payload : AuditEvent) (id : Uuid) (now : Timestamp) : Except Err Audit := do
  let tenantId ← uuidParam payload.tenantId
  let actorId ← payload.actorId.mapM uuidParam
  let entityId ← uuidParam payload.entityId
  pure {
    id, tenantId, actorId, entityId
    action := payload.action
    entityType := payload.entityType
    oldValues := payload.oldValues
    newValues := payload.newValues
    metadata := payload.metadata
    createdAt := now }

/-- The tenant and the actor of the row are stored. -/
def references (db : Database) (row : Audit) : Bool :=
  hasTenant db row.tenantId && row.actorId.all fun actor => db.users.rows.any (·.id == actor)

/-- An event that cannot be stored is logged and lost. -/
def addAudit (payload : AuditEvent) (s : AuditState) : AuditState :=
  match row payload (s.world.ids 0) s.world.clock with
  | .error _ => s
  | .ok row =>
      match s.auditLogs.insert? row with
      | none => s
      | some auditLogs =>
          if references s.world.db row then
            { world := { s.world with ids := fun n => s.world.ids (n + 1) }, auditLogs }
          else s

/-- The listener on the events that a request has emitted. -/
def onEvents (events : List Event) (s : AuditState) : AuditState :=
  events.foldl (fun s event => match event with
    | .auditLog payload => addAudit payload s
    | _ => s) s

end AuditListener

/-! ## The pages -/

structure AuditQueryDto where
  page : Option ℕ
  limit : Option ℕ
  actorId : Option String
  action : Option AuditAction
  entityType : Option AuditedEntityType
  startDate : Option String
  endDate : Option String

structure AuditActorSummary where
  id : Uuid
  email : String
  firstName : String
  lastName : String
  deriving DecidableEq

structure AuditLogReadModel extends Audit where
  actor : Option AuditActorSummary
  deriving DecidableEq

namespace AuditService

/-- The WHERE clause of the log, with its date bounds as the server reads them. -/
structure LogFilter where
  tenant : Uuid
  actor : Option Uuid
  action : Option AuditAction
  entityType : Option AuditedEntityType
  start : Option ℤ
  stop : Option ℤ
  entity : Option Uuid

def LogFilter.admits (filter : LogFilter) (log : Audit) : Bool :=
  log.tenantId == filter.tenant && (filter.actor.all fun actor => log.actorId == some actor) &&
    (filter.action.all (log.action == ·)) && (filter.entityType.all (log.entityType == ·)) &&
    (filter.start.all fun start => start ≤ (log.createdAt : ℤ)) &&
    (filter.stop.all fun stop => (log.createdAt : ℤ) ≤ stop) &&
    filter.entity.all (log.entityId == ·)

def logFilter (platform : Platform) (tenantId : String) (query : AuditQueryDto)
    (entityId : Option String) : Except Err LogFilter := do
  let tenant ← uuidParam tenantId
  let actor ← match query.actorId with
    | none | some "" => .ok none
    | some actorId => some <$> uuidParam actorId
  let start ← NotificationService.dateBound platform query.startDate
  let stop ← NotificationService.dateBound platform query.endDate
  let entity ← entityId.mapM uuidParam
  pure {
    tenant, actor, start, stop, entity
    action := query.action
    entityType := query.entityType }

/-- ORDER BY created_at DESC, id DESC -/
def newestFirst (platform : Platform) (rows : List Audit) : List Audit :=
  platform.orderBy (fun id => 2 ^ 128 - id.toNat) .desc (fun log => .number log.createdAt) rows

/-- The left join with the live user who acted. -/
def actorOf (db : Database) (log : Audit) : Option AuditActorSummary :=
  (log.actorId.bind fun actor => db.users.find? fun u => u.id == actor && u.deletedAt.isNone).map
    fun u => { id := u.id, email := u.email, firstName := u.firstName, lastName := u.lastName }

def assertDateRange (platform : Platform) (query : AuditQueryDto) : Except Err Unit :=
  match query.startDate, query.endDate with
  | some startDate, some endDate =>
      if startDate = "" ∨ endDate = "" then .ok ()
      else
        match platform.dateTime startDate, platform.dateTime endDate with
        | some start, some stop =>
            if start > stop then .error (.badRequest "startDate must not be after endDate")
            else .ok ()
        -- a comparison with NaN is false
        | _, _ => .ok ()
  | _, _ => .ok ()

def buildLink (basePath : String) (limit page : ℕ) : String :=
  s!"{basePath}?page={page}&limit={limit}"

/-- One page of the log; `basePath` is that of its links. -/
def readLogs (platform : Platform) (auditLogs : Table Audit) (tenantId : String)
    (query : AuditQueryDto) (entityId : Option String) (basePath : String) (w : World) :
    Except Err (PaginatedResponse AuditLogReadModel) := do
  assertDateRange platform query
  let page := query.page.getD 1
  let limit := query.limit.getD 20
  let filter ← logFilter platform tenantId query entityId
  let skip ← offset page limit
  let rows := auditLogs.select filter.admits
  let data := (window skip (some limit) (newestFirst platform rows)).map
    fun log => { log with actor := actorOf w.db log : AuditLogReadModel }
  pure (paginated data rows.length (max 1 (pageCount rows.length limit)) page limit
    (buildLink basePath limit))

def findLogs (platform : Platform) (auditLogs : Table Audit) (tenantId : String)
    (request : AuditQueryDto) : Svc (PaginatedResponse AuditLogReadModel) :=
  query (readLogs platform auditLogs tenantId request none "/api/v1/audit/logs")

def findEntityLogs (platform : Platform) (auditLogs : Table Audit) (tenantId entityId : String)
    (request : AuditQueryDto) : Svc (PaginatedResponse AuditLogReadModel) :=
  query (readLogs platform auditLogs tenantId request (some entityId)
    s!"/api/v1/audit/logs/{entityId}")

end AuditService
end Tenantory
