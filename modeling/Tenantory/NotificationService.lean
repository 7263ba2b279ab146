import Tenantory.QueryPlatform
import Tenantory.TableStatements

/-! Notifications: the feed of a recipient and the listener that turns a dispatched
event into one row for each recipient. -/

namespace Tenantory

structure NotificationQueryDto where
  page : Option ℕ
  limit : Option ℕ
  unreadOnly : Option Bool
  type : Option NotificationType
  startDate : Option String
  endDate : Option String

structure NotificationDispatchEvent where
  tenantId : String
  recipientIds : List String
  recipientRoles : List UserRole
  type : NotificationType
  title : String
  body : Option String
  data : Option Json
  dedupKey : Option String
  deriving DecidableEq

structure NotificationDispatchInput where
  tenantId : String
  recipientIds : Option (List String)
  recipientRoles : Option (List UserRole)
  type : NotificationType
  title : String
  body : Option String
  data : Option Json
  dedupKey : Option String

namespace NotificationService

open UuidText

/-! ## Dispatch -/

def missingTenant : Err :=
  .internalServerError "Tenant context is required to dispatch notifications"

/-- The event that is emitted; without recipients there is none. -/
def dispatch (input : NotificationDispatchInput) : Except Err (Option NotificationDispatchEvent) :=
  if input.tenantId = "" then .error missingTenant
  else if (input.recipientIds.getD []).isEmpty &&
    (input.recipientRoles.getD []).isEmpty then .ok none
  else .ok (some {
    tenantId := input.tenantId
    recipientIds := input.recipientIds.getD []
    recipientRoles := input.recipientRoles.getD []
    type := input.type
    title := input.title
    body := input.body
    data := input.data
    dedupKey := input.dedupKey })

/-! ## The feed -/

/-- The WHERE clause of the feed, with its date bounds as the server reads them. -/
structure FeedFilter where
  tenant : Uuid
  recipient : Uuid
  unreadOnly : Bool
  type : Option NotificationType
  start : Option ℤ
  stop : Option ℤ

def FeedFilter.admits (filter : FeedFilter) (n : Notification) : Bool :=
  n.tenantId == filter.tenant && n.recipientId == filter.recipient && n.deletedAt.isNone &&
    (!filter.unreadOnly || n.readAt.isNone) && (filter.type.all (n.type == ·)) &&
    (filter.start.all fun start => start ≤ (n.createdAt : ℤ)) &&
    filter.stop.all fun stop => (n.createdAt : ℤ) ≤ stop

def dateBound (platform : Platform) (text : Option String) : Except Err (Option ℤ) :=
  match text with
  | none | some "" => .ok none
  | some text => some <$> platform.timestamp text

def feedFilter (platform : Platform) (tenantId recipientId : String)
    (query : Option NotificationQueryDto) : Except Err FeedFilter := do
  let tenant ← uuidParam tenantId
  let recipient ← uuidParam recipientId
  let start ← dateBound platform (query.bind (·.startDate))
  let stop ← dateBound platform (query.bind (·.endDate))
  pure {
    tenant, recipient, start, stop
    unreadOnly := (query.bind (·.unreadOnly)).getD false
    type := query.bind (·.type) }

/-- ORDER BY created_at DESC, id DESC -/
def newestFirst (platform : Platform) (rows : List Notification) : List Notification :=
  platform.orderBy (fun id => 2 ^ 128 - id.toNat) .desc (fun n => .number n.createdAt) rows

def assertDateRange (platform : Platform) (query : NotificationQueryDto) : Except Err Unit :=
  match query.startDate, query.endDate with
  | some startDate, some endDate =>
      if startDate = "" ∨ endDate = "" then .ok ()
      else
        match platform.dateTime startDate, platform.dateTime endDate with
        | some start, some stop =>
            if start > stop then .error (.badRequest "startDate must not be after endDate")
            else .ok ()
        -- a comparison with NaN is false
        | _, _ => .ok ()
  | _, _ => .ok ()

def buildLink (limit page : ℕ) : String := s!"/api/v1/notifications?page={page}&limit={limit}"

def findFeed (platform : Platform) (tenantId recipientId : String)
    (request : NotificationQueryDto) :
    Svc (PaginatedResponse Notification) := do
  match assertDateRange platform request with
  | .error err => throw err
  | .ok _ => do
      let page := request.page.getD 1
      let limit := request.limit.getD 20
      let (data, totalItems) ← query fun w => do
        let filter ← feedFilter platform tenantId recipientId (some request)
        let skip ← offset page limit
        let rows := w.db.notifications.select filter.admits
        pure (window skip (some limit) (newestFirst platform rows), rows.length)
      pure (paginated data totalItems (max 1 (pageCount totalItems limit)) page limit
        (buildLink limit))

def getUnreadCount (platform : Platform) (tenantId recipientId : String) : Svc ℕ :=
  query fun w => do
    let filter ← feedFilter platform tenantId recipientId none
    pure (w.db.notifications.select fun n => filter.admits n && n.readAt.isNone).length

/-! ## Actions of the recipient -/

/-- A WHERE clause of an UPDATE knows its columns under the name of the table, and under
another one the server refuses it before it reads a parameter. -/
def qualify (owner : String) : Except Err Unit :=
  if owner = "notifications" then .ok () else .error .undefinedTable

theorem qualify_singular {α : Type} (rest : Unit → Except Err α) :
    qualify "notification" >>= rest = .error .undefinedTable := rfl

/-- An UPDATE that keeps ids, with the number of rows it affects. -/
def updateWhere (p : Notification → Bool) (f : Notification → Notification)
    (keeps : ∀ r s, conflict (f r) s = conflict r s) (w : World) : ℕ × World :=
  ((w.db.notifications.select p).length,
    { w with db := { w.db with notifications := w.db.notifications.modify p f keeps } })

def markedRead (now : Timestamp) (n : Notification) : Notification :=
  { n with readAt := some now, updatedAt := now }

def markedDeleted (now : Timestamp) (n : Notification) : Notification :=
  { n with deletedAt := some now, updatedAt := now }

def unread (tenant recipient : Uuid) (n : Notification) : Bool :=
  n.tenantId == tenant && n.recipientId == recipient && n.readAt.isNone && n.deletedAt.isNone

def notFoundError (id : String) : Err := .notFound s!"Notification with ID {id} not found"

def markRead (tenantId recipientId id : String) : Svc Unit := do
  let affected ← write fun w => do
    qualify "notification"
    let id ← uuidParam id
    let tenant ← uuidParam tenantId
    let recipient ← uuidParam recipientId
    pure (updateWhere (fun n => n.id == id && unread tenant recipient n) (markedRead w.clock)
      (fun _ _ => rfl) w)
  if affected > 0 then pure ()
  else
    let existing ← query fun w => do
      let id ← uuidParam id
      let tenant ← uuidParam tenantId
      let recipient ← uuidParam recipientId
      pure (w.db.notifications.find? fun n =>
        n.id == id && n.tenantId == tenant && n.recipientId == recipient && n.deletedAt.isNone)
    if existing.isNone then throw (notFoundError id)

def markAllRead (tenantId recipientId : String) : Svc ℕ :=
  write fun w => do
    qualify "notification"
    let tenant ← uuidParam tenantId
    let recipient ← uuidParam recipientId
    pure (updateWhere (unread tenant recipient) (markedRead w.clock) (fun _ _ => rfl) w)

/-- A soft delete leaves rows that are deleted already as they are. -/
def remove (tenantId recipientId id : String) : Svc Unit := do
  let affected ← write fun w => do
    let uuid ← uuidParam id
    let tenant ← uuidParam tenantId
    let recipient ← uuidParam recipientId
    pure (updateWhere
      (fun n => n.id == uuid && n.tenantId == tenant && n.recipientId == recipient &&
        n.deletedAt.isNone)
      (markedDeleted w.clock) (fun _ _ => rfl) w)
  if affected = 0 then throw (notFoundError id)

end NotificationService

namespace StockMovementNotificationListener

def crossedThreshold (movement : StockMovementEvent) : Bool :=
  movement.before.availableQuantity > movement.safetyThreshold &&
    movement.after.availableQuantity ≤ movement.safetyThreshold

def dedupKey (movement : StockMovementEvent) : String :=
  s!"{movement.variantId}:{movement.warehouseId}"

def lowStockInput (movement : StockMovementEvent) : NotificationDispatchInput where
  tenantId := movement.tenantId
  recipientIds := none
  recipientRoles := some [.warehouseManager, .tenantAdmin]
  type := .lowStock
  title := "Low stock alert"
  body := some (s!"Available stock for {movement.sku.getD movement.variantId} dropped to " ++
    s!"{movement.after.availableQuantity} (threshold: {movement.safetyThreshold}).")
  data := some (.obj [("variantId", .str movement.variantId),
    ("warehouseId", .str movement.warehouseId), ("stockLevelId", .str movement.stockLevelId),
    ("sku", Json.nullable .str movement.sku),
    ("availableQuantity", .num movement.after.availableQuantity),
    ("safetyThreshold", .num movement.safetyThreshold)])
  dedupKey := some (dedupKey movement)

/-- What the listener dispatches for a movement. -/
def handleStockMovement (movement : StockMovementEvent) :
    Except Err (Option NotificationDispatchEvent) :=
  if crossedThreshold movement then NotificationService.dispatch (lowStockInput movement)
  else .ok none

end StockMovementNotificationListener

namespace NotificationListener

open UuidText

/-- Adds the members of a list to a set that keeps its order of insertion. -/
def addAll (set new : List String) : List String :=
  new.foldl (fun set id => if set.contains id then set else set ++ [id]) set

def resolveRecipients (payload : NotificationDispatchEvent) : Svc (List String) := do
  let recipients := addAll [] payload.recipientIds
  if payload.recipientRoles.isEmpty then pure recipients
  else
    let users ← query fun w => do
      let tenant ← uuidParam payload.tenantId
      pure (w.db.users.select fun u =>
        u.tenantId == tenant && payload.recipientRoles.contains u.role && u.isActive &&
          u.deletedAt.isNone)
    pure (addAll recipients (users.map fun u => uuidOut u.id))

def filterDeduplicated (payload : NotificationDispatchEvent) (dedupKey : String)
    (recipientIds : List String) : Svc (List String) := do
  let alreadyNotified ← query fun w => do
    let tenant ← uuidParam payload.tenantId
    let ids ← recipientIds.mapM uuidParam
    pure (w.db.notifications.select fun n =>
      n.tenantId == tenant && n.type == payload.type && n.dedupKey == some dedupKey &&
        n.readAt.isNone && n.deletedAt.isNone && ids.contains n.recipientId)
  let skip := alreadyNotified.map fun n => uuidOut n.recipientId
  pure (recipientIds.filter fun id => !skip.contains id)

/-- `save` of the new rows, in one transaction. -/
def saveRows (payload : NotificationDispatchEvent) (targets : List String) (w : World) :
    Except Err (Unit × World) := do
  let tenant ← uuidParam payload.tenantId
  let w ← targets.foldlM (fun (w : World) recipientId => do
    let recipient ← uuidParam recipientId
    let (_, w) ← w.insert fun id now =>
      { id, tenantId := tenant, recipientId := recipient, type := payload.type,
        title := payload.title, body := payload.body, data := payload.data,
        dedupKey := payload.dedupKey, readAt := none, createdAt := now, updatedAt := now,
        deletedAt := none : Notification }
    pure w) w
  pure ((), w)

def deliver (payload : NotificationDispatchEvent) : Svc Unit := do
  let recipientIds ← resolveRecipients payload
  let targets ← match payload.dedupKey with
    | none | some "" => pure recipientIds
    | some dedupKey =>
        if recipientIds.isEmpty then pure [] else filterDeduplicated payload dedupKey recipientIds
  if targets.isEmpty then pure ()
  else
    statement (.insert (.notifications payload.tenantId payload.type payload.dedupKey targets))
      (saveRows payload targets)

/-- Whatever goes wrong is logged. -/
def handleDispatch (payload : NotificationDispatchEvent) : Svc Unit :=
  tryCatch (deliver payload) fun _ => pure ()

end NotificationListener
end Tenantory
