import Tenantory.ApplicationState

/-! The publishing side of the audit trail: `record` stamps an event with the
tenant and actor of the request's audit context and hands it to the emitter. -/

namespace Tenantory

structure AuditEventInput where
  action : AuditAction
  entityType : AuditedEntityType
  entityId : String
  oldValues : Option Json
  newValues : Option Json
  metadata : Option AuditMetadata
  actorId : Option String

namespace AuditService

def missingTenant : Err := Err.internalServerError "Tenant context is required for audit logging"

def metadata (context : AuditContextData) (input : AuditEventInput) : AuditMetadata where
  ipAddress := (input.metadata.bind (·.ipAddress)).or context.ipAddress
  userAgent := (input.metadata.bind (·.userAgent)).or context.userAgent
  requestId := (input.metadata.bind (·.requestId)).or context.requestId
  reason := input.metadata.bind (·.reason)

/-- An empty tenant id is no tenant: the source tests it for truth. -/
def event? (context : Option AuditContextData) (input : AuditEventInput) : Option AuditEvent := do
  let context ← context
  let tenantId ← context.tenantId
  if tenantId = "" then none
  else some {
    tenantId
    actorId := input.actorId.or context.actorId
    action := input.action
    entityType := input.entityType
    entityId := input.entityId
    oldValues := input.oldValues
    newValues := input.newValues
    metadata := metadata context input }

/-- The audit context names a tenant. -/
def Audited (context : Option AuditContextData) : Prop :=
  ∃ data tenantId, context = some data ∧ data.tenantId = some tenantId ∧ tenantId ≠ ""

theorem event?_of_audited {context : Option AuditContextData} (audited : Audited context)
    (input : AuditEventInput) : ∃ event, event? context input = some event := by
  obtain ⟨data, tenantId, rfl, named, some_text⟩ := audited
  simp [event?, named, some_text]

def record (context : Option AuditContextData) (input : AuditEventInput) : Svc Unit :=
  match event? context input with
  | some event => emit (.auditLog event)
  | none => throw missingTenant

end AuditService
end Tenantory
