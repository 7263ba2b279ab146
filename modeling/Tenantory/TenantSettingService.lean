import Tenantory.AuditService
import Tenantory.TableStatements

/-! The settings of a tenant: one JSON object, which an update merges into. -/

namespace Tenantory

structure UpdateSettingsDto where
  config : Property Json

namespace Json

def fields : Json → List (String × Json)
  | obj fields => fields
  | _ => []

/-- `{ ...a, ...b }` -/
def spread (a b : Json) : Json :=
  let kept := a.fields.map fun field =>
    match b.fields.find? (·.1 == field.1) with
    | some replaced => replaced
    | none => field
  obj (kept ++ b.fields.filter fun field => !a.fields.any (·.1 == field.1))

end Json

namespace TenantSettingService

open UuidText

/-! ## Statements -/

def readByTenant (tenantId : String) (w : World) : Except Err (Option TenantSetting) := do
  let tenant ← uuidParam tenantId
  pure (w.db.tenantSettings.find? fun s => s.tenantId == tenant)

/-- The row with the columns of the entity in it. -/
def overwrite (entity : TenantSetting) (now : Timestamp) (row : TenantSetting) : TenantSetting :=
  if entity = row then row
  else if entity.updatedAt = row.updatedAt then { entity with updatedAt := now }
  else entity

/-- UPDATE of the columns in which `written` differs from the loaded row. -/
def merge (written loaded row : TenantSetting) : TenantSetting where
  id := column written.id loaded.id row.id
  tenantId := column written.tenantId loaded.tenantId row.tenantId
  config := column written.config loaded.config row.config
  createdAt := column written.createdAt loaded.createdAt row.createdAt
  updatedAt := column written.updatedAt loaded.updatedAt row.updatedAt

@[simp] theorem merge_self (written row : TenantSetting) : merge written row row = written := by
  simp [merge]

/-- What `save` writes for an entity, given what it has loaded; an entity without a
stored row is inserted. -/
def saveLoaded (entity : TenantSetting) (loaded : Database) (w : World) :
    Except Err (TenantSetting × World) := do
  match loaded.rowById TenantSetting entity.id with
  | none =>
      let db ← w.db.insertRow entity
      pure (entity, { w with db })
  | some stored =>
      let row := overwrite entity w.clock stored
      let w ← w.update entity.id (merge row stored)
      pure (row, w)

/-! ## The service -/

def settingsNotFound : Err := .notFound "Tenant settings not found"

def getSettings (tenantId : String) : Svc TenantSetting := do
  match ← query (readByTenant tenantId) with
  | none => throw settingsNotFound
  | some settings => pure settings

/-- An object counts as true in the test of the source, `null` does not. -/
def merged (dto : UpdateSettingsDto) (settings : TenantSetting) : TenantSetting :=
  match dto.config with
  | .value config => { settings with config := settings.config.spread config }
  | _ => settings

def updateSettings (context : Option AuditContextData) (tenantId : String)
    (dto : UpdateSettingsDto) : Svc TenantSetting := do
  let settings ← getSettings tenantId
  let edited := merged dto settings
  let saved ← saving (.setting edited) (saveLoaded edited)
  AuditService.record context
    { action := .update
      entityType := .tenantSetting
      entityId := uuidOut saved.id
      oldValues := some (.obj [("config", settings.config)])
      newValues := some (.obj [("config", saved.config)])
      metadata := none
      actorId := none }
  pure saved

end TenantSettingService
end Tenantory
