import Acop.Audit
import Acop.Contract
import Acop.Service.State

/-! The remaining operations that touch an invocation or what its gates read:
cancellation, reconciliation, taking a tool out of service, and the life of an
asset. The audit row of a lifecycle change is no statement here: no table that is
kept holds it, and what matters is whether the database takes it. -/
namespace Acop

open Acop.Transaction

/-- `POST /tool-invocations/{id}/cancel`. A lost race is the client's conflict. -/
def cancel (principal : Principal) (invocationId : Uuid) (reason : String) : Service ToolInvocation := do
  match ← query (.getInvocation invocationId) with
  | none => throw (.notFound s!"Invocation {invocationId.text} does not exist.")
  | some invocation =>
    if invocation.principalSubject ≠ principal.subject ∧ ¬ principal.HasRole .admin then
      throw (.authorization "Only the requester or an admin may cancel.")
    if invocation.state ≠ .awaitingApproval ∧ invocation.state ≠ .ready then
      throw (.validation s!"Invocation {invocationId.text} is {invocation.state.value} and cannot be cancelled.")
    let row ← (transition invocation {
        toState := .cancelled
        reason := PolicyReason.allowed.value
        actorSubject := some principal.subject
        detail := [("reason",.str reason)]}).tryCatch fun fault => match fault with
      | .tool .staleTransition _ context => do
        let observed := ((Json.get context "observed_state").bind fun value => match value with
          | .str state => some state
          | _ => none).getD ""
        throw (.invocationStateConflict s!"{invocationId.text} is {observed}: the cancellation was not applied."
          [("invocation_id",.str invocationId.text),("observed_state",.str observed)])
      | fault => throw fault
    Program.commitNow
    return row

/-- `ReconciliationService.record`: a judgement beside the record, never in it. -/
def reconcile (principal : Principal) (invocationId : Uuid) (disposition : ReconciliationDisposition)
    (justification : String) (evidenceRef : JsonObject) : Service ToolInvocationReconciliation := do
  match ← query (.getInvocation invocationId) with
  | none => throw (.tool .toolNotFound s!"Invocation {invocationId.text} does not exist."
      [("invocation_id",.str invocationId.text)])
  | some invocation =>
    if invocation.state ≠ .executionIndeterminate then
      throw (.tool .toolPolicyDenied
        s!"Invocation {invocationId.text} is {invocation.state.value}. Only an indeterminate execution can be reconciled."
        [("state",.str invocation.state.value)])
    let inserted ← query (.insertReconciliation {
      invocationId := invocation.id
      disposition
      justification
      evidenceRef := redactObject evidenceRef
      reconciledBySubject := principal.subject
      reconciledByType := principal.principalType
      reconciledByIssuer := principal.issuer
      reconciledByAuthMethod := principal.authMethod})
    let row ← orRaise inserted
    let _ ← appendEvent invocation.id (some .executionIndeterminate) .executionIndeterminate
      ("reconciled:" ++ disposition.lower) (some principal.subject)
      [("reconciliation_id",.str row.id.text)]
    Program.commitNow
    return row

/-- `_lifecycle_target`: the row and the declaration, both of which must exist. PostgreSQL refuses a
parameter it cannot hold. -/
def lifecycleTarget (definition : Option ToolDefinition) (toolName toolVersion : String) :
    Service (ToolRegistration × ToolDefinition) := do
  if ¬ (Json.plainText toolName ∧ Json.plainText toolVersion) then
    throw (.integrity .columnType)
  match ← query (.selectRegistration toolName toolVersion), definition with
  | some row, some definition => return (row,definition)
  | _, _ => throw (.notFound s!"No tool {toolName}@{toolVersion}.")

/-- The unit of work writes an attribute only where its value differs from the one loaded. -/
def dirty {Value : Type} [DecidableEq Value] (loaded assigned current : Value) : Value :=
  if assigned = loaded then current else assigned

def dirtyColumns (loaded assigned current : RegistrationColumns) : RegistrationColumns where
  lifecycleState := dirty loaded.lifecycleState assigned.lifecycleState current.lifecycleState
  disabledAt := dirty loaded.disabledAt assigned.disabledAt current.disabledAt
  disabledBySubject := dirty loaded.disabledBySubject assigned.disabledBySubject current.disabledBySubject
  disabledReason := dirty loaded.disabledReason assigned.disabledReason current.disabledReason
  retiredAt := dirty loaded.retiredAt assigned.retiredAt current.retiredAt
  retiredReason := dirty loaded.retiredReason assigned.retiredReason current.retiredReason

def flushRegistration (loaded : ToolRegistration) (assigned : RegistrationColumns) : Service Unit := do
  if assigned ≠ loaded.toRegistrationColumns then
    let flushed ← query (.updateRegistration loaded.id (dirtyColumns loaded.toRegistrationColumns assigned))
    let _ ← orRaise flushed

def disableTool (definition : Option ToolDefinition) (principal : Principal) (requestId : RequestId)
    (toolName toolVersion reason : String) : Service Unit := do
  let target ← lifecycleTarget definition toolName toolVersion
  let now ← query .utcNow
  flushRegistration target.1 {target.1.toRegistrationColumns with
    lifecycleState := .disabled
    disabledAt := some now
    disabledBySubject := some principal.subject
    disabledReason := some reason}
  let _ ← orRaise (AuditService.record
    (disableEvent target.1 target.2.permissionClass toolName toolVersion reason) principal requestId)
  Program.commitNow

def enableTool (definition : Option ToolDefinition) (principal : Principal) (requestId : RequestId)
    (toolName toolVersion reason : String) : Service Unit := do
  let target ← lifecycleTarget definition toolName toolVersion
  if target.1.lifecycleState = .retired then
    throw (.notFound
      s!"{toolName}@{toolVersion} is retired. Restoring it requires the code declaration to return.")
  flushRegistration target.1 {target.1.toRegistrationColumns with
    lifecycleState := .active
    disabledAt := none
    disabledBySubject := none
    disabledReason := none}
  let _ ← orRaise (AuditService.record
    (enableEvent target.1 target.2.permissionClass toolName toolVersion reason) principal requestId)
  Program.commitNow

/-- `AssetUpdate`, whose schema admits no terminal lifecycle state. -/
structure AssetUpdate where
  displayName : Option String := none
  description : Option String := none
  lifecycleState : Option LifecycleState := none
  patchable : ∀ state ∈ lifecycleState, ¬ state.Terminal

def AssetUpdate.assign (payload : AssetUpdate) (columns : AssetColumns) : AssetColumns := {columns with
  displayName := payload.displayName.getD columns.displayName
  description := payload.description.orElse fun _ => columns.description
  lifecycleState := payload.lifecycleState.getD columns.lifecycleState}

def flushAsset (loaded : Asset) (assigned : AssetColumns) : Service Unit := do
  if assigned ≠ loaded.toAssetColumns then
    let flushed ← query (.updateAsset loaded.id fun current => {
      displayName := dirty loaded.displayName assigned.displayName current.displayName
      description := dirty loaded.description assigned.description current.description
      lifecycleState := dirty loaded.lifecycleState assigned.lifecycleState current.lifecycleState
      retiredAt := dirty loaded.retiredAt assigned.retiredAt current.retiredAt})
    let _ ← orRaise flushed

def getAsset (assetId : Uuid) : Service Asset := do
  match ← query (.getAsset assetId) with
  | some asset => return asset
  | none => throw (.notFound s!"Asset {assetId.text} does not exist.")

def updateAsset (assetId : Uuid) (payload : AssetUpdate) : Service Unit := do
  let asset ← getAsset assetId
  if asset.lifecycleState.Terminal then
    throw (.conflict s!"Asset is {asset.lifecycleState.value} and cannot be modified."
      [("lifecycle_state",.str asset.lifecycleState.value)])
  flushAsset asset (payload.assign asset.toAssetColumns)
  Program.commitNow

def retireAsset (assetId : Uuid) : Service Unit := do
  let asset ← getAsset assetId
  if asset.lifecycleState = .retired then
    throw (.conflict "Asset is already retired." [])
  if asset.lifecycleState = .merged then
    throw (.conflict "A merged asset cannot be retired separately." [])
  let now ← query .utcNow
  flushAsset asset {asset.toAssetColumns with
    lifecycleState := .retired
    retiredAt := some now}
  Program.commitNow

end Acop
