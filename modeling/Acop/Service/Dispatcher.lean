import Acop.Service.Approval
import Acop.Envelope

/-! `services/tools/dispatcher.py`: the one execution path. The claim commits; the
gate, the adapter and the outcome share a second transaction. -/
namespace Acop

open Acop.Transaction

namespace ExecutionDispatcher

variable {runtime : Runtime} (process : Process runtime) (settings : Settings)

structure GateResult where
  reason : PolicyReason
  /-- The live definition, exactly where the gate allowed. -/
  definition : Option ToolDefinition

def GateResult.decision (gate : GateResult) : GateDecision :=
  if gate.definition.isSome then .allow else .deny

def GateResult.deny (reason : PolicyReason) : GateResult := ⟨reason,none⟩

/-- The digest over what was stored, under the declaration as it is now. -/
def recomputedDigest (runtime : Runtime) (definition : ToolDefinition) (invocation : ToolInvocation) : String :=
  envelopeDigest runtime (buildEnvelope runtime definition invocation.inputCanonical
    (buildTargetBlock invocation.targetKind invocation.targetAssetId invocation.targetRef))

/-- Checks 1 to 4 of the final gate: the refusal or the definition to run. -/
def gateDefinition (runtime : Runtime) (invocation : ToolInvocation) (registration : Option ToolRegistration)
    (definition : ToolDefinition) : Option PolicyReason :=
  match registration with
  | none => some .capabilityNotBound
  | some registration =>
    match registration.lifecycleState with
    | .retired => some .toolRetired
    | .disabled => some .toolDisabled
    | .active =>
      if definition.prohibited ∨ definition.capabilityTags ∩ prohibitedCapabilities ≠ ∅ then
        some .prohibitedCapability
      else if recomputedDigest runtime definition invocation ≠ invocation.envelopeDigest then
        some .envelopeIntegrityFailed
      else none

def finalGate (invocation : ToolInvocation) : Service GateResult := do
  match process.getDefinition invocation.toolName invocation.toolVersion with
  | none => return .deny .capabilityNotBound
  | some definition =>
    let registration ← query (.getRegistration invocation.toolRegistrationId)
    match gateDefinition runtime invocation registration definition with
    | some reason => return .deny reason
    | none =>
      if invocation.approvalRequired then
        let approvals ← approvedRows invocation
        let moment ← query .utcNow
        match approvalFailure invocation approvals moment with
        | some reason => return .deny reason
        | none => return ⟨.allowed,some definition⟩
      else return ⟨.allowed,some definition⟩

/-- An asset with its live identifiers by namespace, of which a later row replaces an earlier one. -/
def assetTarget (asset : Asset) (rows : List AssetIdentifier) : ResolvedTarget where
  kind := .asset
  assetId := some asset.id
  displayName := asset.displayName
  assetType := asset.assetType
  identifiers := PyValue.lastWins (rows.map fun row => (row.namespaceName,row.valueNormalized))

def resolvedTarget (invocation : ToolInvocation) : Service ResolvedTarget := do
  match invocation.targetKind, invocation.targetAssetId with
  | .asset, some assetId =>
    match ← query (.getAsset assetId) with
    | none => throw (.tool .targetUnavailable "The target asset no longer exists." [])
    | some asset =>
      let rows ← query (.selectIdentifiers asset.id)
      return assetTarget asset rows
  | kind, _ => return {kind, externalRef := invocation.targetRef.getD []}

def adapterRequest (invocation : ToolInvocation) (definition : ToolDefinition) : Service AdapterRequest := do
  let target ← resolvedTarget invocation
  return {
    invocationId := invocation.id
    toolName := invocation.toolName
    toolVersion := invocation.toolVersion
    target
    payload := invocation.inputCanonical
    timeoutSeconds := definition.timeoutSeconds
    attempt := invocation.attemptCount}

/-- A finished execution that is recorded under an error category. -/
def fail (invocation : ToolInvocation) (toState : InvocationState) (category : ToolErrorCategory)
    (reason : String) : Service (ToolInvocation × InvocationState) := do
  let now ← query .utcNow
  let row ← releaseLease invocation {
    toState
    reason
    columns := fun progress => {progress with
      finishedAt := some now
      errorCategory := some category
      errorDetailSanitized := some category.phrase}}
  return (row,toState)

/-- `_declared_output`: the report through the declared model, or `none`. Naming the
fields of a report that fails it sorts them. -/
def declaredOutput (runtime : Runtime) (definition : ToolDefinition) (payload : List (PyValue × PyValue)) :
    Service (Option JsonObject) :=
  match definition.outputModel.modelValidate payload with
  | .valid dump => pure (some dump)
  | .invalid => if runtime.sortable (payload.map (·.1)) then pure none else throw .typeError
  | .raised => throw .unclassified

/-- Binding a Python mapping to a `jsonb` column. -/
def bindJsonb (runtime : Runtime) (entries : List (PyValue × PyValue)) : Service JsonObject :=
  match (PyValue.toJsonbFields runtime entries).map PyValue.lastWins with
  | some fields => pure fields
  | none => throw .typeError

/-- `dict(...) or None`. -/
def bindHint (runtime : Runtime) (entries : List (PyValue × PyValue)) : Service (Option JsonObject) := do
  if entries.isEmpty then return none
  else return some (← bindJsonb runtime entries)

def recordAdapterResult (runtime : Runtime) (invocation : ToolInvocation) (definition : ToolDefinition)
    (result : AdapterResult) : Service (ToolInvocation × InvocationState) := do
  match result.outcome with
  | .timeout => fail invocation .failed .timeout ToolErrorCategory.timeout.value
  | .unavailable => fail invocation .failed .adapterUnavailable ToolErrorCategory.adapterUnavailable.value
  | .failure => fail invocation .failed .executionFailed ToolErrorCategory.executionFailed.value
  | .success =>
    match ← declaredOutput runtime definition result.payload with
    | none => fail invocation .failed .outputContractViolation ToolErrorCategory.outputContractViolation.value
    | some declared =>
      let (summary,digest) := sanitizeOutput runtime definition declared
      let hint ← bindHint runtime result.rollbackHint
      let row ← releaseLease invocation {
        toState := .executed
        reason := PolicyReason.allowed.value
        columns := fun progress => {progress with
          resultSummary := some summary
          resultDigest := some digest
          rollbackHint := hint}}
      return (row,.executed)

/-- The attempts left after `attempt - 1` of them, `left` counting down to the last. -/
def attempts (runtime : Runtime) (invocation : ToolInvocation) (definition : ToolDefinition) (adapter : String)
    (request : AdapterRequest) : (left : Nat) → ToolErrorCategory → Service (ToolInvocation × InvocationState)
  | 0, last => fail invocation .failed last last.value
  | left + 1, _ => do
    match ← query (.adapterExecute adapter request) with
    | .timedOut => fail invocation .timedOut .timeout ToolErrorCategory.timeout.value
    | .toolError category =>
      if 0 < left ∧ definition.adapterIdempotent ∧ category ∈ definition.retryPolicy.retryOn then
        query (.sleep definition.retryPolicy.backoffSeconds)
        attempts runtime invocation definition adapter request left category
      else fail invocation .failed category category.value
    | .raised => fail invocation .failed .internalError ToolErrorCategory.internalError.value
    | .result result => recordAdapterResult runtime invocation definition result

def execute (invocation : ToolInvocation) (definition : ToolDefinition) :
    Service (ToolInvocation × InvocationState) := do
  match process.resolveAdapter definition.adapterId with
  | none => fail invocation .failed .capabilityNotBound PolicyReason.capabilityNotBound.value
  | some adapter =>
    let request ← adapterRequest invocation definition
    attempts runtime invocation definition adapter request
      definition.retryPolicy.maxAttempts.toNat .internalError

def observation : AdapterReply → ValidationOutcome × List (PyValue × PyValue)
  | .result ⟨.success,payload,_⟩ => (.confirmed,payload)
  | .result ⟨_,payload,_⟩ => (.notConfirmed,payload)
  | _ => (.indeterminate,[])

/-- An independent observation, where the adapter still resolves. -/
def validation (invocation : ToolInvocation) (definition : ToolDefinition) :
    Service (ValidationOutcome × List (PyValue × PyValue)) := do
  match process.resolveAdapter definition.adapterId with
  | none => return (.indeterminate,[])
  | some adapter =>
    let request ← adapterRequest invocation definition
    return observation (← query (.adapterValidate adapter request))

/-- `EXECUTED` is not success. -/
def afterExecution (invocation : ToolInvocation) (definition : ToolDefinition) : Service InvocationState := do
  if invocation.validationRequired then
    let leaseId ← query .uuid4
    let now ← query .utcNow
    let invocation ← transition invocation {
      toState := .validating
      reason := PolicyReason.allowed.value
      columns := fun progress => {progress with
        executorLeaseId := some leaseId
        leaseExpiresAt := some (now + timedelta settings.toolsExecutionLeaseSeconds)}}
    if definition.validationDelaySeconds ≠ 0 then
      query (.sleep definition.validationDelaySeconds)
    let (outcome,observed) ← validation process invocation definition
    let now ← query .utcNow
    let detail ← bindJsonb runtime observed
    if outcome = .confirmed then
      let _ ← releaseLease invocation {
        toState := .succeeded
        reason := PolicyReason.allowed.value
        columns := fun progress => {progress with
          validationOutcome := some outcome
          validationDetail := some detail
          validatedAt := some now
          finishedAt := some now}}
      return .succeeded
    else
      let _ ← releaseLease invocation {
        toState := .validationFailed
        reason := ToolErrorCategory.validationFailed.value
        columns := fun progress => {progress with
          validationOutcome := some outcome
          validationDetail := some detail
          validatedAt := some now
          finishedAt := some now
          errorCategory := some .validationFailed
          errorDetailSanitized := some ToolErrorCategory.validationFailed.phrase}}
      return .validationFailed
  else
    let now ← query .utcNow
    let _ ← transition invocation {
      toState := .succeeded
      reason := PolicyReason.allowed.value
      columns := fun progress => {progress with finishedAt := some now}}
    return .succeeded

def vanished (id : Uuid) : Fault := .lookup s!"Invocation {id.text} vanished."

/-- The gate's evaluation is appended before ownership is asserted. -/
def gateEvent (invocation : ToolInvocation) (leaseId : Uuid) (gate : GateResult) : Service ToolInvocationEvent :=
  appendEvent invocation.id (some invocation.state) invocation.state gate.reason.value none
    [("gate",.str "final"),("decision",.str gate.decision.value),("reason",.str gate.reason.value),
      ("lease_id",.str leaseId.text)]

def refuseAtGate (invocation : ToolInvocation) (reason : PolicyReason) : Service InvocationState := do
  let now ← query .utcNow
  let _ ← releaseLease invocation {
    toState := .expired
    reason := reason.value
    detail := [("gate",.str "final")]
    columns := fun progress => {progress with
      finishedAt := some now
      errorCategory := some .policyDenied
      errorDetailSanitized := some ToolErrorCategory.policyDenied.phrase}}
  return .expired

/-- What the second transaction does once the gate is recorded under the lease. -/
def runGated (invocation : ToolInvocation) (gate : GateResult) : Service InvocationState := do
  match gate.definition with
  | none => refuseAtGate invocation gate.reason
  | some definition =>
    let (row,state) ← execute process invocation definition
    if state = .executed then afterExecution process settings row definition
    else return state

def runClaimed (invocationId leaseId : Uuid) : Service InvocationState := do
  match ← query (.getInvocation invocationId) with
  | none => throw (vanished invocationId)
  | some invocation =>
    let gate ← finalGate process invocation
    let event ← gateEvent invocation leaseId gate
    let owned ← recordFinalGateIfOwned invocationId leaseId gate.decision gate.reason event.id
    let row ← refresh invocation
    if owned then
      let state ← runGated process settings row gate
      Program.commitNow
      return state
    else
      -- `_abandon_lost_lease`: the row is someone else's.
      Program.commitNow
      return row.state

/-- `execution_parameters.get("timeout_seconds", 30.0)`. -/
def declaredTimeout (parameters : JsonObject) : Rat :=
  match Json.get parameters "timeout_seconds" with
  | some (.float seconds) => seconds
  | some (.int seconds) => seconds
  | _ => 30

def executeOnce (invocationId : Uuid) : Service InvocationState := do
  let leaseId ← query .uuid4
  let now ← query .utcNow
  match ← query (.getInvocation invocationId) with
  | none => throw (.lookup s!"Invocation {invocationId.text} does not exist.")
  | some invocation =>
    if invocation.state = .ready then
      let claimed ← claimForExecution invocationId leaseId
        (now + timedelta settings.toolsExecutionLeaseSeconds)
        (now + timedelta (declaredTimeout invocation.executionParameters))
      if claimed then
        Program.commitNow
        runClaimed process settings invocationId leaseId
      else
        let row ← refresh invocation
        Program.commitNow
        return row.state
    else
      Program.commitNow
      return invocation.state

end ExecutionDispatcher

end Acop
