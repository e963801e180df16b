import Acop.Service.State
import Acop.Policy

/-! `services/tools/invocation.py`: creating an invocation and taking it as far as
`READY`. The refusal of a request is recorded and committed before it is raised. -/
namespace Acop

open Acop.Transaction

structure InvocationRequest where
  toolName : String
  toolVersion : String
  arguments : List (PyValue × PyValue)
  targetAssetId : Option Uuid := none
  targetRef : Option JsonObject := none
  idempotencyKey : Option String := none
  requestId : Option String := none

/-- `_REFUSAL_ERRORS`. -/
def refusalError : PolicyReason → ToolErrorClass
  | .schemaInvalid => .toolInput
  | .targetInvalid => .invalidTarget
  | .targetOutOfScope => .invalidTarget
  | .targetRetired => .invalidTarget
  | .toolDisabled => .toolDisabled
  | .toolRetired => .toolDisabled
  | .roleInsufficient => .toolAuthorization
  | .capabilityNotBound => .toolNotFound
  | .prohibitedCapability => .prohibitedCapability
  | .environmentRestricted => .toolPolicyDenied
  | .approvalMissing => .toolPolicyDenied
  | .approvalExpired => .toolPolicyDenied
  | .approvalEnvelopeMismatch => .toolPolicyDenied
  | .envelopeIntegrityFailed => .toolPolicyDenied
  | .internalError => .policyEngineFailure
  | .allowed => .toolPolicyDenied

namespace ToolInvocationService

variable (runtime : Runtime) (request : InvocationRequest) (principal : Principal)

def requestedKind : TargetKind :=
  if request.targetAssetId.isSome then .asset
  else if (truthy request.targetRef).isSome then .externalRef
  else .none

def registration (toolName toolVersion : String) : Service ToolRegistration := do
  match ← query (.selectRegistration toolName toolVersion) with
  | some row => return row
  | none => throw (.tool .toolNotFound s!"No registration exists for {toolName}@{toolVersion}."
      [("tool_name",.str toolName),("tool_version",.str toolVersion)])

def targetFacts : Option Asset → TargetFacts
  | some asset => {
    kind := .asset
    assetId := some asset.id
    assetType := asset.assetType
    lifecycleState := asset.lifecycleState.value}
  | none => {kind := .asset, found := false}

def resolveTarget : Service TargetFacts := do
  match request.targetAssetId with
  | some assetId => return targetFacts (← query (.getAsset assetId))
  | none => match truthy request.targetRef with
    | some targetRef => return {kind := .externalRef, externalRef := targetRef}
    | none => return {kind := .none}

def idempotencyConflict (key : String) (existing : ToolInvocation) : Fault :=
  .tool .idempotencyConflict "This idempotency key was already used for a different request."
    [("idempotency_key",.str key),("existing_invocation_id",.str existing.id.text)]

def existingForKey (digest : String) : Service (Option ToolInvocation) := do
  match request.idempotencyKey with
  | none => return none
  | some key =>
    if key = "" then return none
    match ← query (.selectForKey key) with
    | none => return none
    | some existing =>
      if existing.envelopeDigest = digest then return some existing
      else throw (idempotencyConflict key existing)

/-- The row `_persist` builds. -/
def acceptedSnapshot (registration : ToolRegistration) (decision : PolicyDecision) (target : TargetFacts)
    (envelope : JsonObject) (digest : String) : InvocationSnapshot where
  requestId := request.requestId
  idempotencyKey := request.idempotencyKey
  toolName := request.toolName
  toolVersion := request.toolVersion
  toolRegistrationId := registration.id
  permissionClass := decision.permissionClass
  approvalRequired := decision.approvalPolicy.approvalRequired
  minApprovals := decision.approvalPolicy.minApprovals
  distinctApproversRequired := decision.approvalPolicy.distinctApproversRequired
  approvalTtlSeconds := decision.approvalPolicy.ttlSeconds
  validationRequired := decision.validationRequired
  effectiveApprovalPolicy := decision.approvalPolicy.asSnapshot
  executionParameters := decision.executionParameters
  registryContractHash := decision.registryContractHash
  envelope
  envelopeDigest := digest
  inputDigest := inputDigest runtime decision.canonicalInput
  inputCanonical := decision.canonicalInput
  principalSubject := principal.subject
  principalType := principal.principalType
  principalIssuer := principal.issuer
  authMethod := principal.authMethod
  targetKind := target.kind
  targetAssetId := target.assetId
  targetRef := truthy request.targetRef
  authorizationDecision := .allow
  authorizationReason := decision.reason
  authorizedAt := some decision.evaluatedAt

def noDigest : String := String.ofList (List.replicate 64 '0')

/-- The row `_reject` builds: a refusal consumes no idempotency key. -/
def refusedSnapshot (registration : ToolRegistration) (decision : PolicyDecision) : InvocationSnapshot where
  requestId := request.requestId
  idempotencyKey := none
  toolName := request.toolName
  toolVersion := request.toolVersion
  toolRegistrationId := registration.id
  permissionClass := decision.permissionClass
  approvalRequired := decision.approvalPolicy.approvalRequired
  minApprovals := decision.approvalPolicy.minApprovals
  distinctApproversRequired := decision.approvalPolicy.distinctApproversRequired
  approvalTtlSeconds := decision.approvalPolicy.ttlSeconds
  validationRequired := decision.validationRequired
  effectiveApprovalPolicy := decision.approvalPolicy.asSnapshot
  executionParameters := decision.executionParameters
  registryContractHash := decision.registryContractHash
  envelope := [("refused",.bool true),("reason",.str decision.reason.value)]
  envelopeDigest := noDigest
  inputDigest := noDigest
  inputCanonical := []
  principalSubject := principal.subject
  principalType := principal.principalType
  principalIssuer := principal.issuer
  authMethod := principal.authMethod
  targetKind := requestedKind request
  targetAssetId := if requestedKind request = .asset then request.targetAssetId else none
  targetRef := truthy request.targetRef
  authorizationDecision := .deny
  authorizationReason := decision.reason
  authorizedAt := some decision.evaluatedAt

def persist (registration : ToolRegistration) (decision : PolicyDecision) (target : TargetFacts)
    (envelope : JsonObject) (digest : String) : Service ToolInvocation := do
  let inserted ← query (.insertInvocation
    (acceptedSnapshot runtime request principal registration decision target envelope digest))
  let invocation ← orRaise inserted
  let _ ← appendEvent invocation.id none .requested PolicyReason.allowed.value (some principal.subject)
    [("envelope_digest",.str digest)]
  return invocation

/-- `REQUESTED -> AUTHORIZED ->` the approval branch or `READY`. -/
def advance (invocation : ToolInvocation) (decision : PolicyDecision) : Service ToolInvocation := do
  let invocation ← transition invocation {
    toState := .authorized
    reason := decision.reason.value
    actorSubject := some principal.subject}
  if decision.approvalPolicy.approvalRequired then
    transition invocation {
      toState := .awaitingApproval
      reason := PolicyReason.approvalMissing.value
      actorSubject := some principal.subject
      detail := [("min_approvals",.int invocation.minApprovals)]}
  else
    transition invocation {
      toState := .ready
      reason := PolicyReason.allowed.value
      actorSubject := some principal.subject}

def accept (registration : ToolRegistration) (decision : PolicyDecision) (context : PolicyContext) :
    Service ToolInvocation := do
  match context.definition with
  | none => throw (.tool .toolNotFound s!"{request.toolName}@{request.toolVersion} is not bound to code." [])
  | some definition =>
    let envelope := buildEnvelope runtime definition decision.canonicalInput
      (buildTargetBlock context.target.kind context.target.assetId request.targetRef)
    let digest := envelopeDigest runtime envelope
    match ← existingForKey request digest with
    | some replay => return replay
    | none =>
      let invocation ← persist runtime request principal registration decision context.target envelope digest
      advance principal invocation decision

def refusal (invocation : ToolInvocation) (decision : PolicyDecision) : Fault :=
  .tool (refusalError decision.reason)
    s!"{request.toolName}@{request.toolVersion} refused: {decision.reason.value}."
    [("invocation_id",.str invocation.id.text),("reason",.str decision.reason.value)]

def reject (registration : ToolRegistration) (decision : PolicyDecision) : Service ToolInvocation := do
  let inserted ← query (.insertInvocation (refusedSnapshot request principal registration decision))
  let invocation ← orRaise inserted
  let _ ← appendEvent invocation.id none .requested decision.reason.value (some principal.subject) []
  transition invocation {
    toState := .rejected
    reason := decision.reason.value
    actorSubject := some principal.subject}

def requestContext (process : Process runtime) (settings : Settings) (registration : ToolRegistration)
    (target : TargetFacts) (requestTime : Time) : PolicyContext where
  principal
  definition := process.getDefinition request.toolName request.toolVersion
  lifecycleState := registration.lifecycleState
  rawInput := request.arguments
  target
  environment := settings.environment
  requestTime

def create (process : Process runtime) (settings : Settings) : Service ToolInvocation := do
  let registration ← registration request.toolName request.toolVersion
  let requestTime ← query .utcNow
  let unresolved := requestContext runtime request principal process settings registration
    {kind := requestedKind request, found := false} requestTime
  let (context,decision) ← match PolicyEngine.evaluatePrerequisites runtime unresolved with
    | some denial => pure (unresolved,denial)
    | none => do
      -- Only now is a lookup on caller-supplied input safe.
      let context := {unresolved with target := ← resolveTarget request}
      pure (context,PolicyEngine.evaluate runtime context)
  if decision.allowed then
    let invocation ← accept runtime request principal registration decision context
    Program.commitNow
    return invocation
  else
    let invocation ← reject request principal registration decision
    Program.commitNow
    throw (refusal request invocation decision)

end ToolInvocationService

end Acop
