import Acop.Envelope

/-! The policy engine: eight gates in order, one allow, and a denial for
everything that goes wrong. -/
namespace Acop

/-- What ACOP knows about the requested target. -/
structure TargetFacts where
  kind : TargetKind
  found : Bool := true
  assetId : Option Uuid := none
  assetType : String := ""
  lifecycleState : String := ""
  externalRef : JsonObject := []

structure PolicyContext where
  principal : Principal
  definition : Option ToolDefinition
  lifecycleState : ToolLifecycle
  rawInput : List (PyValue × PyValue)
  target : TargetFacts
  environment : String
  requestTime : Time

structure PolicyDecision where
  allowed : Bool
  reason : PolicyReason
  permissionClass : PermissionClass
  approvalPolicy : ApprovalPolicy
  validationRequired : Bool
  requiredRoles : Finset String
  executionParameters : JsonObject
  prohibited : Bool
  registryContractHash : String
  evaluatedAt : Time
  canonicalInput : JsonObject := []

namespace PolicyEngine

def deny (runtime : Runtime) (context : PolicyContext) (reason : PolicyReason) : PolicyDecision :=
  match context.definition with
  | none => {
    allowed := false
    reason
    permissionClass := .prohibited
    approvalPolicy := {}
    validationRequired := true
    requiredRoles := ∅
    executionParameters := []
    prohibited := true
    registryContractHash := ""
    evaluatedAt := context.requestTime}
  | some definition => {
    allowed := false
    reason
    permissionClass := definition.permissionClass
    approvalPolicy := definition.approvalPolicy
    validationRequired := definition.validationRequired
    requiredRoles := definition.requiredRoles
    executionParameters := definition.executionParameters
    prohibited := definition.prohibited || definition.capabilityTags ∩ prohibitedCapabilities ≠ ∅
    registryContractHash := definition.contractHash runtime
    evaluatedAt := context.requestTime}

/-- Gates 1 to 4: the refusal or the canonical input. `none` is an exception on
the way, which only the schema gate can raise. -/
def gatesOneToFour (runtime : Runtime) (context : PolicyContext) : Option (Except PolicyDecision JsonObject) :=
  match context.definition with
  | none => some (.error (deny runtime context .capabilityNotBound))
  | some definition =>
    match context.lifecycleState with
    | .retired => some (.error (deny runtime context .toolRetired))
    | .disabled => some (.error (deny runtime context .toolDisabled))
    | .active =>
      if definition.prohibited ∨ definition.capabilityTags ∩ prohibitedCapabilities ≠ ∅ then
        some (.error (deny runtime context .prohibitedCapability))
      else match definition.inputModel.modelValidate context.rawInput with
        | .valid canonical => some (.ok canonical)
        | .invalid => some (.error (deny runtime context .schemaInvalid))
        | .raised => none

def checkTarget (definition : ToolDefinition) (target : TargetFacts) : Option PolicyReason :=
  if target.kind ≠ definition.targetType then some .targetInvalid
  else match definition.targetType with
    | .none => none
    | .externalRef => if target.externalRef.isEmpty then some .targetInvalid else none
    | .asset =>
      if ¬ target.found ∨ target.assetId = none then some .targetInvalid
      else if target.lifecycleState ≠ "" ∧ target.lifecycleState ≠ "ACTIVE" then some .targetRetired
      else if target.assetType ∉ definition.targetAssetTypes then some .targetOutOfScope
      else none

/-- Gates 5 to 8, on a definition and an input that passed the first four. -/
def gatesFiveToEight (runtime : Runtime) (context : PolicyContext) (definition : ToolDefinition)
    (canonical : JsonObject) : PolicyDecision :=
  match checkTarget definition context.target with
  | some reason => deny runtime context reason
  | none =>
    if ¬ definition.requiredRoles ⊆ heldRoles context.principal.roles then
      deny runtime context .roleInsufficient
    else if definition.approvalPolicy.allowedEnvironments ≠ ∅ ∧
        context.environment ∉ definition.approvalPolicy.allowedEnvironments then
      deny runtime context .environmentRestricted
    else {
      allowed := true
      reason := .allowed
      permissionClass := definition.permissionClass
      approvalPolicy := definition.approvalPolicy
      validationRequired := definition.validationRequired
      requiredRoles := definition.requiredRoles
      executionParameters := definition.executionParameters
      prohibited := false
      registryContractHash := definition.contractHash runtime
      evaluatedAt := context.requestTime
      canonicalInput := canonical}

/-- A denial, or `none` meaning "carry on". -/
def evaluatePrerequisites (runtime : Runtime) (context : PolicyContext) : Option PolicyDecision :=
  match gatesOneToFour runtime context with
  | some (.error denial) => some denial
  | some (.ok _) => none
  | none => some (deny runtime context .internalError)

def evaluate (runtime : Runtime) (context : PolicyContext) : PolicyDecision :=
  match gatesOneToFour runtime context, context.definition with
  | some (.error denial), _ => denial
  | some (.ok canonical), some definition => gatesFiveToEight runtime context definition canonical
  | some (.ok _), none => deny runtime context .capabilityNotBound
  | none, _ => deny runtime context .internalError

end PolicyEngine

end Acop
