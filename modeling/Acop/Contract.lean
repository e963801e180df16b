import Acop.Vocabulary
import Acop.Json

/-! The tool declaration, its contract hash and the fourteen rules applied to it
at import. A pydantic model is known by what validating a mapping yields and by
the schema it publishes. -/
namespace Acop

/-- `model_validate` followed by `model_dump(mode="json")`. `raised` is any
exception but pydantic's own `ValidationError`. -/
inductive ModelOutcome where
  | valid (dump : JsonObject)
  | invalid
  | raised

structure PydanticModel where
  modelValidate : List (PyValue × PyValue) → ModelOutcome
  modelJsonSchema : JsonObject
  modelFields : Finset String

structure RetryPolicy where
  maxAttempts : Int := 1
  backoffSeconds : Rat := 1/2
  retryOn : Finset ToolErrorCategory := ToolErrorCategory.retryableCategories

structure ApprovalPolicy where
  approvalRequired : Bool := false
  minApprovals : Int := 1
  approverRoles : Finset String := approvalAuthorityRoles.image Role.value
  distinctApproversRequired : Bool := false
  ttlSeconds : Int := 3600
  allowedEnvironments : Finset String := ∅
  selfApprovalPermitted : Bool := false

def ApprovalPolicy.asSnapshot (policy : ApprovalPolicy) : JsonObject :=
  [("approval_required",.bool policy.approvalRequired),
    ("min_approvals",.int policy.minApprovals),
    ("approver_roles",.strings (sorted policy.approverRoles)),
    ("distinct_approvers_required",.bool policy.distinctApproversRequired),
    ("ttl_seconds",.int policy.ttlSeconds),
    ("allowed_environments",.strings (sorted policy.allowedEnvironments)),
    ("self_approval_permitted",.bool policy.selfApprovalPermitted)]

structure ToolDefinition where
  toolName : String
  toolVersion : String
  permissionClass : PermissionClass
  inputModel : PydanticModel
  outputModel : PydanticModel
  adapterId : String
  requiredRoles : Finset String
  targetType : TargetKind := .none
  targetAssetTypes : Finset String := ∅
  capabilityTags : Finset String := ∅
  prohibited : Bool := false
  approvalPolicy : ApprovalPolicy := {}
  validationRequired : Bool := false
  validationDelaySeconds : Rat := 0
  timeoutSeconds : Rat := 30
  idempotency : IdempotencyKind := .naturallyIdempotent
  adapterIdempotent : Bool := true
  retryPolicy : RetryPolicy := {}
  sensitivity : Sensitivity := .internalBand
  outputAllowList : Finset String := ∅
  lifecycleDefault : ToolLifecycle := .active
  allowRegistrationForTesting : Bool := false

namespace ToolDefinition

variable (definition : ToolDefinition)

def key : String × String := (definition.toolName,definition.toolVersion)

def qualifiedName : String := definition.toolName ++ "@" ++ definition.toolVersion

def effectiveOutputFields : Finset String :=
  if definition.outputAllowList = ∅ then definition.outputModel.modelFields else definition.outputAllowList

def contractMaterial : Json := .obj
  [("tool_name",.str definition.toolName),
    ("tool_version",.str definition.toolVersion),
    ("permission_class",.str definition.permissionClass.value),
    ("adapter_id",.str definition.adapterId),
    ("required_roles",.strings (sorted definition.requiredRoles)),
    ("target_type",.str definition.targetType.value),
    ("target_asset_types",.strings (sorted definition.targetAssetTypes)),
    ("capability_tags",.strings (sorted definition.capabilityTags)),
    ("prohibited",.bool definition.prohibited),
    ("approval_policy",.obj definition.approvalPolicy.asSnapshot),
    ("validation_required",.bool definition.validationRequired),
    ("timeout_seconds",.float definition.timeoutSeconds),
    ("idempotency",.str definition.idempotency.value),
    ("adapter_idempotent",.bool definition.adapterIdempotent),
    ("retry_max_attempts",.int definition.retryPolicy.maxAttempts),
    ("sensitivity",.str definition.sensitivity.value),
    ("input_schema",.obj definition.inputModel.modelJsonSchema),
    ("output_schema",.obj definition.outputModel.modelJsonSchema)]

def contractHash (runtime : Runtime) : String := digestOf runtime definition.contractMaterial

def executionParameters : JsonObject :=
  [("timeout_seconds",.float definition.timeoutSeconds),
    ("idempotency",.str definition.idempotency.value),
    ("adapter_idempotent",.bool definition.adapterIdempotent),
    ("max_attempts",.int definition.retryPolicy.maxAttempts),
    ("backoff_seconds",.float definition.retryPolicy.backoffSeconds),
    ("retry_on",.strings (sorted (definition.retryPolicy.retryOn.image ToolErrorCategory.value))),
    ("validation_required",.bool definition.validationRequired),
    ("validation_delay_seconds",.float definition.validationDelaySeconds)]

end ToolDefinition

/-- What fails the process when a catalog is imported. -/
inductive DeclarationFault where
  | toolDeclaration (message : String)
  | adapterBinding (message : String)

/-- `repr` of a list of plain names. -/
def reprNames (names : List String) : String :=
  "[" ++ ", ".intercalate (names.map fun name => "'" ++ name ++ "'") ++ "]"

/-- `$` also matches before one final newline. -/
def withoutFinalNewline (text : List Char) : List Char :=
  if text.getLast? = some '\n' then text.dropLast else text

def isNameSegment : List Char → Bool
  | [] => false
  | first::rest => ('a' ≤ first && first ≤ 'z') &&
    rest.all fun char => ('a' ≤ char && char ≤ 'z') || ('0' ≤ char && char ≤ '9') || char = '_'

/-- `TOOL_NAME_PATTERN`. -/
def matchesToolName (name : String) : Bool :=
  let segments := (withoutFinalNewline name.toList).splitOn '.'
  3 ≤ segments.length && segments.length ≤ 5 && segments.all isNameSegment

/-- `TOOL_VERSION_PATTERN`. -/
def matchesToolVersion (runtime : Runtime) (version : String) : Bool :=
  let segments := (withoutFinalNewline version.toList).splitOn '.'
  segments.length = 2 && segments.all fun segment => segment ≠ [] && segment.all runtime.isDecimal

/-- The object under `key`, empty where there is none. -/
def objectAt (fields : JsonObject) (key : String) : JsonObject :=
  match Json.get fields key with
  | some (.obj inner) => inner
  | _ => []

/-- A schema and its `$defs`. -/
def schemaBlocks (schema : JsonObject) : List JsonObject :=
  schema :: (objectAt schema "$defs").map fun field => match field.2 with
    | .obj block => block
    | _ => []

def schemaFieldNames (model : PydanticModel) : List String :=
  (schemaBlocks model.modelJsonSchema).flatMap fun block => (objectAt block "properties").map (·.1)

def forbidsAdditionalProperties (model : PydanticModel) : Bool :=
  (schemaBlocks model.modelJsonSchema).all fun block => match Json.get block "type" with
    | some (.str "object") => match Json.get block "additionalProperties" with
      | some (.bool false) => true
      | _ => false
    | _ => true

section Rules

variable (definition : ToolDefinition)

def refuse (message : String) : Except DeclarationFault Unit := .error (.toolDeclaration message)

def checkIdentity (runtime : Runtime) : Except DeclarationFault Unit := do
  unless matchesToolName definition.toolName do
    refuse s!"Tool name '{definition.toolName}' must be three to five lower-case dotted segments, e.g. 'domain.object.verb'."
  unless matchesToolVersion runtime definition.toolVersion do
    refuse s!"Tool version '{definition.toolVersion}' must be MAJOR.MINOR. An approval binds to a version, so 'latest' cannot exist."

def checkClassAgreement : Except DeclarationFault Unit := do
  let requiresApproval := definition.permissionClass ∈ approvalRequiredClasses
  if requiresApproval ∧ ¬ definition.approvalPolicy.approvalRequired then
    refuse s!"{definition.qualifiedName} is {definition.permissionClass.value} and must declare approval_required=True."
  if requiresApproval ∧ ¬ definition.validationRequired then
    refuse s!"{definition.qualifiedName} is {definition.permissionClass.value} and must declare validation_required=True. A change nobody checks is a change nobody knows happened."
  let minimum := (classMinimumRoles definition.permissionClass).image Role.value
  let missing := minimum \ definition.requiredRoles
  if missing ≠ ∅ then
    refuse s!"{definition.qualifiedName} must require at least {reprNames (sorted minimum)} for {definition.permissionClass.value}; missing {reprNames (sorted missing)}."
  let isClassZero := definition.permissionClass = .class0Information
  let hasNoTarget := definition.targetType = .none
  if ¬ (isClassZero ↔ hasNoTarget) then
    refuse s!"{definition.qualifiedName}: target_type NONE and CLASS_0_INFORMATION must coincide. A Class 0 tool touches nothing outside ACOP, and any other class must name what it acts on."
  if definition.targetType = .asset ∧ definition.targetAssetTypes = ∅ then
    refuse s!"{definition.qualifiedName} targets assets but names no asset types, so no target could ever be refused as out of scope."

def checkApprovalPolicy : Except DeclarationFault Unit := do
  let policy := definition.approvalPolicy
  if policy.approvalRequired then
    let authority := approvalAuthorityRoles.image Role.value
    if policy.approverRoles = ∅ then
      refuse s!"{definition.qualifiedName} requires approval but names no approver roles, so nobody could ever approve it."
    let outside := policy.approverRoles \ authority
    if outside ≠ ∅ then
      refuse s!"{definition.qualifiedName} names {reprNames (sorted outside)} as approvers. Approval authority is limited to {reprNames (sorted authority)}."
    if policy.minApprovals < 1 then
      refuse s!"{definition.qualifiedName} declares min_approvals={policy.minApprovals}; approval requires at least one approver."
    if policy.minApprovals > 1 ∧ ¬ policy.distinctApproversRequired then
      refuse s!"{definition.qualifiedName} declares min_approvals={policy.minApprovals} without distinct_approvers_required. Asking two people and accepting the same person twice is one approval wearing a disguise."
    if policy.ttlSeconds ≤ 0 then
      refuse s!"{definition.qualifiedName} declares a non-positive approval TTL. An approval that never expires is a standing grant."

def checkProhibition : Except DeclarationFault Unit := do
  let overlap := definition.capabilityTags ∩ prohibitedCapabilities
  if overlap ≠ ∅ ∧ ¬ definition.allowRegistrationForTesting then
    refuse s!"{definition.qualifiedName} declares prohibited capability {reprNames (sorted overlap)}. Prohibited categories are not reachable by role, approval or configuration. Removing one requires an ADR."

def checkIdempotency : Except DeclarationFault Unit := do
  let attempts := definition.retryPolicy.maxAttempts
  if definition.idempotency = .nonIdempotent ∧ attempts ≠ 1 then
    refuse s!"{definition.qualifiedName} is NON_IDEMPOTENT and declares max_attempts={attempts}. Retrying it would act twice."
  if attempts < 1 then
    refuse s!"{definition.qualifiedName} declares max_attempts={attempts}; at least one is required."
  let unsupported := definition.retryPolicy.retryOn \ ToolErrorCategory.retryableCategories
  if unsupported ≠ ∅ then
    refuse s!"{definition.qualifiedName} would retry on {reprNames (sorted (unsupported.image ToolErrorCategory.value))}. Only categories where 'it did not happen' is knowable may be retried."
  if attempts > 1 ∧ ¬ definition.adapterIdempotent then
    refuse s!"{definition.qualifiedName} permits retries but declares its adapter non-idempotent."

def checkFieldName (name : String) : Except DeclarationFault Unit := do
  let lowered := lower name
  if sensitiveKeyFragments.any (containsText lowered) then
    refuse s!"{definition.qualifiedName} input field '{name}' names a secret. Credentials belong to the adapter; a tool that must change one accepts a reference, never a value."
  if lowered ∈ networkLocatorFields then
    refuse s!"{definition.qualifiedName} input field '{name}' names a network locator. Resolving an address is the adapter's job, from registered identifiers - never from a caller's argument."
  if lowered ∈ commandFields then
    refuse s!"{definition.qualifiedName} input field '{name}' names a command. ACOP has no generic execution surface, and this is one of the three checks that prove it."

def checkClosed (label : String) (model : PydanticModel) : Except DeclarationFault Unit :=
  unless forbidsAdditionalProperties model do
    refuse s!"{definition.qualifiedName} {label} permits additional properties. An undeclared field such as 'api_key' must be rejected, not merely redacted downstream. Set model_config = ConfigDict(extra='forbid')."

def checkInputSchema : Except DeclarationFault Unit := do
  (schemaFieldNames definition.inputModel).forM (checkFieldName definition)
  checkClosed definition "input_model" definition.inputModel
  checkClosed definition "output_model" definition.outputModel

def checkAdapterBinding (adapters : Finset String) : Except DeclarationFault Unit :=
  unless definition.adapterId ∈ adapters do
    .error (.adapterBinding s!"{definition.qualifiedName} names adapter '{definition.adapterId}', which no module registers. Import the adapter module before the catalog.")

def validateDeclaration (runtime : Runtime) (adapters : Finset String) : Except DeclarationFault Unit := do
  checkIdentity definition runtime
  checkClassAgreement definition
  checkApprovalPolicy definition
  checkProhibition definition
  checkIdempotency definition
  checkInputSchema definition
  checkAdapterBinding definition adapters

end Rules

/-- The code one process runs: its adapters and its `CODE_REGISTRY`, which
`register` fills with validated declarations under distinct keys. -/
structure Process (runtime : Runtime) where
  adapters : Finset String
  definitions : List ToolDefinition
  declared : ∀ definition ∈ definitions, validateDeclaration definition runtime adapters = .ok ()
  distinct : (definitions.map ToolDefinition.key).Nodup

def Process.getDefinition {runtime : Runtime} (process : Process runtime) (toolName toolVersion : String) :
    Option ToolDefinition :=
  process.definitions.find? fun definition => definition.key = (toolName,toolVersion)

def Process.resolveAdapter {runtime : Runtime} (process : Process runtime) (adapterId : String) : Option String :=
  if adapterId ∈ process.adapters then some adapterId else none

end Acop
