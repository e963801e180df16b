import Mathlib.Data.Finset.Union
import Mathlib.Data.Fintype.Defs

/-! The enumerated vocabulary of the tool framework and the code registries that
policy reads. Every value is rendered by `value` as the database stores it. -/
namespace Acop

inductive PermissionClass where
  | class0Information | class1ReadOnly | class2LowRiskChange | class3HighRiskChange | prohibited
  deriving DecidableEq

def PermissionClass.value : PermissionClass → String
  | class0Information => "CLASS_0_INFORMATION"
  | class1ReadOnly => "CLASS_1_READ_ONLY"
  | class2LowRiskChange => "CLASS_2_LOW_RISK_CHANGE"
  | class3HighRiskChange => "CLASS_3_HIGH_RISK_CHANGE"
  | prohibited => "PROHIBITED"

def approvalRequiredClasses : List PermissionClass := [.class2LowRiskChange,.class3HighRiskChange]

inductive ToolLifecycle where
  | active | disabled | retired
  deriving DecidableEq

def ToolLifecycle.value : ToolLifecycle → String
  | active => "ACTIVE"
  | disabled => "DISABLED"
  | retired => "RETIRED"

inductive TargetKind where
  | none | asset | externalRef
  deriving DecidableEq

def TargetKind.value : TargetKind → String
  | none => "NONE"
  | asset => "ASSET"
  | externalRef => "EXTERNAL_REF"

inductive InvocationState where
  | requested | rejected | authorized | awaitingApproval | approved | denied | ready | executing
  | executed | validating | succeeded | validationFailed | failed | timedOut
  | executionIndeterminate | expired | cancelled | superseded
  deriving DecidableEq

namespace InvocationState

def value : InvocationState → String
  | requested => "REQUESTED"
  | rejected => "REJECTED"
  | authorized => "AUTHORIZED"
  | awaitingApproval => "AWAITING_APPROVAL"
  | approved => "APPROVED"
  | denied => "DENIED"
  | ready => "READY"
  | executing => "EXECUTING"
  | executed => "EXECUTED"
  | validating => "VALIDATING"
  | succeeded => "SUCCEEDED"
  | validationFailed => "VALIDATION_FAILED"
  | failed => "FAILED"
  | timedOut => "TIMED_OUT"
  | executionIndeterminate => "EXECUTION_INDETERMINATE"
  | expired => "EXPIRED"
  | cancelled => "CANCELLED"
  | superseded => "SUPERSEDED"

def all : List InvocationState :=
  [requested,rejected,authorized,awaitingApproval,approved,denied,ready,executing,executed,validating,
    succeeded,validationFailed,failed,timedOut,executionIndeterminate,expired,cancelled,superseded]

instance : Fintype InvocationState := ⟨all.toFinset,by intro state; cases state <;> decide⟩

def terminalStates : List InvocationState :=
  [rejected,denied,expired,cancelled,failed,timedOut,executionIndeterminate,succeeded,validationFailed,
    superseded]

def Terminal (state : InvocationState) : Prop := state ∈ terminalStates

instance (state : InvocationState) : Decidable state.Terminal := inferInstanceAs (Decidable (_ ∈ _))

def InFlight (state : InvocationState) : Prop := state = executing ∨ state = validating

instance (state : InvocationState) : Decidable state.InFlight := inferInstanceAs (Decidable (_ ∨ _))

def legalTransitions : List (InvocationState × InvocationState) :=
  [(requested,rejected),(requested,authorized),(authorized,awaitingApproval),(authorized,ready),
    (awaitingApproval,approved),(awaitingApproval,denied),(awaitingApproval,expired),
    (awaitingApproval,cancelled),(approved,ready),(ready,executing),(ready,expired),(ready,cancelled),
    (executing,executed),(executing,expired),(executing,failed),(executing,timedOut),
    (executing,executionIndeterminate),(executed,succeeded),(executed,validating),
    (validating,succeeded),(validating,validationFailed)] ++
  (all.filter fun state => ¬ state.Terminal).map fun state => (state,superseded)

def IsLegalTransition (source target : InvocationState) : Prop := (source,target) ∈ legalTransitions

instance (source target : InvocationState) : Decidable (IsLegalTransition source target) :=
  inferInstanceAs (Decidable (_ ∈ _))

end InvocationState

inductive GateDecision where
  | allow | deny
  deriving DecidableEq

def GateDecision.value : GateDecision → String
  | allow => "ALLOW"
  | deny => "DENY"

inductive ApprovalDecision where
  | approved | denied
  deriving DecidableEq

def ApprovalDecision.value : ApprovalDecision → String
  | approved => "APPROVED"
  | denied => "DENIED"

inductive ReconciliationDisposition where
  | confirmedSucceeded | confirmedFailed | unknown
  deriving DecidableEq

def ReconciliationDisposition.value : ReconciliationDisposition → String
  | confirmedSucceeded => "CONFIRMED_SUCCEEDED"
  | confirmedFailed => "CONFIRMED_FAILED"
  | unknown => "UNKNOWN"

/-- `value.lower()`, as the reconciliation event's reason spells it. -/
def ReconciliationDisposition.lower : ReconciliationDisposition → String
  | confirmedSucceeded => "confirmed_succeeded"
  | confirmedFailed => "confirmed_failed"
  | unknown => "unknown"

inductive ValidationOutcome where
  | confirmed | notConfirmed | indeterminate
  deriving DecidableEq

inductive AdapterOutcome where
  | success | failure | timeout | unavailable
  deriving DecidableEq

inductive IdempotencyKind where
  | naturallyIdempotent | keyed | nonIdempotent
  deriving DecidableEq

def IdempotencyKind.value : IdempotencyKind → String
  | naturallyIdempotent => "NATURALLY_IDEMPOTENT"
  | keyed => "KEYED"
  | nonIdempotent => "NON_IDEMPOTENT"

inductive ToolErrorCategory where
  | authentication | authorization | policyDenied | capabilityNotBound | approvalRequired
  | approvalDenied | approvalExpired | approvalInvalidEnvelope | selfApprovalForbidden
  | invalidTarget | validationError | idempotencyConflict | timeout | adapterUnavailable
  | targetUnavailable | executionFailed | executionIndeterminate | validationFailed
  | outputContractViolation | cancelled | internalError
  deriving DecidableEq

namespace ToolErrorCategory

def value : ToolErrorCategory → String
  | authentication => "AUTHENTICATION"
  | authorization => "AUTHORIZATION"
  | policyDenied => "POLICY_DENIED"
  | capabilityNotBound => "CAPABILITY_NOT_BOUND"
  | approvalRequired => "APPROVAL_REQUIRED"
  | approvalDenied => "APPROVAL_DENIED"
  | approvalExpired => "APPROVAL_EXPIRED"
  | approvalInvalidEnvelope => "APPROVAL_INVALID_ENVELOPE"
  | selfApprovalForbidden => "SELF_APPROVAL_FORBIDDEN"
  | invalidTarget => "INVALID_TARGET"
  | validationError => "VALIDATION_ERROR"
  | idempotencyConflict => "IDEMPOTENCY_CONFLICT"
  | timeout => "TIMEOUT"
  | adapterUnavailable => "ADAPTER_UNAVAILABLE"
  | targetUnavailable => "TARGET_UNAVAILABLE"
  | executionFailed => "EXECUTION_FAILED"
  | executionIndeterminate => "EXECUTION_INDETERMINATE"
  | validationFailed => "VALIDATION_FAILED"
  | outputContractViolation => "OUTPUT_CONTRACT_VIOLATION"
  | cancelled => "CANCELLED"
  | internalError => "INTERNAL_ERROR"

def retryableCategories : Finset ToolErrorCategory := {adapterUnavailable,targetUnavailable}

/-- `ERROR_PHRASES`. -/
def phrase : ToolErrorCategory → String
  | authentication => "The caller could not be authenticated."
  | authorization => "The caller is not permitted to invoke this tool."
  | policyDenied => "Policy refused this invocation."
  | capabilityNotBound => "No executable capability is bound to this tool name and version."
  | approvalRequired => "This invocation requires human approval."
  | approvalDenied => "An approver denied this invocation."
  | approvalExpired => "The approval for this invocation expired."
  | approvalInvalidEnvelope => "The approval does not match this invocation's execution envelope."
  | selfApprovalForbidden => "The requester may not approve their own invocation."
  | invalidTarget => "The target is unknown or out of scope."
  | validationError => "The request does not satisfy the tool's schema."
  | idempotencyConflict => "That idempotency key was already used for a different execution envelope."
  | timeout => "The tool exceeded its execution deadline."
  | adapterUnavailable => "The adapter could not be reached."
  | targetUnavailable => "The target could not be reached."
  | executionFailed => "The tool reported a failure."
  | executionIndeterminate =>
    "Execution was interrupted and the outcome is unknown. A human must determine what happened."
  | validationFailed => "The tool executed but the intended change could not be confirmed."
  | outputContractViolation => "The tool returned a result that does not match its declared output."
  | cancelled => "The invocation was cancelled."
  | internalError => "An internal error occurred."

end ToolErrorCategory

inductive PolicyReason where
  | allowed | capabilityNotBound | toolDisabled | toolRetired | prohibitedCapability | schemaInvalid
  | targetInvalid | targetOutOfScope | targetRetired | roleInsufficient | environmentRestricted
  | approvalMissing | approvalExpired | approvalEnvelopeMismatch | envelopeIntegrityFailed | internalError
  deriving DecidableEq

def PolicyReason.value : PolicyReason → String
  | allowed => "allowed"
  | capabilityNotBound => "capability_not_bound"
  | toolDisabled => "tool_disabled"
  | toolRetired => "tool_retired"
  | prohibitedCapability => "prohibited_capability"
  | schemaInvalid => "schema_invalid"
  | targetInvalid => "target_invalid"
  | targetOutOfScope => "target_out_of_scope"
  | targetRetired => "target_retired"
  | roleInsufficient => "role_insufficient"
  | environmentRestricted => "environment_restricted"
  | approvalMissing => "approval_missing"
  | approvalExpired => "approval_expired"
  | approvalEnvelopeMismatch => "approval_envelope_mismatch"
  | envelopeIntegrityFailed => "envelope_integrity_failed"
  | internalError => "internal_error"

inductive Sensitivity where
  | publicBand | internalBand | confidentialBand
  deriving DecidableEq

def Sensitivity.value : Sensitivity → String
  | publicBand => "PUBLIC"
  | internalBand => "INTERNAL"
  | confidentialBand => "CONFIDENTIAL"

inductive LifecycleState where
  | planned | active | inactive | retired | merged
  deriving DecidableEq

namespace LifecycleState

def value : LifecycleState → String
  | planned => "PLANNED"
  | active => "ACTIVE"
  | inactive => "INACTIVE"
  | retired => "RETIRED"
  | merged => "MERGED"

def Terminal (state : LifecycleState) : Prop := state = retired ∨ state = merged

instance (state : LifecycleState) : Decidable state.Terminal := inferInstanceAs (Decidable (_ ∨ _))

end LifecycleState

def prohibitedCapabilities : Finset String :=
  {"arbitrary.shell","arbitrary.ssh","arbitrary.cli","arbitrary.powershell","arbitrary.sql",
    "arbitrary.winrm","storage.format","vm.delete","container.delete","audit.disable","logging.disable",
    "monitoring.disable","authn.bypass","authz.bypass","firewall.unrestricted","routing.unrestricted",
    "secrets.read","secrets.export","model.generated.command"}

inductive Role where
  | admin | approver | operator | viewer
  deriving DecidableEq

namespace Role

def value : Role → String
  | admin => "admin"
  | approver => "approver"
  | operator => "operator"
  | viewer => "viewer"

/-- `Role(name)`; `none` where the constructor raises `ValueError`. -/
def ofValue (name : String) : Option Role :=
  [admin,approver,operator,viewer].find? fun role => role.value = name

/-- `ROLE_IMPLICATIONS`. -/
def implied : Role → Finset Role
  | admin => {admin,approver,operator,viewer}
  | approver => {approver,viewer}
  | operator => {operator,viewer}
  | viewer => {viewer}

end Role

def approvalAuthorityRoles : Finset Role := {.approver,.admin}

def classMinimumRoles : PermissionClass → Finset Role
  | .class0Information => {.viewer}
  | .class1ReadOnly => {.viewer}
  | .class2LowRiskChange => {.operator}
  | .class3HighRiskChange => {.operator}
  | .prohibited => {.admin}

def effectiveRoles (roles : Finset String) : Finset Role :=
  roles.biUnion fun name => (Role.ofValue name).elim ∅ Role.implied

/-- `{role.value for role in effective_roles(...)}`. -/
def heldRoles (roles : Finset String) : Finset String := (effectiveRoles roles).image Role.value

inductive PrincipalType where
  | human | service | agent | system
  deriving DecidableEq

def PrincipalType.value : PrincipalType → String
  | human => "human"
  | service => "service"
  | agent => "agent"
  | system => "system"

inductive AuthMethod where
  | apiKey | oidc | mtls | system
  deriving DecidableEq

def AuthMethod.value : AuthMethod → String
  | apiKey => "api_key"
  | oidc => "oidc"
  | mtls => "mtls"
  | system => "system"

structure Principal where
  subject : String
  principalType : PrincipalType
  issuer : String
  authMethod : AuthMethod
  roles : Finset String

def Principal.HasRole (principal : Principal) (role : Role) : Prop := role.value ∈ principal.roles

instance (principal : Principal) (role : Role) : Decidable (principal.HasRole role) :=
  inferInstanceAs (Decidable (_ ∈ _))

structure Settings where
  environment : String
  toolsAllowSelfApproval : Bool
  toolsExecutionLeaseSeconds : Rat
  toolsInlineWaitSeconds : Rat

def networkLocatorFields : Finset String :=
  {"host","hostname","ip","ip_address","address","url","uri","endpoint","dsn","connection_string",
    "server","target_host"}

def commandFields : Finset String :=
  {"command","cmd","commands","script","shell","exec","execute","query","sql","statement","payload",
    "raw","body","powershell"}

end Acop
