import Acop.Vocabulary
import Acop.Text

/-! The vocabulary of the inventory and its registries: what an identifier
namespace, a relationship type and a source of claims mean. -/
namespace Acop.Cmdb

inductive AssetType where
  | device | cluster | host | vm | container | networkInterface | switchPort | vlan | ipAddress | macAddress
  | service | storageDevice | gpu | application | user | location
  deriving DecidableEq

def AssetType.value : AssetType → String
  | device => "DEVICE"
  | cluster => "CLUSTER"
  | host => "HOST"
  | vm => "VM"
  | container => "CONTAINER"
  | networkInterface => "NETWORK_INTERFACE"
  | switchPort => "SWITCH_PORT"
  | vlan => "VLAN"
  | ipAddress => "IP_ADDRESS"
  | macAddress => "MAC_ADDRESS"
  | service => "SERVICE"
  | storageDevice => "STORAGE_DEVICE"
  | gpu => "GPU"
  | application => "APPLICATION"
  | user => "USER"
  | location => "LOCATION"

inductive FactKind where
  | observedState | desiredState
  deriving DecidableEq

inductive ValueType where
  | text | number | bool | timestamp | json | assetRef
  deriving DecidableEq

inductive AttestationAction where
  | verify | approve | revoke
  deriving DecidableEq

section Provenance

inductive SourceType where
  | liveDiscovery | configFile | prometheus | manualEntry | documentation | aiInference | imported
  deriving DecidableEq

def SourceType.value : SourceType → String
  | liveDiscovery => "LIVE_DISCOVERY"
  | configFile => "CONFIG_FILE"
  | prometheus => "PROMETHEUS"
  | manualEntry => "MANUAL_ENTRY"
  | documentation => "DOCUMENTATION"
  | aiInference => "AI_INFERENCE"
  | imported => "IMPORT"

inductive VerificationStatus where
  | discovered | observed | verified | approved | stale | conflicting | unverified
  deriving DecidableEq

def VerificationStatus.value : VerificationStatus → String
  | discovered => "DISCOVERED"
  | observed => "OBSERVED"
  | verified => "VERIFIED"
  | approved => "APPROVED"
  | stale => "STALE"
  | conflicting => "CONFLICTING"
  | unverified => "UNVERIFIED"

inductive StatementClass where
  | fact | observation | inference | recommendation
  deriving DecidableEq

def StatementClass.value : StatementClass → String
  | fact => "FACT"
  | observation => "OBSERVATION"
  | inference => "INFERENCE"
  | recommendation => "RECOMMENDATION"

/-- `STATEMENT_CLASS_FOR_SOURCE`. -/
def statementClassFor : SourceType → StatementClass
  | .liveDiscovery => .observation
  | .configFile => .observation
  | .prometheus => .observation
  | .manualEntry => .fact
  | .documentation => .fact
  | .imported => .fact
  | .aiInference => .inference

/-- `VERIFICATION_STATUS_FOR_SOURCE`. -/
def defaultStatusFor : SourceType → VerificationStatus
  | .liveDiscovery => .discovered
  | .configFile => .discovered
  | .prometheus => .observed
  | .manualEntry => .unverified
  | .documentation => .unverified
  | .imported => .unverified
  | .aiInference => .unverified

def authoritativeStatuses : List VerificationStatus := [.verified,.approved]

def isAuthoritative (status : VerificationStatus) : Bool := status ∈ authoritativeStatuses

def mayBecomeAuthoritative (statementClass : StatementClass) (sourceType : SourceType) : Bool :=
  statementClass ≠ .inference && sourceType ≠ .aiInference

@[simp] theorem defaultStatusFor_plain (sourceType : SourceType) : isAuthoritative (defaultStatusFor sourceType) = false := by
  cases sourceType <;> rfl

@[simp] theorem statementClassFor_inference (sourceType : SourceType) :
    statementClassFor sourceType = .inference ↔ sourceType = .aiInference := by
  cases sourceType <;> simp [statementClassFor]

end Provenance

section Identifiers

/-- Python's text functions, beside `strip`. -/
structure Python where
  lower : String → String
  upper : String → String
  isDecimal : Char → Bool
  floatRepr : Rat → String

inductive Normaliser where
  | lower | upper | mac | digits | hostname

def dropChars (dropped : Char → Bool) (text : String) : String := String.ofList (text.toList.filter fun char => !dropped char)

/-- `rstrip(".")`. -/
def rstripDots (text : String) : String := String.ofList (text.toList.reverse.dropWhile (· = '.')).reverse

def Normaliser.apply (python : Python) : Normaliser → String → String
  | lower,value => python.lower (strip value)
  | upper,value => python.upper (strip value)
  | mac,value => python.lower (dropChars (fun char => char ∈ [':','.','-'] || isSpace char) value)
  | digits,value => dropChars (fun char => !python.isDecimal char) value
  | hostname,value => python.lower (rstripDots (strip value))

structure NamespaceSpec where
  unique : Bool
  normaliser : Normaliser := .lower

def identifierNamespaces : List (String × NamespaceSpec) :=
  [("serial",{unique := true,normaliser := .upper}),
    ("smbios:uuid",{unique := true}),
    ("mac",{unique := true,normaliser := .mac}),
    ("proxmox:instance",{unique := true}),
    ("proxmox:node",{unique := true}),
    ("proxmox:guest",{unique := true}),
    ("proxmox:storage",{unique := true}),
    ("proxmox:uuid",{unique := true}),
    ("docker:container-id",{unique := true}),
    ("hostname",{unique := false,normaliser := .hostname}),
    ("fqdn",{unique := false,normaliser := .hostname}),
    ("cisco:if-index",{unique := false,normaliser := .digits}),
    ("acop:legacy-id",{unique := false})]

end Identifiers

section Relationships

inductive RelationshipType where
  | hasInterface | connectedTo | memberOf | runsOn | dependsOn | ipAssignedTo | usesStorage
  deriving DecidableEq

def RelationshipType.value : RelationshipType → String
  | hasInterface => "HAS_INTERFACE"
  | connectedTo => "CONNECTED_TO"
  | memberOf => "MEMBER_OF"
  | runsOn => "RUNS_ON"
  | dependsOn => "DEPENDS_ON"
  | ipAssignedTo => "IP_ASSIGNED_TO"
  | usesStorage => "USES_STORAGE"

structure EdgeSpec where
  symmetric : Bool
  sources : List AssetType
  targets : List AssetType

def EdgeSpec.permits (spec : EdgeSpec) (source target : AssetType) : Bool :=
  (spec.sources = [] || source ∈ spec.sources) && (spec.targets = [] || target ∈ spec.targets)

def relationshipSpecs : RelationshipType → EdgeSpec
  | .hasInterface => ⟨false,[.device,.host,.vm],[.networkInterface]⟩
  | .connectedTo => ⟨true,[.networkInterface,.switchPort,.device],[.networkInterface,.switchPort,.device]⟩
  | .memberOf => ⟨false,[.switchPort,.host,.vm],[.vlan,.device,.cluster]⟩
  | .runsOn => ⟨false,[.vm,.container,.service],[.host,.vm,.device]⟩
  | .dependsOn => ⟨false,[.service,.application],[.service,.application]⟩
  | .ipAssignedTo => ⟨false,[.ipAddress],[.networkInterface]⟩
  | .usesStorage => ⟨false,[.vm,.host,.service],[.storageDevice]⟩

end Relationships

section Predicates

def reservedRelationshipPredicates : List String :=
  ["has_interface","connected_to","member_of","runs_on","depends_on","ip_assigned_to","uses_storage"]

def knownPredicates : List (String × ValueType) :=
  [("network.hostname",.text),
    ("network.fqdn",.text),
    ("memory.total_bytes",.number),
    ("cpu.cores",.number),
    ("storage.total_bytes",.number),
    ("power.poe_enabled",.bool),
    ("interface.admin_up",.bool),
    ("interface.oper_up",.bool),
    ("interface.speed_mbps",.number),
    ("vlan.access_id",.number),
    ("os.name",.text),
    ("os.version",.text),
    ("config.hash",.text),
    ("lifecycle.last_boot_at",.timestamp)]

def isPredicateChar (char : Char) : Bool :=
  ('a' ≤ char && char ≤ 'z') || ('0' ≤ char && char ≤ '9') || char = '_'

/-- `PREDICATE_PATTERN`, on a stripped text. -/
def matchesPredicate (predicate : String) : Bool :=
  let segments := predicate.toList.splitOn '.'
  segments.all (fun segment => segment ≠ [] && segment.all isPredicateChar) && (predicate.toList.head?.all (· ≠ '_'))

/-- `NAMESPACE_PATTERN`, on a stripped text. -/
def matchesNamespace (text : String) : Bool :=
  match text.toList.splitOn ':' with
  | [] => false
  | first::rest =>
    let isPlain := fun char : Char => ('a' ≤ char && char ≤ 'z') || ('0' ≤ char && char ≤ '9')
    first ≠ [] && first.all isPlain && rest.all fun segment => segment ≠ [] && segment.all fun char => isPlain char || char = '_' || char = '-'

end Predicates

end Acop.Cmdb
