import Acop.Guarantee.Binding
import Acop.Guarantee.Deployments

/-! Contract drift: which changes of a declaration its contract hash shows, and the
reconciliation that refuses a changed hash. -/
namespace Acop.Registry
open Json

/-- What the contract hash reads of a declaration. -/
structure SameHashed (first second : ToolDefinition) : Prop extends SameContract first second where
  validationRequired : first.validationRequired = second.validationRequired
  timeoutSeconds : first.timeoutSeconds = second.timeoutSeconds
  idempotency : first.idempotency = second.idempotency
  adapterIdempotent : first.adapterIdempotent = second.adapterIdempotent
  maxAttempts : first.retryPolicy.maxAttempts = second.retryPolicy.maxAttempts

/-- What it leaves out of the execution policy. -/
structure SameUnhashed (first second : ToolDefinition) : Prop where
  outputAllowList : first.outputAllowList = second.outputAllowList
  validationDelaySeconds : first.validationDelaySeconds = second.validationDelaySeconds
  backoffSeconds : first.retryPolicy.backoffSeconds = second.retryPolicy.backoffSeconds
  retryOn : first.retryPolicy.retryOn = second.retryPolicy.retryOn

/-- The two behave alike: one contract, one execution policy, one output. -/
structure SameBehaviour (first second : ToolDefinition) : Prop where
  contract : SameContract first second
  execution : SameExecution first second
  outputAllowList : first.outputAllowList = second.outputAllowList

variable {runtime : Runtime} {first second : ToolDefinition}

theorem sameBehaviour_iff : SameBehaviour first second ↔ SameHashed first second ∧ SameUnhashed first second := by
  constructor
  · intro ⟨contract,execution,outputs⟩
    have attempts := congrArg RetryPolicy.maxAttempts execution.retryPolicy
    refine ⟨⟨contract,?_,?_,?_,?_,attempts⟩,⟨outputs,?_,?_,?_⟩⟩
    · exact execution.validationRequired
    · exact execution.timeoutSeconds
    · exact execution.idempotency
    · exact execution.adapterIdempotent
    · exact execution.validationDelaySeconds
    · exact congrArg RetryPolicy.backoffSeconds execution.retryPolicy
    · exact congrArg RetryPolicy.retryOn execution.retryPolicy
  · intro ⟨hashed,unhashed⟩
    have retries : first.retryPolicy = second.retryPolicy := by
      have attempts := hashed.maxAttempts
      have backoff := unhashed.backoffSeconds
      have categories := unhashed.retryOn
      cases policy : first.retryPolicy
      cases policy' : second.retryPolicy
      simp_all only
    refine ⟨hashed.toSameContract,?_,unhashed.outputAllowList⟩
    constructor
    · exact hashed.timeoutSeconds
    · exact hashed.idempotency
    · exact hashed.adapterIdempotent
    · exact retries
    · exact hashed.validationRequired
    · exact unhashed.validationDelaySeconds

theorem SameHashed.of_material (same : Same first.contractMaterial second.contractMaterial) : SameHashed first second := by
  have distinct : (["tool_name","tool_version","permission_class","adapter_id","required_roles","target_type",
      "target_asset_types","capability_tags","prohibited","approval_policy","validation_required","timeout_seconds",
      "idempotency","adapter_idempotent","retry_max_attempts","sensitivity","input_schema","output_schema"] : List String).Nodup := by
    decide
  refine ⟨SameContract.of_material same,?_,?_,?_,?_,?_⟩
  · exact (Same.nth same 10 distinct rfl rfl).bool
  · exact (Same.nth same 11 distinct rfl rfl).float
  · exact IdempotencyKind.value_injective (Same.nth same 12 distinct rfl rfl).str
  · exact (Same.nth same 13 distinct rfl rfl).bool
  · exact (Same.nth same 14 distinct rfl rfl).int

theorem SameHashed.material (same : SameHashed first second) : Same first.contractMaterial second.contractMaterial := by
  have input := same.inputSchema
  have output := same.outputSchema
  simp only [Same,canonical,Json.obj.injEq] at input output
  simp only [Same,ToolDefinition.contractMaterial,canonical,canonicalFields,same.toolName,same.toolVersion,same.permissionClass,
    same.adapterId,same.requiredRoles,same.targetType,same.targetAssetTypes,same.capabilityTags,same.prohibited,
    same.approvalPolicy,same.validationRequired,same.timeoutSeconds,same.idempotency,same.adapterIdempotent,same.maxAttempts,
    same.sensitivity,input,output]

theorem contractHash_eq_iff (readable : ReadableFloats runtime.floatRepr) (collisionFree : Set.InjOn runtime.sha256
      {canonicalJson runtime first.contractMaterial,canonicalJson runtime second.contractMaterial}) :
    first.contractHash runtime = second.contractHash runtime ↔ SameHashed first second := by
  constructor
  · intro equal
    exact SameHashed.of_material (same_of_render readable (collisionFree (.inl rfl) (.inr rfl) equal))
  · intro same
    exact congrArg runtime.sha256 (render_of_same same.material)

/-- A change of behaviour changes the hash, so that no reconciliation of the changed code takes
the row that was stored for the other. -/
def DriftSeen (runtime : Runtime) (first second : ToolDefinition) : Prop := ¬ SameBehaviour first second →
  first.contractHash runtime ≠ second.contractHash runtime ∧
  ∀ (process : Process runtime) (table : RegistrationTable) (newId : String × String → Uuid) (now : String × String → Time),
    second ∈ process.definitions → ∀ row ∈ table.rows, row.key = first.key → row.contractHash = first.contractHash runtime →
      ∃ message context, attempt table (.reconcile process false newId now) = .error (.configuration message context)

theorem reconcile_refuses {process : Process runtime} {table : RegistrationTable} {row : ToolRegistration}
    (newId : String × String → Uuid) (now : String × String → Time) (declared : second ∈ process.definitions)
    (stored : row ∈ table.rows) (named : row.key = second.key) (changed : row.contractHash ≠ second.contractHash runtime) :
    ∃ message context, attempt table (.reconcile process false newId now) = .error (.configuration message context) := by
  have drifted : Drifted runtime false table.rows second := ⟨rfl,row,find_of_mem stored named,changed⟩
  rcases attempt_reconcile process false newId now table with ⟨_,stopped⟩ | ⟨none,_⟩
  · exact stopped
  · exact absurd ⟨second,declared,drifted⟩ none

/-- Drift is seen exactly where it shows in what the hash reads, or leaves the rest as it was. -/
theorem drift_seen (key : first.key = second.key) (readable : ReadableFloats runtime.floatRepr)
    (collisionFree : Set.InjOn runtime.sha256
      {canonicalJson runtime first.contractMaterial,canonicalJson runtime second.contractMaterial}) :
    DriftSeen runtime first second ↔ (SameHashed first second → SameUnhashed first second) := by
  have hash := contractHash_eq_iff readable collisionFree
  constructor
  · intro seen hashed
    by_contra differs
    have changed : ¬ SameBehaviour first second := fun same => differs (sameBehaviour_iff.mp same).2
    exact (seen changed).1 (hash.mpr hashed)
  · intro condition changed
    have different : first.contractHash runtime ≠ second.contractHash runtime := by
      intro equal
      have hashed := hash.mp equal
      exact changed (sameBehaviour_iff.mpr ⟨hashed,condition hashed⟩)
    refine ⟨different,?_⟩
    intro process table newId now declared row stored named held
    apply reconcile_refuses newId now declared stored (named.trans key)
    rw [held]
    exact different

/-- A release that lets one more field of the output through, under the version as it was. -/
def widened : ToolDefinition := {shelfBox with outputAllowList := {"note"}}

def slower : ToolDefinition := {shelfBox with timeoutSeconds := 60}

def slowerDigest : String := "7d33e666b2a162a56308c9d38888487111da04fa2fff8e89c16a57d0a29c5c4a"

/-- SHA-256 of the two contracts. -/
def released (text : String) : String := if text = contractText then contractDigest else slowerDigest

theorem released_mem (text : String) : released text ∈ [contractDigest,slowerDigest] := by
  unfold released
  split <;> simp

theorem releases_fitting : [contractDigest,slowerDigest].all isDigest := by decide +kernel

def releaseRuntime : Runtime := (Hashing.mk released _ released_mem releases_fitting).runtime

theorem canonicalJson_release (value : Json) : canonicalJson releaseRuntime value = render plainFloat value := rfl

theorem released_contract : released contractText = contractDigest := if_pos rfl

theorem releaseRuntime_sha256 : releaseRuntime.sha256 = released := rfl

theorem contract_of_released {text : String} (digest : released text = contractDigest) : text = contractText := by
  by_contra different
  rw [released,if_neg different] at digest
  exact absurd digest (by decide +kernel)

theorem releases_apart (text : String) : Set.InjOn releaseRuntime.sha256 {contractText,text} := by
  apply Set.injOn_pair.mpr
  intro equal
  rw [releaseRuntime_sha256,released_contract] at equal
  exact (contract_of_released equal.symm).symm

theorem contract_released : canonicalJson releaseRuntime shelfBox.contractMaterial = contractText := by
  rw [contractText,canonicalJson_release]

theorem widened_unseen : validateDeclaration shelfBox releaseRuntime {"lab"} = .ok () ∧
    validateDeclaration widened releaseRuntime {"lab"} = .ok () ∧ shelfBox.key = widened.key ∧
    ReadableFloats releaseRuntime.floatRepr ∧
    Set.InjOn releaseRuntime.sha256
      {canonicalJson releaseRuntime shelfBox.contractMaterial,canonicalJson releaseRuntime widened.contractMaterial} ∧
    ¬ DriftSeen releaseRuntime shelfBox widened := by
  have material : shelfBox.contractMaterial = widened.contractMaterial := rfl
  refine ⟨accepted_of_toBool _ (by decide +kernel),accepted_of_toBool _ (by decide +kernel),rfl,plainFloat_readable,?_,?_⟩
  · rw [contract_released]
    exact releases_apart _
  · intro seen
    have differs : ¬ SameBehaviour shelfBox widened := by
      intro same
      exact absurd same.outputAllowList (by decide)
    exact (seen differs).1 (congrArg (digestOf releaseRuntime) material)

theorem drift_seen_lab : shelfBox.key = slower.key ∧ DriftSeen releaseRuntime shelfBox slower := by
  have key : shelfBox.key = slower.key := rfl
  have waits : shelfBox.timeoutSeconds ≠ slower.timeoutSeconds := by
    simp only [slower,shelfBox,probeBox]
    norm_num
  have apart : Set.InjOn releaseRuntime.sha256
      {canonicalJson releaseRuntime shelfBox.contractMaterial,canonicalJson releaseRuntime slower.contractMaterial} := by
    rw [contract_released]
    exact releases_apart _
  refine ⟨key,(drift_seen key plainFloat_readable apart).mpr ?_⟩
  intro same
  exact absurd same.timeoutSeconds waits

end Acop.Registry
