import Acop.Canonical
import Acop.Guarantee.Approvals
import Acop.Identifiers

/-! What an approval binds: the digest recomputed over what was stored is the one that
was approved, and a digest determines everything that went into its envelope. -/
namespace Acop

open Acop.Transaction

namespace Json

theorem Same.at {first second : JsonObject} (same : Same (.obj first) (.obj second)) {key : String} {value value' : Json}
    (distinct : (second.map Prod.fst).Nodup) (left : (key,value) ∈ first) (right : (key,value') ∈ second) :
    Same value value' := by
  have fields : byKey (canonicalFields first) = byKey (canonicalFields second) := Json.obj.inj same
  have there : (key,value.canonical) ∈ canonicalFields second := by
    rw [← mem_byKey,← fields,mem_byKey,canonicalFields_eq]
    exact List.mem_map.mpr ⟨(key,value),left,rfl⟩
  rw [canonicalFields_eq] at there
  obtain ⟨⟨key',value''⟩,member,equal⟩ := List.mem_map.mp there
  obtain ⟨rfl,kept⟩ := Prod.mk.inj equal
  rw [List.inj_on_of_nodup_map distinct member right rfl] at kept
  exact kept.symm

theorem Same.nth {first second : JsonObject} (same : Same (.obj first) (.obj second)) (place : Nat)
    (distinct : (second.map Prod.fst).Nodup) {key : String} {value value' : Json} (left : first[place]? = some (key,value))
    (right : second[place]? = some (key,value')) : Same value value' :=
  same.at distinct (List.mem_of_getElem? left) (List.mem_of_getElem? right)

theorem Same.str {first second : String} (same : Same (.str first) (.str second)) : first = second := Json.str.inj same

theorem Same.bool {first second : Bool} (same : Same (.bool first) (.bool second)) : first = second := Json.bool.inj same

theorem Same.int {first second : Int} (same : Same (.int first) (.int second)) : first = second := Json.int.inj same

theorem Same.float {first second : Rat} (same : Same (.float first) (.float second)) : first = second := Json.float.inj same

theorem Same.optional {first second : Option String} (same : Same (.optional first) (.optional second)) :
    first = second := by
  cases first with
  | none =>
    cases second with
    | none => rfl
    | some text => cases same
  | some text =>
    cases second with
    | none => cases same
    | some text' => rw [Same.str same]

theorem Same.strings {first second : List String} (same : Same (.strings first) (.strings second)) : first = second := by
  have items : first.map Json.str = second.map Json.str := by
    have inner := Json.arr.inj same
    rw [canonicalItems_eq,canonicalItems_eq,List.map_map,List.map_map] at inner
    exact inner
  exact List.map_injective_iff.mpr (fun _ _ => Json.str.inj) items

end Json

theorem injective_of_nodup {Value Name : Type} {name : Value → Name} (all : List Value) (complete : ∀ value, value ∈ all)
    (distinct : (all.map name).Nodup) : Function.Injective name := by
  intro first second equal
  exact List.inj_on_of_nodup_map distinct (complete first) (complete second) equal

theorem PermissionClass.value_injective : Function.Injective PermissionClass.value :=
  injective_of_nodup [class0Information,class1ReadOnly,class2LowRiskChange,class3HighRiskChange,prohibited]
    (by intro value; cases value <;> decide) (by decide)

theorem TargetKind.value_injective : Function.Injective TargetKind.value :=
  injective_of_nodup [none,asset,externalRef] (by intro value; cases value <;> decide) (by decide)

theorem IdempotencyKind.value_injective : Function.Injective IdempotencyKind.value :=
  injective_of_nodup [naturallyIdempotent,keyed,nonIdempotent] (by intro value; cases value <;> decide)
    (by decide)

theorem Sensitivity.value_injective : Function.Injective Sensitivity.value :=
  injective_of_nodup [publicBand,internalBand,confidentialBand] (by intro value; cases value <;> decide)
    (by decide)

open ToolErrorCategory in
theorem ToolErrorCategory.value_injective : Function.Injective ToolErrorCategory.value :=
  injective_of_nodup
    [authentication,authorization,policyDenied,capabilityNotBound,approvalRequired,approvalDenied,approvalExpired,
      approvalInvalidEnvelope,selfApprovalForbidden,invalidTarget,validationError,idempotencyConflict,timeout,
      adapterUnavailable,targetUnavailable,executionFailed,executionIndeterminate,validationFailed,
      outputContractViolation,cancelled,internalError]
    (by intro value; cases value <;> decide) (by decide)

open Json

theorem ApprovalPolicy.eq_of_snapshot {first second : ApprovalPolicy}
    (same : Same (.obj first.asSnapshot) (.obj second.asSnapshot)) : first = second := by
  have distinct : (second.asSnapshot.map Prod.fst).Nodup := by
    change ["approval_required","min_approvals","approver_roles","distinct_approvers_required","ttl_seconds",
      "allowed_environments","self_approval_permitted"].Nodup
    decide
  have required := (same.nth 0 distinct rfl rfl).bool
  have minimum := (same.nth 1 distinct rfl rfl).int
  have roles := sorted_injective (same.nth 2 distinct rfl rfl).strings
  have apart := (same.nth 3 distinct rfl rfl).bool
  have window := (same.nth 4 distinct rfl rfl).int
  have environments := sorted_injective (same.nth 5 distinct rfl rfl).strings
  have self := (same.nth 6 distinct rfl rfl).bool
  cases first
  cases second
  simp_all

/-- The execution parameters an envelope binds. -/
structure SameExecution (first second : ToolDefinition) : Prop where
  timeoutSeconds : first.timeoutSeconds = second.timeoutSeconds
  idempotency : first.idempotency = second.idempotency
  adapterIdempotent : first.adapterIdempotent = second.adapterIdempotent
  retryPolicy : first.retryPolicy = second.retryPolicy
  validationRequired : first.validationRequired = second.validationRequired
  validationDelaySeconds : first.validationDelaySeconds = second.validationDelaySeconds

theorem SameExecution.of_parameters {first second : ToolDefinition}
    (same : Same (.obj first.executionParameters) (.obj second.executionParameters)) : SameExecution first second := by
  have distinct : (second.executionParameters.map Prod.fst).Nodup := by
    change ["timeout_seconds","idempotency","adapter_idempotent","max_attempts","backoff_seconds","retry_on",
      "validation_required","validation_delay_seconds"].Nodup
    decide
  have attempts := (same.nth 3 distinct rfl rfl).int
  have backoff := (same.nth 4 distinct rfl rfl).float
  have categories := Finset.image_injective ToolErrorCategory.value_injective
    (sorted_injective (same.nth 5 distinct rfl rfl).strings)
  constructor
  · exact (same.nth 0 distinct rfl rfl).float
  · exact IdempotencyKind.value_injective (same.nth 1 distinct rfl rfl).str
  · exact (same.nth 2 distinct rfl rfl).bool
  · revert attempts backoff categories
    cases first.retryPolicy
    cases second.retryPolicy
    rintro rfl rfl rfl
    rfl
  · exact (same.nth 6 distinct rfl rfl).bool
  · exact (same.nth 7 distinct rfl rfl).float

structure SameContract (first second : ToolDefinition) : Prop where
  toolName : first.toolName = second.toolName
  toolVersion : first.toolVersion = second.toolVersion
  permissionClass : first.permissionClass = second.permissionClass
  adapterId : first.adapterId = second.adapterId
  requiredRoles : first.requiredRoles = second.requiredRoles
  targetType : first.targetType = second.targetType
  targetAssetTypes : first.targetAssetTypes = second.targetAssetTypes
  capabilityTags : first.capabilityTags = second.capabilityTags
  prohibited : first.prohibited = second.prohibited
  approvalPolicy : first.approvalPolicy = second.approvalPolicy
  sensitivity : first.sensitivity = second.sensitivity
  inputSchema : Same (.obj first.inputModel.modelJsonSchema) (.obj second.inputModel.modelJsonSchema)
  outputSchema : Same (.obj first.outputModel.modelJsonSchema) (.obj second.outputModel.modelJsonSchema)

theorem SameContract.of_material {first second : ToolDefinition}
    (same : Same first.contractMaterial second.contractMaterial) : SameContract first second := by
  have distinct : (["tool_name","tool_version","permission_class","adapter_id","required_roles","target_type",
      "target_asset_types","capability_tags","prohibited","approval_policy","validation_required","timeout_seconds",
      "idempotency","adapter_idempotent","retry_max_attempts","sensitivity","input_schema","output_schema"] : List String).Nodup := by
    decide
  constructor
  · exact (Same.nth same 0 distinct rfl rfl).str
  · exact (Same.nth same 1 distinct rfl rfl).str
  · exact PermissionClass.value_injective (Same.nth same 2 distinct rfl rfl).str
  · exact (Same.nth same 3 distinct rfl rfl).str
  · exact sorted_injective (Same.nth same 4 distinct rfl rfl).strings
  · exact TargetKind.value_injective (Same.nth same 5 distinct rfl rfl).str
  · exact sorted_injective (Same.nth same 6 distinct rfl rfl).strings
  · exact sorted_injective (Same.nth same 7 distinct rfl rfl).strings
  · exact (Same.nth same 8 distinct rfl rfl).bool
  · exact ApprovalPolicy.eq_of_snapshot (Same.nth same 9 distinct rfl rfl)
  · exact Sensitivity.value_injective (Same.nth same 15 distinct rfl rfl).str
  · exact Same.nth same 16 distinct rfl rfl
  · exact Same.nth same 17 distinct rfl rfl

namespace Json

mutual
def floatFree : Json → Bool
  | .float _ => false
  | .nonFinite _ => false
  | .arr items => floatFreeItems items
  | .obj fields => floatFreeFields fields
  | _ => true
def floatFreeItems : List Json → Bool
  | [] => true
  | item::items => floatFree item && floatFreeItems items
def floatFreeFields : List (String × Json) → Bool
  | [] => true
  | (_,value)::fields => floatFree value && floatFreeFields fields
end

end Json

structure Bound where
  definition : ToolDefinition
  canonicalInput : JsonObject
  kind : TargetKind
  assetId : Option Uuid
  targetRef : Option JsonObject

namespace Bound

variable (runtime : Runtime) (bound : Bound)

def envelope : JsonObject :=
  buildEnvelope runtime bound.definition bound.canonicalInput (buildTargetBlock bound.kind bound.assetId bound.targetRef)

def digest : String := envelopeDigest runtime (bound.envelope runtime)

def hashed : Set String :=
  {canonicalJson runtime bound.definition.contractMaterial,canonicalJson runtime (.obj (bound.envelope runtime))}

/-- Nothing that an envelope binds differs. An empty reference counts as none. -/
structure Alike (first second : Bound) : Prop where
  contract : SameContract first.definition second.definition
  execution : SameExecution first.definition second.definition
  canonicalInput : Same (.obj first.canonicalInput) (.obj second.canonicalInput)
  kind : first.kind = second.kind
  assetId : first.assetId = second.assetId
  targetRef : Same ((truthy first.targetRef).elim .null .obj) ((truthy second.targetRef).elim .null .obj)

variable {runtime}

theorem alike_of_digest {hashed : Set String} (readable : ReadableFloats runtime.floatRepr)
    (collisionFree : Set.InjOn runtime.sha256 hashed) {first second : Bound} (within : first.hashed runtime ⊆ hashed)
    (within' : second.hashed runtime ⊆ hashed) (equal : first.digest runtime = second.digest runtime) : Alike first second := by
  have told : ∀ {value value' : Json}, canonicalJson runtime value ∈ hashed → canonicalJson runtime value' ∈ hashed →
      digestOf runtime value = digestOf runtime value' → Same value value' := by
    intro value value' member member' same
    exact same_of_render readable (collisionFree member member' same)
  have envelope := told (within (.inr rfl)) (within' (.inr rfl)) equal
  have keys : (["tool","permission_class","target","input","execution","approval"] : List String).Nodup := by decide
  have tool := Same.nth envelope 0 keys rfl rfl
  have target := Same.nth envelope 2 keys rfl rfl
  have toolKeys : (["name","version","contract_hash"] : List String).Nodup := by decide
  have targetKeys : (["kind","asset_id","target_ref"] : List String).Nodup := by decide
  have material := told (within (.inl rfl)) (within' (.inl rfl)) (Same.nth tool 2 toolKeys rfl rfl).str
  constructor
  · exact SameContract.of_material material
  · exact SameExecution.of_parameters (Same.nth envelope 4 keys rfl rfl)
  · exact Same.nth envelope 3 keys rfl rfl
  · exact TargetKind.value_injective (Same.nth target 0 targetKeys rfl rfl).str
  · exact Option.map_injective Uuid.text_injective (Same.nth target 1 targetKeys rfl rfl).optional
  · exact Same.nth target 2 targetKeys rfl rfl

end Bound

/-- What the envelope of a row is built from, under a declaration. -/
def ToolInvocation.bound (row : ToolInvocation) (definition : ToolDefinition) : Bound :=
  ⟨definition,row.inputCanonical,row.targetKind,row.targetAssetId,row.targetRef⟩

theorem recomputedDigest_eq (runtime : Runtime) (definition : ToolDefinition) (row : ToolInvocation) :
    ExecutionDispatcher.recomputedDigest runtime definition row = (row.bound definition).digest runtime := rfl

/-- The row as it is read back from a store that keeps JSON in a form of its own. -/
def ToolInvocation.readBack (jsonb : JsonObject → JsonObject) (row : ToolInvocation) : ToolInvocation := {row with
  inputCanonical := jsonb row.inputCanonical
  targetRef := row.targetRef.map jsonb}

theorem truthy_map {jsonb : JsonObject → JsonObject} {targetRef : Option JsonObject}
    (returned : ∀ fields ∈ targetRef, Same (.obj (jsonb fields)) (.obj fields)) :
    Same ((truthy (targetRef.map jsonb)).elim .null .obj) ((truthy targetRef).elim .null .obj) := by
  cases targetRef with
  | none => rfl
  | some fields =>
    have same := returned fields rfl
    have size : (jsonb fields).isEmpty = fields.isEmpty := by
      have lengths := congrArg List.length (Json.obj.inj same)
      simp only [byKey,List.length_insertionSort,canonicalFields_eq,List.length_map] at lengths
      rw [Bool.eq_iff_iff,List.isEmpty_iff_length_eq_zero,List.isEmpty_iff_length_eq_zero,lengths]
    cases empty : fields.isEmpty with
    | true =>
      rw [empty] at size
      simp [truthy,Option.filter,size,empty,Same]
    | false =>
      rw [empty] at size
      simpa [truthy,Option.filter,size,empty] using same

theorem recomputedDigest_readBack {runtime : Runtime} {jsonb : JsonObject → JsonObject} {definition : ToolDefinition}
    {row : ToolInvocation} (input : Same (.obj (jsonb row.inputCanonical)) (.obj row.inputCanonical))
    (reference : ∀ fields ∈ row.targetRef, Same (.obj (jsonb fields)) (.obj fields)) :
    ExecutionDispatcher.recomputedDigest runtime definition (row.readBack jsonb) =
      ExecutionDispatcher.recomputedDigest runtime definition row := by
  apply congrArg runtime.sha256
  apply render_of_same
  have target := truthy_map reference
  unfold Same at input target ⊢
  simp only [ToolInvocation.readBack,buildEnvelope,buildTargetBlock,canonical,canonicalFields] at input target ⊢
  rw [input,target]

section

variable {runtime : Runtime} {settings : Settings} {start : Db} {w : World Reply Fault Answer (Op runtime) Db Write}

theorem gate_keeps {row : ToolInvocation} {definition : ToolDefinition}
    (intact : ExecutionDispatcher.recomputedDigest runtime definition row = row.envelopeDigest)
    (registration : Option ToolRegistration) :
    ExecutionDispatcher.gateDefinition runtime row registration definition ≠ some .envelopeIntegrityFailed := by
  unfold ExecutionDispatcher.gateDefinition
  split
  · exact nofun
  split
  · exact nofun
  · exact nofun
  split
  · exact nofun
  split
  · rename_i changed
    exact absurd intact changed
  · exact nofun

theorem gate_refuses {row : ToolInvocation} {definition : ToolDefinition}
    (changed : ExecutionDispatcher.recomputedDigest runtime definition row ≠ row.envelopeDigest)
    (registration : Option ToolRegistration) :
    ExecutionDispatcher.gateDefinition runtime row registration definition ≠ none := by
  unfold ExecutionDispatcher.gateDefinition
  split
  · exact nofun
  split
  · exact nofun
  · exact nofun
  split
  · exact nofun
  exact nofun

theorem getDefinition_key {process : Process runtime} {toolName toolVersion : String} {definition : ToolDefinition}
    (declared : process.getDefinition toolName toolVersion = some definition) : definition.key = (toolName,toolVersion) :=
  of_decide_eq_true (@List.find?_some ToolDefinition (fun definition => definition.key = (toolName,toolVersion)) _ _ declared)

/-- An approval means what it says: whenever an accepted invocation is read, under the
declaration of its tool that it was accepted under, its digest is the stored one; and whatever
else an envelope could have been built from has another digest, which the gate refuses. -/
theorem envelope_binding {hashed : Set String} {jsonb : JsonObject → JsonObject} (fresh : start.Fresh)
    (reachable : (acop runtime settings).Reachable (acop runtime settings).free start w)
    (readable : ReadableFloats runtime.floatRepr) (collisionFree : Set.InjOn runtime.sha256 hashed)
    (returned : ∀ fields, floatFreeFields fields = true → Same (.obj (jsonb fields)) (.obj fields)) :
    (∀ before owner event after db id row, w.trace = before ++ (owner,event)::after → event.seen = some db →
      db.invocations.lookup id = some row → row.state ≠ .rejected →
        ∃ earlier creator writes db' later process request principal definition,
          before = earlier ++ (creator,.commit writes db')::later ∧
          Began (history earlier creator) (.create process request principal) ∧
          request.toolName = row.toolName ∧ request.toolVersion = row.toolVersion ∧
          process.getDefinition row.toolName row.toolVersion = some definition ∧
          definition.toolName = row.toolName ∧ definition.toolVersion = row.toolVersion ∧
          (floatFreeFields row.inputCanonical = true → (∀ fields ∈ row.targetRef, floatFreeFields fields = true) →
            ExecutionDispatcher.recomputedDigest runtime definition (row.readBack jsonb) = row.envelopeDigest ∧
            ∀ registration, ExecutionDispatcher.gateDefinition runtime (row.readBack jsonb) registration definition ≠
              some .envelopeIntegrityFailed)) ∧
    (∀ first second : Bound, first.hashed runtime ⊆ hashed → second.hashed runtime ⊆ hashed →
      ¬ first.Alike second → first.digest runtime ≠ second.digest runtime) ∧
    ∀ (approved : Bound) (row : ToolInvocation) (definition : ToolDefinition), approved.hashed runtime ⊆ hashed →
      (row.bound definition).hashed runtime ⊆ hashed → row.envelopeDigest = approved.digest runtime →
      ¬ approved.Alike (row.bound definition) → ∀ registration,
        ExecutionDispatcher.gateDefinition runtime row registration definition ≠ none := by
  refine ⟨?_,?_,?_⟩
  · intro before owner event after db id row split seen present accepted
    obtain ⟨earlier,creator,writes,db',later,process,request,principal,definition,created,rfl,_,_,grown,began,admitted⟩ :=
      (Course.any fresh reachable).origin fresh split seen present accepted
    have toolName : row.toolName = request.toolName := (congrArg InvocationSnapshot.toolName grown.snapshot).trans admitted.named.1
    have toolVersion : row.toolVersion = request.toolVersion :=
      (congrArg InvocationSnapshot.toolVersion grown.snapshot).trans admitted.named.2
    have declared : process.getDefinition row.toolName row.toolVersion = some definition := by
      rw [toolName,toolVersion]
      exact admitted.declared
    obtain ⟨named,versioned⟩ := Prod.mk.inj (getDefinition_key declared)
    refine ⟨earlier,creator,writes,db',later,process,request,principal,definition,rfl,began,toolName.symm,toolVersion.symm,
      declared,named,versioned,?_⟩
    intro input reference
    have stored : ExecutionDispatcher.recomputedDigest runtime definition row = row.envelopeDigest := by
      have same := admitted.envelope
      unfold ExecutionDispatcher.recomputedDigest at same ⊢
      rw [grown.snapshot]
      exact same.symm
    have intact : ExecutionDispatcher.recomputedDigest runtime definition (row.readBack jsonb) = row.envelopeDigest := by
      rw [recomputedDigest_readBack (returned _ input) fun fields member => returned fields (reference fields member)]
      exact stored
    exact ⟨intact,gate_keeps intact⟩
  · intro first second within within' different equal
    exact different (Bound.alike_of_digest readable collisionFree within within' equal)
  · intro approved row definition within within' digest different registration
    apply gate_refuses
    intro equal
    rw [recomputedDigest_eq,digest] at equal
    exact different (Bound.alike_of_digest readable collisionFree within within' equal.symm)

end

/-- `repr` of a float that is a small integer; the others get a form of their own. -/
def plainFloat (value : Rat) : String := toString value.num ++ "." ++ toString ((value.den : Int) - 1)

theorem plainFloat_symbols (value : Rat) : (plainFloat value).toList =
    (toString value.num).toList ++ '.'::(toString ((value.den : Int) - 1)).toList := by
  simp [plainFloat,String.toList_append]

theorem plainFloat_readable : ReadableFloats plainFloat where
  injective := by
    intro first second equal
    have symbols := congrArg String.toList equal
    rw [plainFloat_symbols,plainFloat_symbols] at symbols
    have free : ∀ n : Int, ∀ char ∈ (toString n).toList, ¬ char = '.' := by
      rintro n char member rfl
      rcases digit_of_int member with digit | sign
      · exact absurd digit (by decide)
      · exact absurd sign (by decide)
    obtain ⟨num,tail⟩ := Coding.atom (free first.num) (free second.num) (Coding.ends_cons.mpr rfl)
      (Coding.ends_cons.mpr rfl) symbols
    have den := int_injective (List.cons.inj tail).2
    exact Rat.ext (int_injective num) (by omega)
  numeric := by
    intro value char member
    rw [plainFloat_symbols] at member
    have digits : ∀ n : Int, char ∈ (toString n).toList → Numeric char := by
      intro n member
      exact (digit_of_int member).imp_right fun sign => by simp [sign]
    rcases List.mem_append.mp member with num | rest
    · exact digits _ num
    rcases List.mem_cons.mp rest with rfl | den
    · exact .inr (by decide)
    · exact digits _ den
  fractional := by
    intro value
    refine ⟨'.',?_,.inl rfl⟩
    rw [plainFloat_symbols]
    exact List.mem_append_right _ (.head _)

def intOf : PyValue → Option Int
  | .int number => some number
  | _ => none

def shelfModel : PydanticModel where
  modelValidate := fun arguments => match arguments with
    | [(.str "shelf",.dict [(.str "slots",.list slots)])] => match slots.mapM intOf with
      | some numbers => .valid [("shelf",.obj [("slots",.arr (numbers.map .int))])]
      | none => .invalid
    | _ => .invalid
  modelJsonSchema :=
    [("$defs",.obj [("Shelf",.obj
        [("additionalProperties",.bool false),
          ("properties",.obj [("slots",.obj [("items",.obj [("type",.str "integer")]),("type",.str "array")])]),
          ("type",.str "object")])]),
      ("additionalProperties",.bool false),
      ("properties",.obj [("shelf",.obj [("$ref",.str "#/$defs/Shelf")])]),
      ("type",.str "object")]
  modelFields := {"shelf"}

def shelfBox : ToolDefinition := {probeBox with inputModel := shelfModel, retryPolicy := {backoffSeconds := 1}}

def shelved (slots : List Int) : JsonObject := [("shelf",.obj [("slots",.arr (slots.map .int))])]

def filled (slots : List Int) : Bound := ⟨shelfBox,shelved slots,.externalRef,none,some [("name",.str "box")]⟩

def contractText : String := render plainFloat shelfBox.contractMaterial

def contractDigest : String := "eb665766c1cd982925d5d4918c44e90ae1028bf29e9a5c3cc0bf04e5f8049306"
def filledDigest : String := "f34503ca8a02c46d90f434fe6c72ed247ca2cb00b0ef801f54a8ef83fb2702b6"
def swappedDigest : String := "269f0890a0d8887d4b079cf1c57196bca42cb47b7554d6f8511732602c79837f"
def shelfDigest : String := "94574bdbe554ae8329fe821812610d9706dc301c716f245f701f5f7f7eba9c7e"

def isDigest (text : String) : Bool := text.length = 64 && text.toList.all (· != '\x00')

/-- A hash that returns one of these digests, whatever the text. -/
structure Hashing where
  hash : String → String
  digests : List String
  among : ∀ text, hash text ∈ digests
  fitting : digests.all isDigest

theorem Hashing.fits (hashing : Hashing) (text : String) :
    (hashing.hash text).length = 64 ∧ ∀ char ∈ (hashing.hash text).toList, char ≠ '\x00' := by
  have digest := List.all_eq_true.mp hashing.fitting _ (hashing.among text)
  simpa [isDigest] using digest

def Hashing.runtime (hashing : Hashing) : Runtime := {labRuntime with
  sha256 := hashing.hash
  floatRepr := plainFloat
  sha256_length := fun text => (hashing.fits text).1
  sha256_plain := fun text => (hashing.fits text).2}

theorem digests_fitting : [filledDigest,swappedDigest,shelfDigest,contractDigest].all isDigest := by decide +kernel

theorem contract_fitting : [contractDigest].all isDigest := by decide +kernel

def contractRuntime : Runtime := (Hashing.mk (fun _ => contractDigest) [contractDigest] (fun _ => .head _) contract_fitting).runtime

def envelopeText (slots : List Int) : String := canonicalJson contractRuntime (.obj ((filled slots).envelope contractRuntime))

-- SHA-256 of the texts hashed here. The contract, the longest of them, is what is left: a text that
-- differs from another shows it early, one that equals it only at its end.
def tabulated (text : String) : String :=
  if text = envelopeText [1,2] then filledDigest
  else if text = envelopeText [2,1] then swappedDigest
  else if text = render plainFloat (.obj (shelved [1,2])) then shelfDigest
  else contractDigest

theorem tabulated_mem (text : String) : tabulated text ∈ [filledDigest,swappedDigest,shelfDigest,contractDigest] := by
  unfold tabulated
  split
  · simp
  split
  · simp
  split <;> simp

def boundRuntime : Runtime := (Hashing.mk tabulated _ tabulated_mem digests_fitting).runtime

theorem tabulated_contract : tabulated contractText = contractDigest := by
  have apart : contractText ≠ envelopeText [1,2] ∧ contractText ≠ envelopeText [2,1] ∧
      contractText ≠ render plainFloat (.obj (shelved [1,2])) := by decide +kernel
  rw [tabulated,if_neg apart.1,if_neg apart.2.1,if_neg apart.2.2]

theorem tabulated_filled : tabulated (envelopeText [1,2]) = filledDigest := if_pos rfl

theorem shelved_apart : ¬ Same (.obj (shelved [1,2])) (.obj (shelved [2,1])) := by
  intro same
  have slots : Same (.arr [.int 1,.int 2]) (.arr [.int 2,.int 1]) := (same.nth 0 (by decide) rfl rfl).nth 0 (by decide) rfl rfl
  have first := (List.cons.inj (Json.arr.inj slots)).1
  exact absurd (Same.int first) (by decide)

theorem filled_apart : ¬ (filled [1,2]).Alike (filled [2,1]) := fun alike => shelved_apart alike.canonicalInput

theorem tabulated_swapped : tabulated (envelopeText [2,1]) = swappedDigest := by
  have apart : envelopeText [2,1] ≠ envelopeText [1,2] := by
    intro equal
    have envelope := same_of_render plainFloat_readable equal.symm
    have keys : (["tool","permission_class","target","input","execution","approval"] : List String).Nodup := by decide
    exact shelved_apart (envelope.nth 3 keys rfl rfl)
  rw [tabulated,if_neg apart,if_pos rfl]

theorem digestOf_bound (value : Json) : digestOf boundRuntime value = tabulated (render plainFloat value) := rfl

theorem digestOf_contract (value : Json) : digestOf contractRuntime value = contractDigest := rfl

theorem canonicalJson_bound (value : Json) : canonicalJson boundRuntime value = render plainFloat value := rfl

theorem canonicalJson_contract (value : Json) : canonicalJson contractRuntime value = render plainFloat value := rfl

def hashedTexts : Set String := {contractText,envelopeText [1,2],envelopeText [2,1]}

theorem filled_hashed (slots : List Int) : (filled slots).hashed boundRuntime = {contractText,envelopeText slots} := by
  have hash : shelfBox.contractHash boundRuntime = shelfBox.contractHash contractRuntime := by
    rw [ToolDefinition.contractHash,ToolDefinition.contractHash,digestOf_bound,digestOf_contract]
    exact tabulated_contract
  have same : (filled slots).envelope boundRuntime = (filled slots).envelope contractRuntime := by
    simp only [Bound.envelope,buildEnvelope,filled,hash]
  rw [Bound.hashed,same,canonicalJson_bound,canonicalJson_bound,envelopeText,canonicalJson_contract]
  rfl

theorem filled_within : (filled [1,2]).hashed boundRuntime ⊆ hashedTexts ∧ (filled [2,1]).hashed boundRuntime ⊆ hashedTexts := by
  rw [filled_hashed,filled_hashed]
  constructor
  · exact Set.insert_subset_insert (Set.singleton_subset_iff.mpr (.inl rfl))
  · exact Set.insert_subset_insert (Set.subset_insert _ _)

theorem tabulated_collisionFree : Set.InjOn boundRuntime.sha256 hashedTexts := by
  have apart : contractDigest ≠ filledDigest ∧ contractDigest ≠ swappedDigest ∧ filledDigest ≠ swappedDigest := by decide +kernel
  obtain ⟨first,second,third⟩ := apart
  intro left member right member' equal
  change tabulated left = tabulated right at equal
  rcases member with rfl | rfl | rfl <;> rcases member' with rfl | rfl | rfl <;>
    simp only [tabulated_contract,tabulated_filled,tabulated_swapped] at equal
  · rfl
  · exact absurd equal first
  · exact absurd equal second
  · exact absurd equal.symm first
  · rfl
  · exact absurd equal third
  · exact absurd equal.symm second
  · exact absurd equal.symm third
  · rfl

def boundProcess : Process boundRuntime where
  adapters := {"lab"}
  definitions := [shelfBox]
  declared := by
    intro definition member
    cases List.mem_singleton.mp member
    exact accepted_of_toBool _ (by decide +kernel)
  distinct := by decide +kernel

def shelfRequest : InvocationRequest := {boxRequest "lab.box.probe" none with
  arguments := [(.str "shelf",.dict [(.str "slots",.list [.int 1,.int 2])])]}

/-- A request for a filled shelf is accepted, and a worker reads its row. -/
def boundMoves : List (Move (Op boundRuntime) Input) :=
  .start 0 (.create boundProcess shelfRequest (person "ann" {"operator"})) ::
    (List.replicate 13 {uuid := 1}).map (.call 0) ++
    [.commit 0,.finish 0,.start 1 (.executeOnce boundProcess 1),.call 1 {uuid := 5}]

def boundRun : Option (World Reply Fault Answer (Op boundRuntime) Db Write) :=
  (acop boundRuntime labSettings).run (acop boundRuntime labSettings).free (.initial labDb) boundMoves

/-- The worker saw the row READY, with the digest of the filled shelf. -/
def shelfSeen (w : World Reply Fault Answer (Op boundRuntime) Db Write) : Bool :=
  w.trace.getLast?.any fun entry => entry.1 = 1 && entry.2.seen.any fun db => (db.invocations.lookup 1).any fun row =>
    row.state = .ready && row.envelopeDigest = filledDigest

theorem boundRun_sees : boundRun.any shelfSeen = true := by decide +kernel

@[irreducible] def boundWorld : World Reply Fault Answer (Op boundRuntime) Db Write :=
  boundRun.get (Option.isSome_of_any boundRun_sees)

theorem boundWorld_reachable :
    (acop boundRuntime labSettings).Reachable (acop boundRuntime labSettings).free labDb boundWorld := by
  unfold boundWorld
  exact System.steps_of_run _ _ _ _ (Option.some_get _).symm

theorem boundWorld_sees : shelfSeen boundWorld = true := by
  unfold boundWorld
  exact Option.get_of_any_eq_true shelfSeen _ boundRun_sees

/-- A row approved with one order of the slots and left with the other. -/
def swapped (row : ToolInvocation) : ToolInvocation := {row with
  inputCanonical := shelved [2,1]
  targetKind := .externalRef
  targetAssetId := none
  targetRef := some [("name",.str "box")]
  envelopeDigest := (filled [1,2]).digest boundRuntime}

theorem swapped_bound (row : ToolInvocation) : (swapped row).bound shelfBox = filled [2,1] := rfl

theorem swapped_digest (row : ToolInvocation) : (swapped row).envelopeDigest = (filled [1,2]).digest boundRuntime := by
  unfold swapped
  dsimp only

theorem envelope_binding_lab :
    (acop boundRuntime labSettings).Reachable (acop boundRuntime labSettings).free labDb boundWorld ∧ shelfSeen boundWorld = true ∧
      (∀ before owner event after db id row, boundWorld.trace = before ++ (owner,event)::after → event.seen = some db →
        db.invocations.lookup id = some row → row.state ≠ .rejected →
          ∃ earlier creator writes db' later process request principal definition,
            before = earlier ++ (creator,.commit writes db')::later ∧
            Began (history earlier creator) (.create process request principal) ∧
            request.toolName = row.toolName ∧ request.toolVersion = row.toolVersion ∧
            process.getDefinition row.toolName row.toolVersion = some definition ∧
            definition.toolName = row.toolName ∧ definition.toolVersion = row.toolVersion ∧
            (floatFreeFields row.inputCanonical = true → (∀ fields ∈ row.targetRef, floatFreeFields fields = true) →
              ExecutionDispatcher.recomputedDigest boundRuntime definition (row.readBack byKey) = row.envelopeDigest ∧
              ∀ registration, ExecutionDispatcher.gateDefinition boundRuntime (row.readBack byKey) registration definition ≠
                some .envelopeIntegrityFailed)) ∧
      (filled [1,2]).digest boundRuntime ≠ (filled [2,1]).digest boundRuntime ∧
      ∀ row registration, ExecutionDispatcher.gateDefinition boundRuntime (swapped row) registration shelfBox ≠ none := by
  have returned : ∀ fields : JsonObject, floatFreeFields fields = true → Same (.obj (byKey fields)) (.obj fields) := by
    intro fields _
    simp only [Same,canonical,canonical_fields_byKey,byKey_byKey]
  obtain ⟨within,within'⟩ := filled_within
  obtain ⟨kept,told,refused⟩ :=
    envelope_binding labDb_fresh boundWorld_reachable plainFloat_readable tabulated_collisionFree returned
  refine ⟨boundWorld_reachable,boundWorld_sees,kept,told _ _ within within' filled_apart,?_⟩
  intro row
  refine refused (filled [1,2]) (swapped row) shelfBox within ?_ (swapped_digest row) ?_
  · rw [swapped_bound]
    exact within'
  · rw [swapped_bound]
    exact filled_apart

end Acop
