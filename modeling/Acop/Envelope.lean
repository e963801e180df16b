import Acop.Contract

/-! The execution envelope an approver agrees to, its digest, and what of an
adapter's report is kept. -/
namespace Acop

/-- A target reference that is falsy in Python counts as absent. -/
def truthy (targetRef : Option JsonObject) : Option JsonObject := targetRef.filter fun fields => !fields.isEmpty

def buildTargetBlock (kind : TargetKind) (assetId : Option Uuid) (targetRef : Option JsonObject) : JsonObject :=
  [("kind",.str kind.value),
    ("asset_id",.optional (assetId.map Uuid.text)),
    ("target_ref",(truthy targetRef).elim .null .obj)]

def buildEnvelope (runtime : Runtime) (definition : ToolDefinition) (canonicalInput target : JsonObject) :
    JsonObject :=
  [("tool",.obj [("name",.str definition.toolName),("version",.str definition.toolVersion),
      ("contract_hash",.str (definition.contractHash runtime))]),
    ("permission_class",.str definition.permissionClass.value),
    ("target",.obj target),
    ("input",.obj canonicalInput),
    ("execution",.obj definition.executionParameters),
    ("approval",.obj definition.approvalPolicy.asSnapshot)]

def envelopeDigest (runtime : Runtime) (envelope : JsonObject) : String := digestOf runtime (.obj envelope)

def inputDigest (runtime : Runtime) (canonicalInput : JsonObject) : String :=
  digestOf runtime (.obj canonicalInput)

/-- `sanitize_output`: the permitted fields in name order, redacted, and their digest. -/
def sanitizeOutput (runtime : Runtime) (definition : ToolDefinition) (payload : JsonObject) :
    JsonObject × String :=
  let clean := (sorted definition.effectiveOutputFields).filterMap fun name =>
    (Json.get payload name).map fun value => (name,value)
  let kept := redactObject clean
  (kept,digestOf runtime (.obj kept))

end Acop
