import Acop.Registry
import Mathlib.Data.List.MinMax

/-! The catalogue: the tools that the routes show a caller. -/
namespace Acop

structure ToolDescriptor where
  toolName : String
  toolVersion : String
  permissionClass : String
  approvalRequired : Bool
  minApprovals : Int
  validationRequired : Bool
  targetType : String
  targetAssetTypes : List String
  requiredRoles : List String
  timeoutSeconds : Rat
  idempotency : String
  lifecycleState : String
  inputSchema : JsonObject
  outputSchema : JsonObject

def ToolDescriptor.key (tool : ToolDescriptor) : String × String := (tool.toolName,tool.toolVersion)

inductive CatalogueFault where
  | authorization (message : String) (context : JsonObject)
  | notFound (message : String)

namespace Catalogue

def descriptor (definition : ToolDefinition) (lifecycle : ToolLifecycle) : ToolDescriptor where
  toolName := definition.toolName
  toolVersion := definition.toolVersion
  permissionClass := definition.permissionClass.value
  approvalRequired := definition.approvalPolicy.approvalRequired
  minApprovals := definition.approvalPolicy.minApprovals
  validationRequired := definition.validationRequired
  targetType := definition.targetType.value
  targetAssetTypes := sorted definition.targetAssetTypes
  requiredRoles := sorted definition.requiredRoles
  timeoutSeconds := definition.timeoutSeconds
  idempotency := definition.idempotency.value
  lifecycleState := lifecycle.value
  inputSchema := definition.inputModel.modelJsonSchema
  outputSchema := definition.outputModel.modelJsonSchema

/-- `require_roles`: at least one of them, held in the principal's own right. -/
def requireRoles (required : List Role) (principal : Principal) : Except CatalogueFault Unit :=
  if required ≠ [] ∧ ∀ role ∈ required, ¬ principal.HasRole role then
    let names := required.map Role.value
    let listed := ", ".intercalate (names.map fun name => "'" ++ name ++ "'")
    .error (.authorization s!"Principal '{principal.subject}' lacks any of ({listed})" [("required_roles",.strings names)])
  else .ok ()

/-- The roles of `ViewerPrincipal`. -/
def viewerRoles : List Role := [.viewer,.operator,.approver,.admin]

def InvocableBy (definition : ToolDefinition) (principal : Principal) : Prop :=
  definition.prohibited = false ∧ definition.requiredRoles ⊆ heldRoles principal.roles

instance (definition : ToolDefinition) (principal : Principal) : Decidable (InvocableBy definition principal) :=
  inferInstanceAs (Decidable (_ ∧ _))

variable {runtime : Runtime} (process : Process runtime) (table : RegistrationTable) (principal : Principal)

/-- The row that `_registrations` holds under a key. -/
def registered (key : String × String) : Option ToolRegistration := table.rows.find? fun row => row.key = key

def live : List ToolDefinition := (Registry.allDefinitions process).filter fun definition =>
  (registered table definition.key).any (fun row => row.lifecycleState = .active) ∧ InvocableBy definition principal

def listTools : Except CatalogueFault (List ToolDescriptor) := do
  requireRoles viewerRoles principal
  return (live process table principal).map fun definition => descriptor definition .active

def getTool (toolName : String) : Except CatalogueFault ToolDescriptor := do
  requireRoles viewerRoles principal
  match ((live process table principal).filter fun definition => definition.toolName = toolName).argmax
      ToolDefinition.toolVersion with
  | none => .error (.notFound s!"No invocable tool named '{toolName}'.")
  | some definition => return descriptor definition .active

end Catalogue

end Acop
