import Acop.System
import Acop.Text

/-! `POST /tool-invocations`: what the route answers once its services have. -/
namespace Acop

/-- The body and what the request carries with it. -/
structure InvocationCreate extends InvocationRequest where
  justification : Option String := none

inductive RouteError where
  | service (fault : Fault)
  | validation (message : String) (context : JsonObject)
  | notFound (message : String)

namespace Route

def inlineClasses : List PermissionClass := [.class0Information,.class1ReadOnly]

def requireJustification (invocation : ToolInvocation) (payload : InvocationCreate) : Except RouteError Unit :=
  if invocation.permissionClass ∉ approvalRequiredClasses then .ok ()
  else if payload.justification.any fun text => strip text ≠ "" then .ok ()
  else .error (.validation
    "A justification is required for a change-class tool. An approver needs to know why, not only what."
    [("tool",.str invocation.toolName)])

def load (db : Db) (invocationId : Uuid) : Except RouteError ToolInvocation :=
  match db.invocations.lookup invocationId with
  | some row => .ok row
  | none => .error (.notFound s!"Invocation {invocationId.text} does not exist.")

/-- `create_invocation`, of what `create` and, where it is called, `run_inline` answered. `db` is
what is committed when the row is read again. -/
def createInvocation (payload : InvocationCreate) (created : Except Fault ToolInvocation)
    (runInline : ToolInvocation → Except Fault InvocationState) (db : Db) : Except RouteError ToolInvocation := do
  let invocation ← created.mapError .service
  requireJustification invocation payload
  if invocation.permissionClass ∈ inlineClasses ∧ invocation.state = .ready then
    let _ ← (runInline invocation).mapError .service
  load db invocation.id

end Route

end Acop
