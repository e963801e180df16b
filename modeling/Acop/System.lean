import Acop.Service.Invocation
import Acop.Service.Dispatcher
import Acop.Service.Reaper
import Acop.Service.Operations

/-! The deployment: any number of sessions, each running one operation, over the
tables. A cancelled or lost session is a crash; `run_inline` is `execute_once`
under a deadline that crashes it. -/
namespace Acop

open Acop.Transaction

/-- What a session may run; an operation that reads the code registry names the
process it runs in. -/
inductive Op (runtime : Runtime) where
  | create (process : Process runtime) (request : InvocationRequest) (principal : Principal)
  | decide (invocationId : Uuid) (principal : Principal) (decision : ApprovalDecision)
      (justification expectedEnvelopeDigest : String)
  | executeOnce (process : Process runtime) (invocationId : Uuid)
  | reap (limit : Nat)
  | sweep (limit : Nat)
  | cancel (principal : Principal) (invocationId : Uuid) (reason : String)
  | reconcile (principal : Principal) (invocationId : Uuid) (disposition : ReconciliationDisposition)
      (justification : String) (evidenceRef : JsonObject)
  | disableTool (process : Process runtime) (principal : Principal) (requestId : RequestId)
      (toolName toolVersion reason : String)
  | enableTool (process : Process runtime) (principal : Principal) (requestId : RequestId)
      (toolName toolVersion reason : String)
  | updateAsset (assetId : Uuid) (payload : AssetUpdate)
  | retireAsset (assetId : Uuid)

inductive Answer where
  | invocation (row : ToolInvocation)
  | approval (row : ToolApproval)
  | reconciliation (row : ToolInvocationReconciliation)
  | state (state : InvocationState)
  | count (n : Nat)
  | nothing

variable (runtime : Runtime) (settings : Settings)

def program : Op runtime → Service Answer
  | .create process request principal =>
    return .invocation (← ToolInvocationService.create runtime request principal process settings)
  | .decide invocationId principal decision justification expectedEnvelopeDigest =>
    return .approval (← ToolApprovalService.decide settings principal invocationId decision justification
      expectedEnvelopeDigest)
  | .executeOnce process invocationId =>
    return .state (← ExecutionDispatcher.executeOnce process settings invocationId)
  | .reap limit => return .count (← InvocationReaper.reapExpiredLeases runtime limit)
  | .sweep limit => return .count (← ApprovalSweeper.expireStale limit)
  | .cancel principal invocationId reason => return .invocation (← cancel principal invocationId reason)
  | .reconcile principal invocationId disposition justification evidenceRef =>
    return .reconciliation (← reconcile principal invocationId disposition justification evidenceRef)
  | .disableTool process principal requestId toolName toolVersion reason => do
    disableTool (process.getDefinition toolName toolVersion) principal requestId toolName toolVersion reason
    return .nothing
  | .enableTool process principal requestId toolName toolVersion reason => do
    enableTool (process.getDefinition toolName toolVersion) principal requestId toolName toolVersion reason
    return .nothing
  | .updateAsset assetId payload => do
    updateAsset assetId payload
    return .nothing
  | .retireAsset assetId => do
    retireAsset assetId
    return .nothing

def acop : System Reply Fault Answer (Op runtime) Db Write Lock Input where
  program := program runtime settings
  apply := Db.apply
  locks := Write.locks
  exec := exec

end Acop
