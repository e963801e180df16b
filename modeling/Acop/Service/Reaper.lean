import Acop.Service.State

/-! `services/tools/reaper.py`: closing invocations whose worker or whose approval
window is gone. Each write asserts what the candidate query judged. -/
namespace Acop

open Acop.Transaction

/-- A lost compare-and-set is an answer to the background sweeps, not a fault. -/
def Fault.IsStale : Fault → Prop
  | .tool .staleTransition _ _ => True
  | _ => False

instance (fault : Fault) : Decidable fault.IsStale := by unfold Fault.IsStale; split <;> infer_instance

/-- `except StaleTransitionError`. -/
def standDown (attempt : Service Bool) : Service Bool :=
  attempt.tryCatch fun fault => if fault.IsStale then pure false else throw fault

namespace InvocationReaper

variable (runtime : Runtime)

def closing (invocation : ToolInvocation) (now : Time) : Transition :=
  if invocation.state = .executing then {
    toState := .executionIndeterminate
    reason := ToolErrorCategory.executionIndeterminate.value
    detail := [("lease_expired_at",.optional (invocation.leaseExpiresAt.map runtime.isoformat))]
    expected := some ⟨invocation.executorLeaseId,invocation.leaseExpiresAt⟩
    columns := fun progress => {progress with
      finishedAt := some now
      errorCategory := some .executionIndeterminate
      errorDetailSanitized := some ToolErrorCategory.executionIndeterminate.phrase}}
  else {
    toState := .validationFailed
    reason := ToolErrorCategory.validationFailed.value
    expected := some ⟨invocation.executorLeaseId,invocation.leaseExpiresAt⟩
    columns := fun progress => {progress with
      validationOutcome := some .indeterminate
      validatedAt := some now
      finishedAt := some now
      errorCategory := some .validationFailed
      errorDetailSanitized := some ToolErrorCategory.validationFailed.phrase}}

def reapOne (invocation : ToolInvocation) (now : Time) : Service Bool :=
  standDown do
    let _ ← releaseLease invocation (closing runtime invocation now)
    return true

def reapAll (now : Time) : List ToolInvocation → Service Nat
  | [] => return 0
  | invocation::rows => do
    let closed ← reapOne runtime invocation now
    let rest ← reapAll now rows
    return if closed then rest + 1 else rest

def reapExpiredLeases (limit : Nat) : Service Nat := do
  let now ← query .utcNow
  let rows ← query (.expiredLeases now limit)
  let closed ← reapAll runtime now rows
  Program.commitNow
  return closed

end InvocationReaper

namespace ApprovalSweeper

def dueAt (invocation : ToolInvocation) : Time :=
  invocation.approvedAt.getD invocation.requestedAt + timedelta invocation.approvalTtlSeconds

def expireOne (invocation : ToolInvocation) (now : Time) : Service Bool :=
  standDown do
    let _ ← transition invocation {
      toState := .expired
      reason := PolicyReason.approvalExpired.value
      columns := fun progress => {progress with
        finishedAt := some now
        errorCategory := some .approvalExpired
        errorDetailSanitized := some ToolErrorCategory.approvalExpired.phrase}}
    return true

def expireAll (now : Time) : List ToolInvocation → Service Nat
  | [] => return 0
  | invocation::candidates => do
    if now < dueAt invocation then
      expireAll now candidates
    else
      let expired ← expireOne invocation now
      let rest ← expireAll now candidates
      return if expired then rest + 1 else rest

def expireStale (limit : Nat) : Service Nat := do
  let now ← query .utcNow
  let candidates ← query (.sweepCandidates limit)
  let expired ← expireAll now candidates
  Program.commitNow
  return expired

end ApprovalSweeper

end Acop
