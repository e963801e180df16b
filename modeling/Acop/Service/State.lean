import Acop.Statements

/-! `services/tools/state.py`: every move of an invocation is a compare-and-set on
its state, and every move and every lost move appends an event. -/
namespace Acop

open Acop.Transaction

/-- The keyword arguments of `transition`. -/
structure Transition where
  toState : InvocationState
  reason : String
  actorSubject : Option String := none
  detail : JsonObject := []
  expected : Option HeldLease := none
  columns : InvocationProgress → InvocationProgress := id

def nextSequence (invocationId : Uuid) : Service Nat := do
  let highest ← query (.maxSequence invocationId)
  return highest.getD 0 + 1

def appendEvent (invocationId : Uuid) (fromState : Option InvocationState) (toState : InvocationState)
    (reason : String) (actorSubject : Option String) (detail : JsonObject) : Service ToolInvocationEvent := do
  let sequence ← nextSequence invocationId
  let event ← query (.insertEvent
    {detail := redactObject detail, invocationId, sequence, fromState, toState, actorSubject, reason})
  orRaise event

/-- `session.refresh(invocation)`. -/
def refresh (invocation : ToolInvocation) : Service ToolInvocation := do
  match ← query (.getInvocation invocation.id) with
  | some row => return row
  | none => throw .unclassified

def illegalTransition (invocation : ToolInvocation) (toState : InvocationState) : Fault :=
  .tool .invalidStateTransition s!"{invocation.state.value} -> {toState.value} is not a legal transition."
    [("invocation_id",.str invocation.id.text),("from_state",.str invocation.state.value),
      ("to_state",.str toState.value)]

def staleTransition (id : Uuid) (source observed toState : InvocationState) : Fault :=
  .tool .staleTransition
    s!"{id.text} is {observed.value}, not {source.value}: the move to {toState.value} was not applied."
    [("invocation_id",.str id.text),("expected_state",.str source.value),
      ("observed_state",.str observed.value),("to_state",.str toState.value)]

/-- Returns the refreshed row. A move that matched no row is recorded as a no-op
event before the error is raised. -/
def transition (invocation : ToolInvocation) (move : Transition) : Service ToolInvocation := do
  let source := invocation.state
  if InvocationState.IsLegalTransition source move.toState then
    let matched ← query (.compareAndSet invocation.id source move.toState move.expected move.columns)
    let won ← orRaise matched
    let row ← refresh invocation
    if won then
      let _ ← appendEvent row.id (some source) move.toState move.reason move.actorSubject move.detail
      return row
    else
      let _ ← appendEvent row.id (some row.state) row.state move.reason move.actorSubject
        [("stale_transition",.bool true),("expected_state",.str source.value),
          ("attempted_to_state",.str move.toState.value)]
      throw (staleTransition row.id source row.state move.toState)
  else throw (illegalTransition invocation move.toState)

def claimForExecution (invocationId leaseId : Uuid) (leaseExpiresAt deadlineAt : Time) : Service Bool := do
  let startedAt ← query .utcNow
  let matched ← query (.claimReady invocationId leaseId leaseExpiresAt deadlineAt startedAt)
  let won ← orRaise matched
  if won then
    let _ ← appendEvent invocationId (some .ready) .executing PolicyReason.allowed.value none
      [("lease_id",.str leaseId.text)]
  return won

def recordFinalGateIfOwned (invocationId leaseId : Uuid) (decision : GateDecision) (reason : PolicyReason)
    (eventId : Uuid) : Service Bool := do
  let matched ← query (.recordGate invocationId leaseId decision reason eventId)
  orRaise matched

/-- Finish an in-flight invocation and drop its lease in one move. -/
def releaseLease (invocation : ToolInvocation) (move : Transition) : Service ToolInvocation :=
  transition invocation {move with
    columns := fun progress => {move.columns progress with executorLeaseId := none, leaseExpiresAt := none}}

end Acop
