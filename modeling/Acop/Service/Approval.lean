import Acop.Service.State

/-! `services/tools/approval.py`: recording one approver's decision, and what of
the recorded decisions the final gate accepts. -/
namespace Acop

open Acop.Transaction

namespace ToolApprovalService

variable (settings : Settings) (principal : Principal)

def approverRoles (policy : JsonObject) : Finset String :=
  match Json.get policy "approver_roles" with
  | some (.arr items) => (items.filterMap fun item => match item with
    | .str name => some name
    | _ => none).toFinset
  | _ => ∅

/-- `bool(policy.get("self_approval_permitted", False))`. -/
def selfApprovalPermitted (policy : JsonObject) : Bool :=
  match Json.get policy "self_approval_permitted" with
  | some (.bool permitted) => permitted
  | _ => false

/-- `_check_state`, `_check_envelope` and `_check_authority`: the refusal, if any. -/
def checkDecidable (invocation : ToolInvocation) (expectedEnvelopeDigest : String) : Except Fault Unit := do
  if invocation.state ≠ .awaitingApproval then
    throw (.tool .toolPolicyDenied
      s!"Invocation {invocation.id.text} is {invocation.state.value}, not awaiting approval."
      [("invocation_id",.str invocation.id.text),("state",.str invocation.state.value)])
  if expectedEnvelopeDigest ≠ invocation.envelopeDigest then
    throw (.tool .approvalEnvelopeMismatch "The stated envelope digest does not match this invocation."
      [("invocation_id",.str invocation.id.text)])
  let allowed := approverRoles invocation.effectiveApprovalPolicy
  if allowed ∩ heldRoles principal.roles = ∅ then
    throw (.tool .toolAuthorization
      s!"{principal.subject} holds no approval authority for {invocation.toolName}@{invocation.toolVersion}."
      [("invocation_id",.str invocation.id.text),("required_any_of",.strings (sorted allowed))])

/-- `_derive_self_approval`: never accepted from a caller. -/
def deriveSelfApproval (invocation : ToolInvocation) : Except Fault Bool :=
  if principal.subject ≠ invocation.principalSubject then .ok false
  else if settings.toolsAllowSelfApproval && selfApprovalPermitted invocation.effectiveApprovalPolicy then
    .ok true
  else .error (.tool .selfApprovalForbidden
    s!"{principal.subject} requested this invocation and may not approve it."
    [("invocation_id",.str invocation.id.text)])

def raiseRefused {α : Type} : Except Fault α → Service α
  | .ok value => pure value
  | .error refused => throw refused

def duplicateApproval (invocationId : Uuid) : Fault :=
  .tool .duplicateApproval s!"{principal.subject} has already approved invocation {invocationId.text}."
    [("invocation_id",.str invocationId.text),("constraint",.str "uq_tool_approval_distinct")]

/-- The decision's INSERT; only the distinct-approver index is translated. -/
def insertDecision (draft : ApprovalDraft) : Service ToolApproval := do
  match ← query (.insertApproval draft) with
  | .ok approval => return approval
  | .error .distinctApprover => throw (duplicateApproval principal draft.invocationId)
  | .error constraint => throw (.integrity constraint)

/-- The flush emits an UPDATE only where the counter differs from the one loaded. -/
def flushApprovalsReceived (invocation : ToolInvocation) (received : Nat) : Service Unit := do
  if received ≠ invocation.approvalsReceived then
    let flushed ← query (.setApprovalsReceived invocation.id received)
    let _ ← orRaise flushed

def countAndAdvance (invocation : ToolInvocation) : Service Unit := do
  let approvals ← query (.countApprovers invocation.id)
  let received := min approvals invocation.minApprovals.toNat
  flushApprovalsReceived invocation received
  if (approvals : Int) < invocation.minApprovals then
    return ()
  let now ← query .utcNow
  let invocation ← transition invocation {
    toState := .approved
    reason := PolicyReason.allowed.value
    actorSubject := some principal.subject
    detail := [("approvals",.int approvals)]
    columns := fun progress => {progress with approvedAt := some now}}
  let _ ← transition invocation {
    toState := .ready
    reason := PolicyReason.allowed.value
    actorSubject := some principal.subject}

def decide (invocationId : Uuid) (decision : ApprovalDecision) (justification expectedEnvelopeDigest : String) :
    Service ToolApproval := do
  match ← query (.getInvocation invocationId) with
  | none => throw (.tool .toolNotFound s!"Invocation {invocationId.text} does not exist."
      [("invocation_id",.str invocationId.text)])
  | some invocation =>
    raiseRefused (checkDecidable principal invocation expectedEnvelopeDigest)
    let selfApproval ← raiseRefused (deriveSelfApproval settings principal invocation)
    let now ← query .utcNow
    let approval ← insertDecision principal {
      invocationId := invocation.id
      decision
      approvedEnvelopeDigest := invocation.envelopeDigest
      requesterSubject := invocation.principalSubject
      approverSubject := principal.subject
      approverType := principal.principalType
      approverIssuer := principal.issuer
      approverAuthMethod := principal.authMethod
      selfApproval
      justification
      expiresAt := now + timedelta invocation.approvalTtlSeconds}
    match decision with
    | .denied =>
      let _ ← transition invocation {
        toState := .denied
        reason := PolicyReason.approvalMissing.value
        actorSubject := some principal.subject
        detail := [("decision",.str decision.value)]}
    | .approved => countAndAdvance principal invocation
    Program.commitNow
    return approval

end ToolApprovalService

def approvedRows (invocation : ToolInvocation) : Service (List ToolApproval) :=
  query (.approvedRows invocation.id)

/-- `approval_failure`: why these approvals are insufficient, or `none`. -/
def approvalFailure (invocation : ToolInvocation) (approvals : List ToolApproval) (moment : Time) :
    Option PolicyReason :=
  if ¬ invocation.approvalRequired then none
  else if approvals = [] then some .approvalMissing
  else if ∃ row ∈ approvals, row.approvedEnvelopeDigest ≠ invocation.envelopeDigest then
    some .approvalEnvelopeMismatch
  else
    let live := approvals.filter fun row => moment < row.expiresAt
    if live.length < approvals.length then some .approvalExpired
    else if (distinctApprovers live : Int) < invocation.minApprovals then some .approvalMissing
    else none

end Acop
