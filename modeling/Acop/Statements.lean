import Acop.Tables
import Acop.Transaction.World

/-! The statements the services issue, what PostgreSQL answers, and the errors the
services raise. Clock readings, generated identifiers, the rows a limited SELECT
returns among equals, the order of rows that a SELECT leaves open, and everything an
adapter does come with the input. -/
namespace Acop

open Acop.Transaction

/-- The adapter is handed identifiers ACOP looked up. -/
structure ResolvedTarget where
  kind : TargetKind
  assetId : Option Uuid := none
  displayName : String := ""
  assetType : String := ""
  identifiers : List (String × String) := []
  externalRef : JsonObject := []

structure AdapterRequest where
  invocationId : Uuid
  toolName : String
  toolVersion : String
  target : ResolvedTarget
  payload : JsonObject
  timeoutSeconds : Rat
  attempt : Nat

structure AdapterResult where
  outcome : AdapterOutcome
  payload : List (PyValue × PyValue) := []
  rollbackHint : List (PyValue × PyValue) := []

/-- How an awaited adapter call ends under its deadline: a report, the deadline, a
`ToolError` by its category, or any other exception. -/
inductive AdapterReply where
  | result (result : AdapterResult)
  | timedOut
  | toolError (category : ToolErrorCategory)
  | raised

/-- The lease columns a compare-and-set may assert beside the state. -/
structure HeldLease where
  executorLeaseId : Option Uuid
  leaseExpiresAt : Option Time
  deriving DecidableEq

def HeldLease.Matches (lease : HeldLease) (row : ToolInvocation) : Prop :=
  row.executorLeaseId = lease.executorLeaseId ∧ row.leaseExpiresAt = lease.leaseExpiresAt

instance (lease : HeldLease) (row : ToolInvocation) : Decidable (lease.Matches row) :=
  inferInstanceAs (Decidable (_ ∧ _))

inductive Stmt where
  | utcNow
  | uuid4
  | sleep (seconds : Rat)
  | adapterExecute (adapterId : String) (request : AdapterRequest)
  | adapterValidate (adapterId : String) (request : AdapterRequest)
  | getInvocation (id : Uuid)
  | getRegistration (id : Uuid)
  | selectRegistration (toolName toolVersion : String)
  | getAsset (id : Uuid)
  | selectIdentifiers (assetId : Uuid)
  | maxSequence (invocationId : Uuid)
  | countApprovers (invocationId : Uuid)
  | approvedRows (invocationId : Uuid)
  | selectForKey (key : String)
  | expiredLeases (now : Time) (limit : Nat)
  | sweepCandidates (limit : Nat)
  | insertInvocation (snapshot : InvocationSnapshot)
  | insertEvent (draft : EventDraft)
  | insertApproval (draft : ApprovalDraft)
  | insertReconciliation (draft : ReconciliationDraft)
  | compareAndSet (id : Uuid) (source target : InvocationState) (expected : Option HeldLease)
      (columns : InvocationProgress → InvocationProgress)
  | claimReady (id leaseId : Uuid) (leaseExpiresAt deadlineAt startedAt : Time)
  | recordGate (id leaseId : Uuid) (decision : GateDecision) (reason : PolicyReason) (eventId : Uuid)
  | setApprovalsReceived (id : Uuid) (approvalsReceived : Nat)
  | updateRegistration (id : Uuid) (columns : RegistrationColumns → RegistrationColumns)
  | updateAsset (id : Uuid) (columns : AssetColumns → AssetColumns)

abbrev Reply : Stmt → Type
  | .utcNow => Time
  | .uuid4 => Uuid
  | .sleep _ => Unit
  | .adapterExecute _ _ => AdapterReply
  | .adapterValidate _ _ => AdapterReply
  | .getInvocation _ => Option ToolInvocation
  | .getRegistration _ => Option ToolRegistration
  | .selectRegistration _ _ => Option ToolRegistration
  | .getAsset _ => Option Asset
  | .selectIdentifiers _ => List AssetIdentifier
  | .maxSequence _ => Option Nat
  | .countApprovers _ => Nat
  | .approvedRows _ => List ToolApproval
  | .selectForKey _ => Option ToolInvocation
  | .expiredLeases _ _ => List ToolInvocation
  | .sweepCandidates _ => List ToolInvocation
  | .insertInvocation _ => Except Constraint ToolInvocation
  | .insertEvent _ => Except Constraint ToolInvocationEvent
  | .insertApproval _ => Except Constraint ToolApproval
  | .insertReconciliation _ => Except Constraint ToolInvocationReconciliation
  | .compareAndSet _ _ _ _ _ => Except Constraint Bool
  | .claimReady _ _ _ _ _ => Except Constraint Bool
  | .recordGate _ _ _ _ _ => Except Constraint Bool
  | .setApprovalsReceived _ _ => Except Constraint Bool
  | .updateRegistration _ _ => Except Constraint Bool
  | .updateAsset _ _ => Except Constraint Bool

structure Input where
  now : Time := 0
  uuid : Uuid := 0
  adapter : AdapterReply := .raised
  rows : List Uuid := []
  identifiers : List AssetIdentifier := []

/-- `SELECT ... WHERE matches ORDER BY order LIMIT limit`: `ids` names rows it may
return, in the order it may return them. -/
def selectRows (db : Db) (matching : ToolInvocation → Bool) (order : ToolInvocation → Time) (limit : Nat)
    (ids : List Uuid) : Option (List ToolInvocation) :=
  haveI := Uuid.lawful
  let rows := ids.filterMap db.invocations.lookup
  let candidates := (db.invocations.entries.map (·.2)).filter matching
  if rows.length = ids.length ∧ ids.Nodup ∧ (∀ row ∈ rows, matching row) ∧
      rows.Pairwise (fun first second => order first ≤ order second) ∧
      rows.length = min limit candidates.length ∧
      ∀ row ∈ candidates, row.id ∈ ids ∨ ∀ chosen ∈ rows, order chosen ≤ order row
  then some rows else none

/-- A conditional UPDATE of one invocation: whether a row matched, and the write. -/
def updateWhere (db : Db) (id : Uuid) (matching : ToolInvocation → Bool)
    (change : InvocationProgress → InvocationProgress) : Except Constraint Bool × List Write :=
  match db.invocations.lookup id with
  | none => (.ok false,[])
  | some row =>
    if matching row then
      match (row.advance (change row.toInvocationProgress)).violation with
      | some broken => (.error broken,[])
      | none => (.ok true,[.advance id (change row.toInvocationProgress)])
    else (.ok false,[])

def insertInvocationRow (db : Db) (snapshot : InvocationSnapshot) (id : Uuid) (now : Time) :
    Except Constraint ToolInvocation :=
  let row : ToolInvocation := {toInvocationSnapshot := snapshot, toInvocationProgress := {}, id, requestedAt := now}
  if ¬ snapshot.columnsFit then .error .columnType
  else match row.violation with
    | some broken => .error broken
    | none =>
      if id ∈ db.invocations then .error .primaryKey
      else if snapshot.idempotencyKey.any fun key => db.invocations.entries.any (·.2.LiveUnder key) then
        .error .idempotencyKey
      else if snapshot.toolRegistrationId ∉ db.registrations then .error .toolRegistrationId
      else if snapshot.targetAssetId.any (· ∉ db.assets) then .error .targetAssetId
      else .ok row

def insertEventRow (db : Db) (draft : EventDraft) (id : Uuid) (now : Time) : Except Constraint ToolInvocationEvent :=
  if ¬ (fitsOptional 255 draft.actorSubject && fits 128 draft.reason && Json.storableFields draft.detail) then
    .error .columnType
  else if draft.sequence = 0 then .error .sequence
  else if ∃ event ∈ db.eventsOf draft.invocationId, event.sequence = draft.sequence then .error .eventSequence
  else if draft.invocationId ∉ db.invocations then .error .invocationId
  else .ok {toEventDraft := draft, id, occurredAt := now}

/-- `length(trim(text)) > 0`, where `trim` strips blanks. -/
def hasText (text : String) : Bool := text.toList.any (· ≠ ' ')

def insertApprovalRow (db : Db) (draft : ApprovalDraft) (id : Uuid) (now : Time) : Except Constraint ToolApproval :=
  if ¬ (fits 64 draft.approvedEnvelopeDigest && fits 255 draft.requesterSubject &&
      fits 255 draft.approverSubject && fits 255 draft.approverIssuer && fits 2000 draft.justification) then
    .error .columnType
  else if ¬ hasText draft.justification then .error .justification
  else if draft.expiresAt ≤ now then .error .expiryAfterDecision
  else if draft.approverSubject = draft.requesterSubject ∧ ¬ draft.selfApproval then
    .error .separationOfDuties
  else if draft.decision = .approved ∧ ∃ approval ∈ approvedAmong (db.approvalsOf draft.invocationId),
      approval.approverSubject = draft.approverSubject then .error .distinctApprover
  else if draft.invocationId ∉ db.invocations then .error .invocationId
  else .ok {toApprovalDraft := draft, id, decidedAt := now}

def insertReconciliationRow (db : Db) (draft : ReconciliationDraft) (id : Uuid) (now : Time) :
    Except Constraint ToolInvocationReconciliation :=
  if ¬ (fits 2000 draft.justification && Json.storableFields draft.evidenceRef &&
      fits 255 draft.reconciledBySubject && fits 255 draft.reconciledByIssuer) then .error .columnType
  else if ¬ hasText draft.justification then .error .justification
  else if draft.invocationId ∉ db.invocations then .error .invocationId
  else .ok {toReconciliationDraft := draft, id, reconciledAt := now}

def inserted {Row : Type} (write : Row → Write) (row : Except Constraint Row) :
    Except Constraint Row × List Write :=
  match row with
  | .ok row => (.ok row,[write row])
  | .error broken => (.error broken,[])

def exec : (stmt : Stmt) → Db → Input → Option (Reply stmt × List Write)
  | .utcNow, _, input => some (input.now,[])
  | .uuid4, _, input => some (input.uuid,[])
  | .sleep _, _, _ => some ((),[])
  | .adapterExecute _ _, _, input => some (input.adapter,[])
  | .adapterValidate _ _, _, input => some (input.adapter,[])
  | .getInvocation id, db, _ => some (db.invocations.lookup id,[])
  | .getRegistration id, db, _ => some (db.registrations.lookup id,[])
  | .selectRegistration toolName toolVersion, db, _ =>
    some ((db.registrations.entries.map (·.2)).find? fun row =>
      row.toolName = toolName ∧ row.toolVersion = toolVersion,[])
  | .getAsset id, db, _ => some (db.assets.lookup id,[])
  | .selectIdentifiers assetId, db, input =>
    if input.identifiers.Perm (db.liveIdentifiers assetId) then some (input.identifiers,[]) else none
  | .maxSequence id, db, _ => some (((db.eventsOf id).map (·.sequence)).max?,[])
  | .countApprovers id, db, _ => some (distinctApprovers (approvedAmong (db.approvalsOf id)),[])
  | .approvedRows id, db, _ => some (approvedAmong (db.approvalsOf id),[])
  | .selectForKey key, db, _ =>
    some ((db.invocations.entries.map (·.2)).find? fun row => row.LiveUnder key,[])
  | .expiredLeases now limit, db, input =>
    (selectRows db (fun row => row.state.InFlight ∧ row.leaseExpiresAt.any (· < now))
      (fun row => row.leaseExpiresAt.getD 0) limit input.rows).map (·,[])
  | .sweepCandidates limit, db, input =>
    (selectRows db (fun row => (row.state = .awaitingApproval ∨ row.state = .ready) ∧ row.approvalRequired)
      (·.requestedAt) limit input.rows).map (·,[])
  | .insertInvocation snapshot, db, input =>
    some (inserted .insertInvocation (insertInvocationRow db snapshot input.uuid input.now))
  | .insertEvent draft, db, input =>
    some (inserted .insertEvent (insertEventRow db draft input.uuid input.now))
  | .insertApproval draft, db, input =>
    some (inserted .insertApproval (insertApprovalRow db draft input.uuid input.now))
  | .insertReconciliation draft, db, input =>
    some (inserted .insertReconciliation (insertReconciliationRow db draft input.uuid input.now))
  | .compareAndSet id source target expected columns, db, _ =>
    some (updateWhere db id (fun row => row.state = source ∧ ∀ lease ∈ expected, lease.Matches row)
      fun progress => (columns progress).into target)
  | .claimReady id leaseId leaseExpiresAt deadlineAt startedAt, db, _ =>
    some (updateWhere db id (fun row => row.state = .ready)
      fun progress => progress.claim leaseId leaseExpiresAt deadlineAt startedAt)
  | .recordGate id leaseId decision reason eventId, db, input =>
    if ∃ event ∈ db.events, event.id = eventId then
      some (updateWhere db id
        (fun row => row.state = .executing ∧ row.executorLeaseId = some leaseId ∧
          row.leaseExpiresAt.any (input.now < ·))
        fun progress => progress.gate decision reason input.now eventId)
    else some (.error .finalGateEventId,[])
  | .setApprovalsReceived id n, db, _ =>
    some <| match db.invocations.lookup id with
      | none => (.ok false,[])
      | some row => match (row.receive n).violation with
        | some broken => (.error broken,[])
        | none => (.ok true,[.receive id n])
  | .updateRegistration id columns, db, _ =>
    some <| match db.registrations.lookup id with
      | none => (.ok false,[])
      | some row => match ({row with toRegistrationColumns := columns row.toRegistrationColumns}).violation with
        | some broken => (.error broken,[])
        | none => (.ok true,[.setRegistration id (columns row.toRegistrationColumns)])
  | .updateAsset id columns, db, _ =>
    some <| match db.assets.lookup id with
      | none => (.ok false,[])
      | some row => match ({row with toAssetColumns := columns row.toAssetColumns}).violation with
        | some broken => (.error broken,[])
        | none => (.ok true,[.setAsset id (columns row.toAssetColumns)])

/-- The classes of `acop.tools.errors` that the services raise. -/
inductive ToolErrorClass where
  | toolNotFound | toolDisabled | prohibitedCapability | toolAuthorization | toolPolicyDenied
  | policyEngineFailure | invalidTarget | toolInput | idempotencyConflict | duplicateApproval
  | approvalEnvelopeMismatch | selfApprovalForbidden | toolTimeout | targetUnavailable
  | invalidStateTransition | staleTransition
  deriving DecidableEq

inductive Fault where
  | tool (kind : ToolErrorClass) (message : String) (context : JsonObject)
  | integrity (constraint : Constraint)
  | typeError
  | unclassified
  | lookup (message : String)
  | notFound (message : String)
  | authorization (message : String)
  | validation (message : String)
  | conflict (message : String) (context : JsonObject)
  | invocationStateConflict (message : String) (context : JsonObject)

abbrev Service := Program Reply Fault

def query (stmt : Stmt) : Service (Reply stmt) := Program.query stmt

def orRaise {α : Type} : Except Constraint α → Service α
  | .ok value => pure value
  | .error constraint => throw (.integrity constraint)

end Acop
