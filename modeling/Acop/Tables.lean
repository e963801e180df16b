import Acop.Vocabulary
import Acop.Json
import Mathlib.Data.List.AList

/-! The tables: rows, the constraints PostgreSQL enforces on them, and the writes
a transaction makes. Columns whose domain CHECK lists the values of an enumeration
have that enumeration as their type. -/
namespace Acop

theorem Uuid.lawful : LawfulBEq Uuid := inferInstance

/-- What an INSERT or an UPDATE is refused for. `columnType` is a value the
column's type does not hold. -/
inductive Constraint where
  | columnType | primaryKey
  | toolRegistrationId | toolRegistrationNv | targetAssetId | invocationId | finalGateEventId
  | idempotencyKey | eventSequence | distinctApprover
  | targetAsset | targetRef | finalGateTiming | finalGateProvenance | minApprovals | approvalsReceived
  | distinctApprovers | approvalTtl | leaseState | leaseExpiry
  | changeRequiresIdempotencyKey | changeRequiresApproval | changeRequiresValidation
  | justification | expiryAfterDecision | separationOfDuties | sequence
  | disabledState | retiredState | disabledAttribution | disabledReasonPresent | mergedState
  deriving DecidableEq

def firstBroken (checks : List (Constraint × Bool)) : Option Constraint :=
  (checks.find? fun check => !check.2).map (·.1)

theorem firstBroken_eq_none {checks : List (Constraint × Bool)} :
    firstBroken checks = none ↔ ∀ check ∈ checks, check.2 = true := by
  simp [firstBroken]

/-- A `String(limit)` column. -/
def fits (limit : Nat) (text : String) : Bool := text.length ≤ limit && Json.plainText text

def fitsOptional (limit : Nat) (text : Option String) : Bool := text.all (fits limit)

def isSmallInteger (n : Int) : Bool := -32768 ≤ n && n ≤ 32767

def isInteger (n : Int) : Bool := -2147483648 ≤ n && n ≤ 2147483647

def storableObject (fields : Option JsonObject) : Bool := fields.all Json.storableFields

/-- The columns of `tool_invocation` that its INSERT sets and no UPDATE assigns. -/
structure InvocationSnapshot where
  requestId : Option String
  idempotencyKey : Option String
  toolName : String
  toolVersion : String
  toolRegistrationId : Uuid
  permissionClass : PermissionClass
  approvalRequired : Bool
  minApprovals : Int
  distinctApproversRequired : Bool
  approvalTtlSeconds : Int
  validationRequired : Bool
  effectiveApprovalPolicy : JsonObject
  executionParameters : JsonObject
  registryContractHash : String
  envelope : JsonObject
  envelopeDigest : String
  inputDigest : String
  inputCanonical : JsonObject
  principalSubject : String
  principalType : PrincipalType
  principalIssuer : String
  authMethod : AuthMethod
  targetKind : TargetKind
  targetAssetId : Option Uuid
  targetRef : Option JsonObject
  authorizationDecision : GateDecision
  authorizationReason : PolicyReason
  authorizedAt : Option Time

def InvocationSnapshot.columnsFit (snapshot : InvocationSnapshot) : Bool :=
  fitsOptional 128 snapshot.requestId && fitsOptional 128 snapshot.idempotencyKey &&
  fits 128 snapshot.toolName && fits 16 snapshot.toolVersion && isSmallInteger snapshot.minApprovals &&
  isInteger snapshot.approvalTtlSeconds && Json.storableFields snapshot.effectiveApprovalPolicy &&
  Json.storableFields snapshot.executionParameters && fits 64 snapshot.registryContractHash &&
  Json.storableFields snapshot.envelope && fits 64 snapshot.envelopeDigest && fits 64 snapshot.inputDigest &&
  Json.storableFields snapshot.inputCanonical && fits 255 snapshot.principalSubject &&
  fits 255 snapshot.principalIssuer && storableObject snapshot.targetRef

/-- The columns that advance with the state machine. -/
structure InvocationProgress where
  state : InvocationState := .requested
  executorLeaseId : Option Uuid := none
  leaseExpiresAt : Option Time := none
  attemptCount : Nat := 0
  deadlineAt : Option Time := none
  finalGateDecision : Option GateDecision := none
  finalGateReason : Option PolicyReason := none
  finalGateAt : Option Time := none
  finalGateEventId : Option Uuid := none
  resultSummary : Option JsonObject := none
  resultDigest : Option String := none
  validationOutcome : Option ValidationOutcome := none
  validationDetail : Option JsonObject := none
  rollbackHint : Option JsonObject := none
  errorCategory : Option ToolErrorCategory := none
  errorDetailSanitized : Option String := none
  approvedAt : Option Time := none
  startedAt : Option Time := none
  finishedAt : Option Time := none
  validatedAt : Option Time := none

namespace InvocationProgress

variable (progress : InvocationProgress)

def into (state : InvocationState) : InvocationProgress := {progress with state}

def claim (leaseId : Uuid) (leaseExpiresAt deadlineAt startedAt : Time) : InvocationProgress := {progress with
  state := .executing
  executorLeaseId := some leaseId
  leaseExpiresAt := some leaseExpiresAt
  deadlineAt := some deadlineAt
  startedAt := some startedAt
  attemptCount := progress.attemptCount + 1}

def gate (decision : GateDecision) (reason : PolicyReason) (at' : Time) (eventId : Uuid) : InvocationProgress := {progress with
  finalGateDecision := some decision
  finalGateReason := some reason
  finalGateAt := some at'
  finalGateEventId := some eventId}

@[simp] theorem into_state (state : InvocationState) : (progress.into state).state = state := rfl

end InvocationProgress

structure ToolInvocation extends InvocationSnapshot, InvocationProgress where
  id : Uuid
  requestedAt : Time
  approvalsReceived : Nat := 0

namespace ToolInvocation

variable (row : ToolInvocation)

/-- A refused row keeps its policy but is no execution to repeat. -/
def isChange : Bool := row.permissionClass ∈ approvalRequiredClasses

def updatedColumnsFit : Bool :=
  isSmallInteger row.approvalsReceived && isSmallInteger row.attemptCount &&
  storableObject row.resultSummary && fitsOptional 64 row.resultDigest &&
  storableObject row.validationDetail && storableObject row.rollbackHint &&
  fitsOptional 1024 row.errorDetailSanitized

/-- The CHECK constraints of `tool_invocation`, after the types of its columns. -/
def checks : List (Constraint × Bool) :=
  [(.columnType,row.updatedColumnsFit),
    (.targetAsset,(row.targetKind = .asset) = row.targetAssetId.isSome),
    (.targetRef,(row.targetKind = .externalRef) = row.targetRef.isSome),
    (.finalGateTiming,row.finalGateDecision.isNone = row.finalGateAt.isNone),
    (.finalGateProvenance,row.finalGateDecision.isNone = row.finalGateEventId.isNone),
    (.minApprovals,1 ≤ row.minApprovals),
    (.approvalsReceived,row.approvalsReceived ≤ row.minApprovals),
    (.distinctApprovers,row.minApprovals = 1 || row.distinctApproversRequired),
    (.approvalTtl,0 < row.approvalTtlSeconds),
    (.leaseState,row.state.InFlight = row.executorLeaseId.isSome),
    (.leaseExpiry,row.state.InFlight = row.leaseExpiresAt.isSome),
    (.changeRequiresIdempotencyKey,
      !row.isChange || row.idempotencyKey.isSome || row.authorizationDecision = .deny),
    (.changeRequiresApproval,!row.isChange || row.approvalRequired),
    (.changeRequiresValidation,!row.isChange || row.validationRequired)]

def violation : Option Constraint := firstBroken row.checks

def advance (progress : InvocationProgress) : ToolInvocation := {row with toInvocationProgress := progress}

def receive (approvalsReceived : Nat) : ToolInvocation := {row with approvalsReceived}

/-- `uq_tool_invocation_idem` covers the row under this key. -/
def LiveUnder (key : String) : Prop := row.idempotencyKey = some key ∧ row.state ≠ .superseded

instance (key : String) : Decidable (row.LiveUnder key) := inferInstanceAs (Decidable (_ ∧ _))

@[simp] theorem advance_snapshot (progress : InvocationProgress) :
    (row.advance progress).toInvocationSnapshot = row.toInvocationSnapshot := rfl

@[simp] theorem advance_progress (progress : InvocationProgress) :
    (row.advance progress).toInvocationProgress = progress := rfl

@[simp] theorem advance_id (progress : InvocationProgress) : (row.advance progress).id = row.id := rfl

@[simp] theorem advance_requestedAt (progress : InvocationProgress) :
    (row.advance progress).requestedAt = row.requestedAt := rfl

@[simp] theorem advance_approvalsReceived (progress : InvocationProgress) :
    (row.advance progress).approvalsReceived = row.approvalsReceived := rfl

@[simp] theorem receive_snapshot (n : Nat) :
    (row.receive n).toInvocationSnapshot = row.toInvocationSnapshot := rfl

@[simp] theorem receive_progress (n : Nat) :
    (row.receive n).toInvocationProgress = row.toInvocationProgress := rfl

@[simp] theorem receive_id (n : Nat) : (row.receive n).id = row.id := rfl

@[simp] theorem receive_requestedAt (n : Nat) : (row.receive n).requestedAt = row.requestedAt := rfl

@[simp] theorem receive_approvalsReceived (n : Nat) : (row.receive n).approvalsReceived = n := rfl

end ToolInvocation

/-- What the service supplies of an event; the row adds its generated columns. -/
structure EventDraft where
  invocationId : Uuid
  sequence : Nat
  fromState : Option InvocationState
  toState : InvocationState
  actorSubject : Option String
  reason : String
  detail : JsonObject

structure ToolInvocationEvent extends EventDraft where
  id : Uuid
  occurredAt : Time

structure ApprovalDraft where
  invocationId : Uuid
  decision : ApprovalDecision
  approvedEnvelopeDigest : String
  requesterSubject : String
  approverSubject : String
  approverType : PrincipalType
  approverIssuer : String
  approverAuthMethod : AuthMethod
  selfApproval : Bool
  justification : String
  expiresAt : Time

structure ToolApproval extends ApprovalDraft where
  id : Uuid
  decidedAt : Time

structure ReconciliationDraft where
  invocationId : Uuid
  disposition : ReconciliationDisposition
  justification : String
  evidenceRef : JsonObject
  reconciledBySubject : String
  reconciledByType : PrincipalType
  reconciledByIssuer : String
  reconciledByAuthMethod : AuthMethod

structure ToolInvocationReconciliation extends ReconciliationDraft where
  id : Uuid
  reconciledAt : Time

/-- The columns of `tool_registration` that operators and reconciliation assign. -/
structure RegistrationColumns where
  lifecycleState : ToolLifecycle := .active
  disabledAt : Option Time := none
  disabledBySubject : Option String := none
  disabledReason : Option String := none
  retiredAt : Option Time := none
  retiredReason : Option String := none
  deriving DecidableEq

structure ToolRegistration extends RegistrationColumns where
  id : Uuid
  toolName : String
  toolVersion : String
  contractHash : String

namespace ToolRegistration

variable (row : ToolRegistration)

def checks : List (Constraint × Bool) :=
  [(.columnType,fits 128 row.toolName && fits 16 row.toolVersion && fits 64 row.contractHash &&
      fitsOptional 255 row.disabledBySubject && fitsOptional 512 row.disabledReason && fitsOptional 512 row.retiredReason),
    (.disabledState,(row.lifecycleState = .disabled) = row.disabledAt.isSome),
    (.retiredState,(row.lifecycleState = .retired) = row.retiredAt.isSome),
    (.disabledAttribution,row.disabledAt.isNone = row.disabledBySubject.isNone),
    (.disabledReasonPresent,row.disabledAt.isNone = row.disabledReason.isNone)]

def violation : Option Constraint := firstBroken row.checks

end ToolRegistration

/-- The columns of `asset` that an operator assigns. -/
structure AssetColumns where
  displayName : String
  description : Option String := none
  lifecycleState : LifecycleState := .active
  retiredAt : Option Time := none
  deriving DecidableEq

structure Asset extends AssetColumns where
  id : Uuid
  assetType : String
  mergedIntoId : Option Uuid := none

namespace Asset

variable (row : Asset)

def checks : List (Constraint × Bool) :=
  [(.columnType,fits 255 row.displayName && fitsOptional 2000 row.description),
    (.mergedState,(row.lifecycleState = .merged) = row.mergedIntoId.isSome),
    (.retiredState,(row.lifecycleState = .retired) = row.retiredAt.isSome)]

def violation : Option Constraint := firstBroken row.checks

end Asset

structure AssetIdentifier where
  assetId : Uuid
  namespaceName : String
  valueNormalized : String
  retiredAt : Option Time := none
  deriving DecidableEq

structure Db where
  invocations : AList fun _ : Uuid => ToolInvocation
  registrations : AList fun _ : Uuid => ToolRegistration
  assets : AList fun _ : Uuid => Asset
  identifiers : List AssetIdentifier
  approvals : List ToolApproval
  events : List ToolInvocationEvent
  reconciliations : List ToolInvocationReconciliation

/-- A row version a transaction leaves behind. -/
inductive Write where
  | insertInvocation (row : ToolInvocation)
  | advance (id : Uuid) (progress : InvocationProgress)
  | receive (id : Uuid) (approvalsReceived : Nat)
  | insertEvent (row : ToolInvocationEvent)
  | insertApproval (row : ToolApproval)
  | insertReconciliation (row : ToolInvocationReconciliation)
  | setRegistration (id : Uuid) (columns : RegistrationColumns)
  | setAsset (id : Uuid) (columns : AssetColumns)

/-- What a write holds until its transaction ends: the row, and for an INSERT the
index entries that a concurrent INSERT would collide with. -/
inductive Lock where
  | invocation (id : Uuid)
  | key (key : String)
  | event (id : Uuid) (sequence : Nat)
  | approval (id : Uuid) (subject : String)
  | registration (id : Uuid)
  | asset (id : Uuid)
  deriving DecidableEq

def Write.locks : Write → List Lock
  | .insertInvocation row => .invocation row.id :: row.idempotencyKey.toList.map .key
  | .advance id _ => [.invocation id]
  | .receive id _ => [.invocation id]
  | .insertEvent row => [.event row.invocationId row.sequence]
  | .insertApproval row =>
    if row.decision = .approved then [.approval row.invocationId row.approverSubject] else []
  | .insertReconciliation _ => []
  | .setRegistration id _ => [.registration id]
  | .setAsset id _ => [.asset id]

def updateRow {Row : Type} (table : AList fun _ : Uuid => Row) (id : Uuid) (change : Row → Row) :
    AList fun _ : Uuid => Row :=
  match table.lookup id with
  | some row => table.insert id (change row)
  | none => table

def Db.apply (db : Db) : Write → Db
  | .insertInvocation row => {db with invocations := db.invocations.insert row.id row}
  | .advance id progress => {db with invocations := updateRow db.invocations id (·.advance progress)}
  | .receive id n => {db with invocations := updateRow db.invocations id (·.receive n)}
  | .insertEvent row => {db with events := db.events ++ [row]}
  | .insertApproval row => {db with approvals := db.approvals ++ [row]}
  | .insertReconciliation row => {db with reconciliations := db.reconciliations ++ [row]}
  | .setRegistration id columns => {db with
      registrations := updateRow db.registrations id ({· with toRegistrationColumns := columns})}
  | .setAsset id columns => {db with
      assets := updateRow db.assets id ({· with toAssetColumns := columns})}

namespace Db

variable (db : Db)

def liveIdentifiers (assetId : Uuid) : List AssetIdentifier :=
  db.identifiers.filter fun row => row.assetId = assetId ∧ row.retiredAt = none

def eventsOf (id : Uuid) : List ToolInvocationEvent := db.events.filter (·.invocationId = id)

def approvalsOf (id : Uuid) : List ToolApproval := db.approvals.filter (·.invocationId = id)

end Db

def approvedAmong (approvals : List ToolApproval) : List ToolApproval :=
  approvals.filter (·.decision = .approved)

/-- `COUNT(DISTINCT approver_subject)`. -/
def distinctApprovers (approvals : List ToolApproval) : Nat :=
  (approvals.map (·.approverSubject)).toFinset.card

theorem updateRow_lookup {Row : Type} (table : AList fun _ : Uuid => Row) (id : Uuid) (change : Row → Row) :
    (updateRow table id change).lookup id = (table.lookup id).map change := by
  unfold updateRow
  cases found : table.lookup id with
  | none => simp [found]
  | some row => simp

theorem updateRow_lookup_ne {Row : Type} (table : AList fun _ : Uuid => Row) {id other : Uuid}
    (different : other ≠ id) (change : Row → Row) :
    (updateRow table id change).lookup other = table.lookup other := by
  unfold updateRow
  cases found : table.lookup id with
  | none => rfl
  | some row => exact AList.lookup_insert_ne different

end Acop
