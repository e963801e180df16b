import Acop.Discipline

/-! What each event of a session owes, given the session's own history, and the
verification of the deployment that these duties and the discipline make up. -/
namespace Acop

open Acop.Transaction

section

variable (mode : Mode) (runtime : Runtime) (settings : Settings)

abbrev Happening (runtime : Runtime) := Event Reply Fault Answer (Op runtime) Db Write

variable {runtime}

def Began (past : List (Happening runtime)) (op : Op runtime) : Prop := past.head? = some (.start op)

def executed (past : List (Happening runtime)) : List AdapterReply :=
  past.filterMap fun event => match event with
    | .call (.adapterExecute _ _) reply _ => some reply
    | _ => none

/-- The moves that each operation may make of a row that is already committed. -/
def Op.May : Op runtime → Uuid → InvocationState → InvocationState → Prop
  | .decide invocationId _ _ _ _, id, source, target =>
    id = invocationId ∧ source = .awaitingApproval ∧ (target = .approved ∨ target = .denied ∨ target = .ready)
  | .executeOnce _ invocationId, id, source, _ =>
    id = invocationId ∧ (source = .ready ∨ source = .executing)
  | .reap _, _, source, target => source = .executing ∧ target = .executionIndeterminate
  | .sweep _, _, source, target => (source = .awaitingApproval ∨ source = .ready) ∧ target = .expired
  | .cancel _ invocationId _, id, source, target =>
    id = invocationId ∧ (source = .awaitingApproval ∨ source = .ready) ∧ target = .cancelled
  | _, _, _, _ => False

/-- A commit that takes an invocation from `READY` to `EXECUTING` under a lease. -/
def Claims (id leaseId : Uuid) (writes : List Write) (db : Db) : Prop :=
  ∃ row row', db.invocations.lookup id = some row ∧ row.state = .ready ∧
    (view db writes).invocations.lookup id = some row' ∧ row'.state = .executing ∧ row'.executorLeaseId = some leaseId

/-- What the final gate of a session checked of an invocation before it allowed. -/
structure Allowed (process : Process runtime) (past : List (Happening runtime)) (id : Uuid) (row : ToolInvocation)
    (definition : ToolDefinition) : Prop where
  declared : process.getDefinition row.toolName row.toolVersion = some definition
  intact : ExecutionDispatcher.recomputedDigest runtime definition row = row.envelopeDigest
  approved : row.approvalRequired = true → ∃ rows seen moment seen',
    [.call (.approvedRows id) rows seen,.call .utcNow moment seen'] <:+: past ∧
      rows = approvedAmong (seen.approvalsOf id) ∧ approvalFailure row rows moment = none

/-- What stands behind one call of an adapter's `execute`. -/
structure Dispatched (process : Process runtime) (past : List (Happening runtime)) (id : Uuid) (db : Db)
    (row : ToolInvocation) (definition : ToolDefinition) (leaseId : Uuid) : Prop where
  committed : db.invocations.lookup id = some row
  running : row.state = .executing
  allowed : Allowed process past id row definition
  claimed : ∃ writes seen, .commit writes seen ∈ past ∧ Claims id leaseId writes seen
  gated : ∃ eventId seen, .call (.recordGate id leaseId .allow .allowed eventId) (.ok true) seen ∈ past
  spent : ((executed past).length : Int) < definition.retryPolicy.maxAttempts
  retried : ∀ reply ∈ executed past, ∃ category, reply = .toolError category ∧
    category ∈ definition.retryPolicy.retryOn ∧ definition.adapterIdempotent = true

structure Admitted (process : Process runtime) (request : InvocationRequest) (past : List (Happening runtime))
    (row : ToolInvocation) (definition : ToolDefinition) : Prop where
  declared : process.getDefinition request.toolName request.toolVersion = some definition
  named : row.toolName = request.toolName ∧ row.toolVersion = request.toolVersion
  policy : row.effectiveApprovalPolicy = definition.approvalPolicy.asSnapshot
  envelope : row.envelopeDigest = ExecutionDispatcher.recomputedDigest runtime definition row
  target : ∀ assetId, row.targetAssetId = some assetId → ∃ asset seen,
    .call (.getAsset assetId) (some asset) seen ∈ past ∧ asset.lifecycleState = .active ∧
      asset.assetType ∈ definition.targetAssetTypes

/-- The digest of the envelope that a request stands for where its process binds it. -/
def requestDigest (process : Process runtime) (request : InvocationRequest) : Option String :=
  match process.getDefinition request.toolName request.toolVersion with
  | none => none
  | some definition => match definition.inputModel.modelValidate request.arguments with
    | .valid canonical => some (envelopeDigest runtime (buildEnvelope runtime definition canonical
        (buildTargetBlock (ToolInvocationService.requestedKind request) request.targetAssetId request.targetRef)))
    | _ => none

def callDuty (past : List (Happening runtime)) : (stmt : Stmt) → Reply stmt → Db → Prop
  | .claimReady id _ _ _ _, reply, db =>
    reply = .ok true → ∃ row, db.invocations.lookup id = some row ∧ row.state = .ready
  | .adapterExecute _ request, _, db => ∃ process row definition leaseId,
    Began past (.executeOnce process request.invocationId) ∧
      Dispatched process past request.invocationId db row definition leaseId
  | .adapterValidate _ request, _, db =>
    ∃ row, db.invocations.lookup request.invocationId = some row ∧ row.state = .executing
  | .selectForKey key, reply, db => (∀ writes seen, .commit writes seen ∉ past) ∧ ∀ existing, reply = some existing ↔
    ∃ id, db.invocations.lookup id = some existing ∧ existing.LiveUnder key
  | _, _, _ => True

structure CommitDuty (past : List (Happening runtime)) (writes : List Write) (db : Db) : Prop where
  moved : ∀ id row row', db.invocations.lookup id = some row → (view db writes).invocations.lookup id = some row' →
    row'.state ≠ row.state → ∃ op, Began past op ∧ op.May id row.state row'.state
  created : ∀ id row, db.invocations.lookup id = none → (view db writes).invocations.lookup id = some row →
    row.state ≠ .rejected → ∃ process request principal definition,
      Began past (.create process request principal) ∧ Admitted process request past row definition
  replayed : ∀ key existing seen, .call (.selectForKey key) (some existing) seen ∈ past →
    writes = [] ∧ ∃ process request principal, Began past (.create process request principal) ∧
      requestDigest process request = some existing.envelopeDigest

/-- How a `create` answers where a key was presented. -/
structure Answered (process : Process runtime) (request : InvocationRequest) (past : List (Happening runtime))
    (result : Except Fault Answer) : Prop where
  unbroken : mode.unraced → result ≠ .error (.integrity .idempotencyKey)
  replayed : ∀ key existing seen, .call (.selectForKey key) (some existing) seen ∈ past →
    requestDigest process request = some existing.envelopeDigest → result = .ok (.invocation existing)
  refused : ∀ key existing seen, .call (.selectForKey key) (some existing) seen ∈ past →
    requestDigest process request ≠ some existing.envelopeDigest →
      result = .error (ToolInvocationService.idempotencyConflict key existing)

def duty (past : List (Happening runtime)) : Happening runtime → Prop
  | .call stmt reply db => callDuty past stmt reply db
  | .commit writes db => CommitDuty past writes db
  | .answer result => ∀ process request principal, Began past (.create process request principal) →
    Answered mode process request past result
  | _ => True

/-- The promises of `Mode`, statement by statement. -/
def promised (past : List (Happening runtime)) : Stmt → List Write → Db → Prop
  | .setApprovalsReceived id n, _, db =>
    (mode.counted → ∀ row, db.invocations.lookup id = some row → row.state = .awaitingApproval →
      (n : Int) < row.minApprovals → ∀ before count seen, past = before ++ [.call (.countApprovers id) count seen] →
        approverCount (db.approvalsOf id) = approverCount (seen.approvalsOf id)) ∧
    (mode.awaited → ∀ row, db.invocations.lookup id = some row → (n : Int) < row.minApprovals →
      row.state = .awaitingApproval)
  | .insertInvocation snapshot, _, db =>
    mode.unraced → ∀ key, snapshot.idempotencyKey = some key → ∀ id row, db.invocations.lookup id = some row →
      ¬ row.LiveUnder key
  | _, _, _ => True

variable (runtime)

def discipline : Spec (acop runtime settings) where
  Inv := Inv mode settings
  Com := Commits mode settings
  Agree := Agree
  assume := promised mode
  duty := duty mode
  agree_refl := Agree.refl
  agree_trans := fun _ _ _ _ => Agree.trans
  guarantee := fun locks _ _ _ commits apart => commits.guarantee locks apart
  preserves := fun _ _ inv commits => commits.preserves inv
  duty_start := fun _ => trivial
  duty_crash := fun _ => trivial

end

end Acop
