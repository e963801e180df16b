import Acop.Conduct.Checks
import Acop.Laboratory

/-! The lease and gate columns agree with the state in every run, and no writer depends on the
database to refuse what would break them. -/
namespace Acop

open Acop.Transaction

section Operations

variable {runtime : Runtime} {settings : Settings} {seen : Db} {invocation : ToolInvocation}

section Creation

variable {request : InvocationRequest} {principal : Principal} {registration : ToolRegistration} {decision : PolicyDecision}

theorem upholds_advance : Upholds runtime settings seen (fun _ => True)
    (ToolInvocationService.advance principal invocation decision) := by
  unfold ToolInvocationService.advance
  refine .bind (upholds_early .authorized rfl (fun _ => ⟨rfl,rfl,rfl,rfl⟩) (fun _ => ⟨rfl,rfl⟩) (by decide)) fun row _ => ?_
  split
  · exact upholds_early .awaitingApproval rfl (fun _ => ⟨rfl,rfl,rfl,rfl⟩) (fun _ => ⟨rfl,rfl⟩) (by decide)
  · exact upholds_early .ready rfl (fun _ => ⟨rfl,rfl,rfl,rfl⟩) (fun _ => ⟨rfl,rfl⟩) (by decide)

theorem upholds_existing {digest : String} : Upholds runtime settings seen (fun _ => True)
    (ToolInvocationService.existingForKey request digest) := by
  unfold ToolInvocationService.existingForKey
  split
  · exact .pure trivial
  split
  · exact .pure trivial
  refine .bind (.issue fun _ => trivial) fun found _ => ?_
  split
  · exact .pure trivial
  split
  · exact .pure trivial
  · exact .throw

theorem upholds_persist {target : TargetFacts} {envelope : JsonObject} {digest : String} :
    Upholds runtime settings seen (fun _ => True)
      (ToolInvocationService.persist runtime request principal registration decision target envelope digest) := by
  refine .bind (.issue fun _ => trivial) fun inserted _ => ?_
  refine .bind upholds_orRaise fun row _ => ?_
  exact .bind upholds_appendEvent fun _ _ => .pure trivial

theorem upholds_accept {context : PolicyContext} : Upholds runtime settings seen (fun _ => True)
    (ToolInvocationService.accept runtime request principal registration decision context) := by
  unfold ToolInvocationService.accept
  split
  · exact .throw
  refine .bind upholds_existing fun found _ => ?_
  split
  · exact .pure trivial
  · exact .bind upholds_persist fun row _ => upholds_advance

theorem upholds_reject : Upholds runtime settings seen (fun _ => True)
    (ToolInvocationService.reject request principal registration decision) := by
  refine .bind (.issue fun _ => trivial) fun inserted _ => ?_
  refine .bind upholds_orRaise fun row _ => ?_
  refine .bind upholds_appendEvent fun _ _ => ?_
  exact upholds_early .rejected rfl (fun _ => ⟨rfl,rfl,rfl,rfl⟩) (fun _ => ⟨rfl,rfl⟩) (by decide)

theorem upholds_resolveTarget : Upholds runtime settings seen (fun _ => True)
    (ToolInvocationService.resolveTarget request) := by
  unfold ToolInvocationService.resolveTarget
  split
  · exact .bind (.issue fun _ => trivial) fun _ _ => .pure trivial
  split
  · exact .pure trivial
  · exact .pure trivial

theorem upholds_registration {toolName toolVersion : String} : Upholds runtime settings seen (fun _ => True)
    (ToolInvocationService.registration toolName toolVersion) := by
  unfold ToolInvocationService.registration
  refine .bind (.issue fun _ => trivial) fun found _ => ?_
  split
  · exact .pure trivial
  · exact .throw

theorem upholds_create {process : Process runtime} : Upholds runtime settings seen (fun _ => True)
    (ToolInvocationService.create runtime request principal process settings) := by
  unfold ToolInvocationService.create
  refine .bind upholds_registration fun registration _ => ?_
  refine .bind (.issue fun _ => trivial) fun moment _ => ?_
  have ends : ∀ context decision, Upholds runtime settings seen (fun _ => True)
      (if decision.allowed then do
        let invocation ← ToolInvocationService.accept runtime request principal registration decision context
        Program.commitNow
        return invocation
      else do
        let invocation ← ToolInvocationService.reject request principal registration decision
        Program.commitNow
        throw (ToolInvocationService.refusal request invocation decision)) := by
    intro context decision
    split
    · refine .bind upholds_accept fun row _ => ?_
      exact .bind .commit fun _ _ => .pure trivial
    · refine .bind upholds_reject fun row _ => ?_
      exact .bind .commit fun _ _ => .throw
  dsimp only
  split
  · exact ends _ _
  · exact .bind upholds_resolveTarget fun _ _ => ends _ _

end Creation

section Decision

open ToolApprovalService

variable {principal : Principal}

theorem upholds_raiseRefused {α : Type} {value : Except Fault α} : Upholds runtime settings seen (fun _ => True)
    (raiseRefused value) := by
  cases value with
  | ok value => exact .pure trivial
  | error refused => exact .throw

theorem upholds_insertDecision {draft : ApprovalDraft} : Upholds runtime settings seen (fun _ => True)
    (insertDecision principal draft) := by
  unfold insertDecision
  refine .bind (.issue fun _ => trivial) fun inserted _ => ?_
  split
  · exact .pure trivial
  · exact .throw
  · exact .throw

theorem upholds_flush {n : Nat}
    (capped : ∀ row, seen.invocations.lookup invocation.id = some row → (n : Int) ≤ row.minApprovals)
    (present : ∃ row, seen.invocations.lookup invocation.id = some row) :
    Upholds runtime settings seen (fun _ => True) (flushApprovalsReceived invocation n) := by
  unfold flushApprovalsReceived
  split
  · obtain ⟨loaded,there⟩ := present
    refine .bind (.query (fun view _ later row found => ?_) fun _ _ _ _ _ => trivial) fun flushed _ => ?_
    · obtain ⟨row',same,continues⟩ := later.kept _ loaded there
      cases same.symm.trans found
      rw [continues.minApprovals]
      exact capped loaded there
    · exact .bind upholds_orRaise fun _ _ => .pure trivial
  · exact .pure trivial

theorem upholds_countAndAdvance (found : seen.invocations.lookup invocation.id = some invocation)
    (positive : 1 ≤ invocation.minApprovals) :
    Upholds runtime settings seen (fun _ => True) (countAndAdvance principal invocation) := by
  unfold countAndAdvance
  refine .bind (.issue fun _ => trivial) fun approvals _ => ?_
  dsimp only
  refine .bind (upholds_flush ?_ ⟨_,found⟩) fun _ _ => ?_
  · intro row same
    cases found.symm.trans same
    omega
  split
  · exact .pure trivial
  refine .bind (.issue fun _ => trivial) fun moment _ => ?_
  refine .bind (upholds_early .approved rfl (fun _ => ⟨rfl,rfl,rfl,rfl⟩) (fun _ => ⟨rfl,rfl⟩) (by decide)) fun row _ => ?_
  refine .bind (upholds_early .ready rfl (fun _ => ⟨rfl,rfl,rfl,rfl⟩) (fun _ => ⟨rfl,rfl⟩) (by decide)) fun row _ => ?_
  exact .pure trivial

theorem upholds_decide {id : Uuid} {decision : ApprovalDecision} {justification digest : String} :
    Upholds runtime settings seen (fun _ => True)
      (ToolApprovalService.decide settings principal id decision justification digest) := by
  unfold ToolApprovalService.decide
  refine .read fun view compliant => ?_
  cases found : view.invocations.lookup id with
  | none => exact .throw
  | some invocation =>
    obtain ⟨rfl,passed⟩ := compliant id invocation found
    refine .bind upholds_raiseRefused fun _ _ => ?_
    refine .bind upholds_raiseRefused fun selfApproval _ => ?_
    refine .bind (.issue fun _ => trivial) fun moment _ => ?_
    refine .bind upholds_insertDecision fun approval _ => ?_
    have commits : Upholds runtime settings view (fun _ => True) (Program.commitNow >>= fun _ => pure approval) :=
      .bind .commit fun _ _ => .pure trivial
    cases decision with
    | denied =>
      exact .bind (upholds_early .denied rfl (fun _ => ⟨rfl,rfl,rfl,rfl⟩) (fun _ => ⟨rfl,rfl⟩) (by decide)) fun _ _ => commits
    | approved => exact .bind (upholds_countAndAdvance found (minApprovals_of_violation passed)) fun _ _ => commits

end Decision

section Execution

open ExecutionDispatcher

variable {process : Process runtime} {definition : ToolDefinition}

/-- What an execution returns agrees with the row. -/
def Ran (result : ToolInvocation × InvocationState) : Prop := result.1.state = result.2

theorem upholds_fail {toState : InvocationState} {category : ToolErrorCategory} {reason : String}
    (landed : ¬ toState.InFlight) : Upholds runtime settings seen Ran
      (ExecutionDispatcher.fail invocation toState category reason) := by
  refine .bind (.issue fun _ => trivial) fun moment _ => ?_
  refine .bind (upholds_releaseLease toState rfl (fun _ => ⟨rfl,rfl,rfl,rfl⟩) landed) fun row moved => ?_
  exact .pure moved

theorem upholds_bindJsonb {entries : List (PyValue × PyValue)} : Upholds runtime settings seen (fun _ => True)
    (bindJsonb runtime entries) := by
  unfold bindJsonb
  split
  · exact .pure trivial
  · exact .throw

theorem upholds_bindHint {entries : List (PyValue × PyValue)} : Upholds runtime settings seen (fun _ => True)
    (bindHint runtime entries) := by
  unfold bindHint
  split
  · exact .pure trivial
  · exact .bind upholds_bindJsonb fun _ _ => .pure trivial

theorem upholds_declaredOutput {payload : List (PyValue × PyValue)} : Upholds runtime settings seen (fun _ => True)
    (declaredOutput runtime definition payload) := by
  unfold declaredOutput
  split
  · exact .pure trivial
  · split
    · exact .pure trivial
    · exact .throw
  · exact .throw

theorem upholds_recordAdapterResult {result : AdapterResult} : Upholds runtime settings seen Ran
    (recordAdapterResult runtime invocation definition result) := by
  unfold recordAdapterResult
  split
  · exact upholds_fail (by decide)
  · exact upholds_fail (by decide)
  · exact upholds_fail (by decide)
  refine .bind upholds_declaredOutput fun output _ => ?_
  split
  · exact upholds_fail (by decide)
  refine .bind upholds_bindHint fun hint _ => ?_
  refine .bind (upholds_releaseLease .executed rfl (fun _ => ⟨rfl,rfl,rfl,rfl⟩) (by decide)) fun row moved => ?_
  exact .pure moved

theorem upholds_attempts {adapter : String} {request : AdapterRequest} {left : Nat} {last : ToolErrorCategory} :
    Upholds runtime settings seen Ran (attempts runtime invocation definition adapter request left last) := by
  induction left generalizing last with
  | zero => exact upholds_fail (by decide)
  | succ left ih =>
    unfold attempts
    refine .bind (.issue fun _ => trivial) fun reply _ => ?_
    split
    · exact upholds_fail (by decide)
    · split
      · exact .bind (.issue fun _ => trivial) fun _ _ => ih
      · exact upholds_fail (by decide)
    · exact upholds_fail (by decide)
    · exact upholds_recordAdapterResult

theorem upholds_adapterRequest : Upholds runtime settings seen (fun _ => True) (adapterRequest invocation definition) := by
  have target : Upholds runtime settings seen (fun _ => True) (resolvedTarget invocation) := by
    unfold resolvedTarget
    split
    · refine .bind (.issue fun _ => trivial) fun found _ => ?_
      split
      · exact .throw
      · exact .bind (.issue fun _ => trivial) fun _ _ => .pure trivial
    · exact .pure trivial
  exact .bind target fun _ _ => .pure trivial

theorem upholds_execute : Upholds runtime settings seen Ran (execute process invocation definition) := by
  unfold execute
  split
  · exact upholds_fail (by decide)
  · exact .bind upholds_adapterRequest fun request _ => upholds_attempts

theorem upholds_validation : Upholds runtime settings seen (fun _ => True)
    (validation process invocation definition) := by
  unfold validation
  split
  · exact .pure trivial
  · refine .bind upholds_adapterRequest fun request _ => ?_
    exact .bind (.issue fun _ => trivial) fun _ _ => .pure trivial

theorem upholds_validating {leaseId : Uuid} {expiry : Time} {reason : String} : Upholds runtime settings seen (fun _ => True)
    (transition invocation {
      toState := .validating
      reason
      columns := fun progress => {progress with executorLeaseId := some leaseId, leaseExpiresAt := some expiry}}) := by
  refine (upholds_transition ?_).weaken fun _ _ => trivial
  intro _ progress _ agrees
  exact ⟨⟨iff_of_true (.inr rfl) rfl,iff_of_true (.inr rfl) rfl,agrees.gateAt,agrees.gateEvent⟩,fun reasoned => reasoned⟩

theorem upholds_afterExecution (executed : invocation.state = .executed) : Upholds runtime settings seen (fun _ => True)
    (afterExecution process settings invocation definition) := by
  unfold afterExecution
  split
  · refine .bind (.issue fun _ => trivial) fun leaseId _ => ?_
    refine .bind (.issue fun _ => trivial) fun moment _ => ?_
    refine .bind upholds_validating fun row _ => ?_
    dsimp only
    split
    on_goal 1 => refine .bind (.issue fun _ => trivial) fun _ _ => ?_
    all_goals
      refine .bind upholds_validation fun observed _ => ?_
      refine .bind (.issue fun _ => trivial) fun moment _ => ?_
      refine .bind upholds_bindJsonb fun detail _ => ?_
      split
      · refine .bind (upholds_releaseLease .succeeded rfl (fun _ => ⟨rfl,rfl,rfl,rfl⟩) (by decide)) ?_
        exact fun _ _ => .pure trivial
      · refine .bind (upholds_releaseLease .validationFailed rfl (fun _ => ⟨rfl,rfl,rfl,rfl⟩) (by decide)) ?_
        exact fun _ _ => .pure trivial
  · refine .bind (.issue fun _ => trivial) fun moment _ => ?_
    refine .bind (upholds_rest (fun _ => ⟨rfl,rfl,rfl,rfl⟩) (fun _ => ⟨rfl,rfl⟩) (fun _ => ?_)
      (show ¬ InvocationState.InFlight .succeeded by decide)) fun _ _ => .pure trivial
    rw [executed]
    decide

theorem upholds_finalGate : Upholds runtime settings seen (fun _ => True) (finalGate process invocation) := by
  unfold finalGate
  split
  · exact .pure trivial
  refine .bind (.issue fun _ => trivial) fun registration _ => ?_
  split
  · exact .pure trivial
  split
  · refine .bind (.issue fun _ => trivial) fun approvals _ => ?_
    refine .bind (.issue fun _ => trivial) fun moment _ => ?_
    split
    · exact .pure trivial
    · exact .pure trivial
  · exact .pure trivial

theorem upholds_runGated {gate : GateResult} : Upholds runtime settings seen (fun _ => True)
    (runGated process settings invocation gate) := by
  unfold runGated
  split
  · refine .bind (.issue fun _ => trivial) fun moment _ => ?_
    refine .bind (upholds_releaseLease .expired rfl (fun _ => ⟨rfl,rfl,rfl,rfl⟩) (by decide)) ?_
    exact fun _ _ => .pure trivial
  refine .bind upholds_execute ?_
  rintro ⟨row,state⟩ ran
  dsimp only
  split
  · rename_i executed
    exact upholds_afterExecution (ran.trans executed)
  · exact .pure trivial

theorem upholds_runClaimed {id leaseId : Uuid} : Upholds runtime settings seen (fun _ => True)
    (runClaimed process settings id leaseId) := by
  unfold runClaimed
  refine .bind (.issue fun _ => trivial) fun found _ => ?_
  split
  · exact .throw
  refine .bind upholds_finalGate fun gate _ => ?_
  refine .bind upholds_appendEvent fun event _ => ?_
  have recorded : Upholds runtime settings seen (fun _ => True)
      (recordFinalGateIfOwned id leaseId gate.decision gate.reason event.id) :=
    .bind (.issue fun _ => trivial) fun _ _ => upholds_orRaise
  refine .bind recorded fun owned _ => ?_
  refine .bind upholds_refresh fun row _ => ?_
  split
  · refine .bind upholds_runGated fun state _ => ?_
    exact .bind .commit fun _ _ => .pure trivial
  · exact .bind .commit fun _ _ => .pure trivial

theorem upholds_claim {id leaseId : Uuid} {leaseExpiresAt deadlineAt : Time} : Upholds runtime settings seen (fun _ => True)
    (claimForExecution id leaseId leaseExpiresAt deadlineAt) := by
  unfold claimForExecution
  refine .bind (.issue fun _ => trivial) fun moment _ => ?_
  refine .bind (.issue fun _ => trivial) fun matched _ => ?_
  refine .bind upholds_orRaise fun won _ => ?_
  split
  · exact .bind upholds_appendEvent fun _ _ => .pure trivial
  · exact .pure trivial

theorem upholds_executeOnce {id : Uuid} : Upholds runtime settings seen (fun _ => True)
    (executeOnce process settings id) := by
  unfold executeOnce
  refine .bind (.issue fun _ => trivial) fun leaseId _ => ?_
  refine .bind (.issue fun _ => trivial) fun moment _ => ?_
  refine .bind (.issue fun _ => trivial) fun found _ => ?_
  split
  · exact .throw
  split
  · refine .bind upholds_claim fun claimed _ => ?_
    split
    · exact .bind .commit fun _ _ => upholds_runClaimed
    · refine .bind upholds_refresh fun row _ => ?_
      exact .bind .commit fun _ _ => .pure trivial
  · exact .bind .commit fun _ _ => .pure trivial

end Execution

section Upkeep

variable {moment : Time} {principal : Principal}

theorem upholds_standDown {attempt : Service Bool} (upholds : Upholds runtime settings seen (fun _ => True) attempt) :
    Upholds runtime settings seen (fun _ => True) (standDown attempt) := by
  refine upholds.tryCatch fun fault => ?_
  split
  · exact .pure trivial
  · exact .throw

theorem upholds_reapOne : Upholds runtime settings seen (fun _ => True)
    (InvocationReaper.reapOne runtime invocation moment) := by
  refine upholds_standDown (.bind (upholds_releaseLease _ rfl (fun _ => ?_) ?_) fun _ _ => .pure trivial)
  · unfold InvocationReaper.closing
    split
    · exact ⟨rfl,rfl,rfl,rfl⟩
    · exact ⟨rfl,rfl,rfl,rfl⟩
  · rw [closing_toState]
    split
    · decide
    · decide

theorem upholds_reapAll {rows : List ToolInvocation} : Upholds runtime settings seen (fun _ => True)
    (InvocationReaper.reapAll runtime moment rows) := by
  induction rows with
  | nil => exact .pure trivial
  | cons invocation rows ih =>
    refine .bind upholds_reapOne fun closed _ => ?_
    exact .bind ih fun _ _ => .pure trivial

theorem upholds_reap {limit : Nat} : Upholds runtime settings seen (fun _ => True)
    (InvocationReaper.reapExpiredLeases runtime limit) := by
  refine .bind (.issue fun _ => trivial) fun moment _ => ?_
  refine .bind (.issue fun _ => trivial) fun rows _ => ?_
  refine .bind upholds_reapAll fun closed _ => ?_
  exact .bind .commit fun _ _ => .pure trivial

/-- States in which a sweep or a cancellation finds a row. -/
def Pending (row : ToolInvocation) : Prop := row.state = .awaitingApproval ∨ row.state = .ready

theorem Pending.rests (waiting : Pending invocation) : ¬ invocation.state.InFlight := by
  rcases waiting with state | state
  · rw [state]
    decide
  · rw [state]
    decide

theorem upholds_expireAll {candidates : List ToolInvocation} (waiting : ∀ row ∈ candidates, Pending row) :
    Upholds runtime settings seen (fun _ => True) (ApprovalSweeper.expireAll moment candidates) := by
  induction candidates with
  | nil => exact .pure trivial
  | cons invocation candidates ih =>
    have rest := ih fun row member => waiting row (.tail _ member)
    unfold ApprovalSweeper.expireAll
    split
    · exact rest
    refine .bind (upholds_standDown (.bind (upholds_rest (fun _ => ⟨rfl,rfl,rfl,rfl⟩) (fun _ => ⟨rfl,rfl⟩)
      (fun _ => (waiting invocation (.head _)).rests) (show ¬ InvocationState.InFlight .expired by decide))
      fun _ _ => .pure trivial)) fun expired _ => ?_
    exact .bind rest fun _ _ => .pure trivial

theorem upholds_sweep {limit : Nat} : Upholds runtime settings seen (fun _ => True)
    (ApprovalSweeper.expireStale limit) := by
  refine .bind (.issue fun _ => trivial) fun moment _ => ?_
  have found : Upholds runtime settings seen (fun candidates => ∀ row ∈ candidates, Pending row)
      (query (.sweepCandidates limit)) := by
    refine .query (fun _ _ _ => trivial) ?_
    intro view input candidates new answered row member
    obtain ⟨rows,selected,same⟩ := Option.map_eq_some_iff.mp answered
    cases same
    have matched := selectRows_matching selected row member
    exact (of_decide_eq_true matched).1
  refine .bind found fun candidates waiting => ?_
  refine .bind (upholds_expireAll waiting) fun expired _ => ?_
  exact .bind .commit fun _ _ => .pure trivial

theorem upholds_cancel {id : Uuid} {reason : String} : Upholds runtime settings seen (fun _ => True)
    (cancel principal id reason) := by
  unfold cancel
  refine .bind (.issue fun _ => trivial) fun found _ => ?_
  split
  · exact .throw
  dsimp only
  split
  · exact .throw
  split
  · exact .throw
  refine .bind (.tryCatch (upholds_early .cancelled rfl (fun _ => ⟨rfl,rfl,rfl,rfl⟩) (fun _ => ⟨rfl,rfl⟩) (by decide)) fun fault => ?_)
    fun row _ => ?_
  · split
    · exact .throw
    · exact .throw
  · exact .bind .commit fun _ _ => .pure trivial

theorem upholds_reconcile {id : Uuid} {disposition : ReconciliationDisposition} {justification : String}
    {evidenceRef : JsonObject} : Upholds runtime settings seen (fun _ => True)
      (reconcile principal id disposition justification evidenceRef) := by
  unfold reconcile
  refine .bind (.issue fun _ => trivial) fun found _ => ?_
  split
  · exact .throw
  split
  · exact .throw
  refine .bind (.issue fun _ => trivial) fun inserted _ => ?_
  refine .bind upholds_orRaise fun row _ => ?_
  refine .bind upholds_appendEvent fun event _ => ?_
  exact .bind .commit fun _ _ => .pure trivial

theorem upholds_lifecycleTarget {definition : Option ToolDefinition} {toolName toolVersion : String} :
    Upholds runtime settings seen (fun _ => True) (lifecycleTarget definition toolName toolVersion) := by
  unfold lifecycleTarget
  split
  · exact .throw
  refine .bind (.issue fun _ => trivial) fun found _ => ?_
  split
  · exact .pure trivial
  · exact .throw

theorem upholds_flushRegistration {loaded : ToolRegistration} {assigned : RegistrationColumns} :
    Upholds runtime settings seen (fun _ => True) (flushRegistration loaded assigned) := by
  unfold flushRegistration
  split
  · refine .bind (.issue fun _ => trivial) fun flushed _ => ?_
    exact .bind upholds_orRaise fun _ _ => .pure trivial
  · exact .pure trivial

theorem upholds_disableTool {definition : Option ToolDefinition} {requestId : RequestId} {toolName toolVersion reason : String} :
    Upholds runtime settings seen (fun _ => True)
      (disableTool definition principal requestId toolName toolVersion reason) := by
  refine .bind upholds_lifecycleTarget fun target _ => ?_
  refine .bind (.issue fun _ => trivial) fun moment _ => ?_
  refine .bind upholds_flushRegistration fun _ _ => ?_
  exact .bind upholds_orRaise fun _ _ => .commit

theorem upholds_enableTool {definition : Option ToolDefinition} {requestId : RequestId} {toolName toolVersion reason : String} :
    Upholds runtime settings seen (fun _ => True)
      (enableTool definition principal requestId toolName toolVersion reason) := by
  refine .bind upholds_lifecycleTarget fun target _ => ?_
  dsimp only
  split
  · exact .throw
  refine .bind upholds_flushRegistration fun _ _ => ?_
  exact .bind upholds_orRaise fun _ _ => .commit

theorem upholds_flushAsset {loaded : Asset} {assigned : AssetColumns} :
    Upholds runtime settings seen (fun _ => True) (flushAsset loaded assigned) := by
  unfold flushAsset
  split
  · refine .bind (.issue fun _ => trivial) fun flushed _ => ?_
    exact .bind upholds_orRaise fun _ _ => .pure trivial
  · exact .pure trivial

theorem upholds_getAsset {assetId : Uuid} : Upholds runtime settings seen (fun _ => True) (getAsset assetId) := by
  unfold getAsset
  refine .bind (.issue fun _ => trivial) fun found _ => ?_
  split
  · exact .pure trivial
  · exact .throw

theorem upholds_updateAsset {assetId : Uuid} {payload : AssetUpdate} : Upholds runtime settings seen (fun _ => True)
    (updateAsset assetId payload) := by
  refine .bind upholds_getAsset fun asset _ => ?_
  dsimp only
  split
  · exact .throw
  · exact .bind upholds_flushAsset fun _ _ => .commit

theorem upholds_retireAsset {assetId : Uuid} : Upholds runtime settings seen (fun _ => True) (retireAsset assetId) := by
  refine .bind upholds_getAsset fun asset _ => ?_
  dsimp only
  split
  · exact .throw
  split
  · exact .throw
  refine .bind (.issue fun _ => trivial) fun moment _ => ?_
  exact .bind upholds_flushAsset fun _ _ => .commit

end Upkeep

theorem upholds_program (op : Op runtime) : Upholds runtime settings seen (fun _ => True) (program runtime settings op) := by
  cases op with
  | create => exact .bind upholds_create fun _ _ => .pure trivial
  | decide => exact .bind upholds_decide fun _ _ => .pure trivial
  | executeOnce => exact .bind upholds_executeOnce fun _ _ => .pure trivial
  | reap => exact .bind upholds_reap fun _ _ => .pure trivial
  | sweep => exact .bind upholds_sweep fun _ _ => .pure trivial
  | cancel => exact .bind upholds_cancel fun _ _ => .pure trivial
  | reconcile => exact .bind upholds_reconcile fun _ _ => .pure trivial
  | disableTool => exact .bind upholds_disableTool fun _ _ => .pure trivial
  | enableTool => exact .bind upholds_enableTool fun _ _ => .pure trivial
  | updateAsset => exact .bind upholds_updateAsset fun _ _ => .pure trivial
  | retireAsset => exact .bind upholds_retireAsset fun _ _ => .pure trivial

end Operations

section Runs

variable {runtime : Runtime} {settings : Settings} {start : Db} {w : World Reply Fault Answer (Op runtime) Db Write}

theorem checking_verified : (checking runtime settings).Verified := by
  intro op db compliant
  have upholds : Upholds runtime settings db (fun _ => True) (program runtime settings op) := upholds_program op
  exact Spec.ok_weaken (fun _ _ _ _ _ => trivial) (fun _ _ _ _ _ => trivial) _ _ _ _
    (upholds [] db [.start op] (.none compliant) (.refl db))

theorem checking_follows : (checking runtime settings).Follows (acop runtime settings).free :=
  fun _ _ _ _ _ _ _ _ => trivial

theorem Later.terminal {old new : Db} (later : Later old new) {id : Uuid} {row : ToolInvocation}
    (found : old.invocations.lookup id = some row) (terminal : row.state.Terminal) :
    ∃ last, new.invocations.lookup id = some last ∧ last.state = row.state := by
  obtain ⟨last,there,continues⟩ := later.kept id row found
  exact ⟨last,there,terminal_stays terminal continues.reaches⟩

/-- From rows that satisfy the CHECKs, whatever the services do beside each other, every committed row
satisfies them, no UPDATE is refused for one of them, and no commit takes a row out of a terminal state. -/
theorem columns_agree (compliant : start.Compliant)
    (reachable : (acop runtime settings).Reachable (acop runtime settings).free start w) :
    (∀ id row, w.committed.invocations.lookup id = some row →
      row.violation = none ∧ row.toInvocationProgress.Agrees ∧ (row.approvalsReceived : Int) ≤ row.minApprovals) ∧
    ((∀ id row, start.invocations.lookup id = some row → row.Reasoned) →
      ∀ id row, w.committed.invocations.lookup id = some row → row.Reasoned) ∧
    (∀ before owner stmt reply db after, w.trace = before ++ (owner,.call stmt reply db)::after → NoCheck stmt reply) ∧
    ∀ before owner writes db after, w.trace = before ++ (owner,.commit writes db)::after →
      ∀ id row, db.invocations.lookup id = some row → row.state.Terminal →
        ∃ next, (view db writes).invocations.lookup id = some next ∧ next.state = row.state := by
  have sound := Spec.sound_of_reachable checking_verified checking_follows compliant reachable
  have told := System.chronicled_of_reachable reachable
  refine ⟨fun id row found => ?_,fun reasoned id row found => ?_,?_,?_⟩
  · have passed := (sound.inv id row found).2
    exact ⟨passed,agrees_of_violation passed,approvals_of_violation passed⟩
  · have later : Later start w.committed := by
      have commits : ∀ writes db, (checking runtime settings).Inv db → (checking runtime settings).Com writes db →
          Later db (view db writes) := fun writes db _ kept => Sustained.later kept
      rw [told.current]
      exact Spec.replay_related Later Later.refl (fun _ _ _ => Later.trans) commits sound told [] w.trace []
        (List.append_nil _).symm
    cases existed : start.invocations.lookup id with
    | none => exact later.fresh id row existed found
    | some old =>
      obtain ⟨last,there,continues⟩ := later.kept id old existed
      cases there.symm.trans found
      exact continues.reasoned (reasoned id old existed)
  · intro before owner stmt reply db after split
    exact (sound.due before owner _ after split).duty
  · intro before owner writes db after split id row found terminal
    have kept : Sustained writes db := ((sound.due before owner _ after split).committed writes db rfl).2
    exact kept.later.terminal found terminal

/-- An execution that was lost during its validation holds no lease. -/
theorem columns_agree_lost : ∃ row, lostWorld.committed.invocations.lookup 1 = some row ∧ row.violation = none ∧
    row.state = .executionIndeterminate ∧ row.executorLeaseId = none := by
  have compliant : labDb.Compliant := by
    intro id row found
    rw [labDb_fresh.invocations] at found
    cases found
  obtain ⟨row,found,state⟩ := Option.map_eq_some_iff.mp lostWorld_seen.2
  obtain ⟨passed,agrees,_⟩ := (columns_agree compliant lostWorld_reachable).1 1 row found
  refine ⟨row,found,passed,state,?_⟩
  have landed : ¬ row.state.InFlight := by
    rw [state]
    decide
  exact Option.not_isSome_iff_eq_none.mp fun held => landed (agrees.leaseId.mpr held)

end Runs

end Acop
