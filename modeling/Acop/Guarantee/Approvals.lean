import Acop.Laboratory

/-! Approvals: none is executed without them, and none is lost where counts are
not disturbed. -/
namespace Acop

open Acop.Transaction

theorem approvalFailure_none {row : ToolInvocation} {approvals : List ToolApproval} {moment : Time}
    (passed : approvalFailure row approvals moment = none) (required : row.approvalRequired = true) :
    row.minApprovals ≤ distinctApprovers approvals ∧
      ∀ approval ∈ approvals, moment < approval.expiresAt ∧ approval.approvedEnvelopeDigest = row.envelopeDigest := by
  unfold approvalFailure at passed
  split at passed
  · rename_i free
    exact absurd required free
  split at passed
  · cases passed
  split at passed
  · cases passed
  rename_i digests
  dsimp only at passed
  split at passed
  · cases passed
  rename_i complete
  split at passed
  · cases passed
  rename_i enough
  have all : approvals.filter (fun approval => moment < approval.expiresAt) = approvals :=
    List.filter_sublist.eq_of_length (le_antisymm (List.length_filter_le _ _) (not_lt.mp complete))
  rw [all] at enough
  refine ⟨not_lt.mp enough,fun approval member => ⟨?_,?_⟩⟩
  · simpa using List.filter_eq_self.mp all approval member
  · exact by_contra fun other => digests ⟨approval,member,other⟩

theorem selfApprovalPermitted_asSnapshot (policy : ApprovalPolicy) :
    ToolApprovalService.selfApprovalPermitted policy.asSnapshot = policy.selfApprovalPermitted := by
  simp [ToolApprovalService.selfApprovalPermitted,ApprovalPolicy.asSnapshot,Json.get,List.lookup_cons]

section

variable {mode : Mode} {runtime : Runtime} {settings : Settings} {start db : Db} {id : Uuid} {row : ToolInvocation}
  {w : World Reply Fault Answer (Op runtime) Db Write} {before after : List (Entry runtime)} {owner : Nat}

theorem Course.origin (course : Course mode runtime settings start w) (fresh : start.Fresh)
    {event : Happening runtime} (split : w.trace = before ++ (owner,event)::after) (seen : event.seen = some db)
    (present : db.invocations.lookup id = some row) (accepted : row.state ≠ .rejected) :
    ∃ earlier creator writes db' later process request principal definition created,
      before = earlier ++ (creator,.commit writes db')::later ∧ db'.invocations.lookup id = none ∧
        (view db' writes).invocations.lookup id = some created ∧ Grown created row ∧
        Began (history earlier creator) (.create process request principal) ∧
        Admitted process request (history earlier creator) created definition := by
  have dated := course.told.dated before owner event after split db seen
  let held : Db → Prop := fun db => ∃ row, db.invocations.lookup id = some row
  have absent : ¬ held start := by
    rintro ⟨row,found⟩
    simp [fresh.invocations] at found
  have now : held ((acop runtime settings).replay start before) := ⟨row,dated ▸ present⟩
  obtain ⟨earlier,creator,writes,db',later,rfl,missing,created,there⟩ := System.replay_changed absent now
  have split' : w.trace = earlier ++ (creator,.commit writes db')::(later ++ (owner,event)::after) := by simpa using split
  have same := course.told.dated earlier creator _ _ split' db' rfl
  rw [← same] at missing there
  have missing : db'.invocations.lookup id = none :=
    Option.eq_none_iff_forall_ne_some.mpr fun row found => missing ⟨row,found⟩
  have grown := (course.published split' seen).state there present
  have alive : created.state ≠ .rejected := by
    intro refused
    have still := terminal_stays (by rw [refused]; decide) grown.reaches
    exact accepted (still.trans refused)
  obtain ⟨process,request,principal,definition,began,admitted⟩ := (course.due split').created id created missing there alive
  exact ⟨earlier,creator,writes,db',later,process,request,principal,definition,created,rfl,missing,there,grown,began,
    admitted⟩

/-- The approvals that one attempt's final gate considered. -/
structure Considered (settings : Settings) (past : List (Happening runtime)) (row : ToolInvocation)
    (rows : List ToolApproval) (moment : Time) : Prop where
  read : ∃ seen seen', [.call (.approvedRows row.id) rows seen,.call .utcNow moment seen'] <:+: past ∧
    rows = approvedAmong (seen.approvalsOf row.id)
  enough : row.minApprovals ≤ distinctApprovers rows
  unexpired : ∀ approval ∈ rows, moment < approval.expiresAt
  bound : ∀ approval ∈ rows, approval.approvedEnvelopeDigest = row.envelopeDigest
  separate : ∀ approval ∈ rows, approval.approverSubject = row.principalSubject →
    settings.toolsAllowSelfApproval = true ∧
      ToolApprovalService.selfApprovalPermitted row.effectiveApprovalPolicy = true

/-- An adapter executes an approval-required invocation only on the approvals that
its final gate considered, under a digest that the live definition still gives,
with no denial committed; and the policy that may permit a requester to approve is
the one declared by the process that admitted the request. -/
theorem approval_safety (fresh : start.Fresh)
    (reachable : (acop runtime settings).Reachable (acop runtime settings).free start w) :
    ∀ before owner adapter request reply db after,
      w.trace = before ++ (owner,.call (.adapterExecute adapter request) reply db)::after →
        ∀ row, db.invocations.lookup request.invocationId = some row → row.approvalRequired = true →
          (∃ process definition rows moment, Began (history before owner) (.executeOnce process request.invocationId) ∧
            process.getDefinition row.toolName row.toolVersion = some definition ∧
            ExecutionDispatcher.recomputedDigest runtime definition row = row.envelopeDigest ∧
            Considered settings (history before owner) row rows moment) ∧
          (∀ approval ∈ db.approvalsOf request.invocationId, approval.decision ≠ .denied) ∧
          ∃ earlier creator process asked principal definition,
            Began (history earlier creator) (.create process asked principal) ∧ earlier <+: before ∧
            process.getDefinition row.toolName row.toolVersion = some definition ∧
            (ToolApprovalService.selfApprovalPermitted row.effectiveApprovalPolicy = true ↔
              definition.approvalPolicy.selfApprovalPermitted = true) := by
  have course := Course.any fresh reachable
  intro before owner adapter request reply db after split row present required
  obtain ⟨process,row',definition,leaseId,began,dispatched⟩ := course.due split
  have same : row' = row := Option.some.inj (dispatched.committed.symm.trans present)
  subst same
  have inv := course.inv_seen split rfl
  have own : row'.id = request.invocationId := (inv.coherent _ _ present).keyed
  refine ⟨?_,?_,?_⟩
  · obtain ⟨rows,seen,moment,seen',read,listed,passed⟩ := dispatched.allowed.approved required
    obtain ⟨enough,valid⟩ := approvalFailure_none passed required
    refine ⟨process,definition,rows,moment,began,dispatched.allowed.declared,dispatched.allowed.intact,?_⟩
    -- the gate's reading is itself an event of the trace
    have member : (owner,.call (.approvedRows request.invocationId) rows seen) ∈ before :=
      mem_history.mp (read.subset (.head _))
    obtain ⟨front,gap,rfl⟩ := List.append_of_mem member
    have read' : w.trace = front ++ (owner,.call (.approvedRows request.invocationId) rows seen)::(gap ++
        (owner,.call (.adapterExecute adapter request) reply db)::after) := by simpa using split
    have invSeen := course.inv_seen read' rfl
    have decided : ∀ approval ∈ rows, Decided settings row'.toInvocationSnapshot approval := by
      intro approval chosen
      rw [listed] at chosen
      have stored := (List.mem_filter.mp chosen).1
      cases there : seen.invocations.lookup request.invocationId with
      | none =>
        rw [(invSeen.absent _ there).2] at stored
        cases stored
      | some old =>
        rw [((course.between read' rfl rfl).state there present).snapshot]
        exact (invSeen.coherent _ old there).decided approval stored
    exact {
      read := by
        rw [own]
        exact ⟨seen,seen',read,listed⟩
      enough
      unexpired := fun approval chosen => (valid approval chosen).1
      bound := fun approval chosen => (valid approval chosen).2
      separate := fun approval chosen => (decided approval chosen).separate}
  · intro approval stored refused
    have denied := inv.denied _ _ present approval stored refused
    rw [dispatched.running] at denied
    cases denied
  · obtain ⟨earlier,creator,writes,db',later,process',asked,principal,declared,created,rfl,_,_,grown,born,admitted⟩ :=
      course.origin fresh split rfl present (by rw [dispatched.running]; decide)
    refine ⟨earlier,creator,process',asked,principal,declared,born,List.prefix_append _ _,?_,?_⟩
    · rw [grown.snapshot,admitted.named.1,admitted.named.2]
      exact admitted.declared
    · rw [grown.snapshot,admitted.policy,selfApprovalPermitted_asSnapshot]

theorem approval_safety_lab : (acop labRuntime labSettings).Reachable careful labDb approvedWorld ∧ ∀ before owner adapter request reply db after,
    approvedWorld.trace = before ++ (owner,.call (.adapterExecute adapter request) reply db)::after →
      ∀ row, db.invocations.lookup request.invocationId = some row → row.approvalRequired = true →
        ∃ process definition rows moment, Began (history before owner) (.executeOnce process request.invocationId) ∧
          process.getDefinition row.toolName row.toolVersion = some definition ∧
          ExecutionDispatcher.recomputedDigest labRuntime definition row = row.envelopeDigest ∧
          Considered labSettings (history before owner) row rows moment :=
  ⟨approvedWorld_careful,fun before owner adapter request reply db after split row present required =>
    (approval_safety labDb_fresh (approvedWorld_reachable fun _ _ _ => trivial) before owner adapter request reply db after
      split row present required).1⟩

/-- Where counts are not disturbed, an invocation that awaits approval has fewer
approvers than it needs, and its counter says how many. -/
theorem approvals_counted (fresh : start.Fresh) (reachable : (acop runtime settings).Reachable countsUndisturbed start w) :
    ∀ id row, w.committed.invocations.lookup id = some row → row.state = .awaitingApproval →
      row.approvalsReceived = approverCount (w.committed.approvalsOf id) ∧
        (approverCount (w.committed.approvalsOf id) : Int) < row.minApprovals :=
  (Course.follow fresh follows_countsUndisturbed reachable).sound.inv.counted trivial

theorem approvals_counted_lab : (acop labRuntime labSettings).Reachable careful labDb approvedWorld ∧ ∀ id row, approvedWorld.committed.invocations.lookup id = some row →
    row.state = .awaitingApproval → row.approvalsReceived = approverCount (approvedWorld.committed.approvalsOf id) ∧
      (approverCount (approvedWorld.committed.approvalsOf id) : Int) < row.minApprovals :=
  ⟨approvedWorld_careful,approvals_counted labDb_fresh (approvedWorld_reachable fun _ _ kept => kept.2.1)⟩

def racedApprovals : List LabMove :=
  requested 0 "lab.box.set" (some "k") 1 ++ .start 1 (approves "bob") :: .start 2 (approves "cat") ::
    calls 1 (List.replicate 5 {uuid := 2}) ++ calls 2 (List.replicate 4 {uuid := 3}) ++
    .commit 1 :: .finish 1 :: .call 2 {} :: [.commit 2,.finish 2]

/-- All decisions are in, enough approved, and the invocation still waits with one counted. -/
def approvalLost (id : Uuid) (w : Laboratory) : Bool :=
  w.sessions.entries.isEmpty && (w.committed.invocations.lookup id).any fun row =>
    row.state = .awaitingApproval && row.minApprovals ≤ (approverCount (w.committed.approvalsOf id) : Int) &&
      row.approvalsReceived < approverCount (w.committed.approvalsOf id)

theorem racedApprovals_runs : (labRun (acop labRuntime labSettings).free racedApprovals).any (approvalLost 1) = true := by
  decide +kernel

theorem approval_lost : ∃ w,
    (acop labRuntime labSettings).Reachable (acop labRuntime labSettings).free labDb w ∧ approvalLost 1 w = true :=
  labRun_reached racedApprovals_runs

end

end Acop
