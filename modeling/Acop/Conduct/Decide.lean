import Acop.Completion

/-! One approver's decision: the decision row, the count and the two moves it may
complete, up to the commit. -/
namespace Acop

open Acop.Transaction

def approvers (approvals : List ToolApproval) : Finset String :=
  ((approvedAmong approvals).map (·.approverSubject)).toFinset

theorem approverCount_eq (approvals : List ToolApproval) : approverCount approvals = (approvers approvals).card := rfl

theorem approvers_append (first second : List ToolApproval) :
    approvers (first ++ second) = approvers first ∪ approvers second := by
  simp [approvers,approvedAmong]

theorem approverCount_new {approvals : List ToolApproval} {approval : ToolApproval}
    (approved : approval.decision = .approved)
    (distinct : ∀ other ∈ approvedAmong approvals, other.approverSubject ≠ approval.approverSubject) :
    approverCount (approvals ++ [approval]) = approverCount approvals + 1 := by
  have fresh : approval.approverSubject ∉ approvers approvals := by
    simp only [approvers,List.mem_toFinset,List.mem_map,not_exists,not_and]
    exact distinct
  have own : approvers [approval] = {approval.approverSubject} := by simp [approvers,approvedAmong,approved]
  rw [approverCount_eq,approvers_append,own,Finset.union_comm,← Finset.insert_eq,Finset.card_insert_of_notMem fresh,
    approverCount_eq]

theorem approverCount_stands {first second : List ToolApproval} (more : first <+: second)
    (same : approverCount second = approverCount first) (own : List ToolApproval) :
    approverCount (second ++ own) = approverCount (first ++ own) := by
  obtain ⟨added,rfl⟩ := more
  have equal : approvers first = approvers (first ++ added) := by
    refine Finset.eq_of_subset_of_card_le ?_ same.le
    rw [approvers_append]
    exact Finset.subset_union_left
  rw [approverCount_eq,approverCount_eq,approvers_append,approvers_append first own,equal]

theorem insertApprovalRow_ok {db : Db} {draft : ApprovalDraft} {id : Uuid} {now : Time} {approval : ToolApproval}
    (ok : insertApprovalRow db draft id now = .ok approval) : approval.toApprovalDraft = draft ∧
      (draft.decision = .approved → ∀ other ∈ approvedAmong (db.approvalsOf draft.invocationId),
        other.approverSubject ≠ draft.approverSubject) := by
  unfold insertApprovalRow at ok
  iterate 4
    split at ok
    · cases ok
  split at ok
  · cases ok
  rename_i distinct
  split at ok
  · cases ok
  cases ok
  exact ⟨rfl,fun approved other member same => distinct ⟨approved,other,member,same⟩⟩

theorem checkDecidable_ok {principal : Principal} {invocation : ToolInvocation} {digest : String}
    (ok : ToolApprovalService.checkDecidable principal invocation digest = .ok ()) :
    invocation.state = .awaitingApproval := by
  by_contra other
  simp [ToolApprovalService.checkDecidable,other,Bind.bind,Except.bind,throw,throwThe,MonadExceptOf.throw] at ok

theorem deriveSelfApproval_ok {settings : Settings} {principal : Principal} {invocation : ToolInvocation} {own : Bool}
    (ok : ToolApprovalService.deriveSelfApproval settings principal invocation = .ok own) :
    principal.subject = invocation.principalSubject → settings.toolsAllowSelfApproval = true ∧
      ToolApprovalService.selfApprovalPermitted invocation.effectiveApprovalPolicy = true := by
  intro same
  unfold ToolApprovalService.deriveSelfApproval at ok
  rw [if_neg (not_not.mpr same)] at ok
  split at ok
  · rename_i permitted
    simpa using permitted
  · cases ok

section

variable {mode : Mode} {runtime : Runtime} {settings : Settings} {pending : List Write} {db now : Db}
  {past past' : List (Happening runtime)}

/-- A decision that took its invocation out of `AWAITING_APPROVAL`. -/
theorem Final.resolved {id : Uuid} {old row : ToolInvocation} (inv : Inv mode settings db)
    (was : db.invocations.lookup id = some old) (awaiting : old.state = .awaitingApproval)
    (is : (view db pending).invocations.lookup id = some row) (steady : row.state.Steady)
    (moved : row.state ≠ .awaitingApproval) (lock : .invocation id ∈ locksOf pending)
    (denials : ∀ approval ∈ approvalsAdded pending id, approval.decision = .denied → row.state = .denied) :
    Final mode (locksOf pending) db (view db pending) id := by
  constructor
  · intro row' present
    cases Option.some.inj (is.symm.trans present)
    exact steady
  · intro row' present approval member refused
    cases Option.some.inj (is.symm.trans present)
    rw [view_approvalsOf] at member
    rcases List.mem_append.mp member with earlier | own
    · have denied := inv.denied id old was approval earlier refused
      rw [awaiting] at denied
      cases denied
    · exact denials approval own refused
  · exact fun _ => ⟨lock,fun _ => ⟨old,was,awaiting⟩⟩
  · intro _ row' present awaits
    cases Option.some.inj (is.symm.trans present)
    exact absurd awaits moved
  · intro _ old' present terminal
    cases Option.some.inj (was.symm.trans present)
    rw [awaiting] at terminal
    exact absurd terminal (by decide)

variable {invocationId : Uuid} {principal : Principal} {decision : ApprovalDecision} {justification digest : String}
  {approval : ToolApproval} {invocation : ToolInvocation}

theorem state_of_counted {id : Uuid} {row before : ToolInvocation} {counts : List Write}
    (counting : counts = [] ∨ ∃ n, counts = [.receive id n]) (was : db.invocations.lookup id = some row)
    (becomes : (view db (.insertApproval approval :: counts)).invocations.lookup id = some before) :
    row.state = before.state := by
  rcases counting with rfl | ⟨n,rfl⟩
  · simp only [view_lookup,was,rowAfter_cons,rowAfter_nil,Write.onRow,Option.some.injEq] at becomes
    rw [becomes]
  · simp only [view_lookup,was,rowAfter_cons,rowAfter_nil,Write.onRow,if_true,Option.map_some,Option.some.injEq]
      at becomes
    rw [← becomes]
    rfl

theorem ok_advanceApproved {now' : Time} {detail : JsonObject} {counts : List Write}
    (counting : counts = [] ∨ ∃ n, counts = [.receive invocationId n])
    (working : Working mode settings (.decide invocationId principal decision justification digest : Op runtime)
      invocationId (.insertApproval approval :: counts) db past)
    (own : invocation.id = invocationId) (awaiting : invocation.state = .awaitingApproval)
    (about : approval.invocationId = invocationId) (approved : approval.decision = .approved) :
    Ok mode settings
      (fun _ => Complete mode settings (.decide invocationId principal decision justification digest) invocationId)
      (Belonging (.decide invocationId principal decision justification digest))
      (do
        let invocation ← transition invocation {
          toState := .approved
          reason := PolicyReason.allowed.value
          actorSubject := some principal.subject
          detail
          columns := fun progress => {progress with approvedAt := some now'}}
        let _ ← transition invocation {
          toState := .ready
          reason := PolicyReason.allowed.value
          actorSubject := some principal.subject})
      (.insertApproval approval :: counts) db past := by
  have began := working.began
  refine Spec.ok_bind (ok_transition working.rest ?_ ?_ (fun _ _ _ _ _ _ _ _ onward => onward.began began)
    (fun _ _ _ _ _ _ onward => onward.began began))
  · rintro _ state _ (rfl | ⟨_,_,impossible⟩)
    · exact ⟨own,awaiting,.inl rfl⟩
    · rw [awaiting] at impossible
      simp at impossible
  intro first before row pending' past' agree inv rest moved onward
  have working' := moved.working working own rest onward
  have began' := working'.began
  have approvedState : row.state = .approved := by rw [moved.becomes]; rfl
  have keyed : row.id = invocationId := by
    have calm := rest.here inv invocation.id
    exact ((calm.coherent row moved.owned.2).keyed).trans own
  refine Spec.ok_bind (ok_transition rest ?_ ?_ (fun _ _ _ _ _ _ _ _ onward => onward.began began')
    (fun _ _ _ _ _ _ onward => onward.began began'))
  · rintro _ state steady (rfl | ⟨_,waiting,_⟩)
    · rw [approvedState] at steady
      exact absurd steady (by decide)
    · exact ⟨keyed,waiting,.inr (.inr rfl)⟩
  intro second before' row' pending'' past'' agree' inv' rest' moved' onward'
  refine ⟨moved'.working working' keyed rest' onward',?_⟩
  intro later agree'' inv''
  have is := (moved'.owned.follow agree'').2
  rw [keyed] at is
  have lock := moved'.owned.1
  rw [keyed] at lock
  have ready : row'.state = .ready := by rw [moved'.becomes]; rfl
  obtain ⟨event,_,rfl⟩ := moved.writes
  obtain ⟨event',_,rfl⟩ := moved'.writes
  -- the committed row is the one the first move found, before the own count
  have found : (view later (.insertApproval approval :: counts)).invocations.lookup invocationId = some before := by
    have onwards := agree'.trans (agree''.mono (locksOf_left _ _))
    have kept := view_lookup_of_held onwards moved.owned.1 (.insertApproval approval :: counts)
    rw [← own,kept,moved.was]
  obtain ⟨old,was⟩ : ∃ old, later.invocations.lookup invocationId = some old := by
    by_contra missing
    have gone : later.invocations.lookup invocationId = none :=
      Option.eq_none_iff_forall_ne_some.mpr fun old present => missing ⟨old,present⟩
    rcases counting with rfl | ⟨n,rfl⟩ <;> simp [view_lookup,gone,Write.onRow] at found
  refine Final.resolved inv'' was ?_ is (by rw [ready]; decide) (by rw [ready]; decide) lock ?_
  · rw [state_of_counted counting was found,moved.source,awaiting]
  · intro other member refused
    have same : other = approval := by
      rcases counting with rfl | ⟨n,rfl⟩ <;> simpa [Write.approvalsOn,about] using member
    rw [same,approved] at refused
    cases refused

theorem Final.counting {id : Uuid} {row : ToolInvocation} {n : Nat} (inv : Inv mode settings db)
    (was : db.invocations.lookup id = some row) (about : approval.invocationId = id)
    (approved : approval.decision = .approved) (awaits : mode.awaited → row.state = .awaitingApproval)
    (counts : mode.counted → row.state = .awaitingApproval → n = approverCount (db.approvalsOf id ++ [approval]))
    (partially : (n : Int) < row.minApprovals) :
    Final mode (locksOf [.insertApproval approval,.receive id n]) db
      (view db [.insertApproval approval,.receive id n]) id := by
  have is : (view db [.insertApproval approval,.receive id n]).invocations.lookup id = some (row.receive n) := by
    simp [view_lookup,Write.onRow,was]
  have approvals : (view db [.insertApproval approval,.receive id n]).approvalsOf id = db.approvalsOf id ++ [approval] := by
    simp [view_approvalsOf,Write.approvalsOn,about]
  constructor
  · intro row' present
    cases Option.some.inj (is.symm.trans present)
    exact inv.steady id row was
  · intro row' present other member refused
    cases Option.some.inj (is.symm.trans present)
    rw [approvals] at member
    rcases List.mem_append.mp member with earlier | own
    · exact inv.denied id row was other earlier refused
    · rw [List.mem_singleton.mp own,approved] at refused
      cases refused
  · exact fun _ => ⟨by simp [Write.locks],fun promise => ⟨row,was,awaits promise⟩⟩
  · intro promise row' present awaiting
    cases Option.some.inj (is.symm.trans present)
    rw [approvals,← counts promise awaiting]
    exact ⟨rfl,partially⟩
  · intro promise row' present terminal
    cases Option.some.inj (was.symm.trans present)
    rw [awaits promise] at terminal
    exact absurd terminal (by decide)

theorem ok_flushApprovalsReceived {good : Unit → List Write → Db → List (Happening runtime) → Prop}
    {op : Op runtime} {n : Nat} (working : Working mode settings op invocationId pending db past)
    (inv : Inv mode settings db) (own : invocation.id = invocationId) (seen : Seen pending db invocation)
    (same : n = invocation.approvalsReceived → good () pending db past)
    (written : ∀ now row past', Agree (locksOf pending) db now → Inv mode settings now →
      promised mode past (.setApprovalsReceived invocationId n) pending now →
      (view now pending).invocations.lookup invocationId = some row → Grown invocation row →
      (row.receive n).violation = none → Onward past past' →
      good () (pending ++ [.receive invocationId n]) now past') :
    Ok mode settings good (Belonging op) (ToolApprovalService.flushApprovalsReceived invocation n) pending db past := by
  unfold ToolApprovalService.flushApprovalsReceived
  split
  swap
  · rename_i unchanged
    exact same (not_not.mp unchanged)
  refine ok_step (.setApprovalsReceived invocation.id n) fun now agree inv' promise _ reply new answered => ⟨trivial,?_⟩
  have onward : Onward past _ := .one (.setApprovalsReceived invocation.id n) trivial reply now
  obtain ⟨row,present,grown⟩ := seen.follow working.rest inv agree inv'
  simp only [exec,present,Option.some.injEq] at answered
  split at answered
  · cases answered
    exact onward.began working.began
  · rename_i checked
    cases answered
    rw [own] at promise present onward ⊢
    exact written now row _ agree inv' promise present grown checked onward

theorem ok_countAndAdvance
    (working : Working mode settings (.decide invocationId principal decision justification digest : Op runtime)
      invocationId [.insertApproval approval] db past) (inv : Inv mode settings db)
    (own : invocation.id = invocationId) (awaiting : invocation.state = .awaitingApproval)
    (about : approval.invocationId = invocationId) (approved : approval.decision = .approved)
    (seen : Seen [.insertApproval approval] db invocation)
    (uncounted : invocation.approvalsReceived < approverCount (db.approvalsOf invocationId ++ [approval])) :
    Ok mode settings
      (fun _ => Complete mode settings (.decide invocationId principal decision justification digest) invocationId)
      (Belonging (.decide invocationId principal decision justification digest))
      (ToolApprovalService.countAndAdvance principal invocation) [.insertApproval approval] db past := by
  unfold ToolApprovalService.countAndAdvance
  refine ok_read (.countApprovers invocation.id) trivial fun third agree inv' _ (count : Nat) read => ?_
  have seen := seen.follow working.rest inv agree inv'
  have working := working.call agree (.countApprovers invocation.id) trivial count
  have count_eq : count = approverCount (third.approvalsOf invocationId ++ [approval]) := by
    simp only [exec,Option.some.injEq,Prod.mk.injEq,and_true] at read
    rw [← read,own,view_approvalsOf]
    simp [approverCount,Write.approvalsOn,about]
  have more : invocation.approvalsReceived < count := by
    refine lt_of_lt_of_le uncounted (count_eq ▸ approverCount_mono ?_)
    intro other member
    rcases List.mem_append.mp member with earlier | new
    · exact List.mem_append_left _ ((agree.approvals invocationId).subset earlier)
    · exact List.mem_append_right _ new
  have began := working.began
  dsimp only
  refine Spec.ok_bind (ok_flushApprovalsReceived working inv' own seen ?_ ?_)
  · intro unchanged
    have enough : ¬ (count : Int) < invocation.minApprovals := by omega
    rw [if_neg enough]
    refine ok_read .utcNow trivial fun later agree' _ _ moment _ => ?_
    exact ok_advanceApproved (.inl rfl) (working.call agree' .utcNow trivial moment) own awaiting about approved
  intro fourth row past' agree' _ promise present grown checked onward
  have rest' : Rest mode settings (Op.May (.decide invocationId principal decision justification digest : Op runtime))
      ([.insertApproval approval] ++
      [.receive invocationId (min count invocation.minApprovals.toNat)]) fourth := by
    refine (working.rest.follow agree').receive present checked ((min_le_left _ _).trans ?_)
    rw [count_eq,view_approvalsOf]
    refine approverCount_mono ?_
    simp only [approvalsAdded_cons,approvalsAdded_nil,Write.approvalsOn,about,if_true,List.append_nil]
    exact List.append_subset.mpr ⟨List.subset_append_of_subset_left _ (agree'.approvals invocationId).subset,
      List.subset_append_right _ _⟩
  have working' := working.grow rest' (.receive invocationId _) onward
  by_cases short : (count : Int) < invocation.minApprovals
  · rw [if_pos short]
    refine ⟨working',fun later agree'' inv'' => ?_⟩
    have received : min count invocation.minApprovals.toNat = count := min_eq_left (by omega)
    rw [received] at promise agree'' ⊢
    have minimum : row.minApprovals = invocation.minApprovals :=
      congrArg InvocationSnapshot.minApprovals grown.snapshot
    have committed : fourth.invocations.lookup invocationId = some row := by simpa [view_lookup,Write.onRow] using present
    have kept := agree''.invocation invocationId (by simp [Write.locks])
    refine Final.counting inv'' (kept.1.trans committed) about approved ?_ ?_ (minimum ▸ short)
    · exact fun awaited => promise.2 awaited row committed (minimum ▸ short)
    · intro counted awaits
      rw [kept.2,count_eq]
      refine (approverCount_stands (agree'.approvals invocationId) ?_ [approval]).symm
      exact promise.1 counted row committed awaits (minimum ▸ short) past count third (by rw [own])
  · rw [if_neg short]
    refine ok_read .utcNow trivial fun later agree'' _ _ moment _ => ?_
    exact ok_advanceApproved (.inr ⟨_,rfl⟩) (working'.call agree'' .utcNow trivial moment) own awaiting about approved

theorem ok_insertDecision {good : ToolApproval → List Write → Db → List (Happening runtime) → Prop} {op : Op runtime}
    {draft : ApprovalDraft} (working : Working mode settings op draft.invocationId [] db past)
    (seen : ∃ row, db.invocations.lookup draft.invocationId = some row ∧ Grown invocation row)
    (decided : ∀ approval : ToolApproval, approval.toApprovalDraft = draft →
      Decided settings invocation.toInvocationSnapshot approval)
    (inserted : ∀ now approval past', Agree (locksOf []) db now → Inv mode settings now →
      Working mode settings op draft.invocationId [.insertApproval approval] now past' →
      approval.toApprovalDraft = draft →
      (draft.decision = .approved → ∀ other ∈ approvedAmong (now.approvalsOf draft.invocationId),
        other.approverSubject ≠ draft.approverSubject) →
      (∃ row, (view now [.insertApproval approval]).invocations.lookup draft.invocationId = some row ∧
        Grown invocation row) →
      good approval [.insertApproval approval] now past') :
    Ok mode settings good (Belonging op) (ToolApprovalService.insertDecision principal draft) [] db past := by
  unfold ToolApprovalService.insertDecision
  refine ok_step (.insertApproval draft) fun now agree inv _ input reply new answered => ⟨trivial,?_⟩
  have called := working.call agree (.insertApproval draft) trivial reply
  simp only [exec,Acop.inserted,Option.some.injEq] at answered
  split at answered
  · rename_i approval ok
    cases answered
    obtain ⟨same,distinct⟩ := insertApprovalRow_ok ok
    have about : approval.invocationId = draft.invocationId := congrArg ApprovalDraft.invocationId same
    obtain ⟨old,there,grown⟩ := seen
    obtain ⟨row,present,grown'⟩ := agree.kept _ old there
    have snapshot := (grown.trans grown').snapshot
    have rest : Rest mode settings op.May ([] ++ [.insertApproval approval]) now :=
      called.rest.decision inv (by rw [about]; exact present) (snapshot ▸ decided approval same)
    refine inserted now approval _ agree inv (called.grow rest (about ▸ .decision approval) .refl) same distinct ?_
    exact ⟨row,by simpa [view_lookup,Write.onRow] using present,grown.trans grown'⟩
  · rename_i broken _
    cases answered
    cases broken <;> exact called.began

theorem ok_decide (invocationId : Uuid) (principal : Principal) (decision : ApprovalDecision)
    (justification digest : String) (db : Db) :
    Ok mode settings (Belonging (.decide invocationId principal decision justification digest : Op runtime))
      (Belonging (.decide invocationId principal decision justification digest))
      (ToolApprovalService.decide settings principal invocationId decision justification digest) [] db
      [.start (.decide invocationId principal decision justification digest)] := by
  unfold ToolApprovalService.decide
  refine ok_read (.getInvocation invocationId) trivial fun first agree inv _ reply read => ?_
  have working : Working mode settings (.decide invocationId principal decision justification digest : Op runtime)
      invocationId [] first _ := (Working.start _ _ db).call agree (.getInvocation invocationId) trivial reply
  cases reply with
  | none => exact working.began
  | some invocation =>
    have present : first.invocations.lookup invocationId = some invocation := by simpa [exec] using read
    have coherent := inv.coherent invocationId invocation present
    dsimp only
    cases decidable : ToolApprovalService.checkDecidable principal invocation digest with
    | error fault => exact working.began
    | ok _ =>
    have awaiting := checkDecidable_ok decidable
    cases derived : ToolApprovalService.deriveSelfApproval settings principal invocation with
    | error fault => exact working.began
    | ok selfApproval =>
    refine ok_read .utcNow trivial fun second agree' _ _ moment _ => ?_
    have working := working.call agree' .utcNow trivial moment
    obtain ⟨row,present',grown⟩ := agree'.kept _ _ present
    obtain rfl := coherent.keyed
    refine Spec.ok_bind (ok_insertDecision working ⟨row,present',grown⟩ ?_ ?_)
    · intro approval same
      exact ⟨by rw [same],by rw [same],fun own => deriveSelfApproval_ok derived (by rw [← own,same])⟩
    intro third approval past' agree'' inv'' working' same distinct seen
    cases decision with
    | denied =>
      refine Spec.ok_bind (ok_transition working'.rest ?_ ?_ (fun _ _ _ _ _ _ _ _ onward => onward.began working'.began)
        (fun _ _ _ _ _ _ onward => onward.began working'.began))
      · rintro _ state _ (rfl | ⟨_,_,impossible⟩)
        · exact ⟨rfl,awaiting,.inr (.inl rfl)⟩
        · rw [awaiting] at impossible
          simp at impossible
      intro now before after pending' past'' agree inv rest moved onward
      have complete : Complete mode settings (.decide invocation.id principal .denied justification digest : Op runtime)
          invocation.id pending' now past'' := by
        refine ⟨moved.working working' rfl rest onward,fun later further inv => ?_⟩
        have was : later.invocations.lookup invocation.id = some before := by
          have kept := further.invocation invocation.id moved.owned.1
          rw [kept.1,← moved.was]
          simp [view_lookup,Write.onRow]
        have denied : after.state = .denied := by rw [moved.becomes]; rfl
        exact Final.resolved inv was (moved.source.trans awaiting) (moved.owned.follow further).2
          (by rw [denied]; decide) (by rw [denied]; decide) moved.owned.1 fun _ _ _ => denied
      exact complete.commit fun _ _ _ => complete.working.began.committed _ _
    | approved =>
      have approvedOne : approval.decision = .approved := by rw [same]
      have about : approval.invocationId = invocation.id := by rw [same]
      refine Spec.ok_bind (Spec.ok_weaken ?_ (fun _ _ _ _ began => began) _ _ _ _
        (ok_countAndAdvance working' inv'' rfl awaiting about approvedOne seen ?_))
      · exact fun _ pending' now past'' complete =>
          complete.commit fun _ _ _ => complete.working.began.committed _ _
      · have more : first.approvalsOf invocation.id ⊆ third.approvalsOf invocation.id :=
          ((agree'.trans agree'').approvals invocation.id).subset
        have distinct : ∀ other ∈ approvedAmong (third.approvalsOf invocation.id),
            other.approverSubject ≠ approval.approverSubject := by
          rw [same]
          exact distinct rfl
        rw [approverCount_new approvedOne distinct]
        exact Nat.lt_succ_of_le (coherent.received.trans (approverCount_mono more))

end

end Acop
