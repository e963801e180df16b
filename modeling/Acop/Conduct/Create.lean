import Acop.Completion

/-! A `create` is judged: what the policy engine admits, the row that is inserted
and taken to `READY` or to its approval, and the answer where a key was presented. -/
namespace Acop

open Acop.Transaction

section Admission

variable {runtime : Runtime} {context : PolicyContext} {definition : ToolDefinition} {target : TargetFacts}

@[simp] theorem deny_allowed (reason : PolicyReason) : (PolicyEngine.deny runtime context reason).allowed = false := by
  unfold PolicyEngine.deny
  split <;> rfl

theorem gatesOneToFour_refused {denial : PolicyDecision}
    (refused : PolicyEngine.gatesOneToFour runtime context = some (.error denial)) : denial.allowed = false := by
  unfold PolicyEngine.gatesOneToFour at refused
  split at refused
  · cases refused
    exact deny_allowed _
  split at refused
  · cases refused
    exact deny_allowed _
  · cases refused
    exact deny_allowed _
  split at refused
  · cases refused
    exact deny_allowed _
  split at refused <;> cases refused
  exact deny_allowed _

theorem gatesOneToFour_passed {canonical : JsonObject}
    (passed : PolicyEngine.gatesOneToFour runtime context = some (.ok canonical)) : ∃ definition,
      context.definition = some definition ∧ definition.inputModel.modelValidate context.rawInput = .valid canonical := by
  unfold PolicyEngine.gatesOneToFour at passed
  split at passed
  · cases passed
  rename_i definition declared
  split at passed
  · cases passed
  · cases passed
  split at passed
  · cases passed
  split at passed <;> cases passed
  rename_i validated
  exact ⟨definition,declared,validated⟩

/-- What an allow of the policy engine was given on. -/
structure Passed (context : PolicyContext) (decision : PolicyDecision) (definition : ToolDefinition) : Prop where
  declared : context.definition = some definition
  validated : definition.inputModel.modelValidate context.rawInput = .valid decision.canonicalInput
  target : PolicyEngine.checkTarget definition context.target = none
  policy : decision.approvalPolicy = definition.approvalPolicy

theorem evaluate_allowed (allowed : (PolicyEngine.evaluate runtime context).allowed = true) :
    ∃ definition, Passed context (PolicyEngine.evaluate runtime context) definition := by
  unfold PolicyEngine.evaluate at allowed ⊢
  cases gates : PolicyEngine.gatesOneToFour runtime context with
  | none => simp [gates] at allowed
  | some verdict =>
    cases verdict with
    | error denial =>
      simp only [gates] at allowed
      rw [gatesOneToFour_refused gates] at allowed
      cases allowed
    | ok canonical =>
      obtain ⟨definition,declared,validated⟩ := gatesOneToFour_passed gates
      simp only [gates,declared] at allowed ⊢
      refine ⟨definition,?_⟩
      unfold PolicyEngine.gatesFiveToEight at allowed ⊢
      cases target : PolicyEngine.checkTarget definition context.target with
      | some reason => simp [target] at allowed
      | none =>
        simp only [target] at allowed ⊢
        split at allowed
        · simp at allowed
        split at allowed
        · simp at allowed
        rename_i held environment
        rw [if_neg held,if_neg environment]
        exact ⟨declared,validated,target,rfl⟩

theorem evaluatePrerequisites_denies {denial : PolicyDecision}
    (refused : PolicyEngine.evaluatePrerequisites runtime context = some denial) : denial.allowed = false := by
  unfold PolicyEngine.evaluatePrerequisites at refused
  split at refused
  · rename_i gates
    cases refused
    exact gatesOneToFour_refused gates
  · cases refused
  · cases refused
    exact deny_allowed _

theorem checkTarget_asset (passed : PolicyEngine.checkTarget definition target = none) (kind : target.kind = .asset) :
    target.found = true ∧ target.assetId.isSome ∧ (target.lifecycleState = "" ∨ target.lifecycleState = "ACTIVE") ∧
      target.assetType ∈ definition.targetAssetTypes := by
  unfold PolicyEngine.checkTarget at passed
  split at passed
  · cases passed
  rename_i same
  have declared : definition.targetType = .asset := (not_not.mp same).symm.trans kind
  simp only [declared] at passed
  split at passed
  · cases passed
  rename_i known
  split at passed
  · cases passed
  rename_i active
  split at passed
  · cases passed
  rename_i accepted
  simp only [not_or,not_not,ne_eq,not_and] at known active accepted
  refine ⟨by simpa using known.1,Option.isSome_iff_ne_none.mpr known.2,?_,accepted⟩
  by_cases blank : target.lifecycleState = ""
  · exact .inl blank
  · exact .inr (active blank)

theorem lifecycle_active {state : LifecycleState} (active : state.value = "" ∨ state.value = "ACTIVE") :
    state = .active := by
  cases state <;> first | rfl | (revert active; decide)

theorem truthy_truthy (targetRef : Option JsonObject) : truthy (truthy targetRef) = truthy targetRef := by
  cases targetRef with
  | none => rfl
  | some fields => by_cases empty : fields.isEmpty <;> simp [truthy,Option.filter,empty]

end Admission

section

variable {mode : Mode} {runtime : Runtime} {settings : Settings} {process : Process runtime}
  {request : InvocationRequest} {principal : Principal} {pending : List Write} {db now : Db}
  {past past' : List (Happening runtime)} {invocation row : ToolInvocation} {definition : ToolDefinition} {α : Type}

/-- A session of `create` that no lookup by key has answered with a row. -/
structure Creating (process : Process runtime) (request : InvocationRequest) (principal : Principal)
    (past : List (Happening runtime)) : Prop where
  began : Began past (.create process request principal)
  unfound : ∀ key existing seen, .call (.selectForKey key) (some existing) seen ∉ past

theorem Creating.onward (creating : Creating process request principal past) (onward : Onward past past') :
    Creating process request principal past' where
  began := onward.began creating.began
  unfound := fun key existing seen member => creating.unfound key existing seen (onward.lookup member)

def Uncommitted (past : List (Happening runtime)) : Prop := ∀ writes seen, .commit writes seen ∉ past

theorem Uncommitted.onward (uncommitted : Uncommitted past) (onward : Onward past past') : Uncommitted past' := by
  induction onward with
  | refl => exact uncommitted
  | call middle stmt reply db _ _ ih =>
    intro writes seen member
    exact ih writes seen (by simpa using member)

/-- A `create` that raises, and answers for it. -/
def Refused (mode : Mode) (process : Process runtime) (request : InvocationRequest) (principal : Principal) :
    Fault → List Write → Db → List (Happening runtime) → Prop :=
  fun fault _ _ past => Began past (.create process request principal) ∧ Answered mode process request past (.error fault)

/-- A `create` that returns an invocation, and answers for it. -/
def Returned (mode : Mode) (process : Process runtime) (request : InvocationRequest) (principal : Principal) :
    ToolInvocation → List Write → Db → List (Happening runtime) → Prop :=
  fun invocation _ _ past => Began past (.create process request principal) ∧
    Answered mode process request past (.ok (.invocation invocation))

theorem Creating.answered (creating : Creating process request principal past) {result : Except Fault Answer}
    (unbroken : mode.unraced → result ≠ .error (.integrity .idempotencyKey)) :
    Answered mode process request past result where
  unbroken := unbroken
  replayed := fun key existing seen member => absurd member (creating.unfound key existing seen)
  refused := fun key existing seen member => absurd member (creating.unfound key existing seen)

theorem Creating.refused (creating : Creating process request principal past) {fault : Fault} (ordinary : fault.Ordinary)
    (onward : Onward past past') : Refused mode process request principal fault pending now past' :=
  ⟨onward.began creating.began,(creating.onward onward).answered fun _ same => ordinary (Except.error.inj same)⟩

theorem Fault.IsStale.ordinary {fault : Fault} (stale : fault.IsStale) : fault.Ordinary := by
  rintro rfl
  exact stale

theorem insertInvocationRow_ok {snapshot : InvocationSnapshot} {id : Uuid} {moment : Time}
    (ok : insertInvocationRow db snapshot id moment = .ok row) :
    row = {toInvocationSnapshot := snapshot, toInvocationProgress := {}, id, requestedAt := moment} ∧
      row.violation = none ∧ db.invocations.lookup id = none ∧
      ∀ key, snapshot.idempotencyKey = some key → ∀ other row', db.invocations.lookup other = some row' →
        ¬ row'.LiveUnder key := by
  unfold insertInvocationRow at ok
  split at ok
  · cases ok
  dsimp only at ok
  split at ok
  · cases ok
  rename_i checked
  split at ok
  · cases ok
  rename_i unused
  split at ok
  · cases ok
  rename_i free
  split at ok
  · cases ok
  split at ok
  · cases ok
  cases ok
  refine ⟨rfl,checked,AList.lookup_eq_none.mpr unused,?_⟩
  intro key under other row' found live
  simp only [under,Option.any_some,List.any_eq_true,decide_eq_true_eq,not_exists,not_and] at free
  exact free ⟨other,row'⟩ (AList.mem_lookup_iff.mp found) live

theorem insertInvocationRow_key {snapshot : InvocationSnapshot} {id : Uuid} {moment : Time}
    (refused : insertInvocationRow db snapshot id moment = .error .idempotencyKey) :
    ∃ key, snapshot.idempotencyKey = some key ∧ ∃ other row', db.invocations.lookup other = some row' ∧
      row'.LiveUnder key := by
  unfold insertInvocationRow at refused
  split at refused
  · cases refused
  dsimp only at refused
  split at refused
  · rename_i broken violated
    cases refused
    exact absurd rfl (violation_kind violated)
  split at refused
  · cases refused
  split at refused
  · rename_i taken
    cases under : snapshot.idempotencyKey with
    | none => simp [under] at taken
    | some key =>
      simp only [under,Option.any_some,List.any_eq_true] at taken
      obtain ⟨entry,member,held⟩ := taken
      exact ⟨key,rfl,entry.1,entry.2,AList.mem_lookup_iff.mpr member,by simpa using held⟩
  split at refused
  · cases refused
  split at refused <;> cases refused

/-- A row that the transaction inserted and nobody else has seen. -/
structure Drafting (mode : Mode) (settings : Settings) (process : Process runtime) (request : InvocationRequest)
    (principal : Principal) (snapshot : InvocationSnapshot) (invocation : ToolInvocation) (pending : List Write) (db : Db)
    (past : List (Happening runtime)) : Prop where
  creating : Creating process request principal past
  rest : Rest mode settings (Op.May (.create process request principal)) pending db
  owned : Owned pending db invocation.id invocation
  absent : db.invocations.lookup invocation.id = none
  snapshot : invocation.toInvocationSnapshot = snapshot
  unreceived : invocation.approvalsReceived = 0
  checked : invocation.violation = none
  alone : ∀ other, other ≠ invocation.id → ∀ row, rowAfter pending other row = row
  undecided : ∀ other, approvalsAdded pending other = []

theorem ok_creation {good : α → List Write → Db → List (Happening runtime) → Prop} {snapshot : InvocationSnapshot}
    {reason : String} {actorSubject : Option String} {detail : JsonObject} {rest : ToolInvocation → Service α}
    (creating : Creating process request principal past)
    (follows : ∀ now row event past', Agree (locksOf []) db now → Onward past past' → row.state = .requested →
      Drafting mode settings process request principal snapshot row [.insertInvocation row,.insertEvent event] now past' →
      Ok mode settings good (Refused mode process request principal) (rest row)
        [.insertInvocation row,.insertEvent event] now past') :
    Ok mode settings good (Refused mode process request principal)
      (do
        let inserted ← query (.insertInvocation snapshot)
        let invocation ← orRaise inserted
        let _ ← appendEvent invocation.id none .requested reason actorSubject detail
        rest invocation) [] db past := by
  refine ok_step (.insertInvocation snapshot) fun first agree inv unraced input reply new answered => ⟨trivial,?_⟩
  have asked : Onward past _ := .one (.insertInvocation snapshot) trivial reply first
  simp only [exec,inserted,Option.some.injEq] at answered
  split at answered
  swap
  · rename_i broken refused
    cases answered
    refine ⟨asked.began creating.began,(creating.onward asked).answered ?_⟩
    rintro promise ⟨⟩
    obtain ⟨key,under,other,row,found,live⟩ := insertInvocationRow_key refused
    exact unraced promise key under other row found live
  rename_i row ok
  cases answered
  obtain ⟨shape,checked,missing,free⟩ := insertInvocationRow_ok ok
  have same : row.toInvocationSnapshot = snapshot := by rw [shape]
  have missing : first.invocations.lookup row.id = none := by
    rw [show row.id = input.uuid by rw [shape]]
    exact missing
  have lock : Lock.invocation row.id ∈ locksOf ([] ++ [.insertInvocation row]) := by simp [Write.locks]
  simp only [orRaise,Program.pure_eq,Program.done_bind]
  have silent : ∀ now, Agree (locksOf ([] ++ [.insertInvocation row])) first now → Inv mode settings now →
      now.invocations.lookup row.id = none ∧ now.eventsOf row.id = [] ∧ now.approvalsOf row.id = [] := by
    intro now agree' inv'
    have absent : now.invocations.lookup row.id = none := (agree'.invocation row.id lock).1.trans missing
    exact ⟨absent,inv'.absent row.id absent⟩
  refine Spec.ok_bind (ok_appendEvent ?_ ?_ fun fault now past' ordinary _ onward =>
    creating.refused ordinary (asked.trans onward))
  · intro now agree' inv'
    simp [view_eventsOf,Write.eventsOn,(silent now agree' inv').2.1]
  intro second event past' agree' inv' onward _ told
  have own : event.invocationId = row.id := congrArg EventDraft.invocationId told
  refine follows second row event past' (agree.trans (agree'.mono (by simp))) (asked.trans onward) (by rw [shape]) ?_
  exact {
    creating := creating.onward (asked.trans onward)
    rest := by
      refine Rest.creation missing (by rw [shape]) (by rw [shape]) checked ?_ agree' inv' own
        (congrArg EventDraft.sequence told) (congrArg EventDraft.fromState told) (congrArg EventDraft.toState told)
      intro key under other row' found under'
      refine free key (same ▸ under) other row' found ⟨under',fun superseded => ?_⟩
      have steady := inv.steady other row' found
      rw [superseded] at steady
      exact absurd steady (by decide)
    owned := by
      refine ⟨by simp [Write.locks],?_⟩
      simp [view_lookup,Write.onRow]
    absent := (silent second agree' inv').1
    snapshot := same
    unreceived := by rw [shape]
    checked
    alone := fun other different row' => by simp [Write.onRow,Ne.symm different]
    undecided := by simp [Write.approvalsOn]}

theorem ok_moveDraft {good : ToolInvocation → List Write → Db → List (Happening runtime) → Prop} {move : Transition}
    {snapshot : InvocationSnapshot}
    (draft : Drafting mode settings process request principal snapshot invocation pending db past)
    (early : ¬ invocation.state.Steady)
    (follows : ∀ now row pending' past', Agree (locksOf pending) db now → Onward past past' → row.state = move.toState →
      Drafting mode settings process request principal snapshot row pending' now past' → good row pending' now past') :
    Ok mode settings good (Refused mode process request principal) (transition invocation move) pending db past := by
  refine ok_transition draft.rest ?_ ?_ (fun _ _ _ _ stale _ _ _ onward => draft.creating.refused stale.ordinary onward)
    (fun _ _ _ _ ordinary _ onward => draft.creating.refused ordinary onward)
  · rintro _ state steady (rfl | impossible)
    · exact absurd steady early
    · exact impossible.elim
  intro now before row pending' past' agree inv rest moved onward
  have was : before = invocation := Option.some.inj (moved.was.symm.trans (draft.owned.follow agree).2)
  have becomes : row = invocation.advance ((move.columns invocation.toInvocationProgress).into move.toState) :=
    was ▸ moved.becomes
  have id : row.id = invocation.id := by rw [becomes,ToolInvocation.advance_id]
  have owned := moved.owned
  obtain ⟨event,own,rfl⟩ := moved.writes
  refine follows now row _ past' agree onward (by rw [becomes]; rfl) ?_
  exact {
    creating := draft.creating.onward onward
    rest
    owned := by
      rw [id]
      exact owned
    absent := by
      rw [id,(agree.invocation invocation.id draft.owned.1).1]
      exact draft.absent
    snapshot := by rw [becomes,ToolInvocation.advance_snapshot,draft.snapshot]
    unreceived := by rw [becomes,ToolInvocation.advance_approvalsReceived,draft.unreceived]
    checked := ((rest.here inv invocation.id).coherent row owned.2).checked
    alone := fun other different row' => by
      rw [id] at different
      simp [draft.alone other different,Write.onRow,Ne.symm different]
    undecided := fun other => by simp [draft.undecided other,Write.approvalsOn]}

theorem approvals_expected (checked : row.violation = none) : 1 ≤ row.minApprovals := by
  have held := firstBroken_eq_none.mp checked (.minApprovals,decide (1 ≤ row.minApprovals))
    (by simp [ToolInvocation.checks])
  exact of_decide_eq_true held

theorem Drafting.commit {snapshot : InvocationSnapshot} {rest : Unit → Service α}
    {good : α → List Write → Db → List (Happening runtime) → Prop}
    {bad : Fault → List Write → Db → List (Happening runtime) → Prop}
    (draft : Drafting mode settings process request principal snapshot invocation pending db past)
    (steady : invocation.state.Steady)
    (admitted : invocation.state ≠ .rejected → ∃ definition, Admitted process request past invocation definition)
    (ok : ∀ now, Ok mode settings good bad (rest ()) [] (view now pending) (past ++ [.commit pending now])) :
    Ok mode settings good bad (Program.commitNow >>= rest) pending db past := by
  refine ok_commit fun now agree inv => ⟨fun other => ⟨((draft.rest now agree inv) other).unbounded,?_⟩,?_,ok now⟩
  · have absent : now.invocations.lookup invocation.id = none :=
      (agree.invocation invocation.id draft.owned.1).1.trans draft.absent
    have here := (draft.owned.follow agree).2
    by_cases same : other = invocation.id
    · subst same
      have undecided : (view now pending).approvalsOf invocation.id = [] := by
        rw [view_approvalsOf,draft.undecided,(inv.absent invocation.id absent).2]
        rfl
      constructor
      · intro row present
        cases Option.some.inj (here.symm.trans present)
        exact steady
      · simp [undecided]
      · intro changed
        rw [undecided,(inv.absent invocation.id absent).2] at changed
        exact absurd rfl changed
      · intro _ row present awaiting
        cases Option.some.inj (here.symm.trans present)
        have expected := approvals_expected draft.checked
        have none : approverCount [] = 0 := rfl
        rw [undecided,none]
        exact ⟨draft.unreceived,by omega⟩
      · simp [absent]
    · refine Final.untouched inv ?_ ?_
      · rw [view_lookup,draft.alone other same]
      · rw [view_approvalsOf,draft.undecided,List.append_nil]
  · exact {
      moved := by
        intro id row row' present present' changed
        obtain ⟨row'',there,_,moved⟩ := (draft.rest now agree inv id).kept row present
        cases Option.some.inj (there.symm.trans present')
        exact (moved changed).elim
      created := by
        intro id row missing present accepted
        by_cases same : id = invocation.id
        · subst same
          cases Option.some.inj ((draft.owned.follow agree).2.symm.trans present)
          obtain ⟨definition,granted⟩ := admitted accepted
          exact ⟨process,request,principal,definition,draft.creating.began,granted⟩
        · rw [view_lookup,draft.alone id same,missing] at present
          cases present
      replayed := fun key existing seen member => absurd member (draft.creating.unfound key existing seen)}

theorem find_live (inv : Inv mode settings db) (key : String) (existing : ToolInvocation) :
    (db.invocations.entries.map (·.2)).find? (fun row => row.LiveUnder key) = some existing ↔
      ∃ id, db.invocations.lookup id = some existing ∧ existing.LiveUnder key := by
  constructor
  · intro found
    have live := List.find?_some found
    obtain ⟨entry,member,same⟩ := List.mem_map.mp (List.mem_of_find?_eq_some found)
    subst same
    exact ⟨entry.1,AList.mem_lookup_iff.mpr member,of_decide_eq_true live⟩
  · rintro ⟨id,present,live⟩
    cases found : (db.invocations.entries.map (·.2)).find? (fun row => row.LiveUnder key) with
    | none =>
      refine absurd live ?_
      simpa using List.find?_eq_none.mp found existing
        (List.mem_map.mpr ⟨⟨id,existing⟩,AList.mem_lookup_iff.mp present,rfl⟩)
    | some other =>
      have live' : other.LiveUnder key := by simpa using List.find?_some found
      obtain ⟨entry,member,same⟩ := List.mem_map.mp (List.mem_of_find?_eq_some found)
      have there := AList.mem_lookup_iff.mpr member
      have same' := inv.unique id entry.1 existing entry.2 key present there live.1 (same ▸ live'.1)
      rw [← same',present] at there
      exact congrArg some (same.symm.trans (Option.some.inj there).symm)

def Looked (past : List (Happening runtime)) (key : String) (existing : ToolInvocation) : Prop :=
  ∀ key' existing' seen, .call (.selectForKey key') (some existing') seen ∈ past → key' = key ∧ existing' = existing

theorem ok_existingForKey {good : Option ToolInvocation → List Write → Db → List (Happening runtime) → Prop}
    {digest : String} (creating : Creating process request principal past) (uncommitted : Uncommitted past)
    (bound : requestDigest process request = some digest)
    (fresh : ∀ now past', Agree (locksOf []) db now → Creating process request principal past' → past <+: past' →
      good none [] now past')
    (replay : ∀ now key existing past', Began past' (.create process request principal) → Looked past' key existing →
      existing.envelopeDigest = digest → good (some existing) [] now past') :
    Ok mode settings good (Refused mode process request principal)
      (ToolInvocationService.existingForKey request digest) [] db past := by
  unfold ToolInvocationService.existingForKey
  cases request.idempotencyKey with
  | none => exact fresh db past (.refl _ db) creating (List.prefix_refl _)
  | some key =>
    dsimp only
    split
    · exact fresh db past (.refl _ db) creating (List.prefix_refl _)
    refine ok_step (.selectForKey key) fun now agree inv _ _ reply new answered => ?_
    simp only [exec,Option.some.injEq,Prod.mk.injEq] at answered
    obtain ⟨rfl,rfl⟩ := answered
    refine ⟨⟨uncommitted,find_live inv key⟩,?_⟩
    have began : ∀ reply, Began (past ++ [.call (.selectForKey key) reply now]) (.create process request principal) := by
      intro reply
      have began := creating.began
      unfold Began at began ⊢
      simp [began]
    have looked : ∀ existing, Looked (past ++ [.call (.selectForKey key) (some existing) now]) key existing := by
      intro existing key' existing' seen member
      rcases List.mem_append.mp member with old | new
      · exact absurd old (creating.unfound key' existing' seen)
      · cases List.mem_singleton.mp new
        exact ⟨rfl,rfl⟩
    generalize (List.find? _ _ : Option ToolInvocation) = reply
    cases reply with
    | none =>
      refine fresh now _ agree ⟨began none,?_⟩ (List.prefix_append _ _)
      intro key' existing seen member
      rcases List.mem_append.mp member with old | new
      · exact creating.unfound key' existing seen old
      · cases List.mem_singleton.mp new
    | some existing =>
      dsimp only
      split
      · rename_i same
        exact replay now key existing _ (began _) (looked existing) same
      · rename_i different
        refine ⟨began _,?_,?_,?_⟩
        · rintro _ ⟨⟩
        · intro key' existing' seen member same
          obtain ⟨rfl,rfl⟩ := looked existing key' existing' seen member
          exact absurd (Option.some.inj (same.symm.trans bound)) different
        · intro key' existing' seen member _
          obtain ⟨rfl,rfl⟩ := looked existing key' existing' seen member
          rfl

/-- What is known of a target once the lookup it may need has been made. -/
structure Resolved (request : InvocationRequest) (past : List (Happening runtime)) (target : TargetFacts) : Prop where
  kind : target.kind = ToolInvocationService.requestedKind request
  other : target.kind ≠ .asset → target.assetId = none ∧ request.targetAssetId = none
  asset : target.kind = .asset → target.found = true → ∃ asset seen,
    .call (.getAsset asset.id) (some asset) seen ∈ past ∧ request.targetAssetId = some asset.id ∧
      target.assetId = some asset.id ∧ target.assetType = asset.assetType ∧
      target.lifecycleState = asset.lifecycleState.value

theorem ok_resolveTarget {good : TargetFacts → List Write → Db → List (Happening runtime) → Prop}
    {bad : Fault → List Write → Db → List (Happening runtime) → Prop}
    (follows : ∀ now target past', Agree (locksOf []) db now → Onward past past' → Resolved request past' target →
      good target [] now past') :
    Ok mode settings good bad (ToolInvocationService.resolveTarget request) [] db past := by
  unfold ToolInvocationService.resolveTarget
  cases named : request.targetAssetId with
  | some assetId =>
    refine ok_read (.getAsset assetId) trivial fun now agree inv _ reply read => ?_
    simp only [exec,Option.some.injEq,Prod.mk.injEq,and_true] at read
    refine follows now _ _ agree (.one (.getAsset assetId) trivial reply now) ?_
    cases reply with
    | none =>
      exact ⟨by simp [ToolInvocationService.targetFacts,ToolInvocationService.requestedKind,named],
        by simp [ToolInvocationService.targetFacts],by simp [ToolInvocationService.targetFacts]⟩
    | some asset =>
      have same : asset.id = assetId := inv.keyed.asset assetId asset read
      refine ⟨by simp [ToolInvocationService.targetFacts,ToolInvocationService.requestedKind,named],
        by simp [ToolInvocationService.targetFacts],fun _ _ => ⟨asset,now,?_,?_,rfl,rfl,rfl⟩⟩
      · rw [same]
        exact List.mem_append_right _ (.head _)
      · rw [same]
        exact named
  | none =>
    dsimp only
    cases given : truthy request.targetRef with
    | some targetRef =>
      exact follows db _ past (.refl _ db) .refl
        ⟨by simp [ToolInvocationService.requestedKind,named,given],fun _ => ⟨rfl,named⟩,by simp⟩
    | none =>
      exact follows db _ past (.refl _ db) .refl
        ⟨by simp [ToolInvocationService.requestedKind,named,given],fun _ => ⟨rfl,named⟩,by simp⟩

/-- The context of a `create` that has resolved its target. -/
def resolvedContext (process : Process runtime) (settings : Settings) (request : InvocationRequest)
    (principal : Principal) (registration : ToolRegistration) (target : TargetFacts) (moment : Time) : PolicyContext :=
  {ToolInvocationService.requestContext runtime request principal process settings registration
    {kind := ToolInvocationService.requestedKind request, found := false} moment with target}

section

variable {registration : ToolRegistration} {target : TargetFacts} {moment : Time}

theorem Resolved.accepted (resolved : Resolved request past target)
    (passed : PolicyEngine.checkTarget definition target = none) : target.assetId = request.targetAssetId ∧
      ∀ assetId, target.assetId = some assetId → ∃ asset seen, .call (.getAsset assetId) (some asset) seen ∈ past ∧
        asset.lifecycleState = .active ∧ asset.assetType ∈ definition.targetAssetTypes := by
  by_cases kind : target.kind = .asset
  · obtain ⟨found,_,active,accepted⟩ := checkTarget_asset passed kind
    obtain ⟨asset,seen,asked,named,known,type,state⟩ := resolved.asset kind found
    refine ⟨known.trans named.symm,?_⟩
    intro assetId same
    cases Option.some.inj (known.symm.trans same)
    exact ⟨asset,seen,asked,lifecycle_active (state ▸ active),type ▸ accepted⟩
  · obtain ⟨unknown,unnamed⟩ := resolved.other kind
    exact ⟨unknown.trans unnamed.symm,by simp [unknown]⟩

theorem requestDigest_passed {decision : PolicyDecision} (resolved : Resolved request past target)
    (passed : Passed (resolvedContext process settings request principal registration target moment) decision definition) :
    requestDigest process request = some (envelopeDigest runtime (buildEnvelope runtime definition
      decision.canonicalInput (buildTargetBlock target.kind target.assetId request.targetRef))) := by
  have declared : process.getDefinition request.toolName request.toolVersion = some definition := passed.declared
  have validated : definition.inputModel.modelValidate request.arguments = .valid decision.canonicalInput :=
    passed.validated
  unfold requestDigest
  simp only [declared,validated]
  rw [resolved.kind,(resolved.accepted passed.target).1]

theorem admitted {decision : PolicyDecision} {digest : String} (resolved : Resolved request past target)
    (passed : Passed (resolvedContext process settings request principal registration target moment) decision definition)
    (bound : requestDigest process request = some digest) {envelope : JsonObject}
    (snapshot : row.toInvocationSnapshot = ToolInvocationService.acceptedSnapshot runtime request principal registration
      decision target envelope digest) (more : past <+: past') : Admitted process request past' row definition := by
  have digested := Option.some.inj ((requestDigest_passed resolved passed).symm.trans bound)
  constructor
  · exact passed.declared
  · rw [snapshot]
    exact ⟨rfl,rfl⟩
  · rw [snapshot]
    exact congrArg ApprovalPolicy.asSnapshot passed.policy
  · unfold ExecutionDispatcher.recomputedDigest
    rw [snapshot]
    simp only [ToolInvocationService.acceptedSnapshot]
    rw [← digested]
    unfold buildTargetBlock
    rw [truthy_truthy]
  · intro assetId named
    rw [snapshot] at named
    obtain ⟨asset,seen,asked,rest⟩ := (resolved.accepted passed.target).2 assetId named
    exact ⟨asset,seen,more.subset asked,rest⟩

/-- `REQUESTED -> AUTHORIZED ->` the state that the row is first committed in. -/
theorem ok_advance {good : ToolInvocation → List Write → Db → List (Happening runtime) → Prop}
    {snapshot : InvocationSnapshot} {decision : PolicyDecision}
    (draft : Drafting mode settings process request principal snapshot invocation pending db past)
    (requested : invocation.state = .requested)
    (follows : ∀ now row pending' past', past <+: past' → row.state.Steady →
      Drafting mode settings process request principal snapshot row pending' now past' → good row pending' now past') :
    Ok mode settings good (Refused mode process request principal)
      (ToolInvocationService.advance principal invocation decision) pending db past := by
  unfold ToolInvocationService.advance
  refine Spec.ok_bind (ok_moveDraft draft (by rw [requested]; decide) ?_)
  intro now row pending' past' _ onward state draft
  have state : row.state = .authorized := state
  have early : ¬ row.state.Steady := by
    rw [state]
    decide
  split
  · refine ok_moveDraft draft early ?_
    intro now row pending'' past'' _ onward' state draft
    have state : row.state = .awaitingApproval := state
    exact follows now row pending'' past'' (onward.trans onward').more (by rw [state]; decide) draft
  · refine ok_moveDraft draft early ?_
    intro now row pending'' past'' _ onward' state draft
    have state : row.state = .ready := state
    exact follows now row pending'' past'' (onward.trans onward').more (by rw [state]; decide) draft

end

/-- The commit of a `create` that found the row it asks for. -/
theorem ok_replay {rest : Unit → Service α} {good : α → List Write → Db → List (Happening runtime) → Prop}
    {bad : Fault → List Write → Db → List (Happening runtime) → Prop} {key : String} {existing : ToolInvocation}
    (began : Began past (.create process request principal)) (looked : Looked past key existing)
    (bound : requestDigest process request = some existing.envelopeDigest)
    (ok : ∀ now, Ok mode settings good bad (rest ()) [] now (past ++ [.commit [] now])) :
    Ok mode settings good bad (Program.commitNow >>= rest) [] db past := by
  refine ok_commit fun now agree inv => ⟨fun other => ⟨?_,?_⟩,?_,ok now⟩
  · exact (Rest.start now : Rest mode settings (fun _ _ _ => True) [] now).here inv other
  · exact Final.untouched inv rfl rfl
  · exact {
      moved := by
        intro id row row' present present' changed
        cases Option.some.inj (present.symm.trans present')
        exact absurd rfl changed
      created := by
        intro id row missing present
        cases missing.symm.trans present
      replayed := by
        intro key' existing' seen member
        obtain ⟨_,rfl⟩ := looked key' existing' seen member
        exact ⟨rfl,process,request,principal,began,bound⟩}

theorem answered_replay {key : String} {existing : ToolInvocation} (looked : Looked past key existing)
    (bound : requestDigest process request = some existing.envelopeDigest) :
    Answered mode process request past (.ok (.invocation existing)) where
  unbroken := by simp
  replayed := by
    intro key' existing' seen member _
    rw [(looked key' existing' seen member).2]
  refused := by
    intro key' existing' seen member different
    rw [(looked key' existing' seen member).2] at different
    exact absurd bound different

theorem Looked.commit {key : String} {existing : ToolInvocation} (looked : Looked past key existing)
    (writes : List Write) (db : Db) : Looked (past ++ [.commit writes db]) key existing :=
  fun key' existing' seen member => looked key' existing' seen (by simpa using member)

theorem Creating.commit (creating : Creating process request principal past) (writes : List Write) (db : Db) :
    Creating process request principal (past ++ [.commit writes db]) where
  began := creating.began.committed writes db
  unfound := fun key existing seen member => creating.unfound key existing seen (by simpa using member)

theorem ok_accept (creating : Creating process request principal past) (uncommitted : Uncommitted past) {registration : ToolRegistration}
    {target : TargetFacts} {moment : Time} {decision : PolicyDecision} (resolved : Resolved request past target)
    (passed : Passed (resolvedContext process settings request principal registration target moment) decision definition) :
    Ok mode settings (Returned mode process request principal) (Refused mode process request principal)
      (do
        let invocation ← ToolInvocationService.accept runtime request principal registration decision
          (resolvedContext process settings request principal registration target moment)
        Program.commitNow
        return invocation) [] db past := by
  have declared := passed.declared
  have bound := requestDigest_passed resolved passed
  unfold ToolInvocationService.accept
  rw [declared]
  refine Spec.ok_bind (Spec.ok_bind (ok_existingForKey creating uncommitted bound ?_ ?_))
  · intro now past' agree creating more
    unfold ToolInvocationService.persist
    refine Spec.ok_bind (ok_creation creating ?_)
    intro later row event past'' agree' onward requested draft
    refine ok_advance draft requested ?_
    intro last row' pending past''' more' steady draft
    refine draft.commit steady (fun _ => ⟨definition,admitted resolved passed bound draft.snapshot ?_⟩) ?_
    · exact more.trans (onward.more.trans more')
    · intro now
      have creating := draft.creating.commit pending now
      exact ⟨creating.began,creating.answered (by simp)⟩
  · intro now key existing past' began looked same
    have bound := same ▸ bound
    refine ok_replay began looked bound fun later => ?_
    exact ⟨began.committed _ _,answered_replay (looked.commit _ _) bound⟩

theorem ok_reject (creating : Creating process request principal past) (registration : ToolRegistration)
    (decision : PolicyDecision) :
    Ok mode settings (Returned mode process request principal) (Refused mode process request principal)
      (do
        let invocation ← ToolInvocationService.reject request principal registration decision
        Program.commitNow
        throw (ToolInvocationService.refusal request invocation decision)) [] db past := by
  unfold ToolInvocationService.reject
  refine Spec.ok_bind (ok_creation creating ?_)
  intro now row event past' _ _ requested draft
  refine ok_moveDraft draft (by rw [requested]; decide) ?_
  intro later row' pending past'' _ _ state draft
  have state : row'.state = .rejected := state
  refine draft.commit (by rw [state]; decide) (fun accepted => absurd state accepted) ?_
  intro last
  have creating := draft.creating.commit pending last
  exact ⟨creating.began,creating.answered (by simp [ToolInvocationService.refusal])⟩

theorem ok_create (process : Process runtime) (request : InvocationRequest) (principal : Principal) (db : Db) :
    Ok mode settings (Returned mode process request principal) (Refused mode process request principal)
      (ToolInvocationService.create runtime request principal process settings) [] db
      [.start (.create process request principal)] := by
  have creating : Creating process request principal [.start (.create process request principal)] := ⟨rfl,by simp⟩
  unfold ToolInvocationService.create ToolInvocationService.registration
  refine Spec.ok_bind (ok_read (.selectRegistration request.toolName request.toolVersion) trivial
    fun first _ _ _ reply _ => ?_)
  have uncommitted : Uncommitted [.start (.create process request principal)] := by simp [Uncommitted]
  have uncommitted := uncommitted.onward (.one (.selectRegistration _ _) trivial reply first)
  have creating := creating.onward (.one (.selectRegistration _ _) trivial reply first)
  cases reply with
  | none => exact creating.refused (by simp [Fault.Ordinary]) .refl
  | some registration =>
    refine ok_read .utcNow trivial fun second _ _ _ moment _ => ?_
    have uncommitted := uncommitted.onward (.one .utcNow trivial moment second)
    have creating := creating.onward (.one .utcNow trivial moment second)
    dsimp only
    split
    · rename_i denial refused
      rw [Program.pure_eq,Program.done_bind]
      dsimp only
      rw [if_neg (by simp [evaluatePrerequisites_denies refused])]
      exact ok_reject creating registration denial
    · refine Spec.ok_bind (ok_resolveTarget ?_)
      intro now target past' _ onward resolved
      have creating := creating.onward onward
      rw [Program.pure_eq,Program.done_bind]
      dsimp only
      split
      · rename_i allowed
        obtain ⟨definition,passed⟩ := evaluate_allowed allowed
        exact ok_accept creating (uncommitted.onward onward) resolved passed
      · exact ok_reject creating registration _

end

end Acop
