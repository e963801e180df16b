import Acop.Completion

/-! The execution path: the claim and its commit, the final gate, the attempts at
the adapter, and the outcome, each recorded under the lease. -/
namespace Acop

open Acop.Transaction

section

variable {mode : Mode} {runtime : Runtime} {settings : Settings} {process : Process runtime} {pending : List Write}
  {db now : Db} {past past' : List (Happening runtime)} {op : Op runtime} {id leaseId : Uuid}
  {invocation row : ToolInvocation} {definition : ToolDefinition} {α : Type}

theorem Allowed.grown (allowed : Allowed process past id row definition) {row' : ToolInvocation}
    (same : row'.toInvocationSnapshot = row.toInvocationSnapshot) : Allowed process past id row' definition := by
  obtain ⟨declared,intact,approved⟩ := allowed
  constructor
  · rw [same]
    exact declared
  · unfold ExecutionDispatcher.recomputedDigest at intact ⊢
    rw [same]
    exact intact
  · unfold approvalFailure at approved ⊢
    rw [same]
    exact approved

theorem Allowed.more (allowed : Allowed process past id row definition) (more : past <+: past') :
    Allowed process past' id row definition := {allowed with
  approved := by
    intro required
    obtain ⟨rows,seen,moment,seen',there,rest⟩ := allowed.approved required
    exact ⟨rows,seen,moment,seen',there.trans more.isInfix,rest⟩}

theorem gateDefinition_none {registration : Option ToolRegistration}
    (passed : ExecutionDispatcher.gateDefinition runtime invocation registration definition = none) :
    ExecutionDispatcher.recomputedDigest runtime definition invocation = invocation.envelopeDigest := by
  unfold ExecutionDispatcher.gateDefinition at passed
  cases registration with
  | none => cases passed
  | some registration =>
    dsimp only at passed
    split at passed
    · cases passed
    · cases passed
    split at passed
    · cases passed
    split at passed
    · cases passed
    rename_i intact
    exact not_not.mp intact

theorem ok_finalGate {good : ExecutionDispatcher.GateResult → List Write → Db → List (Happening runtime) → Prop}
    {bad : Fault → List Write → Db → List (Happening runtime) → Prop} (own : invocation.id = id)
    (judged : ∀ gate now past', Agree (locksOf []) db now → Onward past past' →
      (∀ definition, gate.definition = some definition →
        gate.reason = .allowed ∧ Allowed process past' id invocation definition) → good gate [] now past') :
    Ok mode settings good bad (ExecutionDispatcher.finalGate process invocation) [] db past := by
  unfold ExecutionDispatcher.finalGate
  have denied : ∀ reason now past', Agree (locksOf []) db now → Onward past past' →
      good (.deny reason) [] now past' := by
    intro reason now past' agree onward
    exact judged _ now past' agree onward (by simp [ExecutionDispatcher.GateResult.deny])
  cases declared : process.getDefinition invocation.toolName invocation.toolVersion with
  | none => exact denied _ db past (.refl _ db) .refl
  | some definition =>
    refine ok_read (.getRegistration _) trivial fun first agree _ _ registration _ => ?_
    have onward : Onward past _ := .one (.getRegistration invocation.toolRegistrationId) trivial registration first
    cases checked : ExecutionDispatcher.gateDefinition runtime invocation registration definition with
    | some reason => exact denied _ first _ agree onward
    | none =>
      have intact := gateDefinition_none checked
      by_cases required : invocation.approvalRequired = true
      · simp only [required,if_true]
        refine ok_read (.approvedRows invocation.id) trivial fun second agree' _ _ rows read => ?_
        refine ok_read .utcNow trivial fun third agree'' _ _ moment _ => ?_
        have all := agree.trans (agree'.trans agree'')
        have onward' := onward.trans ((Onward.one (.approvedRows invocation.id) trivial rows second).trans
          (.one .utcNow trivial moment third))
        cases failure : approvalFailure invocation rows moment with
        | some reason => exact denied _ third _ all onward'
        | none =>
          refine judged _ third _ all onward' ?_
          rintro _ ⟨⟩
          refine ⟨rfl,declared,intact,fun _ => ⟨rows,second,moment,third,?_,?_,failure⟩⟩
          · rw [← own]
            exact ⟨past ++ [.call (.getRegistration invocation.toolRegistrationId) registration first],[],by simp⟩
          · simp only [exec,Option.some.injEq,Prod.mk.injEq,and_true] at read
            rw [← read,own]
            rfl
      · simp only [required]
        refine judged _ first _ agree onward ?_
        rintro _ ⟨⟩
        exact ⟨rfl,declared,intact,fun needed => absurd needed required⟩

/-- The second transaction once the gate is recorded: the claimed row is locked and
committed as `EXECUTING`. -/
structure Leased (mode : Mode) (settings : Settings) (process : Process runtime) (id : Uuid) (before : ToolInvocation)
    (pending : List Write) (db : Db) (past : List (Happening runtime)) : Prop where
  working : Working mode settings (.executeOnce process id) id pending db past
  upkeep : Upkeep pending
  lock : .invocation id ∈ locksOf pending
  committed : db.invocations.lookup id = some before
  running : before.state = .executing

/-- What a history holds in favour of an execution. -/
structure Cleared (process : Process runtime) (past : List (Happening runtime)) (id leaseId : Uuid)
    (before : ToolInvocation) (definition : ToolDefinition) : Prop where
  allowed : Allowed process past id before definition
  claimed : ∃ writes seen, .commit writes seen ∈ past ∧ Claims id leaseId writes seen
  gated : ∃ eventId seen, .call (.recordGate id leaseId .allow .allowed eventId) (.ok true) seen ∈ past

variable {before : ToolInvocation}

theorem Cleared.more (cleared : Cleared process past id leaseId before definition) (more : past <+: past') :
    Cleared process past' id leaseId before definition where
  allowed := cleared.allowed.more more
  claimed := by
    obtain ⟨writes,seen,member,claims⟩ := cleared.claimed
    exact ⟨writes,seen,more.subset member,claims⟩
  gated := by
    obtain ⟨eventId,seen,member⟩ := cleared.gated
    exact ⟨eventId,seen,more.subset member⟩

theorem Working.asked (working : Working mode settings op id pending db past) (agree : Agree (locksOf pending) db now)
    (stmt : Stmt) (other : ∀ key, stmt ≠ .selectForKey key) (reply : Reply stmt) :
    Working mode settings op id pending now (past ++ [.call stmt reply now]) where
  began := by
    have began := working.began
    unfold Began at began ⊢
    simp [began]
  unasked := by
    intro key reply' seen member
    rcases List.mem_append.mp member with old | new
    · exact working.unasked key reply' seen old
    · cases List.mem_singleton.mp new
      exact other key rfl
  rest := working.rest.follow agree
  about := working.about

theorem Leased.asked (leased : Leased mode settings process id before pending db past)
    (agree : Agree (locksOf pending) db now) (stmt : Stmt) (other : ∀ key, stmt ≠ .selectForKey key)
    (reply : Reply stmt) : Leased mode settings process id before pending now (past ++ [.call stmt reply now]) where
  working := leased.working.asked agree stmt other reply
  upkeep := leased.upkeep
  lock := leased.lock
  committed := (agree.invocation id leased.lock).1.trans leased.committed
  running := leased.running

theorem Leased.onward (leased : Leased mode settings process id before pending db past)
    (agree : Agree (locksOf pending) db now) (onward : Onward past past') :
    Leased mode settings process id before pending now past' where
  working := {
    began := onward.began leased.working.began
    unasked := leased.working.unasked.onward onward
    rest := leased.working.rest.follow agree
    about := leased.working.about}
  upkeep := leased.upkeep
  lock := leased.lock
  committed := (agree.invocation id leased.lock).1.trans leased.committed
  running := leased.running

theorem Leased.began (leased : Leased mode settings process id before pending db past) :
    Began past (.executeOnce process id) := leased.working.began

theorem ok_leased {good : α → List Write → Db → List (Happening runtime) → Prop}
    {bad : Fault → List Write → Db → List (Happening runtime) → Prop} (stmt : Stmt) (plain : stmt.Plain)
    {rest : Reply stmt → Service α} (leased : Leased mode settings process id before pending db past)
    (ok : ∀ now reply, Agree (locksOf pending) db now →
      Leased mode settings process id before pending now (past ++ [.call stmt reply now]) →
      Ok mode settings good bad (rest reply) pending now (past ++ [.call stmt reply now])) :
    Ok mode settings good bad (query stmt >>= rest) pending db past := by
  refine ok_read stmt plain fun now agree _ _ reply _ => ok now reply agree (leased.asked agree stmt ?_ reply)
  rintro key rfl
  exact plain

theorem ok_progress {good : ToolInvocation → List Write → Db → List (Happening runtime) → Prop} {move : Transition}
    (leased : Leased mode settings process id before pending db past) (owned : Owned pending db id invocation)
    (own : invocation.id = id) (inFlight : invocation.state = .executing ∨ ¬ invocation.state.Steady)
    (follows : ∀ now row pending' past', Leased mode settings process id before pending' now past' →
      Owned pending' now id row → row.id = id → row.state = move.toState → good row pending' now past') :
    Ok mode settings good (Belonging (.executeOnce process id)) (transition invocation move) pending db past := by
  refine ok_transition leased.working.rest ?_ ?_ (fun _ _ _ _ _ _ _ _ onward => onward.began leased.began)
    (fun _ _ _ _ _ _ onward => onward.began leased.began)
  · rintro _ state steady (rfl | reached)
    · exact ⟨own,.inr (inFlight.resolve_right (not_not.mpr steady))⟩
    · exact reached
  intro now found row pending' past' agree inv rest moved onward
  obtain ⟨new,rfl,upkeep,_⟩ := moved.upkeep
  have keyed : row.id = id := by
    have same := moved.was
    rw [own,(owned.follow agree).2] at same
    cases Option.some.inj same
    rw [moved.becomes]
    exact own
  refine follows now row _ past' ?_ (own ▸ moved.owned) keyed (by rw [moved.becomes]; rfl)
  exact {
    working := moved.working leased.working own rest onward
    upkeep := leased.upkeep.append upkeep
    lock := by simp [leased.lock]
    committed := (agree.invocation id leased.lock).1.trans leased.committed
    running := leased.running}

/-- A recorded outcome, or a success still to be validated. -/
structure Recorded (mode : Mode) (settings : Settings) (process : Process runtime) (id : Uuid) (before : ToolInvocation)
    (result : ToolInvocation × InvocationState) (pending : List Write) (db : Db) (past : List (Happening runtime)) :
    Prop where
  leased : Leased mode settings process id before pending db past
  owned : Owned pending db id result.1
  own : result.1.id = id
  state : result.1.state = result.2
  outcome : result.2 = .executed ∨ result.2.Steady

theorem ok_fail (leased : Leased mode settings process id before pending db past)
    (owned : Owned pending db id invocation) (own : invocation.id = id) (running : invocation.state = .executing)
    {toState : InvocationState} (steady : toState.Steady) (category : ToolErrorCategory) (reason : String) :
    Ok mode settings (Recorded mode settings process id before) (Belonging (.executeOnce process id))
      (ExecutionDispatcher.fail invocation toState category reason) pending db past := by
  unfold ExecutionDispatcher.fail
  refine ok_leased .utcNow trivial leased fun now moment agree leased => ?_
  refine Spec.ok_bind (ok_progress leased (owned.follow agree) own (.inl running) ?_)
  exact fun now row pending' past' leased owned own state => ⟨leased,owned,own,state,.inr steady⟩

theorem ok_declaredOutput {good : Option JsonObject → List Write → Db → List (Happening runtime) → Prop}
    (began : Began past op) (payload : List (PyValue × PyValue)) (follows : ∀ declared, good declared pending db past) :
    Ok mode settings good (Belonging op) (ExecutionDispatcher.declaredOutput runtime definition payload) pending db
      past := by
  unfold ExecutionDispatcher.declaredOutput
  split
  · exact follows _
  · split
    · exact follows _
    · exact began
  · exact began

theorem ok_bindJsonb {good : JsonObject → List Write → Db → List (Happening runtime) → Prop} (began : Began past op)
    (entries : List (PyValue × PyValue)) (follows : ∀ fields, good fields pending db past) :
    Ok mode settings good (Belonging op) (ExecutionDispatcher.bindJsonb runtime entries) pending db past := by
  unfold ExecutionDispatcher.bindJsonb
  split
  · exact follows _
  · exact began

theorem ok_bindHint {good : Option JsonObject → List Write → Db → List (Happening runtime) → Prop}
    (began : Began past op) (entries : List (PyValue × PyValue)) (follows : ∀ hint, good hint pending db past) :
    Ok mode settings good (Belonging op) (ExecutionDispatcher.bindHint runtime entries) pending db past := by
  unfold ExecutionDispatcher.bindHint
  split
  · exact follows _
  · exact Spec.ok_bind (ok_bindJsonb began entries fun _ => follows _)

theorem ok_recordAdapterResult (leased : Leased mode settings process id before pending db past)
    (owned : Owned pending db id invocation) (own : invocation.id = id) (running : invocation.state = .executing)
    (result : AdapterResult) :
    Ok mode settings (Recorded mode settings process id before) (Belonging (.executeOnce process id))
      (ExecutionDispatcher.recordAdapterResult runtime invocation definition result) pending db past := by
  unfold ExecutionDispatcher.recordAdapterResult
  have failed : ∀ category reason, Ok mode settings (Recorded mode settings process id before)
      (Belonging (.executeOnce process id)) (ExecutionDispatcher.fail invocation .failed category reason) pending db
      past := ok_fail leased owned own running (by decide)
  split
  · exact failed _ _
  · exact failed _ _
  · exact failed _ _
  refine Spec.ok_bind (ok_declaredOutput leased.began result.payload ?_)
  intro declared
  cases declared with
  | none => exact failed _ _
  | some declared =>
    refine Spec.ok_bind (ok_bindHint leased.began result.rollbackHint fun hint => ?_)
    refine Spec.ok_bind (ok_progress leased owned own (.inl running) ?_)
    exact fun now row pending' past' leased owned own state => ⟨leased,owned,own,state,.inl rfl⟩

theorem ok_resolvedTarget {good : ResolvedTarget → List Write → Db → List (Happening runtime) → Prop}
    (leased : Leased mode settings process id before pending db past)
    (follows : ∀ target now past', Agree (locksOf pending) db now → Onward past past' →
      Leased mode settings process id before pending now past' → good target pending now past') :
    Ok mode settings good (Belonging (.executeOnce process id)) (ExecutionDispatcher.resolvedTarget invocation) pending
      db past := by
  unfold ExecutionDispatcher.resolvedTarget
  split
  · rename_i assetId _ _
    refine ok_leased (.getAsset assetId) trivial leased fun first reply agree leased => ?_
    have onward : Onward past _ := .one (.getAsset assetId) trivial reply first
    cases reply with
    | none => exact leased.began
    | some asset =>
      refine ok_leased (.selectIdentifiers asset.id) trivial leased fun second rows agree' leased => ?_
      exact follows _ second _ (agree.trans agree') (onward.trans (.one (.selectIdentifiers asset.id) trivial rows second))
        leased
  · exact follows _ db past (.refl _ db) .refl leased

theorem ok_adapterRequest {good : AdapterRequest → List Write → Db → List (Happening runtime) → Prop}
    (leased : Leased mode settings process id before pending db past) (own : invocation.id = id)
    (follows : ∀ request now past', request.invocationId = id → Agree (locksOf pending) db now → Onward past past' →
      Leased mode settings process id before pending now past' → good request pending now past') :
    Ok mode settings good (Belonging (.executeOnce process id))
      (ExecutionDispatcher.adapterRequest invocation definition) pending db past := by
  unfold ExecutionDispatcher.adapterRequest
  refine Spec.ok_bind (ok_resolvedTarget leased ?_)
  exact fun target now past' agree onward leased => follows _ now past' own agree onward leased

/-- The attempts: every call of the adapter is one that the gate cleared, and each
but the first follows a failure that may be retried. -/
theorem ok_attempts (adapter : String) (request : AdapterRequest) (target : request.invocationId = id)
    (own : invocation.id = id) (running : invocation.state = .executing) (left : Nat) (last : ToolErrorCategory)
    (leased : Leased mode settings process id before pending db past) (owned : Owned pending db id invocation)
    (cleared : Cleared process past id leaseId before definition)
    (spent : (executed past).length + left = definition.retryPolicy.maxAttempts.toNat)
    (retried : ∀ reply ∈ executed past, ∃ category, reply = .toolError category ∧
      category ∈ definition.retryPolicy.retryOn ∧ definition.adapterIdempotent = true) :
    Ok mode settings (Recorded mode settings process id before) (Belonging (.executeOnce process id))
      (ExecutionDispatcher.attempts runtime invocation definition adapter request left last) pending db past := by
  induction left generalizing db past last with
  | zero => exact ok_fail leased owned own running (by decide) last last.value
  | succ left ih =>
    unfold ExecutionDispatcher.attempts
    refine ok_step (.adapterExecute adapter request) fun now agree _ _ _ reply new answered => ⟨?_,?_⟩
    · refine ⟨process,before,definition,leaseId,by rw [target]; exact leased.began,?_⟩
      rw [target]
      exact {
        committed := (agree.invocation id leased.lock).1.trans leased.committed
        running := leased.running
        allowed := cleared.allowed
        claimed := cleared.claimed
        gated := cleared.gated
        spent := by omega
        retried}
    have silent : new = [] := by
      simp only [exec,Option.some.injEq,Prod.mk.injEq] at answered
      exact answered.2.symm
    rw [silent,List.append_nil]
    have leased := leased.asked agree (.adapterExecute adapter request) (fun _ => by simp) reply
    have owned := owned.follow agree
    cases reply with
    | timedOut => exact ok_fail leased owned own running (by decide) _ _
    | raised => exact ok_fail leased owned own running (by decide) _ _
    | result result => exact ok_recordAdapterResult leased owned own running result
    | toolError category =>
      dsimp only
      split
      swap
      · exact ok_fail leased owned own running (by decide) _ _
      rename_i again
      refine ok_leased (.sleep _) trivial leased fun later _ agree' leased => ?_
      have replies : executed (past ++ [.call (.adapterExecute adapter request) (.toolError category) now] ++
          [.call (.sleep definition.retryPolicy.backoffSeconds) () later]) = executed past ++ [.toolError category] := by
        rw [executed_append,executed_append]
        exact List.append_nil _
      refine ih category leased (owned.follow agree') (cleared.more ?_) ?_ ?_
      · exact ⟨[.call (.adapterExecute adapter request) (.toolError category) now,
          .call (.sleep definition.retryPolicy.backoffSeconds) () later],by simp⟩
      · rw [replies,List.length_append,List.length_singleton]
        omega
      · rw [replies]
        intro reply member
        rcases List.mem_append.mp member with old | new
        · exact retried reply old
        · exact ⟨category,List.mem_singleton.mp new,again.2.2,again.2.1⟩

theorem ok_execute (own : invocation.id = id) (running : invocation.state = .executing)
    (leased : Leased mode settings process id before pending db past) (owned : Owned pending db id invocation)
    (cleared : Cleared process past id leaseId before definition) (unspent : executed past = []) :
    Ok mode settings (Recorded mode settings process id before) (Belonging (.executeOnce process id))
      (ExecutionDispatcher.execute process invocation definition) pending db past := by
  unfold ExecutionDispatcher.execute
  split
  · exact ok_fail leased owned own running (by decide) _ _
  refine Spec.ok_bind (ok_adapterRequest leased own ?_)
  intro request now past' target agree onward leased
  have unspent : executed past' = [] := onward.executed.trans unspent
  exact ok_attempts _ request target own running _ _ leased (owned.follow agree) (cleared.more onward.more)
    (by simp [unspent]) (by simp [unspent])

/-- The validation call; the row it observes for is still committed as `EXECUTING`. -/
theorem ok_validation {good : ValidationOutcome × List (PyValue × PyValue) → List Write → Db →
      List (Happening runtime) → Prop} (own : invocation.id = id)
    (leased : Leased mode settings process id before pending db past)
    (follows : ∀ observed now past', Agree (locksOf pending) db now →
      Leased mode settings process id before pending now past' → good observed pending now past') :
    Ok mode settings good (Belonging (.executeOnce process id))
      (ExecutionDispatcher.validation process invocation definition) pending db past := by
  unfold ExecutionDispatcher.validation
  split
  · exact follows _ db past (.refl _ db) leased
  rename_i adapter _
  refine Spec.ok_bind (ok_adapterRequest leased own ?_)
  intro request now past' target agree onward leased
  refine ok_step (.adapterValidate adapter request) fun later agree' _ _ _ reply new answered => ⟨?_,?_⟩
  · rw [callDuty,target]
    exact ⟨before,(agree'.invocation id leased.lock).1.trans leased.committed,leased.running⟩
  have silent : new = [] := by
    simp only [exec,Option.some.injEq,Prod.mk.injEq] at answered
    exact answered.2.symm
  rw [silent,List.append_nil]
  exact follows _ later _ (agree.trans agree') (leased.asked agree' _ (fun _ => by simp) reply)

def Finished (mode : Mode) (settings : Settings) (process : Process runtime) (id : Uuid) :
    InvocationState → List Write → Db → List (Happening runtime) → Prop :=
  fun _ => Complete mode settings (.executeOnce process id) id

theorem Leased.finished (leased : Leased mode settings process id before pending db past)
    (owned : Owned pending db id row) (steady : row.state.Steady) (state : InvocationState) :
    Finished mode settings process id state pending db past := .of_upkeep leased.working leased.upkeep owned steady

theorem ok_afterExecution (own : invocation.id = id) (executed : invocation.state = .executed)
    (leased : Leased mode settings process id before pending db past) (owned : Owned pending db id invocation) :
    Ok mode settings (Finished mode settings process id) (Belonging (.executeOnce process id))
      (ExecutionDispatcher.afterExecution process settings invocation definition) pending db past := by
  have inFlight : invocation.state = .executing ∨ ¬ invocation.state.Steady := .inr (executed ▸ by decide)
  unfold ExecutionDispatcher.afterExecution
  split
  swap
  · refine ok_leased .utcNow trivial leased fun now moment agree leased => ?_
    refine Spec.ok_bind (ok_progress leased (owned.follow agree) own inFlight ?_)
    intro later row pending' past' leased owned _ state
    have state : row.state = .succeeded := state
    exact leased.finished owned (by rw [state]; decide) _
  refine ok_leased .uuid4 trivial leased fun first lease agree leased => ?_
  refine ok_leased .utcNow trivial leased fun second moment agree' leased => ?_
  refine Spec.ok_bind (ok_progress leased ((owned.follow agree).follow agree') own inFlight ?_)
  intro third row pending' past' leased owned own state
  have state : row.state = .validating := state
  have validating : row.state = .executing ∨ ¬ row.state.Steady := .inr (by rw [state]; decide)
  have observe : ∀ now past', Agree (locksOf pending') third now →
      Leased mode settings process id before pending' now past' →
      Ok mode settings (Finished mode settings process id) (Belonging (.executeOnce process id))
        (do
          let observation ← ExecutionDispatcher.validation process row definition
          let now ← query .utcNow
          let detail ← ExecutionDispatcher.bindJsonb runtime observation.2
          if observation.1 = .confirmed then
            let _ ← releaseLease row {
              toState := .succeeded
              reason := PolicyReason.allowed.value
              columns := fun progress => {progress with
                validationOutcome := some observation.1
                validationDetail := some detail
                validatedAt := some now
                finishedAt := some now}}
            return .succeeded
          else
            let _ ← releaseLease row {
              toState := .validationFailed
              reason := ToolErrorCategory.validationFailed.value
              columns := fun progress => {progress with
                validationOutcome := some observation.1
                validationDetail := some detail
                validatedAt := some now
                finishedAt := some now
                errorCategory := some .validationFailed
                errorDetailSanitized := some ToolErrorCategory.validationFailed.phrase}}
            return .validationFailed) pending' now past' := by
    intro now past' agree leased
    refine Spec.ok_bind (ok_validation own leased ?_)
    intro observed later past'' agree' leased
    refine ok_leased .utcNow trivial leased fun last moment agree'' leased => ?_
    refine Spec.ok_bind (ok_bindJsonb leased.began observed.2 fun detail => ?_)
    have owned := ((owned.follow agree).follow agree').follow agree''
    split
    · refine Spec.ok_bind (ok_progress leased owned own validating ?_)
      intro end' closed pending'' past''' leased owned _ state
      have state : closed.state = .succeeded := state
      exact leased.finished owned (by rw [state]; decide) _
    · refine Spec.ok_bind (ok_progress leased owned own validating ?_)
      intro end' closed pending'' past''' leased owned _ state
      have state : closed.state = .validationFailed := state
      exact leased.finished owned (by rw [state]; decide) _
  split
  · refine ok_leased (.sleep _) trivial leased fun now _ agree leased => observe now _ agree leased
  · exact observe third past' (.refl _ third) leased

theorem ok_refuseAtGate (leased : Leased mode settings process id before pending db past)
    (owned : Owned pending db id invocation) (own : invocation.id = id) (running : invocation.state = .executing)
    (reason : PolicyReason) :
    Ok mode settings (Finished mode settings process id) (Belonging (.executeOnce process id))
      (ExecutionDispatcher.refuseAtGate invocation reason) pending db past := by
  unfold ExecutionDispatcher.refuseAtGate
  refine ok_leased .utcNow trivial leased fun now moment agree leased => ?_
  refine Spec.ok_bind (ok_progress leased (owned.follow agree) own (.inl running) ?_)
  intro later row pending' past' leased owned _ state
  have state : row.state = .expired := state
  exact leased.finished owned (by rw [state]; decide) _

theorem ok_runGated (gate : ExecutionDispatcher.GateResult) (own : invocation.id = id)
    (running : invocation.state = .executing) (leased : Leased mode settings process id before pending db past)
    (owned : Owned pending db id invocation) (unspent : executed past = [])
    (cleared : ∀ definition, gate.definition = some definition → Cleared process past id leaseId before definition) :
    Ok mode settings (Finished mode settings process id) (Belonging (.executeOnce process id))
      (ExecutionDispatcher.runGated process settings invocation gate) pending db past := by
  unfold ExecutionDispatcher.runGated
  cases allowed : gate.definition with
  | none => exact ok_refuseAtGate leased owned own running _
  | some definition =>
    refine Spec.ok_bind (Spec.ok_weaken ?_ (fun _ _ _ _ began => began) _ _ _ _
      (ok_execute own running leased owned (cleared definition allowed) unspent))
    rintro ⟨row,state⟩ pending' now past' recorded
    dsimp only
    split
    · rename_i executed
      exact ok_afterExecution recorded.own (recorded.state.trans executed) recorded.leased recorded.owned
    · rename_i other
      have steady : row.state.Steady := recorded.state ▸ recorded.outcome.resolve_left other
      exact recorded.leased.finished recorded.owned steady _

/-- A session that has claimed an invocation and asked no adapter yet. -/
structure Claimed (process : Process runtime) (id leaseId : Uuid) (past : List (Happening runtime)) : Prop where
  began : Began past (.executeOnce process id)
  unasked : Unasked past
  unspent : executed past = []
  claims : ∃ writes seen, .commit writes seen ∈ past ∧ Claims id leaseId writes seen

theorem Claimed.onward (claimed : Claimed process id leaseId past) (onward : Onward past past') :
    Claimed process id leaseId past' where
  began := onward.began claimed.began
  unasked := claimed.unasked.onward onward
  unspent := onward.executed.trans claimed.unspent
  claims := by
    obtain ⟨writes,seen,member,claims⟩ := claimed.claims
    exact ⟨writes,seen,onward.mem member,claims⟩

theorem recordGate_cases {decision : GateDecision} {reason : PolicyReason} {eventId : Uuid} {input : Input}
    {result : Except Constraint Bool} {new : List Write}
    (answered : exec (.recordGate id leaseId decision reason eventId) db input = some (result,new)) :
    (∃ row, db.invocations.lookup id = some row ∧ row.state = .executing ∧
      (row.advance (row.toInvocationProgress.gate decision reason input.now eventId)).violation = none ∧
      result = .ok true ∧ new = [.advance id (row.toInvocationProgress.gate decision reason input.now eventId)]) ∨
    (result = .ok false ∧ new = []) ∨ ∃ broken, result = .error broken ∧ new = [] := by
  simp only [exec] at answered
  split at answered
  · rcases updateWhere_cases (Option.some.inj answered) with ⟨row,present,matched,checked,rfl,rfl⟩ | lost |
      ⟨broken,refused,unwritten,_⟩
    · simp only [decide_eq_true_eq] at matched
      exact .inl ⟨row,present,matched.1,checked,rfl,rfl⟩
    · exact .inr (.inl lost)
    · exact .inr (.inr ⟨broken,refused,unwritten⟩)
  · cases answered
    exact .inr (.inr ⟨_,rfl,rfl⟩)

theorem Claimed.cleared (claimed : Claimed process id leaseId past) (allowed : Allowed process past id row definition)
    {gate : ExecutionDispatcher.GateResult} (passed : gate.definition = some definition)
    (reason : gate.reason = .allowed) (eventId : Uuid) (db : Db) :
    Cleared process (past ++ [.call (.recordGate id leaseId gate.decision gate.reason eventId) (.ok true) db]) id leaseId
      row definition := by
  have decision : gate.decision = .allow := by simp [ExecutionDispatcher.GateResult.decision,passed]
  obtain ⟨writes,seen,member,claims⟩ := claimed.claims
  refine ⟨allowed.more (List.prefix_append _ _),⟨writes,seen,List.mem_append_left _ member,claims⟩,eventId,db,?_⟩
  rw [decision,reason]
  exact List.mem_append_right _ (.head _)

theorem ok_runClaimed (claimed : Claimed process id leaseId past) :
    Ok mode settings (Belonging (.executeOnce process id)) (Belonging (.executeOnce process id))
      (ExecutionDispatcher.runClaimed process settings id leaseId) [] db past := by
  unfold ExecutionDispatcher.runClaimed
  refine ok_read (.getInvocation id) trivial fun first _ inv _ reply read => ?_
  have claimed := claimed.onward (.one (.getInvocation id) trivial reply first)
  simp only [exec,Option.some.injEq,Prod.mk.injEq,and_true] at read
  have present : first.invocations.lookup id = reply := read
  cases reply with
  | none => exact claimed.began
  | some invocation =>
    have own : invocation.id = id := (inv.coherent id invocation present).keyed
    refine Spec.ok_bind (ok_finalGate own ?_)
    intro gate second past' agree onward judged
    have claimed := claimed.onward onward
    have start : Working mode settings (.executeOnce process id) id [] second past' := {
      began := claimed.began
      unasked := claimed.unasked
      rest := .start second
      about := ⟨by simp [Updating],fun _ _ _ => rfl,fun _ _ => rfl,fun _ _ => rfl⟩}
    refine Spec.ok_bind (ok_note start.rest ?_ fun _ _ _ _ _ onward' => onward'.began claimed.began)
    intro third event past'' agree' inv' onward' noted about
    have told := claimed.onward onward'
    have working := start.grow noted (own ▸ about ▸ .note event) onward'
    refine Spec.ok_bind (ok_step (.recordGate id leaseId gate.decision gate.reason event.id)
      fun fourth agree'' inv'' _ input result new answered => ⟨trivial,?_⟩)
    have called := working.call agree'' (.recordGate id leaseId gate.decision gate.reason event.id) trivial result
    have asked : Onward past'' _ := .one (.recordGate id leaseId gate.decision gate.reason event.id) trivial result
      fourth
    have claimed := told.onward asked
    have still : ∀ row, (view fourth ([] ++ [.insertEvent event])).invocations.lookup id = some row →
        row.toInvocationSnapshot = invocation.toInvocationSnapshot := by
      intro row there
      have seen : Agree (locksOf []) first fourth :=
        agree.trans (agree'.trans (agree''.mono (by simp)))
      obtain ⟨row',found,grown⟩ := seen.kept id invocation present
      cases Option.some.inj (there.symm.trans found)
      exact grown.snapshot
    rcases recordGate_cases answered with ⟨row,there,running,checked,rfl,rfl⟩ | ⟨rfl,rfl⟩ | ⟨broken,rfl,rfl⟩
    · -- the lease is held: the gate's verdict is written under it
      have gated : Rest mode settings (Op.May (.executeOnce process id)) (([] ++ [.insertEvent event]) ++
          [.advance id (row.toInvocationProgress.gate gate.decision gate.reason input.now event.id)]) fourth :=
        called.rest.gate there rfl (by rw [running]; decide) checked
      have leased : Leased mode settings process id row _ fourth _ := {
        working := called.grow gated (.advance id _) .refl
        upkeep := by simp [Upkeep]
        lock := by simp [Write.locks]
        committed := there
        running}
      have owned : Owned (([] ++ [.insertEvent event]) ++
          [.advance id (row.toInvocationProgress.gate gate.decision gate.reason input.now event.id)]) fourth id
          (row.advance (row.toInvocationProgress.gate gate.decision gate.reason input.now event.id)) := by
        refine ⟨leased.lock,?_⟩
        rw [rowAfter_append_view,there]
        simp [Write.onRow]
      refine Spec.ok_bind (ok_refresh ?_ fun _ _ _ _ _ onward'' => onward''.began claimed.began)
      intro fifth row' past''' agree''' _ onward'' found
      have owned := owned.follow agree'''
      rw [own] at found
      cases Option.some.inj (found.symm.trans owned.2)
      have cleared : ∀ definition, gate.definition = some definition →
          Cleared process past''' id leaseId row definition := by
        intro definition passed
        obtain ⟨reason,allowed⟩ := judged definition passed
        have allowed := (allowed.grown (still row there)).more onward'.more
        exact (told.cleared allowed passed reason event.id fourth).more onward''.more
      refine Spec.ok_bind (Spec.ok_weaken ?_ (fun _ _ _ _ began => began) _ _ _ _
        (ok_runGated gate ?_ running (leased.onward agree''' onward'') owned (claimed.onward onward'').unspent cleared))
      · exact fun state pending now past finished => finished.commit fun _ _ _ => finished.working.began.committed _ _
      · exact (inv''.coherent id row there).keyed
    · rw [List.append_nil]
      refine Spec.ok_bind (ok_refresh ?_ fun _ _ _ _ _ onward'' => onward''.began claimed.began)
      intro fifth row past''' agree''' _ onward'' _
      have complete : Complete mode settings (.executeOnce process id) id _ fifth past''' :=
        .of_notes {called with
          began := onward''.began called.began
          unasked := called.unasked.onward onward''
          rest := called.rest.follow agree'''} (fun _ => rfl) rfl
      exact complete.commit fun _ _ _ => complete.working.began.committed _ _
    · exact claimed.began

theorem ok_claimForExecution {good : Bool → List Write → Db → List (Happening runtime) → Prop}
    {leaseExpiresAt deadlineAt : Time} (working : Working mode settings (.executeOnce process id) id [] db past)
    (won : ∀ now pending past', Complete mode settings (.executeOnce process id) id pending now past' →
      executed past' = executed past → (∀ later, Agree (locksOf pending) now later → Claims id leaseId pending later) →
      good true pending now past')
    (lost : ∀ now past', Agree (locksOf []) db now → Working mode settings (.executeOnce process id) id [] now past' →
      good false [] now past') :
    Ok mode settings good (Belonging (.executeOnce process id))
      (claimForExecution id leaseId leaseExpiresAt deadlineAt) [] db past := by
  unfold claimForExecution
  refine ok_read .utcNow trivial fun first agree _ _ moment _ => ?_
  have working := working.call agree .utcNow trivial moment
  refine ok_step (.claimReady id leaseId leaseExpiresAt deadlineAt moment) fun second agree' inv _ _ result new
    answered => ?_
  have working := working.asked agree' (.claimReady id leaseId leaseExpiresAt deadlineAt moment) (by simp) result
  have silent : executed (past ++ [.call .utcNow moment first] ++ [.call (.claimReady id leaseId leaseExpiresAt
      deadlineAt moment) result second]) = executed past := by
    rw [executed_append,executed_append]
    exact (List.append_nil _).trans (List.append_nil _)
  rcases updateWhere_cases (Option.some.inj answered) with ⟨row,present,ready,checked,rfl,rfl⟩ | ⟨rfl,rfl⟩ |
    ⟨broken,rfl,rfl,_⟩
  · have ready : row.state = .ready := by simpa using ready
    have present : second.invocations.lookup id = some row := present
    refine ⟨fun _ => ⟨row,present,ready⟩,?_⟩
    simp only [orRaise,Program.pure_eq,Program.done_bind,if_true]
    have locked : Lock.invocation id ∈ locksOf ([] ++ [Write.advance id (row.toInvocationProgress.claim leaseId
      leaseExpiresAt deadlineAt moment)]) := by simp [Write.locks]
    refine Spec.ok_bind (ok_appendEvent ?_ ?_ fun _ _ _ _ _ onward => onward.began working.began)
    · intro now further inv'
      have numbered := (working.rest.follow (further.mono (by simp))).numbered inv' id
      simpa [view_eventsOf,Write.eventsOn] using numbered
    intro third event past' agree'' inv' onward _ told
    have own : event.invocationId = id := congrArg EventDraft.invocationId told
    have rest : Rest mode settings (Op.May (.executeOnce process id)) ([] ++ [.advance id (row.toInvocationProgress.claim
        leaseId leaseExpiresAt deadlineAt moment),.insertEvent event]) third := by
      refine working.rest.move present ?_ checked ?_ agree'' inv' own (congrArg EventDraft.sequence told) ?_ ?_
      · exact ready ▸ (by decide : InvocationState.IsLegalTransition .ready .executing)
      · rintro state _ (rfl | reached)
        · exact ⟨rfl,.inl ready⟩
        · exact reached
      · exact (congrArg EventDraft.fromState told).trans (congrArg some ready.symm)
      · exact congrArg EventDraft.toState told
    have owned : Owned ([] ++ [.advance id (row.toInvocationProgress.claim leaseId leaseExpiresAt deadlineAt moment),
        .insertEvent event]) third id (row.advance (row.toInvocationProgress.claim leaseId leaseExpiresAt deadlineAt
          moment)) := by
      refine ⟨by simp [Write.locks],?_⟩
      rw [view_lookup,(agree''.invocation id locked).1,present]
      simp [Write.onRow]
    have complete := Complete.of_upkeep (working.grow rest ((About.advance id _).append (own ▸ .note event)) onward)
      (by simp [Upkeep]) owned (show InvocationState.Steady .executing by decide)
    refine won third _ past' complete (onward.executed.trans silent) ?_
    intro later further
    have still := agree''.trans (further.mono (by simp))
    exact ⟨row,_,(still.invocation id locked).1.trans present,ready,(owned.follow further).2,rfl,rfl⟩
  · refine ⟨by simp [callDuty],?_⟩
    exact lost second _ (agree.trans agree') working
  · exact ⟨by simp [callDuty],working.began⟩

theorem ok_executeOnce (process : Process runtime) (id : Uuid) (db : Db) :
    Ok mode settings (Belonging (.executeOnce process id)) (Belonging (.executeOnce process id))
      (ExecutionDispatcher.executeOnce process settings id) [] db [.start (.executeOnce process id)] := by
  unfold ExecutionDispatcher.executeOnce
  refine ok_read .uuid4 trivial fun first agree _ _ leaseId _ => ?_
  refine ok_read .utcNow trivial fun second agree' _ _ moment _ => ?_
  refine ok_read (.getInvocation id) trivial fun third agree'' inv _ reply read => ?_
  have onward : Onward [.start (.executeOnce process id)] _ := (Onward.one .uuid4 trivial leaseId first).trans
    ((Onward.one .utcNow trivial moment second).trans (.one (.getInvocation id) trivial reply third))
  have start := (Working.start (.executeOnce process id) id third : Working mode settings _ id [] third _)
  have unspent := onward.executed
  simp only [exec,Option.some.injEq,Prod.mk.injEq,and_true] at read
  have present : third.invocations.lookup id = reply := read
  have began := onward.began start.began
  cases reply with
  | none => exact began
  | some invocation =>
    have own : invocation.id = id := (inv.coherent id invocation present).keyed
    have working : Working mode settings (.executeOnce process id) id [] third _ := {start with
      began
      unasked := start.unasked.onward onward}
    have notes : ∀ now past', Working mode settings (.executeOnce process id) id [] now past' →
        Complete mode settings (.executeOnce process id) id [] now past' :=
      fun _ _ working => .of_notes working (fun _ => rfl) rfl
    dsimp only
    split
    swap
    · exact (notes third _ working).commit fun _ _ _ => began.committed _ _
    refine Spec.ok_bind (ok_claimForExecution working ?_ ?_)
    · intro fourth pending past' complete silent claims
      refine complete.commit fun fifth agree''' _ => ok_runClaimed ?_
      exact {
        began := complete.working.began.committed _ _
        unasked := fun key reply' seen member => complete.working.unasked key reply' seen (by simpa using member)
        unspent := by
          rw [executed_append,silent,unspent]
          rfl
        claims := ⟨pending,fifth,List.mem_append_right _ (.head _),claims fifth agree'''⟩}
    · intro fourth past' _ working
      refine Spec.ok_bind (ok_refresh ?_ fun _ _ _ _ _ onward' => onward'.began working.began)
      intro fifth row past'' agree''' _ onward' _
      refine (notes fifth past'' ?_).commit fun _ _ _ => (onward'.began working.began).committed _ _
      exact {working with
        began := onward'.began working.began
        unasked := working.unasked.onward onward'
        rest := working.rest.follow agree'''}

end

end Acop
