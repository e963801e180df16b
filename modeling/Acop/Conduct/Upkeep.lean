import Acop.Completion

/-! The operations that only move rows on or leave them alone: the two sweeps,
cancellation, reconciliation and the life of tools and assets. -/
namespace Acop

open Acop.Transaction

section

variable {mode : Mode} {runtime : Runtime} {settings : Settings} {pending : List Write} {db now : Db}
  {past past' : List (Happening runtime)} {op : Op runtime} {α : Type}
  {good : α → List Write → Db → List (Happening runtime) → Prop}
  {bad : Fault → List Write → Db → List (Happening runtime) → Prop}

/-- An operation under way that has done nothing but upkeep. -/
structure Underway (mode : Mode) (settings : Settings) (op : Op runtime) (pending : List Write) (db : Db)
    (past : List (Happening runtime)) : Prop where
  began : Began past op
  unasked : Unasked past
  rest : Rest mode settings op.May pending db
  upkeep : Upkeep pending

/-- Every row of the view is in a state it may be committed in. -/
def Settled (mode : Mode) (settings : Settings) (pending : List Write) (db : Db) : Prop :=
  ∀ now, Agree (locksOf pending) db now → Inv mode settings now →
    ∀ id row, (view now pending).invocations.lookup id = some row → row.state.Steady

theorem Underway.start (op : Op runtime) (db : Db) : Underway mode settings op [] db [.start op] where
  began := rfl
  unasked := by simp [Unasked]
  rest := .start db
  upkeep := .nil

theorem Underway.onward (underway : Underway mode settings op pending db past)
    (agree : Agree (locksOf pending) db now) (onward : Onward past past') :
    Underway mode settings op pending now past' where
  began := onward.began underway.began
  unasked := underway.unasked.onward onward
  rest := underway.rest.follow agree
  upkeep := underway.upkeep

theorem Underway.grow (underway : Underway mode settings op pending db past) {new : List Write}
    (rest : Rest mode settings op.May (pending ++ new) now) (more : Upkeep new) (onward : Onward past past') :
    Underway mode settings op (pending ++ new) now past' where
  began := onward.began underway.began
  unasked := underway.unasked.onward onward
  rest := rest
  upkeep := underway.upkeep.append more

theorem Settled.start (db : Db) : Settled mode settings [] db := fun _ _ inv => inv.steady

theorem Settled.follow (settled : Settled mode settings pending db) (agree : Agree (locksOf pending) db now) :
    Settled mode settings pending now :=
  fun later agree' => settled later (agree.trans agree')

theorem Settled.note (settled : Settled mode settings pending db) (agree : Agree (locksOf pending) db now)
    (event : ToolInvocationEvent) : Settled mode settings (pending ++ [.insertEvent event]) now := by
  intro later agree' inv id row present
  refine settled later (agree.trans (agree'.mono (by simp))) inv id row ?_
  rw [rowAfter_append_view] at present
  exact present

theorem Settled.moved (settled : Settled mode settings pending db) (agree : Agree (locksOf pending) db now)
    {invocation before row : ToolInvocation} {move : Transition} {pending' : List Write}
    (moved : Moved invocation move pending pending' now before row) (steady : move.toState.Steady) :
    Settled mode settings pending' now := by
  intro later agree' inv id row' present
  obtain ⟨event,own,rfl⟩ := moved.writes
  by_cases same : id = invocation.id
  · subst same
    have kept := (moved.owned.follow agree').2
    cases Option.some.inj (kept.symm.trans present)
    rw [moved.becomes]
    exact steady
  · refine settled later (agree.trans (agree'.mono (by simp))) inv id row' ?_
    rw [rowAfter_append_view] at present
    simpa [Write.onRow,Ne.symm same] using present

theorem ok_commit_upkeep {rest : Unit → Service α} (underway : Underway mode settings op pending db past)
    (settled : Settled mode settings pending db)
    (ok : ∀ now, Agree (locksOf pending) db now → Inv mode settings now → Commits mode settings pending now →
      Ok mode settings good bad (rest ()) [] (view now pending) (past ++ [.commit pending now])) :
    Ok mode settings good bad (Program.commitNow >>= rest) pending db past := by
  refine ok_commit fun now agree inv => ?_
  have calm := underway.rest now agree inv
  have commits : Commits mode settings pending now := fun id =>
    ⟨(calm id).unbounded,underway.upkeep.final inv (calm id) (settled now agree inv id)⟩
  refine ⟨commits,?_,ok now agree inv commits⟩
  exact {
    moved := by
      intro id row row' present present' changed
      obtain ⟨row'',there,_,moved⟩ := (calm id).kept row present
      cases Option.some.inj (there.symm.trans present')
      exact ⟨op,underway.began,moved changed⟩
    created := by
      intro id row missing present
      have snapshots := underway.upkeep.updating.row id (now.invocations.lookup id)
      rw [← view_lookup,present,missing] at snapshots
      cases snapshots
    replayed := fun key existing seen member => absurd member (underway.unasked key _ seen)}

structure Sweeping (mode : Mode) (settings : Settings) (op : Op runtime) (pending : List Write) (db : Db)
    (past : List (Happening runtime)) : Prop where
  underway : Underway mode settings op pending db past
  settled : Settled mode settings pending db

theorem Sweeping.start (op : Op runtime) (db : Db) : Sweeping mode settings op [] db [.start op] :=
  ⟨.start op db,.start db⟩

theorem Sweeping.onward (sweeping : Sweeping mode settings op pending db past)
    (agree : Agree (locksOf pending) db now) (onward : Onward past past') :
    Sweeping mode settings op pending now past' :=
  ⟨sweeping.underway.onward agree onward,sweeping.settled.follow agree⟩

theorem Sweeping.call (sweeping : Sweeping mode settings op pending db past) (agree : Agree (locksOf pending) db now)
    (stmt : Stmt) (routine : stmt.Routine) (reply : Reply stmt) :
    Sweeping mode settings op pending now (past ++ [.call stmt reply now]) :=
  sweeping.onward agree (.one stmt routine reply now)

theorem ok_standDown {good : Bool → List Write → Db → List (Happening runtime) → Prop}
    {invocation : ToolInvocation} {move : Transition} (sweeping : Sweeping mode settings op pending db past)
    (steady : move.toState.Steady)
    (allowed : InvocationState.IsLegalTransition invocation.state move.toState → ∀ state, state.Steady →
      state = invocation.state ∨ op.May invocation.id state invocation.state →
      op.May invocation.id state move.toState)
    (follows : ∀ closed pending' now past', Sweeping mode settings op pending' now past' → good closed pending' now past')
    (failed : ∀ fault pending' now past', Began past' op → bad fault pending' now past') :
    Ok mode settings good bad (standDown (transition invocation move >>= fun _ => pure true)) pending db past := by
  have underway := sweeping.underway
  refine Spec.ok_tryCatch (Spec.ok_bind (ok_transition underway.rest allowed ?_ ?_ ?_))
  · intro now before row pending' past' agree inv rest moved onward
    obtain ⟨new,rfl,upkeep,_⟩ := moved.upkeep
    exact follows true _ now past' ⟨underway.grow rest upkeep onward,sweeping.settled.moved agree moved steady⟩
  · intro fault now event past' lost agree inv rest onward
    rw [if_pos lost]
    exact follows false _ now past' ⟨underway.grow rest (by simp [Upkeep]) onward,sweeping.settled.note agree event⟩
  · intro fault pending' now past' _ fresh onward
    rw [if_neg fresh]
    exact failed fault pending' now past' (onward.began underway.began)

/-- The reaper closes what it finds `EXECUTING` as indeterminate. -/
theorem closing_toState (runtime : Runtime) (invocation : ToolInvocation) (moment : Time) :
    (InvocationReaper.closing runtime invocation moment).toState =
      if invocation.state = .executing then .executionIndeterminate else .validationFailed := by
  unfold InvocationReaper.closing
  split <;> rfl

theorem ok_reapAll {good : Nat → List Write → Db → List (Happening runtime) → Prop} {limit : Nat} {moment : Time}
    (rows : List ToolInvocation)
    (follows : ∀ n pending' now past', Sweeping mode settings (.reap limit) pending' now past' → good n pending' now past')
    (failed : ∀ fault pending' now past', Began past' (.reap limit) → bad fault pending' now past')
    (sweeping : Sweeping mode settings (.reap limit) pending db past) :
    Ok mode settings good bad (InvocationReaper.reapAll runtime moment rows) pending db past := by
  induction rows generalizing good pending db past with
  | nil => exact follows 0 pending db past sweeping
  | cons invocation rows ih =>
    refine Spec.ok_bind (ok_standDown sweeping ?_ ?_ ?_ failed)
    · change (InvocationReaper.closing runtime invocation moment).toState.Steady
      rw [closing_toState]
      split <;> decide
    · change InvocationState.IsLegalTransition _ (InvocationReaper.closing runtime invocation moment).toState →
        ∀ state : InvocationState, state.Steady → _ → state = .executing ∧
          (InvocationReaper.closing runtime invocation moment).toState = .executionIndeterminate
      rw [closing_toState]
      split
      · rename_i running
        rintro _ state _ (same | ⟨_,impossible⟩)
        · exact ⟨same.trans running,rfl⟩
        · rw [running] at impossible
          cases impossible
      · intro legal state steady reached
        have validating : invocation.state = .validating := by
          revert legal
          cases invocation.state <;> decide
        rw [validating] at reached
        rcases reached with rfl | ⟨_,impossible⟩
        · exact absurd steady (by decide)
        · cases impossible
    · intro closed pending' now past' sweeping'
      refine Spec.ok_bind (ih (fun n pending'' now' past'' sweeping'' => ?_) sweeping')
      cases closed <;> exact follows _ pending'' now' past'' sweeping''

theorem ok_reap (limit : Nat) (db : Db) :
    Ok mode settings (Belonging (.reap limit : Op runtime)) (Belonging (.reap limit))
      (InvocationReaper.reapExpiredLeases runtime limit) [] db [.start (.reap limit)] := by
  unfold InvocationReaper.reapExpiredLeases
  refine ok_read .utcNow trivial fun first agree _ _ moment _ => ?_
  refine ok_read (.expiredLeases moment limit) trivial fun second agree' _ _ rows _ => ?_
  refine Spec.ok_bind (ok_reapAll rows ?_ (fun _ _ _ _ began => began)
    (((Sweeping.start (.reap limit) db).call agree .utcNow trivial moment).call agree' (.expiredLeases moment limit)
      trivial rows))
  intro n pending now past sweeping
  exact ok_commit_upkeep sweeping.underway sweeping.settled fun _ _ _ _ => sweeping.underway.began.committed _ _

theorem selectRows_matching {matching : ToolInvocation → Bool} {order : ToolInvocation → Time} {limit : Nat}
    {ids : List Uuid} {rows : List ToolInvocation} (selected : selectRows db matching order limit ids = some rows) :
    ∀ row ∈ rows, matching row = true := by
  unfold selectRows at selected
  dsimp only at selected
  split at selected
  · rename_i chosen
    cases selected
    exact chosen.2.2.1
  · cases selected

theorem ok_expireAll {good : Nat → List Write → Db → List (Happening runtime) → Prop} {limit : Nat} {moment : Time}
    (candidates : List ToolInvocation)
    (waiting : ∀ row ∈ candidates, row.state = .awaitingApproval ∨ row.state = .ready)
    (follows : ∀ n pending' now past', Sweeping mode settings (.sweep limit) pending' now past' → good n pending' now past')
    (failed : ∀ fault pending' now past', Began past' (.sweep limit) → bad fault pending' now past')
    (sweeping : Sweeping mode settings (.sweep limit) pending db past) :
    Ok mode settings good bad (ApprovalSweeper.expireAll moment candidates) pending db past := by
  induction candidates generalizing good pending db past with
  | nil => exact follows 0 pending db past sweeping
  | cons invocation candidates ih =>
    have own := waiting invocation (.head _)
    have ih := fun {good pending db past} => @ih good pending db past fun row member => waiting row (.tail _ member)
    unfold ApprovalSweeper.expireAll
    split
    · exact ih follows sweeping
    refine Spec.ok_bind (ok_standDown sweeping (show InvocationState.Steady .expired by decide) ?_ ?_ failed)
    · rintro _ state _ (same | ⟨_,impossible⟩)
      · exact ⟨same ▸ own,rfl⟩
      · rw [impossible] at own
        rcases own with waiting | waiting <;> cases waiting
    · intro expired pending' now past' sweeping'
      refine Spec.ok_bind (ih (fun n pending'' now' past'' sweeping'' => ?_) sweeping')
      cases expired <;> exact follows _ pending'' now' past'' sweeping''

theorem ok_sweep (limit : Nat) (db : Db) :
    Ok mode settings (Belonging (.sweep limit : Op runtime)) (Belonging (.sweep limit))
      (ApprovalSweeper.expireStale limit) [] db [.start (.sweep limit)] := by
  unfold ApprovalSweeper.expireStale
  refine ok_read .utcNow trivial fun first agree _ _ moment _ => ?_
  refine ok_read (.sweepCandidates limit) trivial fun second agree' _ _ candidates read => ?_
  have waiting : ∀ row ∈ candidates, row.state = .awaitingApproval ∨ row.state = .ready := by
    obtain ⟨rows,selected,same⟩ := Option.map_eq_some_iff.mp read
    cases same
    intro row member
    have matched := selectRows_matching selected row member
    simp only [decide_eq_true_eq] at matched
    exact matched.1
  refine Spec.ok_bind (ok_expireAll candidates waiting ?_ (fun _ _ _ _ began => began)
    (((Sweeping.start (.sweep limit) db).call agree .utcNow trivial moment).call agree' (.sweepCandidates limit)
      trivial candidates))
  intro n pending now past sweeping
  exact ok_commit_upkeep sweeping.underway sweeping.settled fun _ _ _ _ => sweeping.underway.began.committed _ _

theorem ok_cancel (principal : Principal) (invocationId : Uuid) (reason : String) (db : Db) :
    Ok mode settings (Belonging (.cancel principal invocationId reason : Op runtime))
      (Belonging (.cancel principal invocationId reason)) (cancel principal invocationId reason) [] db
      [.start (.cancel principal invocationId reason)] := by
  unfold cancel
  refine ok_read (.getInvocation invocationId) trivial fun first agree inv _ reply read => ?_
  have sweeping : Sweeping mode settings (.cancel principal invocationId reason : Op runtime) [] first _ :=
    (Sweeping.start _ db).call agree (.getInvocation invocationId) trivial reply
  have began := sweeping.underway.began
  cases reply with
  | none => exact began
  | some invocation =>
    dsimp only
    split
    · exact began
    split
    · exact began
    rename_i cancellable
    have own : invocation.id = invocationId := (inv.coherent invocationId invocation (by simpa [exec] using read)).keyed
    refine Spec.ok_bind (Spec.ok_tryCatch (ok_transition sweeping.underway.rest ?_ ?_ ?_ ?_))
    · rintro _ state _ (rfl | ⟨_,_,impossible⟩)
      · exact ⟨own,by tauto,rfl⟩
      · simp [impossible] at cancellable
    · intro now before row pending' past' agree' inv' rest moved onward'
      obtain ⟨new,rfl,upkeep,_⟩ := moved.upkeep
      exact ok_commit_upkeep (sweeping.underway.grow rest upkeep onward')
        (sweeping.settled.moved agree' moved (show InvocationState.Steady .cancelled by decide))
        fun _ _ _ _ => (onward'.began began).committed _ _
    · intro fault now event past' _ _ _ _ onward'
      split <;> exact onward'.began began
    · intro fault pending' now past' _ _ onward'
      split <;> exact onward'.began began

/-- Writes to tables that no invocation is kept in. -/
def Elsewhere : Write → Prop
  | .insertReconciliation _ | .setRegistration _ _ | .setAsset _ _ => True
  | _ => False

theorem Sweeping.wrote (sweeping : Sweeping mode settings op pending db past) (write : Write)
    (elsewhere : Elsewhere write) (agree : Agree (locksOf pending) db now) (stmt : Stmt) (routine : stmt.Routine)
    (reply : Reply stmt) : Sweeping mode settings op (pending ++ [write]) now (past ++ [.call stmt reply now]) := by
  have called := sweeping.call agree stmt routine reply
  cases write <;> first
    | exact elsewhere.elim
    | refine ⟨called.underway.grow (called.underway.rest.aside ?_ ?_ ?_ ?_) ?_ .refl,?_⟩
      · simp [Updating]
      · exact fun _ _ => rfl
      · exact fun _ => rfl
      · exact fun _ => rfl
      · simp [Upkeep]
      · intro later agree' inv id row present
        rw [rowAfter_append_view] at present
        exact called.settled later (agree'.mono (by simp)) inv id row present

theorem Sweeping.commit {rest : Unit → Service α} (sweeping : Sweeping mode settings op pending db past)
    (ok : ∀ now, Ok mode settings good bad (rest ()) [] (view now pending) (past ++ [.commit pending now])) :
    Ok mode settings good bad (Program.commitNow >>= rest) pending db past :=
  ok_commit_upkeep sweeping.underway sweeping.settled fun now _ _ _ => ok now

theorem ok_insertReconciliation {draft : ReconciliationDraft}
    {rest : Except Constraint ToolInvocationReconciliation → Service α}
    (sweeping : Sweeping mode settings op pending db past)
    (inserted : ∀ now row past', Sweeping mode settings op (pending ++ [.insertReconciliation row]) now past' →
      Ok mode settings good bad (rest (.ok row)) (pending ++ [.insertReconciliation row]) now past')
    (refused : ∀ now broken past', Sweeping mode settings op pending now past' →
      Ok mode settings good bad (rest (.error broken)) pending now past') :
    Ok mode settings good bad (query (.insertReconciliation draft) >>= rest) pending db past := by
  refine ok_step (.insertReconciliation draft) fun now agree _ _ input reply new answered => ⟨trivial,?_⟩
  simp only [exec,Acop.inserted,Option.some.injEq] at answered
  split at answered
  · rename_i row _
    cases answered
    exact inserted now row _ (sweeping.wrote (.insertReconciliation row) trivial agree
      (.insertReconciliation draft) trivial (.ok row))
  · cases answered
    rw [List.append_nil]
    exact refused now _ _ (sweeping.call agree (.insertReconciliation draft) trivial _)

theorem ok_reconcile (principal : Principal) (invocationId : Uuid) (disposition : ReconciliationDisposition)
    (justification : String) (evidenceRef : JsonObject) (db : Db) :
    Ok mode settings
      (Belonging (.reconcile principal invocationId disposition justification evidenceRef : Op runtime))
      (Belonging (.reconcile principal invocationId disposition justification evidenceRef))
      (reconcile principal invocationId disposition justification evidenceRef) [] db
      [.start (.reconcile principal invocationId disposition justification evidenceRef)] := by
  unfold reconcile
  refine ok_read (.getInvocation invocationId) trivial fun first agree inv _ reply read => ?_
  have sweeping : Sweeping mode settings (.reconcile principal invocationId disposition justification evidenceRef :
    Op runtime) [] first _ := (Sweeping.start _ db).call agree (.getInvocation invocationId) trivial reply
  have began := sweeping.underway.began
  cases reply with
  | none => exact began
  | some invocation =>
    dsimp only
    split
    · exact began
    refine ok_insertReconciliation sweeping (fun now row past' sweeping => ?_) fun _ _ _ sweeping => sweeping.underway.began
    simp only [orRaise,Program.pure_eq,Program.done_bind]
    refine Spec.ok_bind (ok_note sweeping.underway.rest ?_ fun _ _ _ _ _ onward => onward.began sweeping.underway.began)
    intro third event past'' agree' _ onward rest _
    have noted : Sweeping mode settings _ _ third past'' :=
      ⟨sweeping.underway.grow rest (by simp [Upkeep]) onward,sweeping.settled.note agree' event⟩
    exact noted.commit fun _ => noted.underway.began.committed _ _

theorem ok_flush {good : Unit → List Write → Db → List (Happening runtime) → Prop} (stmt : Stmt) (routine : stmt.Routine)
    (flushes : Reply stmt → Except Constraint Bool)
    (writes : ∀ db input reply new, exec stmt db input = some (reply,new) → new = [] ∨ ∃ write, Elsewhere write ∧ new = [write])
    (sweeping : Sweeping mode settings op pending db past)
    (flushed : ∀ pending' now past', Sweeping mode settings op pending' now past' → good () pending' now past')
    (refused : ∀ fault pending' now past', Began past' op → bad fault pending' now past') :
    Ok mode settings good bad (query stmt >>= fun reply => orRaise (flushes reply) >>= fun _ => pure ()) pending db past := by
  refine ok_step stmt fun now agree _ _ input reply new answered => ⟨callDuty_plain routine reply now,?_⟩
  have called : Sweeping mode settings op (pending ++ new) now (past ++ [.call stmt reply now]) := by
    rcases writes _ input reply new answered with rfl | ⟨write,elsewhere,rfl⟩
    · rw [List.append_nil]
      exact sweeping.call agree stmt routine reply
    · exact sweeping.wrote write elsewhere agree stmt routine reply
  cases flushes reply with
  | ok matched => exact flushed _ now _ called
  | error broken => exact refused _ _ now _ called.underway.began

theorem ok_flushRegistration {good : Unit → List Write → Db → List (Happening runtime) → Prop}
    {loaded : ToolRegistration} {assigned : RegistrationColumns} (sweeping : Sweeping mode settings op pending db past)
    (flushed : ∀ pending' now past', Sweeping mode settings op pending' now past' → good () pending' now past')
    (refused : ∀ fault pending' now past', Began past' op → bad fault pending' now past') :
    Ok mode settings good bad (flushRegistration loaded assigned) pending db past := by
  unfold flushRegistration
  split
  swap
  · exact flushed pending db past sweeping
  refine ok_flush (.updateRegistration _ _) trivial (fun reply => reply) ?_ sweeping flushed refused
  intro db input reply new answered
  simp only [exec,Option.some.injEq] at answered
  split at answered
  · cases answered
    exact .inl rfl
  split at answered
  · cases answered
    exact .inl rfl
  · cases answered
    exact .inr ⟨.setRegistration _ _,trivial,rfl⟩

theorem ok_flushAsset {good : Unit → List Write → Db → List (Happening runtime) → Prop}
    {loaded : Asset} {assigned : AssetColumns} (sweeping : Sweeping mode settings op pending db past)
    (flushed : ∀ pending' now past', Sweeping mode settings op pending' now past' → good () pending' now past')
    (refused : ∀ fault pending' now past', Began past' op → bad fault pending' now past') :
    Ok mode settings good bad (flushAsset loaded assigned) pending db past := by
  unfold flushAsset
  split
  swap
  · exact flushed pending db past sweeping
  refine ok_flush (.updateAsset _ _) trivial (fun reply => reply) ?_ sweeping flushed refused
  intro db input reply new answered
  simp only [exec,Option.some.injEq] at answered
  split at answered
  · cases answered
    exact .inl rfl
  split at answered
  · cases answered
    exact .inl rfl
  · cases answered
    exact .inr ⟨.setAsset _ _,trivial,rfl⟩

theorem ok_lifecycleTarget {good : ToolRegistration × ToolDefinition → List Write → Db → List (Happening runtime) → Prop}
    {definition : Option ToolDefinition} {toolName toolVersion : String}
    (sweeping : Sweeping mode settings op pending db past)
    (found : ∀ target now past', Sweeping mode settings op pending now past' → good target pending now past')
    (refused : ∀ fault pending' now past', Began past' op → bad fault pending' now past') :
    Ok mode settings good bad (lifecycleTarget definition toolName toolVersion) pending db past := by
  unfold lifecycleTarget
  split
  · exact refused _ pending db past sweeping.underway.began
  refine ok_read (.selectRegistration toolName toolVersion) trivial fun now agree _ _ reply _ => ?_
  have called := sweeping.call agree (.selectRegistration toolName toolVersion) trivial reply
  split
  · exact found _ now _ called
  · exact refused _ _ now _ called.underway.began

theorem ok_audited {recorded : Except Constraint AuditEvent} (sweeping : Sweeping mode settings op pending db past) :
    Ok mode settings (Belonging op) (Belonging op) (orRaise recorded >>= fun _ => Program.commitNow) pending db past := by
  cases recorded with
  | ok written => exact sweeping.commit fun _ => sweeping.underway.began.committed _ _
  | error broken => exact sweeping.underway.began

theorem ok_disableTool (definition : Option ToolDefinition) (principal : Principal) (requestId : RequestId)
    (toolName toolVersion reason : String) (sweeping : Sweeping mode settings op pending db past) :
    Ok mode settings (Belonging op) (Belonging op) (disableTool definition principal requestId toolName toolVersion reason)
      pending db past := by
  unfold disableTool
  refine Spec.ok_bind (ok_lifecycleTarget sweeping ?_ fun _ _ _ _ began => began)
  intro target now past' sweeping
  refine ok_read .utcNow trivial fun later agree _ _ moment _ => ?_
  refine Spec.ok_bind (ok_flushRegistration (sweeping.call agree .utcNow trivial moment) ?_ fun _ _ _ _ began => began)
  exact fun pending' now past' sweeping => ok_audited sweeping

theorem ok_enableTool (definition : Option ToolDefinition) (principal : Principal) (requestId : RequestId)
    (toolName toolVersion reason : String) (sweeping : Sweeping mode settings op pending db past) :
    Ok mode settings (Belonging op) (Belonging op) (enableTool definition principal requestId toolName toolVersion reason)
      pending db past := by
  unfold enableTool
  refine Spec.ok_bind (ok_lifecycleTarget sweeping ?_ fun _ _ _ _ began => began)
  intro target now past' sweeping
  dsimp only
  split
  · exact sweeping.underway.began
  refine Spec.ok_bind (ok_flushRegistration sweeping ?_ fun _ _ _ _ began => began)
  exact fun pending' now past' sweeping => ok_audited sweeping

theorem ok_getAsset {good : Asset → List Write → Db → List (Happening runtime) → Prop} {assetId : Uuid}
    (sweeping : Sweeping mode settings op pending db past)
    (found : ∀ asset now past', Sweeping mode settings op pending now past' → good asset pending now past')
    (refused : ∀ fault pending' now past', Began past' op → bad fault pending' now past') :
    Ok mode settings good bad (getAsset assetId) pending db past := by
  unfold getAsset
  refine ok_read (.getAsset assetId) trivial fun now agree _ _ reply _ => ?_
  have called := sweeping.call agree (.getAsset assetId) trivial reply
  split
  · exact found _ now _ called
  · exact refused _ _ now _ called.underway.began

theorem ok_updateAsset (assetId : Uuid) (payload : AssetUpdate) (sweeping : Sweeping mode settings op pending db past) :
    Ok mode settings (Belonging op) (Belonging op) (updateAsset assetId payload) pending db past := by
  unfold updateAsset
  refine Spec.ok_bind (ok_getAsset sweeping ?_ fun _ _ _ _ began => began)
  intro asset now past' sweeping
  dsimp only
  split
  · exact sweeping.underway.began
  refine Spec.ok_bind (ok_flushAsset sweeping ?_ fun _ _ _ _ began => began)
  exact fun pending' now past' sweeping => sweeping.commit fun _ => sweeping.underway.began.committed _ _

theorem ok_retireAsset (assetId : Uuid) (sweeping : Sweeping mode settings op pending db past) :
    Ok mode settings (Belonging op) (Belonging op) (retireAsset assetId) pending db past := by
  unfold retireAsset
  refine Spec.ok_bind (ok_getAsset sweeping ?_ fun _ _ _ _ began => began)
  intro asset now past' sweeping
  dsimp only
  split
  · exact sweeping.underway.began
  split
  · exact sweeping.underway.began
  refine ok_read .utcNow trivial fun later agree _ _ moment _ => ?_
  refine Spec.ok_bind (ok_flushAsset (sweeping.call agree .utcNow trivial moment) ?_ fun _ _ _ _ began => began)
  exact fun pending' now past' sweeping => sweeping.commit fun _ => sweeping.underway.began.committed _ _

end

end Acop
