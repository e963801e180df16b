import Acop.Guarantee.Decision
import Acop.Verified

/-! What a `create` has committed when it answers, judged by what it was told and by its answers. -/
namespace Acop
open Acop.Transaction

section

variable {runtime : Runtime} {settings : Settings} {process : Process runtime} {request : InvocationRequest}
  {principal : Principal} {past : List (Happening runtime)} {pending : List Write} {db : Db} {row : ToolInvocation}
  {α : Type}

/-- The session committed this row as a new one, among these writes. -/
def Brought (past : List (Happening runtime)) (writes : List Write) (row : ToolInvocation) : Prop :=
  (∃ seen, .commit writes seen ∈ past) ∧ .insertInvocation row ∈ writes

/-- What a `create` is told that decides it. -/
inductive Note where
  | registration (row : Option ToolRegistration)
  | asset (row : Option Asset)
  | replay (row : Option ToolInvocation)
  | turned

/-- A write that the store refuses is `turned`. -/
def note : Happening runtime → Option Note
  | .call (.selectRegistration _ _) row _ => some (.registration row)
  | .call (.getAsset _) row _ => some (.asset row)
  | .call (.selectForKey _) row _ => some (.replay row)
  | .call (.insertInvocation _) (.error _) _ => some .turned
  | .call (.insertEvent _) (.error _) _ => some .turned
  | .call (.compareAndSet _ _ _ _ _) (.error _) _ => some .turned
  | _ => none

def notes (past : List (Happening runtime)) : List Note := past.filterMap note

/-- The facts about the target that the request named. -/
def Aimed (request : InvocationRequest) (told : List Note) (target : TargetFacts) : Prop := match request.targetAssetId with
  | some _ => ∃ row, .asset row ∈ told ∧ target = ToolInvocationService.targetFacts row
  | none => target = match truthy request.targetRef with
    | some targetRef => {kind := .externalRef, externalRef := targetRef}
    | none => {kind := .none}

/-- The request is registered and passes every gate for the target that was found, nothing was
requested under its key before, and the store takes every row. -/
def Admits (settings : Settings) (process : Process runtime) (request : InvocationRequest) (principal : Principal)
    (told : List Note) : Prop :=
  ∃ registration target moment definition canonical, .registration (some registration) ∈ told ∧ Aimed request told target ∧
    PolicyEngine.Opens (ToolInvocationService.requestContext runtime request principal process settings registration target moment)
      definition canonical ∧
    (∀ row, .replay (some row) ∉ told) ∧ .turned ∉ told

def Endless (writes : List Write) : Prop := ∀ id old final, rowAfter writes id old = some final →
  final.state.Terminal → ∃ row, old = some row ∧ row.state.Terminal

/-- Nothing that the session has committed ended an invocation. -/
def EndedNone (past : List (Happening runtime)) : Prop := ∀ writes seen, .commit writes seen ∈ past → Endless writes

/-- The session has committed this row as a new one, of the tool's declared class and with nothing decided of it. -/
structure Accepts (process : Process runtime) (request : InvocationRequest) (past : List (Happening runtime))
    (final : ToolInvocation) : Prop where
  brought : ∃ writes row, Brought past writes row ∧ row.id = final.id
  kept : ∀ writes seen, .commit writes seen ∈ past → ∀ old, rowAfter writes final.id old = some final
  endedNone : EndedNone past
  declared : ∃ definition, process.getDefinition request.toolName request.toolVersion = some definition ∧
    final.permissionClass = definition.permissionClass
  waiting : final.state = .awaitingApproval ∨ final.state = .ready

/-- What a `create` that answers has brought: an error only what it rejected with it, a row that row
exactly where the request is admitted. -/
def Outcome (settings : Settings) (process : Process runtime) (request : InvocationRequest) (principal : Principal)
    (past : List (Happening runtime)) : Except Fault Answer → Prop
  | .error _ => ¬ Admits settings process request principal (notes past) ∧ ∀ writes row, Brought past writes row →
      ∃ final : ToolInvocation, (∀ old, rowAfter writes row.id old = some final) ∧ final.state = .rejected
  | .ok answer =>
    (¬ Admits settings process request principal (notes past) ∧ ∀ writes row, ¬ Brought past writes row) ∨
      (Admits settings process request principal (notes past) ∧
        ∃ final, answer = .invocation final ∧ Accepts process request past final)

/-- The judgement of `create` by its answers alone. -/
def outcomes (runtime : Runtime) (settings : Settings) : Spec (acop runtime settings) where
  Inv _ := True
  Com _ _ := True
  Agree _ _ _ := True
  assume _ _ _ _ := True
  duty past event := match event with
    | .answer result => ∀ process request principal, Began past (.create process request principal) →
        Outcome settings process request principal past result
    | _ => True
  agree_refl _ _ := trivial
  agree_trans _ _ _ _ _ _ := trivial
  guarantee _ _ _ _ _ _ := trivial
  preserves _ _ _ _ := trivial
  duty_start _ := trivial
  duty_crash _ := trivial

/-- A session that has been told this and has committed nothing yet. -/
structure Open (process : Process runtime) (request : InvocationRequest) (principal : Principal) (told : List Note)
    (past : List (Happening runtime)) : Prop where
  began : Began past (.create process request principal)
  uncommitted : Uncommitted past
  heard : notes past = told

/-- The row as the transaction that inserts it has it, whatever is committed. -/
structure Drafted (row : ToolInvocation) (pending : List Write) : Prop where
  current : ∀ old, rowAfter pending row.id old = some row
  alone : ∀ other, .insertInvocation other ∈ pending → other.id = row.id
  inserted : ∃ other, .insertInvocation other ∈ pending
  elsewhere : ∀ id, id ≠ row.id → ∀ old, rowAfter pending id old = old

def Stmt.Aside : Stmt → Prop
  | .insertInvocation _ => False
  | .compareAndSet _ _ _ _ _ => False
  | .claimReady _ _ _ _ _ => False
  | .recordGate _ _ _ _ _ => False
  | .setApprovalsReceived _ _ => False
  | _ => True

structure Beside (new : List Write) : Prop where
  unchanged : ∀ id old, rowAfter new id old = old
  none : ∀ row, .insertInvocation row ∉ new

theorem Beside.nil : Beside [] := ⟨fun _ _ => rfl,fun _ => List.not_mem_nil⟩

theorem Beside.one {write : Write} (unchanged : ∀ id old, write.onRow id old = old)
    (other : ∀ row, write ≠ .insertInvocation row) : Beside [write] :=
  ⟨unchanged,fun row member => other row (List.mem_singleton.mp member).symm⟩

theorem Beside.append {first second : List Write} (left : Beside first) (right : Beside second) : Beside (first ++ second) where
  unchanged id old := by rw [rowAfter_append,left.unchanged,right.unchanged]
  none row member := (List.mem_append.mp member).elim (left.none row) (right.none row)

theorem Beside.inserted {Row : Type} {write : Row → Write} {made reply : Except Constraint Row} {new : List Write}
    (beside : ∀ row, Beside [write row]) (answered : inserted write made = (reply,new)) : Beside new := by
  unfold Acop.inserted at answered
  split at answered
  · cases answered
    exact beside _
  · cases answered
    exact .nil

theorem beside_of_exec {stmt : Stmt} (aside : stmt.Aside) {input : Input} {reply : Reply stmt} {new : List Write}
    (answered : exec stmt db input = some (reply,new)) : Beside new := by
  have event : ∀ event, Beside [.insertEvent event] := fun _ => .one (fun _ _ => rfl) (fun _ => nofun)
  have approval : ∀ approval, Beside [.insertApproval approval] := fun _ => .one (fun _ _ => rfl) (fun _ => nofun)
  have reconciliation : ∀ judgement, Beside [.insertReconciliation judgement] := fun _ => .one (fun _ _ => rfl) (fun _ => nofun)
  have registration : ∀ id columns, Beside [.setRegistration id columns] := fun _ _ => .one (fun _ _ => rfl) (fun _ => nofun)
  have asset : ∀ id columns, Beside [.setAsset id columns] := fun _ _ => .one (fun _ _ => rfl) (fun _ => nofun)
  cases stmt with
  | insertEvent draft =>
    simp only [exec,Option.some.injEq] at answered
    exact .inserted event answered
  | insertApproval draft =>
    simp only [exec,Option.some.injEq] at answered
    exact .inserted approval answered
  | insertReconciliation draft =>
    simp only [exec,Option.some.injEq] at answered
    exact .inserted reconciliation answered
  | updateRegistration id columns =>
    simp only [exec,Option.some.injEq] at answered
    split at answered
    · cases answered
      exact .nil
    · split at answered
      · cases answered
        exact .nil
      · cases answered
        exact registration _ _
  | updateAsset id columns =>
    simp only [exec,Option.some.injEq] at answered
    split at answered
    · cases answered
      exact .nil
    · split at answered
      · cases answered
        exact .nil
      · cases answered
        exact asset _ _
  | insertInvocation => cases aside
  | compareAndSet => cases aside
  | claimReady => cases aside
  | recordGate => cases aside
  | setApprovalsReceived => cases aside
  | selectIdentifiers assetId =>
    simp only [exec] at answered
    split at answered
    · cases answered
      exact .nil
    · cases answered
  | expiredLeases now limit =>
    obtain ⟨_,_,same⟩ := Option.map_eq_some_iff.mp answered
    cases same
    exact .nil
  | sweepCandidates limit =>
    obtain ⟨_,_,same⟩ := Option.map_eq_some_iff.mp answered
    cases same
    exact .nil
  | _ =>
    cases answered
    exact .nil

section Learnt

variable {registration : ToolRegistration} {target : TargetFacts} {told : List Note} {moment : Time}

/-- The session knows what is registered and what the target is, and nothing speaks against the request yet. -/
structure Learnt (request : InvocationRequest) (told : List Note) (registration : ToolRegistration) (target : TargetFacts) : Prop where
  found : ∀ row, .registration (some row) ∈ told ↔ row = registration
  aimed : ∀ other, Aimed request told other ↔ other = target
  fresh : ∀ row, .replay (some row) ∉ told
  taken : .turned ∉ told

theorem opens_at {definition : ToolDefinition} {canonical : JsonObject} {other : Time}
    (opens : PolicyEngine.Opens (ToolInvocationService.requestContext runtime request principal process settings registration target moment)
      definition canonical) : PolicyEngine.Opens
    (ToolInvocationService.requestContext runtime request principal process settings registration target other) definition canonical :=
  ⟨⟨opens.bound,opens.active,opens.permitted,opens.schema,opens.target⟩,opens.role,opens.environment⟩

theorem Learnt.admits_iff (learnt : Learnt request told registration target) :
    Admits settings process request principal told ↔ (PolicyEngine.evaluate runtime
      (ToolInvocationService.requestContext runtime request principal process settings registration target moment)).allowed = true := by
  rw [PolicyEngine.evaluate_allowed_iff]
  constructor
  · rintro ⟨row,other,_,definition,canonical,registered,aimed,opens,_⟩
    obtain rfl := (learnt.found row).mp registered
    obtain rfl := (learnt.aimed other).mp aimed
    exact ⟨definition,canonical,opens_at opens⟩
  · rintro ⟨definition,canonical,opens⟩
    exact ⟨registration,target,moment,definition,canonical,(learnt.found _).mpr rfl,(learnt.aimed _).mpr rfl,opens,learnt.fresh,learnt.taken⟩

theorem Learnt.unreplayed (learnt : Learnt request told registration target) :
    Learnt request (told ++ [.replay none]) registration target where
  found row := by simp [learnt.found]
  aimed other := by
    rw [← learnt.aimed]
    unfold Aimed
    split <;> simp
  fresh row := by simp [learnt.fresh]
  taken := by simp [learnt.taken]

theorem not_admits_of_prerequisites {denial : PolicyDecision} {unresolved : TargetFacts}
    (registered : ∀ row, .registration (some row) ∈ told → row = registration)
    (refused : PolicyEngine.evaluatePrerequisites runtime (ToolInvocationService.requestContext runtime request principal process
      settings registration unresolved moment) = some denial) : ¬ Admits settings process request principal told := by
  rintro ⟨row,target,_,definition,canonical,found,_,opens,_⟩
  obtain rfl := registered row found
  have allowed : (PolicyEngine.evaluate runtime (ToolInvocationService.requestContext runtime request principal process settings row
      target moment)).allowed = true := PolicyEngine.evaluate_allowed_iff.mpr ⟨definition,canonical,opens_at opens⟩
  have denied : PolicyEngine.evaluate runtime (ToolInvocationService.requestContext runtime request principal process settings row
      target moment) = denial := PolicyEngine.evaluate_of_prerequisites refused target
  rw [denied,evaluatePrerequisites_denies refused] at allowed
  cases allowed

theorem not_admits_turned : ¬ Admits settings process request principal (told ++ [.turned]) := by
  rintro ⟨_,_,_,_,_,_,_,_,_,taken⟩
  simp at taken

theorem not_admits_replay (row : ToolInvocation) : ¬ Admits settings process request principal (told ++ [.replay (some row)]) := by
  rintro ⟨_,_,_,_,_,_,_,_,fresh,_⟩
  exact fresh row (by simp)

end Learnt

section Open

variable {told : List Note} {good : α → List Write → Db → List (Happening runtime) → Prop}

theorem Began.append {op : Op runtime} (began : Began past op) (more : List (Happening runtime)) : Began (past ++ more) op := by
  rw [Began,List.head?_append,began]
  rfl

theorem Open.call (opened : Open process request principal told past) (stmt : Stmt) (reply : Reply stmt) (seen : Db) :
    Open process request principal (told ++ (note (.call stmt reply seen : Happening runtime)).toList)
      (past ++ [.call stmt reply seen]) where
  began := opened.began.append _
  uncommitted writes other member := by
    rcases List.mem_append.mp member with earlier | last
    · exact opened.uncommitted writes other earlier
    · cases List.mem_singleton.mp last
  heard := by
    rw [notes,List.filterMap_append,← opened.heard,notes]
    cases heard : note (.call stmt reply seen : Happening runtime) <;> simp [heard]

theorem Open.silent {stmt : Stmt} {reply : Reply stmt} {seen : Db} (opened : Open process request principal told past)
    (silent : note (.call stmt reply seen : Happening runtime) = none) :
    Open process request principal told (past ++ [.call stmt reply seen]) := by
  have called := opened.call stmt reply seen
  rwa [silent,Option.toList_none,List.append_nil] at called

theorem Open.brought (opened : Open process request principal told past) {writes : List Write} :
    ¬ Brought past writes row := fun brought => by
  obtain ⟨⟨seen,member⟩,_⟩ := brought
  exact opened.uncommitted writes seen member

def Raises (settings : Settings) (process : Process runtime) (request : InvocationRequest) (principal : Principal) :
    Fault → List Write → Db → List (Happening runtime) → Prop :=
  fun fault _ _ past => Began past (.create process request principal) ∧
    Outcome settings process request principal past (.error fault)

theorem Open.raises (opened : Open process request principal told past)
    (refused : ¬ Admits settings process request principal told) (fault : Fault) :
    Began past (.create process request principal) ∧ Outcome settings process request principal past (.error fault) :=
  ⟨opened.began,opened.heard ▸ refused,fun _ _ brought => absurd brought opened.brought⟩

theorem Open.turned {stmt : Stmt} {reply : Reply stmt} {seen : Db} (opened : Open process request principal told past)
    (turned : note (.call stmt reply seen : Happening runtime) = some .turned) (fault : Fault) :
    Began (past ++ [.call stmt reply seen]) (.create process request principal) ∧
      Outcome settings process request principal (past ++ [.call stmt reply seen]) (.error fault) := by
  have called := opened.call stmt reply seen
  rw [turned,Option.toList_some] at called
  exact called.raises not_admits_turned fault

theorem outcomes_query {stmt : Stmt} {good : Reply stmt → List Write → Db → List (Happening runtime) → Prop}
    (aside : stmt.Aside)
    (follows : ∀ now reply new input, exec stmt (view now pending) input = some (reply,new) → Beside new →
      good reply (pending ++ new) now (past ++ [.call stmt reply now])) :
    (outcomes runtime settings).Ok good (Raises settings process request principal) (query stmt) pending db past := by
  intro now _ _ _ input reply new answered
  exact ⟨trivial,follows now reply new input answered (beside_of_exec aside answered)⟩

theorem ok_unbroken {spec : Spec (acop runtime settings)} {value : α} {bad : Fault → List Write → Db → List (Happening runtime) → Prop}
    (follows : good value pending db past) : spec.Ok good bad (orRaise (.ok value)) pending db past :=
  follows

theorem outcomes_appendEvent {invocationId : Uuid} {fromState : Option InvocationState} {toState : InvocationState}
    {reason : String} {actorSubject : Option String} {detail : JsonObject}
    {good : ToolInvocationEvent → List Write → Db → List (Happening runtime) → Prop}
    (opened : Open process request principal told past)
    (follows : ∀ event new now past', Beside new → Open process request principal told past' →
      good event (pending ++ new) now past') :
    (outcomes runtime settings).Ok good (Raises settings process request principal)
      (appendEvent invocationId fromState toState reason actorSubject detail) pending db past := by
  unfold appendEvent nextSequence
  refine Spec.ok_bind (Spec.ok_bind (outcomes_query trivial ?_))
  intro now highest first _ _ beside
  refine Spec.ok_bind (outcomes_query trivial ?_)
  intro later event second _ _ beside'
  cases event with
  | error constraint => exact (opened.silent rfl).turned rfl _
  | ok event =>
    rw [List.append_assoc]
    exact follows event _ later _ (beside.append beside') ((opened.silent rfl).silent rfl)

theorem Drafted.endless (drafted : Drafted row pending) (waiting : ¬ row.state.Terminal) : Endless pending := by
  intro id old final became ended
  by_cases same : id = row.id
  · subst same
    rw [drafted.current] at became
    cases became
    exact absurd ended waiting
  · rw [drafted.elsewhere id same] at became
    exact ⟨final,became,ended⟩

theorem Drafted.beside {new : List Write} (drafted : Drafted row pending) (beside : Beside new) :
    Drafted row (pending ++ new) where
  current old := by rw [rowAfter_append,drafted.current,beside.unchanged]
  alone other member := by
    rcases List.mem_append.mp member with earlier | later
    · exact drafted.alone other earlier
    · exact absurd later (beside.none other)
  inserted := drafted.inserted.imp fun _ member => List.mem_append_left new member
  elsewhere id other old := by rw [rowAfter_append,drafted.elsewhere id other,beside.unchanged]

theorem outcomes_creation {snapshot : InvocationSnapshot} {reason : String} {actorSubject : Option String}
    {detail : JsonObject} {rest : ToolInvocation → Service α} (opened : Open process request principal told past)
    (follows : ∀ row pending now past', Drafted row pending → row.toInvocationSnapshot = snapshot → row.state = .requested →
      Open process request principal told past' →
      (outcomes runtime settings).Ok good (Raises settings process request principal) (rest row) pending now past') :
    (outcomes runtime settings).Ok good (Raises settings process request principal)
      (do
        let inserted ← query (.insertInvocation snapshot)
        let invocation ← orRaise inserted
        let _ ← appendEvent invocation.id none .requested reason actorSubject detail
        rest invocation) [] db past := by
  refine Spec.ok_bind ?_
  intro now _ _ _ input reply new answered
  refine ⟨trivial,?_⟩
  have answered : exec (.insertInvocation snapshot) now input = some (reply,new) := answered
  simp only [exec,Acop.inserted,Option.some.injEq] at answered
  split at answered
  · rename_i row made
    cases answered
    obtain ⟨shape,_⟩ := insertInvocationRow_ok made
    have drafted : Drafted row ([] ++ [.insertInvocation row]) := by
      refine ⟨fun old => by simp [Write.onRow],?_,⟨row,by simp⟩,fun id other old => by simp [Write.onRow,Ne.symm other]⟩
      intro other member
      cases List.mem_singleton.mp member
      rfl
    refine Spec.ok_bind (ok_unbroken ?_)
    refine Spec.ok_bind (outcomes_appendEvent (opened.silent rfl) ?_)
    intro event new now past' beside opened
    exact follows row _ now past' (drafted.beside beside) (by rw [shape]) (by rw [shape]) opened
  · cases answered
    exact opened.turned rfl _

theorem outcomes_refresh {current : ToolInvocation} {good : ToolInvocation → List Write → Db → List (Happening runtime) → Prop}
    (opened : Open process request principal told past) (drafted : Drafted current pending) (same : row.id = current.id)
    (follows : ∀ now past', Open process request principal told past' → good current pending now past') :
    (outcomes runtime settings).Ok good (Raises settings process request principal) (refresh row) pending db past := by
  unfold refresh
  refine Spec.ok_bind (outcomes_query trivial ?_)
  intro now reply new input answered _
  cases answered
  have found : (view now pending).invocations.lookup row.id = some current := by rw [view_lookup,same,drafted.current]
  rw [List.append_nil,found]
  exact follows now _ (opened.silent rfl)

def Transition.assign (move : Transition) (row : ToolInvocation) : ToolInvocation :=
  row.advance ((move.columns row.toInvocationProgress).into move.toState)

theorem Drafted.advance {progress : InvocationProgress} (drafted : Drafted row pending) :
    Drafted (row.advance progress) (pending ++ [.advance row.id progress]) where
  current old := by
    rw [rowAfter_append,show (row.advance progress).id = row.id from rfl,drafted.current]
    simp [Write.onRow]
  alone other member := by
    rcases List.mem_append.mp member with earlier | later
    · exact drafted.alone other earlier
    · cases List.mem_singleton.mp later
  inserted := drafted.inserted.imp fun _ member => List.mem_append_left _ member
  elsewhere id other old := by
    rw [rowAfter_append,drafted.elsewhere id other]
    exact if_neg (Ne.symm other)

theorem outcomes_transition {move : Transition} {good : ToolInvocation → List Write → Db → List (Happening runtime) → Prop}
    (opened : Open process request principal told past) (drafted : Drafted row pending) (unleased : move.expected = none)
    (legal : InvocationState.IsLegalTransition row.state move.toState)
    (follows : ∀ pending' now past', Drafted (move.assign row) pending' → Open process request principal told past' →
      good (move.assign row) pending' now past') :
    (outcomes runtime settings).Ok good (Raises settings process request principal) (transition row move) pending db past := by
  unfold transition
  dsimp only
  rw [if_pos legal]
  refine Spec.ok_bind ?_
  intro now _ _ _ input reply new answered
  refine ⟨trivial,?_⟩
  have answered : updateWhere (view now pending) row.id (fun row' => row'.state = row.state ∧
      ∀ lease ∈ move.expected, lease.Matches row') (fun progress => (move.columns progress).into move.toState) =
    (reply,new) := Option.some.inj answered
  simp only [updateWhere,view_lookup,drafted.current,unleased,Option.not_mem_none,false_implies,implies_true,and_self,
    decide_true,if_true] at answered
  split at answered
  · cases answered
    exact opened.turned rfl _
  · cases answered
    have moved : Drafted (move.assign row) _ := drafted.advance
    refine Spec.ok_bind (ok_unbroken ?_)
    refine Spec.ok_bind (outcomes_refresh (opened.silent rfl) moved rfl ?_)
    intro later past' opened
    refine Spec.ok_bind (outcomes_appendEvent opened ?_)
    intro event new now past' beside opened
    exact follows _ now past' (moved.beside beside) opened

/-- The session has returned a row, and answers for it. -/
def Returns (settings : Settings) (process : Process runtime) (request : InvocationRequest) (principal : Principal) :
    ToolInvocation → List Write → Db → List (Happening runtime) → Prop :=
  fun invocation _ _ past => Began past (.create process request principal) ∧
    Outcome settings process request principal past (.ok (.invocation invocation))

theorem notes_commit (past : List (Happening runtime)) (writes : List Write) (seen : Db) :
    notes (past ++ [.commit writes seen]) = notes past := by
  simp [notes,note]

theorem Open.brought_commit (opened : Open process request principal told past) {seen seen' : Db} {writes : List Write}
    (member : .commit writes seen' ∈ past ++ [.commit pending seen]) : writes = pending := by
  rcases List.mem_append.mp member with earlier | last
  · exact absurd earlier (opened.uncommitted writes seen')
  · cases List.mem_singleton.mp last
    rfl

theorem outcomes_commit {rest : Unit → Service α} (follows : ∀ now, (outcomes runtime settings).Ok good
      (Raises settings process request principal) (rest ()) [] (view now pending) (past ++ [.commit pending now])) :
    (outcomes runtime settings).Ok good (Raises settings process request principal) (Program.commitNow >>= rest) pending db past := by
  intro now _ _
  exact ⟨trivial,trivial,follows now⟩

theorem outcomes_reject {registration : ToolRegistration} {decision : PolicyDecision}
    (opened : Open process request principal told past) (refused : ¬ Admits settings process request principal told) :
    (outcomes runtime settings).Ok (Returns settings process request principal) (Raises settings process request principal)
      (do
        let invocation ← ToolInvocationService.reject request principal registration decision
        Program.commitNow
        throw (ToolInvocationService.refusal request invocation decision)) [] db past := by
  unfold ToolInvocationService.reject
  refine Spec.ok_bind (outcomes_creation opened ?_)
  intro row pending now past' drafted _ state opened
  refine outcomes_transition opened drafted rfl (state ▸ (by decide : InvocationState.IsLegalTransition .requested .rejected)) ?_
  intro pending' now past' drafted opened
  refine outcomes_commit fun last => ⟨opened.began.append _,?_,?_⟩
  · rw [notes_commit,opened.heard]
    exact refused
  · intro writes other brought
    obtain ⟨⟨_,member⟩,inserted⟩ := brought
    cases opened.brought_commit member
    rw [drafted.alone other inserted]
    exact ⟨_,drafted.current,rfl⟩

/-- What `accept` returns: the row of an earlier request, or a new one of the class that was decided. -/
def Accepted (settings : Settings) (process : Process runtime) (request : InvocationRequest) (principal : Principal)
    (decision : PolicyDecision) : ToolInvocation → List Write → Db → List (Happening runtime) → Prop :=
  fun invocation pending _ past => ∃ told, Open process request principal told past ∧
    ((¬ Admits settings process request principal told ∧ pending = []) ∨
      (Admits settings process request principal told ∧ Drafted invocation pending ∧
        invocation.permissionClass = decision.permissionClass ∧
        (invocation.state = .awaitingApproval ∨ invocation.state = .ready)))

theorem outcomes_advance {decision : PolicyDecision} {pending : List Write} (opened : Open process request principal told past)
    (admitted : Admits settings process request principal told) (drafted : Drafted row pending)
    (declared : row.permissionClass = decision.permissionClass) (state : row.state = .requested) :
    (outcomes runtime settings).Ok (Accepted settings process request principal decision) (Raises settings process request principal)
      (ToolInvocationService.advance principal row decision) pending db past := by
  unfold ToolInvocationService.advance
  refine Spec.ok_bind (outcomes_transition opened drafted rfl
    (state ▸ (by decide : InvocationState.IsLegalTransition .requested .authorized)) ?_)
  intro pending' now past' drafted opened
  split
  · refine outcomes_transition opened drafted rfl (by decide : InvocationState.IsLegalTransition .authorized .awaitingApproval) ?_
    exact fun _ _ _ drafted opened => ⟨told,opened,.inr ⟨admitted,drafted,declared,.inl rfl⟩⟩
  · refine outcomes_transition opened drafted rfl (by decide : InvocationState.IsLegalTransition .authorized .ready) ?_
    exact fun _ _ _ drafted opened => ⟨told,opened,.inr ⟨admitted,drafted,declared,.inr rfl⟩⟩

theorem outcomes_existing {registration : ToolRegistration} {target : TargetFacts} {digest : String}
    {good : Option ToolInvocation → List Write → Db → List (Happening runtime) → Prop}
    (opened : Open process request principal told past) (learnt : Learnt request told registration target)
    (replayed : ∀ found told' now past', Open process request principal told' past' →
      ¬ Admits settings process request principal told' → good (some found) [] now past')
    (follows : ∀ told' now past', Open process request principal told' past' → Learnt request told' registration target →
      good none [] now past') :
    (outcomes runtime settings).Ok good (Raises settings process request principal)
      (ToolInvocationService.existingForKey request digest) [] db past := by
  unfold ToolInvocationService.existingForKey
  split
  · exact follows told db past opened learnt
  split
  · exact follows told db past opened learnt
  rename_i key _ _
  refine Spec.ok_bind (outcomes_query trivial ?_)
  intro now reply new input answered _
  have unwritten : new = [] := by
    cases answered
    rfl
  subst unwritten
  have called := opened.call (.selectForKey key) reply now
  cases reply with
  | none => exact follows _ now _ called learnt.unreplayed
  | some existing =>
    dsimp only
    split
    · exact replayed existing _ now _ called (not_admits_replay existing)
    · exact called.raises (not_admits_replay existing) _

theorem outcomes_target {registration : ToolRegistration} {good : TargetFacts → List Write → Db → List (Happening runtime) → Prop}
    (opened : Open process request principal [.registration (some registration)] past)
    (follows : ∀ target told now past', Open process request principal told past' → Learnt request told registration target →
      good target [] now past') :
    (outcomes runtime settings).Ok good (Raises settings process request principal)
      (ToolInvocationService.resolveTarget request) [] db past := by
  unfold ToolInvocationService.resolveTarget
  split
  · rename_i assetId named
    refine Spec.ok_bind (outcomes_query trivial ?_)
    intro now reply new input answered _
    cases answered
    refine follows _ _ now _ (opened.call _ _ _) ⟨by simp [note],?_,by simp [note],by simp [note]⟩
    intro other
    simp [Aimed,named,note]
  · rename_i named
    split
    · rename_i targetRef written
      exact follows _ _ db past opened ⟨by simp,by simp [Aimed,named,written],by simp,by simp⟩
    · rename_i written
      exact follows _ _ db past opened ⟨by simp,by simp [Aimed,named,written],by simp,by simp⟩

theorem outcomes_accept {registration : ToolRegistration} {target : TargetFacts} {decision : PolicyDecision} {context : PolicyContext}
    (opened : Open process request principal told past) (learnt : Learnt request told registration target)
    (bound : context.definition.isSome)
    (admitted : ∀ told', Learnt request told' registration target → Admits settings process request principal told') :
    (outcomes runtime settings).Ok (Accepted settings process request principal decision) (Raises settings process request principal)
      (ToolInvocationService.accept runtime request principal registration decision context) [] db past := by
  unfold ToolInvocationService.accept
  split
  · rename_i unbound
    rw [unbound] at bound
    cases bound
  refine Spec.ok_bind (outcomes_existing opened learnt ?_ ?_)
  · exact fun found told' now past' opened refused => ⟨told',opened,.inl ⟨refused,rfl⟩⟩
  · intro told' now past' opened learnt
    unfold ToolInvocationService.persist
    refine Spec.ok_bind (outcomes_creation opened ?_)
    intro row pending now past' drafted snapshot state opened
    exact outcomes_advance opened (admitted told' learnt) drafted (by rw [snapshot]; rfl) state

theorem allowed_declared {context : PolicyContext} (allowed : (PolicyEngine.evaluate runtime context).allowed = true) :
    ∃ definition, context.definition = some definition ∧
      (PolicyEngine.evaluate runtime context).permissionClass = definition.permissionClass := by
  unfold PolicyEngine.evaluate at allowed ⊢
  cases gates : PolicyEngine.gatesOneToFour runtime context with
  | none => simp [gates] at allowed
  | some verdict =>
    cases verdict with
    | error denial =>
      simp only [gates] at allowed
      rw [gatesOneToFour_refused gates] at allowed
      cases allowed
    | ok canonical =>
      obtain ⟨definition,declared,_⟩ := gatesOneToFour_passed gates
      simp only [gates,declared] at allowed ⊢
      refine ⟨definition,rfl,?_⟩
      unfold PolicyEngine.gatesFiveToEight at allowed ⊢
      split at allowed
      · simp at allowed
      split at allowed
      · simp at allowed
      split at allowed
      · simp at allowed
      rename_i held environment
      rw [if_neg held,if_neg environment]

theorem outcomes_create (process : Process runtime) (request : InvocationRequest) (principal : Principal) (db : Db) :
    (outcomes runtime settings).Ok (Returns settings process request principal) (Raises settings process request principal)
      (ToolInvocationService.create runtime request principal process settings) [] db
      [.start (.create process request principal)] := by
  have opened : Open process request principal [] [.start (.create process request principal)] := ⟨rfl,by simp [Uncommitted],rfl⟩
  unfold ToolInvocationService.create ToolInvocationService.registration
  refine Spec.ok_bind (Spec.ok_bind (outcomes_query trivial ?_))
  intro now reply new input answered _
  have unwritten : new = [] := by
    cases answered
    rfl
  subst unwritten
  have called := opened.call (.selectRegistration request.toolName request.toolVersion) reply now
  cases reply with
  | none =>
    refine called.raises ?_ _
    rintro ⟨row,_,_,_,_,found,_⟩
    simp [note] at found
  | some registration =>
    refine Spec.ok_bind (outcomes_query trivial ?_)
    intro later moment new input answered _
    have unwritten : new = [] := by
      cases answered
      rfl
    subst unwritten
    have silent : note (.call .utcNow moment later : Happening runtime) = none := rfl
    have opened : Open process request principal [.registration (some registration)] _ := called.silent silent
    dsimp only
    split
    · rename_i denial refused
      rw [Program.pure_eq,Program.done_bind]
      dsimp only
      rw [if_neg (by simp [evaluatePrerequisites_denies refused])]
      exact outcomes_reject opened (not_admits_of_prerequisites (by simp) refused)
    · refine Spec.ok_bind (outcomes_target opened ?_)
      intro target told now past' opened learnt
      rw [Program.pure_eq,Program.done_bind]
      dsimp only
      split
      · rename_i allowed
        obtain ⟨definition,declared,classed⟩ := allowed_declared allowed
        refine Spec.ok_bind (Spec.ok_weaken ?_ (fun _ _ _ _ raised => raised) _ _ _ _
          (outcomes_accept opened learnt (Option.isSome_of_eq_some declared) fun told' learnt => learnt.admits_iff.mpr allowed))
        rintro invocation pending now past' ⟨told,opened,accepted⟩
        refine outcomes_commit fun last => ⟨opened.began.append _,?_⟩
        rcases accepted with ⟨refused,rfl⟩ | ⟨admitted,drafted,like,waiting⟩
        · left
          rw [notes_commit,opened.heard]
          refine ⟨refused,?_⟩
          rintro writes other ⟨⟨_,member⟩,inserted⟩
          cases opened.brought_commit member
          cases inserted
        · right
          rw [notes_commit,opened.heard]
          obtain ⟨other,inserted⟩ := drafted.inserted
          refine ⟨admitted,invocation,rfl,⟨pending,other,⟨⟨last,by simp⟩,inserted⟩,drafted.alone other inserted⟩,?_,?_,
            ⟨definition,declared,like.trans classed⟩,waiting⟩
          · intro writes seen member
            cases opened.brought_commit member
            exact drafted.current
          · intro writes seen member
            cases opened.brought_commit member
            exact drafted.endless (by rcases waiting with state | state <;> rw [state] <;> decide)
      · rename_i denied
        exact outcomes_reject opened fun admitted => denied (learnt.admits_iff.mp admitted)

end Open

theorem outcomes_verified : (outcomes runtime settings).Verified := by
  intro op db _
  by_cases creates : ∃ process request principal, op = .create process request principal
  · obtain ⟨process,request,principal,rfl⟩ := creates
    refine Spec.ok_bind (Spec.ok_weaken ?_ ?_ _ _ _ _ (outcomes_create process request principal db))
    · intro invocation pending db past returned process' request' principal' began'
      cases returned.1.unique began'
      exact returned.2
    · intro fault pending db past raised process' request' principal' began'
      cases raised.1.unique began'
      exact raised.2
  · have lasts := Spec.ok_lasting (outcomes runtime settings) (fun past => Began past op) (fun _ event began => began.append [event])
      (fun _ _ _ _ => trivial) (fun _ _ _ => ⟨trivial,trivial⟩) (program runtime settings op) [] db [.start op] rfl
    refine Spec.ok_weaken ?_ ?_ _ _ _ _ lasts
    · exact fun value pending db past began process request principal began' =>
        absurd ⟨process,request,principal,began.unique began'⟩ creates
    · exact fun fault pending db past began process request principal began' =>
        absurd ⟨process,request,principal,began.unique began'⟩ creates

end

end Acop
