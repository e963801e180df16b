import Acop.Rest

/-! One rule for each program the services share: what a statement, an event or a
compare-and-set leaves behind, on the way it succeeds and on the ways it does not. -/
namespace Acop

open Acop.Transaction

def Stmt.Plain : Stmt → Prop
  | .utcNow | .uuid4 | .sleep _ | .getInvocation _ | .getRegistration _ | .selectRegistration _ _ | .getAsset _
  | .selectIdentifiers _ | .maxSequence _ | .countApprovers _ | .approvedRows _ | .expiredLeases _ _
  | .sweepCandidates _ => True
  | _ => False

/-- Statements that owe nothing where they are issued. -/
def Stmt.Routine : Stmt → Prop
  | .adapterExecute _ _ | .adapterValidate _ _ | .claimReady _ _ _ _ _ | .selectForKey _ => False
  | _ => True

theorem Stmt.Plain.routine {stmt : Stmt} (plain : stmt.Plain) : stmt.Routine := by
  cases stmt <;> trivial

theorem exec_plain {stmt : Stmt} (plain : stmt.Plain) {db : Db} {input : Input} {reply : Reply stmt}
    {new : List Write} (answered : exec stmt db input = some (reply,new)) : new = [] := by
  cases stmt <;> first | exact plain.elim | (simp [exec] at answered; simp [answered])

/-- No refusal of the unique index over idempotency keys. -/
def Fault.Ordinary (fault : Fault) : Prop := fault ≠ .integrity .idempotencyKey

theorem violation_kind {row : ToolInvocation} {broken : Constraint} (violated : row.violation = some broken) :
    broken ≠ .idempotencyKey := by
  rintro rfl
  obtain ⟨check,found,kind⟩ := Option.map_eq_some_iff.mp violated
  have member := List.mem_of_find?_eq_some found
  simp only [ToolInvocation.checks,List.mem_cons,List.not_mem_nil,or_false] at member
  rcases member with rfl | rfl | rfl | rfl | rfl | rfl | rfl | rfl | rfl | rfl | rfl | rfl | rfl | rfl <;> cases kind

theorem updateWhere_cases {db : Db} {id : Uuid} {matching : ToolInvocation → Bool}
    {change : InvocationProgress → InvocationProgress} {result : Except Constraint Bool} {new : List Write}
    (answered : updateWhere db id matching change = (result,new)) :
    (∃ row, db.invocations.lookup id = some row ∧ matching row = true ∧
      (row.advance (change row.toInvocationProgress)).violation = none ∧ result = .ok true ∧
      new = [.advance id (change row.toInvocationProgress)]) ∨
    (result = .ok false ∧ new = []) ∨
    (∃ broken, result = .error broken ∧ new = [] ∧ broken ≠ .idempotencyKey) := by
  unfold updateWhere at answered
  split at answered
  · cases answered
    exact .inr (.inl ⟨rfl,rfl⟩)
  · rename_i row present
    split at answered
    · rename_i matched
      split at answered
      · rename_i broken violated
        cases answered
        exact .inr (.inr ⟨broken,rfl,rfl,violation_kind violated⟩)
      · rename_i checked
        cases answered
        exact .inl ⟨row,present,matched,checked,rfl,rfl⟩
    · cases answered
      exact .inr (.inl ⟨rfl,rfl⟩)

theorem insertEventRow_ok {db : Db} {draft : EventDraft} {id : Uuid} {now : Time} {event : ToolInvocationEvent}
    (ok : insertEventRow db draft id now = .ok event) : event.toEventDraft = draft ∧
      (∃ row, db.invocations.lookup draft.invocationId = some row) ∧
      ∀ other ∈ db.eventsOf draft.invocationId, other.sequence ≠ draft.sequence := by
  unfold insertEventRow at ok
  split at ok
  · cases ok
  split at ok
  · cases ok
  split at ok
  · cases ok
  rename_i _ _ unused
  split at ok
  · cases ok
  rename_i present
  cases ok
  refine ⟨rfl,?_,fun other member same => unused ⟨other,member,same⟩⟩
  exact AList.lookup_isSome.mpr (not_not.mp present) |> Option.isSome_iff_exists.mp

theorem insertEventRow_error {db : Db} {draft : EventDraft} {id : Uuid} {now : Time} {broken : Constraint}
    (refused : insertEventRow db draft id now = .error broken) : broken ≠ .idempotencyKey := by
  rintro rfl
  unfold insertEventRow at refused
  repeat' split at refused
  all_goals cases refused

section

variable {mode : Mode} {runtime : Runtime} {settings : Settings}
  {may : Uuid → InvocationState → InvocationState → Prop} {pending : List Write} {db now : Db}
  {past trail : List (Happening runtime)} {α β : Type}

/-- A history that went on without adapter, claim, lookup by key or commit. -/
inductive Onward (past : List (Happening runtime)) : List (Happening runtime) → Prop
  | refl : Onward past past
  | call (past' : List (Happening runtime)) (stmt : Stmt) (reply : Reply stmt) (db : Db) (onward : Onward past past')
      (routine : stmt.Routine) : Onward past (past' ++ [.call stmt reply db])

theorem Onward.one (stmt : Stmt) (routine : stmt.Routine) (reply : Reply stmt) (db : Db) :
    Onward past (past ++ [.call stmt reply db]) := .call past stmt reply db .refl routine

theorem Onward.trans {past' past'' : List (Happening runtime)} (first : Onward past past')
    (second : Onward past' past'') : Onward past past'' := by
  induction second with
  | refl => exact first
  | call middle stmt reply db _ routine ih => exact .call middle stmt reply db ih routine

theorem executed_append (first second : List (Happening runtime)) :
    executed (first ++ second) = executed first ++ executed second := List.filterMap_append

theorem Onward.executed {past' : List (Happening runtime)} (onward : Onward past past') :
    executed past' = executed past := by
  induction onward with
  | refl => rfl
  | call middle stmt reply db _ routine ih =>
    rw [executed_append,ih]
    cases stmt <;> first | exact List.append_nil _ | exact routine.elim

theorem Onward.mem {past' : List (Happening runtime)} (onward : Onward past past') {event : Happening runtime}
    (member : event ∈ past) : event ∈ past' := by
  induction onward with
  | refl => exact member
  | call middle stmt reply db _ _ ih => exact List.mem_append_left _ ih

theorem Onward.lookup {past' : List (Happening runtime)} (onward : Onward past past') {key : String}
    {reply : Option ToolInvocation} {seen : Db} (member : .call (.selectForKey key) reply seen ∈ past') :
    .call (.selectForKey key) reply seen ∈ past := by
  induction onward with
  | refl => exact member
  | call middle stmt reply db _ routine ih =>
    rcases List.mem_append.mp member with old | new
    · exact ih old
    · cases List.mem_singleton.mp new
      exact routine.elim

theorem Onward.began {past' : List (Happening runtime)} (onward : Onward past past') {op : Op runtime}
    (began : Began past op) : Began past' op := by
  induction onward with
  | refl => exact began
  | call middle stmt reply db _ _ ih =>
    unfold Began at ih ⊢
    simp [ih]

theorem Onward.more {past' : List (Happening runtime)} (onward : Onward past past') : past <+: past' := by
  induction onward with
  | refl => exact List.prefix_refl _
  | call middle stmt reply db _ _ ih => exact ih.trans (List.prefix_append _ _)

/-- No session but a `create` looks an idempotency key up. -/
def Unasked (past : List (Happening runtime)) : Prop :=
  ∀ key reply seen, .call (.selectForKey key) reply seen ∉ past

theorem Unasked.onward {past' : List (Happening runtime)} (unasked : Unasked past) (onward : Onward past past') : Unasked past' :=
  fun key reply seen member => unasked key reply seen (onward.lookup member)

/-- Nothing but that the session still runs the operation it began with. -/
def Belonging (op : Op runtime) : α → List Write → Db → List (Happening runtime) → Prop :=
  fun _ _ _ past => Began past op

theorem Began.committed {op : Op runtime} (began : Began past op) (writes : List Write) (db : Db) :
    Began (past ++ [.commit writes db]) op := by
  unfold Began at began ⊢
  simp [began]

/-- The judgment of this deployment's discipline. -/
abbrev Ok (mode : Mode) (settings : Settings)
    (good : α → List Write → Db → List (Happening runtime) → Prop)
    (bad : Fault → List Write → Db → List (Happening runtime) → Prop) (program : Service α)
    (pending : List Write) (db : Db) (past : List (Happening runtime)) : Prop :=
  (discipline mode runtime settings).Ok good bad program pending db past

variable {good : α → List Write → Db → List (Happening runtime) → Prop}
  {bad : Fault → List Write → Db → List (Happening runtime) → Prop}

theorem ok_step (stmt : Stmt) {rest : Reply stmt → Service α}
    (ok : ∀ now, Agree (locksOf pending) db now → Inv mode settings now → promised mode past stmt pending now →
      ∀ input reply new, exec stmt (view now pending) input = some (reply,new) →
        callDuty past stmt reply now ∧
        Ok mode settings good bad (rest reply) (pending ++ new) now
          (past ++ [.call stmt reply now])) :
    Ok mode settings good bad (query stmt >>= rest) pending db past := ok

theorem ok_commit {rest : Unit → Service α}
    (ok : ∀ now, Agree (locksOf pending) db now → Inv mode settings now →
      Commits mode settings pending now ∧ CommitDuty past pending now ∧
        Ok mode settings good bad (rest ()) [] (view now pending) (past ++ [.commit pending now])) :
    Ok mode settings good bad (Program.commitNow >>= rest) pending db past := ok

theorem callDuty_plain {stmt : Stmt} (routine : stmt.Routine) (reply : Reply stmt) (db : Db) :
    callDuty past stmt reply db := by
  cases stmt <;> trivial

theorem ok_read (stmt : Stmt) {rest : Reply stmt → Service α} (plain : stmt.Plain)
    (ok : ∀ now, Agree (locksOf pending) db now → Inv mode settings now → ∀ input reply,
      exec stmt (view now pending) input = some (reply,[]) →
        Ok mode settings good bad (rest reply) pending now (past ++ [.call stmt reply now])) :
    Ok mode settings good bad (query stmt >>= rest) pending db past := by
  refine ok_step stmt fun now agree inv _ input reply new answered => ?_
  cases exec_plain plain answered
  refine ⟨callDuty_plain plain.routine reply now,?_⟩
  simpa using ok now agree inv input reply answered

theorem next_number {n : Nat} : ((List.range' 1 n).max?.getD 0) + 1 = n + 1 := by
  cases n with
  | zero => rfl
  | succ n =>
    have last : (List.range' 1 (n + 1)).max? = some (n + 1) := by
      rw [List.max?_eq_some_iff]
      refine ⟨by simp,?_⟩
      intro m member
      simp at member
      omega
    simp [last]

def Told (db : Db) (id : Uuid) (fromState : Option InvocationState) (toState : InvocationState) (reason : String)
    (actorSubject : Option String) (detail : JsonObject) (event : ToolInvocationEvent) : Prop :=
  event.toEventDraft = {
    detail := redactObject detail
    invocationId := id
    sequence := (db.eventsOf id).length + 1
    fromState, toState, actorSubject, reason}

theorem ok_appendEvent {good : ToolInvocationEvent → List Write → Db → List (Happening runtime) → Prop}
    {id : Uuid} {fromState : Option InvocationState} {toState : InvocationState} {reason : String}
    {actorSubject : Option String} {detail : JsonObject}
    (numbered : ∀ now, Agree (locksOf pending) db now → Inv mode settings now →
      ((view now pending).eventsOf id).map (·.sequence) = List.range' 1 ((view now pending).eventsOf id).length)
    (appended : ∀ now event past', Agree (locksOf pending) db now → Inv mode settings now → Onward past past' →
      (∃ row, (view now pending).invocations.lookup id = some row) →
      Told (view now pending) id fromState toState reason actorSubject detail event →
      good event (pending ++ [.insertEvent event]) now past')
    (refused : ∀ fault now past', fault.Ordinary → ¬ fault.IsStale → Onward past past' → bad fault pending now past') :
    Ok mode settings good bad (appendEvent id fromState toState reason actorSubject detail) pending db past := by
  unfold appendEvent nextSequence
  refine Spec.ok_bind (ok_read (.maxSequence id) trivial fun first agree inv input highest read => ?_)
  refine ok_step (.insertEvent _) fun second agree' inv' _ input' reply new answered => ⟨trivial,?_⟩
  have both := agree.trans agree'
  have onward : Onward past _ := (Onward.one (.maxSequence id) trivial highest first).trans
    (.one (.insertEvent _) trivial reply second)
  have highest_eq : highest.getD 0 + 1 = ((view first pending).eventsOf id).length + 1 := by
    simp only [exec,Option.some.injEq,Prod.mk.injEq,and_true] at read
    rw [← read,numbered first agree inv,next_number]
  simp only [exec,inserted,Option.some.injEq] at answered
  split at answered
  · rename_i event ok
    cases answered
    obtain ⟨told,present,unused⟩ := insertEventRow_ok ok
    have grown : ((view first pending).eventsOf id).length ≤ ((view second pending).eventsOf id).length := by
      simpa [view_eventsOf] using (agree'.events id).length_le
    have same : ((view second pending).eventsOf id).length = ((view first pending).eventsOf id).length := by
      refine le_antisymm (not_lt.mp fun more => ?_) grown
      have member : highest.getD 0 + 1 ∈ ((view second pending).eventsOf id).map (·.sequence) := by
        rw [numbered second both inv',highest_eq,List.mem_range'_1]
        omega
      obtain ⟨other,there,taken⟩ := List.mem_map.mp member
      exact unused other there taken
    refine appended second event _ both inv' onward present ?_
    rw [Told,told,highest_eq,same]
  · rename_i broken ok
    cases answered
    rw [List.append_nil]
    exact refused _ second _ (fun same => insertEventRow_error ok (Fault.integrity.inj same)) not_false onward

theorem ok_note {good : ToolInvocationEvent → List Write → Db → List (Happening runtime) → Prop} {id : Uuid}
    {state : InvocationState} {reason : String} {actorSubject : Option String} {detail : JsonObject}
    (rest : Rest mode settings may pending db)
    (noted : ∀ now event past', Agree (locksOf pending) db now → Inv mode settings now → Onward past past' →
      Rest mode settings may (pending ++ [.insertEvent event]) now → event.invocationId = id →
      good event (pending ++ [.insertEvent event]) now past')
    (refused : ∀ fault now past', fault.Ordinary → ¬ fault.IsStale → Onward past past' → bad fault pending now past') :
    Ok mode settings good bad (appendEvent id (some state) state reason actorSubject detail) pending db past := by
  refine ok_appendEvent (fun now agree inv => (rest.follow agree).numbered inv id) ?_ refused
  intro now event past' agree inv onward present told
  obtain ⟨row,there⟩ := present
  have own : event.invocationId = id := congrArg EventDraft.invocationId told
  refine noted now event past' agree inv onward ?_ own
  subst own
  exact (rest.follow agree).note inv there (congrArg EventDraft.sequence told)
    ((congrArg EventDraft.fromState told).trans (congrArg some (congrArg EventDraft.toState told).symm))

structure Moved (invocation : ToolInvocation) (move : Transition) (pending pending' : List Write) (now : Db)
    (before row : ToolInvocation) : Prop where
  source : before.state = invocation.state
  legal : InvocationState.IsLegalTransition invocation.state move.toState
  matched : ∀ lease ∈ move.expected, lease.Matches before
  was : (view now pending).invocations.lookup invocation.id = some before
  becomes : row = before.advance ((move.columns before.toInvocationProgress).into move.toState)
  owned : Owned pending' now invocation.id row
  writes : ∃ event, event.invocationId = invocation.id ∧
    pending' = pending ++ [.advance invocation.id row.toInvocationProgress,.insertEvent event]

theorem ok_refresh {good : ToolInvocation → List Write → Db → List (Happening runtime) → Prop}
    {invocation : ToolInvocation}
    (found : ∀ now row past', Agree (locksOf pending) db now → Inv mode settings now → Onward past past' →
      (view now pending).invocations.lookup invocation.id = some row → good row pending now past')
    (refused : ∀ fault now past', fault.Ordinary → ¬ fault.IsStale → Onward past past' → bad fault pending now past') :
    Ok mode settings good bad (refresh invocation) pending db past := by
  refine ok_read (.getInvocation invocation.id) trivial fun now agree inv input reply read => ?_
  have onward : Onward past _ := .one (.getInvocation invocation.id) trivial reply now
  simp only [exec,Option.some.injEq,Prod.mk.injEq,and_true] at read
  cases reply with
  | none => exact refused .unclassified now _ (by simp [Fault.Ordinary]) not_false onward
  | some row => exact found now row _ agree inv onward read

theorem ok_transition {good : ToolInvocation → List Write → Db → List (Happening runtime) → Prop}
    {invocation : ToolInvocation} {move : Transition} (rest : Rest mode settings may pending db)
    (allowed : InvocationState.IsLegalTransition invocation.state move.toState → ∀ state, state.Steady →
      state = invocation.state ∨ may invocation.id state invocation.state → may invocation.id state move.toState)
    (won : ∀ now before row pending' past', Agree (locksOf pending) db now → Inv mode settings now →
      Rest mode settings may pending' now → Moved invocation move pending pending' now before row →
      Onward past past' → good row pending' now past')
    (stale : ∀ fault now event past', fault.IsStale → Agree (locksOf pending) db now → Inv mode settings now →
      Rest mode settings may (pending ++ [.insertEvent event]) now → Onward past past' →
      bad fault (pending ++ [.insertEvent event]) now past')
    (refused : ∀ fault pending' now past', fault.Ordinary → ¬ fault.IsStale → Onward past past' →
      bad fault pending' now past') :
    Ok mode settings good bad (transition invocation move) pending db past := by
  unfold transition
  dsimp only
  split
  swap
  · exact refused (illegalTransition invocation move.toState) pending db past
      (by simp [Fault.Ordinary,illegalTransition]) not_false .refl
  rename_i legal
  refine ok_step (.compareAndSet _ _ _ _ _) fun first agree inv _ input result new answered => ⟨trivial,?_⟩
  have asked : Onward past _ := .one (.compareAndSet invocation.id invocation.state move.toState move.expected
    move.columns) trivial result first
  have rest := rest.follow agree
  rcases updateWhere_cases (Option.some.inj answered) with ⟨before,was,matched,checked,rfl,rfl⟩ | ⟨rfl,rfl⟩ |
    ⟨broken,rfl,rfl,kind⟩
  · -- the row matched: it is read back under the lock, and the event follows
    simp only [orRaise,Program.pure_eq,Program.done_bind,if_true]
    simp only [decide_eq_true_eq] at matched
    have keyed : before.id = invocation.id := ((rest.here inv _).coherent before was).keyed
    have becomes : ∀ now, Agree (locksOf (pending ++ [.advance invocation.id
        ((move.columns before.toInvocationProgress).into move.toState)])) first now →
        (view now (pending ++ [.advance invocation.id ((move.columns before.toInvocationProgress).into
          move.toState)])).invocations.lookup invocation.id =
          some (before.advance ((move.columns before.toInvocationProgress).into move.toState)) := by
      intro now agree'
      rw [rowAfter_append_view,view_lookup_of_held agree' (by simp [Write.locks]),was]
      simp [Write.onRow]
    refine Spec.ok_bind (ok_refresh ?_ fun fault now past' ordinary fresh onward =>
      refused fault _ now past' ordinary fresh (asked.trans onward))
    intro second row past' agree' inv' onward there
    cases Option.some.inj (there.symm.trans (becomes second agree'))
    refine Spec.ok_bind (ok_appendEvent ?_ ?_ fun fault now past'' ordinary fresh onward' =>
      refused fault _ now past'' ordinary fresh (asked.trans (onward.trans onward')))
    · intro now further inv''
      have numbered := (rest.follow ((agree'.trans further).mono (by simp))).numbered inv'' before.id
      simpa [view_eventsOf,Write.eventsOn] using numbered
    intro third event past'' further inv'' onward' _ told
    have own : event.invocationId = invocation.id := by simpa [keyed] using congrArg EventDraft.invocationId told
    have numbered := congrArg EventDraft.sequence told
    simp only [ToolInvocation.advance_id,keyed] at numbered
    have onwards := agree'.trans further
    simp only [List.append_assoc,List.cons_append,List.nil_append]
    refine won third before _ _ _ (agree.trans (onwards.mono (by simp))) inv'' ?_ ?_
      (asked.trans (onward.trans onward'))
    · exact rest.move was (matched.1 ▸ legal) checked (matched.1 ▸ allowed legal) onwards inv'' own numbered
        ((congrArg EventDraft.fromState told).trans (by rw [matched.1])) (congrArg EventDraft.toState told)
    · exact {
        source := matched.1
        legal
        matched := matched.2
        was := (view_lookup_of_held onwards (by simp [Write.locks]) pending).trans was
        becomes := rfl
        owned := by
          refine ⟨by simp [Write.locks],?_⟩
          rw [rowAfter_append_view,view_lookup_of_held onwards (by simp [Write.locks]),was]
          simp [Write.onRow]
        writes := ⟨event,own,rfl⟩}
  · -- the race was lost: what is there now is noted
    simp only [orRaise,Program.pure_eq,Program.done_bind]
    rw [List.append_nil]
    refine Spec.ok_bind (ok_refresh ?_ fun fault now past' ordinary fresh onward =>
      refused fault _ now past' ordinary fresh (asked.trans onward))
    intro second row past' agree' inv' onward there
    refine Spec.ok_bind (ok_note (rest.follow agree') ?_ fun fault now past'' ordinary fresh onward' =>
      refused fault _ now past'' ordinary fresh (asked.trans (onward.trans onward')))
    intro third event past'' further inv'' onward' noted _
    exact stale _ third event past'' trivial (agree.trans (agree'.trans further)) inv'' noted
      (asked.trans (onward.trans onward'))
  · exact refused _ _ _ _ (fun same => kind (Fault.integrity.inj same)) not_false asked

end

end Acop
