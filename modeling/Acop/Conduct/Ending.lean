import Acop.Conduct.Outcome

/-! What an execution that raises has left: only the claim can be committed by then, since
nothing that follows the outcome's commit fails. -/
namespace Acop
open Acop.Transaction

section Quiet

variable {α β : Type} {runtime : Runtime} {process : Process runtime} {settings : Settings} {invocation : ToolInvocation}
  {definition : ToolDefinition} {move : Transition}

open Program (Quiet)

theorem quiet_query (stmt : Stmt) : (query stmt).Quiet := fun _ => trivial

theorem quiet_orRaise (value : Except Constraint α) : (orRaise value).Quiet := by
  cases value <;> trivial

theorem quiet_appendEvent {invocationId : Uuid} {fromState : Option InvocationState} {toState : InvocationState}
    {reason : String} {actorSubject : Option String} {detail : JsonObject} :
    (appendEvent invocationId fromState toState reason actorSubject detail).Quiet :=
  .bind (.bind (quiet_query _) fun _ => trivial) fun _ => .bind (quiet_query _) quiet_orRaise

theorem quiet_refresh : (refresh invocation).Quiet := by
  refine .bind (quiet_query _) fun found => ?_
  cases found <;> trivial

theorem quiet_transition : (transition invocation move).Quiet := by
  unfold transition
  dsimp only
  split
  · refine .bind (quiet_query _) fun matched => .bind (quiet_orRaise _) fun won => .bind quiet_refresh fun row => ?_
    split
    · exact .bind quiet_appendEvent fun _ => trivial
    · exact .bind quiet_appendEvent fun _ => trivial
  · trivial

namespace ExecutionDispatcher

theorem quiet_finalGate : (finalGate process invocation).Quiet := by
  unfold finalGate
  split
  · trivial
  refine .bind (quiet_query _) fun registration => ?_
  split
  · trivial
  split
  · refine .bind (quiet_query _) fun approvals => .bind (quiet_query _) fun moment => ?_
    split <;> trivial
  · trivial

theorem quiet_fail {toState : InvocationState} {category : ToolErrorCategory} {reason : String} :
    (fail invocation toState category reason).Quiet :=
  .bind (quiet_query _) fun _ => .bind quiet_transition fun _ => trivial

theorem quiet_adapterRequest : (adapterRequest invocation definition).Quiet := by
  refine .bind ?_ fun _ => trivial
  unfold resolvedTarget
  split
  · refine .bind (quiet_query _) fun asset => ?_
    cases asset
    · trivial
    · exact .bind (quiet_query _) fun _ => trivial
  · trivial

theorem quiet_bindJsonb {entries : List (PyValue × PyValue)} : (bindJsonb runtime entries).Quiet := by
  unfold bindJsonb
  split <;> trivial

theorem quiet_declaredOutput {payload : List (PyValue × PyValue)} : (declaredOutput runtime definition payload).Quiet := by
  unfold declaredOutput
  split
  · trivial
  · split <;> trivial
  · trivial

theorem quiet_recordAdapterResult {result : AdapterResult} : (recordAdapterResult runtime invocation definition result).Quiet := by
  unfold recordAdapterResult
  split
  · exact quiet_fail
  · exact quiet_fail
  · exact quiet_fail
  refine .bind quiet_declaredOutput fun declared => ?_
  split
  · exact quiet_fail
  · refine .bind ?_ fun hint => .bind quiet_transition fun row => trivial
    unfold bindHint
    split
    · trivial
    · exact .bind quiet_bindJsonb fun _ => trivial

theorem quiet_attempts {adapter : String} {request : AdapterRequest} (left : Nat) (last : ToolErrorCategory) :
    (attempts runtime invocation definition adapter request left last).Quiet := by
  induction left generalizing last with
  | zero => exact quiet_fail
  | succ left ih =>
    refine .bind (quiet_query _) fun reply => ?_
    cases reply with
    | timedOut => exact quiet_fail
    | toolError category =>
      dsimp only
      split
      · exact .bind (quiet_query _) fun _ => ih category
      · exact quiet_fail
    | raised => exact quiet_fail
    | result result => exact quiet_recordAdapterResult

theorem quiet_execute : (execute process invocation definition).Quiet := by
  unfold execute
  split
  · exact quiet_fail
  · exact .bind quiet_adapterRequest fun _ => quiet_attempts _ _

theorem quiet_validation : (validation process invocation definition).Quiet := by
  unfold validation
  split
  · trivial
  · exact .bind quiet_adapterRequest fun _ => .bind (quiet_query _) fun _ => trivial

theorem quiet_pause {condition : Prop} [Decidable condition] {seconds : Rat} {rest : Unit → Service α} (quiet : (rest ()).Quiet) :
    (if condition then query (.sleep seconds) >>= rest else rest ()).Quiet := by
  split
  · exact .bind (quiet_query _) fun _ => quiet
  · exact quiet

theorem quiet_afterExecution : (afterExecution process settings invocation definition).Quiet := by
  unfold afterExecution
  split
  · refine .bind (quiet_query _) fun leaseId => .bind (quiet_query _) fun now => .bind quiet_transition fun row => ?_
    refine quiet_pause (.bind quiet_validation fun observation => .bind (quiet_query _) fun now => .bind quiet_bindJsonb fun detail => ?_)
    split
    · exact .bind quiet_transition fun _ => trivial
    · exact .bind quiet_transition fun _ => trivial
  · exact .bind (quiet_query _) fun _ => .bind quiet_transition fun _ => trivial

theorem quiet_runGated {gate : GateResult} : (runGated process settings invocation gate).Quiet := by
  unfold runGated
  split
  · exact .bind (quiet_query _) fun _ => .bind quiet_transition fun _ => trivial
  · refine .bind quiet_execute fun ended => ?_
    dsimp only
    split
    · exact quiet_afterExecution
    · trivial

end ExecutionDispatcher

end Quiet

section Sessions

variable {α : Type} {runtime : Runtime} {settings : Settings} {pending new writes : List Write} {db : Db}
  {past : List (Happening runtime)}

theorem Endless.nil : Endless [] := fun _ _ final unchanged ended => ⟨final,unchanged,ended⟩

theorem Endless.append (first : Endless pending) (second : Endless new) : Endless (pending ++ new) := by
  intro id old final became ended
  rw [rowAfter_append] at became
  obtain ⟨between,there,ended⟩ := second id _ final became ended
  exact first id old between there ended

theorem Beside.endless (beside : Beside new) : Endless new := by
  intro id old final became ended
  rw [beside.unchanged] at became
  exact ⟨final,became,ended⟩

theorem Endless.advance {id : Uuid} {progress : InvocationProgress} (going : ¬ progress.state.Terminal) :
    Endless [.advance id progress] := by
  intro other old final became ended
  simp only [rowAfter_cons,rowAfter_nil,Write.onRow] at became
  split at became
  · obtain ⟨row,_,rfl⟩ := Option.map_eq_some_iff.mp became
    exact absurd ended going
  · exact ⟨final,became,ended⟩

theorem EndedNone.call (none : EndedNone past) (stmt : Stmt) (reply : Reply stmt) (seen : Db) :
    EndedNone (past ++ [.call stmt reply seen]) := by
  intro writes seen' member
  rcases List.mem_append.mp member with earlier | last
  · exact none writes seen' earlier
  · cases List.mem_singleton.mp last

theorem EndedNone.commit (none : EndedNone past) (endless : Endless writes) (seen : Db) :
    EndedNone (past ++ [.commit writes seen]) := by
  intro other seen' member
  rcases List.mem_append.mp member with earlier | last
  · exact none other seen' earlier
  · cases List.mem_singleton.mp last
    exact endless

/-- The judgement of an execution by what it has committed when it raises. -/
def raising (runtime : Runtime) (settings : Settings) : Spec (acop runtime settings) where
  Inv _ := True
  Com _ _ := True
  Agree _ _ _ := True
  assume _ _ _ _ := True
  duty past event := match event with
    | .answer (.error _) => ∀ process id, Began past (.executeOnce process id) → EndedNone past
    | _ => True
  agree_refl _ _ := trivial
  agree_trans _ _ _ _ _ _ := trivial
  guarantee _ _ _ _ _ _ := trivial
  preserves _ _ _ _ := trivial
  duty_start _ := trivial
  duty_crash _ := trivial

variable {good : α → List Write → Db → List (Happening runtime) → Prop}

def Unended : Fault → List Write → Db → List (Happening runtime) → Prop := fun _ _ _ past => EndedNone past

theorem raising_quiet {program : Service α} (quiet : program.Quiet) (none : EndedNone past)
    (follows : ∀ value pending now past', EndedNone past' → good value pending now past') :
    (raising runtime settings).Ok good Unended program pending db past :=
  Spec.ok_quiet EndedNone (fun _ stmt reply seen none => none.call stmt reply seen) (fun _ _ _ _ => trivial) quiet none follows

theorem raising_commit {rest : Unit → Service α} (follows : ∀ now,
      (raising runtime settings).Ok good Unended (rest ()) [] (view now pending) (past ++ [.commit pending now])) :
    (raising runtime settings).Ok good Unended (Program.commitNow >>= rest) pending db past :=
  fun now _ _ => ⟨trivial,trivial,follows now⟩

theorem raising_query {stmt : Stmt} {good : Reply stmt → List Write → Db → List (Happening runtime) → Prop} (none : EndedNone past)
    (follows : ∀ now input reply new, exec stmt (view now pending) input = some (reply,new) →
      EndedNone (past ++ [.call stmt reply now]) → good reply (pending ++ new) now (past ++ [.call stmt reply now])) :
    (raising runtime settings).Ok good Unended (query stmt) pending db past :=
  fun now _ _ _ input reply new answered => ⟨trivial,follows now input reply new answered (none.call stmt reply now)⟩

theorem raising_aside {stmt : Stmt} {good : Reply stmt → List Write → Db → List (Happening runtime) → Prop} (aside : stmt.Aside)
    (none : EndedNone past) (endless : Endless pending)
    (follows : ∀ reply pending' now past', EndedNone past' → Endless pending' → good reply pending' now past') :
    (raising runtime settings).Ok good Unended (query stmt) pending db past := by
  refine raising_query none ?_
  intro now input reply new answered none
  exact follows reply _ now _ none (endless.append (beside_of_exec aside answered).endless)

theorem raising_appendEvent {invocationId : Uuid} {fromState : Option InvocationState} {toState : InvocationState}
    {reason : String} {actorSubject : Option String} {detail : JsonObject}
    {good : ToolInvocationEvent → List Write → Db → List (Happening runtime) → Prop} (none : EndedNone past) (endless : Endless pending)
    (follows : ∀ event pending' now past', EndedNone past' → Endless pending' → good event pending' now past') :
    (raising runtime settings).Ok good Unended
      (appendEvent invocationId fromState toState reason actorSubject detail) pending db past := by
  unfold appendEvent nextSequence
  refine Spec.ok_bind (Spec.ok_bind (raising_aside trivial none endless ?_))
  intro highest pending now past none endless
  refine Spec.ok_bind (raising_aside trivial none endless ?_)
  intro event pending now past none endless
  cases event with
  | error broken => exact none
  | ok event => exact follows event pending now past none endless

theorem raising_claim {good : Bool → List Write → Db → List (Happening runtime) → Prop} {id leaseId : Uuid}
    {leaseExpiresAt deadlineAt : Time} (none : EndedNone past) (endless : Endless pending)
    (follows : ∀ won pending' now past', EndedNone past' → Endless pending' → good won pending' now past') :
    (raising runtime settings).Ok good Unended (claimForExecution id leaseId leaseExpiresAt deadlineAt) pending db past := by
  unfold claimForExecution
  refine Spec.ok_bind (raising_aside trivial none endless ?_)
  intro startedAt pending now past none endless
  refine Spec.ok_bind (raising_query none ?_)
  intro now input matched new answered none
  have claimed : Endless new := by
    simp only [exec] at answered
    rcases updateWhere_cases (Option.some.inj answered) with ⟨row,_,_,_,_,rfl⟩ | ⟨_,rfl⟩ | ⟨_,_,rfl,_⟩
    · exact .advance (show ¬ InvocationState.executing.Terminal by decide)
    · exact .nil
    · exact .nil
  cases matched with
  | error broken => exact none
  | ok won =>
    cases won with
    | false => exact follows false _ now _ none (endless.append claimed)
    | true =>
      refine Spec.ok_bind (ok_unbroken ?_)
      refine Spec.ok_bind (raising_appendEvent none (endless.append claimed) ?_)
      intro event pending now past none endless
      exact follows true pending now past none endless

namespace ExecutionDispatcher

theorem raising_runClaimed {process : Process runtime} {id leaseId : Uuid} (none : EndedNone past) :
    (raising runtime settings).Ok (fun _ _ _ _ => True) Unended (runClaimed process settings id leaseId) pending db past := by
  refine Spec.ok_bind (raising_quiet (quiet_query _) none ?_)
  intro found pending now past none
  cases found with
  | none => exact none
  | some invocation =>
    refine Spec.ok_bind (raising_quiet quiet_finalGate none ?_)
    intro gate pending now past none
    refine Spec.ok_bind (raising_quiet quiet_appendEvent none ?_)
    intro event pending now past none
    refine Spec.ok_bind (raising_quiet (.bind (quiet_query _) quiet_orRaise) none ?_)
    intro owned pending now past none
    refine Spec.ok_bind (raising_quiet quiet_refresh none ?_)
    intro row pending now past none
    cases owned with
    | false => exact raising_commit fun _ => trivial
    | true =>
      refine Spec.ok_bind (raising_quiet quiet_runGated none ?_)
      intro state pending now past none
      exact raising_commit fun _ => trivial

theorem raising_executeOnce {process : Process runtime} {id : Uuid} (none : EndedNone past) :
    (raising runtime settings).Ok (fun _ _ _ _ => True) Unended (executeOnce process settings id) [] db past := by
  refine Spec.ok_bind (raising_aside trivial none .nil ?_)
  intro leaseId pending now past none endless
  refine Spec.ok_bind (raising_aside trivial none endless ?_)
  intro moment pending now past none endless
  refine Spec.ok_bind (raising_aside trivial none endless ?_)
  intro found pending now past none endless
  cases found with
  | none => exact none
  | some invocation =>
    dsimp only
    split
    · refine Spec.ok_bind (raising_claim none endless ?_)
      intro won pending now past none endless
      cases won with
      | true => exact raising_commit fun seen => raising_runClaimed (none.commit endless seen)
      | false =>
        refine Spec.ok_bind (raising_quiet quiet_refresh none ?_)
        intro row pending now past none
        exact raising_commit fun _ => trivial
    · exact raising_commit fun _ => trivial

end ExecutionDispatcher

theorem raising_verified : (raising runtime settings).Verified := by
  intro op db _
  have none : EndedNone [(.start op : Happening runtime)] := fun writes seen member => by cases List.mem_singleton.mp member
  by_cases executes : ∃ process id, op = .executeOnce process id
  · obtain ⟨process,id,rfl⟩ := executes
    refine Spec.ok_bind (Spec.ok_weaken ?_ ?_ _ _ _ _ (ExecutionDispatcher.raising_executeOnce none))
    · exact fun _ _ _ _ _ => trivial
    · exact fun _ _ _ _ ended _ _ _ => ended
  · refine Spec.ok_weaken ?_ ?_ _ _ _ _ (Spec.ok_lasting (raising runtime settings) (fun past => Began past op) ?_ ?_ ?_ _ [] db [.start op] rfl)
    · exact fun _ _ _ _ _ => trivial
    · exact fun fault pending db past began process id began' => absurd ⟨process,id,began.unique began'⟩ executes
    · exact fun past event began => began.append [event]
    · exact fun _ _ _ _ => trivial
    · exact fun _ _ _ => ⟨trivial,trivial⟩

end Sessions

end Acop
