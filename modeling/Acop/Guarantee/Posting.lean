import Acop.Conduct.Ending
import Acop.Service.Route
import Acop.Laboratory

/-! What a request to create an invocation leaves behind when it is answered with an error. -/
namespace Acop
open Acop.Transaction

section

variable {runtime : Runtime} {settings : Settings} {process : Process runtime} {payload : InvocationCreate}
  {principal : Principal} {created : Except Fault ToolInvocation} {runInline : ToolInvocation → Except Fault InvocationState}
  {start db : Db} {w : World Reply Fault Answer (Op runtime) Db Write} {id inline : Nat} {writes : List Write}
  {row : ToolInvocation} {error : RouteError}

structure Route.Inlines (payload : InvocationCreate) (created : Except Fault ToolInvocation) (invocation : ToolInvocation) : Prop where
  returned : created = .ok invocation
  justified : Route.requireJustification invocation payload = .ok ()
  inlineClass : invocation.permissionClass ∈ Route.inlineClasses
  ready : invocation.state = .ready

/-- One session served the request, and `create` has answered this; the other is the execution that the
route runs inline, where it runs one. At its deadline it is cut off, and `run_inline` reads the state. -/
structure Posted (process : Process runtime) (payload : InvocationCreate) (principal : Principal)
    (created : Except Fault ToolInvocation) (runInline : ToolInvocation → Except Fault InvocationState)
    (w : World Reply Fault Answer (Op runtime) Db Write) (id inline : Nat) : Prop where
  began : Began (history w.trace id) (.create process payload.toInvocationRequest principal)
  answered : (history w.trace id).getLast? = some (.answer (created.map .invocation))
  inlined : ∀ invocation, Route.Inlines payload created invocation →
    Began (history w.trace inline) (.executeOnce process invocation.id) ∧
      ((history w.trace inline).getLast? = some (.answer ((runInline invocation).map .state)) ∨
        ((history w.trace inline).getLast? = some .crash ∧ (runInline invocation).isOk = true))
  otherwise : (∀ invocation, ¬ Route.Inlines payload created invocation) → history w.trace inline = []

/-- No row that the session committed as a new one can still move. -/
def NothingLeft (w : World Reply Fault Answer (Op runtime) Db Write) (id : Nat) : Prop :=
  ∀ writes row, Brought (history w.trace id) writes row →
    ∀ current, w.committed.invocations.lookup row.id = some current → current.state.Terminal

/-- The request has committed a new row, and nothing that it or its inline execution committed ends one. -/
structure Left (w : World Reply Fault Answer (Op runtime) Db Write) (id inline : Nat) : Prop where
  brought : ∃ writes row, Brought (history w.trace id) writes row
  posted : EndedNone (history w.trace id)
  inlined : EndedNone (history w.trace inline)

/-- Where the route asks for a justification, there is one. -/
def Justified (process : Process runtime) (payload : InvocationCreate) : Prop :=
  ∀ definition, process.getDefinition payload.toolName payload.toolVersion = some definition →
    definition.permissionClass ∈ approvalRequiredClasses →
      payload.justification.any (fun text => strip text ≠ "") = true

/-- The request is not admitted, or carries the justification that its tool calls for, and no inline execution raises. -/
def Orderly (settings : Settings) (process : Process runtime) (payload : InvocationCreate) (principal : Principal)
    (w : World Reply Fault Answer (Op runtime) Db Write) (id inline : Nat) : Prop :=
  ¬ Admits settings process payload.toInvocationRequest principal (notes (history w.trace id)) ∨
    (Justified process payload ∧ ∀ fault, (history w.trace inline).getLast? ≠ some (.answer (.error fault)))

theorem Began.before {past : List (Happening runtime)} {event : Happening runtime} {op : Op runtime}
    (began : Began (past ++ [event]) op) (other : ∀ op, event ≠ .start op) : Began past op := by
  cases past with
  | nil => exact absurd (Option.some.inj began) (other op)
  | cons head rest => exact began

theorem commit_mem_answered {past : List (Happening runtime)} {result : Except Fault Answer} {seen : Db} :
    (.commit writes seen : Happening runtime) ∈ past ++ [.answer result] ↔ .commit writes seen ∈ past := by
  simp

theorem notes_answered (past : List (Happening runtime)) (result : Except Fault Answer) :
    notes (past ++ [.answer result]) = notes past := by
  simp [notes,note]

theorem Posted.outcome (posted : Posted process payload principal created runInline w id inline)
    (reachable : (acop runtime settings).Reachable (acop runtime settings).free start w) :
    Outcome settings process payload.toInvocationRequest principal (history w.trace id) (created.map .invocation) := by
  have sound := Spec.sound_of_reachable outcomes_verified (fun _ _ _ _ _ _ _ _ => trivial) trivial reachable
  obtain ⟨before,after,split,last⟩ := history_last posted.answered
  have began := posted.began
  rw [last] at began ⊢
  have due := (sound.due before id _ after split).duty process payload.toInvocationRequest principal
    (began.before fun _ => nofun)
  have same : ∀ writes row, Brought (history before id ++ [.answer (created.map .invocation)]) writes row ↔
      Brought (history before id) writes row := fun writes row => by simp only [Brought,commit_mem_answered]
  cases created with
  | error fault => exact ⟨(notes_answered _ _).symm ▸ due.1,fun writes row brought => due.2 writes row ((same writes row).mp brought)⟩
  | ok invocation =>
    rcases due with ⟨refused,none⟩ | ⟨admitted,final,returned,accepts⟩
    · exact .inl ⟨(notes_answered _ _).symm ▸ refused,fun writes row brought => none writes row ((same writes row).mp brought)⟩
    · refine .inr ⟨(notes_answered _ _).symm ▸ admitted,final,returned,?_,?_,?_,accepts.declared,accepts.waiting⟩
      · obtain ⟨writes,row,brought,named⟩ := accepts.brought
        exact ⟨writes,row,(same writes row).mpr brought,named⟩
      · exact fun writes seen member => accepts.kept writes seen (commit_mem_answered.mp member)
      · exact fun writes seen member => accepts.endedNone writes seen (commit_mem_answered.mp member)

theorem endedNone_of_raised (reachable : (acop runtime settings).Reachable (acop runtime settings).free start w)
    {invocation : Uuid} {fault : Fault} (began : Began (history w.trace inline) (.executeOnce process invocation))
    (raised : (history w.trace inline).getLast? = some (.answer (.error fault))) : EndedNone (history w.trace inline) := by
  have sound := Spec.sound_of_reachable raising_verified (fun _ _ _ _ _ _ _ _ => trivial) trivial reachable
  obtain ⟨before,after,split,last⟩ := history_last raised
  rw [last] at began ⊢
  have due := (sound.due before inline _ after split).duty process invocation (began.before fun _ => nofun)
  exact fun writes seen member => due writes seen (commit_mem_answered.mp member)

/-- What `create` rejected stays rejected. -/
theorem terminal_left (fresh : start.Fresh)
    (reachable : (acop runtime settings).Reachable (acop runtime settings).free start w)
    (brought : Brought (history w.trace id) writes row) {final current : ToolInvocation}
    (became : ∀ old, rowAfter writes row.id old = some final) (ended : final.state.Terminal)
    (present : w.committed.invocations.lookup row.id = some current) : current.state.Terminal := by
  obtain ⟨⟨seen,member⟩,_⟩ := brought
  obtain ⟨before,after,split⟩ := List.append_of_mem (mem_history.mp member)
  have committed : (view seen writes).invocations.lookup row.id = some final := by rw [view_lookup,became]
  have grown := ((Course.any fresh reachable).published_now split).state committed present
  rw [terminal_stays ended grown.reaches]
  exact ended

theorem Accepts.loaded (fresh : start.Fresh) (reachable : (acop runtime settings).Reachable (acop runtime settings).free start w)
    {request : InvocationRequest} {final : ToolInvocation} (accepts : Accepts process request (history w.trace id) final) :
    ∃ current, w.committed.invocations.lookup final.id = some current := by
  obtain ⟨writes,row,⟨⟨seen,member⟩,_⟩,_⟩ := accepts.brought
  obtain ⟨before,after,split⟩ := List.append_of_mem (mem_history.mp member)
  have committed : (view seen writes).invocations.lookup final.id = some final := by
    rw [view_lookup,accepts.kept writes seen member]
  obtain ⟨current,present,_⟩ := ((Course.any fresh reachable).published_now split).kept final.id final committed
  exact ⟨current,present⟩

theorem Accepts.justified_iff {final : ToolInvocation} {past : List (Happening runtime)}
    (accepts : Accepts process payload.toInvocationRequest past final) :
    Justified process payload ↔ Route.requireJustification final payload = .ok () := by
  obtain ⟨definition,declared,classed⟩ := accepts.declared
  unfold Route.requireJustification
  rw [classed]
  constructor
  · intro justified
    split
    · rfl
    · rename_i required
      rw [if_pos (justified definition declared (not_not.mp required))]
  · intro passed other declared' required
    cases Option.some.inj (declared.symm.trans declared')
    rw [if_neg (not_not.mpr required)] at passed
    split at passed
    · assumption
    · cases passed

/-- An admitted request is answered with an error exactly where a justification is missing or the inline execution raises. -/
theorem Posted.refused_iff (posted : Posted process payload principal (.ok row) runInline w id inline) (fresh : start.Fresh)
    (reachable : (acop runtime settings).Reachable (acop runtime settings).free start w)
    (accepts : Accepts process payload.toInvocationRequest (history w.trace id) row) :
    (∃ error, Route.createInvocation payload (.ok row) runInline w.committed = .error error) ↔
      ¬ (Justified process payload ∧ ∀ fault, (history w.trace inline).getLast? ≠ some (.answer (.error fault))) := by
  rw [accepts.justified_iff]
  obtain ⟨current,present⟩ := accepts.loaded fresh reachable
  have loaded : Route.load w.committed row.id = .ok current := by rw [Route.load,present]
  cases checked : Route.requireJustification row payload with
  | error missing => simp [Route.createInvocation,Except.mapError,checked,bind,Except.bind]
  | ok passed =>
    by_cases runs : row.permissionClass ∈ Route.inlineClasses ∧ row.state = .ready
    · obtain ⟨_,last⟩ := posted.inlined row ⟨rfl,checked,runs.1,runs.2⟩
      cases result : runInline row with
      | error fault =>
        rw [result] at last
        rcases last with raised | ⟨_,ran⟩
        · simp [Route.createInvocation,Except.mapError,checked,runs,result,raised,Except.map,bind,Except.bind]
        · cases ran
      | ok state =>
        rw [result] at last
        rcases last with ran | ⟨cut,_⟩
        · simp [Route.createInvocation,Except.mapError,checked,runs,result,ran,loaded,Except.map,bind,Except.bind]
        · simp [Route.createInvocation,Except.mapError,checked,runs,result,cut,loaded,bind,Except.bind]
    · have idle : history w.trace inline = [] := posted.otherwise fun invocation inlines => by
        cases inlines.returned
        exact runs ⟨inlines.inlineClass,inlines.ready⟩
      simp [Route.createInvocation,Except.mapError,checked,runs,idle,loaded,bind,Except.bind]

theorem Posted.left_of_refused (posted : Posted process payload principal (.ok row) runInline w id inline)
    (reachable : (acop runtime settings).Reachable (acop runtime settings).free start w)
    (accepts : Accepts process payload.toInvocationRequest (history w.trace id) row)
    (refused : ¬ (Justified process payload ∧ ∀ fault, (history w.trace inline).getLast? ≠ some (.answer (.error fault)))) :
    Left w id inline := by
  obtain ⟨writes,other,brought,_⟩ := accepts.brought
  refine ⟨⟨writes,other,brought⟩,accepts.endedNone,?_⟩
  by_cases runs : ∃ invocation, Route.Inlines payload (.ok row) invocation
  · obtain ⟨invocation,inlines⟩ := runs
    cases inlines.returned
    have raised : ∃ fault, (history w.trace inline).getLast? = some (.answer (.error fault)) := by
      by_contra none
      push Not at none
      exact refused ⟨accepts.justified_iff.mpr inlines.justified,none⟩
    obtain ⟨fault,raised⟩ := raised
    exact endedNone_of_raised reachable (posted.inlined row inlines).1 raised
  · rw [posted.otherwise fun invocation inlines => runs ⟨invocation,inlines⟩]
    exact fun _ _ absent => absurd absent List.not_mem_nil

theorem Left.going (left : Left w id inline) (fresh : start.Fresh)
    (reachable : (acop runtime settings).Reachable (acop runtime settings).free start w)
    (undisturbed : ∀ owner writes seen, (owner,.commit writes seen) ∈ w.trace → owner ≠ id → owner ≠ inline → Endless writes)
    {invocation : Uuid} (present : w.committed.invocations.lookup invocation = some row) : ¬ row.state.Terminal := by
  intro ended
  have told := System.chronicled_of_reachable reachable
  let held : Db → Prop := fun db => ∃ old, db.invocations.lookup invocation = some old ∧ old.state.Terminal
  have absent : ¬ held start := by
    rintro ⟨old,found,_⟩
    simp [fresh.invocations] at found
  have now : held ((acop runtime settings).replay start w.trace) := ⟨row,told.current ▸ present,ended⟩
  obtain ⟨before,owner,writes,seen,after,split,going,old,there,terminal⟩ := System.replay_changed absent now
  have same := told.dated before owner _ _ split seen rfl
  have member : (owner,.commit writes seen) ∈ w.trace := by
    rw [split]
    simp
  have endless : Endless writes := by
    by_cases own : owner = id
    · exact left.posted writes seen (mem_history.mpr (own ▸ member))
    by_cases own' : owner = inline
    · exact left.inlined writes seen (mem_history.mpr (own' ▸ member))
    exact undisturbed owner writes seen member own own'
  rw [settle_eq_view,view_lookup] at there
  exact going (endless invocation _ old there terminal)

/-- A request that is answered with an error leaves nothing to run exactly where it is not admitted, or carries the
justification that its tool calls for and no inline execution raises. -/
theorem refused_leaves_nothing (fresh : start.Fresh)
    (reachable : (acop runtime settings).Reachable (acop runtime settings).free start w)
    (posted : Posted process payload principal created runInline w id inline) :
    ((∀ error, Route.createInvocation payload created runInline w.committed = .error error → ¬ Left w id inline) ↔
      Orderly settings process payload principal w id inline) ∧
    (Orderly settings process payload principal w id inline →
      ∀ error, Route.createInvocation payload created runInline w.committed = .error error → NothingLeft w id) ∧
    (Left w id inline → (∀ owner writes seen, (owner,.commit writes seen) ∈ w.trace → owner ≠ id → owner ≠ inline → Endless writes) →
      ¬ NothingLeft w id) := by
  have outcome := posted.outcome reachable
  cases created with
  | error fault =>
    obtain ⟨refused,rejected⟩ := outcome
    have nothing : ¬ Left w id inline := by
      rintro ⟨⟨writes,row,brought⟩,endedNone,_⟩
      obtain ⟨final,became,state⟩ := rejected writes row brought
      obtain ⟨⟨seen,member⟩,_⟩ := brought
      obtain ⟨_,absent,_⟩ := endedNone writes seen member row.id none final (became none) (by rw [state]; decide)
      cases absent
    refine ⟨⟨fun _ => .inl refused,fun _ _ _ => nothing⟩,?_,fun left => absurd left nothing⟩
    intro _ _ _ writes row brought current present
    obtain ⟨final,became,state⟩ := rejected writes row brought
    exact terminal_left fresh reachable brought became (by rw [state]; decide) present
  | ok invocation =>
    rcases outcome with ⟨refused,none⟩ | ⟨admitted,final,same,accepts⟩
    · have nothing : ¬ Left w id inline := fun left => left.brought.elim fun writes brought => brought.elim (none writes)
      refine ⟨⟨fun _ => .inl refused,fun _ _ _ => nothing⟩,?_,fun left => absurd left nothing⟩
      exact fun _ _ _ writes row brought => absurd brought (none writes row)
    · cases same
      have refusal := posted.refused_iff fresh reachable accepts
      refine ⟨⟨?_,?_⟩,?_,?_⟩
      · intro nothing
        by_contra disorderly
        have refused := not_or.mp disorderly
        obtain ⟨error,answered⟩ := refusal.mpr refused.2
        exact nothing error answered (posted.left_of_refused reachable accepts refused.2)
      · intro orderly error answered
        exact absurd (orderly.resolve_left (not_not.mpr admitted)) (refusal.mp ⟨error,answered⟩)
      · intro orderly error answered
        exact absurd (orderly.resolve_left (not_not.mpr admitted)) (refusal.mp ⟨error,answered⟩)
      · intro left undisturbed nothing
        obtain ⟨writes,row,brought,named⟩ := accepts.brought
        obtain ⟨current,present⟩ := accepts.loaded fresh reachable
        exact left.going fresh reachable undisturbed present (nothing writes row brought current (named ▸ present))

end

def probePosted : InvocationCreate := {boxRequest "lab.box.probe" none with}

def boxPosted : InvocationCreate := {boxRequest "lab.box.set" (some "k") with}

/-- What an adapter may report with its success: a rollback hint that no JSON column takes. -/
def unboundHint : AdapterResult := {outcome := .success, rollbackHint := [(.str "at",.other "datetime")]}

def brokenProbe : List LabMove :=
  calls 1 (List.replicate 7 {uuid := 5}) ++ .commit 1 ::
    calls 1 (List.replicate 6 {uuid := 6} ++ [{adapter := .result unboundHint}]) ++ [.finish 1]

/-- A probe is requested, and its inline execution raises; then somebody who may not requests a change
without a justification. -/
def refusedPosts : List LabMove :=
  (requested 0 "lab.box.probe" none 1 ++ .start 1 (.executeOnce labProcess 1) :: brokenProbe) ++
    .start 2 (.create labProcess boxPosted.toInvocationRequest (person "ann" ∅)) ::
    (calls 2 (List.replicate 9 {uuid := 2}) ++ [.commit 2,.finish 2])

def endedRaising (session : Nat) (w : Laboratory) : Bool :=
  (history w.trace session).getLast?.any fun event => match event with
    | .answer (.error _) => true
    | _ => false

def endedWith (session : Nat) (seen : ToolInvocation → Bool) (w : Laboratory) : Bool :=
  (history w.trace session).getLast?.any fun event => match event with
    | .answer (.ok (.invocation row)) => seen row
    | _ => false

def committedNew (session : Nat) (seen : ToolInvocation → Bool) (w : Laboratory) : Bool :=
  (history w.trace session).any fun event => match event with
    | .commit writes _ => writes.any fun write => match write with
      | .insertInvocation row => seen row
      | _ => false
    | _ => false

theorem of_endedRaising {session : Nat} {w : Laboratory} (seen : endedRaising session w = true) :
    ∃ fault, (history w.trace session).getLast? = some (.answer (.error fault)) := by
  obtain ⟨event,last,seen⟩ := (Option.any_eq_true _ _).mp seen
  split at seen
  · exact ⟨_,last⟩
  · cases seen

theorem of_endedWith {session : Nat} {seen : ToolInvocation → Bool} {w : Laboratory} (ended : endedWith session seen w = true) :
    ∃ row, (history w.trace session).getLast? = some (.answer (.ok (.invocation row))) ∧ seen row = true := by
  obtain ⟨event,last,ended⟩ := (Option.any_eq_true _ _).mp ended
  split at ended
  · exact ⟨_,last,ended⟩
  · cases ended

theorem of_committedNew {session : Nat} {seen : ToolInvocation → Bool} {w : Laboratory} (new : committedNew session seen w = true) :
    ∃ writes row, Brought (history w.trace session) writes row ∧ seen row = true := by
  obtain ⟨event,member,new⟩ := List.any_eq_true.mp new
  split at new
  · rename_i writes before
    obtain ⟨write,inside,new⟩ := List.any_eq_true.mp new
    split at new
    · exact ⟨writes,_,⟨⟨before,member⟩,inside⟩,new⟩
    · cases new
  · cases new

def postsSeen (w : Laboratory) : Bool :=
  endedWith 0 (fun row => row.id = 1 && (Route.requireJustification row probePosted).isOk &&
      row.permissionClass ∈ Route.inlineClasses && row.state = .ready) w &&
    committedNew 0 (fun _ => true) w && endedRaising 1 w && endedRaising 2 w && (history w.trace 3).isEmpty &&
    (w.committed.invocations.lookup 2).isSome

theorem refusedPosts_runs : (labRun (acop labRuntime labSettings).free refusedPosts).any postsSeen = true := by
  decide +kernel

/-- The inline execution raised over a row that is left; the change that was refused is a rejected row. -/
theorem refused_leaves_nothing_lab : ∃ w invocation fault fault',
    (acop labRuntime labSettings).Reachable (acop labRuntime labSettings).free labDb w ∧
      Posted labProcess probePosted (person "ann" {"operator"}) (.ok invocation) (fun _ => .error fault) w 0 1 ∧ Left w 0 1 ∧
      Posted labProcess boxPosted (person "ann" ∅) (.error fault') (fun _ => .ok .succeeded) w 2 3 ∧
      (w.committed.invocations.lookup 2).isSome = true ∧ ¬ Left w 2 3 ∧ NothingLeft w 2 := by
  have ran := refusedPosts_runs
  obtain ⟨reachable,seen⟩ := labRun_get ran
  have same := (Option.some_get (Option.isSome_of_any ran)).symm
  generalize (labRun (acop labRuntime labSettings).free refusedPosts).get _ = w at reachable seen same
  have first := began_of_run (show (acop labRuntime labSettings).run _ _ ([] ++ _) = some w from same)
  have third := began_of_run same
  have second := began_of_run ((congrArg ((acop labRuntime labSettings).run _ _)
    (List.append_assoc (requested 0 "lab.box.probe" none 1) _ _).symm).trans same)
  simp only [postsSeen,Bool.and_eq_true] at seen
  obtain ⟨⟨⟨⟨⟨answered,new⟩,raised⟩,refused⟩,idle⟩,there⟩ := seen
  obtain ⟨invocation,answered,shape⟩ := of_endedWith answered
  obtain ⟨fault,raised⟩ := of_endedRaising raised
  obtain ⟨fault',refused⟩ := of_endedRaising refused
  obtain ⟨writes,row,brought,_⟩ := of_committedNew new
  simp only [Bool.and_eq_true,decide_eq_true_eq] at shape
  obtain ⟨⟨⟨named,justified⟩,class'⟩,ready⟩ := shape
  have passed : Route.requireJustification invocation probePosted = .ok () := by
    cases checked : Route.requireJustification invocation probePosted with
    | ok passed => rfl
    | error missing => simp [checked,Except.isOk,Except.toBool] at justified
  have inlines : Route.Inlines probePosted (.ok invocation) invocation := ⟨rfl,passed,class',ready⟩
  have probe : Posted labProcess probePosted (person "ann" {"operator"}) (.ok invocation) (fun _ => .error fault) w 0 1 := by
    refine ⟨first,answered,?_,fun none => absurd inlines (none invocation)⟩
    intro other inlines
    cases inlines.returned
    exact ⟨named ▸ second,.inl raised⟩
  have change : Posted labProcess boxPosted (person "ann" ∅) (.error fault') (fun _ => .ok .succeeded) w 2 3 := by
    refine ⟨third,refused,?_,fun _ => List.isEmpty_iff.mp idle⟩
    intro other inlines
    cases inlines.returned
  have orderly : Orderly labSettings labProcess boxPosted (person "ann" ∅) w 2 3 := .inl (change.outcome reachable).1
  have disorderly : ¬ Orderly labSettings labProcess probePosted (person "ann" {"operator"}) w 0 1 := by
    rintro (unadmitted | ⟨_,quiet⟩)
    · rcases probe.outcome reachable with ⟨_,none⟩ | ⟨admitted,_⟩
      · exact none writes row brought
      · exact unadmitted admitted
    · exact quiet fault raised
  obtain ⟨kept,nothing,_⟩ := refused_leaves_nothing labDb_fresh reachable change
  refine ⟨w,invocation,fault,fault',reachable,probe,?_,change,there,kept.mpr orderly _ rfl,nothing orderly _ rfl⟩
  by_contra none
  exact disorderly ((refused_leaves_nothing labDb_fresh reachable probe).1.mp fun _ _ => none)

/-- The session was answered with a row that needs a justification, and that row awaits approval. -/
def leftAwaiting (w : Laboratory) : Bool :=
  endedWith 0 (fun row => !(Route.requireJustification row boxPosted).isOk) w &&
    committedNew 0 (fun row => (w.committed.invocations.lookup row.id).any (·.state = .awaitingApproval)) w &&
    (history w.trace 1).isEmpty

theorem boxPosted_runs :
    (labRun (acop labRuntime labSettings).free (requested 0 "lab.box.set" (some "k") 1)).any leftAwaiting = true := by
  decide +kernel

/-- A request without the justification that its tool calls for is refused, and awaits approval. -/
theorem refused_left_awaiting : ∃ w created error,
    (acop labRuntime labSettings).Reachable (acop labRuntime labSettings).free labDb w ∧
      Posted labProcess boxPosted (person "ann" {"operator"}) created (fun _ => .ok .succeeded) w 0 1 ∧
      Route.createInvocation boxPosted created (fun _ => .ok .succeeded) w.committed = .error error ∧ ¬ NothingLeft w 0 := by
  have ran := boxPosted_runs
  obtain ⟨reachable,seen⟩ := labRun_get ran
  have same := (Option.some_get (Option.isSome_of_any ran)).symm
  generalize (labRun (acop labRuntime labSettings).free (requested 0 "lab.box.set" (some "k") 1)).get _ = w
    at reachable seen same
  have began := began_of_run (show (acop labRuntime labSettings).run _ _ ([] ++ _) = some w from same)
  simp only [leftAwaiting,Bool.and_eq_true] at seen
  obtain ⟨⟨answered,new⟩,idle⟩ := seen
  obtain ⟨invocation,answered,asked⟩ := of_endedWith answered
  obtain ⟨writes,row,brought,left⟩ := of_committedNew new
  cases checked : Route.requireJustification invocation boxPosted with
  | ok passed => simp [checked,Except.isOk,Except.toBool] at asked
  | error missing =>
    refine ⟨w,.ok invocation,missing,reachable,⟨began,answered,?_,fun _ => List.isEmpty_iff.mp idle⟩,?_,?_⟩
    · intro other inlines
      cases inlines.returned
      cases checked.symm.trans inlines.justified
    · simp [Route.createInvocation,Except.mapError,checked,bind,Except.bind]
    · intro nothing
      obtain ⟨current,present,awaiting⟩ := (Option.any_eq_true _ _).mp left
      have terminal := nothing writes row brought current present
      rw [of_decide_eq_true awaiting] at terminal
      exact absurd terminal (by decide)

end Acop
