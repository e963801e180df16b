import Acop.System

/-! What the tables hold of one invocation, write by write, and the path of states
that its events tell. -/
namespace Acop

open Acop.Transaction

/-- The row under `id` after one write. -/
def Write.onRow (id : Uuid) (row : Option ToolInvocation) : Write → Option ToolInvocation
  | .insertInvocation fresh => if fresh.id = id then some fresh else row
  | .advance target progress => if target = id then row.map (·.advance progress) else row
  | .receive target n => if target = id then row.map (·.receive n) else row
  | _ => row

/-- The events of `id` that a write adds. -/
def Write.eventsOn (id : Uuid) : Write → List ToolInvocationEvent
  | .insertEvent event => if event.invocationId = id then [event] else []
  | _ => []

def Write.approvalsOn (id : Uuid) : Write → List ToolApproval
  | .insertApproval approval => if approval.invocationId = id then [approval] else []
  | _ => []

def rowAfter (pending : List Write) (id : Uuid) (row : Option ToolInvocation) : Option ToolInvocation :=
  pending.foldl (Write.onRow id) row

def eventsAdded (pending : List Write) (id : Uuid) : List ToolInvocationEvent := pending.flatMap (Write.eventsOn id)

def approvalsAdded (pending : List Write) (id : Uuid) : List ToolApproval :=
  pending.flatMap (Write.approvalsOn id)

section Effects

variable (db : Db) (id : Uuid)

theorem apply_lookup (write : Write) :
    (db.apply write).invocations.lookup id = write.onRow id (db.invocations.lookup id) := by
  cases write with
  | insertInvocation row =>
    simp only [Db.apply,Write.onRow]
    split
    · rename_i same
      subst same
      exact AList.lookup_insert _
    · rename_i different
      exact AList.lookup_insert_ne (Ne.symm different)
  | advance target progress =>
    simp only [Db.apply,Write.onRow]
    split
    · rename_i same
      rw [same,updateRow_lookup]
    · rename_i different
      rw [updateRow_lookup_ne _ (Ne.symm different)]
  | receive target n =>
    simp only [Db.apply,Write.onRow]
    split
    · rename_i same
      rw [same,updateRow_lookup]
    · rename_i different
      rw [updateRow_lookup_ne _ (Ne.symm different)]
  | _ => rfl

theorem apply_eventsOf (write : Write) : (db.apply write).eventsOf id = db.eventsOf id ++ write.eventsOn id := by
  cases write with
  | insertEvent event =>
    by_cases same : event.invocationId = id <;> simp [Db.apply,Db.eventsOf,Write.eventsOn,same]
  | _ => simp [Db.apply,Db.eventsOf,Write.eventsOn]

theorem apply_approvalsOf (write : Write) :
    (db.apply write).approvalsOf id = db.approvalsOf id ++ write.approvalsOn id := by
  cases write with
  | insertApproval approval =>
    by_cases same : approval.invocationId = id <;> simp [Db.apply,Db.approvalsOf,Write.approvalsOn,same]
  | _ => simp [Db.apply,Db.approvalsOf,Write.approvalsOn]

variable (pending : List Write)

def view : Db := pending.foldl Db.apply db

theorem view_lookup : (view db pending).invocations.lookup id = rowAfter pending id (db.invocations.lookup id) := by
  unfold view
  induction pending generalizing db with
  | nil => rfl
  | cons write rest ih =>
    rw [List.foldl_cons,ih]
    exact congrArg (rowAfter rest id) (apply_lookup db id write)

theorem view_eventsOf : (view db pending).eventsOf id = db.eventsOf id ++ eventsAdded pending id := by
  unfold view
  induction pending generalizing db with
  | nil => simp [eventsAdded]
  | cons write rest ih =>
    rw [List.foldl_cons,ih]
    simp [apply_eventsOf,eventsAdded]

theorem view_approvalsOf : (view db pending).approvalsOf id = db.approvalsOf id ++ approvalsAdded pending id := by
  unfold view
  induction pending generalizing db with
  | nil => simp [approvalsAdded]
  | cons write rest ih =>
    rw [List.foldl_cons,ih]
    simp [apply_approvalsOf,approvalsAdded]

end Effects

@[simp] theorem settle_eq_view (runtime : Runtime) (settings : Settings) (db : Db) (pending : List Write) :
    (acop runtime settings).settle db pending = view db pending := rfl

@[simp] theorem view_nil (db : Db) : view db [] = db := rfl

@[simp] theorem rowAfter_nil (id : Uuid) (row : Option ToolInvocation) : rowAfter [] id row = row := rfl

@[simp] theorem rowAfter_append (first second : List Write) (id : Uuid) (row : Option ToolInvocation) :
    rowAfter (first ++ second) id row = rowAfter second id (rowAfter first id row) := List.foldl_append

@[simp] theorem rowAfter_cons (write : Write) (rest : List Write) (id : Uuid) (row : Option ToolInvocation) :
    rowAfter (write::rest) id row = rowAfter rest id (write.onRow id row) := rfl

@[simp] theorem eventsAdded_nil (id : Uuid) : eventsAdded [] id = [] := rfl

@[simp] theorem eventsAdded_append (first second : List Write) (id : Uuid) :
    eventsAdded (first ++ second) id = eventsAdded first id ++ eventsAdded second id := List.flatMap_append

@[simp] theorem eventsAdded_cons (write : Write) (rest : List Write) (id : Uuid) :
    eventsAdded (write::rest) id = write.eventsOn id ++ eventsAdded rest id := List.flatMap_cons

@[simp] theorem approvalsAdded_nil (id : Uuid) : approvalsAdded [] id = [] := rfl

@[simp] theorem approvalsAdded_append (first second : List Write) (id : Uuid) :
    approvalsAdded (first ++ second) id = approvalsAdded first id ++ approvalsAdded second id := List.flatMap_append

@[simp] theorem approvalsAdded_cons (write : Write) (rest : List Write) (id : Uuid) :
    approvalsAdded (write::rest) id = write.approvalsOn id ++ approvalsAdded rest id := List.flatMap_cons

/-- Events that record a move, not a note or a lost race. -/
def ToolInvocationEvent.Moves (event : ToolInvocationEvent) : Prop := event.fromState ≠ some event.toState

instance (event : ToolInvocationEvent) : Decidable event.Moves := inferInstanceAs (Decidable (_ ≠ _))

def movesAmong (events : List ToolInvocationEvent) : List ToolInvocationEvent :=
  events.filter fun event => event.Moves

/-- Moves from the creation in `REQUESTED` along legal transitions to a state. -/
inductive Path : List ToolInvocationEvent → InvocationState → Prop
  | created (event : ToolInvocationEvent) (born : event.fromState = none) (requested : event.toState = .requested) :
      Path [event] .requested
  | moved (events : List ToolInvocationEvent) (source : InvocationState) (event : ToolInvocationEvent)
      (path : Path events source) (left : event.fromState = some source)
      (legal : InvocationState.IsLegalTransition source event.toState) : Path (events ++ [event]) event.toState

/-- The log of an invocation in `state`: numbered from 1 without gap, its moves a path to the state. -/
structure Logged (events : List ToolInvocationEvent) (state : InvocationState) : Prop where
  numbered : events.map (·.sequence) = List.range' 1 events.length
  path : Path (movesAmong events) state

theorem Path.reaches_last {events : List ToolInvocationEvent} {state : InvocationState} (path : Path events state) :
    events.getLast?.map (·.toState) = some state := by
  cases path with
  | created event born requested => simp [requested]
  | moved events source event path left legal => simp

theorem Path.unique {events : List ToolInvocationEvent} {first second : InvocationState}
    (one : Path events first) (other : Path events second) : first = second :=
  Option.some.inj (one.reaches_last.symm.trans other.reaches_last)

theorem Logged.ne_nil {events : List ToolInvocationEvent} {state : InvocationState} (logged : Logged events state) :
    events ≠ [] := by
  rintro rfl
  have last := logged.path.reaches_last
  simp [movesAmong] at last

/-- States reachable along legal transitions, in any number of them. -/
def Reaches : InvocationState → InvocationState → Prop := Relation.ReflTransGen InvocationState.IsLegalTransition

theorem legal_moves {source target : InvocationState} (legal : InvocationState.IsLegalTransition source target) :
    source ≠ target := by
  rintro rfl
  revert source
  decide +kernel

theorem legal_leaves {source target : InvocationState} (legal : InvocationState.IsLegalTransition source target) :
    ¬ source.Terminal := by
  revert source target
  decide +kernel

theorem terminal_stays {source target : InvocationState} (terminal : source.Terminal) (reaches : Reaches source target) :
    target = source := by
  induction reaches with
  | refl => rfl
  | tail _ step ih => exact absurd (ih ▸ terminal) (legal_leaves step)

theorem Logged.note {events : List ToolInvocationEvent} {state : InvocationState} (logged : Logged events state)
    (event : ToolInvocationEvent) (numbered : event.sequence = events.length + 1)
    (note : event.fromState = some event.toState) : Logged (events ++ [event]) state where
  numbered := by simp [logged.numbered,numbered,List.range'_concat,Nat.add_comm]
  path := by
    have still : ¬ event.Moves := fun moves => moves note
    simpa [movesAmong,still] using logged.path

theorem Logged.move {events : List ToolInvocationEvent} {source : InvocationState} (logged : Logged events source)
    (event : ToolInvocationEvent) (numbered : event.sequence = events.length + 1)
    (left : event.fromState = some source) (legal : InvocationState.IsLegalTransition source event.toState) :
    Logged (events ++ [event]) event.toState where
  numbered := by simp [logged.numbered,numbered,List.range'_concat,Nat.add_comm]
  path := by
    have moves : event.Moves := by simpa [ToolInvocationEvent.Moves,left] using legal_moves legal
    simpa [movesAmong,moves] using logged.path.moved _ _ event left legal

theorem Logged.creation (event : ToolInvocationEvent) (numbered : event.sequence = 1)
    (born : event.fromState = none) (requested : event.toState = .requested) : Logged [event] .requested where
  numbered := by simp [numbered]
  path := by
    have moves : event.Moves := by simp [ToolInvocationEvent.Moves,born]
    simpa [movesAmong,moves] using Path.created event born requested

end Acop
