import Acop.Laboratory

/-! The event log agrees with the rows: in every committed database, and across
every commit, whatever the interleaving. -/
namespace Acop

open Acop.Transaction

def InvocationState.stage : InvocationState → Nat
  | requested => 0
  | authorized => 1
  | awaitingApproval => 2
  | approved => 3
  | ready => 4
  | executing => 5
  | executed => 6
  | validating => 7
  | _ => 8

theorem legal_stage : ∀ source target, InvocationState.IsLegalTransition source target → source.stage < target.stage := by
  decide

theorem Path.extends {first more : List ToolInvocationEvent} {target : InvocationState} (nonempty : first ≠ [])
    (path : Path (first ++ more) target) : ∃ source, Path first source ∧
      (more = [] ∨ source.stage < target.stage) := by
  induction more using List.reverseRecOn generalizing target with
  | nil => exact ⟨target,by simpa using path,.inl rfl⟩
  | append_singleton more last ih =>
    generalize whole : first ++ (more ++ [last]) = events at path
    cases path with
    | created event born requested =>
      rw [← List.append_assoc] at whole
      have none := (List.append_eq_singleton_iff.mp whole).resolve_right (by simp)
      exact absurd (List.append_eq_nil_iff.mp none.1).1 nonempty
    | moved events source event path left legal =>
      rw [← List.append_assoc] at whole
      obtain ⟨rfl,same⟩ := List.append_inj' whole rfl
      cases List.singleton_inj.mp same
      obtain ⟨state,before,along⟩ := ih path
      refine ⟨state,before,.inr ?_⟩
      have step := legal_stage _ _ legal
      rcases along with rfl | earlier
      · have here : source = state := Path.unique (by simpa using path) before
        rwa [here] at step
      · exact earlier.trans step

theorem Path.ne_nil {events : List ToolInvocationEvent} {state : InvocationState} (path : Path events state) :
    events ≠ [] := by
  cases path <;> simp

/-- What a log says of the state of its invocation; `none` where there is no row. -/
def LogAgrees (events : List ToolInvocationEvent) : Option ToolInvocation → Prop
  | none => events = []
  | some row => Logged events row.state

section

variable {mode : Mode} {runtime : Runtime} {settings : Settings} {db db' start : Db} {id : Uuid}
  {w : World Reply Fault Answer (Op runtime) Db Write}

theorem Inv.log (inv : Inv mode settings db) (id : Uuid) :
    LogAgrees (db.eventsOf id) (db.invocations.lookup id) := by
  cases present : db.invocations.lookup id with
  | none => exact (inv.absent id present).1
  | some row => exact (inv.coherent id row present).logged

theorem moves_iff {old new : List ToolInvocationEvent} {row row' : Option ToolInvocation} (grown : old <+: new)
    (agrees : LogAgrees old row) (agrees' : LogAgrees new row') :
    row'.map (·.state) = row.map (·.state) ↔ movesAmong new = movesAmong old := by
  obtain ⟨more,rfl⟩ := grown
  have split : movesAmong (old ++ more) = movesAmong old ++ movesAmong more := List.filter_append _ _
  cases row with
  | none =>
    have none : old = [] := agrees
    subst none
    cases row' with
    | none =>
      have silent : ([] ++ more : List ToolInvocationEvent) = [] := agrees'
      rw [silent]
      exact ⟨fun _ => rfl,fun _ => rfl⟩
    | some row' =>
      have logged : Logged ([] ++ more) row'.state := agrees'
      exact ⟨fun same => (by cases same),fun same => absurd same logged.path.ne_nil⟩
  | some row =>
    have logged : Logged old row.state := agrees
    cases row' with
    | none =>
      have silent : old ++ more = [] := agrees'
      exact absurd (List.append_eq_nil_iff.mp silent).1 logged.ne_nil
    | some row' =>
      have logged' : Logged (old ++ more) row'.state := agrees'
      obtain ⟨source,before,along⟩ := Path.extends logged.path.ne_nil (split ▸ logged'.path)
      have here := before.unique logged.path
      subst here
      constructor
      · intro same
        have still : row'.state = row.state := Option.some.inj same
        rw [split,along.resolve_right (by rw [still]; exact lt_irrefl _),List.append_nil]
      · intro same
        exact congrArg some ((same ▸ logged'.path).unique logged.path)

/-- In every committed database each invocation's events are numbered from 1
without gap and their moves are a legal path to its state; and every commit
extends the log, by moves exactly where it changes the state. -/
theorem event_log_agrees (fresh : start.Fresh)
    (reachable : (acop runtime settings).Reachable (acop runtime settings).free start w) :
    (∀ id, LogAgrees (w.committed.eventsOf id) (w.committed.invocations.lookup id)) ∧
    ∀ before owner writes db after, w.trace = before ++ (owner,.commit writes db)::after → ∀ id,
      LogAgrees (db.eventsOf id) (db.invocations.lookup id) ∧
      LogAgrees ((view db writes).eventsOf id) ((view db writes).invocations.lookup id) ∧
      db.eventsOf id <+: (view db writes).eventsOf id ∧
      (((view db writes).invocations.lookup id).map (·.state) = (db.invocations.lookup id).map (·.state) ↔
        movesAmong ((view db writes).eventsOf id) = movesAmong (db.eventsOf id)) := by
  have course := Course.any fresh reachable
  refine ⟨fun id => course.sound.inv.log id,?_⟩
  intro before owner writes db after split id
  obtain ⟨inv,commits⟩ := (course.sound.due before owner _ after split).committed writes db rfl
  have agrees := Inv.log inv id
  have agrees' := Inv.log (Commits.preserves inv commits) id
  have grown : db.eventsOf id <+: (view db writes).eventsOf id := (Commits.guarantee commits [] (by simp)).events id
  exact ⟨agrees,agrees',grown,moves_iff grown agrees agrees'⟩

theorem event_log_agrees_lab :
    (acop labRuntime labSettings).Reachable (acop labRuntime labSettings).free labDb lostWorld ∧
      ∀ id, LogAgrees (lostWorld.committed.eventsOf id) (lostWorld.committed.invocations.lookup id) :=
  ⟨lostWorld_reachable,(event_log_agrees labDb_fresh lostWorld_reachable).1⟩

end

end Acop
