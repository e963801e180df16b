import Acop.Conduct.Upkeep
import Acop.Conduct.Decide
import Acop.Conduct.Execute
import Acop.Conduct.Create

/-! Every operation keeps the discipline, so every run of the deployment does. -/
namespace Acop

open Acop.Transaction

/-- No invocation has been requested yet; the catalog and the inventory are arbitrary. -/
structure Db.Fresh (db : Db) : Prop where
  invocations : db.invocations = ∅
  events : db.events = []
  approvals : db.approvals = []
  keyed : Keyed db

section

variable {mode : Mode} {runtime : Runtime} {settings : Settings} {op : Op runtime} {db start : Db}
  {past : List (Happening runtime)} {w : World Reply Fault Answer (Op runtime) Db Write} {α : Type}

theorem Db.Fresh.inv (fresh : start.Fresh) : Inv mode settings start where
  absent := by simp [Db.eventsOf,Db.approvalsOf,fresh.events,fresh.approvals]
  coherent := by simp [fresh.invocations]
  steady := by simp [fresh.invocations]
  denied := by simp [fresh.invocations]
  counted := by simp [fresh.invocations]
  unique := by simp [fresh.invocations]
  keyed := fresh.keyed

theorem Began.unique {op op' : Op runtime} (first : Began past op) (second : Began past op') : op = op' := by
  unfold Began at first second
  exact Event.start.inj (Option.some.inj (first.symm.trans second))

/-- Only a `create` owes something for how it answers. -/
theorem ok_answer {program : Service α} (answer : α → Answer)
    (other : ∀ process request principal, op ≠ .create process request principal)
    (ok : Ok mode settings (Belonging op) (Belonging op) program [] db [.start op]) :
    Ok mode settings (fun value _ _ past => duty mode past (.answer (.ok value)))
      (fun fault _ _ past => duty mode past (.answer (.error fault))) (program >>= fun value => return answer value) [] db
      [.start op] := by
  refine Spec.ok_bind (Spec.ok_weaken ?_ ?_ _ _ _ _ ok)
  · intro value pending db past began process request principal began'
    exact absurd (began.unique began') (other process request principal)
  · intro fault pending db past began process request principal began'
    exact absurd (began.unique began') (other process request principal)

theorem verified : (discipline mode runtime settings).Verified := by
  intro op db inv
  cases op with
  | create process request principal =>
    refine Spec.ok_bind (Spec.ok_weaken ?_ ?_ _ _ _ _ (ok_create process request principal db))
    · rintro invocation pending db past ⟨began,answered⟩ process' request' principal' began'
      cases began.unique began'
      exact answered
    · rintro fault pending db past ⟨began,answered⟩ process' request' principal' began'
      cases began.unique began'
      exact answered
  | decide invocationId principal decision justification digest =>
    exact ok_answer .approval (by simp) (ok_decide invocationId principal decision justification digest db)
  | executeOnce process id => exact ok_answer .state (by simp) (ok_executeOnce process id db)
  | reap limit => exact ok_answer .count (by simp) (ok_reap limit db)
  | sweep limit => exact ok_answer .count (by simp) (ok_sweep limit db)
  | cancel principal id reason => exact ok_answer .invocation (by simp) (ok_cancel principal id reason db)
  | reconcile principal id disposition justification evidenceRef =>
    exact ok_answer .reconciliation (by simp) (ok_reconcile principal id disposition justification evidenceRef db)
  | disableTool process principal requestId toolName toolVersion reason =>
    exact ok_answer (fun _ => .nothing) (by simp)
      (ok_disableTool _ principal requestId toolName toolVersion reason (.start _ db))
  | enableTool process principal requestId toolName toolVersion reason =>
    exact ok_answer (fun _ => .nothing) (by simp)
      (ok_enableTool _ principal requestId toolName toolVersion reason (.start _ db))
  | updateAsset assetId payload =>
    exact ok_answer (fun _ => .nothing) (by simp) (ok_updateAsset assetId payload (.start _ db))
  | retireAsset assetId =>
    exact ok_answer (fun _ => .nothing) (by simp) (ok_retireAsset assetId (.start _ db))

theorem follows_free : (discipline {} runtime settings).Follows (acop runtime settings).free := by
  intro w id input stmt rest pending _ _
  cases stmt with
  | setApprovalsReceived id n => exact ⟨False.elim,False.elim⟩
  | insertInvocation snapshot => exact False.elim
  | _ => trivial

/-- A run under a regime that keeps the promises of a mode. -/
structure Course (mode : Mode) (runtime : Runtime) (settings : Settings) (start : Db)
    (w : World Reply Fault Answer (Op runtime) Db Write) : Prop where
  inv : Inv mode settings start
  sound : (discipline mode runtime settings).Sound w
  told : System.Chronicled (acop runtime settings) start w

theorem Course.follow {regime : (acop runtime settings).Regime} (fresh : start.Fresh)
    (follows : (discipline mode runtime settings).Follows regime)
    (reachable : (acop runtime settings).Reachable regime start w) : Course mode runtime settings start w where
  inv := fresh.inv
  sound := Spec.sound_of_reachable verified follows fresh.inv reachable
  told := System.chronicled_of_reachable reachable

theorem Course.any (fresh : start.Fresh) (reachable : (acop runtime settings).Reachable (acop runtime settings).free start w) :
    Course {} runtime settings start w := .follow fresh follows_free reachable

abbrev Entry (runtime : Runtime) := Nat × Happening runtime

variable {before middle after : List (Entry runtime)} {owner other : Nat} {event : Happening runtime}

theorem Course.inv_seen (course : Course mode runtime settings start w) (split : w.trace = before ++ (owner,event)::after)
    {db : Db} (seen : event.seen = some db) : Inv mode settings db := by
  rw [course.told.dated before owner event after split db seen]
  exact Spec.replay_inv course.inv course.sound course.told before _ split

theorem Course.due (course : Course mode runtime settings start w) (split : w.trace = before ++ (owner,event)::after) :
    duty mode (history before owner) event := (course.sound.due before owner event after split).duty

theorem Course.later (course : Course mode runtime settings start w) (split : w.trace = before ++ middle ++ after) :
    Agree [] ((acop runtime settings).replay start before) ((acop runtime settings).replay start (before ++ middle)) :=
  Spec.replay_related (Agree []) (Agree.refl []) (fun _ _ _ => Agree.trans)
    (fun _ _ _ commits => Commits.guarantee commits [] (by simp)) course.sound course.told before middle after split

theorem Course.between (course : Course mode runtime settings start w) {event' : Happening runtime}
    (split : w.trace = before ++ (owner,event)::(middle ++ (other,event')::after)) {db db' : Db}
    (seen : event.seen = some db) (seen' : event'.seen = some db') : Agree [] db db' := by
  rw [course.told.dated before owner event _ split db seen,
    course.told.dated (before ++ (owner,event)::middle) other event' after (by simpa using split) db' seen']
  exact course.later (by simpa using split)

theorem Course.published (course : Course mode runtime settings start w) {event' : Happening runtime}
    {writes : List Write} {db db' : Db}
    (split : w.trace = before ++ (owner,.commit writes db)::(middle ++ (other,event')::after))
    (seen' : event'.seen = some db') : Agree [] (view db writes) db' := by
  have same := course.told.dated before owner _ _ split db rfl
  have now : (acop runtime settings).replay start (before ++ [(owner,.commit writes db)]) = view db writes := by
    rw [System.replay_append,← same]
    rfl
  rw [← now,course.told.dated ((before ++ [(owner,.commit writes db)]) ++ middle) other event' after
    (by simpa using split) db' seen']
  exact course.later (by simpa using split)

theorem Course.published_now (course : Course mode runtime settings start w) {writes : List Write} {db : Db}
    (split : w.trace = before ++ (owner,.commit writes db)::after) : Agree [] (view db writes) w.committed := by
  have same := course.told.dated before owner _ _ split db rfl
  have now : (acop runtime settings).replay start (before ++ [(owner,.commit writes db)]) = view db writes := by
    rw [System.replay_append,← same]
    rfl
  rw [← now,course.told.current,show w.trace = (before ++ [(owner,.commit writes db)]) ++ after by simpa using split]
  exact course.later (show w.trace = (before ++ [(owner,.commit writes db)]) ++ after ++ [] by simpa using split)

theorem Agree.state {locks : List Lock} {old new : Db} (agree : Agree locks old new) {id : Uuid} {row row' : ToolInvocation}
    (present : old.invocations.lookup id = some row) (present' : new.invocations.lookup id = some row') :
    Grown row row' := by
  obtain ⟨row'',there,grown⟩ := agree.kept id row present
  cases Option.some.inj (there.symm.trans present')
  exact grown

end

end Acop
