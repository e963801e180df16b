import Acop.Laboratory

/-! Invocations that have ended: what still changes of them, and the run that shows it. -/
namespace Acop

open Acop.Transaction

section

variable {runtime : Runtime} {settings : Settings} {start : Db} {w : World Reply Fault Answer (Op runtime) Db Write}

/-- Where partial counts are written only to rows that await approval, a terminal
row never changes again, and a decision is committed only beside an awaiting row. -/
theorem terminal_frozen (fresh : start.Fresh)
    (reachable : (acop runtime settings).Reachable countsWhileAwaiting start w) :
    ∀ before owner writes db after, w.trace = before ++ (owner,.commit writes db)::after → ∀ id,
      (∀ row, db.invocations.lookup id = some row → row.state.Terminal →
        (view db writes).invocations.lookup id = some row) ∧
      ((view db writes).approvalsOf id ≠ db.approvalsOf id →
        ∃ row, db.invocations.lookup id = some row ∧ row.state = .awaitingApproval) := by
  have course := Course.follow fresh follows_countsWhileAwaiting reachable
  intro before owner writes db after split id
  obtain ⟨_,commits⟩ := (course.sound.due before owner _ after split).committed writes db rfl
  have final : Final _ _ db (view db writes) id := (show Commits _ _ writes db from commits) id |>.2
  exact ⟨final.frozen trivial,fun changed => (final.decided changed).2 trivial⟩

theorem terminal_frozen_lab : (acop labRuntime labSettings).Reachable careful labDb approvedWorld ∧ ∀ before owner writes db after,
    approvedWorld.trace = before ++ (owner,.commit writes db)::after → ∀ id,
      (∀ row, db.invocations.lookup id = some row → row.state.Terminal →
        (view db writes).invocations.lookup id = some row) ∧
      ((view db writes).approvalsOf id ≠ db.approvalsOf id →
        ∃ row, db.invocations.lookup id = some row ∧ row.state = .awaitingApproval) :=
  ⟨approvedWorld_careful,terminal_frozen labDb_fresh (approvedWorld_reachable fun _ _ kept => kept.1)⟩

/-- Some commit changed a terminal row and brought an approval with it. -/
def approvedAfterEnd (id : Uuid) (w : Laboratory) : Bool :=
  w.trace.any fun entry => match entry.2 with
    | .commit writes db => (db.invocations.lookup id).any fun row => row.state.Terminal &&
        ((view db writes).invocations.lookup id).any (fun row' => row'.approvalsReceived ≠ row.approvalsReceived) &&
        (approvedAmong (db.approvalsOf id)).length < (approvedAmong ((view db writes).approvalsOf id)).length
    | _ => false

/-- An approver has counted when the requester cancels; the count is written after. -/
def cancelledBox : List LabMove :=
  requested 0 "lab.box.set" (some "k") 1 ++
    .start 1 (approves "bob") :: calls 1 (List.replicate 4 {uuid := 2}) ++
    .start 2 (.cancel (person "ann" {"operator"}) 1 "no") :: calls 2 (List.replicate 5 {uuid := 3}) ++
    .commit 2 :: .finish 2 :: .call 1 {} :: [.commit 1,.finish 1]

theorem cancelledBox_runs : (labRun (acop labRuntime labSettings).free cancelledBox).any (approvedAfterEnd 1) = true := by
  decide +kernel

theorem approval_lands_on_cancelled : ∃ w,
    (acop labRuntime labSettings).Reachable (acop labRuntime labSettings).free labDb w ∧ approvedAfterEnd 1 w = true :=
  labRun_reached cancelledBox_runs

end

end Acop
