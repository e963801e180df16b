import Acop.Laboratory

/-! What a reaper can see of an execution: the states between the claim and the
outcome are written and left in one transaction, so no committed row shows them. -/
namespace Acop

open Acop.Transaction

section

variable {runtime : Runtime} {settings : Settings} {start : Db} {w : World Reply Fault Answer (Op runtime) Db Write}

/-- Whatever the worker knows, the committed row stays `EXECUTING` until its outcome
commits, and the reaper closes every row it closes as `EXECUTION_INDETERMINATE`. -/
theorem validation_invisible (fresh : start.Fresh)
    (reachable : (acop runtime settings).Reachable (acop runtime settings).free start w) :
    (∀ id row, w.committed.invocations.lookup id = some row → row.state ≠ .executed ∧ row.state ≠ .validating) ∧
    (∀ before owner adapter request reply db after,
      w.trace = before ++ (owner,.call (.adapterValidate adapter request) reply db)::after →
        ∃ row, db.invocations.lookup request.invocationId = some row ∧ row.state = .executing) ∧
    ∀ before owner writes db after limit, w.trace = before ++ (owner,.commit writes db)::after →
      Began (history before owner) (.reap limit) → ∀ id row row', db.invocations.lookup id = some row →
        (view db writes).invocations.lookup id = some row' → row'.state ≠ row.state →
          row.state = .executing ∧ row'.state = .executionIndeterminate := by
  have course := Course.any fresh reachable
  refine ⟨?_,?_,?_⟩
  · intro id row present
    have steady := course.sound.inv.steady id row present
    refine ⟨fun executed => ?_,fun validating => ?_⟩
    · rw [executed] at steady
      exact absurd steady (by decide)
    · rw [validating] at steady
      exact absurd steady (by decide)
  · exact fun before owner adapter request reply db after split => course.due split
  · intro before owner writes db after limit split began id row row' present present' changed
    obtain ⟨op,began',may⟩ := (course.due split).moved id row row' present present' changed
    cases began.unique began'
    exact may

end

theorem validation_invisible_lab :
    (acop labRuntime labSettings).Reachable (acop labRuntime labSettings).free labDb lostWorld ∧
      ∀ id row, lostWorld.committed.invocations.lookup id = some row → row.state ≠ .executed ∧ row.state ≠ .validating :=
  ⟨lostWorld_reachable,(validation_invisible labDb_fresh lostWorld_reachable).1⟩

/-- A worker that knows of the adapter's success and is lost while it validates is
recorded as an execution of unknown outcome. -/
theorem lost_validation_recorded_indeterminate :
    (acop labRuntime labSettings).Reachable (acop labRuntime labSettings).free labDb lostWorld ∧
      lostInValidation 1 lostWorld = true ∧
      (lostWorld.committed.invocations.lookup 1).map (·.state) = some .executionIndeterminate :=
  ⟨lostWorld_reachable,lostWorld_seen.1.1,lostWorld_seen.2⟩

end Acop
