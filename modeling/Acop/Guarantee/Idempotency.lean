import Acop.Laboratory

/-! Idempotency keys: one invocation for each, and the same answer to every caller
that presents one, where no two creations race for it. -/
namespace Acop

open Acop.Transaction

section

variable {runtime : Runtime} {settings : Settings} {start : Db} {w : World Reply Fault Answer (Op runtime) Db Write}

/-- What a `create` that presented a key does once its lookup found `existing`. -/
structure Replays (process : Process runtime) (request : InvocationRequest) (key : String) (existing : ToolInvocation)
    (event : Happening runtime) : Prop where
  /-- The same envelope is answered with the invocation itself. -/
  same : requestDigest process request = some existing.envelopeDigest → ∀ result, event = .answer result →
    result = .ok (.invocation existing)
  /-- Another envelope is a conflict. -/
  different : requestDigest process request ≠ some existing.envelopeDigest → ∀ result, event = .answer result →
    result = .error (ToolInvocationService.idempotencyConflict key existing)
  /-- Either way nothing is written, and a conflict does not even commit. -/
  silent : ∀ writes db, event = .commit writes db →
    writes = [] ∧ requestDigest process request = some existing.envelopeDigest

/-- At most one live invocation holds a key. Where keys are free at each INSERT no
`create` breaks on the key: its lookup finds exactly the live invocation, and what
it finds decides the answer. -/
theorem idempotent_create (fresh : start.Fresh)
    (reachable : (acop runtime settings).Reachable insertsUnderFreeKeys start w) :
    (∀ key a b first second, w.committed.invocations.lookup a = some first →
      w.committed.invocations.lookup b = some second → first.LiveUnder key → second.LiveUnder key → a = b) ∧
    ∀ before owner event after process request principal, w.trace = before ++ (owner,event)::after →
      Began (history before owner) (.create process request principal) →
        event ≠ .answer (.error (.integrity .idempotencyKey)) ∧
        (∀ key reply db, event = .call (.selectForKey key) reply db → (∀ writes seen, .commit writes seen ∉ history before owner) ∧
          ∀ existing, reply = some existing ↔ ∃ id, db.invocations.lookup id = some existing ∧ existing.LiveUnder key) ∧
        ∀ key existing seen, .call (.selectForKey key) (some existing) seen ∈ history before owner →
          Replays process request key existing event := by
  have course := Course.follow fresh follows_insertsUnderFreeKeys reachable
  refine ⟨?_,?_⟩
  · intro key a b first second left right live live'
    exact course.sound.inv.unique a b first second key left right live.1 live'.1
  intro before owner event after process request principal split began
  have due := course.due split
  refine ⟨?_,?_,?_⟩
  · rintro rfl
    exact (due process request principal began).unbroken trivial rfl
  · rintro key reply db rfl
    exact due
  · intro key existing seen found
    constructor
    · rintro same result rfl
      exact (due process request principal began).replayed key existing seen found same
    · rintro different result rfl
      exact (due process request principal began).refused key existing seen found different
    · rintro writes db rfl
      obtain ⟨unwritten,process',request',principal',began',bound⟩ := CommitDuty.replayed due key existing seen found
      cases began.unique began'
      exact ⟨unwritten,bound⟩

/-- Two requests under one key, the second of them replayed. -/
theorem idempotent_create_lab : (acop labRuntime labSettings).Reachable careful labDb approvedWorld ∧
    (answered 0 1 approvedWorld = true ∧ answered 4 1 approvedWorld = true) ∧
    ∀ key a b first second, approvedWorld.committed.invocations.lookup a = some first →
      approvedWorld.committed.invocations.lookup b = some second → first.LiveUnder key → second.LiveUnder key → a = b :=
  ⟨approvedWorld_careful,approvedWorld_answers,
    (idempotent_create labDb_fresh (approvedWorld_reachable fun _ _ kept => kept.2.2)).1⟩

/-- The same request twice under one key; both look the key up before either inserts. -/
def racedCreates : List LabMove :=
  .start 0 (.create labProcess (boxRequest "lab.box.set" (some "k")) (person "ann" {"operator"})) ::
    .start 1 (.create labProcess (boxRequest "lab.box.set" (some "k")) (person "ann" {"operator"})) ::
    calls 0 (List.replicate 3 {}) ++ calls 1 (List.replicate 3 {}) ++
    calls 0 (List.replicate 11 {uuid := 1}) ++ .commit 0 :: .finish 0 :: .call 1 {uuid := 2} :: [.finish 1]

def brokenOnKey (session : Nat) (w : Laboratory) : Bool :=
  (history w.trace session).any fun event => match event with
    | .answer (.error (.integrity .idempotencyKey)) => true
    | _ => false

theorem racedCreates_runs : (labRun (acop labRuntime labSettings).free racedCreates).any (brokenOnKey 1) = true := by
  decide +kernel

theorem racing_create_breaks : ∃ w,
    (acop labRuntime labSettings).Reachable (acop labRuntime labSettings).free labDb w ∧ brokenOnKey 1 w = true :=
  labRun_reached racedCreates_runs

end

end Acop
