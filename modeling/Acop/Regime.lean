import Acop.Verified

/-! Three classes of runs, each told by what is committed when one kind of
statement is issued: the conditions under which the properties hold that need one. -/
namespace Acop

open Acop.Transaction

section

variable {runtime : Runtime} {settings : Settings}

/-- The statement that a move issues, after the history of its session. -/
def issued (w : World Reply Fault Answer (Op runtime) Db Write) :
    Move (Op runtime) Input → Option (List (Happening runtime) × Stmt)
  | .call id _ => match w.sessions.lookup id with
    | some ⟨.call stmt _,_⟩ => some (history w.trace id,stmt)
    | _ => none
  | _ => none

theorem issued_call {w : World Reply Fault Answer (Op runtime) Db Write} {id : Nat} {input : Input} {stmt : Stmt}
    {rest : Reply stmt → Service Answer} {pending : List Write}
    (running : w.sessions.lookup id = some ⟨.call stmt rest,pending⟩) :
    issued w (.call id input) = some (history w.trace id,stmt) := by
  simp [issued,running]

/-- A count below the minimum is written only to a row that still awaits approval. -/
def countsWhileAwaiting : (acop runtime settings).Regime := fun w move => match issued w move with
  | some (_,.setApprovalsReceived id n) => ∀ row ∈ w.committed.invocations.lookup id,
    (n : Int) < row.minApprovals → row.state = .awaitingApproval
  | _ => True

/-- A count below the minimum is written to an awaiting row only while as many
subjects have approved, in what is committed, as when it was taken. -/
def countsUndisturbed : (acop runtime settings).Regime := fun w move => match issued w move with
  | some (past,.setApprovalsReceived id n) => ∀ row ∈ w.committed.invocations.lookup id,
    row.state = .awaitingApproval → (n : Int) < row.minApprovals → match past.getLast? with
      | some (.call (.countApprovers counted) _ seen) =>
        counted = id → approverCount (w.committed.approvalsOf id) = approverCount (seen.approvalsOf id)
      | _ => True
  | _ => True

/-- An invocation is inserted under a key only while no live row holds the key. -/
def insertsUnderFreeKeys : (acop runtime settings).Regime := fun w move => match issued w move with
  | some (_,.insertInvocation snapshot) => ∀ key ∈ snapshot.idempotencyKey,
    ∀ entry ∈ w.committed.invocations.entries, ¬ entry.2.LiveUnder key
  | _ => True

instance (w : World Reply Fault Answer (Op runtime) Db Write) (move : Move (Op runtime) Input) :
    Decidable ((countsWhileAwaiting : (acop runtime settings).Regime) w move) := by
  unfold countsWhileAwaiting
  split <;> infer_instance

instance (w : World Reply Fault Answer (Op runtime) Db Write) (move : Move (Op runtime) Input) :
    Decidable ((countsUndisturbed : (acop runtime settings).Regime) w move) := by
  unfold countsUndisturbed
  split
  · refine @Option.decidableForallMem _ _ (fun row => ?_) _
    refine @instDecidableForall _ _ _ (@instDecidableForall _ _ _ ?_)
    split <;> infer_instance
  · infer_instance

instance (w : World Reply Fault Answer (Op runtime) Db Write) (move : Move (Op runtime) Input) :
    Decidable ((insertsUnderFreeKeys : (acop runtime settings).Regime) w move) := by
  unfold insertsUnderFreeKeys
  split <;> infer_instance

theorem follows_countsWhileAwaiting : (discipline {awaited := True} runtime settings).Follows countsWhileAwaiting := by
  intro w id input stmt rest pending admitted running
  unfold countsWhileAwaiting at admitted
  rw [issued_call running] at admitted
  cases stmt with
  | setApprovalsReceived id n => exact ⟨False.elim,fun _ row present => admitted row present⟩
  | insertInvocation snapshot => exact False.elim
  | _ => trivial

theorem follows_countsUndisturbed : (discipline {counted := True} runtime settings).Follows countsUndisturbed := by
  intro w id input stmt rest pending admitted running
  unfold countsUndisturbed at admitted
  rw [issued_call running] at admitted
  cases stmt with
  | setApprovalsReceived id n =>
    refine ⟨fun _ row present awaiting short before count seen shape => ?_,False.elim⟩
    have undisturbed := admitted row present awaiting short
    rw [shape,List.getLast?_concat] at undisturbed
    exact undisturbed rfl
  | insertInvocation snapshot => exact False.elim
  | _ => trivial

theorem follows_insertsUnderFreeKeys : (discipline {unraced := True} runtime settings).Follows insertsUnderFreeKeys := by
  intro w id input stmt rest pending admitted running
  unfold insertsUnderFreeKeys at admitted
  rw [issued_call running] at admitted
  cases stmt with
  | setApprovalsReceived id n => exact ⟨False.elim,False.elim⟩
  | insertInvocation snapshot =>
    exact fun _ key under other row present => admitted key under ⟨other,row⟩ (AList.mem_lookup_iff.mp present)
  | _ => trivial

end

end Acop
