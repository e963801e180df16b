import Acop.Transaction.World

/-! A program with the store to itself: every statement is answered at once, and the run is one
of those that the interleaving admits. -/
namespace Acop.Transaction

variable {Stmt : Type} {Reply : Stmt → Type} {Fault Answer Op Db Write Lock Input α : Type}

namespace System

variable (σ : System Reply Fault Answer Op Db Write Lock Input)

/-- How a program ends and what is committed then; `none` where an input is missing or not accepted. -/
def alone : Program Reply Fault α → List Write → Db → List Input → Option (Except Fault α × Db)
  | .done value,_,db,_ => some (.ok value,db)
  | .fail fault,_,db,_ => some (.error fault,db)
  | .call _ _,_,_,[] => none
  | .call stmt rest,pending,db,input::inputs => match σ.exec stmt (σ.settle db pending) input with
    | some (reply,new) => alone (rest reply) (pending ++ new) db inputs
    | none => none
  | .commit rest,pending,db,inputs => alone rest [] (σ.settle db pending) inputs

def Sole (w : World Reply Fault Answer Op Db Write) (id : Nat) : Prop :=
  ∀ other, other ≠ id → w.sessions.lookup other = none

variable {σ}

theorem Sole.free {w : World Reply Fault Answer Op Db Write} {id : Nat} (sole : Sole w id) (locks : List Lock) :
    σ.Free w id locks := by
  rintro ⟨other,session⟩ member different
  have found : w.sessions.lookup other = some session := AList.mem_lookup_iff.mpr member
  cases (sole other different).symm.trans found

theorem Sole.insert {w : World Reply Fault Answer Op Db Write} {id : Nat} (sole : Sole w id)
    (session : Session Reply Fault Answer Write) {committed : Db} {trace : List (Nat × Event Reply Fault Answer Op Db Write)} :
    Sole ⟨committed,w.sessions.insert id session,trace⟩ id := by
  intro other different
  rw [AList.lookup_insert_ne different]
  exact sole other different

theorem steps_of_alone [DecidableEq Lock] {program : Program Reply Fault Answer} {pending : List Write} {inputs : List Input}
    {result : Except Fault Answer} {db : Db} {w : World Reply Fault Answer Op Db Write} {id : Nat} (sole : Sole w id)
    (running : w.sessions.lookup id = some ⟨program,pending⟩) (ended : σ.alone program pending w.committed inputs = some (result,db)) :
    ∃ w', σ.Steps σ.free w w' ∧ w'.committed = db ∧ (id,.answer result) ∈ w'.trace := by
  induction program generalizing pending inputs w with
  | done value =>
    cases ended
    have fired : σ.next w (.finish id) = some {w with
        sessions := w.sessions.erase id, trace := w.trace ++ [(id,.answer (.ok value))]} := by
      simp only [next,running]
    exact ⟨_,.single ⟨_,trivial,fired⟩,rfl,by simp⟩
  | fail fault =>
    cases ended
    have fired : σ.next w (.finish id) = some {w with
        sessions := w.sessions.erase id, trace := w.trace ++ [(id,.answer (.error fault))]} := by
      simp only [next,running]
    exact ⟨_,.single ⟨_,trivial,fired⟩,rfl,by simp⟩
  | call stmt rest ih =>
    cases inputs with
    | nil => cases ended
    | cons input inputs =>
      unfold alone at ended
      split at ended
      · rename_i reply new answered
        have fired : σ.next w (.call id input) = some {w with
            sessions := w.sessions.insert id ⟨rest reply,pending ++ new⟩
            trace := w.trace ++ [(id,.call stmt reply w.committed)]} := by
          simp only [next,running,answered]
          rw [if_pos (sole.free _)]
        obtain ⟨w',steps,committed,told⟩ := ih reply (sole.insert ⟨rest reply,pending ++ new⟩) (AList.lookup_insert _) ended
        exact ⟨w',.head ⟨_,trivial,fired⟩ steps,committed,told⟩
      · cases ended
  | commit rest ih =>
    have fired : σ.next w (.commit id) = some {
        committed := σ.settle w.committed pending
        sessions := w.sessions.insert id ⟨rest,[]⟩
        trace := w.trace ++ [(id,.commit pending w.committed)]} := by
      simp only [next,running]
    obtain ⟨w',steps,committed,told⟩ := ih (sole.insert ⟨rest,[]⟩) (AList.lookup_insert _) ended
    exact ⟨w',.head ⟨_,trivial,fired⟩ steps,committed,told⟩

theorem reachable_of_alone [DecidableEq Lock] {op : Op} {inputs : List Input} {result : Except Fault Answer} {start db : Db}
    (ended : σ.alone (σ.program op) [] start inputs = some (result,db)) :
    ∃ w, σ.Reachable σ.free start w ∧ w.committed = db ∧ (0,.answer result) ∈ w.trace := by
  have fired : σ.next (.initial start) (.start 0 op) = some {
      committed := start
      sessions := (∅ : AList fun _ : Nat => Session Reply Fault Answer Write).insert 0 ⟨σ.program op,[]⟩
      trace := [(0,.start op)]} := by
    simp [next,World.initial]
  have sole : Sole (World.mk start ((∅ : AList fun _ : Nat => Session Reply Fault Answer Write).insert 0 ⟨σ.program op,[]⟩)
      [(0,.start op)]) 0 := by
    intro other different
    rw [AList.lookup_insert_ne different,AList.lookup_empty]
  obtain ⟨w,steps,committed,told⟩ := steps_of_alone sole (AList.lookup_insert _) ended
  exact ⟨w,.head ⟨_,trivial,fired⟩ steps,committed,told⟩

end System

end Acop.Transaction
