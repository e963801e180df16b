import Acop.Transaction.Logic

/-! The trace of a run as its chronicle: the commits recorded so far, replayed
from the first database, give the database that each later event saw. What every
commit keeps therefore relates any two databases of a run. -/
namespace Acop.Transaction

variable {Stmt : Type} {Reply : Stmt → Type} {Fault Answer Op Db Write Lock Input : Type}

def Event.seen : Event Reply Fault Answer Op Db Write → Option Db
  | .call _ _ db => some db
  | .commit _ db => some db
  | _ => none

namespace System

variable (σ : System Reply Fault Answer Op Db Write Lock Input)

def replay (start : Db) (trace : List (Nat × Event Reply Fault Answer Op Db Write)) : Db :=
  trace.foldl (fun db entry => match entry.2 with
    | .commit writes _ => σ.settle db writes
    | _ => db) start

variable {σ}

@[simp] theorem replay_nil (start : Db) : σ.replay start [] = start := rfl

theorem replay_append (start : Db) (first second : List (Nat × Event Reply Fault Answer Op Db Write)) :
    σ.replay start (first ++ second) = σ.replay (σ.replay start first) second := List.foldl_append

@[simp] theorem replay_commit (start : Db) (id : Nat) (writes : List Write) (db : Db)
    (rest : List (Nat × Event Reply Fault Answer Op Db Write)) :
    σ.replay start ((id,.commit writes db)::rest) = σ.replay (σ.settle start writes) rest := rfl

theorem replay_other (start : Db) (id : Nat) (event : Event Reply Fault Answer Op Db Write)
    (rest : List (Nat × Event Reply Fault Answer Op Db Write))
    (other : ∀ writes db, event ≠ .commit writes db) :
    σ.replay start ((id,event)::rest) = σ.replay start rest := by
  cases event with
  | commit writes db => exact absurd rfl (other writes db)
  | _ => rfl

theorem replay_changed {Held : Db → Prop} {start : Db} {trace : List (Nat × Event Reply Fault Answer Op Db Write)}
    (absent : ¬ Held start) (present : Held (σ.replay start trace)) : ∃ before id writes db after,
      trace = before ++ (id,.commit writes db)::after ∧ ¬ Held (σ.replay start before) ∧
        Held (σ.settle (σ.replay start before) writes) := by
  induction trace generalizing start with
  | nil => exact absurd present absent
  | cons entry rest ih =>
    obtain ⟨id,event⟩ := entry
    by_cases published : ∃ writes db, event = .commit writes db
    · obtain ⟨writes,db,rfl⟩ := published
      by_cases now : Held (σ.settle start writes)
      · exact ⟨[],id,writes,db,rest,rfl,absent,now⟩
      · obtain ⟨before,other,writes',db',after,rfl,old,new⟩ := ih now present
        exact ⟨(id,.commit writes db)::before,other,writes',db',after,rfl,old,new⟩
    · have other : ∀ writes db, event ≠ .commit writes db := fun writes db same => published ⟨writes,db,same⟩
      rw [replay_other start id event rest other] at present
      obtain ⟨before,owner,writes,db,after,rfl,old,new⟩ := ih absent present
      refine ⟨(id,event)::before,owner,writes,db,after,rfl,?_,?_⟩
      · rw [replay_other start id event before other]
        exact old
      · rw [replay_other start id event before other]
        exact new

/-- The trace tells what the committed database is and was. -/
structure Chronicled (σ : System Reply Fault Answer Op Db Write Lock Input) (start : Db)
    (w : World Reply Fault Answer Op Db Write) : Prop where
  current : w.committed = σ.replay start w.trace
  dated : ∀ before id event after, w.trace = before ++ (id,event)::after →
    ∀ db, event.seen = some db → db = σ.replay start before

private theorem chronicled_extend {start : Db} {w w' : World Reply Fault Answer Op Db Write} {id : Nat}
    {event : Event Reply Fault Answer Op Db Write} (told : Chronicled σ start w)
    (grown : w'.trace = w.trace ++ [(id,event)])
    (current : w'.committed = σ.replay w.committed [(id,event)])
    (seen : ∀ db, event.seen = some db → db = w.committed) : Chronicled σ start w' where
  current := by rw [grown,replay_append,← told.current,current]
  dated := by
    intro before owner found after split db shown
    rw [grown] at split
    rcases Spec.split_grown split with ⟨same,last⟩ | ⟨rest,earlier⟩
    · cases last
      rw [same,← told.current]
      exact seen db shown
    · exact told.dated before owner found rest earlier db shown

theorem chronicled_step [DecidableEq Lock] {regime : σ.Regime} {start : Db}
    {w w' : World Reply Fault Answer Op Db Write} (told : Chronicled σ start w)
    (step : σ.Step regime w w') : Chronicled σ start w' := by
  obtain ⟨move,_,fired⟩ := step
  cases σ.fires_of_next w w' move fired with
  | start id op => exact chronicled_extend told rfl rfl (by simp [Event.seen])
  | call id input stmt rest pending reply new =>
    exact chronicled_extend told rfl rfl (by simp [Event.seen])
  | commit id rest pending => exact chronicled_extend told rfl rfl (by simp [Event.seen])
  | done id value pending => exact chronicled_extend told rfl rfl (by simp [Event.seen])
  | fail id fault pending => exact chronicled_extend told rfl rfl (by simp [Event.seen])
  | crash id => exact chronicled_extend told rfl rfl (by simp [Event.seen])

theorem chronicled_of_reachable [DecidableEq Lock] {regime : σ.Regime} {start : Db}
    {w : World Reply Fault Answer Op Db Write} (reachable : σ.Reachable regime start w) :
    Chronicled σ start w := by
  induction reachable with
  | refl => exact ⟨rfl,by simp [World.initial]⟩
  | tail _ step ih => exact chronicled_step ih step

end System

namespace Spec

variable {σ : System Reply Fault Answer Op Db Write Lock Input} {spec : Spec σ}

/-- A preorder that every commit keeps relates the databases before and after any
stretch of a run. -/
theorem replay_related {start : Db} {w : World Reply Fault Answer Op Db Write}
    (Rel : Db → Db → Prop) (refl : ∀ db, Rel db db) (trans : ∀ a b c, Rel a b → Rel b c → Rel a c)
    (kept : ∀ writes db, spec.Inv db → spec.Com writes db → Rel db (σ.settle db writes))
    (sound : spec.Sound w) (told : σ.Chronicled start w)
    (before middle after : List (Nat × Event Reply Fault Answer Op Db Write))
    (split : w.trace = before ++ middle ++ after) :
    Rel (σ.replay start before) (σ.replay start (before ++ middle)) := by
  induction middle generalizing before with
  | nil => simpa using refl _
  | cons entry middle ih =>
    obtain ⟨id,event⟩ := entry
    have split' : w.trace = before ++ (id,event)::(middle ++ after) := by simpa using split
    have rest := ih (before ++ [(id,event)]) (by simpa using split)
    have first : Rel (σ.replay start before) (σ.replay start (before ++ [(id,event)])) := by
      by_cases published : ∃ writes db, event = .commit writes db
      · obtain ⟨writes,db,rfl⟩ := published
        have same : db = σ.replay start before := told.dated before id _ _ split' db rfl
        have due := (sound.due before id _ _ split').committed writes db rfl
        rw [System.replay_append,← same]
        exact kept writes db due.1 due.2
      · rw [System.replay_append,System.replay_other]
        · exact refl _
        · exact fun writes db same => published ⟨writes,db,same⟩
    simpa using trans _ _ _ first rest

theorem replay_inv {start : Db} {w : World Reply Fault Answer Op Db Write} (inv : spec.Inv start)
    (sound : spec.Sound w) (told : σ.Chronicled start w)
    (before after : List (Nat × Event Reply Fault Answer Op Db Write)) (split : w.trace = before ++ after) :
    spec.Inv (σ.replay start before) :=
  replay_related (fun a b => spec.Inv a → spec.Inv b) (fun _ held => held)
    (fun _ _ _ first second held => second (first held))
    (fun writes db inv com _ => spec.preserves db writes inv com) sound told [] before after
    (by simpa using split) inv

end Spec

end Acop.Transaction
