import Acop.Transaction.Program
import Mathlib.Data.List.Induction
import Mathlib.Logic.Relation

/-! Interleaved transactions over one committed database. A statement reads the
rows committed before it together with its own pending writes; a write waits
until no other open transaction holds one of its locks and is then evaluated
against the rows as they are, so a conditional update re-evaluates its predicate.
Commit publishes the pending writes, a fault or a crash discards them. -/
namespace Acop.Transaction

/-- What a deployment is made of. `exec` answers a statement on the issuing
transaction's view; whatever the view does not determine (clocks, identifiers,
the outside world) is the `Input`. -/
structure System {Stmt : Type} (Reply : Stmt → Type)
    (Fault Answer Op Db Write Lock Input : Type) where
  program : Op → Program Reply Fault Answer
  apply : Db → Write → Db
  locks : Write → List Lock
  exec : (stmt : Stmt) → Db → Input → Option (Reply stmt × List Write)

/-- What a run leaves in its trace; `before` is the database committed then. -/
inductive Event {Stmt : Type} (Reply : Stmt → Type) (Fault Answer Op Db Write : Type) where
  | start (op : Op)
  | call (stmt : Stmt) (reply : Reply stmt) (before : Db)
  | commit (writes : List Write) (before : Db)
  | answer (result : Except Fault Answer)
  | crash

inductive Move (Op Input : Type) where
  | start (id : Nat) (op : Op)
  | call (id : Nat) (input : Input)
  | commit (id : Nat)
  | finish (id : Nat)
  | crash (id : Nat)

structure Session {Stmt : Type} (Reply : Stmt → Type) (Fault Answer Write : Type) where
  program : Program Reply Fault Answer
  pending : List Write

structure World {Stmt : Type} (Reply : Stmt → Type) (Fault Answer Op Db Write : Type) where
  committed : Db
  sessions : AList fun _ : Nat => Session Reply Fault Answer Write
  trace : List (Nat × Event Reply Fault Answer Op Db Write)

variable {Stmt : Type} {Reply : Stmt → Type} {Fault Answer Op Db Write Lock Input : Type}

def history (trace : List (Nat × Event Reply Fault Answer Op Db Write)) (id : Nat) :
    List (Event Reply Fault Answer Op Db Write) :=
  trace.filterMap fun entry => if entry.1 = id then some entry.2 else none

def World.initial (db : Db) : World Reply Fault Answer Op Db Write := ⟨db,∅,[]⟩

namespace System

variable (σ : System Reply Fault Answer Op Db Write Lock Input)

def settle (db : Db) (pending : List Write) : Db := pending.foldl σ.apply db

def held (pending : List Write) : List Lock := pending.flatMap σ.locks

/-- No session but `id` holds one of the locks. -/
def Free (w : World Reply Fault Answer Op Db Write) (id : Nat) (locks : List Lock) : Prop :=
  ∀ entry ∈ w.sessions.entries, entry.1 ≠ id → ∀ lock ∈ σ.held entry.2.pending, lock ∉ locks

instance [DecidableEq Lock] (w : World Reply Fault Answer Op Db Write) (id : Nat) (locks : List Lock) :
    Decidable (σ.Free w id locks) := by unfold Free; infer_instance

/-- One step of the interleaving; `none` where the move is not enabled. -/
def next [DecidableEq Lock] (w : World Reply Fault Answer Op Db Write) :
    Move Op Input → Option (World Reply Fault Answer Op Db Write)
  | .start id op =>
    if id ∉ w.sessions ∧ ∀ entry ∈ w.trace, entry.1 ≠ id then
      some {w with
        sessions := w.sessions.insert id ⟨σ.program op,[]⟩
        trace := w.trace ++ [(id,.start op)]}
    else none
  | .call id input =>
    match w.sessions.lookup id with
    | some ⟨.call stmt rest,pending⟩ =>
      match σ.exec stmt (σ.settle w.committed pending) input with
      | some (reply,new) =>
        if σ.Free w id (σ.held new) then
          some {w with
            sessions := w.sessions.insert id ⟨rest reply,pending ++ new⟩
            trace := w.trace ++ [(id,.call stmt reply w.committed)]}
        else none
      | none => none
    | _ => none
  | .commit id =>
    match w.sessions.lookup id with
    | some ⟨.commit rest,pending⟩ =>
      some {
        committed := σ.settle w.committed pending
        sessions := w.sessions.insert id ⟨rest,[]⟩
        trace := w.trace ++ [(id,.commit pending w.committed)]}
    | _ => none
  | .finish id =>
    match w.sessions.lookup id with
    | some ⟨.done value,_⟩ =>
      some {w with sessions := w.sessions.erase id, trace := w.trace ++ [(id,.answer (.ok value))]}
    | some ⟨.fail fault,_⟩ =>
      some {w with sessions := w.sessions.erase id, trace := w.trace ++ [(id,.answer (.error fault))]}
    | _ => none
  | .crash id =>
    if id ∈ w.sessions then
      some {w with sessions := w.sessions.erase id, trace := w.trace ++ [(id,.crash)]}
    else none

/-- `next` by cases: everything a step can do, with its guards. -/
inductive Fires (w : World Reply Fault Answer Op Db Write) :
    Move Op Input → World Reply Fault Answer Op Db Write → Prop
  | start (id op) (idle : id ∉ w.sessions) (unused : ∀ entry ∈ w.trace, entry.1 ≠ id) :
      Fires w (.start id op) {w with
        sessions := w.sessions.insert id ⟨σ.program op,[]⟩
        trace := w.trace ++ [(id,.start op)]}
  | call (id input stmt rest pending reply new)
      (running : w.sessions.lookup id = some ⟨.call stmt rest,pending⟩)
      (answered : σ.exec stmt (σ.settle w.committed pending) input = some (reply,new))
      (free : σ.Free w id (σ.held new)) :
      Fires w (.call id input) {w with
        sessions := w.sessions.insert id ⟨rest reply,pending ++ new⟩
        trace := w.trace ++ [(id,.call stmt reply w.committed)]}
  | commit (id rest pending) (running : w.sessions.lookup id = some ⟨.commit rest,pending⟩) :
      Fires w (.commit id) {
        committed := σ.settle w.committed pending
        sessions := w.sessions.insert id ⟨rest,[]⟩
        trace := w.trace ++ [(id,.commit pending w.committed)]}
  | done (id value pending) (running : w.sessions.lookup id = some ⟨.done value,pending⟩) :
      Fires w (.finish id) {w with
        sessions := w.sessions.erase id, trace := w.trace ++ [(id,.answer (.ok value))]}
  | fail (id fault pending) (running : w.sessions.lookup id = some ⟨.fail fault,pending⟩) :
      Fires w (.finish id) {w with
        sessions := w.sessions.erase id, trace := w.trace ++ [(id,.answer (.error fault))]}
  | crash (id) (running : id ∈ w.sessions) :
      Fires w (.crash id) {w with sessions := w.sessions.erase id, trace := w.trace ++ [(id,.crash)]}

theorem fires_of_next [DecidableEq Lock] (w w' : World Reply Fault Answer Op Db Write)
    (move : Move Op Input) (ok : σ.next w move = some w') : σ.Fires w move w' := by
  cases move with
  | start id op =>
    simp only [next] at ok
    split at ok
    · rename_i enabled
      cases ok
      exact .start id op enabled.1 enabled.2
    · cases ok
  | call id input =>
    simp only [next] at ok
    split at ok
    · rename_i stmt rest pending running
      split at ok
      · rename_i reply new answered
        split at ok
        · rename_i free
          cases ok
          exact .call id input stmt rest pending reply new running answered free
        · cases ok
      · cases ok
    · cases ok
  | commit id =>
    simp only [next] at ok
    split at ok
    · rename_i rest pending running
      cases ok
      exact .commit id rest pending running
    · cases ok
  | finish id =>
    simp only [next] at ok
    split at ok
    · rename_i value pending running
      cases ok
      exact .done id value pending running
    · rename_i fault pending running
      cases ok
      exact .fail id fault pending running
    · cases ok
  | crash id =>
    simp only [next] at ok
    split at ok
    · rename_i running
      cases ok
      exact .crash id running
    · cases ok

/-- Which steps a class of runs is restricted to. -/
abbrev Regime (_ : System Reply Fault Answer Op Db Write Lock Input) :=
  World Reply Fault Answer Op Db Write → Move Op Input → Prop

def Step [DecidableEq Lock] (regime : σ.Regime) (w w' : World Reply Fault Answer Op Db Write) : Prop :=
  ∃ move, regime w move ∧ σ.next w move = some w'

def Steps [DecidableEq Lock] (regime : σ.Regime) :
    World Reply Fault Answer Op Db Write → World Reply Fault Answer Op Db Write → Prop :=
  Relation.ReflTransGen (σ.Step regime)

def Reachable [DecidableEq Lock] (regime : σ.Regime) (db : Db)
    (w : World Reply Fault Answer Op Db Write) : Prop :=
  σ.Steps regime (.initial db) w

def free : σ.Regime := fun _ _ => True

theorem Step.weaken [DecidableEq Lock] {strict loose : σ.Regime}
    {w w' : World Reply Fault Answer Op Db Write}
    (weaker : ∀ w move, strict w move → loose w move) (step : σ.Step strict w w') : σ.Step loose w w' := by
  obtain ⟨move,admitted,fired⟩ := step
  exact ⟨move,weaker w move admitted,fired⟩

theorem Steps.weaken [DecidableEq Lock] {strict loose : σ.Regime}
    {w w' : World Reply Fault Answer Op Db Write}
    (weaker : ∀ w move, strict w move → loose w move) (steps : σ.Steps strict w w') : σ.Steps loose w w' :=
  Relation.ReflTransGen.mono (fun _ _ step => Step.weaken σ weaker step) _ _ steps

theorem records_of_step [DecidableEq Lock] {regime : σ.Regime} {w w' : World Reply Fault Answer Op Db Write}
    (step : σ.Step regime w w') : ∃ entry, w'.trace = w.trace ++ [entry] := by
  obtain ⟨move,_,fired⟩ := step
  cases σ.fires_of_next w w' move fired with
  | start => exact ⟨_,rfl⟩
  | call => exact ⟨_,rfl⟩
  | commit => exact ⟨_,rfl⟩
  | done => exact ⟨_,rfl⟩
  | fail => exact ⟨_,rfl⟩
  | crash => exact ⟨_,rfl⟩

theorem grows_of_steps [DecidableEq Lock] {regime : σ.Regime} {w w' : World Reply Fault Answer Op Db Write}
    (steps : σ.Steps regime w w') : w.trace <+: w'.trace := by
  induction steps with
  | refl => exact List.prefix_refl _
  | tail _ step ih =>
    obtain ⟨entry,same⟩ := σ.records_of_step step
    exact ih.trans ⟨[entry],same.symm⟩

theorem reached_at [DecidableEq Lock] {regime : σ.Regime} {start : Db} {w : World Reply Fault Answer Op Db Write}
    (reachable : σ.Reachable regime start w) {before : List (Nat × Event Reply Fault Answer Op Db Write)}
    (earlier : before <+: w.trace) :
    ∃ middle, σ.Reachable regime start middle ∧ σ.Steps regime middle w ∧ middle.trace = before := by
  induction reachable with
  | refl =>
    have none : before = [] := List.prefix_nil.mp earlier
    exact ⟨_,.refl,.refl,none.symm⟩
  | @tail w' w steps step ih =>
    obtain ⟨entry,same⟩ := σ.records_of_step step
    rw [same,List.prefix_concat_iff] at earlier
    rcases earlier with whole | part
    · exact ⟨w,steps.tail step,.refl,same.trans whole.symm⟩
    · obtain ⟨middle,reached,later,told⟩ := ih part
      exact ⟨middle,reached,later.tail step,told⟩

def run [DecidableEq Lock] (regime : σ.Regime) [∀ w move, Decidable (regime w move)]
    (w : World Reply Fault Answer Op Db Write) :
    List (Move Op Input) → Option (World Reply Fault Answer Op Db Write)
  | [] => some w
  | move::moves => if regime w move then (σ.next w move).bind fun w' => run regime w' moves else none

instance (w : World Reply Fault Answer Op Db Write) (move : Move Op Input) : Decidable (σ.free w move) :=
  .isTrue trivial

theorem steps_of_run [DecidableEq Lock] {regime : σ.Regime} [∀ w move, Decidable (regime w move)]
    (w w' : World Reply Fault Answer Op Db Write) (moves : List (Move Op Input))
    (ok : σ.run regime w moves = some w') : σ.Steps regime w w' := by
  induction moves generalizing w with
  | nil =>
    cases ok
    exact .refl
  | cons move moves ih =>
    unfold run at ok
    split at ok
    · rename_i admitted
      obtain ⟨middle,first,rest⟩ := Option.bind_eq_some_iff.mp ok
      exact .head ⟨move,admitted,first⟩ (ih middle rest)
    · cases ok

theorem reachable_of_run [DecidableEq Lock] {regime : σ.Regime} [∀ w move, Decidable (regime w move)] {db : Db}
    {moves : List (Move Op Input)} {seen : World Reply Fault Answer Op Db Write → Bool}
    (ran : (σ.run regime (.initial db) moves).any seen = true) : ∃ w, σ.Reachable regime db w ∧ seen w = true := by
  obtain ⟨w,ended,there⟩ := (Option.any_eq_true _ _).mp ran
  exact ⟨w,σ.steps_of_run _ _ moves ended,there⟩

@[simp] theorem settle_nil (db : Db) : σ.settle db [] = db := rfl

@[simp] theorem settle_append (db : Db) (first second : List Write) :
    σ.settle db (first ++ second) = σ.settle (σ.settle db first) second := List.foldl_append

@[simp] theorem settle_cons (db : Db) (write : Write) (writes : List Write) :
    σ.settle db (write::writes) = σ.settle (σ.apply db write) writes := rfl

@[simp] theorem held_nil : σ.held [] = [] := rfl

@[simp] theorem held_append (first second : List Write) :
    σ.held (first ++ second) = σ.held first ++ σ.held second := List.flatMap_append

@[simp] theorem held_cons (write : Write) (writes : List Write) :
    σ.held (write::writes) = σ.locks write ++ σ.held writes := List.flatMap_cons

end System

section History

variable {trace : List (Nat × Event Reply Fault Answer Op Db Write)}

@[simp] theorem history_nil (id : Nat) :
    history ([] : List (Nat × Event Reply Fault Answer Op Db Write)) id = [] := rfl

@[simp] theorem history_append (first second : List (Nat × Event Reply Fault Answer Op Db Write)) (id : Nat) :
    history (first ++ second) id = history first id ++ history second id := List.filterMap_append

@[simp] theorem history_own (id : Nat) (event : Event Reply Fault Answer Op Db Write) :
    history [(id,event)] id = [event] := by simp [history]

theorem history_other {id other : Nat} (different : id ≠ other)
    (event : Event Reply Fault Answer Op Db Write) : history [(id,event)] other = [] := by
  simp [history,different]

theorem mem_history {id : Nat} {event : Event Reply Fault Answer Op Db Write} :
    event ∈ history trace id ↔ (id,event) ∈ trace := by
  simp only [history,List.mem_filterMap]
  constructor
  · rintro ⟨⟨owner,found⟩,member,selected⟩
    split at selected
    · rename_i same
      cases selected
      exact same ▸ member
    · cases selected
  · intro member
    exact ⟨_,member,by simp⟩

theorem history_last {id : Nat} {event : Event Reply Fault Answer Op Db Write}
    (last : (history trace id).getLast? = some event) : ∃ before after,
      trace = before ++ (id,event)::after ∧ history trace id = history before id ++ [event] := by
  induction trace using List.reverseRec with
  | nil => cases last
  | append_singleton earlier entry ih =>
    obtain ⟨owner,latest⟩ := entry
    by_cases own : owner = id
    · subst own
      have same : latest = event := by simpa using last
      subst same
      exact ⟨earlier,[],rfl,by simp⟩
    · have still : history (earlier ++ [(owner,latest)]) id = history earlier id := by simp [history_other own]
      rw [still] at last ⊢
      obtain ⟨before,after,split,told⟩ := ih last
      exact ⟨before,after ++ [(owner,latest)],by simp [split],told⟩

theorem history_unused {id : Nat} (unused : ∀ entry ∈ trace, entry.1 ≠ id) : history trace id = [] := by
  simp only [history,List.filterMap_eq_nil_iff]
  intro entry member
  simp [unused entry member]

end History

end Acop.Transaction
