import Acop.Service.Worker

/-! What one iteration of the worker calls, whichever of its calls raise. -/
namespace Acop.Worker
open Acop.Transaction

/-- What one iteration meets: the ids that are ready, and what each call returns or raises. -/
structure Circumstances (Fault : Type) where
  batch : List Uuid
  distinct : batch.Nodup
  executed : Uuid → Except Fault Bool
  reaped : Except Fault Nat
  swept : Except Fault Nat

section Iteration

variable {Fault : Type} (met : Circumstances Fault)

def Circumstances.answers : Remote (Reply Fault)
  | _,.selectReady _ => .ok met.batch
  | _,.executeOnce invocationId => met.executed invocationId
  | _,.reapExpiredLeases => met.reaped
  | _,.expireStale => met.swept

def Circumstances.calls (settings : Settings) (tick : Nat) : List Call :=
  ((iteration settings tick).converse met.answers []).1.map (·.1)

/-- No call keeps the others of the iteration from being made. -/
structure Isolated (settings : Settings) (tick : Nat) : Prop where
  attempted : ∀ invocationId ∈ met.batch, .executeOnce invocationId ∈ met.calls settings tick
  upkept : due settings tick →
    .reapExpiredLeases ∈ met.calls settings tick ∧ .expireStale ∈ met.calls settings tick

/-- Nothing raises with calls still to come. -/
structure Untroubled (settings : Settings) (tick : Nat) : Prop where
  batch : ∀ invocationId ∈ met.batch.dropLast, (met.executed invocationId).isOk
  upkeep : due settings tick → (∀ invocationId ∈ met.batch, (met.executed invocationId).isOk) ∧ met.reaped.isOk

variable {met} {settings : Settings} {tick : Nat}

/-- The ids up to the first whose execution raises, and what it raises. -/
def upTo (executed : Uuid → Except Fault Bool) : List Uuid → List Uuid × Except Fault Unit
  | [] => ([],.ok ())
  | invocationId::rest => match executed invocationId with
    | .ok _ => (invocationId::(upTo executed rest).1,(upTo executed rest).2)
    | .error fault => ([invocationId],.error fault)

theorem upTo_returned {executed : Uuid → Except Fault Bool} {invocationId : Uuid} {rest : List Uuid} {outcome : Bool}
    (returned : executed invocationId = .ok outcome) :
    upTo executed (invocationId::rest) = (invocationId::(upTo executed rest).1,(upTo executed rest).2) := by
  rw [upTo,returned]

theorem upTo_raised {executed : Uuid → Except Fault Bool} {invocationId : Uuid} {rest : List Uuid} {fault : Fault}
    (raised : executed invocationId = .error fault) :
    upTo executed (invocationId::rest) = ([invocationId],.error fault) := by
  rw [upTo,raised]

theorem upTo_ok {executed : Uuid → Except Fault Bool} {ids : List Uuid} :
    (upTo executed ids).2.isOk = true ↔ ∀ invocationId ∈ ids, (executed invocationId).isOk := by
  induction ids with
  | nil => exact iff_of_true rfl fun _ member => nomatch member
  | cons invocationId rest ih =>
    rw [List.forall_mem_cons,← ih]
    cases answered : executed invocationId with
    | ok outcome =>
      rw [upTo_returned answered]
      exact (and_iff_right rfl).symm
    | error fault =>
      rw [upTo_raised answered]
      exact iff_of_false Bool.false_ne_true fun both => Bool.false_ne_true both.1

theorem upTo_all {executed : Uuid → Except Fault Bool} {ids : List Uuid} (distinct : ids.Nodup) :
    (∀ invocationId ∈ ids, invocationId ∈ (upTo executed ids).1) ↔
      ∀ invocationId ∈ ids.dropLast, (executed invocationId).isOk := by
  induction ids with
  | nil => simp
  | cons invocationId rest ih =>
    obtain ⟨fresh,distinctRest⟩ := List.nodup_cons.mp distinct
    have later := ih distinctRest
    cases answered : executed invocationId with
    | ok outcome =>
      rw [upTo_returned answered,List.forall_mem_cons]
      have onward : (∀ other ∈ rest, other ∈ invocationId::(upTo executed rest).1) ↔
          ∀ other ∈ rest, other ∈ (upTo executed rest).1 := by
        refine forall₂_congr fun other member =>
          ⟨fun found => (List.mem_cons.mp found).resolve_left ?_,List.mem_cons_of_mem _⟩
        rintro rfl
        exact fresh member
      rw [and_iff_right List.mem_cons_self,onward,later]
      cases rest with
      | nil => simp
      | cons next rest =>
        rw [List.dropLast_cons_of_ne_nil (List.cons_ne_nil next rest),List.forall_mem_cons,answered]
        exact (and_iff_right rfl).symm
    | error fault =>
      rw [upTo_raised answered]
      cases rest with
      | nil => simp
      | cons next rest =>
        rw [List.dropLast_cons_of_ne_nil (List.cons_ne_nil next rest)]
        have failed : ¬ (executed invocationId).isOk := by rw [answered]; exact Bool.false_ne_true
        refine iff_of_false (fun all => ?_) fun none => failed (none invocationId List.mem_cons_self)
        have only := List.mem_singleton.mp (all next (List.mem_cons_of_mem _ List.mem_cons_self))
        exact fresh (only ▸ List.mem_cons_self)

def execution (met : Circumstances Fault) (invocationId : Uuid) : Exchange (Reply Fault) :=
  ⟨.executeOnce invocationId,met.executed invocationId⟩

theorem converse_batch (past : List (Exchange (Reply Fault))) (ids : List Uuid) :
    (executeAll ids : Job Fault Unit).converse met.answers past =
      (past ++ (upTo met.executed ids).1.map (execution met),(upTo met.executed ids).2) := by
  induction ids generalizing past with
  | nil => simp [executeAll,upTo,Program.converse]
  | cons invocationId rest ih =>
    -- The step is the answer's: the rest is executed, or the fault passed on.
    have step : (executeAll (invocationId::rest) : Job Fault Unit).converse met.answers past =
        (orRaise (met.executed invocationId) >>= fun _ => executeAll rest).converse met.answers
          (past ++ [execution met invocationId]) := rfl
    rw [step]
    cases answered : met.executed invocationId with
    | ok outcome =>
      rw [upTo_returned answered,List.map_cons,List.append_cons past _ (List.map _ _)]
      exact ih (past ++ [execution met invocationId])
    | error fault =>
      rw [upTo_raised answered]
      rfl

theorem converse_upkeep (past : List (Exchange (Reply Fault))) :
    ((upkeep : Job Fault Unit).converse met.answers past).1 =
      past ++ ⟨.reapExpiredLeases,met.reaped⟩::if met.reaped.isOk then [⟨.expireStale,met.swept⟩] else [] := by
  have step : (upkeep : Job Fault Unit).converse met.answers past =
      (orRaise met.reaped >>= fun _ => Program.query .expireStale >>= fun swept =>
        orRaise swept >>= fun _ => pure ()).converse met.answers (past ++ [⟨.reapExpiredLeases,met.reaped⟩]) := rfl
  rw [step]
  cases answered : met.reaped with
  | error fault => rfl
  | ok count =>
    change _ = past ++ [⟨.reapExpiredLeases,.ok count⟩,⟨.expireStale,met.swept⟩]
    rw [List.append_cons past _ [⟨Call.expireStale,met.swept⟩]]
    change ((orRaise met.swept >>= fun _ => .done ()).converse met.answers (_ ++ [⟨.expireStale,met.swept⟩])).1 =
      _ ++ [⟨.expireStale,met.swept⟩]
    cases met.swept <;> rfl

theorem calls_eq : met.calls settings tick =
    .selectReady readyLimit::((upTo met.executed met.batch).1.map Call.executeOnce ++
    if (upTo met.executed met.batch).2.isOk && due settings tick then
      .reapExpiredLeases::if met.reaped.isOk then [.expireStale] else []
    else []) := by
  have tried : (attempt settings tick).converse met.answers [] =
      (executeAll met.batch >>= fun _ => if due settings tick then upkeep else pure ()).converse met.answers
        [⟨.selectReady readyLimit,.ok met.batch⟩] := by
    change (((executeAll met.batch >>= fun _ => pure met.batch.length) >>= fun _ => _ : Job Fault Unit)).converse _ _ = _
    rw [Program.bind_assoc]
    rfl
  have swallowed : ((iteration settings tick).converse met.answers []).1 =
      ((attempt settings tick).converse met.answers []).1 := by
    change (((attempt settings tick).tryCatch fun _ => .done ()).converse met.answers []).1 = _
    rw [Program.converse_tryCatch]
    rcases (attempt settings tick).converse met.answers [] with ⟨said,_ | _⟩ <;> rfl
  rw [Circumstances.calls,swallowed,tried,Program.converse_bind,converse_batch]
  cases ended : (upTo met.executed met.batch).2 with
  | error fault => simp [execution,Except.isOk,Except.toBool]
  | ok _ =>
    cases turn : due settings tick with
    | false => simp [execution,Program.converse,Except.isOk,Except.toBool]
    | true =>
      simp only [↓reduceIte,converse_upkeep]
      cases met.reaped <;> simp [execution,Except.isOk,Except.toBool]

theorem executes_iff {invocationId : Uuid} :
    .executeOnce invocationId ∈ met.calls settings tick ↔ invocationId ∈ (upTo met.executed met.batch).1 := by
  rw [calls_eq]
  split_ifs <;> simp

theorem reaps_iff : .reapExpiredLeases ∈ met.calls settings tick ↔
    (∀ invocationId ∈ met.batch, (met.executed invocationId).isOk) ∧ due settings tick := by
  rw [calls_eq,← upTo_ok,← Bool.and_eq_true]
  split_ifs with turn <;> simp [turn]

theorem sweeps_iff : .expireStale ∈ met.calls settings tick ↔
    ((∀ invocationId ∈ met.batch, (met.executed invocationId).isOk) ∧ due settings tick) ∧ met.reaped.isOk := by
  rw [calls_eq,← upTo_ok,← Bool.and_eq_true]
  split_ifs with turn reaped
  · simp [turn,reaped]
  · simp [turn,reaped]
  · simp [turn]

/-- The calls are kept from each other by an exception, unless it is raised with none to come. -/
theorem isolated_iff : Isolated met settings tick ↔ Untroubled met settings tick := by
  constructor
  · rintro ⟨attempted,upkept⟩
    refine ⟨(upTo_all met.distinct).mp fun invocationId member => executes_iff.mp (attempted invocationId member),?_⟩
    intro turn
    have swept := sweeps_iff.mp (upkept turn).2
    exact ⟨swept.1.1,swept.2⟩
  · rintro ⟨batch,upkeep⟩
    refine ⟨fun invocationId member => executes_iff.mpr ((upTo_all met.distinct).mpr batch invocationId member),?_⟩
    intro turn
    obtain ⟨executed,reaped⟩ := upkeep turn
    exact ⟨reaps_iff.mpr ⟨executed,turn⟩,sweeps_iff.mpr ⟨⟨executed,turn⟩,reaped⟩⟩

end Iteration

/-- Two invocations are ready, and executing the first of them raises. -/
def misbehaved : Circumstances String where
  batch := [1,2]
  distinct := by decide
  executed invocationId := if invocationId = 1 then .error "TimeoutError" else .ok true
  reaped := .ok 0
  swept := .ok 0

theorem second_unattempted : ¬ Isolated misbehaved ⟨1,30,(· / ·)⟩ 1 := by
  intro isolated
  have called := isolated.attempted 2 (by decide)
  exact absurd called (by decide +kernel)

end Acop.Worker
