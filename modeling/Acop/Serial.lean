import Mathlib.Data.List.Induction
import Mathlib.Order.Defs.Unbundled
import Mathlib.Tactic.Common

/-! A store that serves one operation after another. An operation that fails is
rolled back; what holds along a run follows from what one operation preserves. -/
namespace Acop.Serial

variable {State Op : Type}

/-- The state after an operation that is a transaction of its own. -/
def settle {Refusal : Type} (attempt : State → Op → Except Refusal State) (state : State) (op : Op) : State :=
  match attempt state op with
  | .ok next => next
  | .error _ => state

theorem settle_ok {Refusal : Type} {attempt : State → Op → Except Refusal State} {state next : State} {op : Op}
    (ok : attempt state op = .ok next) : settle attempt state op = next := by
  simp [settle,ok]

theorem settle_error {Refusal : Type} {attempt : State → Op → Except Refusal State} {state : State} {op : Op}
    {refusal : Refusal} (refused : attempt state op = .error refusal) : settle attempt state op = state := by
  simp [settle,refused]

theorem settle_preserves {Refusal : Type} {attempt : State → Op → Except Refusal State} (good : State → Prop)
    {state : State} {op : Op} (kept : ∀ next, attempt state op = .ok next → good next) (start : good state) :
    good (settle attempt state op) := by
  cases done : attempt state op with
  | ok next =>
    rw [settle_ok done]
    exact kept next done
  | error refusal =>
    rw [settle_error done]
    exact start

variable (next : State → Op → State)

def run (state : State) (ops : List Op) : State := ops.foldl next state

@[simp] theorem run_nil (state : State) : run next state [] = state := rfl

@[simp] theorem run_cons (state : State) (op : Op) (rest : List Op) :
    run next state (op::rest) = run next (next state op) rest := rfl

theorem run_append (state : State) (first second : List Op) :
    run next state (first ++ second) = run next (run next state first) second := List.foldl_append

/-- Each operation has the property in the state it meets. -/
def Along (met : State → Op → Prop) : State → List Op → Prop
  | _,[] => True
  | state,op::rest => met state op ∧ Along met (next state op) rest

variable {next}

@[simp] theorem along_nil (met : State → Op → Prop) (state : State) : Along next met state [] := trivial

@[simp] theorem along_cons {met : State → Op → Prop} {state : State} {op : Op} {rest : List Op} :
    Along next met state (op::rest) ↔ met state op ∧ Along next met (next state op) rest := Iff.rfl

instance decidableAlong (met : State → Op → Prop) [∀ state op, Decidable (met state op)] :
    (state : State) → (ops : List Op) → Decidable (Along next met state ops)
  | _,[] => isTrue trivial
  | state,op::rest => @instDecidableAnd _ _ _ (decidableAlong met (next state op) rest)

theorem along_append {met : State → Op → Prop} {state : State} {first second : List Op} :
    Along next met state (first ++ second) ↔
      Along next met state first ∧ Along next met (run next state first) second := by
  induction first generalizing state with
  | nil => simp
  | cons op rest ih => simp only [List.cons_append,along_cons,run_cons,ih,and_assoc]

theorem Along.at {met : State → Op → Prop} {state : State} {before after : List Op} {op : Op}
    (along : Along next met state (before ++ op::after)) : met (run next state before) op :=
  (along_append.mp along).2.1

theorem along_of_forall {met : State → Op → Prop} (always : ∀ state op, met state op) (state : State) (ops : List Op) :
    Along next met state ops := by
  induction ops generalizing state with
  | nil => trivial
  | cons op rest ih => exact ⟨always state op,ih _⟩

/-- The run lemma: what every admitted operation preserves holds wherever the run comes. -/
theorem run_preserves {met : State → Op → Prop} {good : State → Prop}
    (step : ∀ state op, met state op → good state → good (next state op)) {state : State} {ops : List Op}
    (along : Along next met state ops) (start : good state) : good (run next state ops) := by
  induction ops generalizing state with
  | nil => exact start
  | cons op rest ih => exact ih along.2 (step state op along.1 start)

theorem along_congr {first second : State → Op → Prop} (good : State → Prop)
    (same : ∀ state op, good state → (first state op ↔ second state op))
    (step : ∀ state op, good state → good (next state op)) {state : State} {ops : List Op} (start : good state) :
    Along next first state ops ↔ Along next second state ops := by
  induction ops generalizing state with
  | nil => exact Iff.rfl
  | cons op rest ih => exact and_congr (same state op start) (ih (step state op start))

/-- Where one operation keeps an invariant exactly under a condition, a run keeps it in
every state exactly when each operation meets the condition. -/
theorem throughout_iff {met : State → Op → Prop} {good : State → Prop}
    (step : ∀ state op, good state → (good (next state op) ↔ met state op)) {state : State} {ops : List Op}
    (start : good state) : (∀ before, before <+: ops → good (run next state before)) ↔ Along next met state ops := by
  induction ops generalizing state with
  | nil => simpa using start
  | cons op rest ih =>
    constructor
    · intro always
      have first : good (next state op) := always [op] (by simp)
      refine ⟨(step state op start).mp first,(ih first).mp ?_⟩
      intro before early
      exact always (op::before) (List.cons_prefix_cons.mpr ⟨rfl,early⟩)
    · intro along before early
      cases before with
      | nil => exact start
      | cons other before =>
        obtain ⟨rfl,within⟩ := List.cons_prefix_cons.mp early
        exact (ih ((step state other start).mpr along.1)).mpr along.2 before within

/-- Where every row that an operation leaves was there before, up to what `same` forgets, or is
one that it makes, each row of a run's last state comes from its start or from one operation. -/
theorem run_origin {Row : Type} (rows : State → List Row) (same : Row → Row → Prop) (made : State → Op → Row → Prop)
    [Std.Refl same] [IsTrans Row same]
    (step : ∀ state op row, row ∈ rows (next state op) → (∃ old ∈ rows state, same old row) ∨ made state op row)
    (kept : ∀ state op old row, same old row → made state op old → made state op row)
    (state : State) (ops : List Op) (row : Row) (member : row ∈ rows (run next state ops)) :
    (∃ old ∈ rows state, same old row) ∨
      ∃ before op rest, ops = before ++ op::rest ∧ made (run next state before) op row := by
  induction ops using List.reverseRecOn generalizing row with
  | nil => exact .inl ⟨row,member,refl_of same row⟩
  | append_singleton ops op ih =>
    rw [run_append,run_cons,run_nil] at member
    rcases step _ op row member with ⟨middle,inMiddle,later⟩ | new
    · rcases ih middle inMiddle with ⟨old,inOld,early⟩ | ⟨before,earlier,rest,rfl,new⟩
      · exact .inl ⟨old,inOld,trans_of same early later⟩
      · exact .inr ⟨before,earlier,rest ++ [op],by simp,kept _ _ _ _ later new⟩
    · exact .inr ⟨ops,op,[],rfl,new⟩

end Acop.Serial
