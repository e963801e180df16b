import Mathlib.Tactic.Common

/-! What a success of a fallible computation says about its parts. -/
namespace Acop

variable {Refusal α β : Type}

theorem bind_ok {first : Except Refusal α} {rest : α → Except Refusal β} {value : β}
    (ok : first >>= rest = .ok value) : ∃ middle, first = .ok middle ∧ rest middle = .ok value := by
  cases first with
  | ok middle => exact ⟨middle,rfl,ok⟩
  | error refusal => cases ok

theorem bind_error {first : Except Refusal α} {rest : α → Except Refusal β} {refusal : Refusal}
    (failed : first >>= rest = .error refusal) :
    first = .error refusal ∨ ∃ middle, first = .ok middle ∧ rest middle = .error refusal := by
  cases first with
  | ok middle => exact .inr ⟨middle,rfl,failed⟩
  | error other =>
    obtain rfl := Except.error.inj failed
    exact .inl rfl

theorem map_ok {first : Except Refusal α} {change : α → β} {value : β}
    (ok : (do return change (← first)) = .ok value) : ∃ middle, first = .ok middle ∧ change middle = value := by
  cases first with
  | ok middle => exact ⟨middle,rfl,Except.ok.inj ok⟩
  | error refusal => cases ok

theorem map_eq {first : Except Refusal α} {middle : α} (ok : first = .ok middle) (change : α → β) :
    (do return change (← first)) = Except.ok (change middle) := by
  rw [ok]
  rfl

@[simp] theorem ok_bind (middle : α) (rest : α → Except Refusal β) : (Except.ok middle >>= rest) = rest middle := rfl

@[simp] theorem error_bind (refusal : Refusal) (rest : α → Except Refusal β) :
    (Except.error refusal >>= rest) = .error refusal := rfl

theorem toOption_bind (first : Except Refusal α) (rest : α → Except Refusal β) :
    (first >>= rest).toOption = first.toOption.bind fun value => (rest value).toOption := by
  cases first <;> rfl

theorem ok_of_isOk {result : Except Refusal α} (ok : result.isOk) : ∃ value, result = .ok value := by
  cases result with
  | ok value => exact ⟨value,rfl⟩
  | error refusal => cases ok

theorem ok_of_guard {guarded : Prop} [Decidable guarded] {refusal : Refusal} {next : Except Refusal α} {value : α}
    (ok : (if guarded then .error refusal else next) = .ok value) : ¬ guarded ∧ next = .ok value := by
  split at ok
  · cases ok
  · exact ⟨‹_›,ok⟩

theorem ok_of_check {checked : Prop} [Decidable checked] {refusal : Refusal} {next : Except Refusal α} {value : α}
    (ok : (if checked then next else .error refusal) = .ok value) : checked ∧ next = .ok value := by
  split at ok
  · exact ⟨‹_›,ok⟩
  · cases ok

end Acop
