import Acop.Transaction.Program

/-! A program in conversation with a remote that may answer anything. What the program asks
is judged against what has been said before, whatever the answers are. -/
namespace Acop.Transaction

variable {Stmt : Type} {Reply : Stmt → Type} {Fault α β : Type}

abbrev Exchange (Reply : Stmt → Type) := (stmt : Stmt) × Reply stmt

/-- A remote answers by all that was said so far. -/
abbrev Remote (Reply : Stmt → Type) := List (Exchange Reply) → (stmt : Stmt) → Reply stmt

namespace Program

/-- What is said up to the end of a conversation, and how the program ends. -/
def converse (remote : Remote Reply) (past : List (Exchange Reply)) :
    Program Reply Fault α → List (Exchange Reply) × Except Fault α
  | .done value => (past,.ok value)
  | .fail fault => (past,.error fault)
  | .call stmt next => (next (remote past stmt)).converse remote (past ++ [⟨stmt,remote past stmt⟩])
  | .commit next => next.converse remote past

/-- Every statement is allowed where it is issued, and a value that is returned is as promised. -/
inductive Issues (allowed : List (Exchange Reply) → Stmt → Prop) (promised : List (Exchange Reply) → α → Prop) :
    List (Exchange Reply) → Program Reply Fault α → Prop
  | done {past : List (Exchange Reply)} {value : α} (kept : promised past value) : Issues allowed promised past (.done value)
  | fail {past : List (Exchange Reply)} {fault : Fault} : Issues allowed promised past (.fail fault)
  | call {past : List (Exchange Reply)} {stmt : Stmt} {next : Reply stmt → Program Reply Fault α}
    (permitted : allowed past stmt) (answered : ∀ reply, Issues allowed promised (past ++ [⟨stmt,reply⟩]) (next reply)) :
    Issues allowed promised past (.call stmt next)
  | commit {past : List (Exchange Reply)} {next : Program Reply Fault α} (rest : Issues allowed promised past next) :
    Issues allowed promised past (.commit next)

variable {allowed : List (Exchange Reply) → Stmt → Prop} {promised : List (Exchange Reply) → α → Prop}
  {past : List (Exchange Reply)} {program : Program Reply Fault α}

theorem issues_weaken {promised' : List (Exchange Reply) → α → Prop} (issues : Issues allowed promised past program)
    (weaker : ∀ past value, promised past value → promised' past value) : Issues allowed promised' past program := by
  induction issues with
  | done kept => exact .done (weaker _ _ kept)
  | fail => exact .fail
  | call permitted _ ih => exact .call permitted ih
  | commit _ ih => exact .commit ih

theorem issues_bind {rest : α → Program Reply Fault β} {later : List (Exchange Reply) → β → Prop}
    (issues : Issues allowed (fun past value => Issues allowed later past (rest value)) past program) :
    Issues allowed later past (program >>= rest) := by
  induction issues with
  | done kept => exact kept
  | fail => exact .fail
  | call permitted _ ih => exact .call permitted ih
  | commit _ ih => exact .commit ih

theorem issues_query {stmt : Stmt} {promised : List (Exchange Reply) → Reply stmt → Prop} (permitted : allowed past stmt)
    (answered : ∀ reply, promised (past ++ [⟨stmt,reply⟩]) reply) :
    Issues allowed promised past (query stmt : Program Reply Fault (Reply stmt)) :=
  .call permitted fun reply => .done (answered reply)

theorem converse_bind (remote : Remote Reply) (past : List (Exchange Reply)) (program : Program Reply Fault α)
    (rest : α → Program Reply Fault β) : (program >>= rest).converse remote past =
      match program.converse remote past with
      | (said,.ok value) => (rest value).converse remote said
      | (said,.error fault) => (said,.error fault) := by
  induction program generalizing past with
  | done value => rfl
  | fail fault => rfl
  | call stmt next ih => exact ih (remote past stmt) _
  | commit next ih => exact ih past

theorem converse_tryCatch (remote : Remote Reply) (past : List (Exchange Reply)) (program : Program Reply Fault α)
    (handler : Fault → Program Reply Fault α) : (program.tryCatch handler).converse remote past =
      match program.converse remote past with
      | (said,.ok value) => (said,.ok value)
      | (said,.error fault) => (handler fault).converse remote said := by
  induction program generalizing past with
  | done value => rfl
  | fail fault => rfl
  | call stmt next ih => exact ih (remote past stmt) _
  | commit next ih => exact ih past

theorem converse_extends (remote : Remote Reply) (past : List (Exchange Reply)) (program : Program Reply Fault α) :
    ∃ later, (program.converse remote past).1 = past ++ later := by
  induction program generalizing past with
  | done value => exact ⟨[],(List.append_nil past).symm⟩
  | fail fault => exact ⟨[],(List.append_nil past).symm⟩
  | commit next ih => exact ih past
  | call stmt next ih =>
    obtain ⟨later,same⟩ := ih (remote past stmt) (past ++ [⟨stmt,remote past stmt⟩])
    exact ⟨⟨stmt,remote past stmt⟩::later,by rw [converse,same,List.append_assoc,List.singleton_append]⟩

theorem converse_bind_extends (remote : Remote Reply) (past : List (Exchange Reply)) (program : Program Reply Fault α)
    (rest : α → Program Reply Fault β) :
    ∃ later, ((program >>= rest).converse remote past).1 = (program.converse remote past).1 ++ later := by
  rw [converse_bind]
  split
  · rename_i said value ran
    rw [ran]
    exact converse_extends remote said (rest value)
  · rename_i said fault ran
    rw [ran]
    exact ⟨[],(List.append_nil said).symm⟩

theorem issues_converse (remote : Remote Reply) (issues : Issues allowed promised past program)
    {before after : List (Exchange Reply)} {exchange : Exchange Reply}
    (said : (program.converse remote past).1 = before ++ exchange::after) (new : past.length ≤ before.length) :
    allowed before exchange.1 := by
  induction issues with
  | @done past value _ =>
    have equal := congrArg List.length said
    simp only [converse,List.length_append,List.length_cons] at equal
    omega
  | @fail past fault =>
    have equal := congrArg List.length said
    simp only [converse,List.length_append,List.length_cons] at equal
    omega
  | commit _ ih => exact ih said new
  | @call past stmt next permitted _ ih =>
    rcases Nat.lt_or_ge past.length before.length with later | here
    · apply ih _ said
      rw [List.length_append,List.length_singleton]
      omega
    · -- The first exchange of the rest is the statement itself.
      obtain ⟨rest,same⟩ := converse_extends remote (past ++ [⟨stmt,remote past stmt⟩]) (next (remote past stmt))
      have split : past ++ ⟨stmt,remote past stmt⟩::rest = before ++ exchange::after := by
        rw [← said,converse,same,List.append_assoc,List.singleton_append]
      obtain ⟨rfl,tail⟩ := List.append_inj split (by omega)
      obtain ⟨rfl,_⟩ := List.cons.inj tail
      exact permitted

end Program

end Acop.Transaction
