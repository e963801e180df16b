import Mathlib.Data.List.AList

/-! Client programs of a transactional store. A program is a tree: each
statement it issues is answered by the store, and the reply selects the rest of
the program. Faults are the language's exceptions and may be caught; `commit`
ends the current transaction and opens the next one. -/
namespace Acop.Transaction

inductive Program {Stmt : Type} (Reply : Stmt → Type) (Fault α : Type) where
  | done (value : α)
  | fail (fault : Fault)
  | call (stmt : Stmt) (next : Reply stmt → Program Reply Fault α)
  | commit (next : Program Reply Fault α)

namespace Program

variable {Stmt : Type} {Reply : Stmt → Type} {Fault α β γ : Type}

protected def bind : Program Reply Fault α → (α → Program Reply Fault β) → Program Reply Fault β
  | .done value, rest => rest value
  | .fail fault, _ => .fail fault
  | .call stmt next, rest => .call stmt fun reply => (next reply).bind rest
  | .commit next, rest => .commit (next.bind rest)

/-- Faults raised inside the block reach the handler with the transaction still
open: what was written before stays pending. -/
protected def tryCatch : Program Reply Fault α → (Fault → Program Reply Fault α) → Program Reply Fault α
  | .done value, _ => .done value
  | .fail fault, handler => handler fault
  | .call stmt next, handler => .call stmt fun reply => (next reply).tryCatch handler
  | .commit next, handler => .commit (next.tryCatch handler)

instance : Monad (Program Reply Fault) where
  pure := .done
  bind := .bind

instance : MonadExceptOf Fault (Program Reply Fault) where
  throw := .fail
  tryCatch := .tryCatch

def query (stmt : Stmt) : Program Reply Fault (Reply stmt) := .call stmt .done

def commitNow : Program Reply Fault Unit := .commit (.done ())

@[simp] theorem pure_eq (value : α) : (pure value : Program Reply Fault α) = .done value := rfl

@[simp] theorem throw_eq (fault : Fault) : (throw fault : Program Reply Fault α) = .fail fault := rfl

@[simp] theorem done_bind (value : α) (rest : α → Program Reply Fault β) :
    (Program.done value >>= rest) = rest value := rfl

@[simp] theorem fail_bind (fault : Fault) (rest : α → Program Reply Fault β) :
    ((Program.fail fault : Program Reply Fault α) >>= rest) = .fail fault := rfl

@[simp] theorem call_bind (stmt : Stmt) (next : Reply stmt → Program Reply Fault α)
    (rest : α → Program Reply Fault β) :
    (Program.call stmt next >>= rest) = .call stmt fun reply => next reply >>= rest := rfl

@[simp] theorem commit_bind (next : Program Reply Fault α) (rest : α → Program Reply Fault β) :
    (Program.commit next >>= rest) = .commit (next >>= rest) := rfl

theorem bind_assoc (program : Program Reply Fault α) (middle : α → Program Reply Fault β)
    (rest : β → Program Reply Fault γ) :
    (program >>= middle >>= rest) = program >>= fun value => middle value >>= rest := by
  induction program with
  | done value => rfl
  | fail fault => rfl
  | call stmt next ih =>
    simp only [call_bind]
    exact congrArg (Program.call stmt) (funext ih)
  | commit next ih =>
    simp only [commit_bind]
    exact congrArg Program.commit ih

def Quiet : Program Reply Fault α → Prop
  | .done _ => True
  | .fail _ => True
  | .call _ next => ∀ reply, (next reply).Quiet
  | .commit _ => False

theorem Quiet.bind {program : Program Reply Fault α} {rest : α → Program Reply Fault β} (quiet : program.Quiet)
    (later : ∀ value, (rest value).Quiet) : (program >>= rest).Quiet := by
  induction program with
  | done value => exact later value
  | fail fault => trivial
  | call stmt next ih => exact fun reply => ih reply (quiet reply)
  | commit next ih => cases quiet

end Program

end Acop.Transaction
