import Acop.Serial

/-! `api/transaction.py`: one transaction per request, committed before its response
exists. A body's act carries whether the database refuses its statement; a body may
handle the refusal and go on. -/
namespace Acop.Request
open Acop.Serial

/-- What a body does with the request's session, the denials apart, which go to a session of their own. -/
inductive Act (Change Denial : Type) where
  | read (fails : Bool)
  | change (change : Change)
  | flush (fails : Bool)
  | bulkUpdate (change : Change) (fails : Bool)
  | record (event : Change) (fails : Bool)
  | recordDenial (event : Denial) (fails : Bool)

inductive Ending where
  | returns | raises
  deriving DecidableEq

/-- The session's transaction: after a failed statement PostgreSQL refuses all others, and
answers COMMIT with a rollback; after a failed flush SQLAlchemy has rolled it back, and the
session refuses to go on. -/
inductive Standing where
  | usable | aborted | closed
  deriving DecidableEq

/-- `RequestTransaction`, with its session's unit of work and the denials committed so far. -/
structure RequestTransaction (Change Denial : Type) where
  pending : List Change := []
  flushed : List Change := []
  standing : Standing := .usable
  wrote : Bool := false
  denials : List Denial := []

/-- How the commit fares: its own flush, and the COMMIT. -/
structure CommitReply where
  flushFails : Bool := false
  commitFails : Bool := false

structure Response (Change Denial : Type) where
  answer : Ending
  committed : List Change
  denials : List Denial

variable {Change Denial : Type}

namespace RequestTransaction

variable (tx : RequestTransaction Change Denial)

/-- Nothing pending is no work, and no event. `after_flush` comes after the last statement. -/
def flush (fails : Bool) : RequestTransaction Change Denial :=
  match tx.pending,tx.standing with
  | [],_ => tx
  | _,.usable =>
    if fails then {tx with pending := [],flushed := [],standing := .closed}
    else {tx with pending := [],flushed := tx.flushed ++ tx.pending,wrote := true}
  | _,.aborted => {tx with pending := [],flushed := [],standing := .closed}
  | _,.closed => tx

def execute (written : List Change) (fails : Bool) : RequestTransaction Change Denial :=
  match tx.standing with
  | .usable => if fails then {tx with standing := .aborted} else {tx with flushed := tx.flushed ++ written}
  | _ => tx

def add (change : Change) : RequestTransaction Change Denial := {tx with pending := tx.pending ++ [change]}

def act : Act Change Denial → RequestTransaction Change Denial
  | .read fails => tx.execute [] fails
  | .change change => tx.add change
  | .flush fails => tx.flush fails
  | .bulkUpdate change fails => tx.execute [change] fails
  | .record event fails => (tx.add event).flush fails
  | .recordDenial event fails => if fails then tx else {tx with denials := tx.denials ++ [event]}

/-- `session.commit()`: what becomes visible, or `none` where it raises. -/
def commit (reply : CommitReply) : Option (List Change) :=
  let done := tx.flush reply.flushFails
  match done.standing with
  | .closed => none
  | .aborted => if reply.commitFails then none else some []
  | .usable => if reply.commitFails then none else some done.flushed

end RequestTransaction

/-- `_commit_after`. -/
def wrapper (body : List (Act Change Denial)) (ending : Ending) (reply : CommitReply) : Response Change Denial :=
  let tx := run RequestTransaction.act {} body
  match ending with
  | .raises => ⟨.raises,[],tx.denials⟩
  | .returns =>
    if tx.wrote then match tx.commit reply with
      | some visible => ⟨.returns,visible,tx.denials⟩
      | none => ⟨.raises,[],tx.denials⟩
    else ⟨.returns,[],tx.denials⟩

end Acop.Request
