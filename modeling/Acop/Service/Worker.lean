import Acop.Json
import Acop.Transaction.Remote

/-! The background worker: on each tick it dispatches what is ready, and on some of them it
reaps and sweeps. The dispatcher, the reaper and the sweeper are called, not taken apart. -/
namespace Acop.Worker
open Acop.Transaction

inductive Call where
  | selectReady (limit : Nat)
  | executeOnce (invocationId : Uuid)
  | reapExpiredLeases
  | expireStale
  deriving DecidableEq

variable (Fault : Type)

/-- What a call returns, or the exception it raises. -/
abbrev Reply : Call → Type
  | .selectReady _ => Except Fault (List Uuid)
  | .executeOnce _ => Except Fault Bool
  | .reapExpiredLeases => Except Fault Nat
  | .expireStale => Except Fault Nat

abbrev Job := Program (Reply Fault) Fault

variable {Fault}

/-- `raise`, where the call has raised. -/
def orRaise {α : Type} : Except Fault α → Job Fault α
  | .ok value => return value
  | .error fault => throw fault

/-- The loop of `_dispatch_ready`. Losing the claim is normal, not an error. -/
def executeAll : List Uuid → Job Fault Unit
  | [] => return ()
  | invocationId::rest => do
    let outcome ← Program.query (.executeOnce invocationId)
    let _ ← orRaise outcome
    executeAll rest

def dispatchReady (limit : Nat) : Job Fault Nat := do
  let ready ← Program.query (.selectReady limit)
  let ids ← orRaise ready
  executeAll ids
  return ids.length

def readyLimit : Nat := 10

/-- `tools_dispatcher_poll_seconds` and `tools_reaper_interval_seconds`, two floats. -/
structure Settings where
  pollSeconds : Rat
  reaperIntervalSeconds : Rat
  /-- Python's `/` of floats, which rounds. -/
  divide : Rat → Rat → Rat

/-- The float `0.01`. -/
def leastInterval : Rat := 5764607523034235 / 576460752303423488

def Settings.reapEvery (settings : Settings) : Nat :=
  (max 1 (settings.divide settings.reaperIntervalSeconds (max settings.pollSeconds leastInterval)).floor).toNat

/-- `tick % reap_every == 0`. -/
def due (settings : Settings) (tick : Nat) : Bool := tick % settings.reapEvery = 0

/-- What `_loop` does on the ticks that reap and sweep. -/
def upkeep : Job Fault Unit := do
  let reaped ← Program.query .reapExpiredLeases
  let _ ← orRaise reaped
  let swept ← Program.query .expireStale
  let _ ← orRaise swept

/-- What `_loop` tries. -/
def attempt (settings : Settings) (tick : Nat) : Job Fault Unit := do
  let _ ← dispatchReady readyLimit
  if due settings tick then upkeep else return ()

/-- One iteration of `_loop`, without the wait that ends it. -/
def iteration (settings : Settings) (tick : Nat) : Job Fault Unit :=
  -- The exception is logged and swallowed.
  tryCatch (attempt settings tick) fun _ => return ()

end Acop.Worker
