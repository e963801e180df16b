import Acop.Guarantee.EventLog
import Acop.Fallible

/-! One dispatch for each invocation: a committed claim is never followed by
another, and an adapter is called only by the session that claimed. -/
namespace Acop

open Acop.Transaction

theorem executing_not_ready {state : InvocationState} (reaches : Reaches .executing state) : state ≠ .ready := by
  have late : InvocationState.executing.stage ≤ state.stage := by
    induction reaches with
    | refl => exact le_refl _
    | tail _ step ih => exact ih.trans (legal_stage _ _ step).le
  rintro rfl
  exact absurd late (by decide)

section

variable {mode : Mode} {runtime : Runtime} {settings : Settings} {db db' start : Db} {id leaseId leaseId' : Uuid}
  {w : World Reply Fault Answer (Op runtime) Db Write} {before middle after : List (Entry runtime)} {owner other : Nat}

/-- After a committed claim, whatever a later event saw is no longer `READY`. -/
theorem Course.claimed_for_good (course : Course mode runtime settings start w) {writes : List Write}
    {event : Happening runtime} (claims : Claims id leaseId writes db)
    (split : w.trace = before ++ (owner,.commit writes db)::(middle ++ (other,event)::after)) (seen : event.seen = some db')
    {row : ToolInvocation} (present : db'.invocations.lookup id = some row) : row.state ≠ .ready := by
  obtain ⟨_,claimed,_,_,there,running,_⟩ := claims
  exact executing_not_ready (running ▸ ((course.published split seen).state there present).reaches)

theorem ordered {Event : Type} {trace : List Event} {a b : Event} (first : a ∈ trace) (second : b ∈ trace) (different : a ≠ b) :
    (∃ before middle after, trace = before ++ a::(middle ++ b::after)) ∨
      ∃ before middle after, trace = before ++ b::(middle ++ a::after) := by
  obtain ⟨before,rest,rfl⟩ := List.append_of_mem first
  rcases List.mem_append.mp second with early | late
  · obtain ⟨front,middle,rfl⟩ := List.append_of_mem early
    exact .inr ⟨front,middle,rest,by simp⟩
  · obtain ⟨middle,tail,rfl⟩ := List.append_of_mem ((List.mem_cons.mp late).resolve_left (Ne.symm different))
    exact .inl ⟨before,middle,tail,rfl⟩

theorem Course.one_claim (course : Course mode runtime settings start w) {writes writes' : List Write}
    (claims : Claims id leaseId writes db) (claims' : Claims id leaseId' writes' db')
    (first : (owner,.commit writes db) ∈ w.trace) (second : (other,.commit writes' db') ∈ w.trace) : owner = other := by
  by_contra different
  have apart : ((owner,.commit writes db) : Entry runtime) ≠ (other,.commit writes' db') :=
    fun same => different (congrArg Prod.fst same)
  rcases ordered first second apart with ⟨before,middle,after,split⟩ | ⟨before,middle,after,split⟩
  · obtain ⟨row,_,present,ready,_⟩ := claims'
    exact course.claimed_for_good claims split rfl present ready
  · obtain ⟨row,_,present,ready,_⟩ := claims
    exact course.claimed_for_good claims' split rfl present ready

theorem retryable_of_declared {process : Process runtime} {definition : ToolDefinition}
    (declared : definition ∈ process.definitions) :
    definition.retryPolicy.retryOn ⊆ ToolErrorCategory.retryableCategories := by
  obtain ⟨_,_,accepted⟩ := bind_ok (process.declared definition declared)
  obtain ⟨_,_,accepted⟩ := bind_ok accepted
  obtain ⟨_,_,accepted⟩ := bind_ok accepted
  obtain ⟨_,_,accepted⟩ := bind_ok accepted
  obtain ⟨_,checked,_⟩ := bind_ok accepted
  by_contra outside
  have unsupported : definition.retryPolicy.retryOn \ ToolErrorCategory.retryableCategories ≠ ∅ :=
    fun none => outside (Finset.sdiff_eq_empty_iff_subset.mp none)
  unfold checkIdempotency at checked
  dsimp only at checked
  split at checked
  · cases checked
  split at checked
  · cases checked
  cases checked

theorem Process.getDefinition_mem {process : Process runtime} {toolName toolVersion : String} {definition : ToolDefinition}
    (found : process.getDefinition toolName toolVersion = some definition) : definition ∈ process.definitions :=
  List.mem_of_find?_eq_some found

/-- What a call of an adapter's `execute` rests on, in the words of the session that makes it. -/
structure Entitled (process : Process runtime) (past : List (Happening runtime)) (id : Uuid) (db : Db) : Prop where
  /-- Its claim and its final gate both matched the row, under one lease. -/
  claimed : ∃ leaseId, (∃ writes seen, .commit writes seen ∈ past ∧ Claims id leaseId writes seen) ∧
    ∃ eventId seen, .call (.recordGate id leaseId .allow .allowed eventId) (.ok true) seen ∈ past
  /-- It is within the declared attempts, and no earlier one ended otherwise than in a
  failure that the declaration of an idempotent adapter retries. -/
  budget : ∃ row definition, db.invocations.lookup id = some row ∧
    process.getDefinition row.toolName row.toolVersion = some definition ∧
    ((executed past).length : Int) + 1 ≤ definition.retryPolicy.maxAttempts ∧
    ∀ reply ∈ executed past, ∃ category, reply = .toolError category ∧ category ∈ definition.retryPolicy.retryOn ∧
      category ∈ ToolErrorCategory.retryableCategories ∧ definition.adapterIdempotent = true

theorem Dispatched.entitled {process : Process runtime} {past : List (Happening runtime)} {row : ToolInvocation}
    {definition : ToolDefinition} (dispatched : Dispatched process past id db row definition leaseId) :
    Entitled process past id db where
  claimed := ⟨leaseId,dispatched.claimed,dispatched.gated⟩
  budget := by
    refine ⟨row,definition,dispatched.committed,dispatched.allowed.declared,dispatched.spent,?_⟩
    intro reply member
    obtain ⟨category,same,retried,idempotent⟩ := dispatched.retried reply member
    exact ⟨category,same,retried,retryable_of_declared (Process.getDefinition_mem dispatched.allowed.declared) retried,
      idempotent⟩

/-- Single dispatch: every execution of an adapter belongs to the one session whose
committed claim and final gate matched the row, within its retry budget; and once
a claim is committed no other claim of that invocation succeeds. -/
theorem single_dispatch (fresh : start.Fresh)
    (reachable : (acop runtime settings).Reachable (acop runtime settings).free start w) :
    (∀ before owner adapter request reply db after,
      w.trace = before ++ (owner,.call (.adapterExecute adapter request) reply db)::after →
        ∃ process, Began (history before owner) (.executeOnce process request.invocationId) ∧
          Entitled process (history before owner) request.invocationId db) ∧
    (∀ owner other adapter adapter' request request' reply reply' db db',
      (owner,.call (.adapterExecute adapter request) reply db) ∈ w.trace →
      (other,.call (.adapterExecute adapter' request') reply' db') ∈ w.trace →
      request.invocationId = request'.invocationId → owner = other) ∧
    ∀ before owner writes db middle other event after id leaseId,
      w.trace = before ++ (owner,.commit writes db)::(middle ++ (other,event)::after) → Claims id leaseId writes db →
        (∀ leaseId' leaseExpiresAt deadlineAt startedAt db',
          event ≠ .call (.claimReady id leaseId' leaseExpiresAt deadlineAt startedAt) (.ok true) db') ∧
        ∀ leaseId' writes' db', event = .commit writes' db' → ¬ Claims id leaseId' writes' db' := by
  have course := Course.any fresh reachable
  have behind : ∀ before owner adapter request reply db after,
      w.trace = before ++ (owner,.call (.adapterExecute adapter request) reply db)::after →
        ∃ process row definition leaseId, Began (history before owner) (.executeOnce process request.invocationId) ∧
          Dispatched process (history before owner) request.invocationId db row definition leaseId :=
    fun before owner adapter request reply db after split => course.due split
  refine ⟨?_,?_,?_⟩
  · intro before owner adapter request reply db after split
    obtain ⟨process,row,definition,leaseId,began,dispatched⟩ := behind before owner adapter request reply db after split
    exact ⟨process,began,dispatched.entitled⟩
  · intro owner other adapter adapter' request request' reply reply' db db' first second same
    obtain ⟨before,after,split⟩ := List.append_of_mem first
    obtain ⟨before',after',split'⟩ := List.append_of_mem second
    obtain ⟨_,_,_,_,_,dispatched⟩ := behind _ _ _ _ _ _ _ split
    obtain ⟨_,_,_,_,_,dispatched'⟩ := behind _ _ _ _ _ _ _ split'
    obtain ⟨writes,seen,member,claims⟩ := dispatched.claimed
    obtain ⟨writes',seen',member',claims'⟩ := dispatched'.claimed
    refine course.one_claim claims (same ▸ claims') ?_ ?_
    · rw [split]
      exact List.mem_append_left _ (mem_history.mp member)
    · rw [split']
      exact List.mem_append_left _ (mem_history.mp member')
  · intro before owner writes db middle other event after id leaseId split claims
    have late : w.trace = (before ++ (owner,.commit writes db)::middle) ++ (other,event)::after := by simpa using split
    refine ⟨?_,?_⟩
    · rintro leaseId' leaseExpiresAt deadlineAt startedAt db' rfl
      obtain ⟨row,present,ready⟩ := course.due late rfl
      exact course.claimed_for_good claims split rfl present ready
    · rintro leaseId' writes' db' rfl ⟨row,_,present,ready,_⟩
      exact course.claimed_for_good claims split rfl present ready

/-- Of two workers that read one READY row, the second does not get it. -/
theorem single_dispatch_lab :
    (acop labRuntime labSettings).Reachable (acop labRuntime labSettings).free labDb lostWorld ∧ outrun 3 lostWorld = true ∧
    ∀ owner other adapter adapter' request request' reply reply' db db',
      (owner,.call (.adapterExecute adapter request) reply db) ∈ lostWorld.trace →
      (other,.call (.adapterExecute adapter' request') reply' db') ∈ lostWorld.trace →
      request.invocationId = request'.invocationId → owner = other :=
  ⟨lostWorld_reachable,lostWorld_seen.1.2,(single_dispatch labDb_fresh lostWorld_reachable).2.1⟩

end

end Acop
