import Acop.Conduct.Outcome

/-! The CHECKs of `tool_invocation`, kept by every writer. A statement that the services issue
leaves each row whose columns agree with its state as such a row, whatever is committed beside it. -/
namespace Acop
open Acop.Transaction

section Columns

variable {row : ToolInvocation} {progress : InvocationProgress}

/-- The lease and gate columns agree with the state. -/
structure InvocationProgress.Agrees (progress : InvocationProgress) : Prop where
  leaseId : progress.state.InFlight ↔ progress.executorLeaseId.isSome
  leaseExpiry : progress.state.InFlight ↔ progress.leaseExpiresAt.isSome
  gateAt : progress.finalGateDecision.isNone = progress.finalGateAt.isNone
  gateEvent : progress.finalGateDecision.isNone = progress.finalGateEventId.isNone

/-- So does the reason, of which no CHECK speaks. -/
def InvocationProgress.Reasoned (progress : InvocationProgress) : Prop :=
  progress.finalGateDecision.isNone = progress.finalGateReason.isNone

theorem violation_none : row.violation = none ↔ ∀ check ∈ row.checks, check.2 = true := firstBroken_eq_none

theorem agrees_of_violation (passed : row.violation = none) : row.toInvocationProgress.Agrees := by
  have checks := violation_none.mp passed
  simp only [ToolInvocation.checks,List.mem_cons,List.not_mem_nil,or_false,forall_eq_or_imp,forall_eq,
    decide_eq_true_eq] at checks
  obtain ⟨_,_,_,gateAt,gateEvent,_,_,_,_,leaseId,leaseExpiry,_⟩ := checks
  exact ⟨by simpa using leaseId,by simpa using leaseExpiry,by simpa using gateAt,by simpa using gateEvent⟩

theorem approvals_of_violation (passed : row.violation = none) : (row.approvalsReceived : Int) ≤ row.minApprovals := by
  have checks := violation_none.mp passed
  simp only [ToolInvocation.checks,List.mem_cons,List.not_mem_nil,or_false,forall_eq_or_imp,forall_eq,
    decide_eq_true_eq] at checks
  exact checks.2.2.2.2.2.2.1

theorem minApprovals_of_violation (passed : row.violation = none) : 1 ≤ row.minApprovals := by
  have checks := violation_none.mp passed
  simp only [ToolInvocation.checks,List.mem_cons,List.not_mem_nil,or_false,forall_eq_or_imp,forall_eq,
    decide_eq_true_eq] at checks
  exact checks.2.2.2.2.2.1

theorem violation_of_checks (passed : ∀ check ∈ row.checks.tail, check.2 = true) :
    row.violation = none ∨ row.violation = some .columnType := by
  by_cases fits : row.updatedColumnsFit = true
  · refine .inl (violation_none.mpr fun check member => ?_)
    rcases List.mem_cons.mp member with rfl | rest
    · exact fits
    · exact passed check rest
  · right
    simp [ToolInvocation.violation,firstBroken,ToolInvocation.checks,fits]

theorem violation_advance (passed : row.violation = none) (agrees : progress.Agrees) :
    (row.advance progress).violation = none ∨ (row.advance progress).violation = some .columnType := by
  have checks := violation_none.mp passed
  apply violation_of_checks
  simp only [ToolInvocation.checks,List.mem_cons,List.not_mem_nil,or_false,forall_eq_or_imp,forall_eq] at checks
  simp only [ToolInvocation.checks,List.tail_cons,List.mem_cons,List.not_mem_nil,or_false,forall_eq_or_imp,forall_eq]
  obtain ⟨_,targetAsset,targetRef,_,_,minApprovals,received,distinct,ttl,_,_,keyed,approval,validation⟩ := checks
  exact ⟨targetAsset,targetRef,decide_eq_true agrees.gateAt,decide_eq_true agrees.gateEvent,minApprovals,received,distinct,ttl,
    decide_eq_true (propext agrees.leaseId),decide_eq_true (propext agrees.leaseExpiry),keyed,approval,validation⟩

theorem violation_receive (passed : row.violation = none) {n : Nat} (bounded : (n : Int) ≤ row.minApprovals) :
    (row.receive n).violation = none ∨ (row.receive n).violation = some .columnType := by
  have checks := violation_none.mp passed
  apply violation_of_checks
  simp only [ToolInvocation.checks,List.mem_cons,List.not_mem_nil,or_false,forall_eq_or_imp,forall_eq] at checks
  simp only [ToolInvocation.checks,List.tail_cons,List.mem_cons,List.not_mem_nil,or_false,forall_eq_or_imp,forall_eq]
  obtain ⟨_,targetAsset,targetRef,gateAt,gateEvent,minApprovals,_,rest⟩ := checks
  exact ⟨targetAsset,targetRef,gateAt,gateEvent,minApprovals,decide_eq_true bounded,rest⟩

end Columns

section Statements

variable {db now : Db} {pending new : List Write} {stmt : Stmt} {id : Uuid}

/-- Every invocation is stored under its key, and its CHECKs pass. -/
def Db.Compliant (db : Db) : Prop := ∀ id row, db.invocations.lookup id = some row → row.id = id ∧ row.violation = none

structure Continues (old new : ToolInvocation) : Prop where
  minApprovals : new.minApprovals = old.minApprovals
  reaches : Reaches old.state new.state
  reasoned : old.Reasoned → new.Reasoned

theorem Continues.refl (row : ToolInvocation) : Continues row row := ⟨rfl,.refl,id⟩

theorem Continues.trans {first second third : ToolInvocation} (early : Continues first second)
    (late : Continues second third) : Continues first third :=
  ⟨late.minApprovals.trans early.minApprovals,early.reaches.trans late.reaches,late.reasoned ∘ early.reasoned⟩

/-- The rows of a later time: those of the earlier one, and new ones. -/
structure Later (old new : Db) : Prop where
  kept : ∀ id row, old.invocations.lookup id = some row → ∃ row', new.invocations.lookup id = some row' ∧ Continues row row'
  fresh : ∀ id row, old.invocations.lookup id = none → new.invocations.lookup id = some row → row.Reasoned

theorem Later.of_same {old new : Db} (same : ∀ id, new.invocations.lookup id = old.invocations.lookup id) : Later old new where
  kept id row found := ⟨row,(same id).trans found,.refl row⟩
  fresh id row missing found := by
    rw [same,missing] at found
    cases found

theorem Later.refl (db : Db) : Later db db := .of_same fun _ => rfl

theorem Later.trans {first second third : Db} (early : Later first second) (late : Later second third) :
    Later first third where
  kept id row found := by
    obtain ⟨middle,there,one⟩ := early.kept id row found
    obtain ⟨last,still,two⟩ := late.kept id middle there
    exact ⟨last,still,one.trans two⟩
  fresh id row missing found := by
    cases there : second.invocations.lookup id with
    | none => exact late.fresh id row there found
    | some middle =>
      obtain ⟨last,still,continues⟩ := late.kept id middle there
      cases still.symm.trans found
      exact continues.reasoned (early.fresh id middle missing there)

/-- What a transaction has pending leaves compliant rows, changes only what it has locked and
moves no invocation but along legal transitions. -/
structure Sustained (pending : List Write) (db : Db) : Prop where
  compliant : Db.Compliant (view db pending)
  later : Later db (view db pending)
  apart : ∀ id, .invocation id ∉ locksOf pending → ∀ old, rowAfter pending id old = old

theorem Sustained.none (compliant : db.Compliant) : Sustained [] db := ⟨compliant,.refl db,fun _ _ _ => rfl⟩

/-- The row of an invocation is the same where its transaction holds the lock. -/
def Unmoved (pending : List Write) (old new : Db) : Prop :=
  ∀ id, .invocation id ∈ locksOf pending → new.invocations.lookup id = old.invocations.lookup id

theorem Unmoved.lookup (unmoved : Unmoved pending db now) (locked : .invocation id ∈ locksOf pending) :
    (view now pending).invocations.lookup id = (view db pending).invocations.lookup id := by
  rw [view_lookup,view_lookup,unmoved id locked]

theorem Sustained.onward (kept : Sustained pending db) (compliant : now.Compliant) (unmoved : Unmoved pending db now) :
    Sustained pending now where
  compliant id row found := by
    by_cases locked : .invocation id ∈ locksOf pending
    · rw [unmoved.lookup locked] at found
      exact kept.compliant id row found
    · rw [view_lookup,kept.apart id locked] at found
      exact compliant id row found
  later := {
    kept := by
      intro id row found
      by_cases locked : .invocation id ∈ locksOf pending
      · rw [unmoved id locked] at found
        rw [unmoved.lookup locked]
        exact kept.later.kept id row found
      · rw [view_lookup,kept.apart id locked]
        exact ⟨row,found,.refl row⟩
    fresh := by
      intro id row missing found
      by_cases locked : .invocation id ∈ locksOf pending
      · rw [unmoved id locked] at missing
        rw [unmoved.lookup locked] at found
        exact kept.later.fresh id row missing found
      · rw [view_lookup,kept.apart id locked,missing] at found
        cases found}
  apart := kept.apart

/-- What one statement writes upon the rows that it sees. -/
structure Moves (view : Db) (new : List Write) : Prop where
  compliant : ∀ id row, rowAfter new id (view.invocations.lookup id) = some row → row.id = id ∧ row.violation = none
  kept : ∀ id row, view.invocations.lookup id = some row → ∃ row', rowAfter new id (some row) = some row' ∧ Continues row row'
  fresh : ∀ id row, view.invocations.lookup id = none → rowAfter new id none = some row → row.Reasoned
  apart : ∀ id, .invocation id ∉ locksOf new → ∀ old, rowAfter new id old = old

theorem Moves.later (moves : Moves (view db pending) new) : Later (view db pending) (view db (pending ++ new)) where
  kept id row found := by
    rw [rowAfter_append_view,found]
    exact moves.kept id row found
  fresh id row missing found := by
    rw [rowAfter_append_view,missing] at found
    exact moves.fresh id row missing found

theorem Sustained.append (kept : Sustained pending db) (moves : Moves (view db pending) new) :
    Sustained (pending ++ new) db where
  compliant id row found := by
    rw [rowAfter_append_view] at found
    exact moves.compliant id row found
  later := kept.later.trans moves.later
  apart id unlocked old := by
    have split : locksOf (pending ++ new) = locksOf pending ++ locksOf new := List.flatMap_append
    rw [split,List.mem_append,not_or] at unlocked
    rw [rowAfter_append,kept.apart id unlocked.1,moves.apart id unlocked.2]

theorem Moves.beside (compliant : db.Compliant) (beside : Beside new) : Moves db new where
  compliant id row found := by
    rw [beside.unchanged] at found
    exact compliant id row found
  kept id row found := ⟨row,beside.unchanged id (some row),.refl row⟩
  fresh id row missing found := by
    rw [beside.unchanged] at found
    cases found
  apart id _ old := beside.unchanged id old

theorem Moves.row {write : Write} {row row' : ToolInvocation} (compliant : db.Compliant)
    (found : db.invocations.lookup id = some row)
    (own : write.onRow id (some row) = some row') (locks : write.locks = [.invocation id])
    (others : ∀ other, other ≠ id → ∀ old, write.onRow other old = old) (named : row'.id = row.id)
    (passed : row'.violation = none) (continues : Continues row row') : Moves db [write] where
  compliant other found' passed' := by
    by_cases same : other = id
    · subst same
      have becomes : rowAfter [write] other (db.invocations.lookup other) = some row' := by rw [found]; exact own
      cases becomes.symm.trans passed'
      exact ⟨named.trans (compliant other row found).1,passed⟩
    · have still : rowAfter [write] other (db.invocations.lookup other) = db.invocations.lookup other := others other same _
      rw [still] at passed'
      exact compliant other found' passed'
  kept other old found' := by
    by_cases same : other = id
    · subst same
      cases found.symm.trans found'
      exact ⟨row',own,continues⟩
    · exact ⟨old,others other same _,.refl old⟩
  fresh other old missing found' := by
    by_cases same : other = id
    · subst same
      cases found.symm.trans missing
    · cases (others other same none).symm.trans found'
  apart other unlocked old := by
    by_cases same : other = id
    · subst same
      refine absurd ?_ unlocked
      rw [locksOf,List.flatMap_singleton,locks]
      exact List.mem_singleton_self _
    · exact others other same old

theorem Moves.insert {row : ToolInvocation} (compliant : db.Compliant) (fresh : row.id ∉ db.invocations)
    (passed : row.violation = none) (reasoned : row.Reasoned) : Moves db [.insertInvocation row] where
  compliant other found becomes := by
    by_cases same : row.id = other
    · subst same
      have own : rowAfter [.insertInvocation row] row.id (db.invocations.lookup row.id) = some row := if_pos rfl
      cases own.symm.trans becomes
      exact ⟨rfl,passed⟩
    · have still : rowAfter [.insertInvocation row] other (db.invocations.lookup other) = db.invocations.lookup other :=
        if_neg same
      rw [still] at becomes
      exact compliant other found becomes
  kept other old found := by
    have apart : row.id ≠ other := by
      rintro rfl
      exact fresh (AList.lookup_isSome.mp (by rw [found]; rfl))
    exact ⟨old,if_neg apart,.refl old⟩
  fresh other old missing becomes := by
    by_cases same : row.id = other
    · subst same
      have own : rowAfter [.insertInvocation row] row.id none = some row := if_pos rfl
      cases own.symm.trans becomes
      exact reasoned
    · have still : rowAfter [.insertInvocation row] other none = none := if_neg same
      cases still.symm.trans becomes
  apart other unlocked old := by
    have apart : row.id ≠ other := by
      rintro rfl
      exact unlocked (List.mem_flatMap.mpr ⟨_,List.mem_singleton_self _,.head _⟩)
    exact if_neg apart

/-- What a statement asks for fits the state that the row is in, or will be. -/
def Stmt.Fits (db : Db) : Stmt → Prop
  | .compareAndSet _ source target _ columns => InvocationState.IsLegalTransition source target ∧
      ∀ progress : InvocationProgress, progress.state = source → progress.Agrees →
        ((columns progress).into target).Agrees ∧ (progress.Reasoned → ((columns progress).into target).Reasoned)
  | .setApprovalsReceived id n => ∀ row, db.invocations.lookup id = some row → (n : Int) ≤ row.minApprovals
  | _ => True

/-- An UPDATE of an invocation that the database refuses, and for which constraint. -/
def Stmt.RefusedFor : (stmt : Stmt) → Reply stmt → Constraint → Prop
  | .compareAndSet _ _ _ _ _, reply, constraint => reply = .error constraint
  | .claimReady _ _ _ _ _, reply, constraint => reply = .error constraint
  | .recordGate _ _ _ _ _, reply, constraint => reply = .error constraint
  | .setApprovalsReceived _ _, reply, constraint => reply = .error constraint
  | _, _, _ => False

/-- The CHECKs of `tool_invocation` are not what an UPDATE can be refused for. -/
def NoCheck (stmt : Stmt) (reply : Reply stmt) : Prop :=
  ∀ constraint, stmt.RefusedFor reply constraint → constraint = .columnType ∨ constraint = .finalGateEventId

theorem updateWhere_steps {matching : ToolInvocation → Bool} {change : InvocationProgress → InvocationProgress}
    {reply : Except Constraint Bool} (compliant : db.Compliant)
    (fits : ∀ row, db.invocations.lookup id = some row → matching row = true →
      (change row.toInvocationProgress).Agrees ∧ Reaches row.state (change row.toInvocationProgress).state ∧
      (row.Reasoned → (change row.toInvocationProgress).Reasoned))
    (answered : updateWhere db id matching change = (reply,new)) :
    Moves db new ∧ ∀ constraint, reply = .error constraint → constraint = .columnType := by
  have nothing : Moves db [] := .beside compliant .nil
  unfold updateWhere at answered
  split at answered
  · cases answered
    exact ⟨nothing,nofun⟩
  · rename_i row found
    split at answered
    · rename_i matched
      obtain ⟨agrees,reaches,reasoned⟩ := fits row found matched
      have passes := violation_advance (compliant id row found).2 agrees
      split at answered
      · rename_i broken refused
        cases answered
        refine ⟨nothing,fun constraint same => ?_⟩
        cases same
        rcases passes with none | type
        · cases none.symm.trans refused
        · exact Option.some.inj (refused.symm.trans type)
      · rename_i passed
        cases answered
        refine ⟨.row compliant found (if_pos rfl) rfl ?_ rfl passed ⟨rfl,reaches,reasoned⟩,nofun⟩
        exact fun other different old => if_neg (Ne.symm different)
    · cases answered
      exact ⟨nothing,nofun⟩

theorem claim_agrees {progress : InvocationProgress} (agrees : progress.Agrees) (leaseId : Uuid) (first second third : Time) :
    (progress.claim leaseId first second third).Agrees :=
  ⟨iff_of_true (.inl rfl) rfl,iff_of_true (.inl rfl) rfl,agrees.gateAt,agrees.gateEvent⟩

theorem gate_agrees {progress : InvocationProgress} (agrees : progress.Agrees) (decision : GateDecision)
    (reason : PolicyReason) (time : Time) (eventId : Uuid) : (progress.gate decision reason time eventId).Agrees :=
  ⟨agrees.leaseId,agrees.leaseExpiry,rfl,rfl⟩

/-- The step lemma: what one statement of a service does to the rows. -/
theorem moves_of_exec {input : Input} {reply : Reply stmt} (compliant : db.Compliant) (fits : stmt.Fits db)
    (answered : exec stmt db input = some (reply,new)) : Moves db new ∧ NoCheck stmt reply := by
  have sound : ∀ id row, db.invocations.lookup id = some row → row.toInvocationProgress.Agrees :=
    fun id row found => agrees_of_violation (compliant id row found).2
  cases stmt with
  | compareAndSet id source target expected columns =>
    obtain ⟨moves,only⟩ := updateWhere_steps compliant (by
      intro row found matched
      have held : row.state = source := (of_decide_eq_true matched).1
      obtain ⟨agrees,reasoned⟩ := fits.2 _ held (sound id row found)
      refine ⟨agrees,?_,reasoned⟩
      rw [held]
      exact .single fits.1) (Option.some.inj answered)
    exact ⟨moves,fun constraint refused => .inl (only constraint refused)⟩
  | claimReady id leaseId leaseExpiresAt deadlineAt startedAt =>
    obtain ⟨moves,only⟩ := updateWhere_steps compliant (by
      intro row found matched
      have ready : row.state = .ready := of_decide_eq_true matched
      refine ⟨claim_agrees (sound id row found) _ _ _ _,?_,fun reasoned => reasoned⟩
      rw [ready]
      exact .single (show InvocationState.IsLegalTransition .ready .executing by decide)) (Option.some.inj answered)
    exact ⟨moves,fun constraint refused => .inl (only constraint refused)⟩
  | recordGate id leaseId decision reason eventId =>
    simp only [exec] at answered
    split at answered
    · obtain ⟨moves,only⟩ := updateWhere_steps compliant (by
        intro row found _
        exact ⟨gate_agrees (sound id row found) _ _ _ _,.refl,fun _ => rfl⟩) (Option.some.inj answered)
      exact ⟨moves,fun constraint refused => .inl (only constraint refused)⟩
    · cases answered
      refine ⟨.beside compliant .nil,fun constraint refused => .inr ?_⟩
      cases refused
      rfl
  | setApprovalsReceived id n =>
    simp only [exec,Option.some.injEq] at answered
    split at answered
    · cases answered
      refine ⟨.beside compliant .nil,fun _ refused => ?_⟩
      cases refused
    · rename_i row found
      have passes := violation_receive (compliant id row found).2 (fits row found)
      split at answered
      · rename_i broken refused
        cases answered
        refine ⟨.beside compliant .nil,fun constraint same => .inl ?_⟩
        cases same
        rcases passes with none | type
        · cases none.symm.trans refused
        · exact Option.some.inj (refused.symm.trans type)
      · rename_i passed
        cases answered
        refine ⟨.row compliant found (if_pos rfl) rfl ?_ rfl passed ⟨rfl,.refl,fun reasoned => reasoned⟩,fun _ refused => ?_⟩
        · exact fun other different old => if_neg (Ne.symm different)
        · cases refused
  | insertInvocation snapshot =>
    simp only [exec,Acop.inserted,Option.some.injEq] at answered
    split at answered
    · rename_i row made
      cases answered
      obtain ⟨shape,passed,fresh,_⟩ := insertInvocationRow_ok made
      have named : row.id = input.uuid := by rw [shape]
      have reasoned : row.Reasoned := by rw [shape]; rfl
      exact ⟨.insert compliant (named ▸ AList.lookup_eq_none.mp fresh) passed reasoned,fun _ refused => refused.elim⟩
    · cases answered
      exact ⟨.beside compliant .nil,fun _ refused => refused.elim⟩
  | _ =>
    refine ⟨.beside compliant (beside_of_exec ?_ answered),fun _ refused => refused.elim⟩
    trivial

theorem Sustained.view_later (kept : Sustained pending db) (later : Later db now) (unmoved : Unmoved pending db now) :
    Later (view db pending) (view now pending) where
  kept id row found := by
    by_cases locked : .invocation id ∈ locksOf pending
    · rw [unmoved.lookup locked]
      exact ⟨row,found,.refl row⟩
    · rw [view_lookup,kept.apart id locked] at found ⊢
      exact later.kept id row found
  fresh id row missing found := by
    by_cases locked : .invocation id ∈ locksOf pending
    · rw [unmoved.lookup locked,missing] at found
      cases found
    · rw [view_lookup,kept.apart id locked] at missing found
      exact later.fresh id row missing found

end Statements

section Programs

variable {runtime : Runtime} {settings : Settings} {pending : List Write} {db seen : Db}
  {past : List (Happening runtime)} {α β : Type}

/-- The judgement of every operation by what it leaves of the CHECKs. -/
def checking (runtime : Runtime) (settings : Settings) : Spec (acop runtime settings) where
  Inv := Db.Compliant
  Com := Sustained
  Agree locks old new := (∀ id, .invocation id ∈ locks → new.invocations.lookup id = old.invocations.lookup id) ∧ Later old new
  assume _ _ _ _ := True
  duty _ event := match event with
    | .call stmt reply _ => NoCheck stmt reply
    | _ => True
  agree_refl _ db := ⟨fun _ _ => rfl,.refl db⟩
  agree_trans _ _ _ _ first second :=
    ⟨fun id locked => (second.1 id locked).trans (first.1 id locked),first.2.trans second.2⟩
  guarantee locks db pending _ kept free := by
    refine ⟨fun id locked => ?_,kept.later⟩
    have unlocked : Lock.invocation id ∉ locksOf pending := fun own => free _ own locked
    change (view db pending).invocations.lookup id = db.invocations.lookup id
    rw [view_lookup,kept.apart id unlocked]
  preserves _ _ _ kept := kept.compliant
  duty_start _ := trivial
  duty_crash _ := trivial

/-- Wherever the rows of `seen` have moved on to, the program leaves rows whose CHECKs pass,
and its value satisfies the postcondition. -/
def Upholds (runtime : Runtime) (settings : Settings) (seen : Db) (post : α → Prop) (program : Service α) : Prop :=
  ∀ pending db past, Sustained pending db → Later seen (view db pending) →
    (checking runtime settings).Ok (fun value pending db _ => Sustained pending db ∧ Later seen (view db pending) ∧ post value)
      (fun _ pending db _ => Sustained pending db ∧ Later seen (view db pending)) program pending db past

variable {post : α → Prop} {post' : β → Prop} {program : Service α} {rest : α → Service β} {stmt : Stmt}

theorem Upholds.pure {value : α} (holds : post value) : Upholds runtime settings seen post (Pure.pure value) :=
  fun _ _ _ kept later => ⟨kept,later,holds⟩

theorem Upholds.throw {fault : Fault} : Upholds runtime settings seen post (MonadExcept.throw fault) :=
  fun _ _ _ kept later => ⟨kept,later⟩

theorem Upholds.bind (first : Upholds runtime settings seen post program)
    (next : ∀ value, post value → Upholds runtime settings seen post' (rest value)) :
    Upholds runtime settings seen post' (program >>= rest) := by
  intro pending db past kept later
  refine Spec.ok_bind (Spec.ok_weaken ?_ (fun _ _ _ _ raised => raised) _ _ _ _ (first pending db past kept later))
  intro value pending' db' past' held
  exact next value held.2.2 pending' db' past' held.1 held.2.1

theorem Upholds.tryCatch {handler : Fault → Service α} (block : Upholds runtime settings seen post program)
    (handled : ∀ fault, Upholds runtime settings seen post (handler fault)) :
    Upholds runtime settings seen post (program.tryCatch handler) := by
  intro pending db past kept later
  refine Spec.ok_tryCatch (Spec.ok_weaken (fun _ _ _ _ held => held) ?_ _ _ _ _ (block pending db past kept later))
  intro fault pending' db' past' raised
  exact handled fault pending' db' past' raised.1 raised.2

theorem Upholds.commit : Upholds runtime settings seen (fun _ => True) Program.commitNow := by
  intro pending db past kept later now agree compliant
  have on := kept.onward compliant agree.1
  exact ⟨on,trivial,.none on.compliant,later.trans (kept.view_later agree.2 agree.1),trivial⟩

theorem Upholds.query {post : Reply stmt → Prop} (fits : ∀ view, view.Compliant → Later seen view → stmt.Fits view)
    (answers : ∀ view input reply new, exec stmt view input = some (reply,new) → post reply) :
    Upholds runtime settings seen post (Acop.query stmt) := by
  intro pending db past kept later now agree compliant _ input reply new answered
  have answered : exec stmt (view now pending) input = some (reply,new) := answered
  have on := kept.onward compliant agree.1
  have later := later.trans (kept.view_later agree.2 agree.1)
  obtain ⟨moves,checked⟩ := moves_of_exec on.compliant (fits _ on.compliant later) answered
  exact ⟨checked,on.append moves,later.trans moves.later,answers _ _ _ _ answered⟩

theorem Upholds.issue (fits : ∀ view, stmt.Fits view) : Upholds runtime settings seen (fun _ => True) (Acop.query stmt) :=
  .query (fun view _ _ => fits view) fun _ _ _ _ _ => trivial

theorem Upholds.read {id : Uuid} {rest : Option ToolInvocation → Service β}
    (next : ∀ view, view.Compliant → Upholds runtime settings view post' (rest (view.invocations.lookup id))) :
    Upholds runtime settings seen post' (Acop.query (.getInvocation id) >>= rest) := by
  intro pending db past kept later now agree compliant _ input reply new answered
  cases answered
  rw [List.append_nil]
  have on := kept.onward compliant agree.1
  have later := later.trans (kept.view_later agree.2 agree.1)
  refine ⟨nofun,Spec.ok_weaken ?_ ?_ _ _ _ _ (next _ on.compliant pending now _ on (.refl _))⟩
  · exact fun value pending' db' past' held => ⟨held.1,later.trans held.2.1,held.2.2⟩
  · exact fun fault pending' db' past' held => ⟨held.1,later.trans held.2⟩

theorem Upholds.weaken {weaker : α → Prop} (upholds : Upholds runtime settings seen post program)
    (implies : ∀ value, post value → weaker value) : Upholds runtime settings seen weaker program :=
  fun pending db past kept later => Spec.ok_weaken (fun _ _ _ _ held => ⟨held.1,held.2.1,implies _ held.2.2⟩)
    (fun _ _ _ _ held => held) _ _ _ _ (upholds pending db past kept later)

theorem upholds_orRaise {value : Except Constraint α} : Upholds runtime settings seen (fun _ => True) (orRaise value) := by
  cases value with
  | ok value => exact .pure trivial
  | error constraint => exact .throw

theorem upholds_appendEvent {invocationId : Uuid} {fromState : Option InvocationState} {toState : InvocationState}
    {reason : String} {actorSubject : Option String} {detail : JsonObject} :
    Upholds runtime settings seen (fun _ => True) (appendEvent invocationId fromState toState reason actorSubject detail) := by
  have sequence : Upholds runtime settings seen (fun _ => True) (nextSequence invocationId) :=
    .bind (.issue fun _ => trivial) fun _ _ => .pure trivial
  exact .bind sequence fun _ _ => .bind (.issue fun _ => trivial) fun _ _ => upholds_orRaise

theorem upholds_refresh {invocation : ToolInvocation} :
    Upholds runtime settings seen (fun _ => True) (refresh invocation) := by
  unfold refresh
  refine .bind (.issue fun _ => trivial) fun found _ => ?_
  cases found with
  | none => exact .throw
  | some row => exact .pure trivial

theorem ok_refresh_own {invocation current : ToolInvocation} (kept : Sustained pending db) (later : Later seen (view db pending))
    (locked : .invocation invocation.id ∈ locksOf pending)
    (own : (view db pending).invocations.lookup invocation.id = some current) :
    (checking runtime settings).Ok
      (fun value pending db _ => Sustained pending db ∧ Later seen (view db pending) ∧ value = current)
      (fun _ pending db _ => Sustained pending db ∧ Later seen (view db pending)) (refresh invocation) pending db past := by
  intro now agree compliant _ input reply new answered
  cases answered
  rw [List.append_nil]
  have on := kept.onward compliant agree.1
  have unmoved : Unmoved pending db now := agree.1
  have still : ((acop runtime settings).settle now pending).invocations.lookup invocation.id = some current :=
    (unmoved.lookup locked).trans own
  rw [still]
  exact ⟨nofun,on,later.trans (kept.view_later agree.2 unmoved),rfl⟩

def Transition.Fits (move : Transition) (source : InvocationState) : Prop :=
  InvocationState.IsLegalTransition source move.toState → ∀ progress : InvocationProgress, progress.state = source →
    progress.Agrees → ((move.columns progress).into move.toState).Agrees ∧
      (progress.Reasoned → ((move.columns progress).into move.toState).Reasoned)

theorem upholds_transition {invocation : ToolInvocation} {move : Transition} (fits : move.Fits invocation.state) :
    Upholds runtime settings seen (fun row => row.state = move.toState) (transition invocation move) := by
  unfold transition
  dsimp only
  split
  · rename_i legal
    intro pending db past kept later now agree compliant _ input reply new answered
    have answered : exec (.compareAndSet invocation.id invocation.state move.toState move.expected move.columns)
      (view now pending) input = some (reply,new) := answered
    have on := kept.onward compliant agree.1
    have later := later.trans (kept.view_later agree.2 agree.1)
    obtain ⟨moves,checked⟩ := moves_of_exec on.compliant (show Stmt.Fits _ (.compareAndSet ..) from ⟨legal,fits legal⟩) answered
    refine ⟨checked,?_⟩
    have kept' := on.append moves
    have later' := later.trans moves.later
    rcases updateWhere_cases (Option.some.inj answered) with ⟨row,found,_,_,rfl,rfl⟩ | ⟨rfl,rfl⟩ | ⟨broken,rfl,rfl,_⟩
    · have own : (view now (pending ++ [.advance invocation.id ((move.columns row.toInvocationProgress).into move.toState)])
          ).invocations.lookup invocation.id = some (row.advance ((move.columns row.toInvocationProgress).into move.toState)) := by
        rw [rowAfter_append_view,found]
        exact if_pos rfl
      change Spec.Ok _ _ _ (refresh invocation >>= _) _ _ _
      refine Spec.ok_bind (Spec.ok_weaken ?_ (fun _ _ _ _ raised => raised) _ _ _ _
        (ok_refresh_own kept' later' (by simp [Write.locks]) own))
      rintro current pending' now' past' ⟨on',onward,rfl⟩
      refine (Upholds.bind upholds_appendEvent fun event _ => ?_) pending' now' past' on' onward
      exact .pure rfl
    · refine (Upholds.bind upholds_refresh fun current _ => ?_) _ now _ kept' later'
      exact .bind upholds_appendEvent fun event _ => .throw
    · exact ⟨kept',later'⟩
  · exact .throw

def Transition.KeepsGate (move : Transition) : Prop := ∀ progress,
  (move.columns progress).finalGateDecision = progress.finalGateDecision ∧
  (move.columns progress).finalGateReason = progress.finalGateReason ∧
  (move.columns progress).finalGateAt = progress.finalGateAt ∧
  (move.columns progress).finalGateEventId = progress.finalGateEventId

def Transition.KeepsLease (move : Transition) : Prop := ∀ progress,
  (move.columns progress).executorLeaseId = progress.executorLeaseId ∧
  (move.columns progress).leaseExpiresAt = progress.leaseExpiresAt

theorem Transition.KeepsGate.agrees {move : Transition} (gate : move.KeepsGate) {progress : InvocationProgress}
    (agrees : progress.Agrees) :
    (move.columns progress).finalGateDecision.isNone = (move.columns progress).finalGateAt.isNone ∧
    (move.columns progress).finalGateDecision.isNone = (move.columns progress).finalGateEventId.isNone := by
  obtain ⟨decision,_,time,event⟩ := gate progress
  rw [decision,time,event]
  exact ⟨agrees.gateAt,agrees.gateEvent⟩

theorem Transition.KeepsGate.reasoned {move : Transition} (gate : move.KeepsGate) {progress : InvocationProgress}
    (reasoned : progress.Reasoned) : (move.columns progress).Reasoned := by
  obtain ⟨decision,reason,_,_⟩ := gate progress
  rw [InvocationProgress.Reasoned,decision,reason]
  exact reasoned

theorem upholds_releaseLease {invocation : ToolInvocation} {move : Transition} (target : InvocationState)
    (into : move.toState = target) (gate : move.KeepsGate) (landed : ¬ target.InFlight) :
    Upholds runtime settings seen (fun row => row.state = target) (releaseLease invocation move) := by
  subst into
  unfold releaseLease
  refine (upholds_transition ?_).weaken fun _ moved => moved
  intro _ progress _ agrees
  obtain ⟨time,event⟩ := gate.agrees agrees
  exact ⟨⟨iff_of_false landed Bool.false_ne_true,iff_of_false landed Bool.false_ne_true,time,event⟩,gate.reasoned⟩

theorem upholds_rest {invocation : ToolInvocation} {move : Transition} (gate : move.KeepsGate) (lease : move.KeepsLease)
    (left : InvocationState.IsLegalTransition invocation.state move.toState → ¬ invocation.state.InFlight)
    (landed : ¬ move.toState.InFlight) :
    Upholds runtime settings seen (fun row => row.state = move.toState) (transition invocation move) := by
  refine upholds_transition fun legal progress held agrees => ?_
  obtain ⟨time,event⟩ := gate.agrees agrees
  obtain ⟨leaseId,leaseExpiry⟩ := lease progress
  have resting : ¬ progress.state.InFlight := held ▸ left legal
  refine ⟨⟨?_,?_,time,event⟩,gate.reasoned⟩
  · change move.toState.InFlight ↔ (move.columns progress).executorLeaseId.isSome
    rw [leaseId]
    exact iff_of_false landed fun there => resting (agrees.leaseId.mpr there)
  · change move.toState.InFlight ↔ (move.columns progress).leaseExpiresAt.isSome
    rw [leaseExpiry]
    exact iff_of_false landed fun there => resting (agrees.leaseExpiry.mpr there)

def InvocationState.early : List InvocationState :=
  [.rejected,.authorized,.awaitingApproval,.ready,.approved,.denied,.cancelled]

theorem legal_early {source target : InvocationState} (early : target ∈ InvocationState.early)
    (legal : InvocationState.IsLegalTransition source target) : ¬ source.InFlight := by
  have apart : ∀ target ∈ InvocationState.early, ¬ InvocationState.IsLegalTransition .executing target ∧
      ¬ InvocationState.IsLegalTransition .validating target := by decide
  rintro (rfl | rfl)
  · exact (apart target early).1 legal
  · exact (apart target early).2 legal

theorem upholds_early {invocation : ToolInvocation} {move : Transition} (target : InvocationState) (into : move.toState = target)
    (gate : move.KeepsGate) (lease : move.KeepsLease) (early : target ∈ InvocationState.early) :
    Upholds runtime settings seen (fun _ => True) (transition invocation move) := by
  have apart : ∀ target ∈ InvocationState.early, ¬ target.InFlight := by decide
  subst into
  exact (upholds_rest gate lease (legal_early early) (apart _ early)).weaken fun _ _ => trivial

end Programs

end Acop
