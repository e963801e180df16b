import Acop.Ledger
import Acop.Transaction.Chronicle

/-! The discipline of the deployment: what holds of every committed database, what
one transaction may commit, and what it may rely on while it holds its locks. -/
namespace Acop

open Acop.Transaction

/-- What the runs under consideration promise. Most properties need no promise.
`counted`: no approval is committed between a partial count and its UPDATE.
`awaited`: a partial count is written to a row that still awaits approval.
`unraced`: no live row holds the key when an invocation is inserted under it. -/
structure Mode where
  counted : Prop := False
  awaited : Prop := False
  unraced : Prop := False

def InvocationState.Steady (state : InvocationState) : Prop :=
  state ∉ [requested,authorized,approved,executed,validating,superseded]

instance (state : InvocationState) : Decidable state.Steady := inferInstanceAs (Decidable (_ ∉ _))

/-- A decision that belongs to its invocation. -/
structure Decided (settings : Settings) (snapshot : InvocationSnapshot) (approval : ToolApproval) : Prop where
  requester : approval.requesterSubject = snapshot.principalSubject
  digest : approval.approvedEnvelopeDigest = snapshot.envelopeDigest
  separate : approval.approverSubject = snapshot.principalSubject →
    settings.toolsAllowSelfApproval = true ∧
      ToolApprovalService.selfApprovalPermitted snapshot.effectiveApprovalPolicy = true

/-- How many subjects approved, of decisions that are all of one invocation. -/
def approverCount (approvals : List ToolApproval) : Nat := distinctApprovers (approvedAmong approvals)

/-- A row beside its events and its decisions. -/
structure Coherent (settings : Settings) (id : Uuid) (row : ToolInvocation) (events : List ToolInvocationEvent)
    (approvals : List ToolApproval) : Prop where
  keyed : row.id = id
  checked : row.violation = none
  logged : Logged events row.state
  received : row.approvalsReceived ≤ approverCount approvals
  decided : ∀ approval ∈ approvals, Decided settings row.toInvocationSnapshot approval

/-- Foreign rows are stored under their own identifiers. -/
structure Keyed (db : Db) : Prop where
  asset : ∀ id row, db.assets.lookup id = some row → row.id = id
  registration : ∀ id row, db.registrations.lookup id = some row → row.id = id

structure Inv (mode : Mode) (settings : Settings) (db : Db) : Prop where
  absent : ∀ id, db.invocations.lookup id = none → db.eventsOf id = [] ∧ db.approvalsOf id = []
  coherent : ∀ id row, db.invocations.lookup id = some row →
    Coherent settings id row (db.eventsOf id) (db.approvalsOf id)
  steady : ∀ id row, db.invocations.lookup id = some row → row.state.Steady
  denied : ∀ id row, db.invocations.lookup id = some row → ∀ approval ∈ db.approvalsOf id,
    approval.decision = .denied → row.state = .denied
  counted : mode.counted → ∀ id row, db.invocations.lookup id = some row → row.state = .awaitingApproval →
    row.approvalsReceived = approverCount (db.approvalsOf id) ∧
      (approverCount (db.approvalsOf id) : Int) < row.minApprovals
  unique : ∀ a b first second key, db.invocations.lookup a = some first → db.invocations.lookup b = some second →
    first.idempotencyKey = some key → second.idempotencyKey = some key → a = b
  keyed : Keyed db

structure Grown (old new : ToolInvocation) : Prop where
  snapshot : new.toInvocationSnapshot = old.toInvocationSnapshot
  id : new.id = old.id
  requestedAt : new.requestedAt = old.requestedAt
  reaches : Reaches old.state new.state

/-- What other transactions leave alone while `locks` are held. -/
structure Agree (locks : List Lock) (old new : Db) : Prop where
  kept : ∀ id row, old.invocations.lookup id = some row → ∃ row', new.invocations.lookup id = some row' ∧ Grown row row'
  events : ∀ id, old.eventsOf id <+: new.eventsOf id
  approvals : ∀ id, old.approvalsOf id <+: new.approvalsOf id
  invocation : ∀ id, .invocation id ∈ locks →
    new.invocations.lookup id = old.invocations.lookup id ∧ new.approvalsOf id = old.approvalsOf id
  event : ∀ id, .event id ((old.eventsOf id).length + 1) ∈ locks → new.eventsOf id = old.eventsOf id
  key : ∀ key, .key key ∈ locks → ∀ id row, new.invocations.lookup id = some row → row.idempotencyKey = some key →
    ∃ row', old.invocations.lookup id = some row'

/-- One invocation between its committed version and a transaction's own, at a
point where the two tell the same story. `may` bounds the moves it has made. -/
structure Calm (settings : Settings) (may : InvocationState → InvocationState → Prop) (locks : List Lock)
    (old new : Db) (id : Uuid) : Prop where
  absent : new.invocations.lookup id = none → new.eventsOf id = [] ∧ new.approvalsOf id = []
  coherent : ∀ row, new.invocations.lookup id = some row →
    Coherent settings id row (new.eventsOf id) (new.approvalsOf id)
  kept : ∀ row, old.invocations.lookup id = some row →
    ∃ row', new.invocations.lookup id = some row' ∧ Grown row row' ∧ (row'.state ≠ row.state → may row.state row'.state)
  held : new.invocations.lookup id ≠ old.invocations.lookup id → .invocation id ∈ locks
  told : new.eventsOf id ≠ old.eventsOf id → .event id ((old.eventsOf id).length + 1) ∈ locks
  fresh : ∀ row key, old.invocations.lookup id = none → new.invocations.lookup id = some row →
    row.idempotencyKey = some key → .key key ∈ locks ∧ ∀ other row', other ≠ id →
      new.invocations.lookup other = some row' → row'.idempotencyKey ≠ some key
  frozen : ∀ row, old.invocations.lookup id = some row → row.state.Terminal →
    ∃ n, new.invocations.lookup id = some (row.receive n)

/-- One invocation as a transaction may commit it. -/
structure Final (mode : Mode) (locks : List Lock) (old new : Db) (id : Uuid) : Prop where
  steady : ∀ row, new.invocations.lookup id = some row → row.state.Steady
  denied : ∀ row, new.invocations.lookup id = some row → ∀ approval ∈ new.approvalsOf id,
    approval.decision = .denied → row.state = .denied
  decided : new.approvalsOf id ≠ old.approvalsOf id → .invocation id ∈ locks ∧
    (mode.awaited → ∃ row, old.invocations.lookup id = some row ∧ row.state = .awaitingApproval)
  counted : mode.counted → ∀ row, new.invocations.lookup id = some row → row.state = .awaitingApproval →
    row.approvalsReceived = approverCount (new.approvalsOf id) ∧
      (approverCount (new.approvalsOf id) : Int) < row.minApprovals
  frozen : mode.awaited → ∀ row, old.invocations.lookup id = some row → row.state.Terminal →
    new.invocations.lookup id = some row

def locksOf (pending : List Write) : List Lock := pending.flatMap Write.locks

def Commits (mode : Mode) (settings : Settings) (pending : List Write) (db : Db) : Prop :=
  ∀ id, Calm settings (fun _ _ => True) (locksOf pending) db (view db pending) id ∧
    Final mode (locksOf pending) db (view db pending) id

section Growth

theorem Grown.refl (row : ToolInvocation) : Grown row row := ⟨rfl,rfl,rfl,.refl⟩

theorem Grown.trans {a b c : ToolInvocation} (first : Grown a b) (second : Grown b c) : Grown a c :=
  ⟨second.snapshot.trans first.snapshot,second.id.trans first.id,second.requestedAt.trans first.requestedAt,
    first.reaches.trans second.reaches⟩

theorem Agree.refl (locks : List Lock) (db : Db) : Agree locks db db where
  kept := fun _ row present => ⟨row,present,.refl row⟩
  events := fun _ => List.prefix_refl _
  approvals := fun _ => List.prefix_refl _
  invocation := fun _ _ => ⟨rfl,rfl⟩
  event := fun _ _ => rfl
  key := fun _ _ _ row present _ => ⟨row,present⟩

theorem Agree.trans {locks : List Lock} {a b c : Db} (first : Agree locks a b) (second : Agree locks b c) :
    Agree locks a c where
  kept := by
    intro id row present
    obtain ⟨middle,there,grown⟩ := first.kept id row present
    obtain ⟨last,found,grown'⟩ := second.kept id middle there
    exact ⟨last,found,grown.trans grown'⟩
  events := fun id => (first.events id).trans (second.events id)
  approvals := fun id => (first.approvals id).trans (second.approvals id)
  invocation := by
    intro id lock
    have one := first.invocation id lock
    have two := second.invocation id lock
    exact ⟨two.1.trans one.1,two.2.trans one.2⟩
  event := by
    intro id lock
    have same := first.event id lock
    rw [← same] at lock
    exact (second.event id lock).trans same
  key := by
    intro key lock id row present under
    obtain ⟨middle,there⟩ := second.key key lock id row present under
    obtain ⟨last,found,grown⟩ := second.kept id middle there
    have same : last = row := Option.some.inj (found.symm.trans present)
    subst same
    exact first.key key lock id middle there (by rw [← under,← grown.snapshot])

theorem Agree.mono {locks locks' : List Lock} (fewer : locks ⊆ locks') {a b : Db} (agree : Agree locks' a b) :
    Agree locks a b where
  kept := agree.kept
  events := agree.events
  approvals := agree.approvals
  invocation := fun id lock => agree.invocation id (fewer lock)
  event := fun id lock => agree.event id (fewer lock)
  key := fun key lock => agree.key key (fewer lock)

theorem Keyed.view {db : Db} (keyed : Keyed db) (pending : List Write) : Keyed (view db pending) := by
  unfold Acop.view
  induction pending generalizing db with
  | nil => exact keyed
  | cons write rest ih =>
    refine ih ?_
    cases write with
    | setRegistration target columns =>
      refine ⟨keyed.asset,?_⟩
      intro id row found
      by_cases same : target = id
      · subst same
        simp only [Db.apply,updateRow_lookup] at found
        obtain ⟨old,present,rfl⟩ := Option.map_eq_some_iff.mp found
        exact keyed.registration _ old present
      · exact keyed.registration id row (by simpa only [Db.apply,updateRow_lookup_ne _ (Ne.symm same)] using found)
    | setAsset target columns =>
      refine ⟨?_,keyed.registration⟩
      intro id row found
      by_cases same : target = id
      · subst same
        simp only [Db.apply,updateRow_lookup] at found
        obtain ⟨old,present,rfl⟩ := Option.map_eq_some_iff.mp found
        exact keyed.asset _ old present
      · exact keyed.asset id row (by simpa only [Db.apply,updateRow_lookup_ne _ (Ne.symm same)] using found)
    | _ => exact ⟨keyed.asset,keyed.registration⟩

variable {mode : Mode} {settings : Settings}

theorem Calm.unbounded {may : InvocationState → InvocationState → Prop} {locks : List Lock} {old new : Db} {id : Uuid}
    (calm : Calm settings may locks old new id) : Calm settings (fun _ _ => True) locks old new id := {calm with
  kept := by
    intro row present
    obtain ⟨row',there,grown,_⟩ := calm.kept row present
    exact ⟨row',there,grown,fun _ => trivial⟩}

theorem Commits.guarantee {pending : List Write} {db : Db} (commits : Commits mode settings pending db)
    (locks : List Lock) (apart : ∀ lock ∈ locksOf pending, lock ∉ locks) : Agree locks db (view db pending) where
  kept := by
    intro id row present
    obtain ⟨row',there,grown,_⟩ := (commits id).1.kept row present
    exact ⟨row',there,grown⟩
  events := fun id => by simp [view_eventsOf]
  approvals := fun id => by simp [view_approvalsOf]
  invocation := by
    intro id lock
    have unheld : Lock.invocation id ∉ locksOf pending := fun member => apart _ member lock
    exact ⟨by_contra fun changed => unheld ((commits id).1.held changed),
      by_contra fun changed => unheld ((commits id).2.decided changed).1⟩
  event := by
    intro id lock
    exact by_contra fun changed => apart _ ((commits id).1.told changed) lock
  key := by
    intro key lock id row present under
    by_contra missing
    have absent : db.invocations.lookup id = none := by
      cases found : db.invocations.lookup id with
      | none => rfl
      | some row' => exact absurd ⟨row',found⟩ missing
    exact apart _ ((commits id).1.fresh row key absent present under).1 lock

theorem Commits.preserves {pending : List Write} {db : Db} (inv : Inv mode settings db)
    (commits : Commits mode settings pending db) : Inv mode settings (view db pending) where
  absent := fun id => (commits id).1.absent
  coherent := fun id => (commits id).1.coherent
  steady := fun id => (commits id).2.steady
  denied := fun id => (commits id).2.denied
  counted := fun promised id => (commits id).2.counted promised
  unique := by
    intro a b first second key left right under under'
    by_contra different
    cases foundA : db.invocations.lookup a with
    | none => exact ((commits a).1.fresh first key foundA left under).2 b second (Ne.symm different) right under'
    | some rowA =>
      cases foundB : db.invocations.lookup b with
      | none => exact ((commits b).1.fresh second key foundB right under').2 a first different left under
      | some rowB =>
        obtain ⟨rowA',thereA,grownA,_⟩ := (commits a).1.kept rowA foundA
        obtain ⟨rowB',thereB,grownB,_⟩ := (commits b).1.kept rowB foundB
        cases Option.some.inj (thereA.symm.trans left)
        cases Option.some.inj (thereB.symm.trans right)
        exact different (inv.unique a b rowA rowB key foundA foundB
          (by rw [← under,← grownA.snapshot]) (by rw [← under',← grownB.snapshot]))
  keyed := inv.keyed.view pending

end Growth

end Acop
