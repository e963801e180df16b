import Acop.Duty

/-! Points of a transaction where every row it has touched agrees with its log, and
how each kind of write leads from one such point to the next. -/
namespace Acop

open Acop.Transaction

@[simp] theorem locksOf_nil : locksOf [] = [] := rfl

@[simp] theorem locksOf_append (first second : List Write) : locksOf (first ++ second) = locksOf first ++ locksOf second :=
  List.flatMap_append

@[simp] theorem locksOf_cons (write : Write) (rest : List Write) : locksOf (write::rest) = write.locks ++ locksOf rest :=
  List.flatMap_cons

theorem locksOf_left (first second : List Write) : locksOf first ⊆ locksOf (first ++ second) := by simp

theorem rowAfter_append_view (db : Db) (pending new : List Write) (id : Uuid) :
    (view db (pending ++ new)).invocations.lookup id = rowAfter new id ((view db pending).invocations.lookup id) := by
  simp [view_lookup]

section

variable (mode : Mode) (settings : Settings) (may : Uuid → InvocationState → InvocationState → Prop)

/-- Every invocation is calm, now and however others move on under the locks held. -/
def Rest (pending : List Write) (db : Db) : Prop :=
  ∀ now, Agree (locksOf pending) db now → Inv mode settings now →
    ∀ id, Calm settings (may id) (locksOf pending) now (view now pending) id

variable {mode settings may} {pending : List Write} {db now : Db}

theorem Rest.follow (rest : Rest mode settings may pending db) (agree : Agree (locksOf pending) db now) :
    Rest mode settings may pending now :=
  fun later agree' => rest later (agree.trans agree')

theorem Rest.here (rest : Rest mode settings may pending db) (inv : Inv mode settings db) (id : Uuid) :
    Calm settings (may id) (locksOf pending) db (view db pending) id := rest db (.refl _ db) inv id

theorem Rest.start (db : Db) : Rest mode settings may [] db := by
  intro now _ inv id
  exact {
    absent := inv.absent id
    coherent := inv.coherent id
    kept := fun row present => ⟨row,present,.refl row,fun moved => absurd rfl moved⟩
    held := fun changed => absurd rfl changed
    told := fun changed => absurd rfl changed
    fresh := fun row key missing present => by simp [missing] at present
    frozen := fun row present _ => ⟨row.approvalsReceived,present⟩}

/-- What is read of a row holds of every later version of it. -/
def Seen (pending : List Write) (db : Db) (invocation : ToolInvocation) : Prop :=
  ∃ row, (view db pending).invocations.lookup invocation.id = some row ∧ Grown invocation row

/-- A row version that the transaction's own lock keeps. -/
def Owned (pending : List Write) (db : Db) (id : Uuid) (row : ToolInvocation) : Prop :=
  .invocation id ∈ locksOf pending ∧ (view db pending).invocations.lookup id = some row

theorem view_lookup_of_held (agree : Agree (locksOf pending) db now) {id : Uuid} (lock : .invocation id ∈ locksOf pending)
    (prefix' : List Write) : (view now prefix').invocations.lookup id = (view db prefix').invocations.lookup id := by
  rw [view_lookup,view_lookup,(agree.invocation id lock).1]

theorem Owned.follow {id : Uuid} {row : ToolInvocation} (owned : Owned pending db id row)
    (agree : Agree (locksOf pending) db now) : Owned pending now id row :=
  ⟨owned.1,(view_lookup_of_held agree owned.1 pending).trans owned.2⟩

theorem Seen.follow {invocation : ToolInvocation} (seen : Seen pending db invocation)
    (rest : Rest mode settings may pending db) (inv : Inv mode settings db)
    (agree : Agree (locksOf pending) db now) (inv' : Inv mode settings now) : Seen pending now invocation := by
  obtain ⟨row,present,grown⟩ := seen
  by_cases lock : Lock.invocation invocation.id ∈ locksOf pending
  · exact ⟨row,(view_lookup_of_held agree lock pending).trans present,grown⟩
  · have same : (view db pending).invocations.lookup invocation.id = db.invocations.lookup invocation.id :=
      by_contra fun changed => lock ((rest.here inv _).held changed)
    obtain ⟨middle,there,grown'⟩ := agree.kept _ row (same ▸ present)
    obtain ⟨last,found,grown'',_⟩ := (rest now agree inv' _).kept middle there
    exact ⟨last,found,grown.trans (grown'.trans grown'')⟩

theorem Rest.numbered (rest : Rest mode settings may pending db) (inv : Inv mode settings db) (id : Uuid) :
    ((view db pending).eventsOf id).map (·.sequence) = List.range' 1 ((view db pending).eventsOf id).length := by
  have calm := rest.here inv id
  cases found : (view db pending).invocations.lookup id with
  | none => simp [(calm.absent found).1]
  | some row => exact (calm.coherent row found).logged.numbered

theorem events_stay {id : Uuid} {locks : List Lock}
    (calm : Calm settings (may id) (locksOf pending) db (view db pending) id) (fewer : locksOf pending ⊆ locks)
    (lock : .event id (((view db pending).eventsOf id).length + 1) ∈ locks) (agree : Agree locks db now) :
    now.eventsOf id = db.eventsOf id := by
  by_cases told : (view db pending).eventsOf id = db.eventsOf id
  · exact agree.event id (told ▸ lock)
  · exact agree.event id (fewer (calm.told told))

theorem Rest.extend {new : List Write} (rest : Rest mode settings may pending db)
    (grow : ∀ now, Agree (locksOf (pending ++ new)) db now → Inv mode settings now →
      (∀ id, Calm settings (may id) (locksOf pending) now (view now pending) id) →
      ∀ id, Calm settings (may id) (locksOf (pending ++ new)) now (view now (pending ++ new)) id) :
    Rest mode settings may (pending ++ new) db := by
  intro now agree inv id
  have fewer : locksOf pending ⊆ locksOf (pending ++ new) := by simp
  exact grow now agree inv (rest now (agree.mono fewer) inv) id

def Updating (new : List Write) : Prop := ∀ row, .insertInvocation row ∉ new

theorem Updating.row {new : List Write} (updating : Updating new) (id : Uuid) (row : Option ToolInvocation) :
    (rowAfter new id row).map (·.toInvocationSnapshot) = row.map (·.toInvocationSnapshot) := by
  induction new generalizing row with
  | nil => rfl
  | cons write rest ih =>
    rw [rowAfter_cons,ih fun row member => updating row (.tail _ member)]
    cases write with
    | insertInvocation row => exact absurd (.head _) (updating row)
    | advance target progress => by_cases same : target = id <;> cases row <;> simp [Write.onRow,same]
    | receive target n => by_cases same : target = id <;> cases row <;> simp [Write.onRow,same]
    | _ => rfl

theorem Calm.untouched {id : Uuid} {new : List Write} (updating : Updating new)
    (calm : Calm settings (may id) (locksOf pending) db (view db pending) id)
    (row : ∀ row, rowAfter new id row = row) (events : eventsAdded new id = [])
    (approvals : approvalsAdded new id = []) :
    Calm settings (may id) (locksOf (pending ++ new)) db (view db (pending ++ new)) id := by
  have same : (view db (pending ++ new)).invocations.lookup id = (view db pending).invocations.lookup id := by
    simp [view_lookup,row]
  have sameEvents : (view db (pending ++ new)).eventsOf id = (view db pending).eventsOf id := by
    simp [view_eventsOf,events]
  have sameApprovals : (view db (pending ++ new)).approvalsOf id = (view db pending).approvalsOf id := by
    simp [view_approvalsOf,approvals]
  constructor
  · simpa [same,sameEvents,sameApprovals] using calm.absent
  · simpa [same,sameEvents,sameApprovals] using calm.coherent
  · simpa [same] using calm.kept
  · intro changed
    simpa using Or.inl (calm.held (same ▸ changed))
  · intro changed
    simpa using Or.inl (calm.told (sameEvents ▸ changed))
  · intro row key missing present under
    rw [same] at present
    have known := calm.fresh row key missing present under
    refine ⟨by simpa using Or.inl known.1,?_⟩
    intro other row' different there under'
    have snapshots := updating.row other ((view db pending).invocations.lookup other)
    rw [← rowAfter_append_view,there] at snapshots
    obtain ⟨old,found,same⟩ := Option.map_eq_some_iff.mp snapshots.symm
    exact known.2 other old different found ((congrArg InvocationSnapshot.idempotencyKey same).trans under')
  · simpa [same] using calm.frozen

/-- Updates that take one row from `before` to `after`. -/
theorem Calm.renew {id : Uuid} {new : List Write} {before : ToolInvocation} (after : ToolInvocation) (updating : Updating new)
    (calm : Calm settings (may id) (locksOf pending) db (view db pending) id)
    (was : (view db pending).invocations.lookup id = some before) (becomes : rowAfter new id (some before) = some after)
    (grown : Grown before after) (lock : after ≠ before → .invocation id ∈ locksOf (pending ++ new))
    (coherent : Coherent settings id after ((view db pending).eventsOf id ++ eventsAdded new id)
      ((view db pending).approvalsOf id ++ approvalsAdded new id))
    (told : eventsAdded new id ≠ [] → .event id ((db.eventsOf id).length + 1) ∈ locksOf (pending ++ new))
    (moves : ∀ row, db.invocations.lookup id = some row → row.state = before.state ∨ may id row.state before.state →
      after.state ≠ row.state → may id row.state after.state)
    (frozen : ∀ row n, db.invocations.lookup id = some row → row.state.Terminal → before = row.receive n →
      ∃ m, after = row.receive m) :
    Calm settings (may id) (locksOf (pending ++ new)) db (view db (pending ++ new)) id := by
  have now : (view db (pending ++ new)).invocations.lookup id = some after := by
    rw [rowAfter_append_view,was,becomes]
  have events : (view db (pending ++ new)).eventsOf id = (view db pending).eventsOf id ++ eventsAdded new id := by
    simp [view_eventsOf]
  have approvals : (view db (pending ++ new)).approvalsOf id =
      (view db pending).approvalsOf id ++ approvalsAdded new id := by
    simp [view_approvalsOf]
  constructor
  · simp [now]
  · intro row present
    cases Option.some.inj (now.symm.trans present)
    rw [events,approvals]
    exact coherent
  · intro row present
    obtain ⟨row',there,grown',moved⟩ := calm.kept row present
    cases Option.some.inj (there.symm.trans was)
    refine ⟨after,now,grown'.trans grown,moves row present ?_⟩
    by_cases same : before.state = row.state
    · exact .inl same.symm
    · exact .inr (moved same)
  · intro changed
    by_cases same : after = before
    · have old : (view db pending).invocations.lookup id ≠ db.invocations.lookup id := by
        rw [now,same,← was] at changed
        exact changed
      simpa using Or.inl (calm.held old)
    · exact lock same
  · intro changed
    by_cases none : eventsAdded new id = []
    · simpa using Or.inl (calm.told (by simpa [events,none] using changed))
    · exact told none
  · intro row key missing present under
    cases Option.some.inj (now.symm.trans present)
    have known := calm.fresh before key missing was (by rw [← under,grown.snapshot])
    refine ⟨by simpa using Or.inl known.1,?_⟩
    intro other row' different there under'
    have snapshots := updating.row other ((view db pending).invocations.lookup other)
    rw [← rowAfter_append_view,there] at snapshots
    obtain ⟨old,found,same⟩ := Option.map_eq_some_iff.mp snapshots.symm
    exact known.2 other old different found ((congrArg InvocationSnapshot.idempotencyKey same).trans under')
  · intro row present terminal
    obtain ⟨n,there⟩ := calm.frozen row present terminal
    obtain ⟨m,same⟩ := frozen row n present terminal (Option.some.inj (was.symm.trans there))
    exact ⟨m,now.trans (congrArg some same)⟩

structure About (id : Uuid) (new : List Write) : Prop where
  updating : Updating new
  rows : ∀ other, other ≠ id → ∀ row, rowAfter new other row = row
  events : ∀ other, other ≠ id → eventsAdded new other = []
  approvals : ∀ other, other ≠ id → approvalsAdded new other = []

theorem Rest.about {id : Uuid} {new : List Write} (about : About id new) (rest : Rest mode settings may pending db)
    (grow : ∀ now, Agree (locksOf (pending ++ new)) db now → Inv mode settings now →
      Calm settings (may id) (locksOf pending) now (view now pending) id →
      Calm settings (may id) (locksOf (pending ++ new)) now (view now (pending ++ new)) id) :
    Rest mode settings may (pending ++ new) db := by
  refine rest.extend ?_
  intro now agree inv calm other
  by_cases same : other = id
  · subst same
    exact grow now agree inv (calm other)
  · exact (calm other).untouched about.updating (about.rows other same) (about.events other same)
      (about.approvals other same)

theorem About.note (event : ToolInvocationEvent) : About event.invocationId [.insertEvent event] where
  updating := by simp [Updating]
  rows := by simp [Write.onRow]
  events := fun other different => by simp [Write.eventsOn,Ne.symm different]
  approvals := by simp [Write.approvalsOn]

theorem About.advance (id : Uuid) (progress : InvocationProgress) : About id [.advance id progress] where
  updating := by simp [Updating]
  rows := fun other different => by simp [Write.onRow,Ne.symm different]
  events := by simp [Write.eventsOn]
  approvals := by simp [Write.approvalsOn]

theorem About.receive (id : Uuid) (n : Nat) : About id [.receive id n] where
  updating := by simp [Updating]
  rows := fun other different => by simp [Write.onRow,Ne.symm different]
  events := by simp [Write.eventsOn]
  approvals := by simp [Write.approvalsOn]

theorem About.decision (approval : ToolApproval) : About approval.invocationId [.insertApproval approval] where
  updating := by simp [Updating]
  rows := by simp [Write.onRow]
  events := by simp [Write.eventsOn]
  approvals := fun other different => by simp [Write.approvalsOn,Ne.symm different]

theorem About.append {id : Uuid} {first second : List Write} (one : About id first) (two : About id second) :
    About id (first ++ second) where
  updating := by
    intro row member
    exact (List.mem_append.mp member).elim (one.updating row) (two.updating row)
  rows := fun other different row => by simp [one.rows other different,two.rows other different]
  events := fun other different => by simp [one.events other different,two.events other different]
  approvals := fun other different => by simp [one.approvals other different,two.approvals other different]

theorem Rest.note (rest : Rest mode settings may pending db) (inv : Inv mode settings db)
    {event : ToolInvocationEvent} {row : ToolInvocation}
    (present : (view db pending).invocations.lookup event.invocationId = some row)
    (numbered : event.sequence = ((view db pending).eventsOf event.invocationId).length + 1)
    (note : event.fromState = some event.toState) : Rest mode settings may (pending ++ [.insertEvent event]) db := by
  refine rest.about (.note event) ?_
  intro now agree inv' calm
  have stay : now.eventsOf event.invocationId = db.eventsOf event.invocationId :=
    events_stay (rest.here inv _) (by simp) (by simp [Write.locks,numbered]) agree
  have same : (view now pending).eventsOf event.invocationId = (view db pending).eventsOf event.invocationId := by
    simp [view_eventsOf,stay]
  obtain ⟨row',there⟩ : ∃ row', (view now pending).invocations.lookup event.invocationId = some row' := by
    by_contra missing
    have gone : (view now pending).invocations.lookup event.invocationId = none :=
      Option.eq_none_iff_forall_ne_some.mpr fun row' there => missing ⟨row',there⟩
    have silent := (calm.absent gone).1
    rw [same] at silent
    exact ((rest.here inv _).coherent row present).logged.ne_nil silent
  have coherent := calm.coherent row' there
  refine calm.renew row' (About.note event).updating there (by simp [Write.onRow]) (.refl _) (fun changed => absurd rfl changed)
    ?_ ?_ ?_ ?_
  · exact {coherent with
      logged := by simpa [Write.eventsOn] using coherent.logged.note event (by rw [numbered,same]) note
      received := by simpa [Write.approvalsOn] using coherent.received
      decided := by simpa [Write.approvalsOn] using coherent.decided}
  · intro _
    by_cases told : (view now pending).eventsOf event.invocationId = now.eventsOf event.invocationId
    · simp [Write.locks,numbered,← told,same]
    · simpa using Or.inl (calm.told told)
  · intro row present moved changed
    exact moved.resolve_left (Ne.symm changed)
  · exact fun row n _ _ same => ⟨n,same⟩

theorem Rest.move (rest : Rest mode settings may pending db) {id : Uuid} {before : ToolInvocation}
    {progress : InvocationProgress} {event : ToolInvocationEvent}
    (was : (view db pending).invocations.lookup id = some before)
    (legal : InvocationState.IsLegalTransition before.state progress.state)
    (checked : (before.advance progress).violation = none)
    (allowed : ∀ state, state.Steady → state = before.state ∨ may id state before.state → may id state progress.state)
    (agree : Agree (locksOf (pending ++ [.advance id progress])) db now) (inv : Inv mode settings now)
    (own : event.invocationId = id)
    (numbered : event.sequence = ((view now (pending ++ [.advance id progress])).eventsOf id).length + 1)
    (left : event.fromState = some before.state) (moved : event.toState = progress.state) :
    Rest mode settings may (pending ++ [.advance id progress,.insertEvent event]) now := by
  subst own
  have fewer : locksOf pending ⊆ locksOf (pending ++ [.advance event.invocationId progress]) := by simp
  have rest := rest.follow (agree.mono fewer)
  have was : (view now pending).invocations.lookup event.invocationId = some before :=
    (view_lookup_of_held agree (by simp [Write.locks]) pending).trans was
  have numbered : event.sequence = ((view now pending).eventsOf event.invocationId).length + 1 := by
    simpa [view_eventsOf,Write.eventsOn] using numbered
  refine rest.about ((About.advance _ progress).append (.note event)) ?_
  intro later agree' inv' calm
  have stay : later.eventsOf event.invocationId = now.eventsOf event.invocationId :=
    events_stay (rest.here inv _) (by simp) (by simp [Write.locks,numbered]) agree'
  have same : (view later pending).eventsOf event.invocationId = (view now pending).eventsOf event.invocationId := by
    simp [view_eventsOf,stay]
  have was : (view later pending).invocations.lookup event.invocationId = some before := by
    rw [view_lookup,(agree'.invocation event.invocationId (by simp [Write.locks])).1,← view_lookup,was]
  have coherent := calm.coherent before was
  refine calm.renew (before.advance progress) ((About.advance _ progress).append (.note event)).updating was
    (by simp [Write.onRow]) ⟨rfl,rfl,rfl,.single legal⟩
    (fun _ => by simp [Write.locks]) ?_ ?_ ?_ ?_
  · exact {
      keyed := coherent.keyed
      checked
      logged := by
        have logged := coherent.logged.move event (by rw [numbered,same]) left (moved ▸ legal)
        simpa [Write.eventsOn,moved] using logged
      received := by simpa [Write.approvalsOn] using coherent.received
      decided := by simpa [Write.approvalsOn] using coherent.decided}
  · intro _
    by_cases told : (view later pending).eventsOf event.invocationId = later.eventsOf event.invocationId
    · simp [Write.locks,numbered,← told,same]
    · simpa using Or.inl (calm.told told)
  · exact fun row present reached _ => allowed row.state (inv'.steady _ row present) reached
  · intro row n _ terminal received
    exact absurd (by rw [received]; exact terminal) (legal_leaves legal)

theorem Rest.gate (rest : Rest mode settings may pending db) {id : Uuid} {before : ToolInvocation}
    {progress : InvocationProgress} (was : (view db pending).invocations.lookup id = some before)
    (still : progress.state = before.state) (running : ¬ before.state.Terminal)
    (checked : (before.advance progress).violation = none) :
    Rest mode settings may (pending ++ [.advance id progress]) db := by
  refine rest.about (.advance id progress) ?_
  intro now agree inv calm
  have was : (view now pending).invocations.lookup id = some before := by
    rw [view_lookup,(agree.invocation id (by simp [Write.locks])).1,← view_lookup,was]
  have coherent := calm.coherent before was
  have reached : Reaches before.state progress.state := still ▸ .refl
  refine calm.renew (before.advance progress) (About.advance id progress).updating was
    (by simp [Write.onRow]) ⟨rfl,rfl,rfl,reached⟩ (fun _ => by simp [Write.locks]) ?_ ?_ ?_ ?_
  · exact {
      keyed := coherent.keyed
      checked
      logged := by simpa [Write.eventsOn,still] using coherent.logged
      received := by simpa [Write.approvalsOn] using coherent.received
      decided := by simpa [Write.approvalsOn] using coherent.decided}
  · simp [Write.eventsOn]
  · intro row _ reached changed
    simp only [ToolInvocation.advance_progress,still] at changed ⊢
    exact reached.resolve_left (Ne.symm changed)
  · intro row n _ terminal received
    exact absurd (by rw [received]; exact terminal) running

theorem Rest.receive (rest : Rest mode settings may pending db) {id : Uuid} {before : ToolInvocation} {n : Nat}
    (was : (view db pending).invocations.lookup id = some before) (checked : (before.receive n).violation = none)
    (counted : n ≤ approverCount ((view db pending).approvalsOf id)) :
    Rest mode settings may (pending ++ [.receive id n]) db := by
  refine rest.about (.receive id n) ?_
  intro now agree inv calm
  have kept := agree.invocation id (by simp [Write.locks])
  have was : (view now pending).invocations.lookup id = some before := by
    rw [view_lookup,kept.1,← view_lookup,was]
  have same : (view now pending).approvalsOf id = (view db pending).approvalsOf id := by
    simp [view_approvalsOf,kept.2]
  have coherent := calm.coherent before was
  refine calm.renew (before.receive n) (About.receive id n).updating was
    (by simp [Write.onRow]) ⟨rfl,rfl,rfl,.refl⟩ (fun _ => by simp [Write.locks]) ?_ ?_ ?_ ?_
  · exact {
      keyed := coherent.keyed
      checked
      logged := by simpa [Write.eventsOn] using coherent.logged
      received := by simpa [Write.approvalsOn,same] using counted
      decided := by simpa [Write.approvalsOn] using coherent.decided}
  · simp [Write.eventsOn]
  · intro row _ reached changed
    exact reached.resolve_left (Ne.symm changed)
  · rintro row m _ _ rfl
    exact ⟨n,rfl⟩

theorem approverCount_mono {first second : List ToolApproval} (more : first ⊆ second) :
    approverCount first ≤ approverCount second := by
  unfold approverCount distinctApprovers
  refine Finset.card_le_card ?_
  intro subject member
  simp only [List.mem_toFinset,List.mem_map,approvedAmong,List.mem_filter] at member ⊢
  obtain ⟨approval,⟨there,approved⟩,same⟩ := member
  exact ⟨approval,⟨more there,approved⟩,same⟩

theorem Rest.decision (rest : Rest mode settings may pending db) (inv : Inv mode settings db)
    {approval : ToolApproval} {row : ToolInvocation}
    (present : (view db pending).invocations.lookup approval.invocationId = some row)
    (decided : Decided settings row.toInvocationSnapshot approval) :
    Rest mode settings may (pending ++ [.insertApproval approval]) db := by
  have id : row.id = approval.invocationId := ((rest.here inv _).coherent row present).keyed
  have seen : Seen pending db row := ⟨row,by rw [id]; exact present,.refl row⟩
  refine rest.about (.decision approval) ?_
  intro now agree inv' calm
  obtain ⟨row',there,grown⟩ := seen.follow rest inv (agree.mono (by simp)) inv'
  rw [id] at there
  have coherent := calm.coherent row' there
  refine calm.renew row' (About.decision approval).updating there (by simp [Write.onRow]) (.refl _)
    (fun changed => absurd rfl changed) ?_ (by simp [Write.eventsOn]) ?_ ?_
  · exact {coherent with
      logged := by simpa [Write.eventsOn] using coherent.logged
      received := coherent.received.trans (approverCount_mono (List.subset_append_left _ _))
      decided := by
        intro other member
        rcases List.mem_append.mp member with old | new
        · exact coherent.decided other old
        · have same : other = approval := by simpa [Write.approvalsOn] using new
          rw [same,grown.snapshot]
          exact decided}
  · intro row present moved changed
    exact moved.resolve_left (Ne.symm changed)
  · exact fun row n _ _ same => ⟨n,same⟩

theorem Rest.creation {row : ToolInvocation} {event : ToolInvocationEvent}
    (missing : db.invocations.lookup row.id = none) (requested : row.state = .requested)
    (unreceived : row.approvalsReceived = 0) (checked : row.violation = none)
    (unique : ∀ key, row.idempotencyKey = some key → ∀ other row', db.invocations.lookup other = some row' →
      row'.idempotencyKey ≠ some key)
    (agree : Agree (locksOf [.insertInvocation row]) db now) (inv' : Inv mode settings now)
    (own : event.invocationId = row.id)
    (numbered : event.sequence = ((view now [.insertInvocation row]).eventsOf row.id).length + 1)
    (born : event.fromState = none) (created : event.toState = .requested) :
    Rest mode settings may [.insertInvocation row,.insertEvent event] now := by
  intro later agree' inv'' id
  have both : Agree (locksOf [.insertInvocation row]) db later := agree.trans (agree'.mono (by simp))
  have absent : later.invocations.lookup row.id = none := by
    rw [(both.invocation row.id (by simp [Write.locks])).1,missing]
  have silent := inv''.absent row.id absent
  have lookup : ∀ other, (view later [.insertInvocation row,.insertEvent event]).invocations.lookup other =
      if row.id = other then some row else later.invocations.lookup other := by
    intro other
    simp [view_lookup,Write.onRow]
  have foreign : ∀ key, row.idempotencyKey = some key → ∀ other row', later.invocations.lookup other = some row' →
      row'.idempotencyKey ≠ some key := by
    intro key under other row' there under'
    obtain ⟨old,found⟩ := both.key key (by simp [Write.locks,under]) other row' there under'
    obtain ⟨row'',there',grown⟩ := both.kept other old found
    cases Option.some.inj (there'.symm.trans there)
    exact unique key under other old found (by rw [← under',grown.snapshot])
  by_cases same : row.id = id
  · subst same
    have first : event.sequence = 1 := by
      have kept := inv'.absent row.id (by rw [(agree.invocation row.id (by simp [Write.locks])).1,missing])
      simpa [view_eventsOf,Write.eventsOn,kept.1] using numbered
    have events : (view later [.insertInvocation row,.insertEvent event]).eventsOf row.id = [event] := by
      simp [view_eventsOf,Write.eventsOn,silent.1,own]
    have approvals : (view later [.insertInvocation row,.insertEvent event]).approvalsOf row.id = [] := by
      simp [view_approvalsOf,Write.approvalsOn,silent.2]
    constructor
    · simp [lookup]
    · intro row' present
      have this : row = row' := by simpa [lookup] using present
      subst this
      rw [events,approvals]
      exact ⟨rfl,checked,requested ▸ .creation event first born created,by simp [unreceived],by simp⟩
    · simp [absent]
    · simp [Write.locks]
    · intro _
      simp [Write.locks,silent.1,first,own]
    · intro row' key _ present under
      have this : row = row' := by simpa [lookup] using present
      subst this
      refine ⟨by simp [Write.locks,under],?_⟩
      intro other row' different there
      rw [lookup,if_neg (Ne.symm different)] at there
      exact foreign key under other row' there
    · simp [absent]
  · have events : (view later [.insertInvocation row,.insertEvent event]).eventsOf id = later.eventsOf id := by
      simp [view_eventsOf,Write.eventsOn,own,same]
    have approvals : (view later [.insertInvocation row,.insertEvent event]).approvalsOf id = later.approvalsOf id := by
      simp [view_approvalsOf,Write.approvalsOn]
    have alone : (view later [.insertInvocation row,.insertEvent event]).invocations.lookup id =
        later.invocations.lookup id := by rw [lookup,if_neg same]
    constructor
    · simpa [alone,events,approvals] using inv''.absent id
    · simpa [alone,events,approvals] using inv''.coherent id
    · intro row' present
      exact ⟨row',alone.trans present,.refl row',fun moved => absurd rfl moved⟩
    · exact fun changed => absurd alone changed
    · exact fun changed => absurd events changed
    · intro row' key missing' present
      simp [alone,missing'] at present
    · exact fun row' present _ => ⟨row'.approvalsReceived,alone.trans present⟩

theorem Rest.aside {new : List Write} (rest : Rest mode settings may pending db) (updating : Updating new)
    (rows : ∀ id row, rowAfter new id row = row) (events : ∀ id, eventsAdded new id = [])
    (approvals : ∀ id, approvalsAdded new id = []) : Rest mode settings may (pending ++ new) db :=
  rest.extend fun _ _ _ calm id => (calm id).untouched updating (rows id) (events id) (approvals id)

end

end Acop
