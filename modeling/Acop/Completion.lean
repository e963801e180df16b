import Acop.Conduct

/-! When a transaction may commit: the writes of upkeep that end in a steady state,
and an operation on one invocation that finishes it. -/
namespace Acop

open Acop.Transaction

/-- Writes that record no decision and create nothing. -/
def Upkeep (pending : List Write) : Prop :=
  ∀ write ∈ pending, match write with
    | .insertInvocation _ | .receive _ _ | .insertApproval _ => False
    | _ => True

section

variable {pending new : List Write}

theorem Upkeep.nil : Upkeep [] := by simp [Upkeep]

theorem Upkeep.append (upkeep : Upkeep pending) (more : Upkeep new) : Upkeep (pending ++ new) := by
  intro write member
  exact (List.mem_append.mp member).elim (upkeep write) (more write)

theorem Upkeep.updating (upkeep : Upkeep pending) : Updating pending := fun _ member => upkeep _ member

theorem Upkeep.approvals (upkeep : Upkeep pending) (id : Uuid) : approvalsAdded pending id = [] := by
  simp only [approvalsAdded,List.flatMap_eq_nil_iff]
  intro write member
  have kind := upkeep write member
  cases write <;> first | rfl | exact kind.elim

theorem Upkeep.received (upkeep : Upkeep pending) (id : Uuid) (row : Option ToolInvocation) :
    (rowAfter pending id row).map (·.approvalsReceived) = row.map (·.approvalsReceived) := by
  induction pending generalizing row with
  | nil => rfl
  | cons write rest ih =>
    rw [rowAfter_cons,ih fun write member => upkeep write (.tail _ member)]
    have kind := upkeep write (.head _)
    cases write with
    | insertInvocation row => exact kind.elim
    | receive target n => exact kind.elim
    | advance target progress => by_cases same : target = id <;> cases row <;> simp [Write.onRow,same]
    | _ => rfl

end

theorem early_of_legal : ∀ source target, InvocationState.IsLegalTransition source target →
    target ∈ [.requested,.authorized,.awaitingApproval] →
      source ∈ [InvocationState.requested,.authorized,.awaitingApproval] := by
  decide +kernel

theorem steady_awaiting {state : InvocationState} (steady : state.Steady) (reaches : Reaches state .awaitingApproval) :
    state = .awaitingApproval := by
  have early : state ∈ [.requested,.authorized,.awaitingApproval] := by
    clear steady
    induction reaches using Relation.ReflTransGen.head_induction_on with
    | refl => decide
    | head step _ ih => exact early_of_legal _ _ step ih
  cases state <;> first | rfl | exact absurd early (by decide) | exact absurd steady (by decide)

section

variable {mode : Mode} {runtime : Runtime} {settings : Settings}
  {may : Uuid → InvocationState → InvocationState → Prop} {pending : List Write} {db now : Db}
  {past past' : List (Happening runtime)} {op : Op runtime} {α : Type}
  {good : α → List Write → Db → List (Happening runtime) → Prop}
  {bad : Fault → List Write → Db → List (Happening runtime) → Prop}

theorem Upkeep.final (upkeep : Upkeep pending) (inv : Inv mode settings db)
    {id : Uuid} (calm : Calm settings (may id) (locksOf pending) db (view db pending) id)
    (steady : ∀ row, (view db pending).invocations.lookup id = some row → row.state.Steady) :
    Final mode (locksOf pending) db (view db pending) id := by
  have approvals : (view db pending).approvalsOf id = db.approvalsOf id := by
    simp [view_approvalsOf,upkeep.approvals]
  have before : ∀ row, (view db pending).invocations.lookup id = some row →
      ∃ old, db.invocations.lookup id = some old ∧ Grown old row ∧ row.approvalsReceived = old.approvalsReceived := by
    intro row present
    have received := upkeep.received id (db.invocations.lookup id)
    rw [← view_lookup,present] at received
    obtain ⟨old,found,same⟩ := Option.map_eq_some_iff.mp received.symm
    obtain ⟨row',there,grown,_⟩ := calm.kept old found
    cases Option.some.inj (there.symm.trans present)
    exact ⟨old,found,grown,same.symm⟩
  constructor
  · exact steady
  · intro row present approval member refused
    obtain ⟨old,found,grown,_⟩ := before row present
    have denied := inv.denied id old found approval (approvals ▸ member) refused
    rw [terminal_stays (by rw [denied]; decide) grown.reaches,denied]
  · exact fun changed => absurd approvals changed
  · intro promise row present awaiting
    obtain ⟨old,found,grown,received⟩ := before row present
    have awaited := steady_awaiting (inv.steady id old found) (awaiting ▸ grown.reaches)
    have counted := inv.counted promise id old found awaited
    rw [received,approvals,show row.minApprovals = old.minApprovals from
      congrArg InvocationSnapshot.minApprovals grown.snapshot]
    exact counted
  · intro _ row present terminal
    obtain ⟨n,there⟩ := calm.frozen row present terminal
    obtain ⟨old,found,_,received⟩ := before _ there
    cases Option.some.inj (found.symm.trans present)
    rw [there]
    exact congrArg some (by rw [show n = row.approvalsReceived from received]; rfl)

theorem Final.untouched {id : Uuid} (inv : Inv mode settings db)
    (row : (view db pending).invocations.lookup id = db.invocations.lookup id)
    (approvals : (view db pending).approvalsOf id = db.approvalsOf id) :
    Final mode (locksOf pending) db (view db pending) id := by
  constructor
  · simpa only [row] using inv.steady id
  · simpa only [row,approvals] using inv.denied id
  · exact fun changed => absurd approvals changed
  · simpa only [row,approvals] using fun promise => inv.counted promise id
  · intro _ old present _
    rw [row,present]

/-- An operation under way on one invocation. -/
structure Working (mode : Mode) (settings : Settings) (op : Op runtime) (id : Uuid) (pending : List Write) (db : Db)
    (past : List (Happening runtime)) : Prop where
  began : Began past op
  unasked : Unasked past
  rest : Rest mode settings op.May pending db
  about : About id pending

theorem Working.start (op : Op runtime) (id : Uuid) (db : Db) : Working mode settings op id [] db [.start op] where
  began := rfl
  unasked := by simp [Unasked]
  rest := .start db
  about := ⟨by simp [Updating],fun _ _ _ => rfl,fun _ _ => rfl,fun _ _ => rfl⟩

theorem Working.call {id : Uuid} (working : Working mode settings op id pending db past)
    (agree : Agree (locksOf pending) db now) (stmt : Stmt) (routine : stmt.Routine) (reply : Reply stmt) :
    Working mode settings op id pending now (past ++ [.call stmt reply now]) where
  began := (Onward.one stmt routine reply now).began working.began
  unasked := working.unasked.onward (.one stmt routine reply now)
  rest := working.rest.follow agree
  about := working.about

theorem Working.grow {id : Uuid} {new : List Write}
    (working : Working mode settings op id pending db past)
    (rest : Rest mode settings op.May (pending ++ new) now) (about : About id new) (onward : Onward past past') :
    Working mode settings op id (pending ++ new) now past' where
  began := onward.began working.began
  unasked := working.unasked.onward onward
  rest := rest
  about := working.about.append about

theorem Moved.working {invocation before row : ToolInvocation}
    {move : Transition} {pending' : List Write} {id : Uuid} (moved : Moved invocation move pending pending' now before row)
    (working : Working mode settings op id pending db past) (own : invocation.id = id)
    (rest : Rest mode settings op.May pending' now) (onward : Onward past past') :
    Working mode settings op id pending' now past' := by
  obtain ⟨event,about,rfl⟩ := moved.writes
  subst own
  exact working.grow rest ((About.advance _ _).append (about ▸ .note event)) onward

/-- An operation on one invocation that may commit. -/
structure Complete (mode : Mode) (settings : Settings) (op : Op runtime) (id : Uuid) (pending : List Write) (db : Db)
    (past : List (Happening runtime)) : Prop where
  working : Working mode settings op id pending db past
  final : ∀ now, Agree (locksOf pending) db now → Inv mode settings now →
    Final mode (locksOf pending) now (view now pending) id

theorem Moved.upkeep {invocation before row : ToolInvocation} {move : Transition} {pending' : List Write}
    (moved : Moved invocation move pending pending' now before row) :
    ∃ new, pending' = pending ++ new ∧ Upkeep new ∧ About invocation.id new := by
  obtain ⟨event,own,rfl⟩ := moved.writes
  exact ⟨_,rfl,by simp [Upkeep],(About.advance _ _).append (own ▸ .note event)⟩

theorem Complete.commit {id : Uuid} {rest : Unit → Service α}
    (complete : Complete mode settings op id pending db past)
    (ok : ∀ now, Agree (locksOf pending) db now → Inv mode settings now →
      Ok mode settings good bad (rest ()) [] (view now pending) (past ++ [.commit pending now])) :
    Ok mode settings good bad (Program.commitNow >>= rest) pending db past := by
  obtain ⟨working,final⟩ := complete
  refine ok_commit fun now agree inv => ?_
  have calm := working.rest now agree inv
  refine ⟨fun other => ⟨(calm other).unbounded,?_⟩,?_,ok now agree inv⟩
  · by_cases same : other = id
    · subst same
      exact final now agree inv
    · refine Final.untouched inv ?_ ?_
      · rw [view_lookup,working.about.rows other same]
      · rw [view_approvalsOf,working.about.approvals other same,List.append_nil]
  exact {
    moved := by
      intro other row row' present present' changed
      obtain ⟨row'',there,_,moved⟩ := (calm other).kept row present
      cases Option.some.inj (there.symm.trans present')
      exact ⟨op,working.began,moved changed⟩
    created := by
      intro other row missing present
      have snapshots := working.about.updating.row other (now.invocations.lookup other)
      rw [← view_lookup,present,missing] at snapshots
      cases snapshots
    replayed := fun key existing seen member => absurd member (working.unasked key _ seen)}

theorem Complete.of_upkeep {id : Uuid} {row : ToolInvocation}
    (working : Working mode settings op id pending db past) (upkeep : Upkeep pending)
    (owned : Owned pending db id row) (steady : row.state.Steady) : Complete mode settings op id pending db past := by
  refine ⟨working,fun now agree inv => upkeep.final inv (working.rest now agree inv id) ?_⟩
  intro row' present
  cases Option.some.inj ((owned.follow agree).2.symm.trans present)
  exact steady

theorem Complete.of_notes {id : Uuid} (working : Working mode settings op id pending db past)
    (rows : ∀ row, rowAfter pending id row = row) (approvals : approvalsAdded pending id = []) :
    Complete mode settings op id pending db past := by
  refine ⟨working,fun now _ inv => Final.untouched inv ?_ ?_⟩
  · rw [view_lookup,rows]
  · rw [view_approvalsOf,approvals,List.append_nil]

end

end Acop
