import Acop.Regime

/-! A laboratory to run concrete interleavings in: one tool that needs two
approvals and one that needs none, both validated, acting on a named box. -/
namespace Acop

open Acop.Transaction

def zeros : String := String.ofList (List.replicate 64 '0')

theorem zeros_length : zeros.length = 64 := String.length_ofList.trans List.length_replicate

theorem zeros_plain : ∀ char ∈ zeros.toList, char = '0' := by
  intro char member
  have same : zeros.toList = List.replicate 64 '0' := String.toList_ofList
  exact List.eq_of_mem_replicate (same ▸ member)

def labRuntime : Runtime where
  sha256 := fun _ => zeros
  floatRepr := fun seconds => toString seconds.num ++ "/" ++ toString seconds.den
  isoformat := fun moment => toString moment
  isDecimal := fun char => '0' ≤ char && char ≤ '9'
  sortable := fun _ => true
  sha256_length := fun _ => zeros_length
  sha256_plain := by
    intro _ char member
    rw [zeros_plain char member]
    decide
  sortable_strings := fun _ => rfl

def emptyModel : PydanticModel where
  modelValidate := fun _ => .valid []
  modelJsonSchema := [("type",.str "object"),("additionalProperties",.bool false)]
  modelFields := ∅

def setBox : ToolDefinition where
  toolName := "lab.box.set"
  toolVersion := "1.0"
  permissionClass := .class2LowRiskChange
  inputModel := emptyModel
  outputModel := emptyModel
  adapterId := "lab"
  requiredRoles := {"operator"}
  targetType := .externalRef
  approvalPolicy := {approvalRequired := true, minApprovals := 2, distinctApproversRequired := true}
  validationRequired := true
  idempotency := .keyed

def probeBox : ToolDefinition where
  toolName := "lab.box.probe"
  toolVersion := "1.0"
  permissionClass := .class1ReadOnly
  inputModel := emptyModel
  outputModel := emptyModel
  adapterId := "lab"
  requiredRoles := {"viewer"}
  targetType := .externalRef
  validationRequired := true

theorem accepted_of_toBool {Refusal : Type} (result : Except Refusal Unit) (passed : result.toBool = true) :
    result = .ok () := by
  cases result with
  | ok value => rfl
  | error fault => cases passed

def labProcess : Process labRuntime where
  adapters := {"lab"}
  definitions := [setBox,probeBox]
  declared := by
    intro definition member
    simp only [List.mem_cons,List.not_mem_nil,or_false] at member
    rcases member with rfl | rfl
    · exact accepted_of_toBool _ (by decide +kernel)
    · exact accepted_of_toBool _ (by decide +kernel)
  distinct := by decide +kernel

def labRegistration (id : Uuid) (toolName : String) : ToolRegistration where
  id
  toolName
  toolVersion := "1.0"
  contractHash := ""

def labDb : Db where
  invocations := ∅
  registrations := ((∅ : AList fun _ : Uuid => ToolRegistration).insert 7 (labRegistration 7 "lab.box.set")).insert 8
    (labRegistration 8 "lab.box.probe")
  assets := ∅
  identifiers := []
  approvals := []
  events := []
  reconciliations := []

def labSettings : Settings := ⟨"lab",false,60,2⟩

def person (subject : String) (roles : Finset String) : Principal := ⟨subject,.human,"lab",.apiKey,roles⟩

def boxRequest (toolName : String) (idempotencyKey : Option String) : InvocationRequest where
  toolName
  toolVersion := "1.0"
  arguments := []
  targetRef := some [("name",.str "box")]
  idempotencyKey

theorem labDb_fresh : labDb.Fresh where
  invocations := rfl
  events := rfl
  approvals := rfl
  keyed := by
    refine ⟨by simp [labDb],?_⟩
    intro id row found
    by_cases second : id = 8
    · subst second
      cases Option.some.inj (found.symm.trans (AList.lookup_insert _))
      rfl
    · rw [labDb,AList.lookup_insert_ne second] at found
      by_cases first : id = 7
      · subst first
        cases Option.some.inj (found.symm.trans (AList.lookup_insert _))
        rfl
      · rw [AList.lookup_insert_ne first] at found
        simp at found

abbrev Laboratory := World Reply Fault Answer (Op labRuntime) Db Write

abbrev LabMove := Move (Op labRuntime) Input

def calls (id : Nat) (inputs : List Input) : List LabMove := inputs.map (.call id)

/-- A `create` by one requester, from its start to its answer. -/
def requested (session : Nat) (toolName : String) (idempotencyKey : Option String) (invocation : Uuid) : List LabMove :=
  .start session (.create labProcess (boxRequest toolName idempotencyKey) (person "ann" {"operator"})) ::
    calls session (List.replicate (if idempotencyKey.isSome then 14 else 13) {uuid := invocation}) ++
    [.commit session,.finish session]

section

variable (regime : (acop labRuntime labSettings).Regime) [∀ w move, Decidable (regime w move)]

def labRun (moves : List LabMove) : Option Laboratory := (acop labRuntime labSettings).run regime (.initial labDb) moves

variable {regime}

theorem labRun_get {moves : List LabMove} {seen : Laboratory → Bool} (ran : (labRun regime moves).any seen = true) :
    (acop labRuntime labSettings).Reachable regime labDb ((labRun regime moves).get (Option.isSome_of_any ran)) ∧
      seen ((labRun regime moves).get (Option.isSome_of_any ran)) = true :=
  ⟨System.steps_of_run _ _ _ _ (Option.some_get _).symm,Option.get_of_any_eq_true seen _ ran⟩

theorem labRun_reached {moves : List LabMove} {seen : Laboratory → Bool} (ran : (labRun regime moves).any seen = true) : ∃ w,
    (acop labRuntime labSettings).Reachable regime labDb w ∧ seen w = true := ⟨_,labRun_get ran⟩

theorem began_of_run {id : Nat} {op : Op labRuntime} {first moves : List LabMove} {w w' : Laboratory}
    (ran : (acop labRuntime labSettings).run regime w (first ++ .start id op::moves) = some w') : Began (history w'.trace id) op := by
  induction first generalizing w with
  | nil =>
    rw [List.nil_append] at ran
    unfold System.run at ran
    split at ran
    · obtain ⟨middle,started,rest⟩ := Option.bind_eq_some_iff.mp ran
      have begun : history middle.trace id = [.start op] := by
        cases System.fires_of_next _ _ _ _ started with
        | start id op absent unused => simp [history_unused unused]
      obtain ⟨more,same⟩ := System.grows_of_steps _ (System.steps_of_run _ _ _ _ rest)
      rw [Began,← same,history_append,begun]
      rfl
    · cases ran
  | cons move first ih =>
    rw [List.cons_append] at ran
    unfold System.run at ran
    split at ran
    · obtain ⟨middle,_,rest⟩ := Option.bind_eq_some_iff.mp ran
      exact ih rest
    · cases ran

end

/-- One session claimed, heard of the adapter's success, began to validate and was lost. -/
def lostInValidation (session : Nat) (w : Laboratory) : Bool :=
  let events := history w.trace session
  (events.any fun event => match event with
    | .call (.adapterExecute _ _) (.result result) _ => result.outcome = .success
    | _ => false) &&
  (events.any fun event => match event with
    | .call (.compareAndSet _ _ .validating _ _) (.ok true) _ => true
    | _ => false) &&
  events.any fun event => match event with
    | .crash => true
    | _ => false

/-- The claim of a worker that read a READY row did not match it. -/
def outrun (session : Nat) (w : Laboratory) : Bool :=
  (history w.trace session).any fun event => match event with
    | .call (.claimReady _ _ _ _ _) (.ok false) _ => true
    | _ => false

/-- Two workers go for one validated probe. The one that claims it is lost while it validates; the lease
expires and the reaper sweeps. -/
def lostProbe : List LabMove :=
  requested 0 "lab.box.probe" none 1 ++
    .start 1 (.executeOnce labProcess 1) :: calls 1 (List.replicate 5 {uuid := 5}) ++
    .start 3 (.executeOnce labProcess 1) :: calls 3 (List.replicate 4 {uuid := 8}) ++
    calls 1 (List.replicate 2 {uuid := 5}) ++ .commit 1 ::
    calls 3 (List.replicate 2 {uuid := 8}) ++ .commit 3 :: .finish 3 ::
    calls 1 (List.replicate 6 {uuid := 6} ++ {adapter := .result {outcome := .success}} :: List.replicate 10 {uuid := 7}) ++
    .crash 1 :: .start 2 (.reap 10) ::
    calls 2 ({now := 100000000} :: {now := 100000000, rows := [1]} :: List.replicate 4 {now := 100000000, uuid := 9}) ++
    [.commit 2,.finish 2]

def lostSeen (w : Laboratory) : Bool :=
  lostInValidation 1 w && outrun 3 w && (w.committed.invocations.lookup 1).map (·.state) = some .executionIndeterminate

theorem lostProbe_runs : (labRun (acop labRuntime labSettings).free lostProbe).any lostSeen = true := by
  decide +kernel

@[irreducible] def lostWorld : Laboratory := (labRun _ lostProbe).get (Option.isSome_of_any lostProbe_runs)

theorem lostWorld_reachable :
    (acop labRuntime labSettings).Reachable (acop labRuntime labSettings).free labDb lostWorld := by
  unfold lostWorld
  exact (labRun_get lostProbe_runs).1

theorem lostWorld_seen : (lostInValidation 1 lostWorld = true ∧ outrun 3 lostWorld = true) ∧
    (lostWorld.committed.invocations.lookup 1).map (·.state) = some .executionIndeterminate := by
  unfold lostWorld
  have seen := (labRun_get lostProbe_runs).2
  unfold lostSeen at seen
  rw [Bool.and_eq_true,Bool.and_eq_true] at seen
  exact ⟨seen.1,of_decide_eq_true seen.2⟩

def careful : (acop labRuntime labSettings).Regime :=
  let awaited : (acop labRuntime labSettings).Regime := countsWhileAwaiting
  let counted : (acop labRuntime labSettings).Regime := countsUndisturbed
  let unraced : (acop labRuntime labSettings).Regime := insertsUnderFreeKeys
  fun w move => awaited w move ∧ counted w move ∧ unraced w move

instance (w : Laboratory) (move : LabMove) : Decidable (careful w move) := by
  unfold careful
  infer_instance

def approves (subject : String) : Op labRuntime := .decide 1 (person subject {"approver"}) .approved "fine" zeros

def answered (session : Nat) (id : Uuid) (w : Laboratory) : Bool :=
  (history w.trace session).any fun event => match event with
    | .answer (.ok (.invocation row)) => row.id = id
    | _ => false

/-- Two approvals, one after the other, the same request again, and an execution that is validated. -/
def approvedBox : List LabMove :=
  requested 0 "lab.box.set" (some "k") 1 ++
    .start 1 (approves "bob") :: calls 1 (List.replicate 5 {uuid := 2}) ++ .commit 1 :: .finish 1 ::
    .start 2 (approves "cat") :: calls 2 (List.replicate 14 {uuid := 3}) ++ .commit 2 :: .finish 2 ::
    .start 4 (.create labProcess (boxRequest "lab.box.set" (some "k")) (person "ann" {"operator"})) ::
    calls 4 (List.replicate 3 {uuid := 4}) ++ .commit 4 :: .finish 4 ::
    .start 3 (.executeOnce labProcess 1) :: calls 3 (List.replicate 7 {uuid := 5}) ++ .commit 3 ::
    calls 3 (List.replicate 8 {uuid := 6} ++ {adapter := .result {outcome := .success}} :: List.replicate 10 {uuid := 7} ++
      {adapter := .result {outcome := .success}} :: List.replicate 5 {uuid := 8}) ++ [.commit 3,.finish 3]

def approvedSeen (w : Laboratory) : Bool :=
  answered 0 1 w && answered 4 1 w && (w.committed.invocations.lookup 1).map (·.state) = some .succeeded

theorem approvedBox_runs : (labRun careful approvedBox).any approvedSeen = true := by
  decide +kernel

@[irreducible] def approvedWorld : Laboratory := (labRun _ approvedBox).get (Option.isSome_of_any approvedBox_runs)

theorem approvedWorld_careful : (acop labRuntime labSettings).Reachable careful labDb approvedWorld := by
  unfold approvedWorld
  exact (labRun_get approvedBox_runs).1

theorem approvedWorld_reachable {regime : (acop labRuntime labSettings).Regime}
    (admits : ∀ w move, careful w move → regime w move) :
    (acop labRuntime labSettings).Reachable regime labDb approvedWorld :=
  System.Steps.weaken _ admits approvedWorld_careful

theorem approvedWorld_answers : answered 0 1 approvedWorld = true ∧ answered 4 1 approvedWorld = true := by
  unfold approvedWorld
  have seen := (labRun_get approvedBox_runs).2
  unfold approvedSeen at seen
  rw [Bool.and_eq_true,Bool.and_eq_true] at seen
  exact seen.1

end Acop
