import Acop.Guarantee.Lifecycle

/-! Which sequences of deployments keep the registration table in step with the code. -/
namespace Acop.Registry
open Acop.Serial

variable {runtime : Runtime}

/-- What a deployment leaves: a row is retired exactly if its code is gone, every declaration
has its row, and what an operator took out of service stays out. -/
structure Follows (process : Process runtime) (table next : RegistrationTable) : Prop where
  retired : ∀ row ∈ next.rows, row.lifecycleState = .retired ↔ ¬ Declares process row.key
  registered : ∀ key, Declares process key → ∃ row ∈ next.rows, row.key = key
  disabled : ∀ row ∈ table.rows, row.lifecycleState = .disabled → Declares process row.key →
    ∃ other ∈ next.rows, other.key = row.key ∧ other.lifecycleState = .disabled

/-- A deployment follows the code, unless reconciliation itself refuses it. -/
def InStep (table : RegistrationTable) : Operation runtime → Prop
  | .reconcile process allowRehash newId now =>
    match attempt table (.reconcile process allowRehash newId now) with
    | .ok next => Follows process table next
    | .error (.integrity _) => False
    | .error _ => True
  | _ => True

/-- The declarations meet no row that is retired. -/
def Unretired (process : Process runtime) (table : RegistrationTable) : Prop :=
  ∀ row ∈ table.rows, Declares process row.key → row.lifecycleState ≠ .retired

/-- A contract drifted, or the rows can be written and no declaration returns to a retired one. -/
def Continues (table : RegistrationTable) : Operation runtime → Prop
  | .reconcile process allowRehash _ _ =>
    (∃ definition ∈ process.definitions, Drifted runtime allowRehash table.rows definition) ∨
      (Reconcilable process allowRehash table ∧ Unretired process table)
  | _ => True

variable {process : Process runtime} {table next : RegistrationTable} {allowRehash : Bool}
  {newId : String × String → Uuid} {now : String × String → Time}

theorem mem_reconciled {row : ToolRegistration}
    (written : next.rows = (allDefinitions process).map (settled runtime newId table.rows) ++
      (table.rows.filter fun row => row.key ∉ (allDefinitions process).map ToolDefinition.key).map (retire now)) :
    row ∈ next.rows ↔ (∃ definition ∈ process.definitions, settled runtime newId table.rows definition = row) ∨
      ∃ old ∈ table.rows, ¬ Declares process old.key ∧ retire now old = row := by
  rw [written,List.mem_append,List.mem_map,List.mem_map]
  simp only [mem_allDefinitions,List.mem_filter,decide_eq_true_eq,declares_iff,and_assoc]

theorem retire_retired (row : ToolRegistration) : (retire now row).lifecycleState = .retired := by
  unfold retire
  split
  · assumption
  · rfl

theorem settled_found {rows : List ToolRegistration} {definition : ToolDefinition} {row : ToolRegistration}
    (found : rows.find? (fun row => row.key = definition.key) = some row) :
    (settled runtime newId rows definition).lifecycleState = row.lifecycleState := by
  unfold settled
  rw [found]

theorem find_of_mem {row : ToolRegistration} (member : row ∈ table.rows) {definition : ToolDefinition}
    (same : row.key = definition.key) : table.rows.find? (fun row => row.key = definition.key) = some row := by
  cases found : table.rows.find? fun row => row.key = definition.key with
  | none =>
    have apart := List.find?_eq_none.mp found row member
    exact absurd (decide_eq_true same) apart
  | some other =>
    have keyed : other.key = definition.key := by simpa using List.find?_some found
    rw [List.inj_on_of_nodup_map table.distinct (List.mem_of_find?_eq_some found) member (keyed.trans same.symm)]

theorem exists_declared {key : String × String} (declared : Declares process key) :
    ∃ definition ∈ process.definitions, definition.key = key :=
  List.mem_map.mp declared

theorem declares_key {definition : ToolDefinition} (member : definition ∈ process.definitions) :
    Declares process definition.key :=
  List.mem_map_of_mem member

/-- A reconciliation that completes follows the code exactly if no declaration returned to a retired row. -/
theorem follows_iff
    (written : next.rows = (allDefinitions process).map (settled runtime newId table.rows) ++
      (table.rows.filter fun row => row.key ∉ (allDefinitions process).map ToolDefinition.key).map (retire now)) :
    Follows process table next ↔ Unretired process table := by
  constructor
  · intro follows row member declared retired
    obtain ⟨definition,present,same⟩ := exists_declared declared
    have kept := @settled_found runtime newId _ _ _ (find_of_mem member same.symm)
    have stays := (mem_reconciled written).mpr (.inl ⟨definition,present,rfl⟩)
    apply (follows.retired _ stays).mp (kept.trans retired)
    rw [key_settled]
    exact declares_key present
  · intro unretired
    refine ⟨?_,?_,?_⟩
    · intro row member
      rcases (mem_reconciled written).mp member with ⟨definition,present,rfl⟩ | ⟨old,_,undeclared,rfl⟩
      · rw [key_settled]
        refine iff_of_false ?_ (not_not.mpr (declares_key present))
        cases found : table.rows.find? fun row => row.key = definition.key with
        | none =>
          -- A new row is in the table only as its declaration's default, which the CHECKs hold to be ACTIVE.
          have lawful := lawful_of_mem member
          unfold settled at lawful ⊢
          rw [found] at lawful ⊢
          have standing := ((lawful_fresh runtime newId definition).mp lawful).1
          intro retired
          cases standing.symm.trans retired
        | some row =>
          rw [settled_found found]
          have keyed : row.key = definition.key := by simpa using List.find?_some found
          exact unretired row (List.mem_of_find?_eq_some found) (keyed ▸ declares_key present)
      · rw [key_retire]
        exact iff_of_true (retire_retired old) undeclared
    · intro key declared
      obtain ⟨definition,present,rfl⟩ := exists_declared declared
      exact ⟨_,(mem_reconciled written).mpr (.inl ⟨definition,present,rfl⟩),key_settled⟩
    · intro row member disabled declared
      obtain ⟨definition,present,same⟩ := exists_declared declared
      refine ⟨_,(mem_reconciled written).mpr (.inl ⟨definition,present,rfl⟩),key_settled.trans same,?_⟩
      rw [settled_found (find_of_mem member same.symm),disabled]

theorem inStep_iff (table : RegistrationTable) (op : Operation runtime) : InStep table op ↔ Continues table op := by
  cases op with
  | disable process principal requestId toolName payload now => simp [InStep,Continues]
  | enable process principal requestId toolName payload => simp [InStep,Continues]
  | reconcile process allowRehash newId now =>
    rcases attempt_reconcile process allowRehash newId now table with
      ⟨drifted,message,context,refused⟩ | ⟨steady,flushed⟩
    · simp only [InStep,refused,Continues,drifted,true_or]
    · have settles : Settles table (.reconcile process allowRehash newId now) ↔ Reconcilable process allowRehash table :=
        settles_reconcile
      unfold Settles at settles
      simp only [Continues,InStep]
      rw [or_iff_right steady,← settles]
      cases done : attempt table (.reconcile process allowRehash newId now) with
      | ok next =>
        have written := rows_of_flush (flushed.symm.trans done)
        rw [and_iff_right next.checked]
        exact follows_iff written
      | error fault =>
        obtain ⟨constraint,rfl⟩ := integrity_of_flush_error (flushed.symm.trans done)
        simp

theorem not_inStep {key : String × String}
    (completes : (attempt table (.reconcile process allowRehash newId now)).toBool = true)
    (stays : (settle attempt table (.reconcile process allowRehash newId now)).rows.any (fun row =>
      row.key = key ∧ row.lifecycleState = .retired) = true) (declared : Declares process key) :
    ¬ InStep table (.reconcile process allowRehash newId now) := by
  intro step
  obtain ⟨row,member,kept⟩ := List.any_eq_true.mp stays
  obtain ⟨rfl,retired⟩ := of_decide_eq_true kept
  cases done : attempt table (.reconcile process allowRehash newId now) with
  | error fault =>
    rw [done] at completes
    cases completes
  | ok next =>
    rw [settle_ok done] at member
    simp only [InStep,done] at step
    exact (step.retired row member).mp retired declared

/-- Along every sequence of deployments with operators at work in between, each
reconciliation leaves the table in step with the code exactly if none of them, unless it is
refused for a drifted contract, meets a retired row of a declaration that returned or a row
that it cannot write. -/
theorem registration_follows_code (table : RegistrationTable) (ops : List (Operation runtime)) :
    Along (settle attempt) InStep table ops ↔ Along (settle attempt) Continues table ops :=
  along_congr (fun _ => True) (fun table op _ => inStep_iff table op) (fun _ _ _ => trivial) trivial

/-- A tool is deployed, left out of one deployment, and deployed again unchanged. -/
def returning : List (Operation labRuntime) :=
  [.reconcile labProcess false (fun _ => 1) (fun _ => 1),
    .reconcile bareProcess false (fun _ => 1) (fun _ => 2),
    .reconcile labProcess false (fun _ => 1) (fun _ => 3)]

/-- Its row stays retired. -/
theorem returning_stays_retired :
    ((run (settle attempt) emptyTable returning).rows.map fun row => (row.toolName,row.lifecycleState)) =
        [("lab.box.probe",.retired),("lab.box.set",.retired)] ∧
      ¬ Along (settle attempt) InStep emptyTable returning := by
  refine ⟨by decide +kernel,?_⟩
  rintro ⟨_,_,last,_⟩
  revert last
  apply @not_inStep _ _ _ _ _ _ ("lab.box.set","1.0")
  · decide +kernel
  · decide +kernel
  · unfold Declares
    decide +kernel

end Acop.Registry
