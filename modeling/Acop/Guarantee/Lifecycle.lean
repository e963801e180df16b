import Acop.Registry
import Acop.Laboratory

/-! Which runs of reconciliation, disable and enable never leave a row for the
database to refuse. -/
namespace Acop.Registry
open Acop.Serial

structure Lawful (row : ToolRegistration) : Prop where
  identity : fits 128 row.toolName ∧ fits 16 row.toolVersion ∧ fits 64 row.contractHash
  notes : fitsOptional 255 row.disabledBySubject ∧ fitsOptional 512 row.disabledReason ∧ fitsOptional 512 row.retiredReason
  disabled : row.lifecycleState = .disabled ↔ row.disabledAt.isSome
  retired : row.lifecycleState = .retired ↔ row.retiredAt.isSome
  attributed : row.disabledAt.isNone = row.disabledBySubject.isNone
  reasoned : row.disabledAt.isNone = row.disabledReason.isNone

theorem violation_eq_none {row : ToolRegistration} : row.violation = none ↔ Lawful row := by
  simp only [ToolRegistration.violation,firstBroken_eq_none,ToolRegistration.checks,List.mem_cons,List.not_mem_nil,
    or_false,forall_eq_or_imp,forall_eq,Bool.and_eq_true,decide_eq_true_eq,eq_iff_iff]
  constructor
  · rintro ⟨⟨⟨⟨⟨⟨name,version⟩,digest⟩,subject⟩,reason⟩,note⟩,disabled,retired,attributed,reasoned⟩
    exact ⟨⟨name,version,digest⟩,⟨subject,reason,note⟩,disabled,retired,attributed,reasoned⟩
  · rintro ⟨⟨name,version,digest⟩,⟨subject,reason,note⟩,disabled,retired,attributed,reasoned⟩
    exact ⟨⟨⟨⟨⟨⟨name,version⟩,digest⟩,subject⟩,reason⟩,note⟩,disabled,retired,attributed,reasoned⟩

theorem retirementNote_fits : fitsOptional 512 (some "No code declaration for this tool version.") := by decide

section Rows

variable {row : ToolRegistration} (lawful : Lawful row)

include lawful

theorem lawful_rehashed {digest : String} (fitting : fits 64 digest) :
    Lawful {row with contractHash := digest} :=
  ⟨⟨lawful.identity.1,lawful.identity.2.1,fitting⟩,lawful.notes,lawful.disabled,lawful.retired,lawful.attributed,lawful.reasoned⟩

theorem lawful_retire (now : String × String → Time) : Lawful (retire now row) ↔ row.lifecycleState ≠ .disabled := by
  by_cases retired : row.lifecycleState = .retired
  · simp [retire,retired,lawful]
  rw [retire,if_neg retired]
  constructor
  · intro after disabled
    cases after.disabled.mpr (lawful.disabled.mp disabled)
  · intro served
    have unset : row.disabledAt.isSome = false := Bool.eq_false_iff.mpr fun set => served (lawful.disabled.mpr set)
    exact ⟨lawful.identity,⟨lawful.notes.1,lawful.notes.2.1,retirementNote_fits⟩,by simp [unset],by simp,lawful.attributed,
      lawful.reasoned⟩

theorem lawful_disabled (principal : Principal) (payload : ToolLifecycleRequest) (now : Time) :
    Lawful {row with toRegistrationColumns := outOfService principal payload now row.toRegistrationColumns} ↔
    row.lifecycleState ≠ .retired ∧ fits 255 principal.subject ∧ fits 512 payload.reason := by
  constructor
  · intro after
    refine ⟨?_,after.notes.1,after.notes.2.1⟩
    intro retired
    cases after.retired.mpr (lawful.retired.mp retired)
  · rintro ⟨present,subject,reason⟩
    have unset : row.retiredAt.isSome = false := Bool.eq_false_iff.mpr fun set => present (lawful.retired.mpr set)
    exact ⟨lawful.identity,⟨subject,reason,lawful.notes.2.2⟩,by simp [outOfService],by simp [outOfService,unset],rfl,rfl⟩

theorem lawful_enabled (present : row.lifecycleState ≠ .retired) :
    Lawful {row with toRegistrationColumns := inService row.toRegistrationColumns} := by
  have unset : row.retiredAt.isSome = false := Bool.eq_false_iff.mpr fun set => present (lawful.retired.mpr set)
  exact ⟨lawful.identity,⟨rfl,rfl,lawful.notes.2.2⟩,by simp [inService],by simp [inService,unset],rfl,rfl⟩

end Rows

theorem fits_contractHash (runtime : Runtime) (definition : ToolDefinition) :
    fits 64 (definition.contractHash runtime) := by
  simp only [fits,Bool.and_eq_true,decide_eq_true_eq]
  refine ⟨(runtime.sha256_length _).le,?_⟩
  rw [Json.plainText,List.all_eq_true]
  intro char member
  exact decide_eq_true (runtime.sha256_plain _ char member)

theorem lawful_fresh (runtime : Runtime) (newId : String × String → Uuid) (definition : ToolDefinition) :
    Lawful (fresh runtime newId definition) ↔
      definition.lifecycleDefault = .active ∧ fits 128 definition.toolName ∧ fits 16 definition.toolVersion := by
  constructor
  · intro lawful
    refine ⟨?_,lawful.identity.1,lawful.identity.2.1⟩
    cases standing : definition.lifecycleDefault with
    | active => rfl
    | disabled => cases lawful.disabled.mp standing
    | retired => cases lawful.retired.mp standing
  · rintro ⟨standing,name,version⟩
    exact ⟨⟨name,version,fits_contractHash runtime definition⟩,⟨rfl,rfl,rfl⟩,by simp [fresh,standing],
      by simp [fresh,standing],rfl,rfl⟩

theorem flush_ok_iff {rows : List ToolRegistration} : (∃ next, flush rows = .ok next) ↔
    (∀ row ∈ rows, Lawful row) ∧ (rows.map ToolRegistration.key).Nodup := by
  unfold flush
  split
  · rename_i constraint broken
    obtain ⟨row,member,violated⟩ := List.exists_of_findSome?_eq_some broken
    simp only [reduceCtorEq,exists_false,false_iff,not_and]
    intro lawful
    cases violated.symm.trans (violation_eq_none.mpr (lawful row member))
  · rename_i accepted
    have lawful : ∀ row ∈ rows, Lawful row := fun row member =>
      violation_eq_none.mp (List.findSome?_eq_none_iff.mp accepted row member)
    split
    · rename_i distinct
      simp only [Except.ok.injEq,exists_eq',distinct,and_true,true_iff]
      exact lawful
    · rename_i repeated
      simp [repeated]

theorem integrity_of_flush_error {rows : List ToolRegistration} {fault : RegistryFault} (failed : flush rows = .error fault) :
    ∃ constraint, fault = .integrity constraint := by
  unfold flush at failed
  split at failed
  · rename_i constraint _
    exact ⟨constraint,(Except.error.inj failed).symm⟩
  · split at failed
    · cases failed
    · exact ⟨_,(Except.error.inj failed).symm⟩

theorem rows_of_flush {rows : List ToolRegistration} {next : RegistrationTable} (flushed : flush rows = .ok next) :
    next.rows = rows := by
  unfold flush at flushed
  split at flushed
  · cases flushed
  · split at flushed
    · cases flushed
      rfl
    · cases flushed

section Loop

variable {runtime : Runtime} {allowRehash : Bool} {newId : String × String → Uuid}

def settled (runtime : Runtime) (newId : String × String → Uuid) (rows : List ToolRegistration)
    (definition : ToolDefinition) : ToolRegistration :=
  match rows.find? fun row => row.key = definition.key with
  | none => fresh runtime newId definition
  | some row => {row with contractHash := definition.contractHash runtime}

/-- The stored contract of a declaration is another one, and may not be rewritten. -/
def Drifted (runtime : Runtime) (allowRehash : Bool) (rows : List ToolRegistration) (definition : ToolDefinition) : Prop :=
  allowRehash = false ∧ ∃ row, rows.find? (fun row => row.key = definition.key) = some row ∧
    row.contractHash ≠ definition.contractHash runtime

theorem reconcileDefinition_drifted (newId : String × String → Uuid) {current : Reconciling} {definition : ToolDefinition}
    (drifted : Drifted runtime allowRehash current.byKey definition) :
    ∃ message context, reconcileDefinition runtime allowRehash newId current definition =
      .error (.configuration message context) := by
  obtain ⟨kept,row,found,changed⟩ := drifted
  simp only [reconcileDefinition,found,if_neg changed,kept]
  exact ⟨_,_,rfl⟩

theorem reconcileDefinition_ok (newId : String × String → Uuid) {current : Reconciling} {definition : ToolDefinition}
    (agrees : ¬ Drifted runtime allowRehash current.byKey definition) :
    ∃ report, reconcileDefinition runtime allowRehash newId current definition = .ok
      ⟨current.byKey.filter fun row => row.key ≠ definition.key,
        current.session ++ [settled runtime newId current.byKey definition],report⟩ := by
  cases found : current.byKey.find? fun row => row.key = definition.key with
  | none =>
    have others : current.byKey.filter (fun row => row.key ≠ definition.key) = current.byKey := by
      rw [List.filter_eq_self]
      intro row member
      simpa using List.find?_eq_none.mp found row member
    simp only [reconcileDefinition,settled,found,others]
    exact ⟨_,rfl⟩
  | some row =>
    by_cases same : row.contractHash = definition.contractHash runtime
    · have unchanged : {row with contractHash := definition.contractHash runtime} = row := by rw [← same]
      simp only [reconcileDefinition,settled,found,if_pos same,unchanged]
      exact ⟨_,rfl⟩
    · have allowed : allowRehash = true := by
        by_contra kept
        exact agrees ⟨Bool.eq_false_iff.mpr kept,row,found,same⟩
      simp only [reconcileDefinition,settled,found,if_neg same,allowed]
      exact ⟨_,rfl⟩

theorem find?_others {rows : List ToolRegistration} {popped other : String × String} (different : other ≠ popped) :
    (rows.filter fun row => row.key ≠ popped).find? (fun row => row.key = other) =
      rows.find? fun row => row.key = other := by
  rw [List.find?_filter]
  congr 1
  funext row
  by_cases same : row.key = other
  · simp [same,different]
  · simp [same]

theorem loop_spec (runtime : Runtime) (allowRehash : Bool) (newId : String × String → Uuid)
    {definitions : List ToolDefinition} (distinct : (definitions.map ToolDefinition.key).Nodup) (current : Reconciling) :
    ((∃ definition ∈ definitions, Drifted runtime allowRehash current.byKey definition) ∧
      ∃ message context, definitions.foldlM (reconcileDefinition runtime allowRehash newId) current =
        .error (.configuration message context)) ∨
    ((∀ definition ∈ definitions, ¬ Drifted runtime allowRehash current.byKey definition) ∧
      ∃ report, definitions.foldlM (reconcileDefinition runtime allowRehash newId) current = .ok
        ⟨current.byKey.filter fun row => row.key ∉ definitions.map ToolDefinition.key,
          current.session ++ definitions.map (settled runtime newId current.byKey),report⟩) := by
  induction definitions generalizing current with
  | nil =>
    right
    refine ⟨by simp,current.report,?_⟩
    simp only [List.map_nil,List.append_nil,List.not_mem_nil,not_false_eq_true,decide_true,List.filter_true]
    rfl
  | cons definition rest ih =>
    rw [List.map_cons,List.nodup_cons] at distinct
    by_cases drifted : Drifted runtime allowRehash current.byKey definition
    · left
      obtain ⟨message,context,stopped⟩ := reconcileDefinition_drifted newId drifted
      exact ⟨⟨definition,List.mem_cons_self,drifted⟩,message,context,by rw [List.foldlM_cons,stopped]; rfl⟩
    obtain ⟨report,stepped⟩ := reconcileDefinition_ok newId drifted
    rw [List.foldlM_cons,stepped,ok_bind]
    have others : ∀ other ∈ rest,
        settled runtime newId (current.byKey.filter fun row => row.key ≠ definition.key) other =
          settled runtime newId current.byKey other ∧
        (Drifted runtime allowRehash (current.byKey.filter fun row => row.key ≠ definition.key) other ↔
          Drifted runtime allowRehash current.byKey other) := by
      intro other member
      have different : other.key ≠ definition.key := fun same =>
        distinct.1 (same ▸ List.mem_map_of_mem member)
      simp only [settled,Drifted,find?_others different,and_self,iff_self]
    rcases ih distinct.2 _ with ⟨⟨other,member,otherDrifted⟩,stopped⟩ | ⟨agree,report',finished⟩
    · left
      exact ⟨⟨other,List.mem_cons_of_mem _ member,(others other member).2.mp otherDrifted⟩,stopped⟩
    · right
      refine ⟨?_,report',?_⟩
      · intro other member
        rcases List.mem_cons.mp member with rfl | member
        · exact drifted
        · exact fun otherDrifted => agree other member ((others other member).2.mpr otherDrifted)
      · have left : (current.byKey.filter fun row => row.key ≠ definition.key).filter
              (fun row => row.key ∉ rest.map ToolDefinition.key) =
            current.byKey.filter fun row => row.key ∉ (definition::rest).map ToolDefinition.key := by
          rw [List.filter_filter]
          apply List.filter_congr
          intro row _
          by_cases same : row.key = definition.key
          · simp [same]
          · simp [same]
        rw [finished,left,List.map_congr_left fun other member => (others other member).1]
        simp [List.append_assoc]

end Loop

section Steps

variable {runtime : Runtime} {process : Process runtime} {table : RegistrationTable}

theorem mem_allDefinitions {definition : ToolDefinition} :
    definition ∈ allDefinitions process ↔ definition ∈ process.definitions :=
  (List.perm_insertionSort _ _).mem_iff

theorem allDefinitions_distinct (process : Process runtime) : ((allDefinitions process).map ToolDefinition.key).Nodup :=
  ((List.perm_insertionSort _ _).map _).nodup_iff.mpr process.distinct

def Declares (process : Process runtime) (key : String × String) : Prop := key ∈ process.definitions.map ToolDefinition.key

/-- A reconciliation that the service refuses, or that meets no row it cannot write. -/
def Reconcilable (process : Process runtime) (allowRehash : Bool) (table : RegistrationTable) : Prop :=
  (∃ definition ∈ process.definitions, Drifted runtime allowRehash table.rows definition) ∨
  ((∀ row ∈ table.rows, row.lifecycleState = .disabled → Declares process row.key) ∧
    ∀ definition ∈ process.definitions, definition.key ∉ table.rows.map ToolRegistration.key →
      definition.lifecycleDefault = .active ∧ fits 128 definition.toolName ∧ fits 16 definition.toolVersion)

/-- An operation completes, or the service itself refuses it. -/
def Settles (table : RegistrationTable) (op : Operation runtime) : Prop :=
  match attempt table op with
  | .ok next => ∀ row ∈ next.rows, row.violation = none
  | .error (.integrity _) => False
  | .error _ => True

instance (table : RegistrationTable) (op : Operation runtime) : Decidable (Settles table op) := by
  unfold Settles
  split
  · infer_instance
  · exact isFalse id
  · exact isTrue trivial

theorem key_settled {newId : String × String → Uuid} {rows : List ToolRegistration} {definition : ToolDefinition} :
    (settled runtime newId rows definition).key = definition.key := by
  unfold settled
  split
  · rfl
  · rename_i row found
    have same : row.key = definition.key := by simpa using List.find?_some found
    exact same

theorem key_retire {now : String × String → Time} {row : ToolRegistration} : (retire now row).key = row.key := by
  unfold retire
  split <;> rfl

theorem reconciled_distinct {newId : String × String → Uuid} {now : String × String → Time} :
    (((allDefinitions process).map (settled runtime newId table.rows) ++
      (table.rows.filter fun row => row.key ∉ (allDefinitions process).map ToolDefinition.key).map (retire now)).map
        ToolRegistration.key).Nodup := by
  have declared : ((allDefinitions process).map (settled runtime newId table.rows)).map ToolRegistration.key =
      (allDefinitions process).map ToolDefinition.key := by
    rw [List.map_map]
    exact List.map_congr_left fun definition _ => key_settled
  have undeclared (rows : List ToolRegistration) : (rows.map (retire now)).map ToolRegistration.key =
      rows.map ToolRegistration.key := by
    rw [List.map_map]
    exact List.map_congr_left fun row _ => key_retire
  rw [List.map_append,declared,undeclared,List.nodup_append]
  refine ⟨allDefinitions_distinct process,table.distinct.sublist (List.filter_sublist.map _),?_⟩
  intro key member other otherMember same
  obtain ⟨row,kept,rfl⟩ := List.mem_map.mp otherMember
  rw [List.mem_filter,decide_eq_true_eq] at kept
  exact kept.2 (same ▸ member)

theorem lawful_of_mem {row : ToolRegistration} (member : row ∈ table.rows) : Lawful row :=
  violation_eq_none.mp (table.checked row member)

theorem lawful_settled {newId : String × String → Uuid} {definition : ToolDefinition} :
    Lawful (settled runtime newId table.rows definition) ↔
      (definition.key ∉ table.rows.map ToolRegistration.key →
        definition.lifecycleDefault = .active ∧ fits 128 definition.toolName ∧ fits 16 definition.toolVersion) := by
  unfold settled
  split
  · rename_i none
    have absent : definition.key ∉ table.rows.map ToolRegistration.key := by
      intro member
      obtain ⟨row,present,same⟩ := List.mem_map.mp member
      simpa [same] using List.find?_eq_none.mp none row present
    rw [lawful_fresh]
    simp [absent]
  · rename_i row found
    have present := List.mem_of_find?_eq_some found
    have same : row.key = definition.key := by simpa using List.find?_some found
    have known : definition.key ∈ table.rows.map ToolRegistration.key := same ▸ List.mem_map_of_mem present
    simp only [known,not_true_eq_false,false_implies,iff_true]
    exact lawful_rehashed (lawful_of_mem present) (fits_contractHash runtime definition)

theorem declares_iff {key : String × String} :
    key ∈ (allDefinitions process).map ToolDefinition.key ↔ Declares process key :=
  ((List.perm_insertionSort _ _).map _).mem_iff

theorem settles_of_flush {op : Operation runtime} {rows : List ToolRegistration} (flushed : attempt table op = flush rows) :
    Settles table op ↔ (∀ row ∈ rows, Lawful row) ∧ (rows.map ToolRegistration.key).Nodup := by
  rw [← flush_ok_iff]
  unfold Settles
  rw [flushed]
  cases done : flush rows with
  | ok next => simpa using next.checked
  | error fault =>
    obtain ⟨constraint,rfl⟩ := integrity_of_flush_error done
    simp

/-- A reconciliation is refused for a drifted contract, or it writes every declaration's row and
retires the rows that no declaration took. -/
theorem attempt_reconcile (process : Process runtime) (allowRehash : Bool) (newId : String × String → Uuid)
    (now : String × String → Time) (table : RegistrationTable) :
    ((∃ definition ∈ process.definitions, Drifted runtime allowRehash table.rows definition) ∧
      ∃ message context, attempt table (.reconcile process allowRehash newId now) = .error (.configuration message context)) ∨
    ((¬ ∃ definition ∈ process.definitions, Drifted runtime allowRehash table.rows definition) ∧
      attempt table (.reconcile process allowRehash newId now) = flush
        ((allDefinitions process).map (settled runtime newId table.rows) ++
          (table.rows.filter fun row => row.key ∉ (allDefinitions process).map ToolDefinition.key).map (retire now))) := by
  have outcome := loop_spec runtime allowRehash newId (allDefinitions_distinct process) ⟨table.rows,[],{}⟩
  simp only [mem_allDefinitions] at outcome
  rcases outcome with ⟨drifted,message,context,stopped⟩ | ⟨agree,report,finished⟩
  · left
    refine ⟨drifted,message,context,?_⟩
    simp only [attempt,reconcile,stopped,error_bind]
  · right
    refine ⟨fun ⟨definition,member,drifted⟩ => agree definition member drifted,?_⟩
    simp only [attempt,reconcile,finished,ok_bind,List.nil_append]
    cases flush _ <;> rfl

theorem settles_reconcile {allowRehash : Bool} {newId : String × String → Uuid} {now : String × String → Time} :
    Settles table (.reconcile process allowRehash newId now) ↔ Reconcilable process allowRehash table := by
  rcases attempt_reconcile process allowRehash newId now table with ⟨drifted,message,context,refused⟩ | ⟨steady,flushed⟩
  · simp only [Settles,refused,Reconcilable,drifted,true_or]
  · rw [settles_of_flush flushed,and_iff_left reconciled_distinct,Reconcilable,or_iff_right steady]
    constructor
    · intro lawful
      constructor
      · intro row member disabled
        by_contra undeclared
        have left : row ∈ table.rows.filter fun row => row.key ∉ (allDefinitions process).map ToolDefinition.key :=
          List.mem_filter.mpr ⟨member,decide_eq_true (mt declares_iff.mp undeclared)⟩
        exact (lawful_retire (lawful_of_mem member) now).mp
          (lawful _ (List.mem_append_right _ (List.mem_map_of_mem left))) disabled
      · intro definition member
        exact lawful_settled.mp
          (lawful _ (List.mem_append_left _ (List.mem_map_of_mem (mem_allDefinitions.mpr member))))
    · rintro ⟨declared,writable⟩ row member
      rcases List.mem_append.mp member with member | member
      · obtain ⟨definition,present,rfl⟩ := List.mem_map.mp member
        exact lawful_settled.mpr (writable definition (mem_allDefinitions.mp present))
      · obtain ⟨old,left,rfl⟩ := List.mem_map.mp member
        rw [List.mem_filter,decide_eq_true_eq] at left
        refine (lawful_retire (lawful_of_mem left.1) now).mpr fun disabled => ?_
        exact left.2 (declares_iff.mpr (declared old left.1 disabled))

/-- The row an operator names, of a version that code declares. -/
def Target (process : Process runtime) (table : RegistrationTable) (toolName toolVersion : String)
    (row : ToolRegistration) : Prop :=
  row ∈ table.rows ∧ row.key = (toolName,toolVersion) ∧ Declares process row.key

def Recordable (principal : Principal) (payload : ToolLifecycleRequest) : Prop :=
  fits 255 principal.subject ∧ fits 255 principal.issuer ∧ Json.plainText payload.reason

/-- A disable whose parameters can be held and whose target is not retired. -/
def Disablable (process : Process runtime) (table : RegistrationTable) (principal : Principal) (toolName : String)
    (payload : ToolLifecycleRequest) : Prop :=
  (Json.plainText toolName ∧ Json.plainText payload.toolVersion) ∧
    ∀ row, Target process table toolName payload.toolVersion row →
      row.lifecycleState ≠ .retired ∧ Recordable principal payload

/-- An enable whose parameters can be held. A retired target is the service's own refusal. -/
def Enablable (process : Process runtime) (table : RegistrationTable) (principal : Principal) (toolName : String)
    (payload : ToolLifecycleRequest) : Prop :=
  (Json.plainText toolName ∧ Json.plainText payload.toolVersion) ∧
    ∀ row, Target process table toolName payload.toolVersion row →
      row.lifecycleState ≠ .retired → Recordable principal payload

/-- The condition on an operation in the state it meets. -/
def Heeded (table : RegistrationTable) : Operation runtime → Prop
  | .reconcile process allowRehash _ _ => Reconcilable process allowRehash table
  | .disable process principal _ toolName payload _ => Disablable process table principal toolName payload
  | .enable process principal _ toolName payload => Enablable process table principal toolName payload

theorem getDefinition_isSome {toolName toolVersion : String} :
    (∃ definition, process.getDefinition toolName toolVersion = some definition) ↔ Declares process (toolName,toolVersion) := by
  rw [Process.getDefinition,← Option.isSome_iff_exists,List.find?_isSome]
  simp [Declares]

/-- What a lookup comes to: a text the database refuses, no target, or the target with its declaration. -/
theorem lifecycleTarget_spec (process : Process runtime) (table : RegistrationTable) (toolName toolVersion : String) :
    (¬ (Json.plainText toolName ∧ Json.plainText toolVersion) ∧
      lifecycleTarget process table toolName toolVersion = .error (.integrity .columnType)) ∨
    ((Json.plainText toolName ∧ Json.plainText toolVersion) ∧ (∀ row, ¬ Target process table toolName toolVersion row) ∧
      ∃ message, lifecycleTarget process table toolName toolVersion = .error (.notFound message)) ∨
    ((Json.plainText toolName ∧ Json.plainText toolVersion) ∧ ∃ row definition, Target process table toolName toolVersion row ∧
      (∀ other, Target process table toolName toolVersion other → other = row) ∧
      lifecycleTarget process table toolName toolVersion = .ok (row,definition)) := by
  by_cases plain : Json.plainText toolName ∧ Json.plainText toolVersion
  · right
    have held : ¬ ¬ (Json.plainText toolName ∧ Json.plainText toolVersion) := not_not.mpr plain
    rw [lifecycleTarget,if_neg held]
    cases found : table.rows.find? fun row => row.key = (toolName,toolVersion) with
    | none =>
      left
      refine ⟨plain,?_,_,rfl⟩
      intro row target
      simpa [target.2.1] using List.find?_eq_none.mp found row target.1
    | some row =>
      have member := List.mem_of_find?_eq_some found
      have keyed : row.key = (toolName,toolVersion) := by simpa using List.find?_some found
      cases code : process.getDefinition toolName toolVersion with
      | none =>
        left
        refine ⟨plain,?_,_,rfl⟩
        intro other target
        have declared := target.2.2
        rw [target.2.1,← getDefinition_isSome,code] at declared
        simp at declared
      | some definition =>
        right
        have declared : Declares process row.key := by
          rw [keyed,← getDefinition_isSome,code]
          exact ⟨definition,rfl⟩
        refine ⟨plain,row,definition,⟨member,keyed,declared⟩,?_,rfl⟩
        intro other target
        exact List.inj_on_of_nodup_map table.distinct target.1 member (target.2.1.trans keyed.symm)
  · left
    exact ⟨plain,by rw [lifecycleTarget,if_pos plain]⟩

theorem flush_update {row : ToolRegistration} {columns : RegistrationColumns → RegistrationColumns} (member : row ∈ table.rows) :
    (∃ next, flush (update table row.key columns) = .ok next) ↔
      Lawful {row with toRegistrationColumns := columns row.toRegistrationColumns} := by
  have distinct : ((update table row.key columns).map ToolRegistration.key).Nodup := by
    have same : (update table row.key columns).map ToolRegistration.key = table.rows.map ToolRegistration.key := by
      rw [update,List.map_map]
      refine List.map_congr_left fun other _ => ?_
      simp only [Function.comp]
      split <;> rfl
    exact same ▸ table.distinct
  rw [flush_ok_iff,and_iff_left distinct]
  constructor
  · intro lawful
    apply lawful
    rw [update,List.mem_map]
    exact ⟨row,member,if_pos rfl⟩
  · intro lawful other present
    rw [update,List.mem_map] at present
    obtain ⟨old,oldMember,rfl⟩ := present
    by_cases same : old.key = row.key
    · cases List.inj_on_of_nodup_map table.distinct oldMember member same
      rwa [if_pos rfl]
    · rw [if_neg same]
      exact lawful_of_mem oldMember

theorem flushAudited_spec {row : ToolRegistration} (member : row ∈ table.rows)
    (columns : RegistrationColumns → RegistrationColumns) (event : AuditEventCreate) (principal : Principal)
    (requestId : RequestId) :
    ((Lawful {row with toRegistrationColumns := columns row.toRegistrationColumns} ∧
        ∃ written, AuditService.record event principal requestId = .ok written) ∧
      ∃ next, flushAudited table row.key columns event principal requestId = .ok next) ∨
    (¬ (Lawful {row with toRegistrationColumns := columns row.toRegistrationColumns} ∧
        ∃ written, AuditService.record event principal requestId = .ok written) ∧
      ∃ constraint, flushAudited table row.key columns event principal requestId = .error (.integrity constraint)) := by
  rw [← flush_update member]
  unfold flushAudited
  cases flushed : flush (update table row.key columns) with
  | error fault =>
    right
    obtain ⟨constraint,rfl⟩ := integrity_of_flush_error flushed
    exact ⟨by simp,constraint,rfl⟩
  | ok next =>
    cases told : AuditService.record event principal requestId with
    | error broken =>
      right
      exact ⟨by simp,broken,rfl⟩
    | ok written =>
      left
      exact ⟨⟨⟨next,rfl⟩,written,rfl⟩,next,rfl⟩

theorem settles_flushAudited {op : Operation runtime} {row : ToolRegistration}
    {columns : RegistrationColumns → RegistrationColumns} {event : AuditEventCreate} {principal : Principal}
    {requestId : RequestId} (member : row ∈ table.rows)
    (ends : attempt table op = flushAudited table row.key columns event principal requestId) :
    Settles table op ↔ Lawful {row with toRegistrationColumns := columns row.toRegistrationColumns} ∧
      ∃ written, AuditService.record event principal requestId = .ok written := by
  unfold Settles
  rcases flushAudited_spec member columns event principal requestId with
    ⟨taken,next,done⟩ | ⟨refused,constraint,done⟩
  · simpa only [ends,done,taken,and_self,iff_true] using next.checked
  · simp only [ends,done,refused]

theorem target_fits {toolName toolVersion : String} {row : ToolRegistration}
    (target : Target process table toolName toolVersion row) : fits 128 toolName ∧ fits 16 toolVersion := by
  obtain ⟨named,versioned,_⟩ := (lawful_of_mem target.1).identity
  obtain ⟨rfl,rfl⟩ := Prod.mk.inj target.2.1
  exact ⟨named,versioned⟩

theorem settles_disable {principal : Principal} {requestId : RequestId} {toolName : String} {payload : ToolLifecycleRequest}
    {now : Time} : Settles table (.disable process principal requestId toolName payload now) ↔
      Disablable process table principal toolName payload := by
  rcases lifecycleTarget_spec process table toolName payload.toolVersion with
    ⟨unheld,looked⟩ | ⟨plain,untargeted,message,looked⟩ | ⟨plain,row,definition,target,only,looked⟩
  · simp only [Settles,attempt,disable,looked,error_bind,Disablable,unheld,false_and]
  · simp only [Settles,attempt,disable,looked,error_bind,Disablable,plain,true_and,true_iff]
    exact fun row target => absurd target (untargeted row)
  · have ends : attempt table (.disable process principal requestId toolName payload now) =
        flushAudited table row.key (outOfService principal payload now)
          (disableEvent row definition.permissionClass toolName payload.toolVersion payload.reason) principal requestId := by
      simp only [attempt,disable,looked,ok_bind]
    obtain ⟨named,versioned⟩ := target_fits target
    have reasoned : Json.plainText payload.reason = true → fits 512 payload.reason = true := fun plain =>
      fits_iff.mpr ⟨payload.reason_bounds.2,plain⟩
    rw [settles_flushAudited target.1 ends,lawful_disabled (lawful_of_mem target.1),disableEvent,
      record_lifecycle (by decide) (by decide) named versioned]
    constructor
    · rintro ⟨⟨present,_,_⟩,recorded⟩
      exact ⟨plain,fun other otherTarget => only other otherTarget ▸ ⟨present,recorded⟩⟩
    · rintro ⟨_,served⟩
      obtain ⟨present,subject,issuer,reason⟩ := served row target
      exact ⟨⟨present,subject,reasoned reason⟩,subject,issuer,reason⟩

theorem settles_enable {principal : Principal} {requestId : RequestId} {toolName : String} {payload : ToolLifecycleRequest} :
    Settles table (.enable process principal requestId toolName payload) ↔
      Enablable process table principal toolName payload := by
  rcases lifecycleTarget_spec process table toolName payload.toolVersion with
    ⟨unheld,looked⟩ | ⟨plain,untargeted,message,looked⟩ | ⟨plain,row,definition,target,only,looked⟩
  · simp only [Settles,attempt,enable,looked,error_bind,Enablable,unheld,false_and]
  · simp only [Settles,attempt,enable,looked,error_bind,Enablable,plain,true_and,true_iff]
    exact fun row target => absurd target (untargeted row)
  · by_cases retired : row.lifecycleState = .retired
    · simp only [Settles,attempt,enable,looked,ok_bind,if_pos retired,Enablable,plain,true_and,true_iff]
      exact fun other otherTarget served => absurd retired (only other otherTarget ▸ served)
    · have ends : attempt table (.enable process principal requestId toolName payload) =
          flushAudited table row.key inService
            (enableEvent row definition.permissionClass toolName payload.toolVersion payload.reason) principal requestId := by
        simp only [attempt,enable,looked,ok_bind,if_neg retired]
      obtain ⟨named,versioned⟩ := target_fits target
      rw [settles_flushAudited target.1 ends,and_iff_right (lawful_enabled (lawful_of_mem target.1) retired),enableEvent,
        record_lifecycle (by decide) (by decide) named versioned]
      constructor
      · exact fun recorded => ⟨plain,fun _ _ _ => recorded⟩
      · exact fun enablable => enablable.2 row target retired

theorem settles_iff (op : Operation runtime) : Settles table op ↔ Heeded table op := by
  cases op with
  | reconcile process allowRehash newId now => exact settles_reconcile
  | disable process principal requestId toolName payload now => exact settles_disable
  | enable process principal requestId toolName payload => exact settles_enable

end Steps

/-- Along any run, every operation completes or is refused by the service exactly
when each is heeded in the state it meets. -/
theorem lifecycle_closed {runtime : Runtime} (table : RegistrationTable) (ops : List (Operation runtime)) :
    Along (settle attempt) Settles table ops ↔ Along (settle attempt) Heeded table ops :=
  along_congr (fun _ => True) (fun _ op _ => settles_iff op) (fun _ _ _ => trivial) trivial

def emptyTable : RegistrationTable := ⟨[],by decide,by simp⟩

def bareProcess : Process labRuntime where
  adapters := ∅
  definitions := []
  declared := by simp
  distinct := by decide

def labRequestId : RequestId := ⟨"5f0c1d",by decide⟩

def outage : ToolLifecycleRequest := ⟨"1.0","misbehaving",by decide,by decide⟩

/-- A tool is registered, taken out of service, and dropped from the code. -/
def abandoned : List (Operation labRuntime) :=
  [.reconcile labProcess false (fun _ => 1) (fun _ => 1),
    .disable labProcess (person "admin" {"admin"}) labRequestId "lab.box.set" outage 2,
    .reconcile bareProcess false (fun _ => 1) (fun _ => 3)]

theorem abandoned_aborts : ¬ Along (settle attempt) Settles emptyTable abandoned := by
  decide +kernel

end Acop.Registry
