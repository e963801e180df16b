import Acop.Guarantee.Lifecycle
import Acop.System
import Acop.Transaction.Alone

/-! The table of the sequential model is the deployment's: an operator's request that runs alone
commits what `Registry.disable` and `Registry.enable` compute, and raises what they refuse. -/
namespace Acop.Registry
open Acop.Transaction

def Mirrors (db : Db) (table : RegistrationTable) : Prop :=
  ∀ id row, db.registrations.lookup id = some row ↔ row ∈ table.rows ∧ row.id = id

def Raised : RegistryFault → Fault → Prop
  | .notFound message,.notFound told => told = message
  | .integrity constraint,.integrity broken => broken = constraint
  | _,_ => False

/-- A request ends as the sequential one, and leaves the other tables alone. -/
structure Concluded (db : Db) (ended : Except RegistryFault RegistrationTable) (result : Except Fault Answer) (left : Db) : Prop where
  done : ∀ next, ended = .ok next → result = .ok .nothing ∧ Mirrors left next
  refused : ∀ fault, ended = .error fault → (∃ told, result = .error told ∧ Raised fault told) ∧ left = db
  others : left = {db with registrations := left.registrations}

variable {runtime : Runtime} {settings : Settings} {process : Process runtime} {db : Db} {table : RegistrationTable}
  {row : ToolRegistration}

theorem Mirrors.find (mirrors : Mirrors db table) (toolName toolVersion : String) :
    (db.registrations.entries.map (·.2)).find? (fun row => row.toolName = toolName ∧ row.toolVersion = toolVersion) =
      table.rows.find? fun row => row.key = (toolName,toolVersion) := by
  have keyed : ∀ row : ToolRegistration, row.key = (toolName,toolVersion) ↔
      row.toolName = toolName ∧ row.toolVersion = toolVersion := fun row => Prod.mk.injEq _ _ _ _ ▸ Iff.rfl
  have listed : ∀ row, row ∈ db.registrations.entries.map (·.2) ↔ row ∈ table.rows := by
    intro row
    constructor
    · intro member
      obtain ⟨entry,inside,rfl⟩ := List.mem_map.mp member
      exact ((mirrors entry.1 entry.2).mp (AList.mem_lookup_iff.mpr inside)).1
    · intro member
      have found := (mirrors row.id row).mpr ⟨member,rfl⟩
      exact List.mem_map.mpr ⟨⟨row.id,row⟩,AList.mem_lookup_iff.mp found,rfl⟩
  cases found : table.rows.find? fun row => row.key = (toolName,toolVersion) with
  | none =>
    rw [List.find?_eq_none] at found ⊢
    intro row member
    simpa [keyed] using found row ((listed row).mp member)
  | some row =>
    have member := List.mem_of_find?_eq_some found
    have named : row.key = (toolName,toolVersion) := by simpa using List.find?_some found
    cases other : (db.registrations.entries.map (·.2)).find? fun row =>
        row.toolName = toolName ∧ row.toolVersion = toolVersion with
    | none => simpa [(keyed row).mp named] using List.find?_eq_none.mp other row ((listed row).mpr member)
    | some found =>
      have same : found.key = (toolName,toolVersion) := by
        rw [keyed]
        simpa using List.find?_some other
      rw [List.inj_on_of_nodup_map table.distinct ((listed found).mp (List.mem_of_find?_eq_some other)) member
        (same.trans named.symm)]

theorem findSome_update (member : row ∈ table.rows) (columns : RegistrationColumns → RegistrationColumns) :
    (update table row.key columns).findSome? ToolRegistration.violation =
      ToolRegistration.violation {row with toRegistrationColumns := columns row.toRegistrationColumns} := by
  have others : ∀ other ∈ update table row.key columns,
      other = {row with toRegistrationColumns := columns row.toRegistrationColumns} ∨ other.violation = none := by
    intro other present
    obtain ⟨old,oldMember,rfl⟩ := List.mem_map.mp present
    by_cases same : old.key = row.key
    · cases List.inj_on_of_nodup_map table.distinct oldMember member same
      exact .inl (if_pos rfl)
    · right
      rw [if_neg same]
      exact table.checked old oldMember
  have changed : {row with toRegistrationColumns := columns row.toRegistrationColumns} ∈ update table row.key columns :=
    List.mem_map.mpr ⟨row,member,if_pos rfl⟩
  cases violated : ToolRegistration.violation {row with toRegistrationColumns := columns row.toRegistrationColumns} with
  | none =>
    rw [List.findSome?_eq_none_iff]
    intro other present
    rcases others other present with rfl | passed
    · exact violated
    · exact passed
  | some broken =>
    cases found : (update table row.key columns).findSome? ToolRegistration.violation with
    | none => cases (List.findSome?_eq_none_iff.mp found _ changed).symm.trans violated
    | some other =>
      obtain ⟨culprit,present,blamed⟩ := List.exists_of_findSome?_eq_some found
      rcases others culprit present with rfl | passed
      · exact blamed.symm.trans violated
      · cases passed.symm.trans blamed

theorem flush_refused (member : row ∈ table.rows) {columns : RegistrationColumns → RegistrationColumns} {broken : Constraint}
    (violated : ToolRegistration.violation {row with toRegistrationColumns := columns row.toRegistrationColumns} = some broken) :
    flush (update table row.key columns) = .error (.integrity broken) := by
  have found := (findSome_update member columns).trans violated
  unfold flush
  split
  · rename_i constraint other
    cases other.symm.trans found
    rfl
  · rename_i none
    cases none.symm.trans found

theorem flush_passed (member : row ∈ table.rows) {columns : RegistrationColumns → RegistrationColumns}
    (passed : ToolRegistration.violation {row with toRegistrationColumns := columns row.toRegistrationColumns} = none) :
    ∃ next, flush (update table row.key columns) = .ok next ∧ next.rows = update table row.key columns := by
  obtain ⟨next,flushed⟩ := (flush_update member).mpr (violation_eq_none.mp passed)
  exact ⟨next,flushed,rows_of_flush flushed⟩

theorem dirty_self {Value : Type} [DecidableEq Value] (loaded assigned : Value) : dirty loaded assigned loaded = assigned := by
  unfold dirty
  split
  · rename_i same
    exact same.symm
  · rfl

theorem Mirrors.update (mirrors : Mirrors db table) (member : row ∈ table.rows)
    (columns : RegistrationColumns → RegistrationColumns) {next : RegistrationTable}
    (written : next.rows = update table row.key columns) :
    Mirrors (db.apply (.setRegistration row.id (columns row.toRegistrationColumns))) next := by
  have own : db.registrations.lookup row.id = some row := (mirrors row.id row).mpr ⟨member,rfl⟩
  intro id found
  rw [written]
  simp only [Db.apply]
  constructor
  · intro present
    by_cases same : id = row.id
    · subst same
      rw [updateRow_lookup,own] at present
      cases present
      exact ⟨List.mem_map.mpr ⟨row,member,if_pos rfl⟩,rfl⟩
    · rw [updateRow_lookup_ne _ same] at present
      obtain ⟨old,rfl⟩ := (mirrors id found).mp present
      have apart : found.key ≠ row.key := fun shared =>
        same (congrArg ToolRegistration.id (List.inj_on_of_nodup_map table.distinct old member shared))
      exact ⟨List.mem_map.mpr ⟨found,old,if_neg apart⟩,rfl⟩
  · rintro ⟨present,rfl⟩
    obtain ⟨old,oldMember,rfl⟩ := List.mem_map.mp present
    by_cases same : old.key = row.key
    · cases List.inj_on_of_nodup_map table.distinct oldMember member same
      rw [if_pos rfl,updateRow_lookup,own]
      rfl
    · rw [if_neg same]
      have apart : old.id ≠ row.id := by
        intro shared
        have there := (mirrors old.id old).mpr ⟨oldMember,rfl⟩
        rw [shared,own] at there
        exact same (congrArg ToolRegistration.key (Option.some.inj there)).symm
      rw [updateRow_lookup_ne _ apart]
      exact (mirrors old.id old).mpr ⟨oldMember,rfl⟩

section Alone

variable {columns : RegistrationColumns → RegistrationColumns} {event : AuditEventCreate} {principal : Principal}
  {requestId : RequestId} {toolName : String} {payload : ToolLifecycleRequest}

/-- The tail of a request: the flush of the row, the audit row, the end of the transaction. -/
def concluding (row : ToolRegistration) (assigned : RegistrationColumns) (recorded : Except Constraint AuditEvent) :
    Service Answer := do
  flushRegistration row assigned
  let _ ← orRaise recorded
  Program.commitNow
  return .nothing

theorem audited_alone {pending : List Write} {next : RegistrationTable} (flushed : flush (update table row.key columns) = .ok next)
    (mirrors : Mirrors (view db pending) next)
    (others : view db pending = {db with registrations := (view db pending).registrations}) : ∃ result left,
    (acop runtime settings).alone (orRaise (AuditService.record event principal requestId) >>= fun _ =>
      Program.commitNow >>= fun _ => pure Answer.nothing) pending db [] = some (result,left) ∧
    Concluded db (flushAudited table row.key columns event principal requestId) result left := by
  unfold flushAudited
  rw [flushed,ok_bind]
  cases told : AuditService.record event principal requestId with
  | error broken =>
    refine ⟨.error (.integrity broken),db,rfl,?_,?_,rfl⟩
    · intro next ended
      cases ended
    · intro fault ended
      cases ended
      exact ⟨⟨_,rfl,rfl⟩,rfl⟩
  | ok written =>
    refine ⟨.ok .nothing,view db pending,rfl,?_,?_,others⟩
    · intro next ended
      cases ended
      exact ⟨rfl,mirrors⟩
    · intro fault ended
      cases ended

theorem update_self (member : row ∈ table.rows) (same : columns row.toRegistrationColumns = row.toRegistrationColumns) :
    update table row.key columns = table.rows := by
  have kept : ∀ other ∈ table.rows,
      (if other.key = row.key then {other with toRegistrationColumns := columns other.toRegistrationColumns} else other) = other := by
    intro other present
    split
    · rename_i shared
      cases List.inj_on_of_nodup_map table.distinct present member shared
      rw [same]
    · rfl
  exact (List.map_congr_left kept).trans (List.map_id _)

theorem dirtyColumns_self (loaded assigned : RegistrationColumns) : dirtyColumns loaded assigned loaded = assigned := by
  simp only [dirtyColumns,dirty_self]

theorem exec_update (own : db.registrations.lookup row.id = some row) (assigned : RegistrationColumns) (input : Input) :
    (ToolRegistration.violation {row with toRegistrationColumns := assigned} = none ∧
      exec (.updateRegistration row.id (dirtyColumns row.toRegistrationColumns assigned)) db input =
        some (.ok true,[.setRegistration row.id assigned])) ∨
    ∃ broken, ToolRegistration.violation {row with toRegistrationColumns := assigned} = some broken ∧
      exec (.updateRegistration row.id (dirtyColumns row.toRegistrationColumns assigned)) db input = some (.error broken,[]) := by
  simp only [exec,own,dirtyColumns_self]
  cases violated : ToolRegistration.violation {row with toRegistrationColumns := assigned} with
  | none => exact .inl ⟨rfl,rfl⟩
  | some broken => exact .inr ⟨broken,rfl,rfl⟩

theorem alone_query {stmt : Stmt} {rest : Reply stmt → Service Answer} {input : Input} {inputs : List Input}
    {pending new : List Write} {reply : Reply stmt} (answered : exec stmt (view db pending) input = some (reply,new)) :
    (acop runtime settings).alone (query stmt >>= rest) pending db (input::inputs) =
      (acop runtime settings).alone (rest reply) (pending ++ new) db inputs := by
  have answered : (acop runtime settings).exec stmt ((acop runtime settings).settle db pending) input = some (reply,new) := answered
  change (acop runtime settings).alone (.call stmt rest) pending db (input::inputs) = _
  rw [System.alone,answered]

theorem concluding_alone (mirrors : Mirrors db table) (member : row ∈ table.rows) : ∃ inputs result left,
    (acop runtime settings).alone (concluding row (columns row.toRegistrationColumns)
      (AuditService.record event principal requestId)) [] db inputs = some (result,left) ∧
    Concluded db (flushAudited table row.key columns event principal requestId) result left := by
  have own : db.registrations.lookup row.id = some row := (mirrors row.id row).mpr ⟨member,rfl⟩
  unfold concluding flushRegistration
  by_cases same : columns row.toRegistrationColumns = row.toRegistrationColumns
  · -- Nothing is dirty: no UPDATE is issued, and the sequential one changes no row.
    have passed : ToolRegistration.violation {row with toRegistrationColumns := columns row.toRegistrationColumns} = none := by
      rw [same]
      exact table.checked row member
    obtain ⟨next,flushed,written⟩ := flush_passed member passed
    have kept : Mirrors (view db []) next := by
      intro id found
      rw [written,update_self member same]
      exact mirrors id found
    obtain ⟨result,left,ended,concluded⟩ := @audited_alone runtime settings db table row columns event principal requestId
      [] next flushed kept rfl
    refine ⟨[],result,left,?_,concluded⟩
    rw [if_neg (not_not.mpr same)]
    exact ended
  · rw [if_pos same]
    simp only [Program.bind_assoc]
    rcases exec_update own (columns row.toRegistrationColumns) {} with ⟨passed,answered⟩ | ⟨broken,violated,answered⟩
    · obtain ⟨next,flushed,written⟩ := flush_passed member passed
      obtain ⟨result,left,ended,concluded⟩ := @audited_alone runtime settings db table row columns event principal requestId
        [.setRegistration row.id (columns row.toRegistrationColumns)] next flushed (mirrors.update member columns written) rfl
      refine ⟨[{}],result,left,?_,concluded⟩
      rw [alone_query answered]
      exact ended
    · refine ⟨[{}],.error (.integrity broken),db,?_,?_⟩
      · rw [alone_query answered]
        rfl
      · have refused : flushAudited table row.key columns event principal requestId = .error (.integrity broken) := by
          rw [flushAudited,flush_refused member violated]
          rfl
        rw [refused]
        refine ⟨?_,?_,rfl⟩
        · intro next ended
          cases ended
        · intro fault ended
          cases ended
          exact ⟨⟨_,rfl,rfl⟩,rfl⟩

theorem Concluded.missing {message : String} : Concluded db (.error (.notFound message)) (.error (.notFound message)) db where
  done next ended := by cases ended
  refused fault ended := by
    cases ended
    exact ⟨⟨_,rfl,rfl⟩,rfl⟩
  others := rfl

theorem Concluded.unheld {constraint : Constraint} :
    Concluded db (.error (.integrity constraint)) (.error (.integrity constraint)) db where
  done next ended := by cases ended
  refused fault ended := by
    cases ended
    exact ⟨⟨_,rfl,rfl⟩,rfl⟩
  others := rfl

theorem target_alone {toolVersion : String} {rest : ToolRegistration × ToolDefinition → Service Answer}
    {onward : ToolRegistration × ToolDefinition → Except RegistryFault RegistrationTable} (mirrors : Mirrors db table)
    (follows : ∀ row definition, row ∈ table.rows → ∃ inputs result left,
      (acop runtime settings).alone (rest (row,definition)) [] db inputs = some (result,left) ∧
        Concluded db (onward (row,definition)) result left) : ∃ inputs result left,
    (acop runtime settings).alone
      (Acop.lifecycleTarget (process.getDefinition toolName toolVersion) toolName toolVersion >>= rest) [] db inputs =
        some (result,left) ∧
      Concluded db (lifecycleTarget process table toolName toolVersion >>= onward) result left := by
  unfold Acop.lifecycleTarget lifecycleTarget
  by_cases plain : Json.plainText toolName ∧ Json.plainText toolVersion
  · rw [if_neg (not_not.mpr plain),if_neg (not_not.mpr plain),Program.bind_assoc]
    have looked : exec (.selectRegistration toolName toolVersion) db {} =
        some (table.rows.find? (fun row => row.key = (toolName,toolVersion)),[]) := by
      rw [← mirrors.find toolName toolVersion]
      rfl
    cases found : table.rows.find? fun row => row.key = (toolName,toolVersion) with
    | none =>
      rw [found] at looked
      exact ⟨[{}],_,_,(@alone_query runtime settings db _ _ _ _ [] _ _ looked).trans rfl,.missing⟩
    | some row =>
      rw [found] at looked
      cases code : process.getDefinition toolName toolVersion with
      | none => exact ⟨[{}],_,_,(@alone_query runtime settings db _ _ _ _ [] _ _ looked).trans rfl,.missing⟩
      | some definition =>
        obtain ⟨inputs,result,left,ended,concluded⟩ := follows row definition (List.mem_of_find?_eq_some found)
        exact ⟨{}::inputs,result,left,(@alone_query runtime settings db _ _ _ _ [] _ _ looked).trans ended,concluded⟩
  · rw [if_pos plain,if_pos plain]
    exact ⟨[],_,_,rfl,.unheld⟩

/-- A disable that runs alone is `Registry.disable`. -/
theorem disable_alone (mirrors : Mirrors db table) (now : Time) : ∃ inputs result left,
    (acop runtime settings).alone
      (program runtime settings (.disableTool process principal requestId toolName payload.toolVersion payload.reason)) [] db
        inputs = some (result,left) ∧
      Concluded db (disable process table principal requestId toolName payload now) result left := by
  simp only [program,disableTool,Program.bind_assoc]
  refine target_alone mirrors ?_
  intro row definition member
  obtain ⟨inputs,result,left,ended,concluded⟩ := @concluding_alone runtime settings db table row
    (outOfService principal payload now)
    (disableEvent row definition.permissionClass toolName payload.toolVersion payload.reason) principal requestId mirrors member
  have read : exec .utcNow db {now} = some (now,[]) := rfl
  exact ⟨{now}::inputs,result,left,(alone_query read).trans ended,concluded⟩

theorem enable_alone (mirrors : Mirrors db table) : ∃ inputs result left,
    (acop runtime settings).alone
      (program runtime settings (.enableTool process principal requestId toolName payload.toolVersion payload.reason)) [] db
        inputs = some (result,left) ∧
      Concluded db (enable process table principal requestId toolName payload) result left := by
  simp only [program,enableTool,Program.bind_assoc]
  refine target_alone mirrors ?_
  intro row definition member
  dsimp only
  by_cases retired : row.lifecycleState = .retired
  · rw [if_pos retired,if_pos retired]
    exact ⟨[],_,_,rfl,.missing⟩
  · rw [if_neg retired,if_neg retired]
    simp only [Program.bind_assoc]
    exact @concluding_alone runtime settings db table row inService
      (enableEvent row definition.permissionClass toolName payload.toolVersion payload.reason) principal requestId mirrors member

end Alone

end Acop.Registry
