import Acop.Audit
import Acop.Contract
import Acop.Fallible
import Acop.Serial
import Mathlib.Data.Prod.Lex

/-! The registration table between deployments: reconciliation writes the code
registry into it, an operator takes a tool out of service and back. Each operation is
one transaction, refused by the service or aborted by the database. -/
namespace Acop

def ToolRegistration.key (row : ToolRegistration) : String × String := (row.toolName,row.toolVersion)

/-- `tool_registration` under its unique key and its CHECKs. -/
structure RegistrationTable where
  rows : List ToolRegistration
  distinct : (rows.map ToolRegistration.key).Nodup
  checked : ∀ row ∈ rows, row.violation = none

inductive RegistryFault where
  | configuration (message : String) (context : JsonObject)
  | notFound (message : String)
  | integrity (constraint : Constraint)

structure ReconcileReport where
  registered : List String := []
  rehashed : List String := []
  retired : List String := []
  unchanged : List String := []

/-- `POST /tools/{tool_name}/disable` and `/enable`. -/
structure ToolLifecycleRequest where
  toolVersion : String
  reason : String
  version_bounds : 1 ≤ toolVersion.length ∧ toolVersion.length ≤ 16
  reason_bounds : 1 ≤ reason.length ∧ reason.length ≤ 512

namespace Registry

/-- What the table holds once every row of the unit of work is accepted. -/
def flush (rows : List ToolRegistration) : Except RegistryFault RegistrationTable :=
  match broken : rows.findSome? ToolRegistration.violation with
  | some constraint => .error (.integrity constraint)
  | none =>
    if distinct : (rows.map ToolRegistration.key).Nodup then .ok ⟨rows,distinct,List.findSome?_eq_none_iff.mp broken⟩
    else .error (.integrity .toolRegistrationNv)

section Reconcile

variable {runtime : Runtime}

def allDefinitions (process : Process runtime) : List ToolDefinition :=
  process.definitions.insertionSort fun first second => toLex first.key ≤ toLex second.key

/-- Reconciliation between two declarations: `by_key`, the rows dealt with, and the report. -/
structure Reconciling where
  byKey : List ToolRegistration
  session : List ToolRegistration
  report : ReconcileReport

variable (runtime) (allowRehash : Bool) (newId : String × String → Uuid) (now : String × String → Time)

def fresh (definition : ToolDefinition) : ToolRegistration where
  id := newId definition.key
  toolName := definition.toolName
  toolVersion := definition.toolVersion
  contractHash := definition.contractHash runtime
  lifecycleState := definition.lifecycleDefault

def reconcileDefinition (current : Reconciling) (definition : ToolDefinition) : Except RegistryFault Reconciling :=
  let digest := definition.contractHash runtime
  match current.byKey.find? fun row => row.key = definition.key with
  | none => .ok {current with
      session := current.session ++ [fresh runtime newId definition]
      report := {current.report with registered := current.report.registered ++ [definition.qualifiedName]}}
  | some row =>
    let byKey := current.byKey.filter fun row => row.key ≠ definition.key
    if row.contractHash = digest then .ok {
      byKey
      session := current.session ++ [row]
      report := {current.report with unchanged := current.report.unchanged ++ [definition.qualifiedName]}}
    else if ¬ allowRehash then .error (.configuration
      s!"Tool {definition.qualifiedName} changed without a version bump. Approvals already given were bound to envelopes computed under the previous contract, so the correct action is a MAJOR or MINOR version increment, not an in-place edit."
      [("tool",.str definition.qualifiedName),("stored_hash",.str row.contractHash),("code_hash",.str digest)])
    else .ok {
      byKey
      session := current.session ++ [{row with contractHash := digest}]
      report := {current.report with rehashed := current.report.rehashed ++ [definition.qualifiedName]}}

def retire (row : ToolRegistration) : ToolRegistration :=
  if row.lifecycleState = .retired then row else {row with
    lifecycleState := .retired
    retiredAt := some (now row.key)
    retiredReason := some "No code declaration for this tool version."}

def retiredNames (rows : List ToolRegistration) : List String :=
  (rows.filter fun row => row.lifecycleState ≠ .retired).map fun row => row.toolName ++ "@" ++ row.toolVersion

def reconcile {runtime : Runtime} (process : Process runtime) (allowRehash : Bool) (newId : String × String → Uuid)
    (now : String × String → Time) (table : RegistrationTable) : Except RegistryFault (ReconcileReport × RegistrationTable) := do
  let done ← (allDefinitions process).foldlM (reconcileDefinition runtime allowRehash newId) ⟨table.rows,[],{}⟩
  let next ← flush (done.session ++ done.byKey.map (retire now))
  return ({done.report with retired := retiredNames done.byKey},next)

end Reconcile

section Operator

variable {runtime : Runtime} (process : Process runtime) (table : RegistrationTable)

/-- `_lifecycle_target`. PostgreSQL refuses a parameter it cannot hold. -/
def lifecycleTarget (toolName toolVersion : String) : Except RegistryFault (ToolRegistration × ToolDefinition) :=
  if ¬ (Json.plainText toolName ∧ Json.plainText toolVersion) then .error (.integrity .columnType) else
    match table.rows.find? (fun row => row.key = (toolName,toolVersion)),process.getDefinition toolName toolVersion with
    | some row,some definition => .ok (row,definition)
    | _,_ => .error (.notFound s!"No tool {toolName}@{toolVersion}.")

def update (key : String × String) (columns : RegistrationColumns → RegistrationColumns) : List ToolRegistration :=
  table.rows.map fun row => if row.key = key then {row with toRegistrationColumns := columns row.toRegistrationColumns} else row

/-- The columns an operator assigns to take a version out of service. -/
def outOfService (principal : Principal) (payload : ToolLifecycleRequest) (now : Time) (columns : RegistrationColumns) :
    RegistrationColumns := {columns with
  lifecycleState := .disabled
  disabledAt := some now
  disabledBySubject := some principal.subject
  disabledReason := some payload.reason}

def inService (columns : RegistrationColumns) : RegistrationColumns := {columns with
  lifecycleState := .active
  disabledAt := none
  disabledBySubject := none
  disabledReason := none}

/-- The flush of the row, and of the audit row that its transaction takes with it. -/
def flushAudited (key : String × String) (columns : RegistrationColumns → RegistrationColumns) (event : AuditEventCreate)
    (principal : Principal) (requestId : RequestId) : Except RegistryFault RegistrationTable := do
  let next ← flush (update table key columns)
  let _ ← (AuditService.record event principal requestId).mapError .integrity
  return next

def disable (principal : Principal) (requestId : RequestId) (toolName : String) (payload : ToolLifecycleRequest) (now : Time) :
    Except RegistryFault RegistrationTable := do
  let target ← lifecycleTarget process table toolName payload.toolVersion
  flushAudited table target.1.key (outOfService principal payload now)
    (disableEvent target.1 target.2.permissionClass toolName payload.toolVersion payload.reason) principal requestId

def enable (principal : Principal) (requestId : RequestId) (toolName : String) (payload : ToolLifecycleRequest) :
    Except RegistryFault RegistrationTable := do
  let target ← lifecycleTarget process table toolName payload.toolVersion
  if target.1.lifecycleState = .retired then
    .error (.notFound s!"{toolName}@{payload.toolVersion} is retired. Restoring it requires the code declaration to return.")
  else
    flushAudited table target.1.key inService
      (enableEvent target.1 target.2.permissionClass toolName payload.toolVersion payload.reason) principal requestId

end Operator

/-- An operation with the process that serves it, its clock readings and the
identifiers it draws. -/
inductive Operation (runtime : Runtime) where
  | reconcile (process : Process runtime) (allowRehash : Bool) (newId : String × String → Uuid)
      (now : String × String → Time)
  | disable (process : Process runtime) (principal : Principal) (requestId : RequestId) (toolName : String)
      (payload : ToolLifecycleRequest) (now : Time)
  | enable (process : Process runtime) (principal : Principal) (requestId : RequestId) (toolName : String)
      (payload : ToolLifecycleRequest)

def attempt {runtime : Runtime} (table : RegistrationTable) : Operation runtime → Except RegistryFault RegistrationTable
  | .reconcile process allowRehash newId now => return (← reconcile process allowRehash newId now table).2
  | .disable process principal requestId toolName payload now => disable process table principal requestId toolName payload now
  | .enable process principal requestId toolName payload => enable process table principal requestId toolName payload

end Registry

end Acop
