import Acop.Tables

/-! `services/audit.py`: the row that an action leaves in the audit trail, written in the
transaction of the action it describes, so that a row the database refuses takes the action
with it. -/
namespace Acop

inductive AuditOutcome where
  | success | failure | denied | pendingApproval
  deriving DecidableEq

def AuditOutcome.value : AuditOutcome → String
  | success => "SUCCESS"
  | failure => "FAILURE"
  | denied => "DENIED"
  | pendingApproval => "PENDING_APPROVAL"

inductive AuditSeverity where
  | info | notice | warning | critical
  deriving DecidableEq

def AuditSeverity.value : AuditSeverity → String
  | info => "INFO"
  | notice => "NOTICE"
  | warning => "WARNING"
  | critical => "CRITICAL"

/-- A correlation identifier as `normalise_request_id` hands it on: printable characters, at most
`MAX_REQUEST_ID_LENGTH` of them. -/
structure RequestId where
  text : String
  fitting : fits 128 text = true

structure AuditEventCreate where
  action : String
  outcome : AuditOutcome
  severity : AuditSeverity := .info
  resourceType : Option String := none
  resourceId : Option String := none
  permissionClass : Option String := none
  message : Option String := none
  context : JsonObject := []

structure AuditEvent where
  principalSubject : String
  principalType : String
  principalIssuer : String
  authMethod : String
  action : String
  resourceType : Option String
  resourceId : Option String
  permissionClass : Option String
  outcome : String
  severity : String
  message : Option String
  requestId : String
  context : JsonObject

namespace AuditEvent

variable (row : AuditEvent)

/-- The columns of `audit_event`, which has no CHECK. The bounds of `AuditEventCreate` are these
widths too. -/
def checks : List (Constraint × Bool) :=
  [(.columnType,fits 255 row.principalSubject && fits 32 row.principalType && fits 255 row.principalIssuer &&
    fits 32 row.authMethod && fits 128 row.action && fitsOptional 64 row.resourceType &&
    fitsOptional 255 row.resourceId && fitsOptional 32 row.permissionClass && fits 32 row.outcome &&
    fits 16 row.severity && fitsOptional 1024 row.message && fits 128 row.requestId &&
    Json.storableFields row.context)]

def violation : Option Constraint := firstBroken row.checks

end AuditEvent

namespace AuditService

variable (event : AuditEventCreate) (principal : Principal) (requestId : RequestId)

def build : AuditEvent where
  principalSubject := principal.subject
  principalType := principal.principalType.value
  principalIssuer := principal.issuer
  authMethod := principal.authMethod.value
  action := event.action
  resourceType := event.resourceType
  resourceId := event.resourceId
  permissionClass := event.permissionClass
  outcome := event.outcome.value
  severity := event.severity.value
  message := event.message
  requestId := requestId.text
  context := redactObject event.context

/-- `record`, flushed at once. -/
def record : Except Constraint AuditEvent :=
  match (build event principal requestId).violation with
  | some broken => .error broken
  | none => .ok (build event principal requestId)

end AuditService

/-- What an operator who changes the service of a tool version leaves in the trail. -/
def lifecycleEvent (action verb : String) (severity : AuditSeverity) (row : ToolRegistration)
    (permissionClass : PermissionClass) (toolName toolVersion reason : String) : AuditEventCreate where
  action
  outcome := .success
  severity
  resourceType := some "tool_registration"
  resourceId := some row.id.text
  permissionClass := some permissionClass.value
  message := some s!"{toolName}@{toolVersion} {verb}."
  context := [("reason",.str reason)]

def disableEvent (row : ToolRegistration) (permissionClass : PermissionClass) (toolName toolVersion reason : String) :
    AuditEventCreate := lifecycleEvent "tool.disable" "disabled" .warning row permissionClass toolName toolVersion reason

def enableEvent (row : ToolRegistration) (permissionClass : PermissionClass) (toolName toolVersion reason : String) :
    AuditEventCreate := lifecycleEvent "tool.enable" "enabled" .notice row permissionClass toolName toolVersion reason

theorem fits_iff {limit : Nat} {text : String} : fits limit text = true ↔ text.length ≤ limit ∧ Json.plainText text = true := by
  simp only [fits,Bool.and_eq_true,decide_eq_true_eq]

theorem fits_mono {limit limit' : Nat} {text : String} (fitting : fits limit text) (below : limit ≤ limit') : fits limit' text :=
  fits_iff.mpr ⟨(fits_iff.mp fitting).1.trans below,(fits_iff.mp fitting).2⟩

theorem fits_append {limit limit' : Nat} {first second : String} (left : fits limit first) (right : fits limit' second) :
    fits (limit + limit') (first ++ second) := by
  rw [fits_iff] at left right ⊢
  refine ⟨by rw [String.length_append]; omega,?_⟩
  simp only [Json.plainText,String.toList_append,List.all_append,Bool.and_eq_true]
  exact ⟨left.2,right.2⟩

theorem hexDigit_storable (n : Nat) : hexDigit n ≠ '\x00' := by
  by_cases small : n < 16
  · have all : ∀ n < 16, hexDigit n ≠ '\x00' := by decide
    exact all n small
  · have past : hexDigit n = '0' := by
      rw [hexDigit,List.getD_eq_getElem?_getD,List.getElem?_eq_none (not_lt.mp small)]
      rfl
    rw [past]
    decide

theorem Uuid.fits_text (uuid : Uuid) : fits 36 uuid.text := by
  have digit : ∀ {char : Char} {start size : Nat},
      char ∈ (((List.range 32).map fun place => hexDigit (uuid.toNat / 16^(31 - place) % 16)).drop start).take size →
        char ≠ '\x00' := by
    intro char start size member
    obtain ⟨place,_,rfl⟩ := List.mem_map.mp (List.mem_of_mem_drop (List.mem_of_mem_take member))
    exact hexDigit_storable _
  have hyphen : ∀ {char : Char}, char ∈ ['-'] → char ≠ '\x00' := by
    intro char member
    rw [List.mem_singleton.mp member]
    decide
  rw [fits_iff]
  constructor
  · rw [← String.length_toList]
    simp [Uuid.text]
  · rw [Json.plainText,List.all_eq_true]
    intro char member
    apply decide_eq_true
    simp only [Uuid.text,String.toList_intercalate,List.map_cons,List.map_nil,String.toList_ofList,
      List.intercalate_cons_cons,List.intercalate_singleton,List.mem_append] at member
    rcases member with ((member | member) | ((member | member) | ((member | member) | ((member | member) | member))))
    all_goals first | exact digit member | exact hyphen member

theorem record_ok_iff {event : AuditEventCreate} {principal : Principal} {requestId : RequestId} :
    (∃ written, AuditService.record event principal requestId = .ok written) ↔
      (AuditService.build event principal requestId).violation = none := by
  unfold AuditService.record
  split
  · rename_i broken violated
    simp [violated]
  · rename_i passed
    simp [passed]

theorem record_lifecycle {action verb : String} {severity : AuditSeverity} {row : ToolRegistration}
    {permissionClass : PermissionClass} {toolName toolVersion reason : String} {principal : Principal} {requestId : RequestId}
    (acts : fits 128 action) (spelled : fits 128 verb) (named : fits 128 toolName) (versioned : fits 16 toolVersion) :
    (∃ written, AuditService.record
      (lifecycleEvent action verb severity row permissionClass toolName toolVersion reason) principal requestId = .ok written) ↔
      fits 255 principal.subject ∧ fits 255 principal.issuer ∧ Json.plainText reason := by
  have typed : fits 32 principal.principalType.value := by cases principal.principalType <;> decide
  have proven : fits 32 principal.authMethod.value := by cases principal.authMethod <;> decide
  have weighed : fits 16 severity.value := by cases severity <;> decide
  have classed : fits 32 permissionClass.value := by cases permissionClass <;> decide
  have located : fits 255 row.id.text := fits_mono row.id.fits_text (by decide)
  have told : fits 1024 s!"{toolName}@{toolVersion} {verb}." := by
    have joined := fits_append (fits_append (fits_append (fits_append (fits_append named (show fits 1 "@" by decide)) versioned)
      (show fits 1 " " by decide)) spelled) (show fits 1 "." by decide)
    exact fits_mono joined (by decide)
  have kept : redactObject [("reason",.str reason)] = [("reason",.str reason)] := by
    have shown : isSensitiveKey "reason" = false := by decide
    simp [redactObject,redactFields,shown,redactWithin,maxDepth]
  have held : Json.storableFields [("reason",.str reason)] = Json.plainText reason := by
    have key : Json.plainText "reason" = true := by decide
    simp [Json.storableFields,Json.storable,key]
  have passes : (AuditService.build (lifecycleEvent action verb severity row permissionClass toolName toolVersion reason)
      principal requestId).violation = none ↔ fits 255 principal.subject ∧ fits 255 principal.issuer ∧ Json.plainText reason := by
    simp only [AuditEvent.violation,firstBroken_eq_none,AuditEvent.checks,AuditService.build,lifecycleEvent,fitsOptional,
      List.mem_singleton,forall_eq,Option.all_some,kept,held,typed,proven,acts,located,classed,told,weighed,requestId.fitting,
      show fits 64 "tool_registration" by decide,show fits 32 AuditOutcome.success.value by decide,Bool.and_true,
      Bool.and_eq_true,and_assoc]
  exact record_ok_iff.trans passes

end Acop
