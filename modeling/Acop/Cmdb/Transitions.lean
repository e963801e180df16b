import Acop.Cmdb.Fact
import Acop.Transaction.Chronicle

/-! Trust transitions side by side, each a transaction of its own under READ COMMITTED. A
transition reads the fact, decides, and writes what it has changed of the row together with
its attestation; a row or key that one transaction has written is waited for. -/
namespace Acop.Cmdb
open Acop.Store Acop.Transaction

/-- The columns that an UPDATE of a trust transition sets. -/
structure TrustColumns where
  verificationStatus : Option VerificationStatus
  verifiedBySubject : Option (Option String)
  verifiedAt : Option (Option Time)
  approvedBySubject : Option (Option String)
  approvedAt : Option (Option Time)
  deriving DecidableEq

def netChange {Column : Type} [DecidableEq Column] (read changed : Column) : Option Column :=
  if changed = read then none else some changed

namespace TrustColumns

/-- The unit of work writes the columns whose value is not the one that was read. -/
def netChanges (read changed : AssetFact) : TrustColumns where
  verificationStatus := netChange read.verificationStatus changed.verificationStatus
  verifiedBySubject := netChange read.verifiedBySubject changed.verifiedBySubject
  verifiedAt := netChange read.verifiedAt changed.verifiedAt
  approvedBySubject := netChange read.approvedBySubject changed.approvedBySubject
  approvedAt := netChange read.approvedAt changed.approvedAt

def nothing : TrustColumns := ⟨none,none,none,none,none⟩

def setting (columns : TrustColumns) : Revision AssetFact.id where
  change fact := {fact with
    verificationStatus := columns.verificationStatus.getD fact.verificationStatus
    verifiedBySubject := columns.verifiedBySubject.getD fact.verifiedBySubject
    verifiedAt := columns.verifiedAt.getD fact.verifiedAt
    approvedBySubject := columns.approvedBySubject.getD fact.approvedBySubject
    approvedAt := columns.approvedAt.getD fact.approvedAt}
  keeps _ := rfl

end TrustColumns

/-- A write of a transition, with the fact as it was read. -/
inductive TrustWrite where
  | updateFact (read : AssetFact) (columns : TrustColumns)
  | insertAttestation (row : FactAttestation)

/-- What a write keeps others from: a row, a primary key, and the one live authority of a claim. -/
inductive TrustLock where
  | fact (id : Uuid)
  | attestation (id : Uuid)
  | authority (assetId : Uuid) (predicate : String) (factKind : FactKind)
  deriving DecidableEq

def TrustWrite.locks : TrustWrite → List TrustLock
  | updateFact read columns => .fact read.id ::
      (if columns.verificationStatus.any isAuthoritative then [.authority read.assetId read.predicate read.factKind] else [])
  | insertAttestation row => [.attestation row.id]

def Tables.applyTrust (tables : Tables) : TrustWrite → Tables
  | .updateFact read columns => {tables with facts := tables.facts.update read.id columns.setting}
  | .insertAttestation row => match tables.attestations.insert row with
    | some attestations => {tables with attestations}
    | none => tables

inductive TrustStmt where
  | getFact (factId : Uuid)
  | selectIncumbent (fact : AssetFact)
  | utcNow
  | uuid4
  | flush (read changed : AssetFact) (row : FactAttestation)

abbrev TrustReply : TrustStmt → Type
  | .getFact _ => Option AssetFact
  | .selectIncumbent _ => Option AssetFact
  | .utcNow => Time
  | .uuid4 => Uuid
  | .flush _ _ _ => Except Constraint Unit

structure TrustInput where
  now : Time := 0
  uuid : Uuid := 0

/-- The writes of a flush; a row without a net change is not written. -/
def trustWrites (read changed : AssetFact) (row : FactAttestation) : List TrustWrite :=
  let columns := TrustColumns.netChanges read changed
  (if columns = .nothing then [] else [.updateFact read columns]) ++ [.insertAttestation row]

/-- Another live and authoritative claim under the fact's predicate. -/
def incumbentOf (fact other : AssetFact) : Bool :=
  other.assetId = fact.assetId && other.predicate = fact.predicate && other.factKind = fact.factKind &&
    other.validTo = none && isAuthoritative other.verificationStatus && other.id ≠ fact.id

def executeTrust (verdict : Verdict) (tables : Tables) (input : TrustInput) :
    (stmt : TrustStmt) → TrustReply stmt × List TrustWrite
  | .getFact factId => (tables.facts.find factId,[])
  | .selectIncumbent fact => (tables.facts.rows.find? (incumbentOf fact),[])
  | .utcNow => (input.now,[])
  | .uuid4 => (input.uuid,[])
  | .flush read changed row =>
    haveI := Uuid.lawful
    let writes := trustWrites read changed row
    if row.id ∈ tables.attestations.rows.map (·.id) then (.error .primaryKey,[])
    else match verdict (writes.foldl Tables.applyTrust tables) with
      | some constraint => (.error constraint,[])
      | none => (.ok (),writes)

abbrev TrustService := Program TrustReply Refusal

def issue (stmt : TrustStmt) : TrustService (TrustReply stmt) := Program.query stmt

structure TrustRequest where
  factId : Uuid
  action : AttestationAction
  principal : Principal
  reason : Option String := none
  requestId : Option String := none

namespace TrustRequest

def guardSingleAuthority (fact : AssetFact) : TrustService Unit := do
  let found ← issue (.selectIncumbent fact)
  match found with
  | some incumbent => throw (.conflict
      "Another live claim for this predicate is already authoritative. Revoke it first - at most one claim may hold authority."
      [("incumbent_fact_id",.str incumbent.id.text),("incumbent_source_id",.str incumbent.sourceId)])
  | none => return ()

def guardTransition (fact : AssetFact) : AttestationAction → TrustService Unit
  | .revoke =>
    if ¬ isAuthoritative fact.verificationStatus then
      throw (.conflict "Only a VERIFIED or APPROVED claim can be revoked."
        [("current_status",.str fact.verificationStatus.value)])
    else return ()
  | _ => match FactService.guardAuthoritativeTransition fact with
    | .error refusal => throw refusal
    | .ok _ => guardSingleAuthority fact

def save (read changed : AssetFact) (row : FactAttestation) : TrustService AssetFact := do
  let flushed ← issue (.flush read changed row)
  match flushed with
  | .error constraint => throw (.integrity constraint)
  | .ok _ => do
    Program.commitNow
    return changed

/-- `transition`, to the end of its request. -/
def transition (request : TrustRequest) : TrustService AssetFact := do
  let found ← issue (.getFact request.factId)
  match found with
  | none => throw (.notFound s!"Fact {request.factId.text} does not exist.")
  | some fact =>
    if fact.validTo.isSome then
      throw (.conflict "A closed historical claim cannot change trust state; it is already part of the record."
        [("fact_id",.str request.factId.text)])
    else do
      guardTransition fact request.action
      let now ← issue .utcNow
      let changed := FactService.attributed request.action request.principal now fact
      let occurredAt ← issue .utcNow
      let id ← issue .uuid4
      save fact changed (FactService.attestation fact request.action fact.verificationStatus changed.verificationStatus
        request.principal request.reason request.requestId occurredAt id)

end TrustRequest

def transitions (verdict : Verdict) :
    System TrustReply Refusal AssetFact TrustRequest Tables TrustWrite TrustLock TrustInput where
  program := TrustRequest.transition
  apply := Tables.applyTrust
  locks := TrustWrite.locks
  exec stmt tables input := some (executeTrust verdict tables input stmt)

end Acop.Cmdb
