import Acop.Knowledge.Ingest
import Acop.Serial

/-! `services/knowledge/catalog.py` and `spaces.py`: reclassification, retirement,
dispositions and the default space, and the operations on the store as a whole. -/
namespace Acop.Knowledge
open Acop.Store Acop.Serial

section Spaces

variable {φ : Type} (records : Records φ)

/-- `EmbeddingSpaceService.get`, or `default_space` where none is named. -/
def resolveSpace : Option Uuid → Except Refusal EmbeddingSpace
  | some spaceId =>
    match records.spaces.find spaceId with
    | some space => .ok space
    | none => .error (.notFound s!"Embedding space {spaceId.text} does not exist.")
  | none =>
    match records.spaces.rows.find? (·.isDefault) with
    | some space => .ok space
    | none => .error (.notFound ("No default embedding space is registered. Register one with " ++
      "scripts/register_embedding_space.py after verifying the provider's prompt-prefix behaviour."))

def flagDefault (flag : Bool) : Revision EmbeddingSpace.id where
  change space := {space with isDefault := flag}
  keeps _ := rfl

/-- The bulk statement clears every flag, and the mapper then writes the flag of the
space only if it was loaded as unset. -/
def setDefault (spaceId : Uuid) : Except Refusal (Records φ) := do
  let space ← resolveSpace records (some spaceId)
  let clearedFlags := records.spaces.revise (·.isDefault) (flagDefault false)
  return {records with
    spaces := if space.isDefault then clearedFlags else clearedFlags.update spaceId (flagDefault true)}

def verifying (subject : String) (now : Time) : Revision EmbeddingSpace.id where
  change space := {space with prefixVerifiedAt := some now,prefixVerifiedBySubject := some subject}
  keeps _ := rfl

def markPrefixesVerified (spaceId : Uuid) (subject : String) (now : Time) : Except Refusal (Records φ) := do
  let _ ← resolveSpace records (some spaceId)
  columns [(.columnType,fits 255 subject)]
  return {records with spaces := records.spaces.update spaceId (verifying subject now)}

/-- A change of the vectors, for each dimension family that a registered space is of. -/
def perFamily (revised : Canon φ) : Except Refusal (Canon φ) :=
  if records.spaces.rows.any (·.dimensions ≠ d768) then .error (.exception "KeyError")
  else if records.spaces.rows = [] then .ok records.canon
  else .ok revised

end Spaces

section Catalog

variable {φ : Type} (records : Records φ)

def getSource (sourceId : Uuid) : Except Refusal KnowledgeSource :=
  match records.sources.find sourceId with
  | some source => .ok source
  | none => .error (.notFound s!"Knowledge source {sourceId.text} does not exist.")

def getDocument (documentId : Uuid) : Except Refusal KnowledgeDocument :=
  match records.canon.documents.find documentId with
  | some document => .ok document
  | none => .error (.notFound s!"Knowledge document {documentId.text} does not exist.")

def retireVectors (which : KnowledgeChunk → Bool) : Except Refusal (Canon φ) :=
  perFamily records {records.canon with
    embeddings := records.canon.embeddings.revise
      (fun embedding => embedsChunk records.canon.chunks which embedding && embedding.isRetrievable) unretrievable}

def retiringSource (principal : Principal) (now : Time) : Revision KnowledgeSource.id where
  change source := {source with
    lifecycleState := .retired
    retiredAt := some now
    retiredBySubject := some principal.subject}
  keeps _ := rfl

def retireSource (sourceId : Uuid) (principal : Principal) (now : Time) : Except Refusal (Records φ) := do
  let source ← getSource records sourceId
  if source.lifecycleState = .retired then
    .error (.conflict s!"Knowledge source {sourceId.text} is already retired." [])
  else
    columns [(.columnType,fits 255 principal.subject)]
    let canon ← retireVectors records (·.sourceId = sourceId)
    return {records with sources := records.sources.update sourceId (retiringSource principal now),canon}

def retiringDocument (principal : Principal) (now : Time) : Revision KnowledgeDocument.id where
  change document := {document with
    lifecycleState := .retired
    retiredAt := some now
    retiredBySubject := some principal.subject}
  keeps _ := rfl

def retireDocument (documentId : Uuid) (principal : Principal) (now : Time) : Except Refusal (Records φ) := do
  let document ← getDocument records documentId
  if document.lifecycleState = .retired then
    .error (.conflict s!"Knowledge document {documentId.text} is already retired." [])
  else
    columns [(.columnType,fits 255 principal.subject)]
    let canon ← retireVectors records (·.documentId = documentId)
    return {records with canon := {canon with documents := canon.documents.update documentId (retiringDocument principal now)}}

def trusting (trustClass : TrustClass) : Revision KnowledgeSource.id where
  change source := {source with trustClass}
  keeps _ := rfl

def classifying (sensitivity : Sensitivity) : Revision KnowledgeSource.id where
  change source := {source with sensitivity}
  keeps _ := rfl

def resyncing (sensitivity : Sensitivity) {φ : Type} : Revision (@KnowledgeEmbedding.key φ) where
  change embedding := {embedding with sensitivity}
  keeps _ := rfl

/-- `resync_source_sensitivity`, of a source whose sensitivity is this. -/
def resyncSourceSensitivity (sourceId : Uuid) (sensitivity : Sensitivity) : Except Refusal (Canon φ) :=
  perFamily records {records.canon with
    embeddings := records.canon.embeddings.revise
      (fun embedding => embedsChunk records.canon.chunks (·.sourceId = sourceId) embedding && embedding.sensitivity ≠ sensitivity)
      (resyncing sensitivity)}

def guardTrust (trustClass : TrustClass) (principal : Principal) : Except Refusal Unit :=
  if trustClass ∈ approverOnlyTrust ∧ ¬ (principal.HasRole .approver ∨ principal.HasRole .admin) then
    .error (.authorization s!"Trust class {trustClass.value} may only be assigned by an approver."
      [("trust_class",.str trustClass.value)])
  else .ok ()

/-- `if trust_class is not None`. -/
def assignTrust (sourceId : Uuid) (principal : Principal) : Option TrustClass → Except Refusal (Records φ)
  | none => .ok records
  | some trustClass => do
    guardTrust trustClass principal
    return {records with sources := records.sources.update sourceId (trusting trustClass)}

/-- `if sensitivity is not None and source.sensitivity != sensitivity.value`. -/
def assignSensitivity (source : KnowledgeSource) : Option Sensitivity → Except Refusal (Records φ)
  | none => .ok records
  | some sensitivity =>
    if source.sensitivity = sensitivity then .ok records
    else do
      let canon ← resyncSourceSensitivity records source.id sensitivity
      return {records with sources := records.sources.update source.id (classifying sensitivity),canon}

def reclassifySource (sourceId : Uuid) (principal : Principal) (trustClass : Option TrustClass)
    (sensitivity : Option Sensitivity) : Except Refusal (Records φ) := do
  if trustClass = none ∧ sensitivity = none then
    .error (.validation "Reclassification must change something." [])
  else
    let source ← getSource records sourceId
    let trusted ← assignTrust records sourceId principal trustClass
    assignSensitivity trusted source sensitivity

def dispositionRow (attempt : KnowledgeIngestAttempt) (finding : KnowledgeFinding) (principal : Principal)
    (disposition : Disposition) (reason : String) (id : Uuid) (decidedAt : Time) : KnowledgeFindingDisposition where
  id
  sourceId := attempt.sourceId
  externalRef := attempt.externalRef
  rawContentHash := attempt.rawContentHash
  matchFingerprint := finding.matchFingerprint
  detector := finding.detector
  disposition
  reason
  decidedBySubject := principal.subject
  originAttemptId := attempt.id
  decidedAt

def recordDisposition (findingId : Uuid) (principal : Principal) (disposition : Disposition) (reason : String) (id : Uuid)
    (decidedAt : Time) : Except Refusal (Records φ) := do
  match records.findings.find findingId with
  | none => .error (.notFound s!"Knowledge finding {findingId.text} does not exist.")
  | some finding =>
    match records.attempts.find finding.attemptId with
    | none => .error (.notFound s!"Ingest attempt {finding.attemptId.text} does not exist.")
    | some attempt =>
      columns [(.columnType,fits 1024 reason && fits 255 principal.subject)]
      let dispositions ← keyed (records.dispositions.insert
        (dispositionRow attempt finding principal disposition reason id decidedAt))
      return {records with dispositions}

end Catalog

inductive CatalogOperation where
  | recordDisposition (findingId : Uuid) (principal : Principal) (disposition : Disposition) (reason : String) (id : Uuid)
      (decidedAt : Time)
  | reclassifySource (sourceId : Uuid) (principal : Principal) (trustClass : Option TrustClass) (sensitivity : Option Sensitivity)
  | retireDocument (documentId : Uuid) (principal : Principal) (now : Time)
  | retireSource (sourceId : Uuid) (principal : Principal) (now : Time)
  | setDefault (spaceId : Uuid)
  | markPrefixesVerified (spaceId : Uuid) (subject : String) (now : Time)

/-- An operation on the store, a submission into the space it names or else the default one. -/
inductive Operation (φ : Type) where
  | submit (submission : Submission φ) (spaceId : Option Uuid)
  | catalog (operation : CatalogOperation)

section Serve

variable {φ : Type}

def attempt (records : Records φ) : CatalogOperation → Except Refusal (Records φ)
  | .recordDisposition findingId principal disposition reason id decidedAt =>
    recordDisposition records findingId principal disposition reason id decidedAt
  | .reclassifySource sourceId principal trustClass sensitivity =>
    reclassifySource records sourceId principal trustClass sensitivity
  | .retireDocument documentId principal now => retireDocument records documentId principal now
  | .retireSource sourceId principal now => retireSource records sourceId principal now
  | .setDefault spaceId => setDefault records spaceId
  | .markPrefixesVerified spaceId subject now => markPrefixesVerified records spaceId subject now

variable (instruments : Instruments) (ties : Uuid → Nat) (storable : φ → Bool)

/-- `POST /knowledge/documents`. -/
def submit (records : Records φ) (submission : Submission φ) (spaceId : Option Uuid) : Answer × Records φ :=
  match resolveSpace records spaceId with
  | .error refusal => (.raised refusal,records)
  | .ok space => ingest instruments ties storable submission space records

def next (records : Records φ) : Operation φ → Records φ
  | .submit submission spaceId => (submit instruments ties storable records submission spaceId).2
  | .catalog operation => settle attempt records operation

def after (records : Records φ) (ops : List (Operation φ)) : Records φ := run (next instruments ties storable) records ops

end Serve

end Acop.Knowledge
