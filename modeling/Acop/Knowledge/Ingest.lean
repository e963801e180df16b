import Acop.Knowledge.Chunking
import Acop.Knowledge.Records
import Acop.Fallible
import Acop.Selection.Ordered
import Mathlib.Data.Prod.Lex

/-! `services/knowledge/ingest.py`: the one write path into canonical knowledge. An attempt
is committed on a transaction of its own, and so is its end, unless a version is committed
with it: then both are part of the request's transaction. -/
namespace Acop.Knowledge
open Acop.Store Acop.Selection

structure IngestRequest where
  sourceId : Uuid
  externalRef : String
  title : String
  content : String
  mediaType : String := "text/markdown"
  sourceModifiedAt : Option Time := none

structure IngestResult where
  attemptId : Uuid
  outcome : IngestOutcome
  documentId : Option Uuid
  versionId : Option Uuid
  versionNo : Option Int
  chunkCount : Nat
  embeddedCount : Nat
  advisoryFindingCount : Nat
  deriving DecidableEq

/-- What `embed_documents` does. -/
inductive EmbedReply (φ : Type) where
  | vectors (vectors : List (List φ))
  | unavailable
  | raised (name : String)

/-- The clock readings of one call and the identifiers it draws. -/
structure Draws where
  attempt : Uuid
  document : Uuid
  version : Uuid
  chunk : Nat → Uuid
  embedding : Nat → Uuid
  finding : Nat → Uuid
  startedAt : Time
  now : Time
  finishedAt : Time

/-- A call of `ingest`, with the embedder that it meets: by texts and prefix. -/
structure Submission (φ : Type) where
  request : IngestRequest
  principal : Principal
  requestId : Option String := none
  embedder : List String → String → EmbedReply φ
  draws : Draws

inductive Answer where
  | returned (result : IngestResult)
  | raised (refusal : Refusal)

section Attempt

variable {φ : Type} (instruments : Instruments) (submission : Submission φ) (records : Records φ)

def Submission.rawHash : String := instruments.sha256 submission.request.content

def Submission.normalised : String := normalise instruments.nfc submission.request.content

def Submission.textHash : String := instruments.sha256 (submission.normalised instruments)

def openedAttempt : KnowledgeIngestAttempt where
  id := submission.draws.attempt
  sourceId := submission.request.sourceId
  externalRef := submission.request.externalRef
  rawContentHash := submission.rawHash instruments
  byteSize := submission.request.content.utf8ByteSize
  mediaType := submission.request.mediaType
  requestedBySubject := submission.principal.subject
  principalType := submission.principal.principalType
  principalIssuer := submission.principal.issuer
  authMethod := submission.principal.authMethod
  requestId := submission.requestId
  startedAt := submission.draws.startedAt

def openAttempt : Except Refusal (Records φ) := insertAttempt records (openedAttempt instruments submission)

/-- The arguments of `_close_attempt`. -/
structure Closing where
  outcome : IngestOutcome
  documentId : Option Uuid := none
  versionId : Option Uuid := none
  textHash : Option String := none
  chunkCount : Option Int := none
  embeddedCount : Option Int := none
  blockingFindings : Int := 0
  errorCode : Option String := none
  findings : List Finding := []

def Closing.finish (closing : Closing) (finishedAt : Time) : Revision KnowledgeIngestAttempt.id where
  change attempt := {attempt with
    outcome := closing.outcome
    documentId := closing.documentId
    versionId := closing.versionId
    textContentHash := closing.textHash
    chunkCount := closing.chunkCount
    embeddedCount := closing.embeddedCount
    blockingFindingCount := closing.blockingFindings
    errorCode := closing.errorCode
    finishedAt := some finishedAt}
  keeps _ := rfl

/-- `_finding_row`, for each of the findings. -/
def findingRows (draws : Draws) (versionId : Option Uuid) (findings : List Finding) : List KnowledgeFinding :=
  findings.mapIdx fun place finding =>
    {finding with id := draws.finding place,attemptId := draws.attempt,versionId}

def closeAttempt (draws : Draws) (closing : Closing) : Except Refusal (Records φ) := do
  columns [(.successfulHasVersion,decide (closing.outcome ∈ canonicalOutcomes) = closing.versionId.isSome)]
  let findings ← keyed (records.findings.insertAll (findingRows draws none closing.findings))
  return {records with
    attempts := records.attempts.update draws.attempt (closing.finish draws.finishedAt)
    findings}

end Attempt

section Gate

variable {φ : Type} (ties : Uuid → Nat) (records : Records φ)

/-- `ORDER BY decided_at`; rows of one time come as the database meets them. -/
def byDecision (row : KnowledgeFindingDisposition) : Time ×ₗ Nat := toLex (row.decidedAt,ties row.id)

def InScope (sourceId : Uuid) (externalRef rawHash : String) (row : KnowledgeFindingDisposition) : Prop :=
  row.sourceId = sourceId ∧ row.externalRef = externalRef ∧ row.rawContentHash = rawHash

instance (sourceId : Uuid) (externalRef rawHash : String) (row : KnowledgeFindingDisposition) :
    Decidable (InScope sourceId externalRef rawHash row) := inferInstanceAs (Decidable (_ ∧ _))

def latest (sourceId : Uuid) (externalRef rawHash fingerprint : String) : Option Disposition :=
  let rows := ordered (byDecision ties) (records.dispositions.rows.filter (InScope sourceId externalRef rawHash ·))
  (rows.reverse.find? (·.matchFingerprint = fingerprint)).map (·.disposition)

/-- Membership of `_cleared_fingerprints`. -/
def cleared (sourceId : Uuid) (externalRef rawHash fingerprint : String) : Bool :=
  (latest ties records sourceId externalRef rawHash fingerprint).any (· ∈ unblockingDispositions)

end Gate

/-- How a call ends before anything canonical is written. -/
inductive Exit where
  /-- The attempt is closed, and the exception raised. -/
  | refused (closing : Closing) (refusal : Refusal)
  | unchanged (closing : Closing) (result : IngestResult)
  /-- An exception that nothing on the way catches. -/
  | aborted (refusal : Refusal)

section Judge

variable {φ : Type} (instruments : Instruments) (ties : Uuid → Nat) (submission : Submission φ) (space : EmbeddingSpace)
  (records : Records φ)

def rejectedInvalid (errorCode : String) (refusal : Refusal) : Exit :=
  .refused {outcome := .rejectedInvalid,errorCode := some errorCode} refusal

def validate : Except Exit KnowledgeSource :=
  let request := submission.request
  match records.sources.find request.sourceId with
  | none => .error (rejectedInvalid "source_not_found" (.notFound s!"Knowledge source {request.sourceId.text} does not exist."))
  | some source =>
    if source.lifecycleState ≠ .active then
      .error (rejectedInvalid "source_retired" (.conflict "Cannot ingest into a retired source." []))
    else if request.mediaType ∉ supportedMediaTypes then
      .error (rejectedInvalid "unsupported_media_type" (.validation
        "Milestone 3 ingests ['text/markdown', 'text/plain'] only." [("media_type",.str request.mediaType)]))
    else if maxDocumentBytes < request.content.utf8ByteSize then
      .error (rejectedInvalid "document_too_large" (.validation
        s!"Document exceeds {maxDocumentBytes} bytes." [("byte_size",.int request.content.utf8ByteSize)]))
    else .ok source

def findDocument : Option KnowledgeDocument :=
  records.canon.documents.rows.find? fun document => document.sourceId = submission.request.sourceId &&
    document.externalRef = submission.request.externalRef && document.lifecycleState = .active

def currentVersion (document : Option KnowledgeDocument) : Option KnowledgeDocumentVersion :=
  document.bind fun document => document.currentVersionId.bind records.canon.versions.find

def unchangedResult (outcome : IngestOutcome) (documentId : Option Uuid) (current : KnowledgeDocumentVersion) : IngestResult where
  attemptId := submission.draws.attempt
  outcome
  documentId
  versionId := some current.id
  versionNo := some current.versionNo
  chunkCount := 0
  embeddedCount := 0
  advisoryFindingCount := 0

/-- Idempotence, which is decided against the current version alone. -/
def checkUnchanged (document : Option KnowledgeDocument) : Option KnowledgeDocumentVersion → Except Exit Unit
  | none => .ok ()
  | some current =>
    let documentId := document.map (·.id)
    if current.rawContentHash = submission.rawHash instruments then
      .error (.unchanged {outcome := .unchanged,documentId,textHash := some current.textContentHash}
        (unchangedResult submission .unchanged documentId current))
    else if current.textContentHash = submission.textHash instruments then
      .error (.unchanged {outcome := .unchangedText,documentId,textHash := some (submission.textHash instruments)}
        (unchangedResult submission .unchangedText documentId current))
    else .ok ()

def maxListed : Nat := 5

/-- The message of `KnowledgeSecretRejectedError`. -/
def secretRejectedMessage (attemptId : Uuid) (findings : List Finding) : String :=
  let listed := "; ".intercalate ((findings.take maxListed).map fun finding => s!"{finding.detector} at {finding.locator}")
  let remainder := findings.length - maxListed
  let located := if 0 < remainder then s!"{listed}; and {remainder} more" else listed
  "Submission refused: the content appears to contain secret material. Detected: " ++ located ++
    ". The matched values were not stored, logged or returned. Attempt " ++ attemptId.text ++
    " records the findings for approver review."

/-- The blocking findings that no approver has judged a false positive. -/
def unresolved (report : List Finding) : List Finding :=
  (blocking report).filter fun finding => !cleared ties records submission.request.sourceId submission.request.externalRef
    (submission.rawHash instruments) finding.matchFingerprint

def passGate (report : List Finding) : Except Exit Unit :=
  let left := unresolved instruments ties submission records report
  if left ≠ [] then
    .error (.refused {
      outcome := .rejectedSecret
      textHash := some (submission.textHash instruments)
      blockingFindings := left.length
      errorCode := some "secret_rejected"
      findings := report}
      (.secretRejected (secretRejectedMessage submission.draws.attempt left)
        [("attempt_id",.str submission.draws.attempt.text),
          ("blocking_findings",.arr (left.map fun finding => .obj [("detector",.str finding.detector),
            ("locator",.str finding.locator),("fingerprint",.str finding.matchFingerprint)]))]))
  else .ok ()

def prefixTokens : Int := if space.documentPrefix ≠ "" then estimateTokens space.documentPrefix else 0

def oversize (chunks : List Chunk) : List Chunk :=
  chunks.filter fun chunk => space.maxInputTokens < chunk.tokenEstimate + prefixTokens space

def oversizeFinding (chunk : Chunk) : Finding where
  findingType := .oversizeInput
  severity := .advisory
  detector := "chunk_size"
  detectorVersion := detectorVersion
  locator := s!"chunk ordinal {chunk.ordinal}"
  matchFingerprint := instruments.fingerprint s!"oversize:{chunk.ordinal}"

def unverifiedMessage (spaceKey : String) : String :=
  "Embedding space '" ++ spaceKey ++ "' is unusable: nobody has verified what the provider does with task prompt prefixes. " ++
  "Run scripts/probe_embedding_prefixes.py against the provider, then POST /knowledge/embedding-spaces/\x7bspace_id\x7d/" ++
  "verify-prefixes. Embedding into an unverified space produces a corpus that cannot be searched correctly, and reports " ++
  "nothing while doing it."

/-- The chunks and their vectors, from a space that is verified. -/
def embedChunks (report : List Finding) : Except Exit (List Chunk × List (List φ)) :=
  let textHash := some (submission.textHash instruments)
  if space.prefixVerifiedAt = none then
    .error (.refused {
      outcome := .rejectedInvalid
      textHash
      errorCode := some "embedding_prefixes_unverified"
      findings := report}
      (.conflict (unverifiedMessage space.spaceKey) [("space_key",.str space.spaceKey)]))
  else
    let chunks := instruments.chunkDocument (submission.normalised instruments)
    match oversize space chunks,space.truncationPolicy with
    | first::rest,.rejectOversize =>
      .error (.refused {
        outcome := .rejectedInvalid
        textHash
        chunkCount := some chunks.length
        errorCode := some "chunk_exceeds_model_input"
        findings := report ++ [oversizeFinding instruments first]}
        (.validation "A chunk exceeds the embedding model's input limit and the space's policy is REJECT_OVERSIZE."
          [("max_input_tokens",.int space.maxInputTokens),
            ("largest_chunk_tokens",.int ((first::rest).foldl (fun most chunk => max most chunk.tokenEstimate) first.tokenEstimate))]))
    | _,_ =>
      match submission.embedder (chunks.map (·.content)) space.documentPrefix with
      | .vectors vectors => .ok (chunks,vectors)
      | .unavailable =>
        .error (.refused {
          outcome := .failedEmbedding
          textHash
          chunkCount := some chunks.length
          errorCode := some "embedding_unavailable"
          findings := report}
          .embeddingUnavailable)
      | .raised name => .error (.aborted (.exception name))

structure Admitted (φ : Type) where
  source : KnowledgeSource
  document : Option KnowledgeDocument
  current : Option KnowledgeDocumentVersion
  report : List Finding
  chunks : List Chunk
  vectors : List (List φ)

/-- `ingest`, up to the first canonical write. -/
def judge : Except Exit (Admitted φ) := do
  let source ← validate submission records
  let document := findDocument submission records
  let current := currentVersion records document
  checkUnchanged instruments submission document current
  let report := screen instruments (submission.normalised instruments)
  passGate instruments ties submission records report
  let (chunks,vectors) ← embedChunks instruments submission space report
  return {source,document,current,report,chunks,vectors}

end Judge

section Persist

variable {φ : Type} (instruments : Instruments) (submission : Submission φ) (space : EmbeddingSpace)

def newDocument : KnowledgeDocument where
  id := submission.draws.document
  sourceId := submission.request.sourceId
  externalRef := submission.request.externalRef
  title := submission.request.title
  mediaType := submission.request.mediaType
  currentVersionId := none
  lifecycleState := .active
  createdAt := submission.draws.now

def newVersion (documentId : Uuid) (current : Option KnowledgeDocumentVersion) (report : List Finding) :
    KnowledgeDocumentVersion where
  id := submission.draws.version
  documentId
  versionNo := match current with
    | some current => current.versionNo + 1
    | none => 1
  rawContentHash := submission.rawHash instruments
  textContentHash := submission.textHash instruments
  byteSize := submission.request.content.utf8ByteSize
  charCount := (submission.normalised instruments).length
  chunkerParams := instruments.chunkerParams
  sourceModifiedAt := submission.request.sourceModifiedAt
  ingestedAt := submission.draws.now
  ingestedBySubject := submission.principal.subject
  supersedesVersionId := current.map (·.id)
  supersededAt := none
  screeningOutcome := if advisory report ≠ [] then .flagged else .clean
  createdByAttemptId := submission.draws.attempt

def superseding (now : Time) : Revision KnowledgeDocumentVersion.id where
  change version := {version with supersededAt := some now}
  keeps _ := rfl

def unretrievable : Revision (@KnowledgeEmbedding.key φ) where
  change embedding := {embedding with isRetrievable := false}
  keeps _ := rfl

def embedsChunk (chunks : Table KnowledgeChunk.id) (which : KnowledgeChunk → Bool) (embedding : KnowledgeEmbedding φ) : Bool :=
  chunks.rows.any fun chunk => chunk.id = embedding.chunkId && which chunk

def embeddingModelFor (dimensions : Int) : Except Refusal Unit :=
  if dimensions = d768 then .ok () else .error (.exception "KeyError")

/-- What happens to the current version: it is closed, and its vectors leave retrieval. -/
def supersede (canon : Canon φ) : Option KnowledgeDocumentVersion → Except Refusal (Canon φ)
  | none => .ok canon
  | some current => do
    embeddingModelFor space.dimensions
    return {canon with
      versions := canon.versions.update current.id (superseding submission.draws.now)
      embeddings := canon.embeddings.revise (embedsChunk canon.chunks (·.versionId = current.id)) unretrievable}

def pointing (versionId : Uuid) (title : String) : Revision KnowledgeDocument.id where
  change document := {document with currentVersionId := some versionId,title}
  keeps _ := rfl

def chunkRow (injections : List (Nat × Nat)) (version : KnowledgeDocumentVersion) (sourceId : Uuid) (place : Nat) (chunk : Chunk) :
    KnowledgeChunk where
  id := submission.draws.chunk place
  versionId := version.id
  documentId := version.documentId
  sourceId
  ordinal := chunk.ordinal
  content := chunk.content
  contentHash := instruments.sha256 chunk.content
  charStart := chunk.charStart
  charEnd := chunk.charEnd
  tokenEstimate := chunk.tokenEstimate
  headingPath := if chunk.headingPath ≠ [] then some chunk.headingPath else none
  sectionLabel := chunk.sectionLabel
  flags := if overlaps injections chunk.charStart chunk.charEnd then [ChunkFlag.injectionSuspected.value] else []

def chunkRows (version : KnowledgeDocumentVersion) (sourceId : Uuid) (chunks : List Chunk) : List KnowledgeChunk :=
  chunks.mapIdx (chunkRow instruments submission (injectionRanges instruments (submission.normalised instruments)) version sourceId)

def embeddingRow (source : KnowledgeSource) (place : Nat) (row : KnowledgeChunk) (vector : List φ) : KnowledgeEmbedding φ where
  id := submission.draws.embedding place
  embeddingSpaceId := space.id
  chunkId := row.id
  sourceId := source.id
  documentId := row.documentId
  embedding := vector
  isCurrentEmbedding := true
  isRetrievable := true
  sensitivity := source.sensitivity
  inputTokenEstimate := row.tokenEstimate
  wasTruncated := false

def embeddingRows (source : KnowledgeSource) (rows : List KnowledgeChunk) (vectors : List (List φ)) : List (KnowledgeEmbedding φ) :=
  (rows.zip vectors).mapIdx fun place pair => embeddingRow submission space source place pair.1 pair.2

/-- `zip(..., strict=True)`. -/
def strictZip {α β : Type} (first : List α) (second : List β) : Except Refusal Unit :=
  if first.length = second.length then .ok () else .error (.exception "ValueError")

variable (storable : φ → Bool) (records : Records φ)

/-- The document that a version is for, which a first version creates. -/
def ensureDocument (canon : Canon φ) : Option KnowledgeDocument → Except Refusal (KnowledgeDocument × Canon φ)
  | some document => .ok (document,canon)
  | none => return (newDocument submission,← insertDocument canon (newDocument submission))

/-- `_persist`: every canonical row, in the request's transaction. -/
def persist (admitted : Admitted φ) : Except Refusal (KnowledgeDocumentVersion × Records φ) := do
  let (document,drafted) ← ensureDocument submission records.canon admitted.document
  let version := newVersion instruments submission document.id admitted.current admitted.report
  let versioned ← insertVersion drafted version
  let vacated ← supersede submission space versioned admitted.current
  let pointed := {vacated with
    documents := vacated.documents.update document.id (pointing version.id submission.request.title)}
  embeddingModelFor space.dimensions
  let rows := chunkRows instruments submission version admitted.source.id admitted.chunks
  let chunked ← insertChunks pointed submission.request.title rows
  strictZip rows admitted.vectors
  columns [(.embeddingSpace,(records.spaces.find space.id).isSome)]
  let embedded ← insertEmbeddings chunked storable (embeddingRows submission space admitted.source rows admitted.vectors)
  let findings ← keyed (records.findings.insertAll
    (findingRows submission.draws (some version.id) (advisory admitted.report)))
  return (version,{records with canon := embedded,findings})

end Persist

section Ingest

variable {φ : Type} (instruments : Instruments) (ties : Uuid → Nat) (storable : φ → Bool) (submission : Submission φ)
  (space : EmbeddingSpace) (records : Records φ)

def endAttempt (opened : Records φ) (closing : Closing) (answer : Answer) : Answer × Records φ :=
  match closeAttempt opened submission.draws closing with
  | .ok closed => (answer,closed)
  | .error refusal => (.raised refusal,opened)

def versionOutcome (version : KnowledgeDocumentVersion) : IngestOutcome :=
  if version.versionNo = 1 then .created else .versioned

def versionClosing (version : KnowledgeDocumentVersion) (admitted : Admitted φ) : Closing where
  outcome := versionOutcome version
  documentId := some version.documentId
  versionId := some version.id
  textHash := some (submission.textHash instruments)
  chunkCount := some admitted.chunks.length
  embeddedCount := some admitted.vectors.length

def versionResult (version : KnowledgeDocumentVersion) (admitted : Admitted φ) : IngestResult where
  attemptId := submission.draws.attempt
  outcome := versionOutcome version
  documentId := some version.documentId
  versionId := some version.id
  versionNo := some version.versionNo
  chunkCount := admitted.chunks.length
  embeddedCount := admitted.vectors.length
  advisoryFindingCount := (advisory admitted.report).length

def earnVersion (opened : Records φ) (admitted : Admitted φ) : Except Refusal (IngestResult × Records φ) := do
  let (version,persisted) ← persist instruments submission space storable opened admitted
  let closed ← closeAttempt persisted submission.draws (versionClosing instruments submission version admitted)
  return (versionResult submission version admitted,closed)

/-- `ingest`, and what is committed once it has ended. -/
def ingest : Answer × Records φ :=
  match openAttempt instruments submission records with
  | .error refusal => (.raised refusal,records)
  | .ok opened =>
    match judge instruments ties submission space opened with
    | .error (.refused closing refusal) => endAttempt submission opened closing (.raised refusal)
    | .error (.unchanged closing result) => endAttempt submission opened closing (.returned result)
    | .error (.aborted refusal) => (.raised refusal,opened)
    | .ok admitted =>
      match earnVersion instruments storable submission space opened admitted with
      | .ok (result,committed) => (.returned result,committed)
      | .error refusal => (.raised refusal,opened)

end Ingest

end Acop.Knowledge
