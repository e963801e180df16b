import Acop.Knowledge.Corpus
import Acop.Store.Table
import Acop.Tables

/-! The evidence store as it is written: the canonical rows, the attempts beside them,
and what PostgreSQL asks of each row. A digest always fits its column, and the integers
of a document of the admitted size fit theirs. -/
namespace Acop.Knowledge
open Acop.Store

structure KnowledgeIngestAttempt where
  id : Uuid
  sourceId : Uuid
  externalRef : String
  documentId : Option Uuid := none
  versionId : Option Uuid := none
  rawContentHash : String
  textContentHash : Option String := none
  byteSize : Int
  mediaType : String
  outcome : IngestOutcome := .pending
  requestedBySubject : String
  principalType : PrincipalType
  principalIssuer : String
  authMethod : AuthMethod
  requestId : Option String
  chunkCount : Option Int := none
  embeddedCount : Option Int := none
  blockingFindingCount : Int := 0
  errorCode : Option String := none
  startedAt : Time
  finishedAt : Option Time := none
  deriving DecidableEq

structure KnowledgeFinding extends Finding where
  id : Uuid
  attemptId : Uuid
  versionId : Option Uuid
  deriving DecidableEq

structure KnowledgeFindingDisposition where
  id : Uuid
  sourceId : Uuid
  externalRef : String
  rawContentHash : String
  matchFingerprint : String
  detector : String
  disposition : Disposition
  reason : String
  decidedBySubject : String
  originAttemptId : Uuid
  decidedAt : Time
  deriving DecidableEq

def KnowledgeEmbedding.key {φ : Type} (embedding : KnowledgeEmbedding φ) : Uuid × Uuid :=
  (embedding.id,embedding.embeddingSpaceId)

structure Canon (φ : Type) where
  documents : Table KnowledgeDocument.id
  versions : Table KnowledgeDocumentVersion.id
  chunks : Table KnowledgeChunk.id
  embeddings : Table (@KnowledgeEmbedding.key φ)

structure Records (φ : Type) where
  spaces : Table EmbeddingSpace.id
  sources : Table KnowledgeSource.id
  canon : Canon φ
  attempts : Table KnowledgeIngestAttempt.id
  findings : Table KnowledgeFinding.id
  dispositions : Table KnowledgeFindingDisposition.id

inductive Constraint where
  | columnType | primaryKey | attemptSource | successfulHasVersion | documentSourceRef | versionNo | rawHash
  | versionNoPositive | supersession | chunkOrdinal | charRange | ordinalNonNegative | contentNotEmpty | embeddingSpace
  | vectorType | currentEmbedding
  deriving DecidableEq

inductive Refusal where
  | notFound (message : String)
  | conflict (message : String) (context : JsonObject)
  | validation (message : String) (context : JsonObject)
  | authorization (message : String) (context : JsonObject)
  | secretRejected (publicMessage : String) (context : JsonObject)
  | embeddingUnavailable
  | integrity (constraint : Constraint)
  /-- An exception of Python, or of the embedder, by its type's name. -/
  | exception (name : String)

def columns (checks : List (Constraint × Bool)) : Except Refusal Unit :=
  match checks.find? fun check => !check.2 with
  | some (constraint,_) => .error (.integrity constraint)
  | none => .ok ()

def keyed {Row Key : Type} {key : Row → Key} (inserted : Option (Table key)) : Except Refusal (Table key) :=
  match inserted with
  | some table => .ok table
  | none => .error (.integrity .primaryKey)

section Insert

variable {φ : Type} (records : Records φ) (canon : Canon φ)

def KnowledgeIngestAttempt.checks (row : KnowledgeIngestAttempt) : List (Constraint × Bool) :=
  [(.columnType,fits 1024 row.externalRef && fits 64 row.mediaType && fits 255 row.requestedBySubject &&
    fits 255 row.principalIssuer && fitsOptional 128 row.requestId && isInteger row.byteSize)]

def insertAttempt (row : KnowledgeIngestAttempt) : Except Refusal (Records φ) := do
  columns (row.checks ++ [(.attemptSource,(records.sources.find row.sourceId).isSome)])
  let attempts ← keyed (records.attempts.insert row)
  return {records with attempts}

def KnowledgeDocument.checks (row : KnowledgeDocument) : List (Constraint × Bool) :=
  [(.columnType,fits 1024 row.externalRef && fits 512 row.title && fits 64 row.mediaType)]

/-- `uq_knowledge_document_source_ref` clashes. -/
def sameActiveRef (first second : KnowledgeDocument) : Bool :=
  first.sourceId = second.sourceId && first.externalRef = second.externalRef && first.lifecycleState = .active &&
    second.lifecycleState = .active

def insertDocument (row : KnowledgeDocument) : Except Refusal (Canon φ) := do
  columns (row.checks ++ [(.documentSourceRef,!canon.documents.rows.any (sameActiveRef row))])
  let documents ← keyed (canon.documents.insert row)
  return {canon with documents}

def KnowledgeDocumentVersion.checks (row : KnowledgeDocumentVersion) : List (Constraint × Bool) :=
  [(.columnType,fits 255 row.ingestedBySubject),
    (.versionNoPositive,0 < row.versionNo),
    (.supersession,row.supersedesVersionId = none ↔ row.versionNo = 1)]

def versionsOf (documentId : Uuid) : List KnowledgeDocumentVersion :=
  canon.versions.rows.filter (·.documentId = documentId)

def insertVersion (row : KnowledgeDocumentVersion) : Except Refusal (Canon φ) := do
  columns (row.checks ++
    [(.versionNo,(versionsOf canon row.documentId).all (·.versionNo ≠ row.versionNo)),
      (.rawHash,(versionsOf canon row.documentId).all (·.rawContentHash ≠ row.rawContentHash))])
  let versions ← keyed (canon.versions.insert row)
  return {canon with versions}

def KnowledgeChunk.checks (row : KnowledgeChunk) : List (Constraint × Bool) :=
  [(.columnType,Json.plainText row.content && row.headingPath.all (·.all Json.plainText) && fitsOptional 255 row.sectionLabel),
    (.charRange,row.charStart < row.charEnd),
    (.ordinalNonNegative,0 ≤ row.ordinal),
    (.contentNotEmpty,row.content ≠ "")]

def KnowledgeChunk.place (row : KnowledgeChunk) : Uuid × Int := (row.versionId,row.ordinal)

/-- The flush that inserts a version's chunks, and updates its document's title. -/
def insertChunks (title : String) (rows : List KnowledgeChunk) : Except Refusal (Canon φ) := do
  columns ([(.columnType,fits 512 title)] ++ rows.flatMap (·.checks) ++
    [(.chunkOrdinal,decide ((canon.chunks.rows ++ rows).map (·.place)).Nodup)])
  let chunks ← keyed (canon.chunks.insertAll rows)
  return {canon with chunks}

/-- Where `uq_ke_d768_current` applies. -/
def currentPlaces (rows : List (KnowledgeEmbedding φ)) : List (Uuid × Uuid) :=
  (rows.filter (·.isCurrentEmbedding)).map fun row => (row.chunkId,row.embeddingSpaceId)

/-- Which components pgvector stores; it refuses a NaN and an infinity. -/
def KnowledgeEmbedding.checks (storable : φ → Bool) (row : KnowledgeEmbedding φ) : List (Constraint × Bool) :=
  [(.vectorType,(row.embedding.length : Int) = d768 && row.embedding.all storable)]

def insertEmbeddings (storable : φ → Bool) (rows : List (KnowledgeEmbedding φ)) : Except Refusal (Canon φ) := do
  columns (rows.flatMap (·.checks storable) ++
    [(.currentEmbedding,decide (currentPlaces (canon.embeddings.rows ++ rows)).Nodup)])
  let embeddings ← keyed (canon.embeddings.insertAll rows)
  return {canon with embeddings}

end Insert

end Acop.Knowledge
