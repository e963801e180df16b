import Acop.Json
import Acop.Knowledge.Screening

/-! `models/knowledge.py` and `models/embedding.py`: the evidence store. A `Corpus`
is what one statement of the database sees of it, the unique constraints included;
`Row` is one stored vector joined with its chunk, its document and its source. -/
namespace Acop.Knowledge

theorem toNat_injective : Function.Injective (BitVec.toNat : Uuid → Nat) := fun _ _ => BitVec.eq_of_toNat_eq

structure EmbeddingSpace where
  id : Uuid
  spaceKey : String
  provider : String
  model : String
  modelDigest : Option String
  dimensions : Int
  distanceMetric : DistanceMetric
  normalizeVectors : Bool
  documentPrefix : String
  queryPrefix : String
  prefixVerifiedAt : Option Time
  prefixVerifiedBySubject : Option String
  maxInputTokens : Int
  truncationPolicy : TruncationPolicy
  isDefault : Bool
  createdAt : Time
  deriving DecidableEq

structure KnowledgeSource where
  id : Uuid
  sourceKind : SourceKind
  title : String
  trustClass : TrustClass
  sensitivity : Sensitivity
  lifecycleState : KnowledgeLifecycle
  retiredAt : Option Time := none
  retiredBySubject : Option String := none
  deriving DecidableEq

structure KnowledgeDocument where
  id : Uuid
  sourceId : Uuid
  externalRef : String
  title : String
  mediaType : String
  currentVersionId : Option Uuid
  lifecycleState : KnowledgeLifecycle
  createdAt : Time
  retiredAt : Option Time := none
  retiredBySubject : Option String := none
  deriving DecidableEq

structure KnowledgeDocumentVersion where
  id : Uuid
  documentId : Uuid
  versionNo : Int
  rawContentHash : String
  textContentHash : String
  byteSize : Int
  charCount : Int
  parserName : String := Knowledge.parserName
  parserVersion : String := Knowledge.parserVersion
  chunkerName : String := Knowledge.chunkerName
  chunkerVersion : String := Knowledge.chunkerVersion
  chunkerParams : ChunkerParams := {}
  sourceModifiedAt : Option Time := none
  ingestedAt : Time
  ingestedBySubject : String
  supersedesVersionId : Option Uuid
  supersededAt : Option Time
  screeningOutcome : ScreeningOutcome
  createdByAttemptId : Uuid
  deriving DecidableEq

/-- `lexeme` is a generated column over `content` and is read through `content` here. -/
structure KnowledgeChunk where
  id : Uuid
  versionId : Uuid
  documentId : Uuid
  sourceId : Uuid
  ordinal : Int
  content : String
  contentHash : String
  charStart : Int
  charEnd : Int
  tokenEstimate : Int
  headingPath : Option (List String)
  sectionLabel : Option String
  flags : List String
  deriving DecidableEq

/-- `KnowledgeEmbeddingD768`. The components are of any type: a machine float is
never computed with here, only compared by the database. -/
structure KnowledgeEmbedding (φ : Type) where
  id : Uuid
  embeddingSpaceId : Uuid
  chunkId : Uuid
  sourceId : Uuid
  documentId : Uuid
  embedding : List φ
  isCurrentEmbedding : Bool
  isRetrievable : Bool
  sensitivity : Sensitivity
  inputTokenEstimate : Int
  wasTruncated : Bool
  deriving DecidableEq

structure KnowledgeAssetMention where
  id : Uuid
  chunkId : Uuid
  assetId : Option Uuid
  mentionText : String
  mentionSource : String
  resolution : String
  candidateAssetIds : List Uuid
  matchedNamespace : Option String
  createdBySubject : String
  createdAt : Time
  deriving DecidableEq

def d768 : Int := 768

structure Tables (φ : Type) where
  spaces : List EmbeddingSpace := []
  sources : List KnowledgeSource := []
  documents : List KnowledgeDocument := []
  versions : List KnowledgeDocumentVersion := []
  chunks : List KnowledgeChunk := []
  embeddings : List (KnowledgeEmbedding φ) := []
  mentions : List KnowledgeAssetMention := []

/-- The primary keys, and `uq_ke_d768_current`. -/
structure Keyed {φ : Type} (tables : Tables φ) : Prop where
  spaces : (tables.spaces.map (·.id)).Nodup
  sources : (tables.sources.map (·.id)).Nodup
  documents : (tables.documents.map (·.id)).Nodup
  versions : (tables.versions.map (·.id)).Nodup
  chunks : (tables.chunks.map (·.id)).Nodup
  current : ((tables.embeddings.filter (·.isCurrentEmbedding)).map fun e => (e.chunkId,e.embeddingSpaceId)).Nodup

structure Corpus (φ : Type) extends Tables φ where
  keyed : Keyed toTables

structure Row (φ : Type) where
  embedding : KnowledgeEmbedding φ
  chunk : KnowledgeChunk
  document : KnowledgeDocument
  source : KnowledgeSource

/-- `_PROJECTION`: the columns every stage selects. -/
structure Passage where
  chunkId : Uuid
  documentId : Uuid
  sourceId : Uuid
  versionId : Uuid
  ordinal : Int
  content : String
  headingPath : Option (List String)
  sectionLabel : Option String
  flags : List String
  tokenEstimate : Int
  sensitivity : Sensitivity
  trustClass : TrustClass
  sourceKind : SourceKind
  sourceTitle : String
  documentTitle : String
  externalRef : String
  deriving DecidableEq

def Row.passage {φ : Type} (row : Row φ) : Passage where
  chunkId := row.chunk.id
  documentId := row.chunk.documentId
  sourceId := row.chunk.sourceId
  versionId := row.chunk.versionId
  ordinal := row.chunk.ordinal
  content := row.chunk.content
  headingPath := row.chunk.headingPath
  sectionLabel := row.chunk.sectionLabel
  flags := row.chunk.flags
  tokenEstimate := row.chunk.tokenEstimate
  sensitivity := row.source.sensitivity
  trustClass := row.source.trustClass
  sourceKind := row.source.sourceKind
  sourceTitle := row.source.title
  documentTitle := row.document.title
  externalRef := row.document.externalRef

section

variable {φ : Type} (tables : Tables φ)

/-- The joins of every stage: by `chunk_id`, and from the chunk by `document_id`
and `source_id`. -/
def Tables.row (embedding : KnowledgeEmbedding φ) : Option (Row φ) := do
  let chunk ← tables.chunks.find? (·.id = embedding.chunkId)
  let document ← tables.documents.find? (·.id = chunk.documentId)
  let source ← tables.sources.find? (·.id = chunk.sourceId)
  return ⟨embedding,chunk,document,source⟩

def Tables.rows : List (Row φ) := tables.embeddings.filterMap tables.row

variable {tables}

theorem Tables.row_embedding {embedding : KnowledgeEmbedding φ} {row : Row φ}
    (joined : tables.row embedding = some row) : row.embedding = embedding := by
  simp only [Tables.row,Option.bind_eq_bind,Option.pure_def,Option.bind_eq_some_iff,Option.some.injEq] at joined
  obtain ⟨chunk,_,document,_,source,_,rfl⟩ := joined
  rfl

structure Joined (tables : Tables φ) (row : Row φ) : Prop where
  embedding : row.embedding ∈ tables.embeddings
  chunk : row.chunk ∈ tables.chunks
  document : row.document ∈ tables.documents
  source : row.source ∈ tables.sources
  byChunk : row.chunk.id = row.embedding.chunkId
  byDocument : row.document.id = row.chunk.documentId
  bySource : row.source.id = row.chunk.sourceId

theorem Tables.joined_of_row {embedding : KnowledgeEmbedding φ} {row : Row φ} (stored : embedding ∈ tables.embeddings)
    (joined : tables.row embedding = some row) : Joined tables row := by
  simp only [Tables.row,Option.bind_eq_bind,Option.pure_def,Option.bind_eq_some_iff,Option.some.injEq] at joined
  obtain ⟨chunk,foundChunk,document,foundDocument,source,foundSource,rfl⟩ := joined
  exact {
    embedding := stored
    chunk := List.mem_of_find?_eq_some foundChunk
    document := List.mem_of_find?_eq_some foundDocument
    source := List.mem_of_find?_eq_some foundSource
    byChunk := by simpa using List.find?_some foundChunk
    byDocument := by simpa using List.find?_some foundDocument
    bySource := by simpa using List.find?_some foundSource }

theorem Tables.joined_of_mem {row : Row φ} (mem : row ∈ tables.rows) : Joined tables row := by
  obtain ⟨embedding,stored,joined⟩ := List.mem_filterMap.mp mem
  exact Tables.joined_of_row stored joined

end

end Acop.Knowledge
