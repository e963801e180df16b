import Acop.Knowledge.Catalog

/-! Ingestions and reclassifications side by side. A statement sees what is committed when it
runs, its transaction's own writes are seen by others from its commit on, and a source that
one transaction has updated is locked against the others until it ends. -/
namespace Acop.Knowledge
open Acop.Store

/-- The rows of the sensitivities, and of the chunks by which they are found. -/
structure Labels (φ : Type) where
  sources : Table KnowledgeSource.id
  chunks : Table KnowledgeChunk.id
  embeddings : Table (@KnowledgeEmbedding.key φ)

def Records.labels {φ : Type} (records : Records φ) : Labels φ := ⟨records.sources,records.canon.chunks,records.canon.embeddings⟩

/-- What `ingest` has read and written: the vectors that leave retrieval, and the new rows. -/
structure Ingestion (φ : Type) where
  source : KnowledgeSource
  vacated : List (Uuid × Uuid) := []
  chunks : List KnowledgeChunk := []
  embeddings : List (KnowledgeEmbedding φ) := []

/-- A call of `reclassify_source` that changes the sensitivity of the source that it has read. -/
structure Reclassification where
  source : KnowledgeSource
  trustClass : Option TrustClass
  sensitivity : Sensitivity

/-- How far a reclassification is: it has read the source, updated it, or selected the vectors to repair. -/
inductive Stage where
  | read
  | updated
  | selected (keys : List (Uuid × Uuid))

inductive Session (φ : Type) where
  | idle
  | ingest (ingestion : Ingestion φ)
  | reclassify (reclassification : Reclassification) (stage : Stage)

inductive Turn (φ : Type) where
  | readForIngest (sourceId : Uuid)
  | retireEmbeddings (versionId : Uuid)
  | persist (submission : Submission φ) (space : EmbeddingSpace) (version : KnowledgeDocumentVersion) (chunks : List Chunk)
      (vectors : List (List φ))
  | readForReclassify (sourceId : Uuid) (trustClass : Option TrustClass) (sensitivity : Sensitivity)
  | updateSource
  | resync
  | commit
  | rollback

section Labels

variable {φ : Type} (labels : Labels φ)

def Labels.keys (which : KnowledgeEmbedding φ → Bool) : List (Uuid × Uuid) :=
  (labels.embeddings.rows.filter which).map (·.key)

def Labels.stale (sourceId : Uuid) (sensitivity : Sensitivity) (embedding : KnowledgeEmbedding φ) : Bool :=
  embedsChunk labels.chunks (·.sourceId = sourceId) embedding && embedding.sensitivity ≠ sensitivity

def Labels.commitIngest (ingestion : Ingestion φ) : Option (Labels φ) := do
  let chunks ← labels.chunks.insertAll ingestion.chunks
  let embeddings ← (labels.embeddings.revise (·.key ∈ ingestion.vacated) unretrievable).insertAll ingestion.embeddings
  return {labels with chunks,embeddings}

def Reclassification.assign (reclassification : Reclassification) (sources : Table KnowledgeSource.id) :
    Table KnowledgeSource.id :=
  let trusted := match reclassification.trustClass with
    | none => sources
    | some trustClass => sources.update reclassification.source.id (trusting trustClass)
  trusted.update reclassification.source.id (classifying reclassification.sensitivity)

def Labels.commitReclassify (reclassification : Reclassification) (keys : List (Uuid × Uuid)) : Labels φ :=
  {labels with
    sources := reclassification.assign labels.sources
    embeddings := labels.embeddings.revise (·.key ∈ keys) (resyncing reclassification.sensitivity)}

end Labels

def Session.locks {φ : Type} : Session φ → Option Uuid
  | .reclassify reclassification .updated => some reclassification.source.id
  | .reclassify reclassification (.selected _) => some reclassification.source.id
  | _ => none

structure Concurrent (φ : Type) where
  labels : Labels φ
  sessions : List (Session φ)

section Step

variable {φ : Type} (instruments : Instruments) (state : Concurrent φ)

/-- One statement of a session: the committed rows and the session behind it. It waits for a lock. -/
def Concurrent.perform : Session φ → Turn φ → Option (Labels φ × Session φ)
  | .idle,.readForIngest sourceId => do
    let source ← state.labels.sources.find sourceId
    if source.lifecycleState ≠ .active then none else some (state.labels,.ingest {source})
  | .ingest ingestion,.retireEmbeddings versionId =>
    some (state.labels,.ingest {ingestion with
      vacated := state.labels.keys (embedsChunk state.labels.chunks (·.versionId = versionId))})
  | .ingest ingestion,.persist submission space version chunks vectors =>
    let rows := chunkRows instruments submission version ingestion.source.id chunks
    some (state.labels,.ingest {ingestion with
      chunks := rows
      embeddings := embeddingRows submission space ingestion.source rows vectors})
  | .ingest ingestion,.commit => do
    let labels ← state.labels.commitIngest ingestion
    some (labels,.idle)
  | .idle,.readForReclassify sourceId trustClass sensitivity => do
    let source ← state.labels.sources.find sourceId
    if source.sensitivity = sensitivity then none else some (state.labels,.reclassify ⟨source,trustClass,sensitivity⟩ .read)
  | .reclassify reclassification .read,.updateSource =>
    if state.sessions.any (·.locks = some reclassification.source.id) then none
    else some (state.labels,.reclassify reclassification .updated)
  | .reclassify reclassification .updated,.resync =>
    some (state.labels,.reclassify reclassification (.selected (state.labels.keys
      (state.labels.stale reclassification.source.id reclassification.sensitivity))))
  | .reclassify reclassification (.selected keys),.commit =>
    some (state.labels.commitReclassify reclassification keys,.idle)
  | _,.rollback => some (state.labels,.idle)
  | _,_ => none

def Concurrent.step (op : Nat × Turn φ) : Option (Concurrent φ) := do
  let session ← state.sessions[op.1]?
  let (labels,later) ← state.perform instruments session op.2
  return ⟨labels,state.sessions.set op.1 later⟩

/-- A statement that cannot run leaves everything as it is. -/
def Concurrent.next (state : Concurrent φ) (op : Nat × Turn φ) : Concurrent φ :=
  (state.step instruments op).getD state

/-- No ingestion or reclassification is in progress. -/
def Concurrent.Quiescent : Prop := ∀ session ∈ state.sessions, session = .idle

end Step

end Acop.Knowledge
