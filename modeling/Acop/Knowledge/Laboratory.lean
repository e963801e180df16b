import Acop.Knowledge.Chunking
import Acop.Knowledge.Retrieval
import Mathlib.Data.Rat.Floor

/-! A small store to run the retrieval on: one embedding space, one source, and
vectors along the axes, whose cosine distance is one less their product. -/
namespace Acop.Knowledge.Laboratory

def axis (place : Nat) : List Int := List.replicate place 0 ++ 1 :: List.replicate (767 - place) 0

def product (first second : List Int) : Int := (List.zipWith (· * ·) first second).sum

def engine : Engine Int Rat where
  distance _ stored asked := 1 - product stored asked
  matchesText _ query content := query = content
  rankCoverDensity _ _ _ := 1
  zero := 0
  one := 1
  add := (· + ·)
  sub := (· - ·)
  inverse count := 1 / count

/-- An index that surfaces the first `count` rows it could. -/
def proposing (count : Nat) : Execution Int where
  index population := population.take count
  index_choice _ := (List.take_sublist _ _).subperm
  scan := BitVec.toNat
  scan_injective := toNat_injective
  ties := BitVec.toNat
  ties_injective := toNat_injective
  exactReply := .answered

def sha256 (content : String) : String :=
  if content = "vlan" then "c3b258168c41c0bce97616716bef315eeed33eb1142904bfe7f32eb392c7cf80"
  else if content = "trunk" then "3e341d2d9c67be01819b25b25d5e53ea3cdf3a38d28846cda85a195eb9b7203a"
  else ""

/-- Python's libraries on ASCII text in which no detector finds anything. -/
def libraries : Instruments where
  sha256 := sha256
  fingerprint := sha256
  nfc content := content
  finditer _ _ := []
  chunkerParams_pos := defaultParams_pos

def space : EmbeddingSpace where
  id := 1
  spaceKey := "gemma"
  provider := "ollama"
  model := "embeddinggemma:latest"
  modelDigest := some "8e2c"
  dimensions := 768
  distanceMetric := .cosine
  normalizeVectors := true
  documentPrefix := "title: none | text: "
  queryPrefix := "task: search result | query: "
  prefixVerifiedAt := some 1
  prefixVerifiedBySubject := some "root"
  maxInputTokens := 2048
  truncationPolicy := .rejectOversize
  isDefault := true
  createdAt := 0

def source (sensitivity : Sensitivity) : KnowledgeSource where
  id := 2
  sourceKind := .runbook
  title := "Runbooks"
  trustClass := .internalVerified
  sensitivity := sensitivity
  lifecycleState := .active

def document : KnowledgeDocument where
  id := 3
  sourceId := 2
  externalRef := "switches.md"
  title := "Switches"
  mediaType := "text/markdown"
  currentVersionId := some 4
  lifecycleState := .active
  createdAt := 0

def version : KnowledgeDocumentVersion where
  id := 4
  documentId := 3
  versionNo := 1
  rawContentHash := "raw"
  textContentHash := "text"
  byteSize := 12
  charCount := 12
  ingestedAt := 0
  ingestedBySubject := "nora"
  supersedesVersionId := none
  supersededAt := none
  screeningOutcome := .clean
  createdByAttemptId := 5

def chunk (place : Nat) (content : String) : KnowledgeChunk where
  id := BitVec.ofNat 128 (10 + place)
  versionId := 4
  documentId := 3
  sourceId := 2
  ordinal := place
  content := content
  contentHash := "hash"
  charStart := place
  charEnd := place + 1
  tokenEstimate := 1
  headingPath := none
  sectionLabel := none
  flags := []

def embedding (place : Nat) (sensitivity : Sensitivity) : KnowledgeEmbedding Int where
  id := BitVec.ofNat 128 (20 + place)
  embeddingSpaceId := 1
  chunkId := BitVec.ofNat 128 (10 + place)
  sourceId := 2
  documentId := 3
  embedding := axis place
  isCurrentEmbedding := true
  isRetrievable := true
  sensitivity := sensitivity
  inputTokenEstimate := 1
  wasTruncated := false

def corpus (authoritative stored : Sensitivity) : Corpus Int where
  spaces := [space]
  sources := [source authoritative]
  documents := [document]
  versions := [version]
  chunks := [chunk 0 "vlan",chunk 1 "trunk",chunk 2 "uplink"]
  embeddings := [embedding 0 stored,embedding 1 stored,embedding 2 stored]
  keyed := by
    cases authoritative <;> cases stored <;>
      exact ⟨by decide,by decide,by decide,by decide,by decide,by decide⟩

def config : RetrievalConfig :=
  ⟨{},by decide,by decide,by decide,by decide,by decide⟩

def narrow : RetrievalConfig :=
  ⟨{exactMaxRows := 1},by decide,by decide,by decide,by decide,by decide⟩

def viewer : Principal := ⟨"nora",.human,"lab",.apiKey,{"viewer"}⟩

end Acop.Knowledge.Laboratory
