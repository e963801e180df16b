import Acop.Knowledge.Corpus
import Acop.Selection.Ordered
import Acop.Text
import Mathlib.Data.Prod.Lex

/-! `services/knowledge/retrieval.py`: dense, lexical and hybrid retrieval. The
latencies of the diagnostics are left out, as no decision reads them. -/
namespace Acop.Knowledge
open Acop.Selection

inductive KnowledgeError where
  | validation (message : String)
  | conflict (message : String)
  | notFound (message : String)
  | authorization (message : String)
  | dimension (message : String)
  | unavailable
  | secretRejected (message : String)
  | integrity (constraint : String)
  | database (message : String)
  | value (message : String)
  deriving DecidableEq

/-- What the database and the float arithmetic compute. -/
structure Engine (φ ν : Type) where
  distance : DistanceMetric → List φ → List φ → ν
  /-- `c.lexeme @@ websearch_to_tsquery(config, query)`, by configuration, query and content. -/
  matchesText : String → String → String → Bool
  rankCoverDensity : String → String → String → ν
  zero : ν
  one : ν
  add : ν → ν → ν
  sub : ν → ν → ν
  inverse : Int → ν

inductive ExactReply where
  | answered | cancelled | failed
  deriving DecidableEq

/-- What one call is free in: the rows the approximate index proposes, the order
in which rows are met, how ties are put and how the exact statement ends. The
settings of the index search and the deadline of the exact statement act here. -/
structure Execution (φ : Type) where
  index : List (KnowledgeEmbedding φ) → List (KnowledgeEmbedding φ)
  index_choice : ∀ population, (index population).Subperm population
  scan : Uuid → Nat
  scan_injective : Function.Injective scan
  ties : Uuid → Nat
  ties_injective : Function.Injective ties
  exactReply : ExactReply

structure RetrievalPolicy where
  allowedSensitivities : Finset Sensitivity
  excludedTrust : Finset TrustClass
  deriving DecidableEq

/-- The union over the roles; a name that is no key contributes nothing. -/
def policyFor (principal : Principal) : RetrievalPolicy where
  allowedSensitivities := principal.roles.biUnion fun role => (defaultRoleSensitivity.lookup role).getD ∅
  excludedTrust := neverRetrievedTrust

structure RetrievalFilters where
  sourceIds : List Uuid := []
  documentIds : List Uuid := []
  sourceKinds : List String := []
  trustClasses : List String := []

def maxK : Int := 100

structure RetrievalTuning where
  k : Int := 10
  annOverfetch : Int := 8
  annCandidateCap : Int := 2000
  hnswEfSearch : Int := 100
  hnswIterativeScan : Option String := none
  exactFallbackEnabled : Bool := true
  exactMaxRows : Int := 50000
  exactTimeoutMs : Int := 5000
  lexicalLimit : Int := 100
  rrfK : Int := defaultRrfK

/-- A tuning that `__post_init__` let through. -/
structure RetrievalConfig extends RetrievalTuning where
  k_range : 1 ≤ k ∧ k ≤ maxK
  annOverfetch_pos : 1 ≤ annOverfetch
  exactMaxRows_pos : 1 ≤ exactMaxRows
  lexicalLimit_pos : 1 ≤ lexicalLimit
  rrfK_pos : 1 ≤ rrfK

def RetrievalTuning.postInit (tuning : RetrievalTuning) : Except KnowledgeError RetrievalConfig :=
  if k_range : 1 ≤ tuning.k ∧ tuning.k ≤ maxK then
    if annOverfetch_pos : 1 ≤ tuning.annOverfetch then
      if exactMaxRows_pos : 1 ≤ tuning.exactMaxRows then
        if lexicalLimit_pos : 1 ≤ tuning.lexicalLimit then
          if rrfK_pos : 1 ≤ tuning.rrfK then
            .ok ⟨tuning,k_range,annOverfetch_pos,exactMaxRows_pos,lexicalLimit_pos,rrfK_pos⟩
          else .error (.validation "rrf_k must be at least 1.")
        else .error (.validation "lexical_limit must be at least 1.")
      else .error (.validation "exact_max_rows must be at least 1.")
    else .error (.validation "ann_overfetch must be at least 1.")
  else .error (.validation s!"k must be between 1 and {maxK}.")

def RetrievalConfig.candidateLimit (config : RetrievalConfig) : Int :=
  min (config.k * config.annOverfetch) config.annCandidateCap

/-- `_with_k`, which leaves `lexical_limit` and `rrf_k` at their defaults. -/
def RetrievalConfig.withK (config : RetrievalConfig) (k : Int) : Except KnowledgeError RetrievalConfig :=
  RetrievalTuning.postInit {
    k
    annOverfetch := config.annOverfetch
    annCandidateCap := config.annCandidateCap
    hnswEfSearch := config.hnswEfSearch
    hnswIterativeScan := config.hnswIterativeScan
    exactFallbackEnabled := config.exactFallbackEnabled
    exactMaxRows := config.exactMaxRows
    exactTimeoutMs := config.exactTimeoutMs }

structure RetrievedChunk (ν : Type) extends Passage where
  distance : Option ν
  score : ν
  rank : Int
  method : RetrievalMethod
  embeddingSpaceId : Uuid
  vectorRank : Option Int
  lexicalRank : Option Int
  lexicalScore : Option ν
  fusedScore : Option ν

structure RetrievalDiagnostics where
  strategy : RetrievalStrategy
  mode : RetrievalMode := .vector
  embeddingSpaceId : Uuid
  requestedK : Int
  annCandidateLimit : Int
  annCandidatesReturned : Int
  annEligibleCount : Int
  eligiblePopulation : Option Int
  eligiblePopulationCapped : Bool
  exactRowsRanked : Option Int
  returnedCount : Int
  degraded : Bool
  degradationReason : Option String
  lexicalCandidates : Option Int := none
  fusedCandidates : Option Int := none
  rrfK : Option Int := none
  deriving DecidableEq

structure RetrievalResult (ν : Type) where
  results : List (RetrievedChunk ν)
  diagnostics : RetrievalDiagnostics
  policy : RetrievalPolicy

/-- `LIMIT count`, whose parameter is a `bigint`. -/
def limit {α : Type} (count : Int) (rows : List α) : Except KnowledgeError (List α) :=
  if count < 0 then .error (.database "LIMIT must not be negative")
  else if 2^63 ≤ count then .error (.database "value out of int64 range")
  else .ok (rows.take count.toNat)

section

variable {φ : Type}

/-- `_ELIGIBILITY`. -/
def Eligible (policy : RetrievalPolicy) (filters : RetrievalFilters) (row : Row φ) : Prop :=
  row.source.sensitivity ∈ policy.allowedSensitivities ∧
  row.source.trustClass ∉ policy.excludedTrust ∧
  row.source.lifecycleState = .active ∧
  row.document.lifecycleState = .active ∧
  row.document.currentVersionId = some row.chunk.versionId ∧
  (filters.sourceIds = [] ∨ row.chunk.sourceId ∈ filters.sourceIds) ∧
  (filters.documentIds = [] ∨ row.chunk.documentId ∈ filters.documentIds) ∧
  (filters.sourceKinds = [] ∨ row.source.sourceKind.value ∈ filters.sourceKinds) ∧
  (filters.trustClasses = [] ∨ row.source.trustClass.value ∈ filters.trustClasses)

instance (policy : RetrievalPolicy) (filters : RetrievalFilters) (row : Row φ) : Decidable (Eligible policy filters row) :=
  inferInstanceAs (Decidable (_ ∧ _))

def VectorLifecycle (space : EmbeddingSpace) (embedding : KnowledgeEmbedding φ) : Prop :=
  embedding.embeddingSpaceId = space.id ∧ embedding.isCurrentEmbedding ∧ embedding.isRetrievable

instance (space : EmbeddingSpace) (embedding : KnowledgeEmbedding φ) : Decidable (VectorLifecycle space embedding) :=
  inferInstanceAs (Decidable (_ ∧ _))

def VectorSensitivity (policy : RetrievalPolicy) (embedding : KnowledgeEmbedding φ) : Prop :=
  embedding.sensitivity ∈ policy.allowedSensitivities

instance (policy : RetrievalPolicy) (embedding : KnowledgeEmbedding φ) : Decidable (VectorSensitivity policy embedding) :=
  inferInstanceAs (Decidable (_ ∈ _))

/-- The vectors that `_VECTOR_LIFECYCLE` leaves of the parent relation. -/
def Tables.population (tables : Tables φ) (space : EmbeddingSpace) : List (KnowledgeEmbedding φ) :=
  tables.embeddings.filter (VectorLifecycle space ·)

/-- The rows that satisfy all three fragments: what the count counts and the exact stage ranks. -/
def eligibleRows (tables : Tables φ) (space : EmbeddingSpace) (policy : RetrievalPolicy) (filters : RetrievalFilters) :
    List (Row φ) :=
  ((tables.population space).filterMap tables.row).filter fun row =>
    VectorSensitivity policy row.embedding ∧ Eligible policy filters row

/-- `parent_relation`: only one dimension family has a relation. -/
def parentRelation (space : EmbeddingSpace) : Except KnowledgeError Unit :=
  if space.dimensions = d768 then .ok () else .error (.database "relation does not exist")

def bindVector (space : EmbeddingSpace) (vector : List φ) : Except KnowledgeError Unit :=
  if (vector.length : Int) = space.dimensions then .ok ()
  else .error (.value s!"expected {space.dimensions} dimensions, not {vector.length}")

end

section

variable {φ ν : Type} [LinearOrder ν] (engine : Engine φ ν) (execution : Execution φ) (tables : Tables φ)
  (space : EmbeddingSpace) (config : RetrievalConfig) (policy : RetrievalPolicy) (filters : RetrievalFilters)
  (vector : List φ)

def rowDistance (row : Row φ) : ν := engine.distance space.distanceMetric row.embedding.embedding vector

/-- `ORDER BY distance, c.id`. -/
def byDistance (row : Row φ) : ν ×ₗ Nat := toLex (rowDistance engine space vector row,row.chunk.id.toNat)

/-- The source-side eligible rows among what the index proposed. -/
def candidateRows : Except KnowledgeError (List (Row φ)) := do
  let candidates ← limit config.candidateLimit (execution.index (tables.population space))
  return (candidates.filterMap tables.row).filter (Eligible policy filters ·)

def annStage : Except KnowledgeError (List (Row φ)) := do
  parentRelation space
  bindVector space vector
  let rows ← candidateRows execution tables space config policy filters
  limit config.k (ordered (byDistance engine space vector) rows)

def countEligible : Except KnowledgeError (Int × Bool) := do
  parentRelation space
  let probe ← limit (config.exactMaxRows + 1) (eligibleRows tables space policy filters)
  return ((probe.length : Int),decide (config.exactMaxRows < probe.length))

/-- `_exact_stage`; `none` where the statement was cancelled. -/
def exactStage : Except KnowledgeError (Option (List (Row φ))) := do
  parentRelation space
  bindVector space vector
  match execution.exactReply with
  | .cancelled => return none
  | .failed => throw (.database "exact stage")
  | .answered =>
    let eligible ← limit config.exactMaxRows
      (ordered (fun row => execution.scan row.chunk.id) (eligibleRows tables space policy filters))
    let ranked ← limit config.k
      (ordered (fun row => toLex (rowDistance engine space vector row,execution.ties row.chunk.id)) eligible)
    return some (ordered (byDistance engine space vector) ranked)

def toChunk (row : Row φ) (rank : Int) (method : RetrievalMethod) (spaceId : Uuid) (distance score lexicalScore : Option ν)
    (lexicalRank : Option Int) : RetrievedChunk ν where
  toPassage := row.passage
  distance := distance
  score := score.getD (engine.sub engine.one (distance.getD engine.zero))
  rank := rank
  method := method
  embeddingSpaceId := spaceId
  vectorRank := if method = .vector ∨ method = .vectorExact then some rank else none
  lexicalRank := lexicalRank
  lexicalScore := lexicalScore
  fusedScore := none

structure Finish where
  strategy : RetrievalStrategy
  method : RetrievalMethod
  annReturned : Int
  eligiblePopulation : Option Int := none
  capped : Bool := false
  exactRanked : Option Int := none
  degraded : Bool := false
  reason : Option String := none

def finish (rows : List (Row φ)) (how : Finish) : RetrievalResult ν :=
  let results := rows.mapIdx fun index row =>
    toChunk engine row (index + 1) how.method space.id (some (rowDistance engine space vector row)) none none none
  { results
    policy
    diagnostics := {
      strategy := how.strategy
      embeddingSpaceId := space.id
      requestedK := config.k
      annCandidateLimit := config.candidateLimit
      annCandidatesReturned := how.annReturned
      annEligibleCount := how.annReturned
      eligiblePopulation := how.eligiblePopulation
      eligiblePopulationCapped := how.capped
      exactRowsRanked := how.exactRanked
      returnedCount := results.length
      degraded := how.degraded
      degradationReason := how.reason } }

/-- `_degraded`: what the index found, labelled as incomplete. -/
def degrade (annRows : List (Row φ)) (population : Int) (capped : Bool) (reason : String)
    (strategy : RetrievalStrategy) : RetrievalResult ν :=
  finish engine space config policy vector annRows {
    strategy
    method := .vector
    annReturned := annRows.length
    eligiblePopulation := some population
    capped
    degraded := true
    reason := some reason }

def emptyDiagnostics (mode : RetrievalMode) : RetrievalDiagnostics where
  strategy := if mode = .lexical then .notRun else .annComplete
  mode := mode
  embeddingSpaceId := space.id
  requestedK := config.k
  annCandidateLimit := config.candidateLimit
  annCandidatesReturned := 0
  annEligibleCount := 0
  eligiblePopulation := some 0
  eligiblePopulationCapped := false
  exactRowsRanked := none
  returnedCount := 0
  degraded := false
  degradationReason := none

/-- `search_vector` from the point where it has its configuration. -/
def searchVectorWith (principal : Principal) : Except KnowledgeError (RetrievalResult ν) := do
  let policy := policyFor principal
  if policy.allowedSensitivities = ∅ then
    return ⟨[],emptyDiagnostics space config .vector,policy⟩
  let annRows ← annStage engine execution tables space config policy filters vector
  if config.k ≤ annRows.length then
    return finish engine space config policy vector (annRows.take config.k.toNat)
      {strategy := .ann,method := .vector,annReturned := annRows.length}
  let (population,capped) ← countEligible tables space config policy filters
  if population ≤ annRows.length then
    return finish engine space config policy vector annRows
      {strategy := .annComplete,method := .vector,annReturned := annRows.length,eligiblePopulation := some population,capped}
  if ¬ config.exactFallbackEnabled then
    return degrade engine space config policy vector annRows population capped "exact_fallback_disabled"
      .annPartialFallbackSkipped
  if capped then
    return degrade engine space config policy vector annRows population capped
      "eligible_population_exceeds_exact_max_rows" .annPartialFallbackSkipped
  match ← exactStage engine execution tables space config policy filters vector with
  | none =>
    return degrade engine space config policy vector annRows population capped "exact_fallback_timeout"
      .annPartialFallbackTimeout
  | some exactRows =>
    return finish engine space config policy vector exactRows
      {strategy := .exactFallback,method := .vectorExact,annReturned := annRows.length,
        eligiblePopulation := some population,capped,exactRanked := some population}

/-- `config if k is None else _with_k(config, k)`. -/
def RetrievalConfig.effective (config : RetrievalConfig) (k : Option Int) : Except KnowledgeError RetrievalConfig :=
  match k with
  | none => .ok config
  | some k => config.withK k

def searchVector (principal : Principal) (k : Option Int) : Except KnowledgeError (RetrievalResult ν) := do
  let config ← config.effective k
  searchVectorWith engine execution tables space config filters vector principal

end

section

variable {φ ν : Type} [LinearOrder ν] (engine : Engine φ ν) (tables : Tables φ) (space : EmbeddingSpace)
  (config : RetrievalConfig) (policy : RetrievalPolicy) (filters : RetrievalFilters) (query : String)

def lexicalScore (row : Row φ) : ν := engine.rankCoverDensity lexemeConfig query row.chunk.content

/-- `_lexical_stage`: `ORDER BY lexical_score DESC, c.id`. -/
def lexicalStage : Except KnowledgeError (List (Row φ)) := do
  parentRelation space
  let found := (eligibleRows tables space policy filters).filter fun row =>
    engine.matchesText lexemeConfig query row.chunk.content
  limit config.lexicalLimit
    (ordered (fun row => toLex (OrderDual.toDual (lexicalScore engine query row),row.chunk.id.toNat)) found)

def lexicalChunks (rows : List (Row φ)) : List (RetrievedChunk ν) :=
  (rows.take config.k.toNat).mapIdx fun index row =>
    toChunk engine row (index + 1) .lexical space.id none (some (lexicalScore engine query row))
      (some (lexicalScore engine query row)) (some (index + 1))

def requireText : Except KnowledgeError Unit :=
  if strip query = "" then .error (.validation "A retrieval query must contain text.") else .ok ()

def searchLexical (principal : Principal) (k : Option Int) : Except KnowledgeError (RetrievalResult ν) := do
  requireText query
  let config ← config.effective k
  let policy := policyFor principal
  if policy.allowedSensitivities = ∅ then
    return ⟨[],emptyDiagnostics space config .lexical,policy⟩
  let rows ← lexicalStage engine tables space config policy filters query
  let results := lexicalChunks engine space config query rows
  return {
    results
    policy
    diagnostics := {
      strategy := .notRun
      mode := .lexical
      embeddingSpaceId := space.id
      requestedK := config.k
      annCandidateLimit := 0
      annCandidatesReturned := 0
      annEligibleCount := 0
      eligiblePopulation := none
      eligiblePopulationCapped := false
      exactRowsRanked := none
      returnedCount := results.length
      degraded := false
      degradationReason := none
      lexicalCandidates := some rows.length } }

end

section

variable {ν : Type} [LinearOrder ν]

/-- An entry of `contributions`. -/
structure Contribution (ν : Type) where
  chunkId : Uuid
  score : ν
  dense : Option (RetrievedChunk ν)
  lexical : Option (RetrievedChunk ν)

variable {φ : Type} (engine : Engine φ ν) (rrfK : Int)

/-- One chunk of a leg: its entry is made where there is none, and takes its share. -/
def contribute (isDense : Bool) (contributions : List (Contribution ν)) (chunk : RetrievedChunk ν) : List (Contribution ν) :=
  let present := if contributions.any (·.chunkId = chunk.chunkId) then contributions
    else contributions ++ [⟨chunk.chunkId,engine.zero,none,none⟩]
  present.map fun entry =>
    if entry.chunkId = chunk.chunkId then {entry with
      score := engine.add entry.score (engine.inverse (rrfK + chunk.rank))
      dense := if isDense then some chunk else entry.dense
      lexical := if isDense then entry.lexical else some chunk}
    else entry

def Contribution.fused (entry : Contribution ν) : Option (RetrievedChunk ν) :=
  (entry.dense.or entry.lexical).map fun base => {base with
    method := if entry.dense.isSome ∧ entry.lexical.isSome then .hybrid else (entry.dense.map (·.method)).getD .lexical
    score := entry.score
    fusedScore := some entry.score
    vectorRank := entry.dense.map (·.rank)
    lexicalRank := entry.lexical.map (·.rank)
    lexicalScore := entry.lexical.bind (·.lexicalScore)
    rank := 0}

/-- `_fuse`: higher scores first, equal ones by the text of the chunk id. -/
def fuse (dense lexical : List (RetrievedChunk ν)) : List (RetrievedChunk ν) :=
  let contributions := lexical.foldl (contribute engine rrfK false) (dense.foldl (contribute engine rrfK true) [])
  let sorted := ordered (fun chunk => toLex (OrderDual.toDual (chunk.fusedScore.getD engine.zero),chunk.chunkId.text))
    (contributions.filterMap Contribution.fused)
  sorted.mapIdx fun index chunk => {chunk with rank := index + 1}

end

section

variable {φ ν : Type} [LinearOrder ν] (engine : Engine φ ν) (execution : Execution φ) (tables : Tables φ)
  (embedder : String → String → Except KnowledgeError (List φ)) (space : EmbeddingSpace) (config : RetrievalConfig)
  (filters : RetrievalFilters) (query : String)

/-- `embed_query`; the provider is given the prefix and the text. -/
def embedQuery : Except KnowledgeError (List φ) := do
  if space.prefixVerifiedAt.isNone then
    throw (.conflict ("Embedding space prefixes are unverified. Run scripts/probe_embedding_prefixes.py against " ++
      "the provider and record the result before querying."))
  let vector ← embedder space.queryPrefix query
  if (vector.length : Int) ≠ space.dimensions then
    throw (.dimension s!"Query embedding has {vector.length} dimensions; space {space.spaceKey} is {space.dimensions}.")
  return vector

def search (principal : Principal) (k : Option Int) : Except KnowledgeError (RetrievalResult ν) := do
  requireText query
  let vector ← embedQuery embedder space query
  searchVector engine execution tables space config filters vector principal k

def searchHybrid (principal : Principal) (k : Option Int) : Except KnowledgeError (RetrievalResult ν) := do
  requireText query
  let effective ← config.effective k
  let policy := policyFor principal
  if policy.allowedSensitivities = ∅ then
    return ⟨[],emptyDiagnostics space effective .hybrid,policy⟩
  let dense ← search engine execution tables embedder space config filters query principal k
  let lexicalRows ← lexicalStage engine tables space effective policy filters query
  let fused := fuse engine effective.rrfK dense.results (lexicalChunks engine space effective query lexicalRows)
  let results := fused.take effective.k.toNat
  return {
    results
    policy
    diagnostics := {dense.diagnostics with
      mode := .hybrid
      embeddingSpaceId := space.id
      requestedK := effective.k
      returnedCount := results.length
      lexicalCandidates := some lexicalRows.length
      fusedCandidates := some fused.length
      rrfK := some effective.rrfK} }

def retrieve (principal : Principal) (mode : RetrievalMode) (k : Option Int) : Except KnowledgeError (RetrievalResult ν) := do
  requireText query
  match mode with
  | .vector => search engine execution tables embedder space config filters query principal k
  | .lexical => searchLexical engine tables space config filters query principal k
  | .hybrid => searchHybrid engine execution tables embedder space config filters query principal k

end

end Acop.Knowledge
