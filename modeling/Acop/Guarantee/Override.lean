import Acop.Knowledge.Laboratory
import Acop.Knowledge.Stages

/-! The per-call override of `k`. It builds a configuration of its own, in which the depth of the
lexical leg and the constant of the fusion are the defaults. -/
namespace Acop.Knowledge
open Acop.Selection

section Override

/-- The override answers as a service configured with that `k` does. -/
def OverridesAlone (config other : RetrievalConfig) (mode : RetrievalMode) : Prop :=
  ∀ (φ ν : Type) [LinearOrder ν] (engine : Engine φ ν) (execution : Execution φ) (corpus : Corpus φ)
    (embedder : String → String → Except KnowledgeError (List φ)) (space : EmbeddingSpace) (filters : RetrievalFilters)
    (query : String) (principal : Principal),
    retrieve engine execution corpus.toTables embedder space config filters query principal mode (some other.k) =
      retrieve engine execution corpus.toTables embedder space other filters query principal mode none

/-- Whether the dense leg can return at all: PostgreSQL takes its limits, and where the index is asked for less than
`k` rows it takes the limit of the count as well. -/
def RetrievalConfig.DenseRuns (config : RetrievalConfig) : Prop :=
  0 ≤ config.candidateLimit ∧ config.candidateLimit < 2^63 ∧
    (config.k ≤ config.candidateLimit ∨ config.exactMaxRows + 1 < 2^63)

/-- What the override forgets is either not read in this mode or at its default. -/
def RetrievalConfig.Kept (config : RetrievalConfig) : RetrievalMode → Prop
  | .vector => True
  | .lexical => config.lexicalLimit = 100
  | .hybrid => (config.lexicalLimit = 100 ∧ config.rrfK = defaultRrfK) ∨ ¬ config.DenseRuns

def RetrievalConfig.reset (config : RetrievalConfig) : RetrievalConfig where
  toRetrievalTuning := {config.toRetrievalTuning with lexicalLimit := 100,rrfK := defaultRrfK}
  k_range := config.k_range
  annOverfetch_pos := config.annOverfetch_pos
  exactMaxRows_pos := config.exactMaxRows_pos
  lexicalLimit_pos := (by decide : (1 : Int) ≤ 100)
  rrfK_pos := (by decide : 1 ≤ defaultRrfK)

theorem withK_alone {config other : RetrievalConfig} (alone : other.toRetrievalTuning = {config.toRetrievalTuning with k := other.k}) :
    config.withK other.k = .ok other.reset := by
  obtain ⟨tuning,range,overfetch,rows,lexical,fusion⟩ := other
  dsimp only at alone ⊢
  rw [RetrievalConfig.withK,RetrievalTuning.postInit]
  rw [dif_pos range,dif_pos config.annOverfetch_pos,dif_pos config.exactMaxRows_pos,
    dif_pos (by decide : (1 : Int) ≤ 100),dif_pos (by decide : 1 ≤ defaultRrfK)]
  congr 1
  simp only [RetrievalConfig.reset,RetrievalConfig.mk.injEq]
  rw [alone]

theorem reset_eq {config : RetrievalConfig} (lexical : config.lexicalLimit = 100) (fusion : config.rrfK = defaultRrfK) :
    config.reset = config := by
  obtain ⟨⟨k,overfetch,cap,breadth,scan,enabled,rows,deadline,limit,constant⟩,_,_,_,_,_⟩ := config
  cases lexical
  cases fusion
  rfl

end Override

section Calls

variable {φ ν : Type} [LinearOrder ν] (engine : Engine φ ν) (execution : Execution φ) (tables : Tables φ)
  (embedder : String → String → Except KnowledgeError (List φ)) (space : EmbeddingSpace) (filters : RetrievalFilters)
  (query : String) (principal : Principal)

theorem retrieve_override {config other : RetrievalConfig}
    (alone : other.toRetrievalTuning = {config.toRetrievalTuning with k := other.k}) (mode : RetrievalMode) :
    retrieve engine execution tables embedder space config filters query principal mode (some other.k) =
      retrieve engine execution tables embedder space other.reset filters query principal mode none := by
  cases mode <;> simp only [retrieve,search,searchVector,searchLexical,searchHybrid,RetrievalConfig.effective,withK_alone alone]

variable (config : RetrievalConfig)

theorem search_reset : search engine execution tables embedder space config.reset filters query principal none =
    search engine execution tables embedder space config filters query principal none := rfl

theorem searchLexical_reset (lexical : config.lexicalLimit = 100) :
    searchLexical engine tables space config.reset filters query principal none =
      searchLexical engine tables space config filters query principal none := by
  obtain ⟨⟨k,overfetch,cap,breadth,scan,enabled,rows,deadline,limit,constant⟩,_,_,_,_,_⟩ := config
  cases lexical
  rfl

variable {engine execution tables embedder space filters query principal config}

theorem annStage_length {policy : RetrievalPolicy} {vector : List φ} {rows : List (Row φ)}
    (ok : annStage engine execution tables space config policy filters vector = .ok rows) :
    0 ≤ config.candidateLimit ∧ config.candidateLimit < 2^63 ∧ (rows.length : Int) ≤ config.candidateLimit := by
  obtain ⟨_,_,ok⟩ := bind_ok ok
  obtain ⟨_,_,ok⟩ := bind_ok ok
  obtain ⟨found,candidates,ok⟩ := bind_ok ok
  obtain ⟨taken,limited,candidates⟩ := bind_ok candidates
  cases candidates
  obtain ⟨nonneg,small,rfl⟩ := limit_ok limited
  obtain ⟨_,_,rfl⟩ := limit_ok ok
  refine ⟨nonneg,small,?_⟩
  have shorter := (List.length_filter_le (fun row => decide (Eligible policy filters row))
    (((execution.index (tables.population space)).take config.candidateLimit.toNat).filterMap tables.row)).trans
      (List.length_filterMap_le _ _)
  simp only [List.length_take,length_ordered] at shorter ⊢
  omega

/-- A dense leg that returns has limits that PostgreSQL takes. -/
theorem denseRuns_of_ok {vector : List φ} {result : RetrievalResult ν} (readable : (policyFor principal).allowedSensitivities ≠ ∅)
    (ok : searchVectorWith engine execution tables space config filters vector principal = .ok result) : config.DenseRuns := by
  unfold searchVectorWith at ok
  dsimp only at ok
  rw [if_neg readable] at ok
  obtain ⟨annRows,stage,ok⟩ := bind_ok ok
  obtain ⟨nonneg,small,bound⟩ := annStage_length stage
  refine ⟨nonneg,small,?_⟩
  by_cases enough : config.k ≤ annRows.length
  · exact .inl (enough.trans bound)
  · rw [if_neg enough] at ok
    obtain ⟨⟨population,capped⟩,counted,_⟩ := bind_ok ok
    obtain ⟨_,_,counted⟩ := bind_ok counted
    obtain ⟨probe,limited,_⟩ := bind_ok counted
    exact .inr (limit_ok limited).2.1

theorem search_fails (readable : (policyFor principal).allowedSensitivities ≠ ∅) (refused : ¬ config.DenseRuns) :
    ∃ error, search engine execution tables embedder space config filters query principal none = .error error := by
  cases answered : search engine execution tables embedder space config filters query principal none with
  | error error => exact ⟨error,rfl⟩
  | ok result =>
    obtain ⟨_,_,answered⟩ := bind_ok answered
    obtain ⟨vector,_,answered⟩ := bind_ok answered
    exact absurd (denseRuns_of_ok readable answered) refused

theorem searchHybrid_reset (refused : ¬ config.DenseRuns) :
    searchHybrid engine execution tables embedder space config.reset filters query principal none =
      searchHybrid engine execution tables embedder space config filters query principal none := by
  unfold searchHybrid
  dsimp only [RetrievalConfig.effective]
  simp only [ok_bind]
  by_cases nothing : (policyFor principal).allowedSensitivities = ∅
  · rw [if_pos nothing,if_pos nothing]
    rfl
  · have failing : ∃ error, search engine execution tables embedder space config filters query principal none = .error error :=
      search_fails nothing refused
    obtain ⟨error,failed⟩ := failing
    rw [if_neg nothing,if_neg nothing,search_reset,failed]
    rfl

theorem searchVectorWith_returns {vector : List φ} (runs : config.DenseRuns)
    (readable : (policyFor principal).allowedSensitivities ≠ ∅) (comparable : Comparable space vector)
    (answered : execution.exactReply = .answered)
    (plenty : config.k ≤ config.candidateLimit →
      config.k ≤ (surfaced execution tables space config (policyFor principal) filters).length) :
    ∃ result, searchVectorWith engine execution tables space config filters vector principal = .ok result := by
  obtain ⟨nonneg,small,within⟩ := runs
  have pos := config.exactMaxRows_pos
  unfold searchVectorWith
  dsimp only
  rw [if_neg readable,annStage_eq comparable nonneg small,ok_bind]
  by_cases enough : config.k ≤ (first (byDistance engine space vector) config.k.toNat
      (surfaced execution tables space config (policyFor principal) filters)).length
  · rw [if_pos enough]
    exact ⟨_,rfl⟩
  · have counts : config.exactMaxRows + 1 < 2^63 := by
      refine within.resolve_left fun asked => enough ?_
      have found := plenty asked
      rw [length_first]
      omega
    rw [if_neg enough]
    unfold countEligible
    rw [show parentRelation space = .ok () from if_pos comparable.1,ok_bind,limit_eq _ (by omega) counts,ok_bind]
    dsimp only [pure,Except.pure]
    rw [ok_bind]
    dsimp only
    split
    · exact ⟨_,rfl⟩
    split
    · exact ⟨_,rfl⟩
    split
    · exact ⟨_,rfl⟩
    rw [exactStage_eq comparable answered (by omega),ok_bind]
    exact ⟨_,rfl⟩

theorem searchHybrid_reports {dense : RetrievalResult ν} {rows : List (Row φ)} (text : requireText query = .ok ())
    (readable : (policyFor principal).allowedSensitivities ≠ ∅)
    (leg : search engine execution tables embedder space config filters query principal none = .ok dense)
    (lexical : lexicalStage engine tables space config (policyFor principal) filters query = .ok rows) :
    ∃ result, searchHybrid engine execution tables embedder space config filters query principal none = .ok result ∧
      result.diagnostics.lexicalCandidates = some (rows.length : Int) ∧ result.diagnostics.rrfK = some config.rrfK := by
  unfold searchHybrid
  dsimp only [RetrievalConfig.effective]
  rw [text,ok_bind,ok_bind,if_neg readable,leg,ok_bind,lexical,ok_bind]
  exact ⟨_,rfl,rfl,rfl⟩

theorem searchLexical_reports {rows : List (Row φ)} (text : requireText query = .ok ())
    (readable : (policyFor principal).allowedSensitivities ≠ ∅)
    (lexical : lexicalStage engine tables space config (policyFor principal) filters query = .ok rows) :
    ∃ result, searchLexical engine tables space config filters query principal none = .ok result ∧
      result.diagnostics.lexicalCandidates = some (rows.length : Int) := by
  unfold searchLexical
  dsimp only [RetrievalConfig.effective]
  rw [text,ok_bind,ok_bind,if_neg readable,lexical,ok_bind]
  exact ⟨_,rfl,rfl⟩

end Calls

section Wide

open Laboratory

def wideEmbedding (place : Nat) : KnowledgeEmbedding Int := embedding place .publicBand

def wide : Corpus Int where
  spaces := [space]
  sources := [source .publicBand]
  documents := [document]
  versions := [version]
  chunks := (List.range 101).map fun place => chunk place "vlan"
  embeddings := (List.range 101).map wideEmbedding
  keyed := ⟨by decide,by decide,by decide,by decide,by decide +kernel,by decide +kernel⟩

def wideFound : List (Row Int) :=
  (eligibleRows wide.toTables space (policyFor viewer) {}).filter fun row => engine.matchesText lexemeConfig "vlan" row.chunk.content

theorem wideFound_length : wideFound.length = 101 := by decide +kernel

theorem wide_surfaces : ∀ embedding ∈ (proposing 101).index (wide.toTables.population space),
    ((wide.toTables.row embedding).filter fun row => Eligible (policyFor viewer) {} row).isSome := by decide +kernel

theorem wide_proposed : ((proposing 101).index (wide.toTables.population space)).length = 101 := by decide +kernel

theorem wide_surfaced (config : RetrievalConfig) (asked : config.k ≤ config.candidateLimit) :
    config.k ≤ (surfaced (proposing 101) wide.toTables space config (policyFor viewer) {}).length := by
  have small := config.k_small
  have length : (surfaced (proposing 101) wide.toTables space config (policyFor viewer) {}).length =
      (((proposing 101).index (wide.toTables.population space)).take config.candidateLimit.toNat).length := by
    rw [surfaced,List.filter_filterMap]
    exact List.filterMap_length_eq_length.mpr fun embedding taken => wide_surfaces embedding (List.mem_of_mem_take taken)
  rw [length,List.length_take,wide_proposed]
  omega

theorem wide_lexical (config : RetrievalConfig) (small : config.lexicalLimit < 2^63) :
    ∃ rows, lexicalStage engine wide.toTables space config (policyFor viewer) {} "vlan" = .ok rows ∧
      (rows.length : Int) = min config.lexicalLimit 101 := by
  have pos := config.lexicalLimit_pos
  refine ⟨_,limit_eq _ (by omega) small,?_⟩
  have found : ((eligibleRows wide.toTables space (policyFor viewer) {}).filter fun row =>
      engine.matchesText lexemeConfig "vlan" row.chunk.content).length = 101 := wideFound_length
  rw [List.length_take,length_ordered,found]
  omega

theorem wide_lexical_refused (config : RetrievalConfig) (large : ¬ config.lexicalLimit < 2^63) :
    ∃ error, lexicalStage engine wide.toTables space config (policyFor viewer) {} "vlan" = .error error := by
  have pos := config.lexicalLimit_pos
  unfold lexicalStage
  rw [show parentRelation space = .ok () from if_pos rfl,ok_bind,limit,if_neg (by omega),if_pos (by omega)]
  exact ⟨_,rfl⟩

def wideEmbedder (_ _ : String) : Except KnowledgeError (List Int) := .ok (axis 0)

theorem axis_length : (axis 0).length = 768 := by decide +kernel

theorem wide_embedded : embedQuery wideEmbedder space "vlan" = .ok (axis 0) := by
  have length : ((axis 0).length : Int) = space.dimensions := by rw [axis_length]; rfl
  unfold embedQuery wideEmbedder
  simp [length,space,pure,Except.pure,bind,Except.bind]

theorem wide_text : requireText "vlan" = .ok () := if_neg (by decide +kernel)

theorem viewer_reads : (policyFor viewer).allowedSensitivities ≠ ∅ := by decide +kernel

theorem wide_dense {config : RetrievalConfig} (runs : config.DenseRuns) :
    ∃ dense, search engine (proposing 101) wide.toTables wideEmbedder space config {} "vlan" viewer none = .ok dense := by
  have length : ((axis 0).length : Int) = space.dimensions := by rw [axis_length]; rfl
  have comparable : Comparable space (axis 0) := ⟨rfl,length⟩
  have returned : ∃ dense, searchVectorWith engine (proposing 101) wide.toTables space config {} (axis 0) viewer = .ok dense :=
    searchVectorWith_returns runs viewer_reads comparable rfl (wide_surfaced config)
  obtain ⟨dense,found⟩ := returned
  refine ⟨dense,?_⟩
  rw [search,wide_text,ok_bind,wide_embedded,ok_bind,searchVector,RetrievalConfig.effective,ok_bind,found]

theorem wide_lexical_same {config : RetrievalConfig}
    (same : searchLexical engine wide.toTables space config.reset {} "vlan" viewer none =
      searchLexical engine wide.toTables space config {} "vlan" viewer none) : config.lexicalLimit = 100 := by
  obtain ⟨rows,stage,length⟩ := wide_lexical config.reset (by decide : (100 : Int) < 2^63)
  obtain ⟨result,returned,reported⟩ := searchLexical_reports wide_text viewer_reads stage
  rw [returned] at same
  by_cases small : config.lexicalLimit < 2^63
  · obtain ⟨others,stage',length'⟩ := wide_lexical config small
    obtain ⟨other,returned',reported'⟩ := searchLexical_reports wide_text viewer_reads stage'
    cases same.trans returned'
    have counts : (rows.length : Int) = others.length := Option.some.inj (reported.symm.trans reported')
    have reset : config.reset.lexicalLimit = 100 := rfl
    omega
  · obtain ⟨error,refused⟩ := wide_lexical_refused config small
    unfold searchLexical at same
    dsimp only [RetrievalConfig.effective] at same
    rw [wide_text,ok_bind,ok_bind,if_neg viewer_reads,refused] at same
    cases same

theorem wide_hybrid_same {config : RetrievalConfig} (runs : config.DenseRuns)
    (same : searchHybrid engine (proposing 101) wide.toTables wideEmbedder space config.reset {} "vlan" viewer none =
      searchHybrid engine (proposing 101) wide.toTables wideEmbedder space config {} "vlan" viewer none) :
    config.lexicalLimit = 100 ∧ config.rrfK = defaultRrfK := by
  obtain ⟨dense,leg⟩ := wide_dense runs
  have leg' : search engine (proposing 101) wide.toTables wideEmbedder space config.reset {} "vlan" viewer none = .ok dense := leg
  obtain ⟨rows,stage,length⟩ := wide_lexical config.reset (by decide : (100 : Int) < 2^63)
  obtain ⟨result,returned,reported,fusion⟩ := searchHybrid_reports wide_text viewer_reads leg' stage
  rw [returned] at same
  by_cases small : config.lexicalLimit < 2^63
  · obtain ⟨others,stage',length'⟩ := wide_lexical config small
    obtain ⟨other,returned',reported',fusion'⟩ := searchHybrid_reports wide_text viewer_reads leg stage'
    cases same.trans returned'
    have counts : (rows.length : Int) = others.length := Option.some.inj (reported.symm.trans reported')
    have reset : config.reset.lexicalLimit = 100 := rfl
    exact ⟨by omega,(Option.some.inj (fusion.symm.trans fusion')).symm⟩
  · obtain ⟨error,refused⟩ := wide_lexical_refused config small
    unfold searchHybrid at same
    dsimp only [RetrievalConfig.effective] at same
    rw [wide_text,ok_bind,ok_bind,if_neg viewer_reads,leg,ok_bind,refused] at same
    cases same

end Wide

section Exactness

variable {config other : RetrievalConfig} {mode : RetrievalMode}

theorem kept_of_alone (alone : other.toRetrievalTuning = {config.toRetrievalTuning with k := other.k})
    (same : OverridesAlone config other mode) : other.Kept mode := by
  have answer := same Int Rat Laboratory.engine (Laboratory.proposing 101) wide wideEmbedder Laboratory.space {} "vlan" Laboratory.viewer
  rw [retrieve_override _ _ _ _ _ _ _ _ alone] at answer
  simp only [retrieve,wide_text,ok_bind] at answer
  cases mode with
  | vector => trivial
  | lexical => exact wide_lexical_same answer
  | hybrid =>
    by_cases runs : other.DenseRuns
    · exact .inl (wide_hybrid_same runs answer)
    · exact .inr runs

/-- The override of `k` answers as a configuration with that `k` in every call exactly when the mode is dense, the
depth of the lexical leg and in a hybrid call the constant of the fusion are the defaults, or no hybrid call returns. -/
theorem override_alone (alone : other.toRetrievalTuning = {config.toRetrievalTuning with k := other.k}) :
    OverridesAlone config other mode ↔ other.Kept mode := by
  refine ⟨kept_of_alone alone,?_⟩
  intro kept φ ν _ engine execution corpus embedder space filters query principal
  rw [retrieve_override _ _ _ _ _ _ _ _ alone]
  cases mode with
  | vector => rfl
  | lexical => simp only [retrieve,searchLexical_reset _ _ _ _ _ _ _ kept]
  | hybrid =>
    rcases kept with ⟨lexical,fusion⟩ | refused
    · rw [reset_eq lexical fusion]
    · simp only [retrieve,searchHybrid_reset refused]

def deep : RetrievalConfig := ⟨{lexicalLimit := 200},by decide,by decide,by decide,by decide,by decide⟩

def deepFive : RetrievalConfig := ⟨{lexicalLimit := 200,k := 5},by decide,by decide,by decide,by decide,by decide⟩

/-- A dense call with another `k` is as configured with it. -/
theorem override_dense : OverridesAlone deep deepFive .vector := by
  have alone : deepFive.toRetrievalTuning = {deep.toRetrievalTuning with k := deepFive.k} := rfl
  exact (override_alone alone).mpr trivial

/-- A lexical call with another `k` goes to the default depth again. -/
theorem override_shallow : ¬ ∀ (config other : RetrievalConfig) (mode : RetrievalMode),
    other.toRetrievalTuning = {config.toRetrievalTuning with k := other.k} → OverridesAlone config other mode := by
  intro claimed
  have alone : deepFive.toRetrievalTuning = {deep.toRetrievalTuning with k := deepFive.k} := rfl
  have kept : deepFive.Kept .lexical := kept_of_alone alone (claimed deep deepFive .lexical alone)
  exact absurd (show deepFive.lexicalLimit = 100 from kept) (by decide)

end Exactness

end Acop.Knowledge
