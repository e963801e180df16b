import Acop.Fallible
import Acop.Knowledge.Retrieval

/-! What each stage of a retrieval answers when it answers, and the branches of a
dense call. -/
namespace Acop.Knowledge
open Acop.Selection

theorem limit_ok {α : Type} {count : Int} {rows kept : List α} (ok : limit count rows = .ok kept) :
    0 ≤ count ∧ count < 2^63 ∧ kept = rows.take count.toNat := by
  unfold limit at ok
  obtain ⟨nonneg,ok⟩ := ok_of_guard ok
  obtain ⟨small,ok⟩ := ok_of_guard ok
  exact ⟨by omega,by omega,(Except.ok.inj ok).symm⟩

theorem limit_eq {α : Type} {count : Int} (rows : List α) (nonneg : 0 ≤ count) (small : count < 2^63) :
    limit count rows = .ok (rows.take count.toNat) := by
  unfold limit
  rw [if_neg (by omega),if_neg (by omega)]

namespace RetrievalConfig

variable (config : RetrievalConfig)

theorem k_pos : 1 ≤ config.k := config.k_range.1

theorem k_small : config.k ≤ 100 := config.k_range.2

theorem limit_k {α : Type} (rows : List α) : limit config.k rows = .ok (rows.take config.k.toNat) := by
  have pos := config.k_pos
  have small := config.k_small
  exact limit_eq rows (by omega) (by omega)

end RetrievalConfig

section

variable {φ : Type} {tables : Tables φ} {space : EmbeddingSpace}

theorem mem_population {embedding : KnowledgeEmbedding φ} :
    embedding ∈ tables.population space ↔ embedding ∈ tables.embeddings ∧ VectorLifecycle space embedding := by
  simp [Tables.population]

theorem rows_chunkIds (embeddings : List (KnowledgeEmbedding φ)) :
    ((embeddings.filterMap tables.row).map (·.chunk.id)).Sublist (embeddings.map (·.chunkId)) := by
  induction embeddings with
  | nil => exact List.Sublist.refl _
  | cons embedding embeddings ih =>
    rw [List.filterMap_cons]
    cases joined : tables.row embedding with
    | none => exact List.Sublist.cons _ ih
    | some row =>
      have same : row.chunk.id = embedding.chunkId := by
        simp only [Tables.row,Option.bind_eq_bind,Option.pure_def,Option.bind_eq_some_iff,Option.some.injEq] at joined
        obtain ⟨chunk,foundChunk,document,_,source,_,rfl⟩ := joined
        simpa using List.find?_some foundChunk
      simp only [List.map_cons,same]
      exact List.Sublist.cons_cons _ ih

theorem population_chunkIds (keyed : Keyed tables) : ((tables.population space).map (·.chunkId)).Nodup := by
  have inside : (tables.population space).Sublist (tables.embeddings.filter (·.isCurrentEmbedding)) := by
    refine List.monotone_filter_right _ fun embedding live => ?_
    exact (of_decide_eq_true live).2.1
  have pairs : ((tables.population space).map fun e => (e.chunkId,e.embeddingSpaceId)).Nodup :=
    keyed.current.sublist (inside.map _)
  have spaces : (tables.population space).map (fun e => (e.chunkId,e.embeddingSpaceId)) =
      ((tables.population space).map (·.chunkId)).map fun chunkId => (chunkId,space.id) := by
    rw [List.map_map]
    refine List.map_congr_left fun embedding mem => ?_
    simp [(mem_population.mp mem).2.1]
  rw [spaces] at pairs
  exact pairs.of_map _

def Tables.liveRows (tables : Tables φ) (space : EmbeddingSpace) : List (Row φ) :=
  (tables.population space).filterMap tables.row

theorem liveRows_chunkIds (keyed : Keyed tables) : ((tables.liveRows space).map (·.chunk.id)).Nodup :=
  (population_chunkIds keyed).sublist (rows_chunkIds _)

theorem liveRows_nodup (keyed : Keyed tables) : (tables.liveRows space).Nodup := (liveRows_chunkIds keyed).of_map _

theorem liveRows_inj (keyed : Keyed tables) {row other : Row φ} (mem : row ∈ tables.liveRows space)
    (mem' : other ∈ tables.liveRows space) (same : row.chunk.id = other.chunk.id) : row = other :=
  List.inj_on_of_nodup_map (liveRows_chunkIds keyed) mem mem' same

theorem mem_liveRows {row : Row φ} : row ∈ tables.liveRows space ↔ row ∈ tables.rows ∧ VectorLifecycle space row.embedding := by
  simp only [Tables.liveRows,Tables.rows,List.mem_filterMap,mem_population]
  constructor
  · rintro ⟨embedding,⟨stored,live⟩,joined⟩
    rw [Tables.row_embedding joined]
    exact ⟨⟨embedding,stored,joined⟩,live⟩
  · rintro ⟨⟨embedding,stored,joined⟩,live⟩
    rw [Tables.row_embedding joined] at live
    exact ⟨embedding,⟨stored,live⟩,joined⟩

variable {policy : RetrievalPolicy} {filters : RetrievalFilters}

theorem mem_eligibleRows {row : Row φ} : row ∈ eligibleRows tables space policy filters ↔
    row ∈ tables.liveRows space ∧ VectorSensitivity policy row.embedding ∧ Eligible policy filters row := by
  simp [eligibleRows,Tables.liveRows]

theorem eligibleRows_sublist : (eligibleRows tables space policy filters).Sublist (tables.liveRows space) :=
  List.filter_sublist

theorem eligibleRows_chunkIds (keyed : Keyed tables) : ((eligibleRows tables space policy filters).map (·.chunk.id)).Nodup :=
  (liveRows_chunkIds keyed).sublist (eligibleRows_sublist.map _)

theorem eligibleRows_nodup (keyed : Keyed tables) : (eligibleRows tables space policy filters).Nodup :=
  (liveRows_nodup keyed).sublist eligibleRows_sublist

variable {execution : Execution φ} {config : RetrievalConfig}

/-- The eligible candidates: how many rows the index stage can surface. -/
def surfaced (execution : Execution φ) (tables : Tables φ) (space : EmbeddingSpace) (config : RetrievalConfig)
    (policy : RetrievalPolicy) (filters : RetrievalFilters) : List (Row φ) :=
  (((execution.index (tables.population space)).take config.candidateLimit.toNat).filterMap tables.row).filter
    (Eligible policy filters ·)

theorem candidateRows_ok {rows : List (Row φ)}
    (ok : candidateRows execution tables space config policy filters = .ok rows) :
    config.candidateLimit < 2^63 ∧ rows = surfaced execution tables space config policy filters := by
  obtain ⟨candidates,limited,ok⟩ := bind_ok ok
  obtain ⟨_,small,rfl⟩ := limit_ok limited
  exact ⟨small,(Except.ok.inj ok).symm⟩

theorem surfaced_choice : (surfaced execution tables space config policy filters).Subperm
    ((tables.liveRows space).filter (Eligible policy filters ·)) := by
  obtain ⟨chosen,perm,inside⟩ := execution.index_choice (tables.population space)
  have taken : ((execution.index (tables.population space)).take config.candidateLimit.toNat).Subperm
      (tables.population space) :=
    (List.take_sublist _ _).subperm.trans ⟨chosen,perm,inside⟩
  obtain ⟨kept,keptPerm,keptInside⟩ := taken
  refine List.Subperm.filter _ ⟨kept.filterMap tables.row,keptPerm.filterMap _,keptInside.filterMap _⟩

end

section

variable {φ ν : Type} [LinearOrder ν] {engine : Engine φ ν} {execution : Execution φ} {tables : Tables φ}
  {space : EmbeddingSpace} {config : RetrievalConfig} {policy : RetrievalPolicy} {filters : RetrievalFilters}
  {vector : List φ}

/-- The statement has a relation to read and a vector of its dimension. -/
def Comparable (space : EmbeddingSpace) (vector : List φ) : Prop :=
  space.dimensions = d768 ∧ (vector.length : Int) = space.dimensions

theorem parentRelation_ok {none : Unit} (ok : parentRelation space = .ok none) : space.dimensions = d768 :=
  (ok_of_check ok).1

theorem bindVector_ok {none : Unit} (ok : bindVector space vector = .ok none) :
    (vector.length : Int) = space.dimensions := (ok_of_check ok).1

theorem annStage_ok {rows : List (Row φ)}
    (ok : annStage engine execution tables space config policy filters vector = .ok rows) :
    Comparable space vector ∧ config.candidateLimit < 2^63 ∧ rows = first (byDistance engine space vector) config.k.toNat
      (surfaced execution tables space config policy filters) := by
  obtain ⟨_,relation,ok⟩ := bind_ok ok
  obtain ⟨_,bound,ok⟩ := bind_ok ok
  obtain ⟨found,candidates,ok⟩ := bind_ok ok
  obtain ⟨small,rfl⟩ := candidateRows_ok candidates
  obtain ⟨_,_,kept⟩ := limit_ok ok
  exact ⟨⟨parentRelation_ok relation,bindVector_ok bound⟩,small,kept⟩

theorem annStage_eq (comparable : Comparable space vector) (nonneg : 0 ≤ config.candidateLimit)
    (small : config.candidateLimit < 2^63) :
    annStage engine execution tables space config policy filters vector = .ok (first (byDistance engine space vector)
      config.k.toNat (surfaced execution tables space config policy filters)) := by
  have relation : parentRelation space = .ok () := if_pos comparable.1
  have bound : bindVector space vector = .ok () := if_pos comparable.2
  have candidates : candidateRows execution tables space config policy filters =
      .ok (surfaced execution tables space config policy filters) := by
    unfold candidateRows
    rw [limit_eq _ nonneg small]
    rfl
  unfold annStage
  rw [relation,bound,candidates]
  exact config.limit_k _

theorem countEligible_ok {population : Int} {capped : Bool}
    (ok : countEligible tables space config policy filters = .ok (population,capped)) :
    population = min (config.exactMaxRows + 1) (eligibleRows tables space policy filters).length ∧
      (capped ↔ config.exactMaxRows < (eligibleRows tables space policy filters).length) := by
  obtain ⟨_,_,ok⟩ := bind_ok ok
  obtain ⟨probe,limited,ok⟩ := bind_ok ok
  obtain ⟨_,_,rfl⟩ := limit_ok limited
  have pos := config.exactMaxRows_pos
  have both := Except.ok.inj ok
  simp only [Prod.mk.injEq,List.length_take] at both
  obtain ⟨rfl,rfl⟩ := both
  refine ⟨by omega,?_⟩
  simp only [decide_eq_true_eq]
  omega

theorem exactStage_ok {rows : List (Row φ)}
    (ok : exactStage engine execution tables space config policy filters vector = .ok (some rows)) :
    rows = ordered (byDistance engine space vector) (first (fun row => toLex (rowDistance engine space vector row,execution.ties row.chunk.id))
      config.k.toNat (first (fun row => execution.scan row.chunk.id) config.exactMaxRows.toNat
        (eligibleRows tables space policy filters))) := by
  obtain ⟨_,_,ok⟩ := bind_ok ok
  obtain ⟨_,_,ok⟩ := bind_ok ok
  cases reply : execution.exactReply with
  | cancelled => simp [reply,pure,Except.pure] at ok
  | failed => simp [reply,throw,throwThe,MonadExceptOf.throw] at ok
  | answered =>
    rw [reply] at ok
    obtain ⟨eligible,scanned,ok⟩ := bind_ok ok
    obtain ⟨ranked,limited,ok⟩ := bind_ok ok
    obtain ⟨_,_,rfl⟩ := limit_ok scanned
    obtain ⟨_,_,rfl⟩ := limit_ok limited
    exact (Option.some.inj (Except.ok.inj ok)).symm

theorem exactStage_eq (comparable : Comparable space vector) (answered : execution.exactReply = .answered)
    (small : config.exactMaxRows < 2^63) :
    exactStage engine execution tables space config policy filters vector = .ok (some (ordered (byDistance engine space vector)
      (first (fun row => toLex (rowDistance engine space vector row,execution.ties row.chunk.id)) config.k.toNat
        (first (fun row => execution.scan row.chunk.id) config.exactMaxRows.toNat
          (eligibleRows tables space policy filters))))) := by
  have pos := config.exactMaxRows_pos
  unfold exactStage
  rw [show parentRelation space = .ok () from if_pos comparable.1,show bindVector space vector = .ok () from if_pos comparable.2]
  simp only [ok_bind,answered]
  rw [limit_eq _ (by omega) small,ok_bind,config.limit_k]
  rfl

theorem mem_of_exactStage {rows : List (Row φ)} {row : Row φ}
    (ok : exactStage engine execution tables space config policy filters vector = .ok (some rows)) (mem : row ∈ rows) :
    row ∈ eligibleRows tables space policy filters := by
  rw [exactStage_ok ok,mem_ordered] at mem
  exact mem_of_mem_first _ (mem_of_mem_first _ mem)

theorem mem_of_annStage {rows : List (Row φ)} {row : Row φ}
    (ok : annStage engine execution tables space config policy filters vector = .ok rows) (mem : row ∈ rows) :
    row ∈ tables.liveRows space ∧ Eligible policy filters row := by
  obtain ⟨_,_,rfl⟩ := annStage_ok ok
  have chosen := surfaced_choice.subset (mem_of_mem_first _ mem)
  exact ⟨(List.mem_filter.mp chosen).1,by simpa using (List.mem_filter.mp chosen).2⟩

theorem mem_of_lexicalStage {query : String} {rows : List (Row φ)} {row : Row φ}
    (ok : lexicalStage engine tables space config policy filters query = .ok rows) (mem : row ∈ rows) :
    row ∈ eligibleRows tables space policy filters := by
  obtain ⟨_,_,ok⟩ := bind_ok ok
  obtain ⟨_,_,rfl⟩ := limit_ok ok
  have found := (mem_ordered _).mp (List.mem_of_mem_take mem)
  exact (List.mem_filter.mp found).1

section finish

omit [LinearOrder ν]

variable {rows : List (Row φ)} {how : Finish}

@[simp] theorem finish_length : (finish engine space config policy vector rows how).results.length = rows.length := by
  simp [finish]

@[simp] theorem finish_degraded : (finish engine space config policy vector rows how).diagnostics.degraded = how.degraded := rfl

@[simp] theorem finish_strategy : (finish engine space config policy vector rows how).diagnostics.strategy = how.strategy := rfl

theorem mem_finish {chunk : RetrievedChunk ν} (mem : chunk ∈ (finish engine space config policy vector rows how).results) :
    ∃ row ∈ rows, chunk.toPassage = row.passage ∧ chunk.distance = some (rowDistance engine space vector row) := by
  obtain ⟨index,bound,rfl⟩ := List.mem_mapIdx.mp mem
  exact ⟨rows[index],List.getElem_mem bound,rfl,rfl⟩

@[simp] theorem finish_chunkIds :
    (finish engine space config policy vector rows how).results.map (·.chunkId) = rows.map (·.chunk.id) := by
  refine List.ext_getElem (by simp [finish]) fun index bound bound' => ?_
  simp [finish,toChunk,Row.passage]

end finish

/-- The branches of a dense call that returns. -/
inductive Resolved (engine : Engine φ ν) (execution : Execution φ) (tables : Tables φ) (space : EmbeddingSpace)
    (config : RetrievalConfig) (policy : RetrievalPolicy) (filters : RetrievalFilters) (vector : List φ) :
    RetrievalResult ν → Prop
  | unreadable (nothing : policy.allowedSensitivities = ∅) :
    Resolved engine execution tables space config policy filters vector
      ⟨[],emptyDiagnostics space config .vector,policy⟩
  | ann {annRows : List (Row φ)} (stage : annStage engine execution tables space config policy filters vector = .ok annRows)
      (enough : config.k ≤ annRows.length) :
    Resolved engine execution tables space config policy filters vector
      (finish engine space config policy vector (annRows.take config.k.toNat)
        {strategy := .ann,method := .vector,annReturned := annRows.length})
  | annComplete {annRows : List (Row φ)} {population : Int} {capped : Bool}
      (stage : annStage engine execution tables space config policy filters vector = .ok annRows)
      (short : annRows.length < config.k) (counted : countEligible tables space config policy filters = .ok (population,capped))
      (exhausted : population ≤ annRows.length) :
    Resolved engine execution tables space config policy filters vector
      (finish engine space config policy vector annRows
        {strategy := .annComplete,method := .vector,annReturned := annRows.length,eligiblePopulation := some population,capped})
  | partially {annRows : List (Row φ)} {population : Int} {capped : Bool} {reason : String} {strategy : RetrievalStrategy}
      (stage : annStage engine execution tables space config policy filters vector = .ok annRows)
      (marked : strategy ≠ .exactFallback ∧ strategy ≠ .annComplete) :
    Resolved engine execution tables space config policy filters vector
      (degrade engine space config policy vector annRows population capped reason strategy)
  | exactFallback {annRows exactRows : List (Row φ)} {population : Int}
      (counted : countEligible tables space config policy filters = .ok (population,false))
      (stage : exactStage engine execution tables space config policy filters vector = .ok (some exactRows)) :
    Resolved engine execution tables space config policy filters vector
      (finish engine space config policy vector exactRows
        {strategy := .exactFallback,method := .vectorExact,annReturned := annRows.length,
          eligiblePopulation := some population,exactRanked := some population})

theorem resolved_of_ok {principal : Principal} {result : RetrievalResult ν}
    (ok : searchVectorWith engine execution tables space config filters vector principal = .ok result) :
    Resolved engine execution tables space config (policyFor principal) filters vector result := by
  unfold searchVectorWith at ok
  dsimp only at ok
  by_cases nothing : (policyFor principal).allowedSensitivities = ∅
  · rw [if_pos nothing] at ok
    cases Except.ok.inj ok
    exact .unreadable nothing
  rw [if_neg nothing] at ok
  obtain ⟨annRows,stage,ok⟩ := bind_ok ok
  by_cases enough : config.k ≤ annRows.length
  · rw [if_pos enough] at ok
    cases Except.ok.inj ok
    exact .ann stage enough
  rw [if_neg enough] at ok
  obtain ⟨⟨population,capped⟩,counted,ok⟩ := bind_ok ok
  dsimp only at ok
  by_cases exhausted : population ≤ annRows.length
  · rw [if_pos exhausted] at ok
    cases Except.ok.inj ok
    exact .annComplete stage (by omega) counted exhausted
  rw [if_neg exhausted] at ok
  by_cases disabled : ¬ config.exactFallbackEnabled
  · rw [if_pos disabled] at ok
    cases Except.ok.inj ok
    exact .partially stage ⟨by decide,by decide⟩
  rw [if_neg disabled] at ok
  cases capped with
  | true =>
    rw [if_pos rfl] at ok
    cases Except.ok.inj ok
    exact .partially stage ⟨by decide,by decide⟩
  | false =>
    rw [if_neg Bool.false_ne_true] at ok
    obtain ⟨answer,exact,ok⟩ := bind_ok ok
    cases answer with
    | none =>
      cases Except.ok.inj ok
      exact .partially stage ⟨by decide,by decide⟩
    | some exactRows =>
      cases Except.ok.inj ok
      exact .exactFallback counted exact

theorem searchVectorWith_complete {principal : Principal} {annRows : List (Row φ)} {population : Int} {capped : Bool}
    (readable : (policyFor principal).allowedSensitivities ≠ ∅)
    (stage : annStage engine execution tables space config (policyFor principal) filters vector = .ok annRows)
    (short : annRows.length < config.k)
    (counted : countEligible tables space config (policyFor principal) filters = .ok (population,capped))
    (exhausted : population ≤ annRows.length) :
    searchVectorWith engine execution tables space config filters vector principal =
      .ok (finish engine space config (policyFor principal) vector annRows
        {strategy := .annComplete,method := .vector,annReturned := annRows.length,eligiblePopulation := some population,capped}) := by
  unfold searchVectorWith
  dsimp only
  rw [if_neg readable,stage,ok_bind,if_neg (by omega),counted,ok_bind]
  dsimp only
  rw [if_pos exhausted]
  rfl

theorem countEligible_capped (dimensions : space.dimensions = d768) (small : config.exactMaxRows + 1 < 2^63)
    (many : config.exactMaxRows < (eligibleRows tables space policy filters).length) :
    countEligible tables space config policy filters = .ok (config.exactMaxRows + 1,true) := by
  have pos := config.exactMaxRows_pos
  unfold countEligible
  rw [show parentRelation space = .ok () from if_pos dimensions,ok_bind,limit_eq _ (by omega) small,ok_bind]
  simp only [pure,Except.pure,List.length_take]
  congr 2
  · omega
  · simp only [decide_eq_true_eq]
    omega

end

end Acop.Knowledge
