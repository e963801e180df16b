import Acop.Knowledge.Laboratory
import Acop.Knowledge.Stages

/-! The correctness floor of dense retrieval: what a result that is not marked
degraded holds, whatever the approximate index proposes. -/
namespace Acop.Knowledge
open Acop.Selection

section

variable {φ ν : Type} [LinearOrder ν] {engine : Engine φ ν} {execution : Execution φ} {tables : Tables φ}
  {space : EmbeddingSpace} {config : RetrievalConfig} {policy : RetrievalPolicy} {filters : RetrievalFilters}
  {vector : List φ}

/-- Each stored copy of the sensitivity is its source's. -/
def Tables.Consistent (tables : Tables φ) : Prop := ∀ row ∈ tables.rows, row.embedding.sensitivity = row.source.sensitivity

instance (tables : Tables φ) : Decidable tables.Consistent := inferInstanceAs (Decidable (∀ _ ∈ _, _))

/-- The result is `k` eligible rows, or all of them where there are fewer. -/
structure Sound (tables : Tables φ) (space : EmbeddingSpace) (policy : RetrievalPolicy) (filters : RetrievalFilters)
    (k : Int) (result : RetrievalResult ν) : Prop where
  count : (result.results.length : Int) = min k (eligibleRows tables space policy filters).length
  distinct : (result.results.map (·.chunkId)).Nodup
  eligible : ∀ chunk ∈ result.results, ∃ row ∈ eligibleRows tables space policy filters, chunk.toPassage = row.passage
  complete : (result.results.length : Int) < k → ∀ row ∈ eligibleRows tables space policy filters,
    row.chunk.id ∈ result.results.map (·.chunkId)

/-- No eligible row that is left out is nearer than one that is in. -/
def Nearest (engine : Engine φ ν) (tables : Tables φ) (space : EmbeddingSpace) (policy : RetrievalPolicy)
    (filters : RetrievalFilters) (vector : List φ) (result : RetrievalResult ν) : Prop :=
  ∀ chunk ∈ result.results, ∀ row ∈ eligibleRows tables space policy filters,
    row.chunk.id ∉ result.results.map (·.chunkId) →
      ∃ distance, chunk.distance = some distance ∧ distance ≤ rowDistance engine space vector row

structure Floor (engine : Engine φ ν) (tables : Tables φ) (space : EmbeddingSpace) (policy : RetrievalPolicy)
    (filters : RetrievalFilters) (vector : List φ) (k : Int) (result : RetrievalResult ν) : Prop where
  sound : result.diagnostics.degraded = false → Sound tables space policy filters k result
  exact : result.diagnostics.strategy = .exactFallback →
    Sound tables space policy filters k result ∧ Nearest engine tables space policy filters vector result

theorem eligible_liveRows (consistent : tables.Consistent) :
    (tables.liveRows space).filter (Eligible policy filters ·) = eligibleRows tables space policy filters := by
  refine List.filter_congr fun row mem => ?_
  have same := consistent row (mem_liveRows.mp mem).1
  refine decide_eq_decide.mpr ⟨fun eligible => ⟨?_,eligible⟩,And.right⟩
  rw [VectorSensitivity,same]
  exact eligible.1

theorem surfaced_eligible (consistent : tables.Consistent) :
    (surfaced execution tables space config policy filters).Subperm (eligibleRows tables space policy filters) := by
  rw [← eligible_liveRows consistent]
  exact surfaced_choice

theorem eligibleRows_unreadable (nothing : policy.allowedSensitivities = ∅) :
    eligibleRows tables space policy filters = [] := by
  refine List.filter_eq_nil_iff.mpr fun row _ => ?_
  simp [VectorSensitivity,nothing]

omit [LinearOrder ν] in
theorem sound_of_choice (keyed : Keyed tables) {rows : List (Row φ)} {how : Finish} {k : Int}
    (choice : rows.Subperm (eligibleRows tables space policy filters))
    (count : (rows.length : Int) = min k (eligibleRows tables space policy filters).length) :
    Sound tables space policy filters k (finish engine space config policy vector rows how) where
  count := by rwa [finish_length]
  distinct := by
    rw [finish_chunkIds]
    obtain ⟨chosen,perm,inside⟩ := choice
    exact (perm.map _).nodup_iff.mp ((eligibleRows_chunkIds keyed).sublist (inside.map _))
  eligible := by
    intro chunk mem
    obtain ⟨row,inRows,same,_⟩ := mem_finish mem
    exact ⟨row,choice.subset inRows,same⟩
  complete := by
    intro short row mem
    rw [finish_length] at short
    rw [finish_chunkIds]
    exact List.mem_map_of_mem (complete_of_length choice (by omega) mem)

omit [LinearOrder ν] in
theorem sound_unreadable {k : Int} (nonneg : 0 ≤ k) (nothing : policy.allowedSensitivities = ∅) :
    Sound tables space policy filters k (⟨[],emptyDiagnostics space config .vector,policy⟩ : RetrievalResult ν) where
  count := by simp [eligibleRows_unreadable nothing,nonneg]
  distinct := List.nodup_nil
  eligible := by simp
  complete := by simp [eligibleRows_unreadable nothing]

theorem exact_floor (keyed : Keyed tables) {rows : List (Row φ)} {how : Finish}
    (within : ((eligibleRows tables space policy filters).length : Int) ≤ config.exactMaxRows)
    (stage : exactStage engine execution tables space config policy filters vector = .ok (some rows)) :
    Sound tables space policy filters config.k (finish engine space config policy vector rows how) ∧
      Nearest engine tables space policy filters vector (finish engine space config policy vector rows how) := by
  have pos := config.k_pos
  let key (row : Row φ) := toLex (rowDistance engine space vector row,execution.ties row.chunk.id)
  let scanned := first (fun row => execution.scan row.chunk.id) config.exactMaxRows.toNat (eligibleRows tables space policy filters)
  have all : scanned.Perm (eligibleRows tables space policy filters) := first_all _ (by omega)
  have answer : rows = ordered (byDistance engine space vector) (first key config.k.toNat scanned) := exactStage_ok stage
  have perm : rows.Perm (first key config.k.toNat scanned) := by
    rw [answer]
    exact ordered_perm _ _
  have choice : rows.Subperm (eligibleRows tables space policy filters) :=
    perm.subperm.trans ((first_subperm key _ _).trans all.subperm)
  have length : rows.length = min config.k.toNat (eligibleRows tables space policy filters).length := by
    rw [perm.length_eq,length_first,all.length_eq]
  refine ⟨sound_of_choice keyed choice (by omega),?_⟩
  intro chunk mem row inEligible out
  obtain ⟨taken,inRows,_,distance⟩ := mem_finish mem
  rw [finish_chunkIds] at out
  have left : row ∉ first key config.k.toNat scanned := fun inside =>
    out (List.mem_map_of_mem (perm.mem_iff.mpr inside))
  have least := first_least key (perm.mem_iff.mp inRows) (all.mem_iff.mpr inEligible) left
  refine ⟨_,distance,?_⟩
  rcases (Prod.Lex.le_iff).mp least with nearer | ⟨tie,_⟩
  · exact le_of_lt nearer
  · exact le_of_eq tie

/-- The index surfaces more eligible rows than the count may reach, yet neither `k`
nor all there are. -/
def Overrun (execution : Execution φ) (tables : Tables φ) (space : EmbeddingSpace) (config : RetrievalConfig)
    (policy : RetrievalPolicy) (filters : RetrievalFilters) (vector : List φ) : Prop :=
  Comparable space vector ∧ config.candidateLimit < 2^63 ∧
    config.exactMaxRows < (surfaced execution tables space config policy filters).length ∧
    (surfaced execution tables space config policy filters).length <
      min config.k (eligibleRows tables space policy filters).length

instance (execution : Execution φ) (tables : Tables φ) (space : EmbeddingSpace) (config : RetrievalConfig)
    (policy : RetrievalPolicy) (filters : RetrievalFilters) (vector : List φ) :
    Decidable (Overrun execution tables space config policy filters vector) :=
  inferInstanceAs (Decidable ((_ ∧ _) ∧ _))

theorem floor_of_resolved (keyed : Keyed tables) (consistent : tables.Consistent)
    (within : ¬ Overrun execution tables space config policy filters vector) {result : RetrievalResult ν}
    (resolved : Resolved engine execution tables space config policy filters vector result) :
    Floor engine tables space policy filters vector config.k result := by
  have pos := config.k_pos
  have choice : (surfaced execution tables space config policy filters).Subperm
      (eligibleRows tables space policy filters) := surfaced_eligible consistent
  have inside := choice.length_le
  cases resolved with
  | unreadable nothing =>
    exact ⟨fun _ => sound_unreadable (by omega) nothing,fun fallback => absurd fallback (by simp [emptyDiagnostics])⟩
  | ann stage enough =>
    obtain ⟨_,_,rfl⟩ := annStage_ok stage
    rw [length_first] at enough
    refine ⟨fun _ => ?_,fun fallback => absurd fallback (by simp)⟩
    refine sound_of_choice keyed ((List.take_sublist _ _).subperm.trans ((first_subperm _ _ _).trans choice)) ?_
    rw [List.length_take,length_first]
    omega
  | annComplete stage short counted exhausted =>
    obtain ⟨comparable,small,rfl⟩ := annStage_ok stage
    obtain ⟨population,_⟩ := countEligible_ok counted
    rw [length_first] at short exhausted
    refine ⟨fun _ => ?_,fun fallback => absurd fallback (by simp)⟩
    refine sound_of_choice keyed ((first_subperm _ _ _).trans choice) ?_
    have few : ¬ (config.exactMaxRows < (surfaced execution tables space config policy filters).length ∧
        (surfaced execution tables space config policy filters).length <
          min config.k (eligibleRows tables space policy filters).length) :=
      fun many => within ⟨comparable,small,many⟩
    rw [length_first]
    omega
  | partially _ marked =>
    exact ⟨fun sound => absurd sound (by simp [degrade]),fun fallback => absurd fallback marked.1⟩
  | exactFallback counted stage =>
    obtain ⟨_,capped⟩ := countEligible_ok counted
    have all : ((eligibleRows tables space policy filters).length : Int) ≤ config.exactMaxRows := by
      by_contra many
      exact absurd (capped.mpr (by omega)) Bool.false_ne_true
    exact ⟨fun _ => (exact_floor keyed all stage).1,fun _ => exact_floor keyed all stage⟩

theorem overrun_complete {principal : Principal}
    (overrun : Overrun execution tables space config (policyFor principal) filters vector) :
    ∃ result, searchVectorWith engine execution tables space config filters vector principal = .ok result ∧
      result.diagnostics.degraded = false ∧ result.diagnostics.strategy = .annComplete ∧
      result.results.length = (surfaced execution tables space config (policyFor principal) filters).length := by
  obtain ⟨comparable,small,many,short⟩ := overrun
  have pos := config.k_pos
  have maxPos := config.exactMaxRows_pos
  have least := config.k_small
  have readable : (policyFor principal).allowedSensitivities ≠ ∅ := by
    intro nothing
    rw [eligibleRows_unreadable nothing,List.length_nil] at short
    omega
  have nonneg : 0 ≤ config.candidateLimit := by
    by_contra negative
    have none : surfaced execution tables space config (policyFor principal) filters = [] := by
      rw [surfaced,show config.candidateLimit.toNat = 0 by omega]
      rfl
    rw [none,List.length_nil] at many
    omega
  have stage := @annStage_eq _ _ _ engine execution tables _ _ (policyFor principal) filters _ comparable nonneg small
  have counted : countEligible tables space config (policyFor principal) filters = .ok (config.exactMaxRows + 1,true) :=
    countEligible_capped comparable.1 (by omega) (by omega)
  have ran := searchVectorWith_complete readable stage (by rw [length_first]; omega) counted (by rw [length_first]; omega)
  refine ⟨_,ran,rfl,rfl,?_⟩
  rw [finish_length,length_first]
  omega

end

section

variable {φ ν : Type} [LinearOrder ν] (engine : Engine φ ν) (execution : Execution φ) (corpus : Corpus φ)
  (space : EmbeddingSpace) (config used : RetrievalConfig) (filters : RetrievalFilters) (vector : List φ)
  (principal : Principal) (k : Option Int)

/-- On a consistent snapshot a dense call keeps the floor exactly where the index
does not surface more rows than `exact_max_rows` short of what there is. -/
theorem retrieval_floor (consistent : corpus.toTables.Consistent) (accepted : config.effective k = .ok used) :
    (∀ result, searchVector engine execution corpus.toTables space config filters vector principal k = .ok result →
      Floor engine corpus.toTables space (policyFor principal) filters vector used.k result) ↔
    ¬ Overrun execution corpus.toTables space used (policyFor principal) filters vector := by
  have runs : searchVector engine execution corpus.toTables space config filters vector principal k =
      searchVectorWith engine execution corpus.toTables space used filters vector principal := by
    unfold searchVector
    rw [accepted]
    rfl
  rw [runs]
  constructor
  · intro holds overrun
    obtain ⟨result,ok,whole,_,length⟩ := @overrun_complete _ _ _ engine _ _ _ _ _ _ _ overrun
    have count := ((holds result ok).sound whole).count
    obtain ⟨_,_,_,short⟩ := overrun
    omega
  · intro within result ok
    exact floor_of_resolved corpus.keyed consistent within (resolved_of_ok ok)

end

open Laboratory in
/-- Three eligible passages, two of them reported as a complete answer. -/
theorem short_and_complete : (corpus .publicBand .publicBand).toTables.Consistent ∧ narrow.effective none = .ok narrow ∧
    ¬ ∀ result, searchVector engine (proposing 2) (corpus .publicBand .publicBand).toTables space narrow {} (axis 0)
        viewer none = .ok result →
      Floor engine (corpus .publicBand .publicBand).toTables space (policyFor viewer) {} (axis 0) narrow.k result := by
  refine ⟨by decide +kernel,rfl,fun holds => ?_⟩
  have answered : ((searchVector engine (proposing 2) (corpus .publicBand .publicBand).toTables space narrow {} (axis 0)
      viewer none).toOption.map fun result => (result.results.length,result.diagnostics.degraded)) = some (2,false) := by
    decide +kernel
  have eligible : (eligibleRows (corpus .publicBand .publicBand).toTables space (policyFor viewer) {}).length = 3 := by
    decide +kernel
  cases ran : searchVector engine (proposing 2) (corpus .publicBand .publicBand).toTables space narrow {} (axis 0)
      viewer none with
  | error refused => simp [ran,Except.toOption] at answered
  | ok result =>
    simp only [ran,Except.toOption,Option.map_some,Option.some.injEq,Prod.mk.injEq] at answered
    have count := ((holds result ran).sound answered.2).count
    rw [answered.1,eligible] at count
    exact absurd count (by decide)

open Laboratory in
theorem retrieval_floor_lab : (corpus .publicBand .publicBand).toTables.Consistent ∧ config.effective none = .ok config ∧
    (∀ result, searchVector engine (proposing 2) (corpus .publicBand .publicBand).toTables space config {} (axis 0)
        viewer none = .ok result →
      Floor engine (corpus .publicBand .publicBand).toTables space (policyFor viewer) {} (axis 0) config.k result) :=
  have consistent : (corpus .publicBand .publicBand).toTables.Consistent := by decide +kernel
  ⟨consistent,rfl,(retrieval_floor engine (proposing 2) (corpus .publicBand .publicBand) space config config {} (axis 0)
    viewer none consistent rfl).mpr (by decide +kernel)⟩

end Acop.Knowledge
