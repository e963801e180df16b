import Acop.Guarantee.Retrieval

/-! Whether the stages of a dense call agree on who is eligible. The index stage
reads the source's copy of the sensitivity only, the others read both. -/
namespace Acop.Knowledge
open Acop.Selection

section

variable {φ ν : Type} [LinearOrder ν] {engine : Engine φ ν} {tables : Tables φ} {space : EmbeddingSpace}
  {config : RetrievalConfig} {policy : RetrievalPolicy} {filters : RetrievalFilters} {vector : List φ}

/-- Both copies of the sensitivity are permitted, and the rest of the predicate holds. -/
def BothPermitted (policy : RetrievalPolicy) (filters : RetrievalFilters) (row : Row φ) : Prop :=
  row.embedding.sensitivity ∈ policy.allowedSensitivities ∧ Eligible policy filters row

/-- Every stage answers with rows of the one predicate, and a result that is
reported complete misses nothing that the exact stage would have returned. -/
structure StagesAgree (engine : Engine φ ν) (execution : Execution φ) (tables : Tables φ) (space : EmbeddingSpace)
    (config : RetrievalConfig) (filters : RetrievalFilters) (vector : List φ) (principal : Principal) : Prop where
  ann : ∀ rows, annStage engine execution tables space config (policyFor principal) filters vector = .ok rows →
    ∀ row ∈ rows, BothPermitted (policyFor principal) filters row
  counted : ∀ row ∈ eligibleRows tables space (policyFor principal) filters, BothPermitted (policyFor principal) filters row
  exact : ∀ rows, exactStage engine execution tables space config (policyFor principal) filters vector = .ok (some rows) →
    ∀ row ∈ rows, BothPermitted (policyFor principal) filters row
  lexical : ∀ query rows, lexicalStage engine tables space config (policyFor principal) filters query = .ok rows →
    ∀ row ∈ rows, BothPermitted (policyFor principal) filters row
  complete : ∀ result, searchVectorWith engine execution tables space config filters vector principal = .ok result →
    result.diagnostics.strategy = .annComplete →
    ∀ rows, exactStage engine execution tables space config (policyFor principal) filters vector = .ok (some rows) →
      ∀ row ∈ rows, row.chunk.id ∈ result.results.map (·.chunkId)

/-- A live row whose source is permitted while its stored copy is not. -/
def Diverging (tables : Tables φ) (space : EmbeddingSpace) (policy : RetrievalPolicy) (filters : RetrievalFilters) : Prop :=
  ∃ row ∈ tables.liveRows space, Eligible policy filters row ∧ row.embedding.sensitivity ∉ policy.allowedSensitivities

/-- There is room for the index to surface more rows than the count may reach and
fewer than are asked for and there. -/
def Overrunnable (tables : Tables φ) (space : EmbeddingSpace) (config : RetrievalConfig) (policy : RetrievalPolicy)
    (filters : RetrievalFilters) : Prop :=
  config.exactMaxRows + 1 ≤ config.candidateLimit ∧
    config.exactMaxRows + 1 < min config.k (eligibleRows tables space policy filters).length

theorem mem_bothPermitted {row : Row φ} (mem : row ∈ eligibleRows tables space policy filters) :
    BothPermitted policy filters row := (mem_eligibleRows.mp mem).2

open Classical in
/-- The index may propose the vectors of any choice among the live rows. -/
noncomputable def proposal (tables : Tables φ) (space : EmbeddingSpace) (rows : List (Row φ))
    (inside : (rows.map (·.embedding)).Subperm (tables.population space)) (scan : Uuid → Nat)
    (scan_injective : Function.Injective scan) : Execution φ where
  index population := if population = tables.population space then rows.map (·.embedding) else []
  index_choice population := by
    split
    · rename_i same
      rwa [same]
    · exact List.nil_subperm
  scan := scan
  scan_injective := scan_injective
  ties := BitVec.toNat
  ties_injective := toNat_injective
  exactReply := .answered

theorem row_of_embedding {row : Row φ} (mem : row ∈ tables.liveRows space) : tables.row row.embedding = some row := by
  obtain ⟨embedding,_,joined⟩ := List.mem_filterMap.mp mem
  rwa [Tables.row_embedding joined]

theorem embeddings_inside {rows : List (Row φ)} (distinct : rows.Nodup) (live : ∀ row ∈ rows, row ∈ tables.liveRows space) :
    (rows.map (·.embedding)).Subperm (tables.population space) := by
  refine List.subperm_of_subset ?_ ?_
  · refine List.Nodup.map_on (fun row mem other mem' same => ?_) distinct
    have joined := row_of_embedding (live row mem)
    rw [same,row_of_embedding (live other mem')] at joined
    exact (Option.some.inj joined).symm
  · intro embedding mem
    obtain ⟨row,inRows,rfl⟩ := List.mem_map.mp mem
    obtain ⟨stored,within⟩ := mem_liveRows.mp (live row inRows)
    exact mem_population.mpr ⟨(Tables.joined_of_mem stored).embedding,within⟩

theorem rows_of_embeddings {rows : List (Row φ)} (live : ∀ row ∈ rows, row ∈ tables.liveRows space) :
    (rows.map (·.embedding)).filterMap tables.row = rows := by
  induction rows with
  | nil => rfl
  | cons row rows ih =>
    rw [List.map_cons,List.filterMap_cons,row_of_embedding (live row List.mem_cons_self)]
    simp only [ih fun other mem => live other (List.mem_cons_of_mem _ mem)]

theorem surfaced_proposal {rows : List (Row φ)} {inside : (rows.map (·.embedding)).Subperm (tables.population space)}
    {scan : Uuid → Nat} {scan_injective : Function.Injective scan} (live : ∀ row ∈ rows, row ∈ tables.liveRows space)
    (eligible : ∀ row ∈ rows, Eligible policy filters row) (few : (rows.length : Int) ≤ config.candidateLimit) :
    surfaced (proposal tables space rows inside scan scan_injective) tables space config policy filters = rows := by
  have taken : (rows.map (·.embedding)).take config.candidateLimit.toNat = rows.map (·.embedding) :=
    List.take_of_length_le (by rw [List.length_map]; omega)
  simp only [surfaced,proposal,if_true,taken,rows_of_embeddings live]
  exact List.filter_eq_self.mpr fun row mem => decide_eq_true (eligible row mem)

theorem liveRows_of_agreeing (agreeing : ¬ Diverging tables space policy filters) :
    (tables.liveRows space).filter (Eligible policy filters ·) = eligibleRows tables space policy filters := by
  refine List.filter_congr fun row mem => decide_eq_decide.mpr ⟨fun eligible => ⟨?_,eligible⟩,And.right⟩
  by_contra diverges
  exact agreeing ⟨row,mem,eligible,diverges⟩

theorem surfaced_length {execution : Execution φ} :
    (surfaced execution tables space config policy filters).length ≤ config.candidateLimit.toNat := by
  have filtered : (surfaced execution tables space config policy filters).length ≤
      ((execution.index (tables.population space)).take config.candidateLimit.toNat).length :=
    (List.length_filter_le _ _).trans (List.length_filterMap_le _ _)
  rw [List.length_take] at filtered
  omega

theorem agree_of_agreeing {execution : Execution φ} {principal : Principal}
    (allowed : Comparable space vector → 1 ≤ config.candidateLimit → config.candidateLimit < 2^63 →
      ¬ Diverging tables space (policyFor principal) filters ∧
      ¬ Overrunnable tables space config (policyFor principal) filters) :
    StagesAgree engine execution tables space config filters vector principal where
  ann := by
    intro rows stage row mem
    obtain ⟨comparable,small,rfl⟩ := annStage_ok stage
    obtain ⟨live,eligible⟩ := mem_of_annStage stage mem
    have some' := List.length_pos_of_mem (mem_of_mem_first _ mem)
    have bound := @surfaced_length _ tables space config (policyFor principal) filters execution
    obtain ⟨agreeing,_⟩ := allowed comparable (by omega) small
    refine ⟨?_,eligible⟩
    by_contra diverges
    exact agreeing ⟨row,live,eligible,diverges⟩
  counted _ mem := mem_bothPermitted mem
  exact _ stage _ mem := mem_bothPermitted (mem_of_exactStage stage mem)
  lexical _ _ stage _ mem := mem_bothPermitted (mem_of_lexicalStage stage mem)
  complete := by
    intro result ok complete rows stage row mem
    have eligible := mem_of_exactStage stage mem
    cases resolved_of_ok ok with
    | unreadable nothing =>
      rw [eligibleRows_unreadable nothing] at eligible
      exact absurd eligible List.not_mem_nil
    | ann => exact absurd complete (by simp)
    | partially _ marked => exact absurd complete marked.2
    | exactFallback => exact absurd complete (by simp)
    | annComplete annStage short counted exhausted =>
      obtain ⟨comparable,small,rfl⟩ := annStage_ok annStage
      obtain ⟨population,_⟩ := countEligible_ok counted
      have bound := @surfaced_length _ tables space config (policyFor principal) filters execution
      have maxPos := config.exactMaxRows_pos
      have pos := config.k_pos
      have present := List.length_pos_of_mem eligible
      rw [length_first] at short exhausted
      obtain ⟨agreeing,roomless⟩ := allowed comparable (by omega) small
      have choice : (surfaced execution tables space config (policyFor principal) filters).Subperm
          (eligibleRows tables space (policyFor principal) filters) := by
        rw [← liveRows_of_agreeing agreeing]
        exact surfaced_choice
      have all : (eligibleRows tables space (policyFor principal) filters).length ≤
          (surfaced execution tables space config (policyFor principal) filters).length := by
        by_contra few
        exact roomless ⟨by omega,by omega⟩
      rw [finish_chunkIds]
      refine List.mem_map_of_mem ((first_all _ ?_).mem_iff.mpr (complete_of_length choice all eligible))
      omega

theorem diverging_surfaces (comparable : Comparable space vector) (room : 1 ≤ config.candidateLimit)
    (small : config.candidateLimit < 2^63) {row : Row φ} (live : row ∈ tables.liveRows space)
    (eligible : Eligible policy filters row) :
    ∃ execution : Execution φ, ∃ rows,
      annStage engine execution tables space config policy filters vector = .ok rows ∧ row ∈ rows := by
  have alone : ∀ other ∈ [row], other = row := fun _ => List.mem_singleton.mp
  have inside := embeddings_inside (List.nodup_singleton row) fun other mem => alone other mem ▸ live
  refine ⟨proposal tables space [row] inside BitVec.toNat toNat_injective,_,
    annStage_eq comparable (by omega) small,?_⟩
  have pos := config.k_pos
  rw [surfaced_proposal (fun other mem => alone other mem ▸ live) (fun other mem => alone other mem ▸ eligible)
    (by simpa using room)]
  exact (first_all _ (by simp only [List.length_singleton]; omega)).mem_iff.mpr (List.mem_singleton_self row)

def meetingFirst (chunkId : Uuid) (id : Uuid) : Nat := if id = chunkId then 0 else id.toNat + 1

theorem meetingFirst_injective (chunkId : Uuid) : Function.Injective (meetingFirst chunkId) := by
  intro first second same
  unfold meetingFirst at same
  split at same <;> split at same
  · rename_i isFirst isSecond
    exact isFirst.trans isSecond.symm
  · omega
  · omega
  · exact BitVec.eq_of_toNat_eq (by omega)

/-- With room to overrun, some run reports a complete answer that the exact stage
would have answered otherwise. -/
theorem overrunnable_misses (keyed : Keyed tables) {principal : Principal} (comparable : Comparable space vector)
    (small : config.candidateLimit < 2^63) (room : Overrunnable tables space config (policyFor principal) filters) :
    ∃ execution : Execution φ, ¬ StagesAgree engine execution tables space config filters vector principal := by
  obtain ⟨fits,short⟩ := room
  have maxPos := config.exactMaxRows_pos
  have distinct := @eligibleRows_nodup _ tables space (policyFor principal) filters keyed
  let chosen := (eligibleRows tables space (policyFor principal) filters).take (config.exactMaxRows + 1).toNat
  have length : chosen.length = (config.exactMaxRows + 1).toNat := by
    simp only [chosen,List.length_take]
    omega
  have fewer : chosen.length < (eligibleRows tables space (policyFor principal) filters).length := by omega
  obtain ⟨left,leftEligible,leftOut⟩ := exists_left_out distinct fewer
  have live : ∀ row ∈ chosen, row ∈ tables.liveRows space := fun row mem =>
    (mem_eligibleRows.mp (List.mem_of_mem_take mem)).1
  have eligible : ∀ row ∈ chosen, Eligible (policyFor principal) filters row := fun row mem =>
    (mem_eligibleRows.mp (List.mem_of_mem_take mem)).2.2
  have inside := embeddings_inside (distinct.sublist (List.take_sublist _ _)) live
  let execution := proposal tables space chosen inside (meetingFirst left.chunk.id) (meetingFirst_injective _)
  have surfaces : surfaced execution tables space config (policyFor principal) filters = chosen :=
    surfaced_proposal live eligible (by omega)
  refine ⟨execution,fun agree => leftOut ?_⟩
  have readable : (policyFor principal).allowedSensitivities ≠ ∅ := by
    intro nothing
    rw [eligibleRows_unreadable nothing] at leftEligible
    exact absurd leftEligible List.not_mem_nil
  have stage := @annStage_eq _ _ _ engine execution tables _ _ (policyFor principal) filters _ comparable (by omega) small
  rw [surfaces] at stage
  have counted := @countEligible_capped _ tables space config (policyFor principal) filters comparable.1 (by omega) (by omega)
  have ran := searchVectorWith_complete readable stage (by rw [length_first]; omega) counted (by rw [length_first]; omega)
  have exact := @exactStage_eq _ _ _ engine execution tables _ config (policyFor principal) filters _ comparable rfl (by omega)
  have scanned : left ∈ first (fun row : Row φ => execution.scan row.chunk.id) config.exactMaxRows.toNat
      (eligibleRows tables space (policyFor principal) filters) := by
    refine mem_first_of_least _ (by omega) leftEligible fun other mem apart => ?_
    have different : other.chunk.id ≠ left.chunk.id := fun same =>
      apart (liveRows_inj keyed (mem_eligibleRows.mp mem).1 (mem_eligibleRows.mp leftEligible).1 same)
    simp [execution,proposal,meetingFirst,different]
  have short' : (first (fun row : Row φ => execution.scan row.chunk.id) config.exactMaxRows.toNat
      (eligibleRows tables space (policyFor principal) filters)).length ≤ config.k.toNat := by
    rw [length_first]
    omega
  have ranked := (first_all (fun row => toLex (rowDistance engine space vector row,execution.ties row.chunk.id))
    short').mem_iff.mpr scanned
  have reported := agree.complete _ ran rfl _ exact left ((mem_ordered _).mpr ranked)
  rw [finish_chunkIds] at reported
  obtain ⟨row,taken,same⟩ := List.mem_map.mp reported
  have inChosen := mem_of_mem_first _ taken
  rwa [← liveRows_inj keyed (live row inChosen) (mem_eligibleRows.mp leftEligible).1 same]

end

section

variable {φ ν : Type} [LinearOrder ν] (engine : Engine φ ν) (corpus : Corpus φ) (space : EmbeddingSpace)
  (config : RetrievalConfig) (filters : RetrievalFilters) (vector : List φ) (principal : Principal)

/-- The stages agree in every execution exactly where, if the index stage can run
at all, no live row diverges and the index has no room to overrun the count. -/
theorem stages_agree :
    (∀ execution, StagesAgree engine execution corpus.toTables space config filters vector principal) ↔
    (Comparable space vector → 1 ≤ config.candidateLimit → config.candidateLimit < 2^63 →
      ¬ Diverging corpus.toTables space (policyFor principal) filters ∧
      ¬ Overrunnable corpus.toTables space config (policyFor principal) filters) := by
  constructor
  · intro agree comparable room small
    refine ⟨?_,?_⟩
    · rintro ⟨row,live,eligible,diverges⟩
      obtain ⟨execution,rows,stage,mem⟩ := @diverging_surfaces _ _ _ engine _ _ _ _ _ _ comparable room small _ live eligible
      exact diverges ((agree execution).ann rows stage row mem).1
    · intro overrunnable
      obtain ⟨execution,disagree⟩ := @overrunnable_misses _ _ _ engine _ _ _ _ _ corpus.keyed _ comparable small overrunnable
      exact disagree (agree execution)
  · intro allowed execution
    exact agree_of_agreeing allowed

end

open Laboratory in
/-- A source reclassified to internal whose vectors are still marked confidential:
the index stage returns its passages, no other stage knows them. -/
theorem diverging_returned : ¬ ∀ execution, StagesAgree engine execution
    (corpus .internalBand .confidentialBand).toTables space config {} (axis 0) viewer := by
  intro agree
  have answered : ((annStage engine (proposing 3) (corpus .internalBand .confidentialBand).toTables space config
      (policyFor viewer) {} (axis 0)).toOption.map fun rows => rows.map (·.embedding.sensitivity)) =
        some [.confidentialBand,.confidentialBand,.confidentialBand] := by
    decide +kernel
  cases ran : annStage engine (proposing 3) (corpus .internalBand .confidentialBand).toTables space config
      (policyFor viewer) {} (axis 0) with
  | error refused => simp [ran,Except.toOption] at answered
  | ok rows =>
    rw [ran] at answered
    simp only [Except.toOption,Option.map_some,Option.some.injEq] at answered
    cases rows with
    | nil => cases answered
    | cons row rows =>
      have permitted := ((agree (proposing 3)).ann _ ran row List.mem_cons_self).1
      have stored : row.embedding.sensitivity = .confidentialBand := (List.cons.inj answered).1
      rw [stored] at permitted
      exact absurd permitted (by decide +kernel)

end Acop.Knowledge
