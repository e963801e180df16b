import Acop.Guarantee.Retirement

/-! The attempts account for the versions: in their order, each that ended with a version names the one it
stored, with its outcome, hashes and counts, and each that ended otherwise names none. -/
namespace Acop.Knowledge
open Acop.Store Acop.Serial

section Accounts

variable {φ : Type}

/-- What the attempts and the stored rows both say of a version. -/
structure Credit where
  attempt : Uuid
  outcome : IngestOutcome
  document : Option Uuid
  version : Option Uuid
  rawContentHash : String
  textContentHash : Option String
  chunkCount : Option Int
  embeddedCount : Option Int
  deriving DecidableEq

def credited (attempt : KnowledgeIngestAttempt) : Credit where
  attempt := attempt.id
  outcome := attempt.outcome
  document := attempt.documentId
  version := attempt.versionId
  rawContentHash := attempt.rawContentHash
  textContentHash := attempt.textContentHash
  chunkCount := attempt.chunkCount
  embeddedCount := attempt.embeddedCount

/-- What is stored of a version: its columns, its chunks and their vectors. -/
def stamped (canon : Canon φ) (version : KnowledgeDocumentVersion) : Credit where
  attempt := version.createdByAttemptId
  outcome := versionOutcome version
  document := some version.documentId
  version := some version.id
  rawContentHash := version.rawContentHash
  textContentHash := some version.textContentHash
  chunkCount := some (canon.chunks.rows.filter (·.versionId = version.id)).length
  embeddedCount := some (canon.embeddings.rows.filter fun embedding => canon.chunks.rows.any fun chunk =>
    chunk.id = embedding.chunkId && chunk.versionId = version.id).length

structure Accounted (records : Records φ) : Prop where
  versions : records.canon.versions.rows.map (stamped records.canon) =
    (records.attempts.rows.filter (·.outcome ∈ canonicalOutcomes)).map credited
  barren : ∀ attempt ∈ records.attempts.rows, attempt.outcome ∉ canonicalOutcomes → attempt.versionId = none

def tally (chunks : Table KnowledgeChunk.id) (version : KnowledgeDocumentVersion) : Credit where
  attempt := version.createdByAttemptId
  outcome := versionOutcome version
  document := some version.documentId
  version := some version.id
  rawContentHash := version.rawContentHash
  textContentHash := some version.textContentHash
  chunkCount := some (chunks.rows.filter (·.versionId = version.id)).length
  embeddedCount := some (chunks.rows.filter (·.versionId = version.id)).length

structure Tallied (records : Records φ) : Prop where
  versions : records.canon.versions.rows.map (tally records.canon.chunks) =
    (records.attempts.rows.filter (·.outcome ∈ canonicalOutcomes)).map credited
  barren : ∀ attempt ∈ records.attempts.rows, attempt.outcome ∉ canonicalOutcomes → attempt.versionId = none

variable {records next' : Records φ}

theorem stamped_eq_tally (populated : Populated records) : stamped records.canon = tally records.canon.chunks := by
  funext version
  have own : ∀ chunk ∈ records.canon.chunks.rows, (records.canon.chunks.rows.any fun other =>
      other.id = chunk.id && other.versionId = version.id) = decide (chunk.versionId = version.id) := by
    intro chunk member
    rw [Bool.eq_iff_iff,List.any_eq_true,decide_eq_true_eq]
    constructor
    · intro ⟨other,inOther,matches'⟩
      simp only [Bool.and_eq_true,decide_eq_true_eq] at matches'
      cases records.canon.chunks.eq_of_key inOther member matches'.1
      exact matches'.2
    · exact fun mine => ⟨chunk,member,by simp [mine]⟩
  have counted : (records.canon.embeddings.rows.filter fun embedding => records.canon.chunks.rows.any fun chunk =>
      chunk.id = embedding.chunkId && chunk.versionId = version.id).length =
      (records.canon.chunks.rows.filter (·.versionId = version.id)).length := by
    let mine : Uuid → Bool := fun id => records.canon.chunks.rows.any fun chunk => chunk.id = id && chunk.versionId = version.id
    calc (records.canon.embeddings.rows.filter fun embedding => mine embedding.chunkId).length
        = ((records.canon.embeddings.rows.map (·.chunkId)).filter mine).length := by rw [List.filter_map,List.length_map]; rfl
      _ = ((records.canon.chunks.rows.map (·.id)).filter mine).length := by rw [populated.paired]
      _ = (records.canon.chunks.rows.filter fun chunk => mine chunk.id).length := by rw [List.filter_map,List.length_map]; rfl
      _ = (records.canon.chunks.rows.filter (·.versionId = version.id)).length := by rw [List.filter_congr own]
  simp only [stamped,tally,counted]

theorem Tallied.accounted (tallied : Tallied records) (populated : Populated records) : Accounted records :=
  ⟨by rw [stamped_eq_tally populated]; exact tallied.versions,tallied.barren⟩

theorem Tallied.of_same (tallied : Tallied records) (versions : next'.canon.versions = records.canon.versions)
    (chunks : next'.canon.chunks = records.canon.chunks) (attempts : next'.attempts = records.attempts) : Tallied next' :=
  ⟨by rw [versions,chunks,attempts]; exact tallied.versions,by rw [attempts]; exact tallied.barren⟩

theorem Tallied.fruitless (tallied : Tallied records) (versions : next'.canon.versions = records.canon.versions)
    (chunks : next'.canon.chunks = records.canon.chunks) {attempt : KnowledgeIngestAttempt}
    (attempts : next'.attempts.rows = records.attempts.rows ++ [attempt]) (outcome : attempt.outcome ∉ canonicalOutcomes)
    (unversioned : attempt.versionId = none) : Tallied next' := by
  constructor
  · rw [versions,chunks,attempts,filter_append_none]
    · exact tallied.versions
    · intro row member
      cases List.mem_singleton.mp member
      exact decide_eq_false outcome
  · rw [attempts]
    intro row member other
    rcases List.mem_append.mp member with old | new
    · exact tallied.barren row old other
    · cases List.mem_singleton.mp new
      exact unversioned

theorem Tallied.fruitful (tallied : Tallied records) {version : KnowledgeDocumentVersion} {attempt : KnowledgeIngestAttempt}
    (versions : next'.canon.versions.rows.map (tally next'.canon.chunks) =
      records.canon.versions.rows.map (tally records.canon.chunks) ++ [tally next'.canon.chunks version])
    (attempts : next'.attempts.rows = records.attempts.rows ++ [attempt]) (outcome : attempt.outcome ∈ canonicalOutcomes)
    (same : tally next'.canon.chunks version = credited attempt) : Tallied next' := by
  constructor
  · have kept : [attempt].filter (·.outcome ∈ canonicalOutcomes) = [attempt] :=
      List.filter_eq_self.mpr fun row member => decide_eq_true (List.mem_singleton.mp member ▸ outcome)
    rw [versions,same,tallied.versions,attempts,List.filter_append,List.map_append,kept,List.map_singleton]
  · rw [attempts]
    intro row member other
    rcases List.mem_append.mp member with old | new
    · exact tallied.barren row old other
    · cases List.mem_singleton.mp new
      exact absurd outcome other

theorem attempt_attempts {operation : CatalogOperation} (done : attempt records operation = .ok next') :
    next'.attempts = records.attempts := by
  cases operation with
  | recordDisposition findingId principal disposition reason id decidedAt =>
    obtain ⟨_,_,_,_,_,_,rfl⟩ := recordDisposition_ok done
    rfl
  | reclassifySource sourceId principal trustClass sensitivity =>
    obtain ⟨_,_,rfl,_⟩ := reclassifySource_ok done
    rfl
  | retireDocument documentId principal now =>
    obtain ⟨_,_,_,_,_,rfl⟩ := retireDocument_ok done
    rfl
  | retireSource sourceId principal now =>
    obtain ⟨_,_,_,_,_,rfl⟩ := retireSource_ok done
    rfl
  | setDefault spaceId =>
    obtain ⟨_,rfl,_⟩ := setDefault_ok done
    rfl
  | markPrefixesVerified spaceId subject now =>
    cases markPrefixesVerified_ok done
    rfl

end Accounts

section Barren

/-- An end before anything canonical is written names no version. -/
def Exit.Barren : Exit → Prop
  | .refused closing _ => closing.versionId = none
  | .unchanged closing _ => closing.versionId = none
  | .aborted _ => True

def EndsBarren {α : Type} (result : Except Exit α) : Prop := ∀ exit, result = .error exit → exit.Barren

theorem endsBarren_bind {α β : Type} {first : Except Exit α} {rest : α → Except Exit β} (early : EndsBarren first)
    (late : ∀ value, EndsBarren (rest value)) : EndsBarren (first >>= rest) := by
  intro exit ended
  cases first with
  | ok value => exact late value exit ended
  | error other =>
    cases ended
    exact early exit rfl

theorem endsBarren_ok {α : Type} (value : α) : EndsBarren (.ok value) := by
  intro exit ended
  cases ended

theorem endsBarren_error {α : Type} {exit : Exit} (barren : exit.Barren) : EndsBarren (.error exit : Except Exit α) := by
  rintro _ ⟨⟩
  exact barren

variable {φ : Type} (instruments : Instruments) (ties : Uuid → Nat) (submission : Submission φ) (space : EmbeddingSpace)
  (records : Records φ)

theorem endsBarren_validate : EndsBarren (validate submission records) := by
  unfold validate
  dsimp only
  split
  · exact endsBarren_error rfl
  · split_ifs <;> first | exact endsBarren_error rfl | exact endsBarren_ok _

theorem endsBarren_checkUnchanged (document : Option KnowledgeDocument) (current : Option KnowledgeDocumentVersion) :
    EndsBarren (checkUnchanged instruments submission document current) := by
  cases current with
  | none => exact endsBarren_ok _
  | some current =>
    unfold checkUnchanged
    dsimp only
    split_ifs <;> first | exact endsBarren_error rfl | exact endsBarren_ok _

theorem endsBarren_passGate (report : List Finding) : EndsBarren (passGate instruments ties submission records report) := by
  unfold passGate
  dsimp only
  split
  · exact endsBarren_error rfl
  · exact endsBarren_ok _

theorem endsBarren_embedChunks (report : List Finding) : EndsBarren (embedChunks instruments submission space report) := by
  unfold embedChunks
  dsimp only
  split
  · exact endsBarren_error rfl
  · split
    · exact endsBarren_error rfl
    · split
      · exact endsBarren_ok _
      · exact endsBarren_error rfl
      · exact endsBarren_error trivial

theorem endsBarren_judge : EndsBarren (judge instruments ties submission space records) := by
  refine endsBarren_bind (endsBarren_validate submission records) fun source => ?_
  refine endsBarren_bind (endsBarren_checkUnchanged instruments submission _ _) fun _ => ?_
  refine endsBarren_bind (endsBarren_passGate instruments ties submission records _) fun _ => ?_
  exact endsBarren_bind (endsBarren_embedChunks instruments submission space _) fun _ => endsBarren_ok _

end Barren

section Ended

variable {φ : Type} {instruments : Instruments} {ties : Uuid → Nat} {storable : φ → Bool} {records opened final : Records φ}
  {submission : Submission φ} {space : EmbeddingSpace} {closing : Closing}

theorem attempts_closed (opening : openAttempt instruments submission records = .ok opened) :
    (opened.attempts.update submission.draws.attempt (closing.finish submission.draws.finishedAt)).rows =
      records.attempts.rows ++ [(closing.finish submission.draws.finishedAt).change (openedAttempt instruments submission)] := by
  obtain ⟨_,_,attempts,added,rfl⟩ := openAttempt_ok.mp opening
  exact Table.rows_update_insert _ added

theorem Tallied.pending (tallied : Tallied records) (opening : openAttempt instruments submission records = .ok opened) :
    Tallied opened := by
  obtain ⟨_,_,attempts,added,rfl⟩ := openAttempt_ok.mp opening
  have unended : (openedAttempt instruments submission).outcome ∉ canonicalOutcomes := by
    change IngestOutcome.pending ∉ canonicalOutcomes
    decide
  exact tallied.fruitless rfl rfl (Table.insert_eq_some added).2 unended rfl

theorem Tallied.closed (tallied : Tallied records) (opening : openAttempt instruments submission records = .ok opened)
    (closed : closeAttempt opened submission.draws closing = .ok final) (barren : closing.versionId = none) : Tallied final := by
  obtain ⟨outcome,findings,_,rfl⟩ := closeAttempt_ok.mp closed
  obtain ⟨canon,_⟩ := sameStore_open opening
  rw [barren] at outcome
  refine tallied.fruitless ?_ ?_ (attempts_closed opening) (of_decide_eq_false outcome) barren
  · rw [canon]
  · rw [canon]

theorem tally_old {admitted : Admitted φ} (persisted : Persisted instruments submission space storable records admitted)
    {version : KnowledgeDocumentVersion} (member : version ∈ records.canon.versions.rows) :
    tally persisted.store.canon.chunks version = tally records.canon.chunks version := by
  have rows : persisted.store.canon.chunks.rows = records.canon.chunks.rows ++ persisted.rows :=
    (Table.insertAll_eq_some persisted.chunked).2
  have apart := (Table.insert_eq_some persisted.versioned).1 version member
  unfold tally
  rw [rows,filter_append_none]
  exact fun row inRows => decide_eq_false fun mine => apart (mine.symm.trans (mem_persisted_rows persisted inRows).1)

theorem count_new (intact : Intact records) {admitted : Admitted φ}
    (persisted : Persisted instruments submission space storable records admitted) :
    (persisted.store.canon.chunks.rows.filter (·.versionId = persisted.version.id)).length = admitted.chunks.length := by
  have rows : persisted.store.canon.chunks.rows = records.canon.chunks.rows ++ persisted.rows :=
    (Table.insertAll_eq_some persisted.chunked).2
  have none : records.canon.chunks.rows.filter (·.versionId = persisted.version.id) = [] := by
    refine List.filter_eq_nil_iff.mpr fun chunk member mine => ?_
    obtain ⟨version,inVersions,named,_⟩ := intact.chunkVersion chunk member
    exact (Table.insert_eq_some persisted.versioned).1 version inVersions (named.trans (of_decide_eq_true mine))
  have all : persisted.rows.filter (·.versionId = persisted.version.id) = persisted.rows :=
    List.filter_eq_self.mpr fun row inRows => decide_eq_true (mem_persisted_rows persisted inRows).1
  rw [rows,List.filter_append,none,all,List.nil_append,persisted.rows_eq,chunkRows,List.length_mapIdx]

theorem tally_versions {admitted : Admitted φ} (persisted : Persisted instruments submission space storable records admitted) :
    persisted.store.canon.versions.rows.map (tally persisted.store.canon.chunks) =
      records.canon.versions.rows.map (tally records.canon.chunks) ++ [tally persisted.store.canon.chunks persisted.version] := by
  have marked : persisted.store.canon.versions.rows.map (tally persisted.store.canon.chunks) =
      persisted.versions.rows.map (tally persisted.store.canon.chunks) := by
    change (supersededVersions persisted.versions _ admitted.current).rows.map _ = _
    cases admitted.current with
    | none => rfl
    | some current => exact Table.map_revise fun _ => rfl
  rw [marked,(Table.insert_eq_some persisted.versioned).2,List.map_append,List.map_singleton]
  congr 1
  exact List.map_congr_left fun version member => tally_old persisted member

theorem tally_new (intact : Intact records) {admitted : Admitted φ}
    (persisted : Persisted instruments submission space storable records admitted) :
    tally persisted.store.canon.chunks persisted.version =
      credited (((versionClosing instruments submission persisted.version admitted).finish submission.draws.finishedAt).change
        (openedAttempt instruments submission)) := by
  have vectors : admitted.vectors.length = admitted.chunks.length := by
    rw [← persisted.paired,persisted.rows_eq,chunkRows,List.length_mapIdx]
  have version := persisted.version_eq
  have attempt : persisted.version.createdByAttemptId = submission.draws.attempt := by rw [version]; rfl
  have raw : persisted.version.rawContentHash = submission.rawHash instruments := by rw [version]; rfl
  have text : persisted.version.textContentHash = submission.textHash instruments := by rw [version]; rfl
  unfold tally
  rw [count_new intact persisted,attempt,raw,text]
  simp only [credited,versionClosing,Closing.finish,openedAttempt,vectors]

theorem Tallied.earned (tallied : Tallied records) (intact : Intact records) {admitted : Admitted φ} {result : IngestResult}
    (opening : openAttempt instruments submission records = .ok opened)
    (earning : earnVersion instruments storable submission space opened admitted = .ok (result,final)) : Tallied final := by
  obtain ⟨persisted,_,closed⟩ := earnVersion_ok earning
  obtain ⟨_,findings,_,rfl⟩ := closeAttempt_ok.mp closed
  have attempts := @attempts_closed _ instruments records opened submission
    (versionClosing instruments submission persisted.version admitted) opening
  have same : SameStore records opened := sameStore_open opening
  have canonical : versionOutcome persisted.version ∈ canonicalOutcomes := by
    unfold versionOutcome
    split <;> decide
  have versions := tally_versions persisted
  rw [same.1] at versions
  exact tallied.fruitful versions attempts canonical (tally_new (intact.of_outline same.outline) persisted)

theorem Tallied.next (tallied : Tallied records) (intact : Intact records) (op : Operation φ) :
    Tallied (next instruments ties storable records op) := by
  cases op with
  | catalog operation =>
    exact settle_preserves Tallied (fun _ done => tallied.of_same (attempt_kept done).1 (attempt_kept done).2
      (attempt_attempts done)) tallied
  | submit submission spaceId =>
    change Tallied (submit instruments ties storable records submission spaceId).2
    unfold submit
    cases resolveSpace records spaceId with
    | error refusal => exact tallied
    | ok space =>
      have ended := ingest_ended instruments ties storable submission space records
      dsimp only
      generalize ingest instruments ties storable submission space records = outcome at ended
      obtain ⟨answer,final⟩ := outcome
      cases ended with
      | unopened _ => exact tallied
      | refused opening judged closed =>
        exact tallied.closed opening closed (endsBarren_judge instruments ties submission space records _ judged)
      | unchanged opening judged closed =>
        exact tallied.closed opening closed (endsBarren_judge instruments ties submission space records _ judged)
      | pending opening => exact tallied.pending opening
      | earned opening judged earning => exact tallied.earned intact opening earning

end Ended

/-- In every run, whatever the contents, the embedder's answers and the clashes of identifiers, the versions are those that the
attempts with an outcome of their own account for, in the same order and with the same hashes and counts. -/
theorem attempt_ledger {φ : Type} (instruments : Instruments) (ties : Uuid → Nat) (storable : φ → Bool) (start : Records φ)
    (empty : start.canon = .empty) (untried : start.attempts = .empty) (ops : List (Operation φ)) :
    Accounted (after instruments ties storable start ops) := by
  have begun : Tallied start := by
    constructor
    · rw [empty,untried]
      rfl
    · rw [untried]
      exact fun _ member => absurd member List.not_mem_nil
  have both := run_preserves (fun records op _ (good : Intact records ∧ Tallied records) =>
      (⟨good.1.next op,good.2.next good.1 op⟩ : Intact (next instruments ties storable records op) ∧ Tallied _))
    (along_of_forall (fun _ _ => trivial) start ops) ⟨(populated_empty empty).intact,begun⟩
  exact both.2.accounted (populated_after empty ops)

section Laboratory
open Laboratory

theorem attempt_ledger_lab :
    (filed edited).attempts.rows.map credited = [⟨10,.created,some 11,some 12,sha256 "vlan",some (sha256 "vlan"),some 1,some 1⟩,
      ⟨20,.versioned,some 11,some 22,sha256 "trunk",some (sha256 "trunk"),some 1,some 1⟩] ∧ Accounted (filed edited) :=
  ⟨by decide +kernel,attempt_ledger libraries BitVec.toNat (fun _ => true) shelf rfl rfl edited⟩

end Laboratory

end Acop.Knowledge
