import Acop.Knowledge.References

/-! Nothing is persisted past the gate: a version that a run leaves was screened, and each
blocking finding had been judged a false positive for just that content. -/
namespace Acop.Knowledge
open Acop.Store Acop.Selection Acop.Serial

section Disposition

variable {φ : Type} {ties : Uuid → Nat} {records : Records φ} {sourceId : Uuid} {externalRef rawHash fingerprint : String}

/-- A latest disposition on a fingerprint, for one target's content, that clears it. -/
structure LatestFalsePositive (records : Records φ) (sourceId : Uuid) (externalRef rawHash fingerprint : String)
    (row : KnowledgeFindingDisposition) : Prop where
  recorded : row ∈ records.dispositions.rows
  scope : InScope sourceId externalRef rawHash row
  named : row.matchFingerprint = fingerprint
  verdict : row.disposition = .falsePositive
  latest : ∀ other ∈ records.dispositions.rows, InScope sourceId externalRef rawHash other →
    other.matchFingerprint = fingerprint → other.decidedAt ≤ row.decidedAt

theorem decidedAt_le {first second : KnowledgeFindingDisposition} (least : byDecision ties first ≤ byDecision ties second) :
    first.decidedAt ≤ second.decidedAt := by
  rcases Prod.Lex.le_iff.mp least with earlier | ⟨same,_⟩
  · exact le_of_lt earlier
  · exact le_of_eq same

theorem latest_eq_some {disposition : Disposition}
    (last : latest ties records sourceId externalRef rawHash fingerprint = some disposition) :
    ∃ row ∈ records.dispositions.rows, InScope sourceId externalRef rawHash row ∧ row.matchFingerprint = fingerprint ∧
      row.disposition = disposition ∧ ∀ other ∈ records.dispositions.rows, InScope sourceId externalRef rawHash other →
        other.matchFingerprint = fingerprint → other.decidedAt ≤ row.decidedAt := by
  obtain ⟨row,found,same⟩ := Option.map_eq_some_iff.mp last
  obtain ⟨inScope,named,greatest⟩ := last_greatest (byDecision ties) found
  obtain ⟨member,scope⟩ := List.mem_filter.mp inScope
  refine ⟨row,member,of_decide_eq_true scope,of_decide_eq_true named,same,?_⟩
  intro other inOther otherScope otherNamed
  have listed : other ∈ records.dispositions.rows.filter (InScope sourceId externalRef rawHash ·) :=
    List.mem_filter.mpr ⟨inOther,decide_eq_true otherScope⟩
  exact decidedAt_le (greatest other listed (decide_eq_true otherNamed))

theorem cleared_latest (clear : cleared ties records sourceId externalRef rawHash fingerprint = true) :
    ∃ row, LatestFalsePositive records sourceId externalRef rawHash fingerprint row := by
  obtain ⟨disposition,last,unblocks⟩ := (Option.any_eq_true _ _).mp clear
  have verdict : disposition = .falsePositive := List.mem_singleton.mp (of_decide_eq_true unblocks)
  obtain ⟨row,recorded,scope,named,same,greatest⟩ := latest_eq_some last
  exact ⟨row,recorded,scope,named,same.trans verdict,greatest⟩

theorem unresolved_nil {instruments : Instruments} {submission : Submission φ} {report : List Finding}
    (none : unresolved instruments ties submission records report = []) {finding : Finding} (blocks : finding ∈ blocking report) :
    ∃ row, LatestFalsePositive records submission.request.sourceId submission.request.externalRef
      (submission.rawHash instruments) finding.matchFingerprint row := by
  have kept := List.filter_eq_nil_iff.mp none finding blocks
  have clear : cleared ties records submission.request.sourceId submission.request.externalRef
      (submission.rawHash instruments) finding.matchFingerprint = true := by simpa using kept
  exact cleared_latest clear

end Disposition

section Admission

variable {φ : Type} (instruments : Instruments) (ties : Uuid → Nat) (storable : φ → Bool)

/-- The submission is of the version's content, for the version's document, and the gate was
open to it: each blocking finding of the normalised text was cleared for just this content. -/
structure Admits (records : Records φ) (submission : Submission φ) (final : Records φ) (version : KnowledgeDocumentVersion) :
    Prop where
  raw : version.rawContentHash = submission.rawHash instruments
  text : version.textContentHash = submission.textHash instruments
  document : ∃ document ∈ final.canon.documents.rows, document.id = version.documentId ∧
    document.sourceId = submission.request.sourceId ∧ document.externalRef = submission.request.externalRef
  clear : ∀ finding ∈ blocking (screen instruments (submission.normalised instruments)),
    ∃ row, LatestFalsePositive records submission.request.sourceId submission.request.externalRef version.rawContentHash
      finding.matchFingerprint row

def Makes (records : Records φ) (op : Operation φ) (version : KnowledgeDocumentVersion) : Prop :=
  ∃ submission spaceId, op = .submit submission spaceId ∧
    Admits instruments records submission (next instruments ties storable records op) version

/-- An operation that makes the chunk, with a version it belongs to, out of the text that was screened. -/
def MakesChunk (records : Records φ) (op : Operation φ) (chunk : KnowledgeChunk) : Prop :=
  ∃ submission spaceId version, op = .submit submission spaceId ∧
    Admits instruments records submission (next instruments ties storable records op) version ∧ chunk.versionId = version.id ∧
    ∃ piece ∈ instruments.chunkDocument (submission.normalised instruments),
      chunk.content = piece.content

end Admission

section Step

variable {φ : Type} {instruments : Instruments} {ties : Uuid → Nat} {storable : φ → Bool} {records : Records φ}

theorem Admits.of_same {submission : Submission φ} {final : Records φ} {old version : KnowledgeDocumentVersion}
    (admits : Admits instruments records submission final old) (same : SameVersion old version) :
    Admits instruments records submission final version := by
  constructor
  · exact same.rawContentHash.trans admits.raw
  · exact same.textContentHash.trans admits.text
  · obtain ⟨row,member,named,asked⟩ := admits.document
    exact ⟨row,member,named.trans same.documentId.symm,asked⟩
  · rw [same.rawContentHash]
    exact admits.clear

section Persisted

variable {submission : Submission φ} {space : EmbeddingSpace} {admitted : Admitted φ}

theorem persisted_admits {final : Records φ} (judged : judge instruments ties submission space records = .ok admitted)
    (persisted : Persisted instruments submission space storable records admitted) (same : SameStore persisted.store final) :
    Admits instruments records submission final persisted.version := by
  obtain ⟨member,asked⟩ := persisted_document judged persisted
  obtain ⟨_,_,_,_,report,passed,_⟩ := judge_ok.mp judged
  have version := persisted.version_eq
  have raw : persisted.version.rawContentHash = submission.rawHash instruments := by
    rw [version]
    rfl
  refine ⟨raw,?_,?_,?_⟩
  · rw [version]
    rfl
  · rw [same.1]
    refine ⟨_,Table.change_mem_revise member (decide_eq_true rfl),?_,asked.source,asked.ref⟩
    rw [version]
    rfl
  · intro finding blocks
    rw [raw]
    rw [report] at passed
    exact unresolved_nil passed blocks

theorem persisted_chunk {chunk : KnowledgeChunk} (judged : judge instruments ties submission space records = .ok admitted)
    (persisted : Persisted instruments submission space storable records admitted) (member : chunk ∈ persisted.rows) :
    chunk.versionId = persisted.version.id ∧
      ∃ piece ∈ instruments.chunkDocument (submission.normalised instruments),
        chunk.content = piece.content := by
  obtain ⟨_,_,_,_,_,_,embeds⟩ := judge_ok.mp judged
  rw [persisted.rows_eq,chunkRows,List.mem_mapIdx] at member
  obtain ⟨place,inside,rfl⟩ := member
  refine ⟨rfl,admitted.chunks[place],?_,rfl⟩
  rw [← embeds.cut]
  exact List.getElem_mem inside

end Persisted

theorem next_version {op : Operation φ} {version : KnowledgeDocumentVersion}
    (member : version ∈ (next instruments ties storable records op).canon.versions.rows) :
    (∃ old ∈ records.canon.versions.rows, SameVersion old version) ∨ Makes instruments ties storable records op version := by
  cases op with
  | catalog operation =>
    left
    refine ⟨version,?_,rfl⟩
    simp only [next] at member
    cases done : attempt records operation with
    | ok next' =>
      rw [settle_ok done,(attempt_kept done).1] at member
      exact member
    | error refusal =>
      rw [settle_error done] at member
      exact member
  | submit submission spaceId =>
    rcases submit_stored instruments ties storable records submission spaceId with same | ⟨resolved,judged,persisted,same⟩
    · left
      exact ⟨version,same.1 ▸ member,rfl⟩
    · have stored : version ∈ persisted.store.canon.versions.rows := same.1 ▸ member
      obtain ⟨row,inserted,unmarked⟩ := mem_supersededVersions stored
      rcases (Table.mem_insert persisted.versioned).mp inserted with old | rfl
      · exact .inl ⟨row,old,unmarked⟩
      · exact .inr ⟨submission,spaceId,rfl,(persisted_admits judged persisted same).of_same unmarked⟩

theorem next_chunk {op : Operation φ} {chunk : KnowledgeChunk}
    (member : chunk ∈ (next instruments ties storable records op).canon.chunks.rows) :
    (∃ old ∈ records.canon.chunks.rows, old = chunk) ∨ MakesChunk instruments ties storable records op chunk := by
  cases op with
  | catalog operation =>
    left
    refine ⟨chunk,?_,rfl⟩
    simp only [next] at member
    cases done : attempt records operation with
    | ok next' =>
      rw [settle_ok done,(attempt_kept done).2] at member
      exact member
    | error refusal =>
      rw [settle_error done] at member
      exact member
  | submit submission spaceId =>
    rcases submit_stored instruments ties storable records submission spaceId with same | ⟨resolved,judged,persisted,same⟩
    · left
      exact ⟨chunk,same.1 ▸ member,rfl⟩
    · have stored : chunk ∈ persisted.store.canon.chunks.rows := same.1 ▸ member
      rcases (Table.mem_insertAll persisted.chunked).mp stored with old | new
      · exact .inl ⟨chunk,old,rfl⟩
      · obtain ⟨version,piece⟩ := persisted_chunk judged persisted new
        exact .inr ⟨submission,spaceId,persisted.version,rfl,persisted_admits judged persisted same,version,piece⟩

end Step

/-- Each version and each chunk that a run leaves was there at its start, or is of a submission
that the gate was open to when it was served; and a submission that raises leaves the
documents, the versions, the chunks and the vectors as they are. -/
theorem ingest_gate {φ : Type} (instruments : Instruments) (ties : Uuid → Nat) (storable : φ → Bool) (records : Records φ)
    (ops : List (Operation φ)) :
    (∀ version ∈ (after instruments ties storable records ops).canon.versions.rows,
      (∃ old ∈ records.canon.versions.rows, SameVersion old version) ∨ ∃ before op rest, ops = before ++ op::rest ∧
        Makes instruments ties storable (after instruments ties storable records before) op version) ∧
    (∀ chunk ∈ (after instruments ties storable records ops).canon.chunks.rows,
      chunk ∈ records.canon.chunks.rows ∨ ∃ before op rest, ops = before ++ op::rest ∧
        MakesChunk instruments ties storable (after instruments ties storable records before) op chunk) ∧
    ∀ submission spaceId refusal final,
      submit instruments ties storable (after instruments ties storable records ops) submission spaceId = (.raised refusal,final) →
        final.canon = (after instruments ties storable records ops).canon := by
  refine ⟨?_,?_,fun submission spaceId refusal final raised => (submit_raised raised).1⟩
  · apply run_origin (fun records => records.canon.versions.rows) SameVersion (Makes instruments ties storable)
    · exact fun _ _ _ member => next_version member
    · rintro state op old version same ⟨submission,spaceId,rfl,admits⟩
      exact ⟨submission,spaceId,rfl,admits.of_same same⟩
  · intro chunk member
    rcases run_origin (fun records => records.canon.chunks.rows) Eq (MakesChunk instruments ties storable)
      (fun _ _ _ member => next_chunk member) (fun _ _ _ _ same made => same ▸ made) records ops chunk member with
      ⟨old,inOld,rfl⟩ | made
    · exact .inl inOld
    · exact .inr made

end Acop.Knowledge
