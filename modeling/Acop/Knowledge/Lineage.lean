import Acop.Knowledge.References

/-! What every run of the evidence store keeps of its versions: a document's current one is its newest,
each is of a content that was submitted, and chunks and their current vectors have places of their own. -/
namespace Acop.Knowledge
open Acop.Store Acop.Serial

section Places

variable {φ : Type}

def KnowledgeEmbedding.standing (embedding : KnowledgeEmbedding φ) : Bool × Uuid × Uuid :=
  (embedding.isCurrentEmbedding,embedding.chunkId,embedding.embeddingSpaceId)

theorem currentPlaces_eq (rows : List (KnowledgeEmbedding φ)) :
    currentPlaces rows = ((rows.map KnowledgeEmbedding.standing).filter (·.1)).map (·.2) := by
  rw [List.filter_map,List.map_map]
  rfl

theorem currentPlaces_congr {old new : List (KnowledgeEmbedding φ)}
    (same : new.map KnowledgeEmbedding.standing = old.map KnowledgeEmbedding.standing) : currentPlaces new = currentPlaces old := by
  rw [currentPlaces_eq,same,← currentPlaces_eq]

variable {records next' : Records φ}

theorem retired_standing {canon : Canon φ} {which : KnowledgeChunk → Bool}
    (done : perFamily records {records.canon with embeddings := retiredVectors records.canon which} = .ok canon) :
    canon.embeddings.rows.map KnowledgeEmbedding.standing = records.canon.embeddings.rows.map KnowledgeEmbedding.standing := by
  rcases (perFamily_ok done).2 with rfl | ⟨_,rfl⟩
  · exact Table.map_revise fun _ => rfl
  · rfl

theorem attempt_standing {operation : CatalogOperation} (done : attempt records operation = .ok next') :
    next'.canon.embeddings.rows.map KnowledgeEmbedding.standing =
      records.canon.embeddings.rows.map KnowledgeEmbedding.standing := by
  cases operation with
  | recordDisposition findingId principal disposition reason id decidedAt =>
    obtain ⟨_,_,_,_,_,_,rfl⟩ := recordDisposition_ok done
    rfl
  | reclassifySource sourceId principal trustClass sensitivity =>
    obtain ⟨sources,embeddings,rfl,_,rfl | ⟨_,_,rfl⟩⟩ := reclassifySource_ok done
    · rfl
    · exact Table.map_revise fun _ => rfl
  | retireDocument documentId principal now =>
    obtain ⟨_,canon,_,_,retired,rfl⟩ := retireDocument_ok done
    have kept := retired_standing retired
    exact kept
  | retireSource sourceId principal now =>
    obtain ⟨_,canon,_,_,retired,rfl⟩ := retireSource_ok done
    exact retired_standing retired
  | setDefault spaceId =>
    obtain ⟨_,rfl,_⟩ := setDefault_ok done
    rfl
  | markPrefixesVerified spaceId subject now =>
    cases markPrefixesVerified_ok done
    rfl

end Places

section Lineal

variable {φ : Type}

/-- Each document's current version is its newest, a version is of a content that was submitted, and
a chunk has one current vector in a space. -/
structure Lineal (instruments : Instruments) (contents : Set String) (records : Records φ) : Prop where
  intact : Intact records
  numbered : ∀ version ∈ records.canon.versions.rows, 0 < version.versionNo
  newest : ∀ version ∈ records.canon.versions.rows, ∀ document ∈ records.canon.documents.rows,
    document.id = version.documentId → ∃ current ∈ records.canon.versions.rows,
      document.currentVersionId = some current.id ∧ version.versionNo ≤ current.versionNo
  sourced : ∀ version ∈ records.canon.versions.rows, ∃ content ∈ contents,
    version.rawContentHash = instruments.sha256 content ∧
      version.textContentHash = instruments.sha256 (normalise instruments.nfc content)
  placed : (records.canon.chunks.rows.map (·.place)).Nodup
  once : (currentPlaces records.canon.embeddings.rows).Nodup

variable {instruments : Instruments} {ties : Uuid → Nat} {storable : φ → Bool} {contents : Set String} {records next' : Records φ}
  {submission : Submission φ} {space : EmbeddingSpace} {admitted : Admitted φ}

theorem Lineal.of_outline (lineal : Lineal instruments contents records) (same : SameOutline records next')
    (standing : next'.canon.embeddings.rows.map KnowledgeEmbedding.standing =
      records.canon.embeddings.rows.map KnowledgeEmbedding.standing) : Lineal instruments contents next' := by
  have versions := same.versions
  refine ⟨lineal.intact.of_outline same,?_,?_,?_,?_,?_⟩
  · rw [versions]
    exact lineal.numbered
  · intro version inVersions document member named
    rw [versions] at inVersions ⊢
    obtain ⟨old,inOld,equal⟩ := exists_same same.documents member
    have id : old.id = document.id := congrArg Prod.fst equal
    have current : old.currentVersionId = document.currentVersionId := congrArg (·.2.2) equal
    rw [← current]
    exact lineal.newest version inVersions old inOld (id.trans named)
  · rw [versions]
    exact lineal.sourced
  · rw [same.chunks]
    exact lineal.placed
  · rw [currentPlaces_congr standing]
    exact lineal.once

theorem Lineal.of_same (lineal : Lineal instruments contents records) (same : SameStore records next') :
    Lineal instruments contents next' :=
  lineal.of_outline same.outline (by rw [same.1])

theorem Lineal.current (lineal : Lineal instruments contents records) {document : KnowledgeDocument}
    (member : document ∈ records.canon.documents.rows) {version : KnowledgeDocumentVersion}
    (own : version ∈ versionsOf records.canon document.id) :
    ∃ current, currentVersion records (some document) = some current ∧ version.versionNo ≤ current.versionNo := by
  obtain ⟨inVersions,named⟩ := List.mem_filter.mp own
  obtain ⟨current,inCurrent,points,least⟩ := lineal.newest version inVersions document member (of_decide_eq_true named).symm
  refine ⟨current,?_,least⟩
  have found : records.canon.versions.find current.id = some current := Table.find_eq_some.mpr ⟨inCurrent,rfl⟩
  simp only [currentVersion,Option.bind_some,points,found]

theorem Lineal.versionless (lineal : Lineal instruments contents records) {documentId : Uuid}
    (fresh : ∀ old ∈ records.canon.documents.rows, old.id ≠ documentId) : versionsOf records.canon documentId = [] := by
  refine List.filter_eq_nil_iff.mpr fun version member => ?_
  obtain ⟨old,inOld,owns⟩ := lineal.intact.versionDocument version member
  exact fun named => fresh old inOld (owns.trans (of_decide_eq_true named))

/-- A version of the document that a new one is for has a number that the current one's is not below. -/
theorem Lineal.preceding (lineal : Lineal instruments contents records)
    (judged : judge instruments ties submission space records = .ok admitted) {document : KnowledgeDocument}
    (drafts : admitted.document = some document ∨
      (admitted.document = none ∧ ∀ old ∈ records.canon.documents.rows, old.id ≠ document.id))
    {version : KnowledgeDocumentVersion} (own : version ∈ versionsOf records.canon document.id) :
    ∃ current, admitted.current = some current ∧ version.versionNo ≤ current.versionNo := by
  obtain ⟨_,asked,current,_⟩ := judge_ok.mp judged
  rcases drafts with found | ⟨_,fresh⟩
  · rw [current,found]
    exact lineal.current (findDocument_eq_some (asked.symm.trans found)).1 own
  · rw [lineal.versionless fresh] at own
    exact absurd own List.not_mem_nil

theorem Persisted.drafted_fresh (persisted : Persisted instruments submission space storable records admitted) :
    admitted.document = some persisted.document ∨
      (admitted.document = none ∧ ∀ old ∈ records.canon.documents.rows, old.id ≠ persisted.document.id) := by
  rcases persisted.drafts with ⟨found,_⟩ | ⟨none,_,_,_,added⟩
  · exact .inl found
  · exact .inr ⟨none,(Table.insert_eq_some added).1⟩

theorem newVersion_no (persisted : Persisted instruments submission space storable records admitted)
    {current : KnowledgeDocumentVersion} (before : admitted.current = some current) :
    persisted.version.versionNo = current.versionNo + 1 := by
  rw [persisted.version_eq]
  simp only [newVersion,before]

theorem Lineal.persisted (lineal : Lineal instruments contents records) (inContents : submission.request.content ∈ contents)
    (judged : judge instruments ties submission space records = .ok admitted)
    (persisted : Persisted instruments submission space storable records admitted) :
    Lineal instruments contents persisted.store := by
  obtain ⟨made,inMade,sameMade⟩ := persisted_versions_keep persisted (.inr rfl)
  refine ⟨lineal.intact.persisted judged persisted,?_,?_,?_,?_,?_⟩
  · intro version member
    rcases mem_persisted_versions persisted member with ⟨old,inOld,same⟩ | same
    · rw [same.versionNo]
      exact lineal.numbered old inOld
    · rw [same.versionNo]
      have positive := persisted.version_fits (.versionNoPositive,_) (.tail _ (.head _))
      exact of_decide_eq_true positive
  · intro version member document inDocuments named
    rcases (persisted_documents judged persisted).mp inDocuments with rfl | ⟨inOld,apart⟩
    · refine ⟨made,inMade,congrArg some sameMade.id.symm,?_⟩
      rw [sameMade.versionNo]
      rcases mem_persisted_versions persisted member with ⟨old,inVersions,same⟩ | same
      · have own : old ∈ versionsOf records.canon persisted.document.id :=
          List.mem_filter.mpr ⟨inVersions,decide_eq_true (same.documentId.symm.trans named.symm)⟩
        obtain ⟨current,before,least⟩ := lineal.preceding judged persisted.drafted_fresh own
        rw [same.versionNo,newVersion_no persisted before]
        omega
      · exact le_of_eq same.versionNo
    · rcases mem_persisted_versions persisted member with ⟨old,inVersions,same⟩ | same
      · obtain ⟨current,inCurrent,points,least⟩ :=
          lineal.newest old inVersions document inOld (named.trans same.documentId)
        obtain ⟨later,inLater,kept⟩ := persisted_versions_keep persisted (.inl inCurrent)
        refine ⟨later,inLater,?_,?_⟩
        · rw [kept.id]
          exact points
        · rw [kept.versionNo,same.versionNo]
          exact least
      · exact absurd (named.trans (same.documentId.trans (persisted_of persisted))) apart
  · intro version member
    rcases mem_persisted_versions persisted member with ⟨old,inOld,same⟩ | same
    · rw [same.rawContentHash,same.textContentHash]
      exact lineal.sourced old inOld
    · refine ⟨submission.request.content,inContents,?_,?_⟩
      · rw [same.rawContentHash,persisted.version_eq]
        rfl
      · rw [same.textContentHash,persisted.version_eq]
        rfl
  · have rows := (Table.insertAll_eq_some persisted.chunked).2
    have listed : persisted.store.canon.chunks.rows = records.canon.chunks.rows ++ persisted.rows := rows
    rw [listed]
    exact persisted.places
  · have rows := (Table.insertAll_eq_some persisted.embedded).2
    have listed : persisted.store.canon.embeddings.rows = (vacatedVectors records.canon admitted.current).rows ++
        embeddingRows submission space admitted.source persisted.rows admitted.vectors := rows
    rw [listed]
    exact persisted.current_once

/-- What an operation submits is among the contents. -/
def Operation.Within (contents : Set String) : Operation φ → Prop
  | .submit submission _ => submission.request.content ∈ contents
  | .catalog _ => True

theorem Lineal.next (lineal : Lineal instruments contents records) {op : Operation φ} (within : op.Within contents) :
    Lineal instruments contents (next instruments ties storable records op) := by
  cases op with
  | catalog operation =>
    exact settle_preserves (Lineal instruments contents)
      (fun _ done => lineal.of_outline (attempt_outline done) (attempt_standing done)) lineal
  | submit submission spaceId =>
    rcases submit_stored instruments ties storable records submission spaceId with same | ⟨_,judged,persisted,same⟩
    · exact lineal.of_same same
    · exact (lineal.persisted within judged persisted).of_same same

def Canon.empty : Canon φ := ⟨.empty,.empty,.empty,.empty⟩

end Lineal

end Acop.Knowledge
