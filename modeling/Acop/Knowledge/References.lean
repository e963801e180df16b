import Acop.Knowledge.Effects

/-! What the rows of a store refer to, and that every operation keeps it so. A document
and a version keep what they are for; chunks and the places of vectors are never moved. -/
namespace Acop.Knowledge
open Acop.Store Acop.Serial

section Versions

def KnowledgeDocumentVersion.unmarked (version : KnowledgeDocumentVersion) : KnowledgeDocumentVersion :=
  {version with supersededAt := none}

def SameVersion (old version : KnowledgeDocumentVersion) : Prop := version.unmarked = old.unmarked

instance : Std.Refl SameVersion := ⟨fun _ => rfl⟩

instance : IsTrans KnowledgeDocumentVersion SameVersion := ⟨fun _ _ _ early late => late.trans early⟩

variable {old version : KnowledgeDocumentVersion}

theorem SameVersion.column {Column : Type} {column : KnowledgeDocumentVersion → Column} (same : SameVersion old version)
    (kept : ∀ row : KnowledgeDocumentVersion, column row.unmarked = column row) : column version = column old := by
  have equal : version.unmarked = old.unmarked := same
  rw [← kept version,equal,kept]

theorem SameVersion.id (same : SameVersion old version) : version.id = old.id := same.column fun _ => rfl

theorem SameVersion.documentId (same : SameVersion old version) : version.documentId = old.documentId :=
  same.column fun _ => rfl

theorem SameVersion.versionNo (same : SameVersion old version) : version.versionNo = old.versionNo :=
  same.column fun _ => rfl

theorem SameVersion.rawContentHash (same : SameVersion old version) : version.rawContentHash = old.rawContentHash :=
  same.column fun _ => rfl

theorem SameVersion.textContentHash (same : SameVersion old version) : version.textContentHash = old.textContentHash :=
  same.column fun _ => rfl

variable {versions : Table KnowledgeDocumentVersion.id} {now : Time} {current : Option KnowledgeDocumentVersion}

theorem mem_supersededVersions (member : version ∈ (supersededVersions versions now current).rows) :
    ∃ old ∈ versions.rows, SameVersion old version := by
  cases current with
  | none => exact ⟨version,member,rfl⟩
  | some current =>
    obtain ⟨old,inOld,⟨_,rfl⟩ | ⟨_,rfl⟩⟩ := Table.mem_update.mp member
    · exact ⟨old,inOld,rfl⟩
    · exact ⟨version,inOld,rfl⟩

theorem supersededVersions_keeps (member : old ∈ versions.rows) :
    ∃ version ∈ (supersededVersions versions now current).rows, SameVersion old version := by
  cases current with
  | none => exact ⟨old,member,rfl⟩
  | some current =>
    by_cases closed : old.id = current.id
    · exact ⟨_,Table.change_mem_revise member (decide_eq_true closed),rfl⟩
    · exact ⟨old,Table.mem_revise_of_not member (by simpa using closed),rfl⟩

end Versions

section Persisted

variable {φ : Type} {instruments : Instruments} {ties : Uuid → Nat} {storable : φ → Bool} {records : Records φ}
  {submission : Submission φ} {space : EmbeddingSpace} {admitted : Admitted φ}

theorem findDocument_eq_some {document : KnowledgeDocument} (found : findDocument submission records = some document) :
    document ∈ records.canon.documents.rows ∧ document.sourceId = submission.request.sourceId ∧
      document.externalRef = submission.request.externalRef ∧ document.lifecycleState = .active := by
  refine ⟨List.mem_of_find?_eq_some found,?_⟩
  have which := List.find?_some found
  simp only [Bool.and_eq_true,decide_eq_true_eq] at which
  exact ⟨which.1.1,which.1.2,which.2⟩

theorem Persisted.drafts (persisted : Persisted instruments submission space storable records admitted) :
    (admitted.document = some persisted.document ∧ persisted.documents = records.canon.documents) ∨
      (admitted.document = none ∧ persisted.document = newDocument submission ∧
        (∀ check ∈ persisted.document.checks, check.2 = true) ∧
        (∀ other ∈ records.canon.documents.rows, sameActiveRef persisted.document other = false) ∧
        records.canon.documents.insert persisted.document = some persisted.documents) := by
  obtain ⟨documents,same,drafted⟩ := ensureDocument_ok persisted.drafted
  have equal : persisted.documents = documents := congrArg Canon.documents same
  rw [equal]
  exact drafted

/-- A document that holds the submission's place among the active ones. -/
structure Asked (submission : Submission φ) (document : KnowledgeDocument) : Prop where
  source : document.sourceId = submission.request.sourceId
  ref : document.externalRef = submission.request.externalRef
  active : document.lifecycleState = .active

theorem persisted_document (judged : judge instruments ties submission space records = .ok admitted)
    (persisted : Persisted instruments submission space storable records admitted) :
    persisted.document ∈ persisted.documents.rows ∧ Asked submission persisted.document := by
  obtain ⟨_,asked,_⟩ := judge_ok.mp judged
  rcases persisted.drafts with ⟨found,same⟩ | ⟨_,made,_,_,added⟩
  · rw [asked] at found
    obtain ⟨member,source,ref,active⟩ := findDocument_eq_some found
    rw [same]
    exact ⟨member,source,ref,active⟩
  · refine ⟨(Table.mem_insert added).mpr (.inr rfl),?_⟩
    rw [made]
    exact ⟨rfl,rfl,rfl⟩

def Persisted.pointed (persisted : Persisted instruments submission space storable records admitted) : KnowledgeDocument :=
  (pointing persisted.version.id submission.request.title).change persisted.document

theorem persisted_documents (judged : judge instruments ties submission space records = .ok admitted)
    (persisted : Persisted instruments submission space storable records admitted) {document : KnowledgeDocument} :
    document ∈ persisted.store.canon.documents.rows ↔ document = persisted.pointed ∨
      (document ∈ records.canon.documents.rows ∧ document.id ≠ persisted.document.id) := by
  obtain ⟨member,_⟩ := persisted_document judged persisted
  have others : ∀ other : KnowledgeDocument, other.id ≠ persisted.document.id →
      (other ∈ persisted.documents.rows ↔ other ∈ records.canon.documents.rows) := by
    intro other apart
    rcases persisted.drafts with ⟨_,same⟩ | ⟨_,_,_,_,added⟩
    · rw [same]
    · rw [Table.mem_insert added]
      exact or_iff_left fun same => apart (congrArg KnowledgeDocument.id same)
  change document ∈ (persisted.documents.update _ _).rows ↔ _
  rw [Table.mem_update]
  constructor
  · rintro ⟨old,inOld,⟨named,rfl⟩ | ⟨apart,rfl⟩⟩
    · cases Table.eq_of_key inOld member named
      exact .inl rfl
    · exact .inr ⟨(others document apart).mp inOld,apart⟩
  · rintro (rfl | ⟨inOld,apart⟩)
    · exact ⟨persisted.document,member,.inl ⟨rfl,rfl⟩⟩
    · exact ⟨document,(others document apart).mpr inOld,.inr ⟨apart,rfl⟩⟩

theorem persisted_same (judged : judge instruments ties submission space records = .ok admitted)
    (persisted : Persisted instruments submission space storable records admitted) {old : KnowledgeDocument}
    (inOld : old ∈ records.canon.documents.rows) (named : old.id = persisted.document.id) : old = persisted.document := by
  obtain ⟨member,_⟩ := persisted_document judged persisted
  apply Table.eq_of_key ?_ member named
  rcases persisted.drafts with ⟨_,same⟩ | ⟨_,_,_,_,added⟩
  · rw [same]
    exact inOld
  · exact (Table.mem_insert added).mpr (.inl inOld)

theorem persisted_keeps (judged : judge instruments ties submission space records = .ok admitted)
    (persisted : Persisted instruments submission space storable records admitted) {old : KnowledgeDocument}
    (inOld : old ∈ records.canon.documents.rows) :
    ∃ document ∈ persisted.store.canon.documents.rows, document.id = old.id ∧ document.sourceId = old.sourceId := by
  by_cases named : old.id = persisted.document.id
  · cases persisted_same judged persisted inOld named
    exact ⟨persisted.pointed,(persisted_documents judged persisted).mpr (.inl rfl),rfl,rfl⟩
  · exact ⟨old,(persisted_documents judged persisted).mpr (.inr ⟨inOld,named⟩),rfl,rfl⟩

theorem mem_persisted_versions (persisted : Persisted instruments submission space storable records admitted)
    {version : KnowledgeDocumentVersion} (member : version ∈ persisted.store.canon.versions.rows) :
    (∃ old ∈ records.canon.versions.rows, SameVersion old version) ∨ SameVersion persisted.version version := by
  obtain ⟨old,inOld,same⟩ := mem_supersededVersions member
  rcases (Table.mem_insert persisted.versioned).mp inOld with earlier | rfl
  · exact .inl ⟨old,earlier,same⟩
  · exact .inr same

theorem persisted_versions_keep (persisted : Persisted instruments submission space storable records admitted)
    {old : KnowledgeDocumentVersion} (inOld : old ∈ records.canon.versions.rows ∨ old = persisted.version) :
    ∃ version ∈ persisted.store.canon.versions.rows, SameVersion old version :=
  supersededVersions_keeps ((Table.mem_insert persisted.versioned).mpr inOld)

theorem persisted_of (persisted : Persisted instruments submission space storable records admitted) :
    persisted.version.documentId = persisted.document.id := by
  rw [persisted.version_eq]
  rfl

theorem mem_persisted_rows (persisted : Persisted instruments submission space storable records admitted)
    {chunk : KnowledgeChunk} (member : chunk ∈ persisted.rows) :
    chunk.versionId = persisted.version.id ∧ chunk.documentId = persisted.document.id ∧ chunk.sourceId = admitted.source.id ∧
      ∃ piece ∈ admitted.chunks, chunk.content = piece.content := by
  rw [persisted.rows_eq,chunkRows,List.mem_mapIdx] at member
  obtain ⟨place,inside,rfl⟩ := member
  exact ⟨rfl,persisted_of persisted,rfl,admitted.chunks[place],List.getElem_mem inside,rfl⟩

theorem mem_embeddingRows {source : KnowledgeSource} {rows : List KnowledgeChunk} {vectors : List (List φ)}
    {embedding : KnowledgeEmbedding φ} (member : embedding ∈ embeddingRows submission space source rows vectors) :
    ∃ place row vector, row ∈ rows ∧ vector ∈ vectors ∧ embedding = embeddingRow submission space source place row vector := by
  rw [embeddingRows,List.mem_mapIdx] at member
  obtain ⟨place,inside,rfl⟩ := member
  have paired := List.of_mem_zip (List.getElem_mem inside)
  exact ⟨place,_,_,paired.1,paired.2,rfl⟩

theorem mem_persisted_embeddings (persisted : Persisted instruments submission space storable records admitted)
    {embedding : KnowledgeEmbedding φ} : embedding ∈ persisted.store.canon.embeddings.rows ↔
      embedding ∈ (vacatedVectors records.canon admitted.current).rows ∨
        embedding ∈ embeddingRows submission space admitted.source persisted.rows admitted.vectors :=
  Table.mem_insertAll persisted.embedded

end Persisted

section Outline

variable {φ : Type} {records next' : Records φ}

def KnowledgeDocument.outline (document : KnowledgeDocument) : Uuid × Uuid × Option Uuid :=
  (document.id,document.sourceId,document.currentVersionId)

def KnowledgeEmbedding.outline (embedding : KnowledgeEmbedding φ) : Uuid × Uuid := (embedding.chunkId,embedding.embeddingSpaceId)

/-- Two stores whose rows refer to one another alike. -/
structure SameOutline (records next' : Records φ) : Prop where
  spaces : next'.spaces.rows.map EmbeddingSpace.id = records.spaces.rows.map EmbeddingSpace.id
  sources : next'.sources.rows.map KnowledgeSource.id = records.sources.rows.map KnowledgeSource.id
  documents : next'.canon.documents.rows.map KnowledgeDocument.outline = records.canon.documents.rows.map KnowledgeDocument.outline
  versions : next'.canon.versions = records.canon.versions
  chunks : next'.canon.chunks = records.canon.chunks
  embeddings : next'.canon.embeddings.rows.map KnowledgeEmbedding.outline =
    records.canon.embeddings.rows.map KnowledgeEmbedding.outline

theorem SameStore.outline (same : SameStore records next') : SameOutline records next' := by
  obtain ⟨canon,sources,spaces,_⟩ := same
  constructor
  · rw [spaces]
  · rw [sources]
  all_goals rw [canon]

theorem outline_retired {canon : Canon φ} {which : KnowledgeChunk → Bool}
    (done : perFamily records {records.canon with embeddings := retiredVectors records.canon which} = .ok canon) :
    canon.documents = records.canon.documents ∧ canon.versions = records.canon.versions ∧
      canon.chunks = records.canon.chunks ∧ canon.embeddings.rows.map KnowledgeEmbedding.outline =
        records.canon.embeddings.rows.map KnowledgeEmbedding.outline := by
  rcases (perFamily_ok done).2 with rfl | ⟨_,rfl⟩
  · exact ⟨rfl,rfl,rfl,Table.map_revise fun _ => rfl⟩
  · exact ⟨rfl,rfl,rfl,rfl⟩

theorem attempt_outline {operation : CatalogOperation} (done : attempt records operation = .ok next') :
    SameOutline records next' := by
  cases operation with
  | recordDisposition findingId principal disposition reason id decidedAt =>
    obtain ⟨_,_,_,_,_,_,rfl⟩ := recordDisposition_ok done
    exact ⟨rfl,rfl,rfl,rfl,rfl,rfl⟩
  | reclassifySource sourceId principal trustClass sensitivity =>
    obtain ⟨sources,embeddings,rfl,standing,changed⟩ := reclassifySource_ok done
    have ids := congrArg (List.map Prod.fst) standing
    rw [List.map_map,List.map_map] at ids
    rcases changed with rfl | ⟨_,_,rfl⟩
    · exact ⟨rfl,ids,rfl,rfl,rfl,rfl⟩
    · exact ⟨rfl,ids,rfl,rfl,rfl,Table.map_revise fun _ => rfl⟩
  | retireDocument documentId principal now =>
    obtain ⟨_,canon,_,_,retired,rfl⟩ := retireDocument_ok done
    obtain ⟨documents,versions,chunks,embeddings⟩ := outline_retired retired
    refine ⟨rfl,rfl,?_,versions,chunks,embeddings⟩
    rw [← documents]
    exact Table.map_revise fun _ => rfl
  | retireSource sourceId principal now =>
    obtain ⟨_,canon,_,_,retired,rfl⟩ := retireSource_ok done
    obtain ⟨documents,versions,chunks,embeddings⟩ := outline_retired retired
    refine ⟨rfl,Table.map_revise fun _ => rfl,?_,versions,chunks,embeddings⟩
    rw [← documents]
  | setDefault spaceId =>
    obtain ⟨_,rfl,ids⟩ := setDefault_ok done
    exact ⟨ids,rfl,rfl,rfl,rfl,rfl⟩
  | markPrefixesVerified spaceId subject now =>
    cases markPrefixesVerified_ok done
    exact ⟨Table.map_revise fun _ => rfl,rfl,rfl,rfl,rfl,rfl⟩

end Outline

section Intact

variable {φ : Type}

/-- The foreign keys of the evidence store, and that a chunk's own copies of its document and
source are those of its version and its document. -/
structure Intact (records : Records φ) : Prop where
  versionDocument : ∀ version ∈ records.canon.versions.rows, ∃ document ∈ records.canon.documents.rows,
    document.id = version.documentId
  documentSource : ∀ document ∈ records.canon.documents.rows, ∃ source ∈ records.sources.rows, source.id = document.sourceId
  currentVersion : ∀ document ∈ records.canon.documents.rows, ∀ versionId ∈ document.currentVersionId,
    ∃ version ∈ records.canon.versions.rows, version.id = versionId ∧ version.documentId = document.id
  chunkVersion : ∀ chunk ∈ records.canon.chunks.rows, ∃ version ∈ records.canon.versions.rows,
    version.id = chunk.versionId ∧ version.documentId = chunk.documentId
  chunkSource : ∀ chunk ∈ records.canon.chunks.rows, ∀ document ∈ records.canon.documents.rows,
    document.id = chunk.documentId → document.sourceId = chunk.sourceId
  embeddingChunk : ∀ embedding ∈ records.canon.embeddings.rows, ∃ chunk ∈ records.canon.chunks.rows, chunk.id = embedding.chunkId
  embeddingSpace : ∀ embedding ∈ records.canon.embeddings.rows, ∃ space ∈ records.spaces.rows,
    space.id = embedding.embeddingSpaceId

theorem exists_same {Row Column : Type} {column : Row → Column} {old new : List Row} (same : new.map column = old.map column)
    {row : Row} (member : row ∈ new) : ∃ other ∈ old, column other = column row := by
  have listed : column row ∈ old.map column := same ▸ List.mem_map_of_mem member
  exact List.mem_map.mp listed

theorem Intact.of_outline {records next' : Records φ} (intact : Intact records) (same : SameOutline records next') :
    Intact next' := by
  obtain ⟨spaces,sources,documents,versions,chunks,embeddings⟩ := same
  constructor
  · intro version member
    rw [versions] at member
    obtain ⟨document,inOld,named⟩ := intact.versionDocument version member
    obtain ⟨later,inNew,equal⟩ := exists_same documents.symm inOld
    exact ⟨later,inNew,(congrArg Prod.fst equal).trans named⟩
  · intro document member
    obtain ⟨old,inOld,equal⟩ := exists_same documents member
    obtain ⟨source,inSources,named⟩ := intact.documentSource old inOld
    obtain ⟨later,inNew,kept⟩ := exists_same sources.symm inSources
    have sourceId : old.sourceId = document.sourceId := congrArg (·.2.1) equal
    exact ⟨later,inNew,kept.trans (named.trans sourceId)⟩
  · intro document member versionId points
    obtain ⟨old,inOld,equal⟩ := exists_same documents member
    have current : old.currentVersionId = document.currentVersionId := congrArg (·.2.2) equal
    have id : old.id = document.id := congrArg Prod.fst equal
    rw [versions,← id]
    exact intact.currentVersion old inOld versionId (current ▸ points)
  · rw [chunks,versions]
    exact intact.chunkVersion
  · intro chunk inChunks document member named
    rw [chunks] at inChunks
    obtain ⟨old,inOld,equal⟩ := exists_same documents member
    have sourceId : old.sourceId = document.sourceId := congrArg (·.2.1) equal
    have id : old.id = document.id := congrArg Prod.fst equal
    rw [← sourceId]
    exact intact.chunkSource chunk inChunks old inOld (id.trans named)
  · intro embedding member
    obtain ⟨old,inOld,equal⟩ := exists_same embeddings member
    have chunkId : old.chunkId = embedding.chunkId := congrArg Prod.fst equal
    rw [chunks,← chunkId]
    exact intact.embeddingChunk old inOld
  · intro embedding member
    obtain ⟨old,inOld,equal⟩ := exists_same embeddings member
    obtain ⟨space,inSpaces,named⟩ := intact.embeddingSpace old inOld
    obtain ⟨later,inNew,kept⟩ := exists_same spaces.symm inSpaces
    have spaceId : old.embeddingSpaceId = embedding.embeddingSpaceId := congrArg Prod.snd equal
    exact ⟨later,inNew,kept.trans (named.trans spaceId)⟩

theorem Intact.chunkDocument {records : Records φ} (intact : Intact records) {chunk : KnowledgeChunk}
    (member : chunk ∈ records.canon.chunks.rows) :
    ∃ document ∈ records.canon.documents.rows, document.id = chunk.documentId := by
  obtain ⟨version,inVersions,_,named⟩ := intact.chunkVersion chunk member
  obtain ⟨document,inDocuments,owns⟩ := intact.versionDocument version inVersions
  exact ⟨document,inDocuments,owns.trans named⟩

theorem vacatedVectors_outline {canon : Canon φ} {current : Option KnowledgeDocumentVersion} :
    (vacatedVectors canon current).rows.map KnowledgeEmbedding.outline = canon.embeddings.rows.map KnowledgeEmbedding.outline := by
  cases current with
  | none => rfl
  | some current => exact Table.map_revise fun _ => rfl

variable {instruments : Instruments} {ties : Uuid → Nat} {storable : φ → Bool} {records : Records φ}
  {submission : Submission φ} {space : EmbeddingSpace} {admitted : Admitted φ}

theorem Intact.persisted (intact : Intact records) (judged : judge instruments ties submission space records = .ok admitted)
    (persisted : Persisted instruments submission space storable records admitted) : Intact persisted.store := by
  obtain ⟨valid,_⟩ := judge_ok.mp judged
  obtain ⟨inSources,sourceId⟩ := Table.find_eq_some.mp valid.found
  obtain ⟨_,asked⟩ := persisted_document judged persisted
  have points : persisted.pointed ∈ persisted.store.canon.documents.rows := (persisted_documents judged persisted).mpr (.inl rfl)
  obtain ⟨new,inNew,sameNew⟩ := persisted_versions_keep persisted (.inr rfl)
  constructor
  · intro version member
    rcases mem_persisted_versions persisted member with ⟨old,inOld,same⟩ | same
    · obtain ⟨document,inDocuments,named⟩ := intact.versionDocument old inOld
      obtain ⟨later,inLater,kept,_⟩ := persisted_keeps judged persisted inDocuments
      exact ⟨later,inLater,kept.trans (named.trans same.documentId.symm)⟩
    · exact ⟨persisted.pointed,points,(same.documentId.trans (persisted_of persisted)).symm⟩
  · intro document member
    rcases (persisted_documents judged persisted).mp member with rfl | ⟨inOld,_⟩
    · exact ⟨admitted.source,inSources,sourceId.trans asked.source.symm⟩
    · exact intact.documentSource document inOld
  · intro document member versionId current
    rcases (persisted_documents judged persisted).mp member with rfl | ⟨inOld,_⟩
    · cases current
      exact ⟨new,inNew,sameNew.id,sameNew.documentId.trans (persisted_of persisted)⟩
    · obtain ⟨old,inVersions,named,owner⟩ := intact.currentVersion document inOld versionId current
      obtain ⟨later,inLater,same⟩ := persisted_versions_keep persisted (.inl inVersions)
      exact ⟨later,inLater,same.id.trans named,same.documentId.trans owner⟩
  · intro chunk member
    rcases (Table.mem_insertAll persisted.chunked).mp member with inOld | inRows
    · obtain ⟨old,inVersions,named,owner⟩ := intact.chunkVersion chunk inOld
      obtain ⟨later,inLater,same⟩ := persisted_versions_keep persisted (.inl inVersions)
      exact ⟨later,inLater,same.id.trans named,same.documentId.trans owner⟩
    · obtain ⟨versionId,documentId,_⟩ := mem_persisted_rows persisted inRows
      exact ⟨new,inNew,sameNew.id.trans versionId.symm,
        (sameNew.documentId.trans (persisted_of persisted)).trans documentId.symm⟩
  · intro chunk inChunks document member named
    rcases (Table.mem_insertAll persisted.chunked).mp inChunks with inOld | inRows
    · rcases (persisted_documents judged persisted).mp member with rfl | ⟨inDocuments,_⟩
      · obtain ⟨owner,inDocuments,owns⟩ := intact.chunkDocument inOld
        have kept : persisted.document.sourceId = chunk.sourceId := by
          cases persisted_same judged persisted inDocuments (owns.trans named.symm)
          exact intact.chunkSource chunk inOld _ inDocuments owns
        exact kept
      · exact intact.chunkSource chunk inOld document inDocuments named
    · obtain ⟨_,documentId,source,_⟩ := mem_persisted_rows persisted inRows
      rcases (persisted_documents judged persisted).mp member with rfl | ⟨_,apart⟩
      · exact asked.source.trans (source.trans sourceId).symm
      · exact absurd (named.trans documentId) apart
  · intro embedding member
    rcases (mem_persisted_embeddings persisted).mp member with vacated | inRows
    · obtain ⟨old,inOld,equal⟩ := exists_same vacatedVectors_outline vacated
      obtain ⟨chunk,inChunks,named⟩ := intact.embeddingChunk old inOld
      exact ⟨chunk,(Table.mem_insertAll persisted.chunked).mpr (.inl inChunks),named.trans (congrArg Prod.fst equal)⟩
    · obtain ⟨_,row,_,inChunks,_,rfl⟩ := mem_embeddingRows inRows
      exact ⟨row,(Table.mem_insertAll persisted.chunked).mpr (.inr inChunks),rfl⟩
  · intro embedding member
    rcases (mem_persisted_embeddings persisted).mp member with vacated | inRows
    · obtain ⟨old,inOld,equal⟩ := exists_same vacatedVectors_outline vacated
      obtain ⟨space,inSpaces,named⟩ := intact.embeddingSpace old inOld
      exact ⟨space,inSpaces,named.trans (congrArg Prod.snd equal)⟩
    · obtain ⟨known,found⟩ := Option.isSome_iff_exists.mp persisted.space_known
      obtain ⟨inSpaces,named⟩ := Table.find_eq_some.mp found
      obtain ⟨_,_,_,_,_,rfl⟩ := mem_embeddingRows inRows
      exact ⟨known,inSpaces,named⟩

theorem Intact.next (intact : Intact records) (op : Operation φ) : Intact (next instruments ties storable records op) := by
  cases op with
  | catalog operation => exact settle_preserves Intact (fun _ done => intact.of_outline (attempt_outline done)) intact
  | submit submission spaceId =>
    rcases submit_stored instruments ties storable records submission spaceId with same | ⟨_,judged,persisted,same⟩
    · exact intact.of_outline same.outline
    · exact (intact.persisted judged persisted).of_outline same.outline

end Intact

end Acop.Knowledge
