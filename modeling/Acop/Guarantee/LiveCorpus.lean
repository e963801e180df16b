import Acop.Guarantee.Reversion

/-! The retrievable vectors are those of the live corpus: every chunk keeps the one vector it was stored
with, which can be retrieved exactly while the chunk is of the current version of an active document
of an active source. -/
namespace Acop.Knowledge
open Acop.Store Acop.Serial

section Live

variable {φ : Type}

/-- The chunk is of the current version of an active document of an active source. -/
def Live (records : Records φ) (chunk : KnowledgeChunk) : Prop :=
  ∃ document ∈ records.canon.documents.rows, ∃ source ∈ records.sources.rows,
    document.id = chunk.documentId ∧ document.currentVersionId = some chunk.versionId ∧ document.lifecycleState = .active ∧
      source.id = document.sourceId ∧ source.lifecycleState = .active

/-- Each chunk has one vector, and the vector can be retrieved while the chunk is live. -/
structure Served (records : Records φ) : Prop where
  chunk : ∀ embedding ∈ records.canon.embeddings.rows, ∃ chunk ∈ records.canon.chunks.rows, chunk.id = embedding.chunkId
  vector : ∀ chunk ∈ records.canon.chunks.rows,
    ∃! embedding, embedding ∈ records.canon.embeddings.rows ∧ embedding.chunkId = chunk.id
  live : ∀ embedding ∈ records.canon.embeddings.rows, ∀ chunk ∈ records.canon.chunks.rows, chunk.id = embedding.chunkId →
    (embedding.isCurrentEmbedding = true ∧ embedding.isRetrievable = true ↔ Live records chunk)

def KnowledgeDocument.standing (document : KnowledgeDocument) : (Uuid × Uuid × Option Uuid) × KnowledgeLifecycle :=
  (document.outline,document.lifecycleState)

def KnowledgeEmbedding.served (embedding : KnowledgeEmbedding φ) : Uuid × Bool × Bool :=
  (embedding.chunkId,embedding.isCurrentEmbedding,embedding.isRetrievable)

variable {records next' : Records φ} {chunk : KnowledgeChunk}

theorem Live.congr (live : Live records chunk)
    (documents : next'.canon.documents.rows.map KnowledgeDocument.standing =
      records.canon.documents.rows.map KnowledgeDocument.standing)
    (sources : next'.sources.rows.map KnowledgeSource.standing = records.sources.rows.map KnowledgeSource.standing) :
    Live next' chunk := by
  obtain ⟨document,inDocuments,source,inSources,named,current,active,owner,served⟩ := live
  obtain ⟨document',inLater,sameDocument⟩ := exists_same documents.symm inDocuments
  obtain ⟨source',inNext,sameSource⟩ := exists_same sources.symm inSources
  have outline : document'.outline = document.outline := congrArg Prod.fst sameDocument
  have id : document'.id = document.id := congrArg Prod.fst outline
  have sourceId : document'.sourceId = document.sourceId := congrArg (·.2.1) outline
  have currentId : document'.currentVersionId = document.currentVersionId := congrArg (·.2.2) outline
  have lifecycle : document'.lifecycleState = document.lifecycleState := congrArg Prod.snd sameDocument
  have named' : source'.id = source.id := congrArg Prod.fst sameSource
  have lifecycle' : source'.lifecycleState = source.lifecycleState := congrArg Prod.snd sameSource
  exact ⟨document',inLater,source',inNext,id.trans named,currentId.trans current,lifecycle.trans active,
    named'.trans (owner.trans sourceId.symm),lifecycle'.trans served⟩

theorem embedsChunk_of {chunks : Table KnowledgeChunk.id} {which : KnowledgeChunk → Bool} {embedding : KnowledgeEmbedding φ}
    (member : chunk ∈ chunks.rows) (named : chunk.id = embedding.chunkId) :
    embedsChunk chunks which embedding = true ↔ which chunk = true := by
  simp only [embedsChunk,List.any_eq_true,Bool.and_eq_true,decide_eq_true_eq]
  constructor
  · rintro ⟨other,inOther,same,chosen⟩
    cases Table.eq_of_key inOther member (same.trans named.symm)
    exact chosen
  · intro chosen
    exact ⟨chunk,member,named,chosen⟩

end Live

section Populated

variable {φ : Type}

/-- The vectors stand in the order of their chunks, each is current, and it can be retrieved while its chunk is live. -/
structure Populated (records : Records φ) : Prop where
  intact : Intact records
  paired : records.canon.embeddings.rows.map (·.chunkId) = records.canon.chunks.rows.map (·.id)
  current : ∀ embedding ∈ records.canon.embeddings.rows, embedding.isCurrentEmbedding = true
  live : ∀ embedding ∈ records.canon.embeddings.rows, ∀ chunk ∈ records.canon.chunks.rows, chunk.id = embedding.chunkId →
    (embedding.isRetrievable = true ↔ Live records chunk)

variable {records next' : Records φ}

theorem Populated.served (populated : Populated records) : Served records := by
  refine ⟨populated.intact.embeddingChunk,?_,?_⟩
  · intro chunk member
    have listed : chunk.id ∈ records.canon.embeddings.rows.map (·.chunkId) :=
      populated.paired ▸ List.mem_map_of_mem member
    obtain ⟨embedding,inEmbeddings,named⟩ := List.mem_map.mp listed
    have distinct : (records.canon.embeddings.rows.map (·.chunkId)).Nodup := populated.paired ▸ records.canon.chunks.distinct
    refine ⟨embedding,⟨inEmbeddings,named⟩,?_⟩
    rintro other ⟨inOther,same⟩
    exact List.inj_on_of_nodup_map distinct inOther inEmbeddings (same.trans named.symm)
  · intro embedding inEmbeddings chunk inChunks named
    rw [← populated.live embedding inEmbeddings chunk inChunks named]
    exact and_iff_right (populated.current embedding inEmbeddings)

theorem Populated.of_columns (populated : Populated records) (outline : SameOutline records next')
    (embeddings : next'.canon.embeddings.rows.map KnowledgeEmbedding.served =
      records.canon.embeddings.rows.map KnowledgeEmbedding.served)
    (documents : next'.canon.documents.rows.map KnowledgeDocument.standing =
      records.canon.documents.rows.map KnowledgeDocument.standing)
    (sources : next'.sources.rows.map KnowledgeSource.standing = records.sources.rows.map KnowledgeSource.standing) :
    Populated next' := by
  refine ⟨populated.intact.of_outline outline,?_,?_,?_⟩
  · have ids := congrArg (List.map Prod.fst) embeddings
    rw [List.map_map,List.map_map] at ids
    rw [outline.chunks]
    exact ids.trans populated.paired
  · intro embedding member
    obtain ⟨old,inOld,same⟩ := exists_same embeddings member
    have current : old.isCurrentEmbedding = embedding.isCurrentEmbedding := congrArg (·.2.1) same
    exact current.symm.trans (populated.current old inOld)
  · intro embedding member chunk inChunks named
    obtain ⟨old,inOld,same⟩ := exists_same embeddings member
    have chunkId : old.chunkId = embedding.chunkId := congrArg Prod.fst same
    have retrievable : old.isRetrievable = embedding.isRetrievable := congrArg (·.2.2) same
    rw [outline.chunks] at inChunks
    rw [← retrievable,populated.live old inOld chunk inChunks (named.trans chunkId.symm)]
    exact ⟨fun live => live.congr documents sources,fun live => live.congr documents.symm sources.symm⟩

theorem Populated.of_same (populated : Populated records) (same : SameStore records next') : Populated next' := by
  obtain ⟨canon,sources,_⟩ := id same
  exact populated.of_columns same.outline (by rw [canon]) (by rw [canon]) (by rw [sources])

/-- The vectors of what qualifies have left retrieval, and no others. -/
structure Withdrawn (canon : Canon φ) (which : KnowledgeChunk → Bool) (rows : List (KnowledgeEmbedding φ)) : Prop where
  chunkIds : rows.map (·.chunkId) = canon.embeddings.rows.map (·.chunkId)
  each : ∀ embedding ∈ rows, ∃ old ∈ canon.embeddings.rows, embedding.chunkId = old.chunkId ∧
    embedding.isCurrentEmbedding = old.isCurrentEmbedding ∧
    (embedding.isRetrievable = true ↔ old.isRetrievable = true ∧ ¬ embedsChunk canon.chunks which old = true)

theorem withdrawn_revise {canon : Canon φ} {which : KnowledgeChunk → Bool} {chosen : KnowledgeEmbedding φ → Bool}
    (within : ∀ embedding, chosen embedding = true → embedsChunk canon.chunks which embedding = true)
    (covers : ∀ embedding, chosen embedding = false → embedding.isRetrievable = true →
      ¬ embedsChunk canon.chunks which embedding = true) :
    Withdrawn canon which (canon.embeddings.revise chosen unretrievable).rows := by
  refine ⟨Table.map_revise fun _ => rfl,fun embedding member => ?_⟩
  obtain ⟨old,inOld,⟨taken,rfl⟩ | ⟨passed,rfl⟩⟩ := Table.mem_revise.mp member
  · refine ⟨old,inOld,rfl,rfl,iff_of_false Bool.false_ne_true ?_⟩
    rintro ⟨_,apart⟩
    exact apart (within old taken)
  · refine ⟨embedding,inOld,rfl,rfl,?_,And.left⟩
    intro retrievable
    exact ⟨retrievable,covers embedding (Bool.eq_false_of_not_eq_true passed) retrievable⟩

theorem withdrawn_retired (canon : Canon φ) (which : KnowledgeChunk → Bool) :
    Withdrawn canon which (retiredVectors canon which).rows := by
  refine withdrawn_revise (fun embedding chosen => (Bool.and_eq_true_iff.mp chosen).1) ?_
  intro embedding passed retrievable within
  rw [within,retrievable] at passed
  cases passed

theorem Populated.withdraw (populated : Populated records) {which : KnowledgeChunk → Bool} {canon : Canon φ}
    (done : perFamily records {records.canon with embeddings := retiredVectors records.canon which} = .ok canon)
    (outline : SameOutline records next') (embeddings : next'.canon.embeddings = canon.embeddings)
    (live : ∀ chunk ∈ records.canon.chunks.rows, Live next' chunk ↔ Live records chunk ∧ ¬ which chunk = true) :
    Populated next' := by
  have withdrawn : Withdrawn records.canon which next'.canon.embeddings.rows := by
    rw [embeddings]
    rcases (perFamily_ok done).2 with rfl | ⟨none,rfl⟩
    · exact withdrawn_retired records.canon which
    · -- without a space there is no vector yet
      refine ⟨rfl,fun embedding member => ?_⟩
      obtain ⟨space,inSpaces,_⟩ := populated.intact.embeddingSpace embedding member
      rw [none] at inSpaces
      exact absurd inSpaces List.not_mem_nil
  refine ⟨populated.intact.of_outline outline,?_,?_,?_⟩
  · rw [outline.chunks]
    exact withdrawn.chunkIds.trans populated.paired
  · intro embedding member
    obtain ⟨old,inOld,_,current,_⟩ := withdrawn.each embedding member
    exact current.trans (populated.current old inOld)
  · intro embedding member chunk inChunks named
    obtain ⟨old,inOld,chunkId,_,retrievable⟩ := withdrawn.each embedding member
    rw [outline.chunks] at inChunks
    have named' := named.trans chunkId
    rw [retrievable,embedsChunk_of inChunks named',populated.live old inOld chunk inChunks named',live chunk inChunks]

theorem live_retireDocument {documentId : Uuid} {principal : Principal} {now : Time} {canon : Canon φ} {chunk : KnowledgeChunk}
    (documents : canon.documents = records.canon.documents) :
    Live {records with
        canon := {canon with documents := canon.documents.update documentId (retiringDocument principal now)}} chunk ↔
      Live records chunk ∧ ¬ decide (chunk.documentId = documentId) = true := by
  constructor
  · rintro ⟨document,inDocuments,source,inSources,named,current,active,owner,served⟩
    obtain ⟨old,inOld,⟨_,rfl⟩ | ⟨apart,rfl⟩⟩ := Table.mem_update.mp inDocuments
    · cases active
    · rw [documents] at inOld
      refine ⟨⟨document,inOld,source,inSources,named,current,active,owner,served⟩,fun taken => ?_⟩
      exact apart (named.trans (of_decide_eq_true taken))
  · rintro ⟨⟨document,inDocuments,source,inSources,named,current,active,owner,served⟩,other⟩
    rw [← documents] at inDocuments
    have apart : document.id ≠ documentId := fun same => other (decide_eq_true (named.symm.trans same))
    have later : document ∈ (canon.documents.update documentId (retiringDocument principal now)).rows :=
      Table.mem_update.mpr ⟨document,inDocuments,.inr ⟨apart,rfl⟩⟩
    exact ⟨document,later,source,inSources,named,current,active,owner,served⟩

theorem live_retireSource (intact : Intact records) {sourceId : Uuid} {principal : Principal} {now : Time} {canon : Canon φ}
    {chunk : KnowledgeChunk} (inChunks : chunk ∈ records.canon.chunks.rows)
    (documents : canon.documents = records.canon.documents) :
    Live {records with sources := records.sources.update sourceId (retiringSource principal now),canon} chunk ↔
      Live records chunk ∧ ¬ decide (chunk.sourceId = sourceId) = true := by
  constructor
  · rintro ⟨document,inDocuments,source,inSources,named,current,active,owner,served⟩
    have inDocuments : document ∈ canon.documents.rows := inDocuments
    rw [documents] at inDocuments
    obtain ⟨old,inOld,⟨_,rfl⟩ | ⟨apart,rfl⟩⟩ := Table.mem_update.mp inSources
    · cases served
    · refine ⟨⟨document,inDocuments,source,inOld,named,current,active,owner,served⟩,fun taken => apart ?_⟩
      exact owner.trans ((intact.chunkSource chunk inChunks document inDocuments named).trans (of_decide_eq_true taken))
  · rintro ⟨⟨document,inDocuments,source,inSources,named,current,active,owner,served⟩,other⟩
    have apart : source.id ≠ sourceId := by
      rintro rfl
      exact other (decide_eq_true ((intact.chunkSource chunk inChunks document inDocuments named).symm.trans owner.symm))
    have inDocuments : document ∈ canon.documents.rows := documents ▸ inDocuments
    have later : source ∈ (records.sources.update sourceId (retiringSource principal now)).rows :=
      Table.mem_update.mpr ⟨source,inSources,.inr ⟨apart,rfl⟩⟩
    exact ⟨document,inDocuments,source,later,named,current,active,owner,served⟩

theorem Populated.attempt (populated : Populated records) {operation : CatalogOperation}
    (done : attempt records operation = .ok next') : Populated next' := by
  have outline := attempt_outline done
  cases operation with
  | recordDisposition findingId principal disposition reason id decidedAt =>
    obtain ⟨_,_,_,_,_,_,rfl⟩ := recordDisposition_ok done
    exact populated.of_columns outline rfl rfl rfl
  | reclassifySource sourceId principal trustClass sensitivity =>
    obtain ⟨sources,embeddings,rfl,standing,changed⟩ := reclassifySource_ok done
    refine populated.of_columns outline ?_ rfl standing
    rcases changed with rfl | ⟨_,_,rfl⟩
    · rfl
    · exact Table.map_revise fun _ => rfl
  | retireDocument documentId principal now =>
    obtain ⟨_,canon,_,_,retired,rfl⟩ := retireDocument_ok done
    exact populated.withdraw retired outline rfl fun _ _ => live_retireDocument (outline_retired retired).1
  | retireSource sourceId principal now =>
    obtain ⟨_,canon,_,_,retired,rfl⟩ := retireSource_ok done
    exact populated.withdraw retired outline rfl fun _ inChunks =>
      live_retireSource populated.intact inChunks (outline_retired retired).1
  | setDefault spaceId =>
    obtain ⟨_,rfl,_⟩ := setDefault_ok done
    exact populated.of_columns outline rfl rfl rfl
  | markPrefixesVerified spaceId subject now =>
    cases markPrefixesVerified_ok done
    exact populated.of_columns outline rfl rfl rfl

end Populated

section Submitted

variable {φ : Type} {instruments : Instruments} {ties : Uuid → Nat} {storable : φ → Bool} {records : Records φ}
  {submission : Submission φ} {space : EmbeddingSpace} {admitted : Admitted φ}

def replaced (admitted : Admitted φ) (chunk : KnowledgeChunk) : Bool :=
  admitted.current.any fun current => chunk.versionId = current.id

theorem withdrawn_vacated (canon : Canon φ) (admitted : Admitted φ) :
    Withdrawn canon (replaced admitted) (vacatedVectors canon admitted.current).rows := by
  unfold replaced
  cases admitted.current with
  | none =>
    refine ⟨rfl,fun embedding member => ⟨embedding,member,rfl,rfl,(and_iff_left ?_).symm⟩⟩
    simp only [embedsChunk,Option.any_none,Bool.and_false,List.any_eq_true,Bool.false_eq_true,and_false,exists_false,
      not_false_eq_true]
  | some current =>
    exact withdrawn_revise (fun _ chosen => chosen) fun _ passed _ => ne_true_of_eq_false passed

theorem current_of_pointed (intact : Intact records) (judged : judge instruments ties submission space records = .ok admitted)
    (persisted : Persisted instruments submission space storable records admitted) {document : KnowledgeDocument}
    (member : document ∈ records.canon.documents.rows) (named : document.id = persisted.document.id) {versionId : Uuid}
    (points : document.currentVersionId = some versionId) :
    ∃ current, admitted.current = some current ∧ current.id = versionId := by
  obtain ⟨_,_,current,_⟩ := judge_ok.mp judged
  rcases persisted.drafted_fresh with found | ⟨_,fresh⟩
  · cases persisted_same judged persisted member named
    obtain ⟨version,inVersions,id,_⟩ := intact.currentVersion _ member versionId points
    have held : records.canon.versions.find versionId = some version := Table.find_eq_some.mpr ⟨inVersions,id⟩
    refine ⟨version,?_,id⟩
    rw [current,found]
    simp only [currentVersion,Option.bind_some,points,held]
  · exact absurd named (fresh document member)

theorem current_owner (intact : Intact records) (judged : judge instruments ties submission space records = .ok admitted)
    (persisted : Persisted instruments submission space storable records admitted) {current : KnowledgeDocumentVersion}
    (before : admitted.current = some current) :
    current ∈ records.canon.versions.rows ∧ current.documentId = persisted.document.id := by
  obtain ⟨_,asked,same,_⟩ := judge_ok.mp judged
  rw [before] at same
  obtain ⟨document,found,rest⟩ := Option.bind_eq_some_iff.mp same.symm
  obtain ⟨versionId,points,held⟩ := Option.bind_eq_some_iff.mp rest
  obtain ⟨inVersions,id⟩ := Table.find_eq_some.mp held
  obtain ⟨member,_⟩ := findDocument_eq_some (asked.symm.trans found)
  obtain ⟨version,inOld,named,owner⟩ := intact.currentVersion document member versionId points
  cases Table.eq_of_key inVersions inOld (id.trans named.symm)
  refine ⟨inVersions,owner.trans ?_⟩
  rcases persisted.drafted_fresh with drafted | ⟨none,_⟩
  · cases found.symm.trans drafted
    rfl
  · cases found.symm.trans none

theorem live_persisted (intact : Intact records) (judged : judge instruments ties submission space records = .ok admitted)
    (persisted : Persisted instruments submission space storable records admitted) {chunk : KnowledgeChunk}
    (inChunks : chunk ∈ records.canon.chunks.rows) :
    Live persisted.store chunk ↔ Live records chunk ∧ ¬ replaced admitted chunk = true := by
  obtain ⟨version,inVersions,versionId,documentId⟩ := intact.chunkVersion chunk inChunks
  constructor
  · rintro ⟨document,inDocuments,source,inSources,named,current,active,owner,served⟩
    rcases (persisted_documents judged persisted).mp inDocuments with rfl | ⟨inOld,apart⟩
    · have taken : persisted.version.id = chunk.versionId := Option.some.inj current
      exact absurd (versionId.trans taken.symm) ((Table.insert_eq_some persisted.versioned).1 version inVersions)
    · refine ⟨⟨document,inOld,source,inSources,named,current,active,owner,served⟩,fun gone => ?_⟩
      obtain ⟨superseded,before,same⟩ := (Option.any_eq_true _ _).mp gone
      obtain ⟨inSuperseded,mine⟩ := current_owner intact judged persisted before
      cases Table.eq_of_key inVersions inSuperseded (versionId.trans (of_decide_eq_true same))
      exact apart (named.trans (documentId.symm.trans mine))
  · rintro ⟨⟨document,inDocuments,source,inSources,named,current,active,owner,served⟩,stays⟩
    have apart : document.id ≠ persisted.document.id := by
      intro mine
      obtain ⟨superseded,before,same⟩ := current_of_pointed intact judged persisted inDocuments mine current
      exact stays ((Option.any_eq_true _ _).mpr ⟨superseded,before,decide_eq_true same.symm⟩)
    have later := (persisted_documents judged persisted).mpr (.inr ⟨inDocuments,apart⟩)
    exact ⟨document,later,source,inSources,named,current,active,owner,served⟩

theorem live_made (judged : judge instruments ties submission space records = .ok admitted)
    (persisted : Persisted instruments submission space storable records admitted) {chunk : KnowledgeChunk}
    (member : chunk ∈ persisted.rows) : Live persisted.store chunk := by
  obtain ⟨valid,_⟩ := judge_ok.mp judged
  obtain ⟨inSources,sourceId⟩ := Table.find_eq_some.mp valid.found
  obtain ⟨_,asked⟩ := persisted_document judged persisted
  obtain ⟨versionId,documentId,_⟩ := mem_persisted_rows persisted member
  exact ⟨persisted.pointed,(persisted_documents judged persisted).mpr (.inl rfl),admitted.source,inSources,documentId.symm,
    congrArg some versionId.symm,asked.active,sourceId.trans asked.source.symm,valid.active⟩

theorem chunkIds_made {source : KnowledgeSource} {rows : List KnowledgeChunk} {vectors : List (List φ)}
    (paired : rows.length = vectors.length) :
    (embeddingRows submission space source rows vectors).map (·.chunkId) = rows.map (·.id) := by
  apply List.ext_getElem
  · simp [embeddingRows,paired]
  · intro place _ _
    simp [embeddingRows,embeddingRow]

theorem Populated.persisted (populated : Populated records)
    (judged : judge instruments ties submission space records = .ok admitted)
    (persisted : Persisted instruments submission space storable records admitted) : Populated persisted.store := by
  have withdrawn := withdrawn_vacated records.canon admitted
  have chunks : persisted.store.canon.chunks.rows = records.canon.chunks.rows ++ persisted.rows :=
    (Table.insertAll_eq_some persisted.chunked).2
  have embeddings : persisted.store.canon.embeddings.rows = (vacatedVectors records.canon admitted.current).rows ++
      embeddingRows submission space admitted.source persisted.rows admitted.vectors :=
    (Table.insertAll_eq_some persisted.embedded).2
  refine ⟨populated.intact.persisted judged persisted,?_,?_,?_⟩
  · rw [chunks,embeddings,List.map_append,List.map_append,withdrawn.chunkIds,populated.paired,chunkIds_made persisted.paired]
  · intro embedding member
    rcases (mem_persisted_embeddings persisted).mp member with vacated | made
    · obtain ⟨old,inOld,_,current,_⟩ := withdrawn.each embedding vacated
      exact current.trans (populated.current old inOld)
    · obtain ⟨_,_,_,_,_,rfl⟩ := mem_embeddingRows made
      rfl
  · intro embedding member chunk inChunks named
    rcases (mem_persisted_embeddings persisted).mp member with vacated | made
    · obtain ⟨old,inOld,chunkId,_,retrievable⟩ := withdrawn.each embedding vacated
      obtain ⟨owner,inOwners,owns⟩ := populated.intact.embeddingChunk old inOld
      have later : owner ∈ persisted.store.canon.chunks.rows := (Table.mem_insertAll persisted.chunked).mpr (.inl inOwners)
      cases Table.eq_of_key later inChunks (owns.trans (chunkId.symm.trans named.symm))
      rw [retrievable,embedsChunk_of inOwners owns,populated.live old inOld chunk inOwners owns,
        live_persisted populated.intact judged persisted inOwners]
    · obtain ⟨_,row,_,inRows,_,rfl⟩ := mem_embeddingRows made
      have later : row ∈ persisted.store.canon.chunks.rows := (Table.mem_insertAll persisted.chunked).mpr (.inr inRows)
      cases Table.eq_of_key later inChunks named.symm
      exact iff_of_true rfl (live_made judged persisted inRows)

theorem Populated.next (populated : Populated records) (op : Operation φ) :
    Populated (next instruments ties storable records op) := by
  cases op with
  | catalog operation => exact settle_preserves Populated (fun _ done => populated.attempt done) populated
  | submit submission spaceId =>
    rcases submit_stored instruments ties storable records submission spaceId with same | ⟨_,judged,persisted,same⟩
    · exact populated.of_same same
    · exact (populated.persisted judged persisted).of_same same

theorem populated_empty {start : Records φ} (empty : start.canon = .empty) : Populated start := by
  obtain ⟨spaces,sources,canon,attempts,findings,dispositions⟩ := start
  cases empty
  refine ⟨⟨?_,?_,?_,?_,?_,?_,?_⟩,rfl,?_,?_⟩ <;> exact fun _ member => absurd member List.not_mem_nil

theorem populated_after {start : Records φ} (empty : start.canon = .empty) (ops : List (Operation φ)) :
    Populated (after instruments ties storable start ops) :=
  run_preserves (fun _ op _ populated => populated.next op) (along_of_forall (fun _ _ => trivial) start ops) (populated_empty empty)

end Submitted

/-- In every run of submissions, dispositions, reclassifications, retirements and changes of the spaces, each chunk keeps
the one vector it was stored with, which can be retrieved exactly while the chunk is live. -/
theorem live_corpus {φ : Type} (instruments : Instruments) (ties : Uuid → Nat) (storable : φ → Bool) (start : Records φ)
    (empty : start.canon = .empty) (ops : List (Operation φ)) : Served (after instruments ties storable start ops) :=
  (populated_after empty ops).served

section Laboratory
open Laboratory

def edited : List (Operation Int) := [.submit vlan none,.submit trunk none]

theorem live_corpus_lab : (filed edited).canon.chunks.rows.map (·.content) = ["vlan","trunk"] ∧ Served (filed edited) :=
  ⟨by decide +kernel,live_corpus libraries BitVec.toNat (fun _ => true) shelf rfl edited⟩

end Laboratory

end Acop.Knowledge
