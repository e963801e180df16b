import Acop.Guarantee.VersionHistory

/-! A retirement is for good: whatever follows, a retired document keeps its row, its versions and its chunks and
a retired source gets no document, version or chunk, and nothing of either can be retrieved. -/
namespace Acop.Knowledge
open Acop.Store Acop.Serial

section Final

variable {φ : Type}

/-- No vector of a chunk that qualifies can be retrieved. -/
def Hidden (records : Records φ) (which : KnowledgeChunk → Prop) : Prop :=
  ∀ embedding ∈ records.canon.embeddings.rows, ∀ chunk ∈ records.canon.chunks.rows, chunk.id = embedding.chunkId → which chunk →
    embedding.isRetrievable = false

structure Abiding (document : KnowledgeDocument) (old new : Records φ) : Prop where
  stands : document ∈ new.canon.documents.rows
  versions : versionsOf new.canon document.id = versionsOf old.canon document.id
  chunks : new.canon.chunks.rows.filter (·.documentId = document.id) = old.canon.chunks.rows.filter (·.documentId = document.id)

/-- The source is retired still, and nothing was added to it. -/
structure Abandoned (sourceId : Uuid) (old new : Records φ) : Prop where
  stands : ∃ source ∈ new.sources.rows, source.id = sourceId ∧ source.lifecycleState = .retired
  documents : ∀ document ∈ new.canon.documents.rows, document.sourceId = sourceId →
    ∃ earlier ∈ old.canon.documents.rows, earlier.outline = document.outline
  chunks : new.canon.chunks.rows.filter (·.sourceId = sourceId) = old.canon.chunks.rows.filter (·.sourceId = sourceId)

/-- What is retired in a store is so for good in a later one, and hidden there. -/
structure Final (old new : Records φ) : Prop where
  documents : ∀ document ∈ old.canon.documents.rows, document.lifecycleState = .retired →
    Abiding document old new ∧ Hidden new (·.documentId = document.id)
  sources : ∀ source ∈ old.sources.rows, source.lifecycleState = .retired →
    Abandoned source.id old new ∧ Hidden new (·.sourceId = source.id)

variable {records next' final : Records φ} {document : KnowledgeDocument} {sourceId : Uuid}

theorem abiding_refl (member : document ∈ records.canon.documents.rows) : Abiding document records records := ⟨member,rfl,rfl⟩

theorem Abiding.trans (early : Abiding document records next') (late : Abiding document next' final) : Abiding document records final :=
  ⟨late.stands,late.versions.trans early.versions,late.chunks.trans early.chunks⟩

theorem Abiding.of_same (abiding : Abiding document records next') (same : SameStore next' final) : Abiding document records final := by
  obtain ⟨stands,versions,chunks⟩ := abiding
  exact ⟨by rw [same.1]; exact stands,by rw [same.1]; exact versions,by rw [same.1]; exact chunks⟩

theorem abandoned_refl {source : KnowledgeSource} (member : source ∈ records.sources.rows) (retired : source.lifecycleState = .retired) :
    Abandoned source.id records records :=
  ⟨⟨source,member,rfl,retired⟩,fun document inDocuments _ => ⟨document,inDocuments,rfl⟩,rfl⟩

theorem Abandoned.trans (early : Abandoned sourceId records next') (late : Abandoned sourceId next' final) :
    Abandoned sourceId records final := by
  refine ⟨late.stands,?_,late.chunks.trans early.chunks⟩
  intro document member mine
  obtain ⟨middle,inMiddle,same⟩ := late.documents document member mine
  have owner : middle.sourceId = document.sourceId := congrArg (·.2.1) same
  obtain ⟨first,inFirst,same'⟩ := early.documents middle inMiddle (owner.trans mine)
  exact ⟨first,inFirst,same'.trans same⟩

theorem Abandoned.of_same (abandoned : Abandoned sourceId records next') (same : SameStore next' final) :
    Abandoned sourceId records final := by
  obtain ⟨canon,sources,_⟩ := same
  obtain ⟨stands,documents,chunks⟩ := abandoned
  exact ⟨by rw [sources]; exact stands,by rw [canon]; exact documents,by rw [canon]; exact chunks⟩

theorem filter_append_none {Row : Type} {rows added : List Row} {which : Row → Bool} (none : ∀ row ∈ added, which row = false) :
    (rows ++ added).filter which = rows.filter which := by
  rw [List.filter_append,List.filter_eq_nil_iff.mpr fun row member => ne_true_of_eq_false (none row member),List.append_nil]

end Final

section Steps

variable {φ : Type} {records next' : Records φ} {document : KnowledgeDocument} {source : KnowledgeSource}

theorem abiding_attempt {operation : CatalogOperation} (member : document ∈ records.canon.documents.rows)
    (retired : document.lifecycleState = .retired) (done : attempt records operation = .ok next') : Abiding document records next' := by
  obtain ⟨versions,chunks⟩ := attempt_kept done
  refine ⟨?_,by rw [versionsOf,versions]; rfl,by rw [chunks]⟩
  cases operation with
  | recordDisposition findingId principal disposition reason id decidedAt =>
    obtain ⟨_,_,_,_,_,_,rfl⟩ := recordDisposition_ok done
    exact member
  | reclassifySource sourceId principal trustClass sensitivity =>
    obtain ⟨_,_,rfl,_⟩ := reclassifySource_ok done
    exact member
  | retireDocument documentId principal now =>
    obtain ⟨target,canon,found,active,withdrawn,rfl⟩ := retireDocument_ok done
    obtain ⟨inTargets,named⟩ := Table.find_eq_some.mp found
    have apart : document.id ≠ documentId := by
      intro same
      cases Table.eq_of_key member inTargets (same.trans named.symm)
      exact active retired
    have kept : document ∈ (canon.documents.update documentId (retiringDocument principal now)).rows := by
      rw [(outline_retired withdrawn).1]
      exact Table.mem_update.mpr ⟨document,member,.inr ⟨apart,rfl⟩⟩
    exact kept
  | retireSource sourceId principal now =>
    obtain ⟨_,canon,_,_,withdrawn,rfl⟩ := retireSource_ok done
    have kept : document ∈ canon.documents.rows := (outline_retired withdrawn).1 ▸ member
    exact kept
  | setDefault spaceId =>
    obtain ⟨_,rfl,_⟩ := setDefault_ok done
    exact member
  | markPrefixesVerified spaceId subject now =>
    cases markPrefixesVerified_ok done
    exact member

theorem stands_update {sourceId : Uuid} {revision : Revision KnowledgeSource.id} (member : source ∈ records.sources.rows)
    (retired : source.lifecycleState = .retired) (apart : source.id ≠ sourceId) :
    ∃ other ∈ (records.sources.update sourceId revision).rows, other.id = source.id ∧ other.lifecycleState = .retired :=
  ⟨source,Table.mem_update.mpr ⟨source,member,.inr ⟨apart,rfl⟩⟩,rfl,retired⟩

theorem abandoned_attempt {operation : CatalogOperation} (member : source ∈ records.sources.rows)
    (retired : source.lifecycleState = .retired) (done : attempt records operation = .ok next') :
    Abandoned source.id records next' := by
  refine ⟨?_,fun document inDocuments _ => exists_same (attempt_outline done).documents inDocuments,by rw [(attempt_kept done).2]⟩
  have stands : ∃ other ∈ records.sources.rows, other.id = source.id ∧ other.lifecycleState = .retired := ⟨source,member,rfl,retired⟩
  cases operation with
  | recordDisposition findingId principal disposition reason id decidedAt =>
    obtain ⟨_,_,_,_,_,_,rfl⟩ := recordDisposition_ok done
    exact stands
  | reclassifySource sourceId principal trustClass sensitivity =>
    obtain ⟨sources,_,rfl,standing,_⟩ := reclassifySource_ok done
    obtain ⟨other,inOthers,same⟩ := exists_same standing.symm member
    exact ⟨other,inOthers,congrArg Prod.fst same,(congrArg Prod.snd same).trans retired⟩
  | retireDocument documentId principal now =>
    obtain ⟨_,_,_,_,_,rfl⟩ := retireDocument_ok done
    exact stands
  | retireSource sourceId principal now =>
    obtain ⟨target,_,found,active,_,rfl⟩ := retireSource_ok done
    obtain ⟨inTargets,named⟩ := Table.find_eq_some.mp found
    refine stands_update member retired fun same => ?_
    cases Table.eq_of_key member inTargets (same.trans named.symm)
    exact active retired
  | setDefault spaceId =>
    obtain ⟨_,rfl,_⟩ := setDefault_ok done
    exact stands
  | markPrefixesVerified spaceId subject now =>
    cases markPrefixesVerified_ok done
    exact stands

variable {instruments : Instruments} {ties : Uuid → Nat} {storable : φ → Bool} {submission : Submission φ}
  {space : EmbeddingSpace} {admitted : Admitted φ}

theorem abiding_persisted (intact : Intact records) (member : document ∈ records.canon.documents.rows)
    (retired : document.lifecycleState = .retired) (judged : judge instruments ties submission space records = .ok admitted)
    (persisted : Persisted instruments submission space storable records admitted) : Abiding document records persisted.store := by
  obtain ⟨_,asked⟩ := persisted_document judged persisted
  have apart : document.id ≠ persisted.document.id := by
    intro same
    cases persisted_same judged persisted member same
    cases asked.active.symm.trans retired
  refine ⟨(persisted_documents judged persisted).mpr (.inr ⟨member,apart⟩),versionsOf_other intact judged persisted apart,?_⟩
  have rows : persisted.store.canon.chunks.rows = records.canon.chunks.rows ++ persisted.rows :=
    (Table.insertAll_eq_some persisted.chunked).2
  rw [rows]
  refine filter_append_none fun row inRows => decide_eq_false fun mine => apart ?_
  exact mine.symm.trans (mem_persisted_rows persisted inRows).2.1

theorem abandoned_persisted (member : source ∈ records.sources.rows) (retired : source.lifecycleState = .retired)
    (judged : judge instruments ties submission space records = .ok admitted)
    (persisted : Persisted instruments submission space storable records admitted) :
    Abandoned source.id records persisted.store := by
  obtain ⟨valid,_⟩ := judge_ok.mp judged
  obtain ⟨inSources,named⟩ := Table.find_eq_some.mp valid.found
  obtain ⟨_,asked⟩ := persisted_document judged persisted
  have apart : source.id ≠ admitted.source.id := by
    intro same
    cases Table.eq_of_key member inSources same
    cases valid.active.symm.trans retired
  refine ⟨⟨source,member,rfl,retired⟩,?_,?_⟩
  · intro document inDocuments mine
    rcases (persisted_documents judged persisted).mp inDocuments with rfl | ⟨inOld,_⟩
    · exact absurd (mine.symm.trans (asked.source.trans named.symm)) apart
    · exact ⟨document,inOld,rfl⟩
  · have rows : persisted.store.canon.chunks.rows = records.canon.chunks.rows ++ persisted.rows :=
      (Table.insertAll_eq_some persisted.chunked).2
    rw [rows]
    refine filter_append_none fun row inRows => decide_eq_false fun mine => apart ?_
    exact mine.symm.trans (mem_persisted_rows persisted inRows).2.2.1

theorem abiding_next (intact : Intact records) (member : document ∈ records.canon.documents.rows)
    (retired : document.lifecycleState = .retired) (op : Operation φ) :
    Abiding document records (next instruments ties storable records op) := by
  cases op with
  | catalog operation =>
    exact settle_preserves (Abiding document records) (fun _ done => abiding_attempt member retired done) (abiding_refl member)
  | submit submission spaceId =>
    rcases submit_stored instruments ties storable records submission spaceId with same | ⟨_,judged,persisted,same⟩
    · exact (abiding_refl member).of_same same
    · exact (abiding_persisted intact member retired judged persisted).of_same same

theorem abandoned_next (member : source ∈ records.sources.rows) (retired : source.lifecycleState = .retired) (op : Operation φ) :
    Abandoned source.id records (next instruments ties storable records op) := by
  cases op with
  | catalog operation =>
    exact settle_preserves (Abandoned source.id records) (fun _ done => abandoned_attempt member retired done)
      (abandoned_refl member retired)
  | submit submission spaceId =>
    rcases submit_stored instruments ties storable records submission spaceId with same | ⟨_,judged,persisted,same⟩
    · exact (abandoned_refl member retired).of_same same
    · exact (abandoned_persisted member retired judged persisted).of_same same

end Steps

section Runs

variable {φ : Type} {instruments : Instruments} {ties : Uuid → Nat} {storable : φ → Bool} {records : Records φ}

theorem abiding_after (intact : Intact records) {document : KnowledgeDocument} (member : document ∈ records.canon.documents.rows)
    (retired : document.lifecycleState = .retired) (ops : List (Operation φ)) :
    Abiding document records (after instruments ties storable records ops) := by
  induction ops generalizing records with
  | nil => exact abiding_refl member
  | cons op rest ih =>
    have step : Abiding document records (next instruments ties storable records op) := abiding_next intact member retired op
    exact step.trans (ih (intact.next op) step.stands)

theorem abandoned_after {source : KnowledgeSource} (member : source ∈ records.sources.rows)
    (retired : source.lifecycleState = .retired) (ops : List (Operation φ)) :
    Abandoned source.id records (after instruments ties storable records ops) := by
  induction ops generalizing records source with
  | nil => exact abandoned_refl member retired
  | cons op rest ih =>
    have step : Abandoned source.id records (next instruments ties storable records op) := abandoned_next member retired op
    obtain ⟨other,inOthers,same,still⟩ := step.stands
    have later := ih inOthers still
    rw [same] at later
    exact step.trans later

/-- Where a chunk is not live, its vector cannot be retrieved. -/
theorem Populated.hidden (populated : Populated records) {which : KnowledgeChunk → Prop}
    (dead : ∀ chunk ∈ records.canon.chunks.rows, which chunk → ¬ Live records chunk) : Hidden records which := by
  intro embedding member chunk inChunks named chosen
  have live := populated.live embedding member chunk inChunks named
  exact Bool.eq_false_of_not_eq_true fun retrievable => dead chunk inChunks chosen (live.mp retrievable)

end Runs

/-- At any point of any run, a document or a source that is retired stays so whatever follows: the document keeps its row, its
versions and its chunks, the source gets no document, version or chunk, and nothing of either can be retrieved. -/
theorem retirement_final {φ : Type} (instruments : Instruments) (ties : Uuid → Nat) (storable : φ → Bool) (start : Records φ)
    (empty : start.canon = .empty) (ops later : List (Operation φ)) :
    Final (after instruments ties storable start ops) (after instruments ties storable start (ops ++ later)) := by
  have met : Populated (after instruments ties storable start ops) := populated_after empty ops
  have populated : Populated (after instruments ties storable start (ops ++ later)) := populated_after empty (ops ++ later)
  have split : after instruments ties storable start (ops ++ later) =
      after instruments ties storable (after instruments ties storable start ops) later := run_append _ _ _ _
  rw [split] at populated ⊢
  constructor
  · intro document member retired
    have settled := @abiding_after _ instruments ties storable _ met.intact document member retired later
    refine ⟨settled,populated.hidden ?_⟩
    rintro chunk _ mine ⟨other,inOthers,_,_,named,_,active,_⟩
    cases Table.eq_of_key inOthers settled.stands (named.trans mine)
    cases active.symm.trans retired
  · intro source member retired
    have abandoned := @abandoned_after _ instruments ties storable _ source member retired later
    refine ⟨abandoned,populated.hidden ?_⟩
    rintro chunk inChunks mine ⟨document,inDocuments,other,inOthers,named,_,_,owner,active⟩
    obtain ⟨standing,inStanding,same,still⟩ := abandoned.stands
    have owned := populated.intact.chunkSource chunk inChunks document inDocuments named
    cases Table.eq_of_key inOthers inStanding (owner.trans (owned.trans (mine.trans same.symm)))
    cases active.symm.trans still

section Laboratory
open Laboratory

def withdrawal : List (Operation Int) := [.submit vlan none,.catalog (.retireDocument 11 viewer 5)]

theorem retirement_final_lab :
    (filed withdrawal).canon.documents.rows.map (fun document => (document.id,document.lifecycleState)) = [(11,.retired)] ∧
      Final (filed withdrawal) (filed (withdrawal ++ [.submit trunk none])) :=
  ⟨by decide +kernel,retirement_final libraries BitVec.toNat (fun _ => true) shelf rfl withdrawal
    [.submit trunk none]⟩

end Laboratory

end Acop.Knowledge
