import Acop.Knowledge.Catalog

/-! What a submission and each catalogue operation have done once they have ended. -/
namespace Acop.Knowledge
open Acop.Store Acop.Serial

section Basics

theorem columns_ok {checks : List (Constraint × Bool)} : columns checks = .ok () ↔ ∀ check ∈ checks, check.2 = true := by
  unfold columns
  split
  · rename_i constraint failed found
    refine ⟨nofun,fun passed => ?_⟩
    have held : failed = true := passed _ (List.mem_of_find?_eq_some found)
    subst held
    simpa using List.find?_some found
  · rename_i found
    refine ⟨fun _ => ?_,fun _ => rfl⟩
    simpa using List.find?_eq_none.mp found

theorem keyed_ok {Row Key : Type} {key : Row → Key} {inserted : Option (Table key)} {table : Table key} :
    keyed inserted = .ok table ↔ inserted = some table := by
  cases inserted with
  | none => exact ⟨nofun,nofun⟩
  | some other => simp [keyed]

end Basics

section Attempt

variable {φ : Type} {instruments : Instruments} {submission : Submission φ} {records next' : Records φ}

theorem openAttempt_ok : openAttempt instruments submission records = .ok next' ↔
    (∀ check ∈ (openedAttempt instruments submission).checks, check.2 = true) ∧
      (records.sources.find submission.request.sourceId).isSome ∧
      ∃ attempts, records.attempts.insert (openedAttempt instruments submission) = some attempts ∧
        next' = {records with attempts} := by
  constructor
  · intro done
    obtain ⟨⟨⟩,checked,done⟩ := bind_ok done
    obtain ⟨attempts,added,done⟩ := bind_ok done
    cases done
    rw [columns_ok] at checked
    exact ⟨fun check member => checked check (List.mem_append_left _ member),
      checked (.attemptSource,_) (List.mem_append_right _ (List.mem_singleton_self _)),attempts,keyed_ok.mp added,rfl⟩
  · rintro ⟨checked,known,attempts,added,rfl⟩
    have passed : columns ((openedAttempt instruments submission).checks ++
        [(.attemptSource,(records.sources.find (openedAttempt instruments submission).sourceId).isSome)]) = .ok () := by
      rw [columns_ok]
      intro check member
      rcases List.mem_append.mp member with own | source
      · exact checked check own
      · cases List.mem_singleton.mp source
        exact known
    simp only [openAttempt,insertAttempt,passed,ok_bind,keyed_ok.mpr added]
    rfl

theorem closeAttempt_ok {closing : Closing} : closeAttempt records submission.draws closing = .ok next' ↔
    decide (closing.outcome ∈ canonicalOutcomes) = closing.versionId.isSome ∧
      ∃ findings, records.findings.insertAll (findingRows submission.draws none closing.findings) = some findings ∧
        next' = {records with
          attempts := records.attempts.update submission.draws.attempt (closing.finish submission.draws.finishedAt)
          findings} := by
  constructor
  · intro done
    obtain ⟨⟨⟩,checked,done⟩ := bind_ok done
    obtain ⟨findings,added,done⟩ := bind_ok done
    cases done
    have passed := columns_ok.mp checked _ (List.mem_singleton_self _)
    exact ⟨by simpa using passed,findings,keyed_ok.mp added,rfl⟩
  · rintro ⟨checked,findings,added,rfl⟩
    have passed : columns [(.successfulHasVersion,decide (closing.outcome ∈ canonicalOutcomes) = closing.versionId.isSome)] =
        .ok () := by
      rw [columns_ok]
      intro check member
      cases List.mem_singleton.mp member
      simpa using checked
    simp only [closeAttempt,passed,ok_bind,keyed_ok.mpr added]
    rfl

end Attempt

section Judge

variable {φ : Type} {instruments : Instruments} {ties : Uuid → Nat} {submission : Submission φ} {space : EmbeddingSpace}
  {records : Records φ}

/-- What the checks of source, media type and size ask. -/
structure Valid (submission : Submission φ) (records : Records φ) (source : KnowledgeSource) : Prop where
  found : records.sources.find submission.request.sourceId = some source
  active : source.lifecycleState = .active
  media : submission.request.mediaType ∈ supportedMediaTypes
  size : submission.request.content.utf8ByteSize ≤ maxDocumentBytes

theorem validate_ok {source : KnowledgeSource} :
    validate submission records = .ok source ↔ Valid submission records source := by
  constructor
  · intro done
    unfold validate at done
    dsimp only at done
    split at done
    · cases done
    · rename_i other found
      obtain ⟨active,done⟩ := ok_of_guard done
      obtain ⟨media,done⟩ := ok_of_guard done
      obtain ⟨size,done⟩ := ok_of_guard done
      cases done
      exact ⟨found,not_not.mp active,not_not.mp media,Nat.le_of_not_lt size⟩
  · rintro ⟨found,active,media,size⟩
    unfold validate
    simp only [found,active,media,ne_eq,not_true_eq_false,if_false,Nat.not_lt.mpr size]

/-- The current version has neither the bytes nor the text of the submission. -/
def Changed (instruments : Instruments) (submission : Submission φ) (current : Option KnowledgeDocumentVersion) : Prop :=
  ∀ version ∈ current, version.rawContentHash ≠ submission.rawHash instruments ∧
    version.textContentHash ≠ submission.textHash instruments

theorem checkUnchanged_ok {document : Option KnowledgeDocument} {current : Option KnowledgeDocumentVersion} :
    checkUnchanged instruments submission document current = .ok () ↔ Changed instruments submission current := by
  cases current with
  | none =>
    refine ⟨fun _ version member => ?_,fun _ => rfl⟩
    cases member
  | some current =>
    simp only [checkUnchanged,Changed,Option.mem_def,Option.some.injEq,forall_eq']
    constructor
    · intro done
      obtain ⟨raw,done⟩ := ok_of_guard done
      exact ⟨raw,(ok_of_guard done).1⟩
    · rintro ⟨raw,text⟩
      rw [if_neg raw,if_neg text]

theorem passGate_ok {report : List Finding} : passGate instruments ties submission records report = .ok () ↔
    unresolved instruments ties submission records report = [] := by
  unfold passGate
  dsimp only
  split
  · rename_i left
    exact ⟨nofun,fun none => absurd none left⟩
  · rename_i none
    exact ⟨fun _ => not_not.mp none,fun _ => rfl⟩

/-- The space is verified and the embedder answers for chunks that fit the model. -/
structure Embeds (instruments : Instruments) (submission : Submission φ) (space : EmbeddingSpace) (chunks : List Chunk)
    (vectors : List (List φ)) : Prop where
  verified : space.prefixVerifiedAt ≠ none
  cut : chunks = instruments.chunkDocument (submission.normalised instruments)
  fits : oversize space chunks = [] ∨ space.truncationPolicy ≠ .rejectOversize
  replied : submission.embedder (chunks.map (·.content)) space.documentPrefix = .vectors vectors

theorem embedChunks_ok {report : List Finding} {chunks : List Chunk} {vectors : List (List φ)} :
    embedChunks instruments submission space report = .ok (chunks,vectors) ↔
      Embeds instruments submission space chunks vectors := by
  constructor
  · intro done
    unfold embedChunks at done
    dsimp only at done
    obtain ⟨verified,done⟩ := ok_of_guard done
    split at done
    · cases done
    · rename_i passed
      split at done
      · rename_i vectors' replied
        cases done
        refine ⟨verified,rfl,?_,replied⟩
        by_contra both
        push Not at both
        obtain ⟨first,rest,large⟩ := List.exists_cons_of_ne_nil both.1
        exact passed first rest large both.2
      · cases done
      · cases done
  · rintro ⟨verified,rfl,fits,replied⟩
    unfold embedChunks
    dsimp only
    rw [if_neg verified]
    split
    · rename_i first rest large policy
      rcases fits with none | other
      · cases large.symm.trans none
      · exact absurd policy other
    · rw [replied]

theorem judge_ok {admitted : Admitted φ} : judge instruments ties submission space records = .ok admitted ↔
    Valid submission records admitted.source ∧
      admitted.document = findDocument submission records ∧
      admitted.current = currentVersion records admitted.document ∧
      Changed instruments submission admitted.current ∧
      admitted.report = screen instruments (submission.normalised instruments) ∧
      unresolved instruments ties submission records admitted.report = [] ∧
      Embeds instruments submission space admitted.chunks admitted.vectors := by
  constructor
  · intro done
    obtain ⟨source,valid,done⟩ := bind_ok done
    obtain ⟨⟨⟩,changed,done⟩ := bind_ok done
    obtain ⟨⟨⟩,passed,done⟩ := bind_ok done
    obtain ⟨⟨chunks,vectors⟩,embeds,done⟩ := bind_ok done
    cases done
    exact ⟨validate_ok.mp valid,rfl,rfl,checkUnchanged_ok.mp changed,rfl,passGate_ok.mp passed,embedChunks_ok.mp embeds⟩
  · obtain ⟨source,document,current,report,chunks,vectors⟩ := admitted
    dsimp only
    rintro ⟨valid,rfl,rfl,changed,rfl,passed,embeds⟩
    simp only [judge,validate_ok.mpr valid,ok_bind,checkUnchanged_ok.mpr changed,passGate_ok.mpr passed,embedChunks_ok.mpr embeds]
    rfl

end Judge

section Insert

variable {φ : Type} {canon next' : Canon φ}

theorem insertVersion_ok {row : KnowledgeDocumentVersion} : insertVersion canon row = .ok next' ↔
    (∀ check ∈ row.checks, check.2 = true) ∧
      (∀ other ∈ versionsOf canon row.documentId, other.versionNo ≠ row.versionNo) ∧
      (∀ other ∈ versionsOf canon row.documentId, other.rawContentHash ≠ row.rawContentHash) ∧
      ∃ versions, canon.versions.insert row = some versions ∧ next' = {canon with versions} := by
  have checked : columns (row.checks ++
      [(.versionNo,(versionsOf canon row.documentId).all (·.versionNo ≠ row.versionNo)),
        (.rawHash,(versionsOf canon row.documentId).all (·.rawContentHash ≠ row.rawContentHash))]) = .ok () ↔
      (∀ check ∈ row.checks, check.2 = true) ∧ (∀ other ∈ versionsOf canon row.documentId, other.versionNo ≠ row.versionNo) ∧
        ∀ other ∈ versionsOf canon row.documentId, other.rawContentHash ≠ row.rawContentHash := by
    rw [columns_ok]
    simp only [List.forall_mem_append,List.mem_cons,List.not_mem_nil,or_false,forall_eq_or_imp,forall_eq,List.all_eq_true,
      decide_eq_true_eq]
  constructor
  · intro done
    obtain ⟨⟨⟩,passed,done⟩ := bind_ok done
    obtain ⟨versions,added,done⟩ := bind_ok done
    cases done
    obtain ⟨fit,number,hash⟩ := checked.mp passed
    exact ⟨fit,number,hash,versions,keyed_ok.mp added,rfl⟩
  · rintro ⟨fit,number,hash,versions,added,rfl⟩
    simp only [insertVersion,checked.mpr ⟨fit,number,hash⟩,ok_bind,keyed_ok.mpr added]
    rfl

theorem insertChunks_ok {title : String} {rows : List KnowledgeChunk} : insertChunks canon title rows = .ok next' ↔
    fits 512 title = true ∧ (∀ row ∈ rows, ∀ check ∈ row.checks, check.2 = true) ∧
      ((canon.chunks.rows ++ rows).map (·.place)).Nodup ∧
      ∃ chunks, canon.chunks.insertAll rows = some chunks ∧ next' = {canon with chunks} := by
  have checked : columns ([(.columnType,fits 512 title)] ++ rows.flatMap (·.checks) ++
      [(.chunkOrdinal,decide ((canon.chunks.rows ++ rows).map (·.place)).Nodup)]) = .ok () ↔
      fits 512 title = true ∧ (∀ row ∈ rows, ∀ check ∈ row.checks, check.2 = true) ∧
        ((canon.chunks.rows ++ rows).map (·.place)).Nodup := by
    rw [columns_ok]
    simp only [List.forall_mem_append,List.mem_cons,List.not_mem_nil,or_false,forall_eq,List.mem_flatMap,forall_exists_index,
      and_imp,decide_eq_true_eq,and_assoc]
    exact and_congr_right fun _ => and_congr_left fun _ => ⟨fun all row member check => all check row member,
      fun all check row member => all row member check⟩
  constructor
  · intro done
    obtain ⟨⟨⟩,passed,done⟩ := bind_ok done
    obtain ⟨chunks,added,done⟩ := bind_ok done
    cases done
    obtain ⟨titleFits,fit,places⟩ := checked.mp passed
    exact ⟨titleFits,fit,places,chunks,keyed_ok.mp added,rfl⟩
  · rintro ⟨titleFits,fit,places,chunks,added,rfl⟩
    simp only [insertChunks,checked.mpr ⟨titleFits,fit,places⟩,ok_bind,keyed_ok.mpr added]
    rfl

theorem insertEmbeddings_ok {storable : φ → Bool} {rows : List (KnowledgeEmbedding φ)} :
    insertEmbeddings canon storable rows = .ok next' ↔
      (∀ row ∈ rows, ∀ check ∈ row.checks storable, check.2 = true) ∧
        (currentPlaces (canon.embeddings.rows ++ rows)).Nodup ∧
        ∃ embeddings, canon.embeddings.insertAll rows = some embeddings ∧ next' = {canon with embeddings} := by
  have checked : columns (rows.flatMap (·.checks storable) ++
      [(.currentEmbedding,decide (currentPlaces (canon.embeddings.rows ++ rows)).Nodup)]) = .ok () ↔
      (∀ row ∈ rows, ∀ check ∈ row.checks storable, check.2 = true) ∧
        (currentPlaces (canon.embeddings.rows ++ rows)).Nodup := by
    rw [columns_ok]
    simp only [List.forall_mem_append,List.mem_cons,List.not_mem_nil,or_false,forall_eq,List.mem_flatMap,forall_exists_index,
      and_imp,decide_eq_true_eq]
    exact and_congr_left fun _ => ⟨fun all row member check => all check row member,
      fun all check row member => all row member check⟩
  constructor
  · intro done
    obtain ⟨⟨⟩,passed,done⟩ := bind_ok done
    obtain ⟨embeddings,added,done⟩ := bind_ok done
    cases done
    obtain ⟨fit,once⟩ := checked.mp passed
    exact ⟨fit,once,embeddings,keyed_ok.mp added,rfl⟩
  · rintro ⟨fit,once,embeddings,added,rfl⟩
    simp only [insertEmbeddings,checked.mpr ⟨fit,once⟩,ok_bind,keyed_ok.mpr added]
    rfl

end Insert

section Persist

variable {φ : Type}

/-- The versions once the current one, if there is one, is closed. -/
def supersededVersions (versions : Table KnowledgeDocumentVersion.id) (now : Time) :
    Option KnowledgeDocumentVersion → Table KnowledgeDocumentVersion.id
  | some current => versions.update current.id (superseding now)
  | none => versions

/-- The vectors once those of the current version, if there is one, are out of retrieval. -/
def vacatedVectors (canon : Canon φ) : Option KnowledgeDocumentVersion → Table (@KnowledgeEmbedding.key φ)
  | some current => canon.embeddings.revise (embedsChunk canon.chunks (·.versionId = current.id)) unretrievable
  | none => canon.embeddings

/-- A version with all its rows, as the database takes them. -/
structure Persisted (instruments : Instruments) (submission : Submission φ) (space : EmbeddingSpace) (storable : φ → Bool)
    (records : Records φ) (admitted : Admitted φ) where
  document : KnowledgeDocument
  documents : Table KnowledgeDocument.id
  versions : Table KnowledgeDocumentVersion.id
  chunks : Table KnowledgeChunk.id
  embeddings : Table (@KnowledgeEmbedding.key φ)
  findings : Table KnowledgeFinding.id
  version : KnowledgeDocumentVersion
  rows : List KnowledgeChunk
  drafted : ensureDocument submission records.canon admitted.document = .ok (document,{records.canon with documents})
  version_eq : version = newVersion instruments submission document.id admitted.current admitted.report
  rows_eq : rows = chunkRows instruments submission version admitted.source.id admitted.chunks
  version_fits : ∀ check ∈ version.checks, check.2 = true
  version_no : ∀ other ∈ versionsOf records.canon document.id, other.versionNo ≠ version.versionNo
  raw_hash : ∀ other ∈ versionsOf records.canon document.id, other.rawContentHash ≠ version.rawContentHash
  versioned : records.canon.versions.insert version = some versions
  family : space.dimensions = d768
  title_fits : fits 512 submission.request.title = true
  chunks_fit : ∀ row ∈ rows, ∀ check ∈ row.checks, check.2 = true
  places : ((records.canon.chunks.rows ++ rows).map (·.place)).Nodup
  chunked : records.canon.chunks.insertAll rows = some chunks
  paired : rows.length = admitted.vectors.length
  space_known : (records.spaces.find space.id).isSome
  vectors_fit : ∀ row ∈ embeddingRows submission space admitted.source rows admitted.vectors,
    ∀ check ∈ row.checks storable, check.2 = true
  current_once : (currentPlaces ((vacatedVectors records.canon admitted.current).rows ++
    embeddingRows submission space admitted.source rows admitted.vectors)).Nodup
  embedded : (vacatedVectors records.canon admitted.current).insertAll
    (embeddingRows submission space admitted.source rows admitted.vectors) = some embeddings
  noted : records.findings.insertAll (findingRows submission.draws (some version.id) (advisory admitted.report)) = some findings

variable {instruments : Instruments} {submission : Submission φ} {space : EmbeddingSpace} {storable : φ → Bool}
  {records : Records φ} {admitted : Admitted φ}

def Persisted.store (persisted : Persisted instruments submission space storable records admitted) : Records φ :=
  {records with
    canon := {
      documents := persisted.documents.update persisted.document.id (pointing persisted.version.id submission.request.title)
      versions := supersededVersions persisted.versions submission.draws.now admitted.current
      chunks := persisted.chunks
      embeddings := persisted.embeddings}
    findings := persisted.findings}

theorem ensureDocument_ok {canon drafted : Canon φ} {found : Option KnowledgeDocument} {document : KnowledgeDocument}
    (done : ensureDocument submission canon found = .ok (document,drafted)) :
    ∃ documents, drafted = {canon with documents} ∧
      ((found = some document ∧ documents = canon.documents) ∨
        (found = none ∧ document = newDocument submission ∧ (∀ check ∈ document.checks, check.2 = true) ∧
          (∀ other ∈ canon.documents.rows, sameActiveRef document other = false) ∧ canon.documents.insert document = some documents)) := by
  cases found with
  | some found =>
    cases done
    exact ⟨canon.documents,rfl,.inl ⟨rfl,rfl⟩⟩
  | none =>
    obtain ⟨inserted,ok,done⟩ := bind_ok done
    obtain ⟨⟨⟩,checked,ok⟩ := bind_ok ok
    obtain ⟨documents,added,ok⟩ := bind_ok ok
    cases ok
    cases done
    rw [columns_ok] at checked
    refine ⟨documents,rfl,.inr ⟨rfl,rfl,fun check member => checked check (List.mem_append_left _ member),?_,keyed_ok.mp added⟩⟩
    have apart := checked _ (List.mem_append_right _ (List.mem_singleton_self _))
    simpa using apart

theorem supersede_ok {canon vacated : Canon φ} {current : Option KnowledgeDocumentVersion}
    (done : supersede submission space canon current = .ok vacated) :
    vacated = {canon with
      versions := supersededVersions canon.versions submission.draws.now current
      embeddings := vacatedVectors canon current} := by
  cases current with
  | none =>
    cases done
    rfl
  | some current =>
    obtain ⟨_,_,done⟩ := bind_ok done
    cases done
    rfl

theorem embeddingModelFor_ok {dimensions : Int} : embeddingModelFor dimensions = .ok () ↔ dimensions = d768 := by
  unfold embeddingModelFor
  split
  · exact ⟨fun _ => ‹_›,fun _ => rfl⟩
  · exact ⟨nofun,fun same => absurd same ‹_›⟩

theorem supersede_eq {canon : Canon φ} {current : Option KnowledgeDocumentVersion} (family : space.dimensions = d768) :
    supersede submission space canon current = .ok {canon with
      versions := supersededVersions canon.versions submission.draws.now current
      embeddings := vacatedVectors canon current} := by
  cases current with
  | none => rfl
  | some current =>
    simp only [supersede,embeddingModelFor_ok.mpr family,ok_bind]
    rfl

theorem persist_ok {version : KnowledgeDocumentVersion} {final : Records φ}
    (done : persist instruments submission space storable records admitted = .ok (version,final)) :
    ∃ persisted : Persisted instruments submission space storable records admitted,
      version = persisted.version ∧ final = persisted.store := by
  obtain ⟨⟨document,drafted⟩,drafting,done⟩ := bind_ok done
  dsimp only at done
  obtain ⟨documents,rfl,_⟩ := ensureDocument_ok drafting
  obtain ⟨versioned,ok,done⟩ := bind_ok done
  obtain ⟨versionFits,versionNo,rawHash,versions,versionAdded,rfl⟩ := insertVersion_ok.mp ok
  obtain ⟨vacated,superseding,done⟩ := bind_ok done
  cases supersede_ok superseding
  obtain ⟨⟨⟩,family,done⟩ := bind_ok done
  obtain ⟨chunked,ok,done⟩ := bind_ok done
  obtain ⟨titleFits,chunksFit,places,chunks,chunksAdded,rfl⟩ := insertChunks_ok.mp ok
  obtain ⟨⟨⟩,paired,done⟩ := bind_ok done
  obtain ⟨⟨⟩,known,done⟩ := bind_ok done
  obtain ⟨embedded,ok,done⟩ := bind_ok done
  obtain ⟨vectorsFit,once,embeddings,vectorsAdded,rfl⟩ := insertEmbeddings_ok.mp ok
  obtain ⟨findings,noted,done⟩ := bind_ok done
  cases done
  exact ⟨{
    document,documents,versions,chunks,embeddings,findings
    version := newVersion instruments submission document.id admitted.current admitted.report
    rows := chunkRows instruments submission (newVersion instruments submission document.id admitted.current admitted.report)
      admitted.source.id admitted.chunks
    drafted := drafting
    version_eq := rfl
    rows_eq := rfl
    version_fits := versionFits
    version_no := versionNo
    raw_hash := rawHash
    versioned := versionAdded
    family := embeddingModelFor_ok.mp family
    title_fits := titleFits
    chunks_fit := chunksFit
    places := places
    chunked := chunksAdded
    paired := (ok_of_check paired).1
    space_known := columns_ok.mp known _ (List.mem_singleton_self _)
    vectors_fit := vectorsFit
    current_once := once
    embedded := vectorsAdded
    noted := keyed_ok.mp noted},rfl,rfl⟩

theorem Persisted.made (persisted : Persisted instruments submission space storable records admitted) :
    persist instruments submission space storable records admitted = .ok (persisted.version,persisted.store) := by
  obtain ⟨document,documents,versions,chunks,embeddings,findings,version,rows,drafted,rfl,rfl,versionFits,versionNo,rawHash,
    versioned,family,titleFits,chunksFit,places,chunked,paired,known,vectorsFit,once,embedded,noted⟩ := persisted
  let version := newVersion instruments submission document.id admitted.current admitted.report
  let rows := chunkRows instruments submission version admitted.source.id admitted.chunks
  let superseded := supersededVersions versions submission.draws.now admitted.current
  let vacated := vacatedVectors records.canon admitted.current
  let pointed := documents.update document.id (pointing version.id submission.request.title)
  have versionTaken : insertVersion {records.canon with documents} version = .ok {records.canon with documents,versions} :=
    insertVersion_ok.mpr ⟨versionFits,versionNo,rawHash,versions,versioned,rfl⟩
  have closing : supersede submission space {records.canon with documents,versions} admitted.current =
      .ok ⟨documents,superseded,records.canon.chunks,vacated⟩ := supersede_eq family
  have chunksTaken : insertChunks ⟨pointed,superseded,records.canon.chunks,vacated⟩ submission.request.title rows =
      .ok ⟨pointed,superseded,chunks,vacated⟩ := insertChunks_ok.mpr ⟨titleFits,chunksFit,places,chunks,chunked,rfl⟩
  have spaceKnown : columns [(.embeddingSpace,(records.spaces.find space.id).isSome)] = .ok () := by
    rw [columns_ok]
    intro check member
    cases List.mem_singleton.mp member
    exact known
  have vectorsTaken : insertEmbeddings ⟨pointed,superseded,chunks,vacated⟩ storable
      (embeddingRows submission space admitted.source rows admitted.vectors) = .ok ⟨pointed,superseded,chunks,embeddings⟩ :=
    insertEmbeddings_ok.mpr ⟨vectorsFit,once,embeddings,embedded,rfl⟩
  have inStep : strictZip rows admitted.vectors = .ok () := if_pos paired
  have findingsTaken : keyed (records.findings.insertAll
      (findingRows submission.draws (some version.id) (advisory admitted.report))) = .ok findings := keyed_ok.mpr noted
  simp only [persist,drafted,ok_bind]
  rw [versionTaken,ok_bind,closing,ok_bind,embeddingModelFor_ok.mpr family,ok_bind]
  rw [chunksTaken,ok_bind,inStep,ok_bind,spaceKnown,ok_bind,vectorsTaken,ok_bind,findingsTaken]
  rfl

end Persist

section Ingest

variable {φ : Type} {instruments : Instruments} {ties : Uuid → Nat} {storable : φ → Bool} {submission : Submission φ}
  {space : EmbeddingSpace} {records : Records φ}

theorem judge_attempts (attempts : Table KnowledgeIngestAttempt.id) :
    judge instruments ties submission space {records with attempts} = judge instruments ties submission space records := rfl

theorem earnVersion_ok {opened final : Records φ} {admitted : Admitted φ} {result : IngestResult}
    (done : earnVersion instruments storable submission space opened admitted = .ok (result,final)) :
    ∃ persisted : Persisted instruments submission space storable opened admitted,
      result = versionResult submission persisted.version admitted ∧
      closeAttempt persisted.store submission.draws (versionClosing instruments submission persisted.version admitted) =
        .ok final := by
  obtain ⟨⟨version,store⟩,persisting,done⟩ := bind_ok done
  obtain ⟨persisted,rfl,rfl⟩ := persist_ok persisting
  obtain ⟨closed,closing,done⟩ := bind_ok done
  cases done
  exact ⟨persisted,rfl,closing⟩

/-- How a call can end: without an attempt, with the attempt closed on a refusal or as
unchanged, with the attempt left pending, or with a version. -/
inductive Ended (instruments : Instruments) (ties : Uuid → Nat) (storable : φ → Bool) (submission : Submission φ)
    (space : EmbeddingSpace) (records : Records φ) : Answer → Records φ → Prop where
  | unopened {refusal : Refusal} (refused : openAttempt instruments submission records = .error refusal) :
    Ended instruments ties storable submission space records (.raised refusal) records
  | refused {opened final : Records φ} {closing : Closing} {refusal : Refusal}
    (opening : openAttempt instruments submission records = .ok opened)
    (judged : judge instruments ties submission space records = .error (.refused closing refusal))
    (closed : closeAttempt opened submission.draws closing = .ok final) :
    Ended instruments ties storable submission space records (.raised refusal) final
  | unchanged {opened final : Records φ} {closing : Closing} {result : IngestResult}
    (opening : openAttempt instruments submission records = .ok opened)
    (judged : judge instruments ties submission space records = .error (.unchanged closing result))
    (closed : closeAttempt opened submission.draws closing = .ok final) :
    Ended instruments ties storable submission space records (.returned result) final
  | pending {opened : Records φ} {refusal : Refusal} (opening : openAttempt instruments submission records = .ok opened) :
    Ended instruments ties storable submission space records (.raised refusal) opened
  | earned {opened final : Records φ} {admitted : Admitted φ} {result : IngestResult}
    (opening : openAttempt instruments submission records = .ok opened)
    (judged : judge instruments ties submission space records = .ok admitted)
    (earning : earnVersion instruments storable submission space opened admitted = .ok (result,final)) :
    Ended instruments ties storable submission space records (.returned result) final

theorem ingest_ended (instruments : Instruments) (ties : Uuid → Nat) (storable : φ → Bool) (submission : Submission φ)
    (space : EmbeddingSpace) (records : Records φ) :
    Ended instruments ties storable submission space records (ingest instruments ties storable submission space records).1
      (ingest instruments ties storable submission space records).2 := by
  unfold ingest
  cases opening : openAttempt instruments submission records with
  | error refusal => exact .unopened opening
  | ok opened =>
    have same : judge instruments ties submission space opened = judge instruments ties submission space records := by
      obtain ⟨_,_,attempts,_,rfl⟩ := openAttempt_ok.mp opening
      exact judge_attempts attempts
    dsimp only
    rw [same]
    cases judged : judge instruments ties submission space records with
    | error exit => cases exit with
      | refused closing refusal =>
        dsimp only [endAttempt]
        cases closed : closeAttempt opened submission.draws closing with
        | ok final => exact .refused opening judged closed
        | error other => exact .pending opening
      | unchanged closing result =>
        dsimp only [endAttempt]
        cases closed : closeAttempt opened submission.draws closing with
        | ok final => exact .unchanged opening judged closed
        | error other => exact .pending opening
      | aborted refusal => exact .pending opening
    | ok admitted =>
      dsimp only
      cases earning : earnVersion instruments storable submission space opened admitted with
      | ok earned => exact .earned opening judged earning
      | error refusal => exact .pending opening

/-- Everything but the attempts and their findings. -/
def SameStore (old new : Records φ) : Prop :=
  new.canon = old.canon ∧ new.sources = old.sources ∧ new.spaces = old.spaces ∧ new.dispositions = old.dispositions

theorem sameStore_open {opened : Records φ} (opening : openAttempt instruments submission records = .ok opened) :
    SameStore records opened := by
  obtain ⟨_,_,attempts,_,rfl⟩ := openAttempt_ok.mp opening
  exact ⟨rfl,rfl,rfl,rfl⟩

theorem sameStore_close {opened final : Records φ} {closing : Closing}
    (closed : closeAttempt opened submission.draws closing = .ok final) : SameStore opened final := by
  obtain ⟨_,findings,_,rfl⟩ := closeAttempt_ok.mp closed
  exact ⟨rfl,rfl,rfl,rfl⟩

theorem SameStore.trans {first second third : Records φ} (early : SameStore first second) (late : SameStore second third) :
    SameStore first third :=
  ⟨late.1.trans early.1,late.2.1.trans early.2.1,late.2.2.1.trans early.2.2.1,late.2.2.2.trans early.2.2.2⟩

theorem sameStore_of_raised {refusal : Refusal} {final : Records φ}
    (ended : Ended instruments ties storable submission space records (.raised refusal) final) : SameStore records final := by
  cases ended with
  | unopened _ => exact ⟨rfl,rfl,rfl,rfl⟩
  | refused opening _ closed => exact (sameStore_open opening).trans (sameStore_close closed)
  | pending opening => exact sameStore_open opening

theorem earned_store {opened final : Records φ} {admitted : Admitted φ} {result : IngestResult}
    (opening : openAttempt instruments submission records = .ok opened)
    (earning : earnVersion instruments storable submission space opened admitted = .ok (result,final)) :
    ∃ persisted : Persisted instruments submission space storable records admitted,
      result = versionResult submission persisted.version admitted ∧ SameStore persisted.store final := by
  obtain ⟨_,_,attempts,_,rfl⟩ := openAttempt_ok.mp opening
  obtain ⟨persisted,rfl,closed⟩ := earnVersion_ok earning
  refine ⟨{persisted with},rfl,?_⟩
  obtain ⟨_,findings,_,rfl⟩ := closeAttempt_ok.mp closed
  exact ⟨rfl,rfl,rfl,rfl⟩

theorem SameStore.refl (records : Records φ) : SameStore records records := ⟨rfl,rfl,rfl,rfl⟩

/-- What a submission has done to the store: nothing, or a version that was admitted. -/
inductive Stored (instruments : Instruments) (ties : Uuid → Nat) (storable : φ → Bool) (records : Records φ)
    (submission : Submission φ) (spaceId : Option Uuid) : Records φ → Prop where
  | same {final : Records φ} (same : SameStore records final) : Stored instruments ties storable records submission spaceId final
  | version {final : Records φ} {space : EmbeddingSpace} {admitted : Admitted φ}
    (resolved : resolveSpace records spaceId = .ok space)
    (judged : judge instruments ties submission space records = .ok admitted)
    (persisted : Persisted instruments submission space storable records admitted)
    (same : SameStore persisted.store final) : Stored instruments ties storable records submission spaceId final

theorem submit_stored (instruments : Instruments) (ties : Uuid → Nat) (storable : φ → Bool) (records : Records φ)
    (submission : Submission φ) (spaceId : Option Uuid) :
    Stored instruments ties storable records submission spaceId
      (submit instruments ties storable records submission spaceId).2 := by
  unfold submit
  cases resolved : resolveSpace records spaceId with
  | error refusal => exact .same (.refl records)
  | ok space =>
    have ended := ingest_ended instruments ties storable submission space records
    dsimp only
    generalize ingest instruments ties storable submission space records = outcome at ended
    obtain ⟨answer,final⟩ := outcome
    cases ended with
    | unopened _ => exact .same (.refl _)
    | refused opening _ closed => exact .same ((sameStore_open opening).trans (sameStore_close closed))
    | unchanged opening _ closed => exact .same ((sameStore_open opening).trans (sameStore_close closed))
    | pending opening => exact .same (sameStore_open opening)
    | earned opening judged earning =>
      obtain ⟨persisted,_,same⟩ := earned_store opening earning
      exact .version resolved judged persisted same

theorem submit_raised {spaceId : Option Uuid} {refusal : Refusal} {final : Records φ}
    (done : submit instruments ties storable records submission spaceId = (.raised refusal,final)) : SameStore records final := by
  unfold submit at done
  cases resolved : resolveSpace records spaceId with
  | error other =>
    rw [resolved] at done
    cases done
    exact .refl records
  | ok space =>
    rw [resolved] at done
    have called : ingest instruments ties storable submission space records = (.raised refusal,final) := done
    have ended := ingest_ended instruments ties storable submission space records
    rw [called] at ended
    exact sameStore_of_raised ended

end Ingest

section Catalog

variable {φ : Type} {records next' : Records φ}

theorem perFamily_ok {revised canon : Canon φ} (done : perFamily records revised = .ok canon) :
    (∀ space ∈ records.spaces.rows, space.dimensions = d768) ∧
      (canon = revised ∨ (records.spaces.rows = [] ∧ canon = records.canon)) := by
  obtain ⟨families,done⟩ := ok_of_guard done
  refine ⟨by simpa using families,?_⟩
  split at done
  · rename_i none
    cases done
    exact .inr ⟨none,rfl⟩
  · cases done
    exact .inl rfl

/-- The vectors once those of chunks that qualify are out of retrieval. -/
def retiredVectors (canon : Canon φ) (which : KnowledgeChunk → Bool) : Table (@KnowledgeEmbedding.key φ) :=
  canon.embeddings.revise (fun embedding => embedsChunk canon.chunks which embedding && embedding.isRetrievable) unretrievable

theorem retireSource_ok {sourceId : Uuid} {principal : Principal} {now : Time}
    (done : retireSource records sourceId principal now = .ok next') :
    ∃ source canon, records.sources.find sourceId = some source ∧ source.lifecycleState ≠ .retired ∧
      perFamily records {records.canon with embeddings := retiredVectors records.canon (·.sourceId = sourceId)} = .ok canon ∧
      next' = {records with sources := records.sources.update sourceId (retiringSource principal now),canon} := by
  obtain ⟨source,ok,done⟩ := bind_ok done
  have found : records.sources.find sourceId = some source := by
    unfold getSource at ok
    split at ok
    · cases ok
      assumption
    · cases ok
  obtain ⟨active,done⟩ := ok_of_guard done
  obtain ⟨⟨⟩,_,done⟩ := bind_ok done
  obtain ⟨canon,retired,done⟩ := bind_ok done
  cases done
  exact ⟨source,canon,found,active,retired,rfl⟩

theorem retireDocument_ok {documentId : Uuid} {principal : Principal} {now : Time}
    (done : retireDocument records documentId principal now = .ok next') :
    ∃ document canon, records.canon.documents.find documentId = some document ∧ document.lifecycleState ≠ .retired ∧
      perFamily records {records.canon with embeddings := retiredVectors records.canon (·.documentId = documentId)} = .ok canon ∧
      next' = {records with
        canon := {canon with documents := canon.documents.update documentId (retiringDocument principal now)}} := by
  obtain ⟨document,ok,done⟩ := bind_ok done
  have found : records.canon.documents.find documentId = some document := by
    unfold getDocument at ok
    split at ok
    · cases ok
      assumption
    · cases ok
  obtain ⟨active,done⟩ := ok_of_guard done
  obtain ⟨⟨⟩,_,done⟩ := bind_ok done
  obtain ⟨canon,retired,done⟩ := bind_ok done
  cases done
  exact ⟨document,canon,found,active,retired,rfl⟩

def KnowledgeSource.standing (source : KnowledgeSource) : Uuid × KnowledgeLifecycle := (source.id,source.lifecycleState)

theorem assignTrust_ok {sourceId : Uuid} {principal : Principal} {trustClass : Option TrustClass}
    (done : assignTrust records sourceId principal trustClass = .ok next') :
    ∃ sources, next' = {records with sources} ∧
      sources.rows.map KnowledgeSource.standing = records.sources.rows.map KnowledgeSource.standing := by
  cases trustClass with
  | none =>
    cases done
    exact ⟨_,rfl,rfl⟩
  | some trustClass =>
    obtain ⟨_,_,done⟩ := bind_ok done
    cases done
    exact ⟨_,rfl,Table.map_revise fun _ => rfl⟩

theorem assignSensitivity_ok {source : KnowledgeSource} {sensitivity : Option Sensitivity}
    (done : assignSensitivity records source sensitivity = .ok next') :
    ∃ sources embeddings, next' = {records with sources,canon := {records.canon with embeddings}} ∧
      sources.rows.map KnowledgeSource.standing = records.sources.rows.map KnowledgeSource.standing ∧
      (embeddings = records.canon.embeddings ∨ ∃ which sensitivity,
        embeddings = records.canon.embeddings.revise which (resyncing sensitivity)) := by
  cases sensitivity with
  | none =>
    cases done
    exact ⟨_,_,rfl,rfl,.inl rfl⟩
  | some sensitivity =>
    simp only [assignSensitivity] at done
    split at done
    · cases done
      exact ⟨_,_,rfl,rfl,.inl rfl⟩
    · obtain ⟨canon,resynced,done⟩ := bind_ok done
      cases done
      have kept : (records.sources.update source.id (classifying sensitivity)).rows.map KnowledgeSource.standing =
          records.sources.rows.map KnowledgeSource.standing := Table.map_revise fun _ => rfl
      rcases (perFamily_ok resynced).2 with rfl | ⟨_,rfl⟩
      · exact ⟨_,_,rfl,kept,.inr ⟨_,sensitivity,rfl⟩⟩
      · exact ⟨_,_,rfl,kept,.inl rfl⟩

theorem reclassifySource_ok {sourceId : Uuid} {principal : Principal} {trustClass : Option TrustClass}
    {sensitivity : Option Sensitivity} (done : reclassifySource records sourceId principal trustClass sensitivity = .ok next') :
    ∃ sources embeddings, next' = {records with sources,canon := {records.canon with embeddings}} ∧
      sources.rows.map KnowledgeSource.standing = records.sources.rows.map KnowledgeSource.standing ∧
      (embeddings = records.canon.embeddings ∨ ∃ which sensitivity,
        embeddings = records.canon.embeddings.revise which (resyncing sensitivity)) := by
  obtain ⟨_,done⟩ := ok_of_guard done
  obtain ⟨source,_,done⟩ := bind_ok done
  obtain ⟨trusted,ok,done⟩ := bind_ok done
  obtain ⟨sources,rfl,early⟩ := assignTrust_ok ok
  obtain ⟨sources,embeddings,rfl,late,changed⟩ := assignSensitivity_ok done
  exact ⟨sources,embeddings,rfl,late.trans early,changed⟩

theorem recordDisposition_ok {findingId : Uuid} {principal : Principal} {disposition : Disposition} {reason : String} {id : Uuid}
    {decidedAt : Time} (done : recordDisposition records findingId principal disposition reason id decidedAt = .ok next') :
    ∃ finding attempt dispositions, records.findings.find findingId = some finding ∧
      records.attempts.find finding.attemptId = some attempt ∧
      records.dispositions.insert (dispositionRow attempt finding principal disposition reason id decidedAt) = some dispositions ∧
      next' = {records with dispositions} := by
  unfold recordDisposition at done
  split at done
  · cases done
  · rename_i finding foundFinding
    split at done
    · cases done
    · rename_i attempt foundAttempt
      obtain ⟨⟨⟩,_,done⟩ := bind_ok done
      obtain ⟨dispositions,added,done⟩ := bind_ok done
      cases done
      exact ⟨finding,attempt,dispositions,foundFinding,foundAttempt,keyed_ok.mp added,rfl⟩

theorem setDefault_ok {spaceId : Uuid} (done : setDefault records spaceId = .ok next') :
    ∃ spaces, next' = {records with spaces} ∧ spaces.rows.map EmbeddingSpace.id = records.spaces.rows.map EmbeddingSpace.id := by
  obtain ⟨space,_,done⟩ := bind_ok done
  cases done
  refine ⟨_,rfl,?_⟩
  have cleared : (records.spaces.revise (·.isDefault) (flagDefault false)).rows.map EmbeddingSpace.id =
      records.spaces.rows.map EmbeddingSpace.id := Table.map_revise fun _ => rfl
  split
  · exact cleared
  · exact (Table.map_revise fun _ => rfl).trans cleared

theorem markPrefixesVerified_ok {spaceId : Uuid} {subject : String} {now : Time}
    (done : markPrefixesVerified records spaceId subject now = .ok next') :
    next' = {records with spaces := records.spaces.update spaceId (verifying subject now)} := by
  obtain ⟨space,_,done⟩ := bind_ok done
  obtain ⟨⟨⟩,_,done⟩ := bind_ok done
  cases done
  rfl

theorem attempt_kept {operation : CatalogOperation} (done : attempt records operation = .ok next') :
    next'.canon.versions = records.canon.versions ∧ next'.canon.chunks = records.canon.chunks := by
  cases operation with
  | recordDisposition findingId principal disposition reason id decidedAt =>
    obtain ⟨_,_,_,_,_,_,rfl⟩ := recordDisposition_ok done
    exact ⟨rfl,rfl⟩
  | reclassifySource sourceId principal trustClass sensitivity =>
    obtain ⟨_,_,rfl,_⟩ := reclassifySource_ok done
    exact ⟨rfl,rfl⟩
  | retireDocument documentId principal now =>
    obtain ⟨_,_,_,_,retired,rfl⟩ := retireDocument_ok done
    obtain ⟨_,rfl | ⟨_,rfl⟩⟩ := perFamily_ok retired
    · exact ⟨rfl,rfl⟩
    · exact ⟨rfl,rfl⟩
  | retireSource sourceId principal now =>
    obtain ⟨_,_,_,_,retired,rfl⟩ := retireSource_ok done
    obtain ⟨_,rfl | ⟨_,rfl⟩⟩ := perFamily_ok retired
    · exact ⟨rfl,rfl⟩
    · exact ⟨rfl,rfl⟩
  | setDefault spaceId =>
    obtain ⟨_,rfl,_⟩ := setDefault_ok done
    exact ⟨rfl,rfl⟩
  | markPrefixesVerified spaceId subject now =>
    cases markPrefixesVerified_ok done
    exact ⟨rfl,rfl⟩

end Catalog

end Acop.Knowledge
