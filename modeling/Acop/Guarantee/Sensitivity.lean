import Acop.Knowledge.Sessions
import Acop.Knowledge.References
import Acop.Knowledge.Laboratory

/-! The sensitivity stored with a vector and that of its source, whatever ingestions and
reclassifications run side by side. They part only where an ingestion commits vectors under a
level that its source has left, or is about to leave, since the ingestion read it. -/
namespace Acop.Knowledge
open Acop.Store Acop.Serial

section Levels

variable {φ : Type}

def levelOf (sources : Table KnowledgeSource.id) (sourceId : Uuid) : Option Sensitivity :=
  (sources.find sourceId).map (·.sensitivity)

theorem levelOf_trusting (sources : Table KnowledgeSource.id) (id sourceId : Uuid) (trustClass : TrustClass) :
    levelOf (sources.update id (trusting trustClass)) sourceId = levelOf sources sourceId := by
  unfold levelOf
  rw [find_update]
  cases sources.find sourceId with
  | none => rfl
  | some source =>
    simp only [Option.map_some]
    split <;> rfl

theorem levelOf_assign (reclassification : Reclassification) (sources : Table KnowledgeSource.id) (sourceId : Uuid) :
    levelOf (reclassification.assign sources) sourceId = if sourceId = reclassification.source.id then
      (levelOf sources sourceId).map fun _ => reclassification.sensitivity else levelOf sources sourceId := by
  have classified : ∀ table : Table KnowledgeSource.id,
      levelOf (table.update reclassification.source.id (classifying reclassification.sensitivity)) sourceId =
        if sourceId = reclassification.source.id then (levelOf table sourceId).map fun _ => reclassification.sensitivity
        else levelOf table sourceId := by
    intro table
    unfold levelOf
    rw [find_update]
    cases found : table.find sourceId with
    | none => simp
    | some source =>
      have named := (Table.find_eq_some.mp found).2
      subst named
      by_cases same : source.id = reclassification.source.id
      · simp [same,classifying]
      · simp [same]
  unfold Reclassification.assign
  rw [classified]
  cases reclassification.trustClass with
  | none => rfl
  | some trustClass => simp only [levelOf_trusting]

/-- A vector's chunk is among these, and of the vector's source. -/
def Placed (chunks : List KnowledgeChunk) (embedding : KnowledgeEmbedding φ) : Prop :=
  ∃ chunk ∈ chunks, chunk.id = embedding.chunkId ∧ chunk.sourceId = embedding.sourceId

/-- Every vector has the sensitivity of its source. -/
def Labels.Agree (labels : Labels φ) : Prop :=
  ∀ embedding ∈ labels.embeddings.rows, levelOf labels.sources embedding.sourceId = some embedding.sensitivity

variable {labels : Labels φ} {sourceId : Uuid} {sensitivity : Sensitivity}

theorem stale_iff (placed : ∀ embedding ∈ labels.embeddings.rows, Placed labels.chunks.rows embedding)
    {embedding : KnowledgeEmbedding φ} (member : embedding ∈ labels.embeddings.rows) :
    labels.stale sourceId sensitivity embedding = true ↔ embedding.sourceId = sourceId ∧ embedding.sensitivity ≠ sensitivity := by
  obtain ⟨chunk,inChunks,named,ofSource⟩ := placed embedding member
  simp only [Labels.stale,embedsChunk,Bool.and_eq_true,List.any_eq_true,decide_eq_true_eq]
  apply and_congr_left'
  constructor
  · rintro ⟨other,inOther,same,ofOther⟩
    rw [Table.eq_of_key inOther inChunks (same.trans named.symm)] at ofOther
    rw [← ofSource,ofOther]
  · intro same
    exact ⟨chunk,inChunks,named,ofSource.trans same⟩

/-- The keys are of vectors of the source, and all that have another level are among them. -/
structure Covers (labels : Labels φ) (sourceId : Uuid) (sensitivity : Sensitivity) (keys : List (Uuid × Uuid)) : Prop where
  own : ∀ key ∈ keys, ∃ embedding ∈ labels.embeddings.rows, embedding.key = key ∧ embedding.sourceId = sourceId
  all : ∀ embedding ∈ labels.embeddings.rows, embedding.sourceId = sourceId → embedding.sensitivity ≠ sensitivity →
    embedding.key ∈ keys

theorem covers_keys (placed : ∀ embedding ∈ labels.embeddings.rows, Placed labels.chunks.rows embedding) :
    Covers labels sourceId sensitivity (labels.keys (labels.stale sourceId sensitivity)) where
  own := by
    intro key member
    obtain ⟨embedding,inStale,named⟩ := List.mem_map.mp member
    obtain ⟨inRows,stale⟩ := List.mem_filter.mp inStale
    exact ⟨embedding,inRows,named,((stale_iff placed inRows).mp stale).1⟩
  all := by
    intro embedding member ofSource differs
    apply List.mem_map_of_mem
    exact List.mem_filter.mpr ⟨member,(stale_iff placed member).mpr ⟨ofSource,differs⟩⟩

theorem Covers.sourceId_eq {keys : List (Uuid × Uuid)} (covers : Covers labels sourceId sensitivity keys)
    {embedding : KnowledgeEmbedding φ} (member : embedding ∈ labels.embeddings.rows) (chosen : embedding.key ∈ keys) :
    embedding.sourceId = sourceId := by
  obtain ⟨other,inOther,same,ofSource⟩ := covers.own _ chosen
  rw [← Table.eq_of_key inOther member same]
  exact ofSource

end Levels

section Sound

variable {φ : Type}

/-- What a transaction in progress can rely on: an ingestion's vectors are of the source as it read
it, and a reclassification that has selected its vectors has selected all that need it. -/
def Session.Sound (labels : Labels φ) : Session φ → Prop
  | .idle => True
  | .ingest ingestion => ∀ embedding ∈ ingestion.embeddings, embedding.sourceId = ingestion.source.id ∧
      embedding.sensitivity = ingestion.source.sensitivity ∧ Placed ingestion.chunks embedding
  | .reclassify reclassification (.selected keys) =>
    Covers labels reclassification.source.id reclassification.sensitivity keys
  | .reclassify _ _ => True

/-- The invariant of the sessions and of what is committed. -/
structure Consistent (state : Concurrent φ) : Prop where
  agree : state.labels.Agree
  placed : ∀ embedding ∈ state.labels.embeddings.rows, Placed state.labels.chunks.rows embedding
  sound : ∀ session ∈ state.sessions, session.Sound state.labels
  exclusive : ∀ (first second : Nat) (one other : Session φ) (sourceId : Uuid), state.sessions[first]? = some one →
    state.sessions[second]? = some other → one.locks = some sourceId → other.locks = some sourceId → first = second

/-- An ingestion that commits vectors has the level that its source has now, and that a
reclassification which has selected its vectors already is to give it. -/
def Timely (state : Concurrent φ) (op : Nat × Turn φ) : Prop :=
  ∀ ingestion, state.sessions[op.1]? = some (.ingest ingestion) → op.2 = .commit → ingestion.embeddings ≠ [] →
    levelOf state.labels.sources ingestion.source.id = some ingestion.source.sensitivity ∧
      ∀ reclassification keys, .reclassify reclassification (.selected keys) ∈ state.sessions →
        reclassification.source.id = ingestion.source.id → reclassification.sensitivity = ingestion.source.sensitivity

theorem sound_persist {instruments : Instruments} {labels : Labels φ} {ingestion : Ingestion φ} {submission : Submission φ}
    {space : EmbeddingSpace} {version : KnowledgeDocumentVersion} {chunks : List Chunk} {vectors : List (List φ)} :
    Session.Sound labels (.ingest {ingestion with
      chunks := chunkRows instruments submission version ingestion.source.id chunks
      embeddings := embeddingRows submission space ingestion.source
        (chunkRows instruments submission version ingestion.source.id chunks) vectors}) := by
  intro embedding member
  obtain ⟨place,row,vector,inRows,_,rfl⟩ := mem_embeddingRows member
  refine ⟨rfl,rfl,row,inRows,rfl,?_⟩
  obtain ⟨place,inside,rfl⟩ := List.mem_mapIdx.mp inRows
  rfl

section Commit

variable {labels later : Labels φ} {ingestion : Ingestion φ}

theorem commitIngest_some (done : labels.commitIngest ingestion = some later) :
    later.sources = labels.sources ∧ labels.chunks.insertAll ingestion.chunks = some later.chunks ∧
      (labels.embeddings.revise (·.key ∈ ingestion.vacated) unretrievable).insertAll ingestion.embeddings =
        some later.embeddings := by
  unfold Labels.commitIngest at done
  obtain ⟨chunks,inserted,done⟩ := Option.bind_eq_some_iff.mp done
  obtain ⟨embeddings,embedded,done⟩ := Option.bind_eq_some_iff.mp done
  cases done
  exact ⟨rfl,inserted,embedded⟩

/-- The label of a vector: what it is found by, and its sensitivity. -/
def KnowledgeEmbedding.label (embedding : KnowledgeEmbedding φ) : (Uuid × Uuid) × Uuid × Uuid × Sensitivity :=
  (embedding.key,embedding.chunkId,embedding.sourceId,embedding.sensitivity)

theorem label_eq {first second : KnowledgeEmbedding φ} (same : first.label = second.label) :
    first.key = second.key ∧ first.chunkId = second.chunkId ∧ first.sourceId = second.sourceId ∧
      first.sensitivity = second.sensitivity := by
  simpa [KnowledgeEmbedding.label] using same

/-- A vector behind a commit of an ingestion was there before, under the same label, or is one of its own. -/
theorem mem_commitIngest (done : labels.commitIngest ingestion = some later) {embedding : KnowledgeEmbedding φ}
    (member : embedding ∈ later.embeddings.rows) :
    (∃ old ∈ labels.embeddings.rows, old.label = embedding.label) ∨ embedding ∈ ingestion.embeddings := by
  obtain ⟨_,_,embedded⟩ := commitIngest_some done
  rcases (Table.mem_insertAll embedded).mp member with inOld | new
  · obtain ⟨old,inRows,⟨_,rfl⟩ | ⟨_,rfl⟩⟩ := Table.mem_revise.mp inOld
    · exact .inl ⟨old,inRows,rfl⟩
    · exact .inl ⟨embedding,inRows,rfl⟩
  · exact .inr new

theorem commitIngest_keeps (done : labels.commitIngest ingestion = some later) {old : KnowledgeEmbedding φ}
    (member : old ∈ labels.embeddings.rows) : ∃ embedding ∈ later.embeddings.rows, embedding.label = old.label := by
  obtain ⟨_,_,embedded⟩ := commitIngest_some done
  by_cases chosen : old.key ∈ ingestion.vacated
  · exact ⟨_,(Table.mem_insertAll embedded).mpr (.inl (Table.change_mem_revise member (decide_eq_true chosen))),rfl⟩
  · exact ⟨old,(Table.mem_insertAll embedded).mpr (.inl (Table.mem_revise_of_not member (by simpa using chosen))),rfl⟩

end Commit

section Reclassify

variable {labels : Labels φ} {reclassification : Reclassification} {keys : List (Uuid × Uuid)}

theorem mem_commitReclassify {embedding : KnowledgeEmbedding φ} :
    embedding ∈ (labels.commitReclassify reclassification keys).embeddings.rows ↔ ∃ old ∈ labels.embeddings.rows,
      (old.key ∈ keys ∧ embedding = {old with sensitivity := reclassification.sensitivity}) ∨
        (old.key ∉ keys ∧ embedding = old) := by
  simp only [Labels.commitReclassify,Table.mem_revise,decide_eq_true_eq]
  rfl

theorem agree_commitReclassify (agree : labels.Agree)
    (covers : Covers labels reclassification.source.id reclassification.sensitivity keys) :
    (labels.commitReclassify reclassification keys).Agree := by
  intro embedding member
  have sources : (labels.commitReclassify reclassification keys).sources = reclassification.assign labels.sources := rfl
  rw [sources,levelOf_assign]
  obtain ⟨old,inRows,⟨chosen,rfl⟩ | ⟨passed,rfl⟩⟩ := mem_commitReclassify.mp member
  · have ofSource : old.sourceId = reclassification.source.id := covers.sourceId_eq inRows chosen
    have level := agree old inRows
    rw [ofSource] at level
    simp [ofSource,level]
  · by_cases ofSource : embedding.sourceId = reclassification.source.id
    · have same : embedding.sensitivity = reclassification.sensitivity := by
        by_contra differs
        exact passed (covers.all embedding inRows ofSource differs)
      rw [if_pos ofSource,agree embedding inRows,same]
      rfl
    · rw [if_neg ofSource]
      exact agree embedding inRows

theorem covers_commitReclassify (covers : Covers labels reclassification.source.id reclassification.sensitivity keys)
    {sourceId : Uuid} {sensitivity : Sensitivity} {others : List (Uuid × Uuid)} (apart : sourceId ≠ reclassification.source.id)
    (selected : Covers labels sourceId sensitivity others) :
    Covers (labels.commitReclassify reclassification keys) sourceId sensitivity others := by
  constructor
  · intro key member
    obtain ⟨embedding,inRows,named,ofSource⟩ := selected.own key member
    refine ⟨embedding,mem_commitReclassify.mpr ⟨embedding,inRows,.inr ⟨?_,rfl⟩⟩,named,ofSource⟩
    intro chosen
    exact apart (ofSource.symm.trans (covers.sourceId_eq inRows chosen))
  · intro embedding member ofSource differs
    obtain ⟨old,inRows,⟨chosen,changed⟩ | ⟨_,rfl⟩⟩ := mem_commitReclassify.mp member
    · have ofOld : old.sourceId = sourceId := by rw [← ofSource,changed]
      exact absurd (ofOld.symm.trans (covers.sourceId_eq inRows chosen)) apart
    · exact selected.all embedding inRows ofSource differs

end Reclassify

end Sound

section Step

variable {φ : Type} {instruments : Instruments} {state : Concurrent φ}

theorem perform_cases (placed : ∀ embedding ∈ state.labels.embeddings.rows, Placed state.labels.chunks.rows embedding)
    {session later : Session φ} (sound : session.Sound state.labels) {turn : Turn φ} {labels : Labels φ}
    (done : state.perform instruments session turn = some (labels,later)) :
    (labels = state.labels ∧ later.Sound labels ∧ ∀ id, later.locks = some id →
        session.locks = some id ∨ ∀ other ∈ state.sessions, other.locks ≠ some id) ∨
      (∃ ingestion, session = .ingest ingestion ∧ turn = .commit ∧ state.labels.commitIngest ingestion = some labels ∧
        later = .idle) ∨
      ∃ reclassification keys, session = .reclassify reclassification (.selected keys) ∧
        labels = state.labels.commitReclassify reclassification keys ∧ later = .idle := by
  unfold Concurrent.perform at done
  split at done
  · -- The source is read for an ingestion.
    obtain ⟨source,_,done⟩ := Option.bind_eq_some_iff.mp done
    split at done
    · cases done
    · cases done
      refine .inl ⟨rfl,?_,fun id held => by cases held⟩
      intro embedding none
      cases none
  · cases done
    exact .inl ⟨rfl,sound,fun id held => by cases held⟩
  · cases done
    exact .inl ⟨rfl,sound_persist,fun id held => by cases held⟩
  · rename_i ingestion
    obtain ⟨after,committed,done⟩ := Option.bind_eq_some_iff.mp done
    cases done
    exact .inr (.inl ⟨ingestion,rfl,rfl,committed,rfl⟩)
  · obtain ⟨source,_,done⟩ := Option.bind_eq_some_iff.mp done
    split at done
    · cases done
    · cases done
      exact .inl ⟨rfl,trivial,fun id held => by cases held⟩
  · -- The row of the source is locked only when no other session holds it.
    split at done
    · cases done
    · rename_i free
      cases done
      refine .inl ⟨rfl,trivial,fun id held => .inr fun other member same => free ?_⟩
      cases held
      exact List.any_eq_true.mpr ⟨other,member,decide_eq_true same⟩
  · cases done
    exact .inl ⟨rfl,covers_keys placed,fun id held => .inl held⟩
  · rename_i reclassification keys
    cases done
    exact .inr (.inr ⟨reclassification,keys,rfl,rfl,rfl⟩)
  · cases done
    exact .inl ⟨rfl,trivial,fun id held => by cases held⟩
  · cases done

theorem at_set {sessions : List (Session φ)} {who place : Nat} {session later : Session φ}
    (found : (sessions.set who later)[place]? = some session) :
    (place = who ∧ session = later) ∨ (place ≠ who ∧ sessions[place]? = some session) := by
  rw [List.getElem?_set] at found
  split at found
  · rename_i same
    split at found
    · exact .inl ⟨same.symm,(Option.some.inj found).symm⟩
    · cases found
  · rename_i other
    exact .inr ⟨fun same => other same.symm,found⟩

theorem Consistent.advance (consistent : Consistent state) {who : Nat} {session later : Session φ} {labels : Labels φ}
    (here : state.sessions[who]? = some session) (agree : labels.Agree)
    (placed : ∀ embedding ∈ labels.embeddings.rows, Placed labels.chunks.rows embedding) (sound : later.Sound labels)
    (others : ∀ place other, place ≠ who → state.sessions[place]? = some other → other.Sound labels)
    (locks : ∀ id, later.locks = some id → session.locks = some id ∨ ∀ other ∈ state.sessions, other.locks ≠ some id) :
    Consistent ⟨labels,state.sessions.set who later⟩ := by
  refine ⟨agree,placed,?_,?_⟩
  · intro other member
    obtain ⟨place,found⟩ := List.getElem?_of_mem member
    rcases at_set found with ⟨_,rfl⟩ | ⟨elsewhere,found⟩
    · exact sound
    · exact others place other elsewhere found
  · -- A lock of the session that goes on is its own, or was free.
    have alone : ∀ place other id, state.sessions[place]? = some other → later.locks = some id → other.locks = some id →
        who = place := by
      intro place other id found held same
      rcases locks id held with own | free
      · exact consistent.exclusive who place session other id here found own same
      · exact absurd same (free other (List.mem_of_getElem? found))
    intro first second one other id foundFirst foundSecond held same
    rcases at_set foundFirst with ⟨isWho,rfl⟩ | ⟨_,earlier⟩
    · rcases at_set foundSecond with ⟨alsoWho,_⟩ | ⟨_,elsewhere⟩
      · exact isWho.trans alsoWho.symm
      · exact isWho.trans (alone second other id elsewhere held same)
    · rcases at_set foundSecond with ⟨isWho,rfl⟩ | ⟨_,elsewhere⟩
      · exact ((alone first one id earlier same held).symm).trans isWho.symm
      · exact consistent.exclusive first second one other id earlier elsewhere held same

section Ingested

variable {who : Nat} {ingestion : Ingestion φ} {labels : Labels φ}

theorem agree_commitIngest (consistent : Consistent state) (here : state.sessions[who]? = some (.ingest ingestion))
    (timely : Timely state (who,.commit)) (done : state.labels.commitIngest ingestion = some labels) : labels.Agree := by
  intro embedding member
  rw [(commitIngest_some done).1]
  rcases mem_commitIngest done member with ⟨old,inRows,same⟩ | new
  · obtain ⟨_,_,sameSource,sameLevel⟩ := label_eq same
    rw [← sameSource,← sameLevel]
    exact consistent.agree old inRows
  · obtain ⟨ofRead,level,_⟩ := consistent.sound _ (List.mem_of_getElem? here) embedding new
    rw [ofRead,level]
    exact (timely ingestion here rfl (List.ne_nil_of_mem new)).1

theorem placed_commitIngest (consistent : Consistent state) (here : state.sessions[who]? = some (.ingest ingestion))
    (done : state.labels.commitIngest ingestion = some labels) :
    ∀ embedding ∈ labels.embeddings.rows, Placed labels.chunks.rows embedding := by
  obtain ⟨_,chunks,_⟩ := commitIngest_some done
  intro embedding member
  rcases mem_commitIngest done member with ⟨old,inRows,same⟩ | new
  · obtain ⟨_,sameChunk,sameSource,_⟩ := label_eq same
    obtain ⟨chunk,inChunks,named,ofSource⟩ := consistent.placed old inRows
    exact ⟨chunk,(Table.mem_insertAll chunks).mpr (.inl inChunks),named.trans sameChunk,ofSource.trans sameSource⟩
  · obtain ⟨_,_,chunk,inChunks,named,ofSource⟩ := consistent.sound _ (List.mem_of_getElem? here) embedding new
    exact ⟨chunk,(Table.mem_insertAll chunks).mpr (.inr inChunks),named,ofSource⟩

theorem covers_commitIngest (consistent : Consistent state) (here : state.sessions[who]? = some (.ingest ingestion))
    (timely : Timely state (who,.commit)) (done : state.labels.commitIngest ingestion = some labels)
    {reclassification : Reclassification} {keys : List (Uuid × Uuid)}
    (running : .reclassify reclassification (.selected keys) ∈ state.sessions) :
    Covers labels reclassification.source.id reclassification.sensitivity keys := by
  have covers : Covers state.labels reclassification.source.id reclassification.sensitivity keys :=
    consistent.sound _ running
  constructor
  · intro key member
    obtain ⟨old,inRows,named,ofSource⟩ := covers.own key member
    obtain ⟨embedding,inLater,same⟩ := commitIngest_keeps done inRows
    obtain ⟨sameKey,_,sameSource,_⟩ := label_eq same
    exact ⟨embedding,inLater,sameKey.trans named,sameSource.trans ofSource⟩
  · intro embedding member ofSource differs
    rcases mem_commitIngest done member with ⟨old,inRows,same⟩ | new
    · obtain ⟨sameKey,_,sameSource,sameLevel⟩ := label_eq same
      rw [← sameKey]
      apply covers.all old inRows (sameSource.trans ofSource)
      rw [sameLevel]
      exact differs
    · obtain ⟨ofRead,level,_⟩ := consistent.sound _ (List.mem_of_getElem? here) embedding new
      have pending := (timely ingestion here rfl (List.ne_nil_of_mem new)).2 reclassification keys running
        (ofSource.symm.trans ofRead)
      exact absurd (level.trans pending.symm) differs

theorem consistent_commitIngest (consistent : Consistent state) (here : state.sessions[who]? = some (.ingest ingestion))
    (timely : Timely state (who,.commit)) (done : state.labels.commitIngest ingestion = some labels) :
    Consistent ⟨labels,state.sessions.set who .idle⟩ := by
  have others : ∀ place other, place ≠ who → state.sessions[place]? = some other → other.Sound labels := by
    intro place other _ found
    have member := List.mem_of_getElem? found
    match other,member with
    | .idle,_ => trivial
    | .ingest _,member => exact consistent.sound _ member
    | .reclassify _ .read,_ => trivial
    | .reclassify _ .updated,_ => trivial
    | .reclassify _ (.selected _),member => exact covers_commitIngest consistent here timely done member
  have idle : (Session.idle : Session φ).Sound labels := trivial
  apply consistent.advance here (agree_commitIngest consistent here timely done) (placed_commitIngest consistent here done)
    idle others
  intro id held
  cases held

end Ingested

theorem consistent_commitReclassify (consistent : Consistent state) {who : Nat} {reclassification : Reclassification}
    {keys : List (Uuid × Uuid)} (here : state.sessions[who]? = some (.reclassify reclassification (.selected keys))) :
    Consistent ⟨state.labels.commitReclassify reclassification keys,state.sessions.set who .idle⟩ := by
  have covers : Covers state.labels reclassification.source.id reclassification.sensitivity keys :=
    consistent.sound _ (List.mem_of_getElem? here)
  have placed : ∀ embedding ∈ (state.labels.commitReclassify reclassification keys).embeddings.rows,
      Placed state.labels.chunks.rows embedding := by
    intro embedding member
    obtain ⟨old,inRows,⟨_,rfl⟩ | ⟨_,rfl⟩⟩ := mem_commitReclassify.mp member
    · exact consistent.placed old inRows
    · exact consistent.placed embedding inRows
  have others : ∀ place other, place ≠ who → state.sessions[place]? = some other →
      other.Sound (state.labels.commitReclassify reclassification keys) := by
    intro place other elsewhere found
    have sound := consistent.sound other (List.mem_of_getElem? found)
    match other,sound,found with
    | .idle,_,_ => trivial
    | .ingest _,sound,_ => exact sound
    | .reclassify _ .read,_,_ => trivial
    | .reclassify _ .updated,_,_ => trivial
    | .reclassify second (.selected others),sound,found =>
      apply covers_commitReclassify covers _ sound
      -- Two sessions never hold the lock of one source.
      intro same
      apply elsewhere
      exact consistent.exclusive place who _ _ second.source.id found here rfl (congrArg some same.symm)
  have idle : (Session.idle : Session φ).Sound (state.labels.commitReclassify reclassification keys) := trivial
  apply consistent.advance here (agree_commitReclassify consistent.agree covers) placed idle others
  intro id held
  cases held

/-- The step lemma. -/
theorem next_consistent (op : Nat × Turn φ) (timely : Timely state op) (consistent : Consistent state) :
    Consistent (state.next instruments op) := by
  unfold Concurrent.next
  cases stepped : state.step instruments op with
  | none => exact consistent
  | some later =>
    obtain ⟨session,here,done⟩ := Option.bind_eq_some_iff.mp stepped
    obtain ⟨⟨labels,after⟩,performed,done⟩ := Option.bind_eq_some_iff.mp done
    cases done
    have sound := consistent.sound session (List.mem_of_getElem? here)
    obtain ⟨who,turn⟩ := op
    rcases perform_cases consistent.placed sound performed with
      ⟨rfl,kept,locks⟩ | ⟨ingestion,rfl,rfl,committed,rfl⟩ | ⟨reclassification,keys,rfl,rfl,rfl⟩
    · apply consistent.advance here consistent.agree consistent.placed kept _ locks
      intro place other _ found
      exact consistent.sound other (List.mem_of_getElem? found)
    · exact consistent_commitIngest consistent here timely committed
    · exact consistent_commitReclassify consistent here

theorem consistent_of_quiescent (quiescent : state.Quiescent) (agree : state.labels.Agree)
    (placed : ∀ embedding ∈ state.labels.embeddings.rows, Placed state.labels.chunks.rows embedding) : Consistent state := by
  refine ⟨agree,placed,?_,?_⟩
  · intro session member
    rw [quiescent session member]
    trivial
  · intro first second one other id found _ held
    rw [quiescent one (List.mem_of_getElem? found)] at held
    cases held

end Step

/-- From a state with nothing in progress, in which every vector has its source's sensitivity,
every run whose ingestions commit in time keeps it so in every state that it reaches. -/
theorem sensitivity_follows {φ : Type} (instruments : Instruments) (start : Concurrent φ) (quiescent : start.Quiescent)
    (agree : start.labels.Agree)
    (placed : ∀ embedding ∈ start.labels.embeddings.rows, Placed start.labels.chunks.rows embedding)
    (ops : List (Nat × Turn φ)) (timely : Along (Concurrent.next instruments) Timely start ops) (before : List (Nat × Turn φ))
    (reached : before <+: ops) : (run (Concurrent.next instruments) start before).labels.Agree := by
  obtain ⟨rest,rfl⟩ := reached
  have early := (along_append.mp timely).1
  have consistent := consistent_of_quiescent quiescent agree placed
  exact (run_preserves (fun _ op timely consistent => next_consistent op timely consistent) early consistent).agree

section Alone

variable {φ : Type} {instruments : Instruments} {records : Records φ}

theorem revise_keys (labels : Labels φ) (which : KnowledgeEmbedding φ → Bool) (revision : Revision (@KnowledgeEmbedding.key φ)) :
    labels.embeddings.revise (·.key ∈ labels.keys which) revision = labels.embeddings.revise which revision := by
  have same : (labels.embeddings.revise (·.key ∈ labels.keys which) revision).rows =
      (labels.embeddings.revise which revision).rows := by
    rw [Table.rows_revise,Table.rows_revise]
    apply List.map_congr_left
    intro embedding member
    have chosen : embedding.key ∈ labels.keys which ↔ which embedding = true := by
      constructor
      · intro listed
        obtain ⟨other,kept,named⟩ := List.mem_map.mp listed
        obtain ⟨inRows,qualifies⟩ := List.mem_filter.mp kept
        rwa [Table.eq_of_key member inRows named.symm]
      · exact fun qualifies => List.mem_map_of_mem (List.mem_filter.mpr ⟨member,qualifies⟩)
    simp only [chosen,decide_eq_true_eq]
  exact table_ext same

/-- A reclassification that runs alone is `reclassify_source`. -/
theorem reclassify_alone {sourceId : Uuid} {principal : Principal} {trustClass : Option TrustClass} {sensitivity : Sensitivity}
    {later : Records φ} {source : KnowledgeSource} (found : records.sources.find sourceId = some source)
    (changes : source.sensitivity ≠ sensitivity) (spaces : records.spaces.rows ≠ [])
    (done : reclassifySource records sourceId principal trustClass (some sensitivity) = .ok later) :
    run (Concurrent.next instruments) ⟨records.labels,[.idle]⟩ [(0,.readForReclassify sourceId trustClass sensitivity),
      (0,.updateSource),(0,.resync),(0,.commit)] = ⟨later.labels,[.idle]⟩ := by
  have named := (Table.find_eq_some.mp found).2
  subst named
  have ran : run (Concurrent.next instruments) ⟨records.labels,[.idle]⟩
      [(0,.readForReclassify source.id trustClass sensitivity),(0,.updateSource),(0,.resync),(0,.commit)] =
        ⟨records.labels.commitReclassify ⟨source,trustClass,sensitivity⟩
          (records.labels.keys (records.labels.stale source.id sensitivity)),[.idle]⟩ := by
    simp [Concurrent.next,Concurrent.step,Concurrent.perform,Session.locks,Records.labels,found,changes]
  rw [ran]
  obtain ⟨_,done⟩ := ok_of_guard done
  obtain ⟨other,got,done⟩ := bind_ok done
  have same : other = source := by
    unfold getSource at got
    rw [found] at got
    exact (Except.ok.inj got).symm
  subst same
  obtain ⟨trusted,assigned,done⟩ := bind_ok done
  unfold assignSensitivity at done
  dsimp only at done
  rw [if_neg changes] at done
  obtain ⟨canon,resynced,done⟩ := bind_ok done
  cases done
  have selected := revise_keys records.labels (records.labels.stale other.id sensitivity) (resyncing sensitivity)
  unfold Labels.commitReclassify
  rw [selected]
  cases trustClass with
  | none =>
    cases assigned
    rcases (perFamily_ok resynced).2 with rfl | ⟨none,_⟩
    · rfl
    · exact absurd none spaces
  | some trustClass =>
    obtain ⟨_,_,assigned⟩ := bind_ok assigned
    cases assigned
    rcases (perFamily_ok resynced).2 with rfl | ⟨none,_⟩
    · rfl
    · exact absurd none spaces

def ingestTurns (submission : Submission φ) (space : EmbeddingSpace) (admitted : Admitted φ)
    (version : KnowledgeDocumentVersion) : List (Nat × Turn φ) :=
  [(0,.readForIngest admitted.source.id)] ++
    (match admitted.current with
      | some current => [(0,.retireEmbeddings current.id)]
      | none => []) ++
    [(0,.persist submission space version admitted.chunks admitted.vectors),(0,.commit)]

/-- An ingestion that runs alone commits what `_persist` does. -/
theorem ingest_alone {submission : Submission φ} {space : EmbeddingSpace} {storable : φ → Bool} {admitted : Admitted φ}
    (found : records.sources.find admitted.source.id = some admitted.source) (active : admitted.source.lifecycleState = .active)
    (persisted : Persisted instruments submission space storable records admitted) :
    run (Concurrent.next instruments) ⟨records.labels,[.idle]⟩ (ingestTurns submission space admitted persisted.version) =
      ⟨persisted.store.labels,[.idle]⟩ := by
  have rows := persisted.rows_eq
  have committed : ∀ vacated, records.labels.embeddings.revise (·.key ∈ vacated) unretrievable =
      vacatedVectors records.canon admitted.current →
      records.labels.commitIngest ⟨admitted.source,vacated,persisted.rows,
        embeddingRows submission space admitted.source persisted.rows admitted.vectors⟩ = some persisted.store.labels := by
    intro vacated same
    simp only [Labels.commitIngest,same,persisted.embedded]
    have chunked : records.labels.chunks.insertAll persisted.rows = some persisted.chunks := persisted.chunked
    rw [chunked]
    rfl
  unfold ingestTurns
  cases held : admitted.current with
  | none =>
    have unvacated : records.labels.embeddings.revise (·.key ∈ []) unretrievable =
        vacatedVectors records.canon admitted.current := by
      rw [held]
      apply table_ext
      simp [Table.rows_revise,vacatedVectors,Records.labels]
    have done := committed [] unvacated
    rw [rows] at done
    simp [Concurrent.next,Concurrent.step,Concurrent.perform,Records.labels,found,active] at done ⊢
    rw [done]
    rfl
  | some current =>
    have vacated : records.labels.embeddings.revise
        (·.key ∈ records.labels.keys (embedsChunk records.labels.chunks (·.versionId = current.id))) unretrievable =
          vacatedVectors records.canon admitted.current := by
      rw [held]
      exact revise_keys records.labels _ unretrievable
    have done := committed _ vacated
    rw [rows] at done
    simp [Concurrent.next,Concurrent.step,Concurrent.perform,Records.labels,found,active] at done ⊢
    rw [done]
    rfl

end Alone

section Laboratory
open Laboratory

def labSubmission : Submission Int where
  request := {sourceId := 2,externalRef := "switches.md",title := "Switches",content := "vlan"}
  principal := viewer
  embedder _ _ := .vectors [axis 0]
  draws := {
    attempt := 5
    document := 3
    version := 4
    chunk := fun place => BitVec.ofNat 128 (10 + place)
    embedding := fun place => BitVec.ofNat 128 (20 + place)
    finding := fun place => BitVec.ofNat 128 (30 + place)
    startedAt := 0
    now := 0
    finishedAt := 0}

def labPiece : Chunk where
  ordinal := 0
  content := "vlan"
  charStart := 0
  charEnd := 4
  tokenEstimate := 1
  headingPath := []

theorem one_source : ([source .internalBand].map KnowledgeSource.id).Nodup := by decide

def labStart : Concurrent Int where
  labels := ⟨⟨[source .internalBand],one_source⟩,⟨[],by decide⟩,⟨[],by decide⟩⟩
  sessions := [.idle,.idle]

def labPersist : Turn Int := .persist labSubmission space version [labPiece] [axis 0]

/-- The source is reclassified between an ingestion's read of it and its commit. -/
def labOverlap : List (Nat × Turn Int) :=
  [(0,.readForIngest 2),(1,.readForReclassify 2 none .confidentialBand),(1,.updateSource),(1,.resync),(1,.commit),
    (0,labPersist),(0,.commit)]

/-- Nothing is in progress any more, and the vector of a confidential source is labelled internal. -/
theorem reclassification_overtaken : labStart.Quiescent ∧ labStart.labels.Agree ∧
    (run (Concurrent.next libraries) labStart labOverlap).Quiescent ∧
    ¬ (run (Concurrent.next libraries) labStart labOverlap).labels.Agree := by
  have ended : (run (Concurrent.next libraries) labStart labOverlap).sessions = [.idle,.idle] := rfl
  refine ⟨by simp [Concurrent.Quiescent,labStart],fun _ none => absurd none List.not_mem_nil,?_,?_⟩
  · intro session member
    rw [ended] at member
    simpa using member
  · intro agree
    have level := agree _ (.head _)
    exact absurd level (by decide +kernel)

/-- The same turns, with the ingestion at an end before the vectors are selected. -/
def labInTime : List (Nat × Turn Int) :=
  [(0,.readForIngest 2),(1,.readForReclassify 2 none .confidentialBand),(1,.updateSource),(0,labPersist),(0,.commit),
    (1,.resync),(1,.commit)]

theorem sensitivity_follows_lab : (run (Concurrent.next libraries) labStart labInTime).labels.Agree := by
  have quiescent : labStart.Quiescent := by simp [Concurrent.Quiescent,labStart]
  have agree : labStart.labels.Agree := fun _ none => absurd none List.not_mem_nil
  have timely : Along (Concurrent.next libraries) Timely labStart labInTime := by
    refine ⟨?_,?_,?_,?_,?_,?_,?_,trivial⟩
    case refine_5 =>
      intro ingestion here _ _
      cases here
      refine ⟨by decide +kernel,fun reclassification keys member => ?_⟩
      rcases List.mem_cons.mp member with same | rest
      · cases same
      · rcases List.mem_cons.mp rest with same | none
        · cases same
        · cases none
    all_goals
      intro ingestion here turn
      first
        | cases here; done
        | cases turn
  exact sensitivity_follows libraries labStart quiescent agree (fun _ none => absurd none List.not_mem_nil) labInTime
    timely labInTime (List.prefix_refl _)

end Laboratory

end Acop.Knowledge
