import Acop.Guarantee.Chunking
import Acop.Knowledge.Lineage
import Acop.Knowledge.Laboratory

/-! The latest accepted content is current, except where it is that of an earlier version:
a submission is compared with the current version alone, and its hash is taken for good. -/
namespace Acop.Knowledge
open Acop.Store Acop.Serial

section Presented

variable {φ : Type} (instruments : Instruments) (submission : Submission φ) (records : Records φ)

def Submission.pieces : List Chunk := instruments.chunkDocument (submission.normalised instruments)

/-- The identifiers that a call draws are new, for so many chunks and findings. -/
structure Drawn (draws : Draws) (pieces notes : Nat) : Prop where
  attempt : ∀ row ∈ records.attempts.rows, row.id ≠ draws.attempt
  document : ∀ row ∈ records.canon.documents.rows, row.id ≠ draws.document
  version : ∀ row ∈ records.canon.versions.rows, row.id ≠ draws.version
  chunk : ∀ row ∈ records.canon.chunks.rows, ∀ place, row.id ≠ draws.chunk place
  embedding : ∀ row ∈ records.canon.embeddings.rows, ∀ place, row.id ≠ draws.embedding place
  finding : ∀ row ∈ records.findings.rows, ∀ place, row.id ≠ draws.finding place
  chunks : Set.InjOn draws.chunk (Set.Iio pieces)
  embeddings : Set.InjOn draws.embedding (Set.Iio pieces)
  findings : Set.InjOn draws.finding (Set.Iio notes)

/-- The source is active, the space is verified, the embedder answers with a vector for each chunk, no
blocking finding is unresolved, and the metadata of the call can be stored. -/
structure Presented (ties : Uuid → Nat) (storable : φ → Bool) (spaceId : Option Uuid) (source : KnowledgeSource)
    (space : EmbeddingSpace) (vectors : List (List φ)) : Prop where
  resolved : resolveSpace records spaceId = .ok space
  family : space.dimensions = d768
  valid : Valid submission records source
  clear : unresolved instruments ties submission records (screen instruments (submission.normalised instruments)) = []
  embeds : Embeds instruments submission space (submission.pieces instruments) vectors
  paired : vectors.length = (submission.pieces instruments).length
  stored : ∀ vector ∈ vectors, (vector.length : Int) = d768 ∧ vector.all storable
  attempt : ∀ check ∈ (openedAttempt instruments submission).checks, check.2 = true
  document : ∀ check ∈ (newDocument submission).checks, check.2 = true
  drawn : Drawn records submission.draws (submission.pieces instruments).length
    (advisory (screen instruments (submission.normalised instruments))).length

/-- The version follows the one before it, if there is one. -/
def Follows (version : KnowledgeDocumentVersion) : Option KnowledgeDocumentVersion → Prop
  | none => version.versionNo = 1 ∧ version.supersedesVersionId = none
  | some previous => version.versionNo = previous.versionNo + 1 ∧ version.supersedesVersionId = some previous.id

/-- The call succeeds, and leaves a current version of the submission's text: the one there was, or one that follows it. -/
def Accepts (outcome : Answer × Records φ) : Prop :=
  ∃ result version, outcome.1 = .returned result ∧ result.versionId = some version.id ∧
    currentVersion outcome.2 (findDocument submission outcome.2) = some version ∧
    version.textContentHash = submission.textHash instruments ∧
    (currentVersion records (findDocument submission records) = some version ∨
      Follows version (currentVersion records (findDocument submission records)))

def Chunk.Storable (chunk : Chunk) : Prop :=
  Json.plainText chunk.content ∧ chunk.headingPath.all Json.plainText ∧ fitsOptional 255 chunk.sectionLabel

end Presented

section Rows

variable {φ : Type} {instruments : Instruments} {ties : Uuid → Nat} {storable : φ → Bool} {contents : Set String} {records : Records φ}
  {submission : Submission φ} {space : EmbeddingSpace} {source : KnowledgeSource} {spaceId : Option Uuid}
  {vectors : List (List φ)}

theorem insert_fresh {Row Key : Type} [DecidableEq Key] {key : Row → Key} {table : Table key} (row : Row)
    (fresh : ∀ old ∈ table.rows, key old ≠ key row) : ∃ next, table.insert row = some next := by
  refine ⟨_,dif_pos ?_⟩
  intro taken
  obtain ⟨old,member,same⟩ := List.mem_map.mp taken
  exact fresh old member same

theorem nodup_mapIdx {Item Row Key : Type} {key : Row → Key} (draw : Nat → Key) {row : Nat → Item → Row} {items : List Item}
    (named : ∀ place item, key (row place item) = draw place) (distinct : Set.InjOn draw (Set.Iio items.length)) :
    ((items.mapIdx row).map key).Nodup := by
  rw [List.nodup_iff_injective_getElem]
  intro first second same
  have inside : ∀ place : Fin ((items.mapIdx row).map key).length, place.val < items.length := fun place => by simpa using place.isLt
  have equal : draw first.val = draw second.val := by simpa [named] using same
  exact Fin.ext (distinct (inside first) (inside second) equal)

variable {admitted : Admitted φ}

theorem findDocument_eq_none (none : findDocument submission records = none) {old : KnowledgeDocument}
    (member : old ∈ records.canon.documents.rows) : sameActiveRef (newDocument submission) old = false := by
  have other := List.find?_eq_none.mp none old member
  by_contra clash
  simp only [sameActiveRef,Bool.not_eq_false,Bool.and_eq_true,decide_eq_true_eq] at clash
  obtain ⟨⟨⟨source,ref⟩,_⟩,active⟩ := clash
  have source' : old.sourceId = submission.request.sourceId := source.symm
  have ref' : old.externalRef = submission.request.externalRef := ref.symm
  exact other (by simp [source',ref',active])

theorem Presented.judged (presented : Presented instruments submission records ties storable spaceId source space vectors)
    (changed : Changed instruments submission (currentVersion records (findDocument submission records))) :
    judge instruments ties submission space records = .ok {
      source
      document := findDocument submission records
      current := currentVersion records (findDocument submission records)
      report := screen instruments (submission.normalised instruments)
      chunks := submission.pieces instruments
      vectors} :=
  judge_ok.mpr ⟨presented.valid,rfl,rfl,changed,rfl,presented.clear,presented.embeds⟩

theorem Presented.drafted (presented : Presented instruments submission records ties storable spaceId source space vectors)
    (asked : admitted.document = findDocument submission records) :
    ∃ document documents, ensureDocument submission records.canon admitted.document =
      .ok (document,{records.canon with documents}) ∧ (admitted.document = some document ∨
        (admitted.document = none ∧ ∀ old ∈ records.canon.documents.rows, old.id ≠ document.id)) := by
  cases found : admitted.document with
  | some document => exact ⟨document,records.canon.documents,rfl,.inl rfl⟩
  | none =>
    obtain ⟨documents,added⟩ := insert_fresh (newDocument submission) presented.drawn.document
    have apart : ∀ old ∈ records.canon.documents.rows, sameActiveRef (newDocument submission) old = false :=
      fun old member => findDocument_eq_none (asked.symm.trans found) member
    have taken : columns ((newDocument submission).checks ++
        [(.documentSourceRef,!records.canon.documents.rows.any (sameActiveRef (newDocument submission)))]) = .ok () := by
      rw [columns_ok]
      intro check member
      rcases List.mem_append.mp member with own | clash
      · exact presented.document check own
      · cases List.mem_singleton.mp clash
        simpa using apart
    refine ⟨newDocument submission,documents,?_,.inr ⟨rfl,presented.drawn.document⟩⟩
    simp only [ensureDocument,insertDocument,taken,ok_bind,keyed_ok.mpr added]
    rfl

section Tables

variable {pieces notes : Nat} {version : KnowledgeDocumentVersion} {sourceId : Uuid} {items : List Chunk}

theorem Drawn.chunkIds (drawn : Drawn records submission.draws pieces notes) (counted : items.length = pieces) :
    ((chunkRows instruments submission version sourceId items).map KnowledgeChunk.id).Nodup :=
  nodup_mapIdx _ (fun _ _ => rfl) (counted ▸ drawn.chunks)

end Tables

end Rows

section Acceptance

variable {φ : Type} {instruments : Instruments} {ties : Uuid → Nat} {storable : φ → Bool} {contents : Set String}
  {records final : Records φ} {submission : Submission φ} {space : EmbeddingSpace} {source : KnowledgeSource}
  {spaceId : Option Uuid} {vectors : List (List φ)} {admitted : Admitted φ}

theorem Presented.opens (presented : Presented instruments submission records ties storable spaceId source space vectors) :
    ∃ attempts, openAttempt instruments submission records = .ok {records with attempts} := by
  obtain ⟨attempts,added⟩ := insert_fresh (openedAttempt instruments submission) presented.drawn.attempt
  have known : (records.sources.find submission.request.sourceId).isSome = true := by rw [presented.valid.found]; rfl
  exact ⟨attempts,openAttempt_ok.mpr ⟨presented.attempt,known,attempts,added,rfl⟩⟩

end Acceptance

section Laboratory
open Laboratory

/-- The content of the page, one chunk, under identifiers from `first` on. -/
def page (first : Nat) (content : String) : Submission Int where
  request := {sourceId := 2,externalRef := "switches.md",title := "Switches",content}
  principal := viewer
  embedder _ _ := .vectors [axis 0]
  draws := {
    attempt := BitVec.ofNat 128 first
    document := BitVec.ofNat 128 (first + 1)
    version := BitVec.ofNat 128 (first + 2)
    chunk := fun _ => BitVec.ofNat 128 (first + 3)
    embedding := fun _ => BitVec.ofNat 128 (first + 4)
    finding := fun _ => 0
    startedAt := 0
    now := 0
    finishedAt := 0}

def shelf : Records Int where
  spaces := ⟨[space],by decide⟩
  sources := ⟨[source .internalBand],by decide⟩
  canon := .empty
  attempts := .empty
  findings := .empty
  dispositions := .empty

def filed (ops : List (Operation Int)) : Records Int := after libraries BitVec.toNat (fun _ => true) shelf ops

def shelved (submissions : List (Submission Int)) : Records Int := filed (submissions.map (.submit · none))

def vlan : Submission Int := page 10 "vlan"

def trunk : Submission Int := page 20 "trunk"

end Laboratory

end Acop.Knowledge
