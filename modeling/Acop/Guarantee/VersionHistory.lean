import Acop.Guarantee.LiveCorpus

/-! The versions of a document: numbered from one, each in the place of the one before it, which was closed
as the later one was ingested, and the last is the one that the document points to. -/
namespace Acop.Knowledge
open Acop.Store Acop.Serial

section Succession

structure Succeeds (old new : KnowledgeDocumentVersion) : Prop where
  number : new.versionNo = old.versionNo + 1
  supersedes : new.supersedesVersionId = some old.id
  closed : old.supersededAt = some new.ingestedAt

/-- The versions of a document in the order they were stored, with what the document points to. -/
structure Succession (pointer : Option Uuid) (versions : List KnowledgeDocumentVersion) : Prop where
  first : ∀ version ∈ versions.head?, version.versionNo = 1 ∧ version.supersedesVersionId = none
  chain : versions.IsChain Succeeds
  latest : ∀ version ∈ versions.getLast?, version.supersededAt = none
  current : pointer = versions.getLast?.map (·.id)

variable {pointer : Option Uuid} {versions : List KnowledgeDocumentVersion} {version : KnowledgeDocumentVersion}

theorem succession_single (number : version.versionNo = 1) (supersedes : version.supersedesVersionId = none)
    (opened : version.supersededAt = none) : Succession (some version.id) [version] where
  first := by
    rintro _ ⟨⟩
    exact ⟨number,supersedes⟩
  chain := .singleton version
  latest := by
    rintro _ ⟨⟩
    exact opened
  current := rfl

theorem Succession.succeed {now : Time} {current : KnowledgeDocumentVersion}
    (succession : Succession pointer (versions ++ [current])) (number : version.versionNo = current.versionNo + 1)
    (supersedes : version.supersedesVersionId = some current.id) (ingested : version.ingestedAt = now)
    (opened : version.supersededAt = none) :
    Succession (some version.id) (versions ++ [(superseding now).change current] ++ [version]) := by
  have closes : Succeeds ((superseding now).change current) version := ⟨number,supersedes,congrArg some ingested.symm⟩
  have closed : (versions ++ [(superseding now).change current]).IsChain Succeeds := by
    obtain ⟨front,_,joint⟩ := List.isChain_append.mp succession.chain
    refine List.isChain_append.mpr ⟨front,.singleton _,?_⟩
    rintro before last _ ⟨⟩
    have link := joint before last current rfl
    exact ⟨link.number,link.supersedes,link.closed⟩
  constructor
  · intro first head
    cases versions with
    | nil =>
      cases head
      exact succession.first current rfl
    | cons other rest => exact succession.first first head
  · refine List.isChain_append.mpr ⟨closed,.singleton _,?_⟩
    rintro before last _ ⟨⟩
    rw [List.getLast?_concat] at last
    cases last
    exact closes
  · intro last found
    rw [List.getLast?_concat] at found
    cases found
    exact opened
  · rw [List.getLast?_concat]
    rfl

end Succession

section Versions

variable {φ : Type} {canon : Canon φ} {documentId : Uuid}

theorem versionsOf_superseded {versions next' : Table KnowledgeDocumentVersion.id} {version : KnowledgeDocumentVersion} {now : Time}
    {current : Option KnowledgeDocumentVersion} (added : versions.insert version = some next')
    (fresh : ∀ previous ∈ current, previous ∈ versions.rows) :
    ((supersededVersions next' now current).rows.filter (·.documentId = documentId)) =
      ((versions.rows.filter (·.documentId = documentId)).map fun row =>
        if current.any (fun previous => row.id = previous.id) then (superseding now).change row else row) ++
        [version].filter (·.documentId = documentId) := by
  obtain ⟨apart,rows⟩ := Table.insert_eq_some added
  cases current with
  | none =>
    have kept : (fun row : KnowledgeDocumentVersion =>
        if (none : Option KnowledgeDocumentVersion).any (fun previous => row.id = previous.id) then (superseding now).change row
        else row) = id := rfl
    rw [kept,List.map_id,← List.filter_append,← rows]
    rfl
  | some previous =>
    have other : version.id ≠ previous.id := (apart previous (fresh previous rfl)).symm
    have stays : (if decide (version.id = previous.id) then (superseding now).change version else version) = version :=
      if_neg (by simpa using other)
    rw [supersededVersions,Table.update,Table.rows_revise,rows,List.map_append,List.map_singleton,stays,List.filter_append,
      List.filter_map]
    congr 3
    funext row
    simp only [Function.comp]
    split <;> rfl

theorem map_others {versions : List KnowledgeDocumentVersion} {now : Time} {current : Option KnowledgeDocumentVersion}
    (others : ∀ row ∈ versions, ∀ previous ∈ current, row.id ≠ previous.id) :
    (versions.map fun row => if current.any (fun previous => row.id = previous.id) then (superseding now).change row else row) =
      versions := by
  refine (List.map_congr_left fun row member => if_neg ?_).trans (List.map_id versions)
  intro taken
  obtain ⟨previous,before,same⟩ := (Option.any_eq_true _ _).mp taken
  exact others row member previous before (of_decide_eq_true same)

end Versions

section Historied

variable {φ : Type}

/-- Every version is of a document, whose versions succeed one another up to its current one. -/
structure Successions (records : Records φ) : Prop where
  owned : ∀ version ∈ records.canon.versions.rows, ∃ document ∈ records.canon.documents.rows, document.id = version.documentId
  succession : ∀ document ∈ records.canon.documents.rows,
    Succession document.currentVersionId (versionsOf records.canon document.id)

structure Historied (records : Records φ) : Prop where
  intact : Intact records
  succession : ∀ document ∈ records.canon.documents.rows,
    Succession document.currentVersionId (versionsOf records.canon document.id)

variable {instruments : Instruments} {ties : Uuid → Nat} {storable : φ → Bool} {records next' : Records φ}
  {submission : Submission φ} {space : EmbeddingSpace} {admitted : Admitted φ}

theorem Historied.of_outline (historied : Historied records) (same : SameOutline records next') : Historied next' := by
  refine ⟨historied.intact.of_outline same,fun document member => ?_⟩
  obtain ⟨old,inOld,equal⟩ := exists_same same.documents member
  have id : old.id = document.id := congrArg Prod.fst equal
  have current : old.currentVersionId = document.currentVersionId := congrArg (·.2.2) equal
  rw [versionsOf,same.versions,← id,← current]
  exact historied.succession old inOld

theorem versionsOf_stored (intact : Intact records) (judged : judge instruments ties submission space records = .ok admitted)
    (persisted : Persisted instruments submission space storable records admitted) {documentId : Uuid} :
    versionsOf persisted.store.canon documentId = ((versionsOf records.canon documentId).map fun row =>
      if admitted.current.any (fun previous => row.id = previous.id) then (superseding submission.draws.now).change row else row) ++
        [persisted.version].filter (·.documentId = documentId) :=
  versionsOf_superseded persisted.versioned fun _ before => (current_owner intact judged persisted before).1

theorem versionsOf_other (intact : Intact records) (judged : judge instruments ties submission space records = .ok admitted)
    (persisted : Persisted instruments submission space storable records admitted) {documentId : Uuid}
    (apart : documentId ≠ persisted.document.id) :
    versionsOf persisted.store.canon documentId = versionsOf records.canon documentId := by
  have other : [persisted.version].filter (·.documentId = documentId) = [] := by
    refine List.filter_cons_of_neg fun mine => apart ?_
    exact (of_decide_eq_true mine).symm.trans (persisted_of persisted)
  rw [versionsOf_stored intact judged persisted,other,List.append_nil]
  refine map_others fun row inRows previous before same => ?_
  obtain ⟨inVersions,owner⟩ := current_owner intact judged persisted before
  obtain ⟨inTable,named⟩ := List.mem_filter.mp inRows
  cases Table.eq_of_key inTable inVersions same
  exact apart ((of_decide_eq_true named).symm.trans owner)

theorem pointed_of_current (judged : judge instruments ties submission space records = .ok admitted)
    (persisted : Persisted instruments submission space storable records admitted) {previous : KnowledgeDocumentVersion}
    (before : admitted.current = some previous) :
    persisted.document ∈ records.canon.documents.rows ∧ persisted.document.currentVersionId = some previous.id := by
  obtain ⟨_,asked,same,_⟩ := judge_ok.mp judged
  rw [before] at same
  obtain ⟨document,found,rest⟩ := Option.bind_eq_some_iff.mp same.symm
  obtain ⟨versionId,points,held⟩ := Option.bind_eq_some_iff.mp rest
  rcases persisted.drafted_fresh with drafted | ⟨none,_⟩
  · cases found.symm.trans drafted
    exact ⟨(findDocument_eq_some (asked.symm.trans found)).1,points.trans (congrArg some (Table.find_eq_some.mp held).2.symm)⟩
  · cases found.symm.trans none

theorem Historied.versionless (historied : Historied records)
    (judged : judge instruments ties submission space records = .ok admitted)
    (persisted : Persisted instruments submission space storable records admitted) (none : admitted.current = none) :
    versionsOf records.canon persisted.document.id = [] := by
  refine List.filter_eq_nil_iff.mpr fun version member own => ?_
  have named : version.documentId = persisted.document.id := of_decide_eq_true own
  obtain ⟨document,inDocuments,owns⟩ := historied.intact.versionDocument version member
  have mine : document.id = persisted.document.id := owns.trans named
  have succession := historied.succession document inDocuments
  have listed : version ∈ versionsOf records.canon document.id := List.mem_filter.mpr ⟨member,decide_eq_true owns.symm⟩
  obtain ⟨last,found⟩ := Option.isSome_iff_exists.mp (List.getLast?_isSome.mpr (List.ne_nil_of_mem listed))
  have points : document.currentVersionId = some last.id := by rw [succession.current,found]; rfl
  obtain ⟨current,before,_⟩ := current_of_pointed historied.intact judged persisted inDocuments mine points
  cases none.symm.trans before

theorem Historied.ends (historied : Historied records) (judged : judge instruments ties submission space records = .ok admitted)
    (persisted : Persisted instruments submission space storable records admitted) {previous : KnowledgeDocumentVersion}
    (before : admitted.current = some previous) :
    ∃ earlier, versionsOf records.canon persisted.document.id = earlier ++ [previous] ∧
      (∀ row ∈ earlier, row.id ≠ previous.id) ∧ Succession (some previous.id) (earlier ++ [previous]) := by
  obtain ⟨member,points⟩ := pointed_of_current judged persisted before
  have succession := historied.succession _ member
  rw [points] at succession
  obtain ⟨last,found,named⟩ := Option.map_eq_some_iff.mp succession.current.symm
  obtain ⟨earlier,listed⟩ := List.getLast?_eq_some_iff.mp found
  have inVersions : last ∈ records.canon.versions.rows := by
    have inList : last ∈ versionsOf records.canon persisted.document.id := listed ▸ List.mem_concat_self
    exact (List.mem_filter.mp inList).1
  cases Table.eq_of_key inVersions (current_owner historied.intact judged persisted before).1 named
  refine ⟨earlier,listed,?_,listed ▸ succession⟩
  have sublist : (versionsOf records.canon persisted.document.id).Sublist records.canon.versions.rows := List.filter_sublist
  rw [listed] at sublist
  have distinct := records.canon.versions.distinct.sublist (sublist.map KnowledgeDocumentVersion.id)
  rw [List.map_append,List.map_singleton,List.nodup_append] at distinct
  intro row inEarlier same
  exact distinct.2.2 row.id (List.mem_map_of_mem inEarlier) previous.id (List.mem_singleton_self _) same

theorem Historied.persisted (historied : Historied records)
    (judged : judge instruments ties submission space records = .ok admitted)
    (persisted : Persisted instruments submission space storable records admitted) : Historied persisted.store := by
  refine ⟨historied.intact.persisted judged persisted,fun document member => ?_⟩
  rcases (persisted_documents judged persisted).mp member with rfl | ⟨inOld,apart⟩
  · rw [versionsOf_stored historied.intact judged persisted]
    have mine : [persisted.version].filter (·.documentId = persisted.pointed.id) = [persisted.version] := by
      exact List.filter_cons_of_pos (decide_eq_true (persisted_of persisted))
    rw [mine]
    have version := persisted.version_eq
    change Succession (some persisted.version.id)
      (((versionsOf records.canon persisted.document.id).map _) ++ [persisted.version])
    cases before : admitted.current with
    | none =>
      rw [historied.versionless judged persisted before]
      rw [before] at version
      rw [version]
      exact succession_single rfl rfl rfl
    | some previous =>
      obtain ⟨earlier,split,others,succession⟩ := historied.ends judged persisted before
      have closes : (if (some previous).any (fun current => previous.id = current.id) then
          (superseding submission.draws.now).change previous else previous) = (superseding submission.draws.now).change previous :=
        if_pos (decide_eq_true rfl)
      have kept := @map_others earlier submission.draws.now (some previous) fun row inEarlier _ same => by
        cases same
        exact others row inEarlier
      rw [split,List.map_append,List.map_singleton,kept,closes]
      rw [before] at version
      refine succession.succeed ?_ ?_ ?_ ?_ <;> rw [version] <;> rfl
  · rw [versionsOf_other historied.intact judged persisted apart]
    exact historied.succession document inOld

theorem Historied.next (historied : Historied records) (op : Operation φ) :
    Historied (next instruments ties storable records op) := by
  cases op with
  | catalog operation => exact settle_preserves Historied (fun _ done => historied.of_outline (attempt_outline done)) historied
  | submit submission spaceId =>
    rcases submit_stored instruments ties storable records submission spaceId with same | ⟨_,judged,persisted,same⟩
    · exact historied.of_outline same.outline
    · exact (historied.persisted judged persisted).of_outline same.outline

theorem historied_after {start : Records φ} (empty : start.canon = .empty) (ops : List (Operation φ)) :
    Historied (after instruments ties storable start ops) := by
  have begun : Historied start := by
    refine ⟨(populated_empty empty).intact,fun document member => ?_⟩
    rw [empty] at member
    exact absurd member List.not_mem_nil
  exact run_preserves (fun _ op _ historied => historied.next op) (along_of_forall (fun _ _ => trivial) start ops) begun

end Historied

/-- In every run, a document's versions are numbered from one, each supersedes the one before it, which was closed as it was
ingested, and the last is open and the one that the document points to. -/
theorem version_history {φ : Type} (instruments : Instruments) (ties : Uuid → Nat) (storable : φ → Bool) (start : Records φ)
    (empty : start.canon = .empty) (ops : List (Operation φ)) : Successions (after instruments ties storable start ops) := by
  have historied : Historied (after instruments ties storable start ops) := historied_after empty ops
  exact ⟨historied.intact.versionDocument,historied.succession⟩

section Laboratory
open Laboratory

theorem version_history_lab :
    (filed edited).canon.versions.rows.map (·.versionNo) = [1,2] ∧ Successions (filed edited) :=
  ⟨by decide +kernel,version_history libraries BitVec.toNat (fun _ => true) shelf rfl edited⟩

end Laboratory

end Acop.Knowledge
