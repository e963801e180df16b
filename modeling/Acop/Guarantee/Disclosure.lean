import Acop.Guarantee.Retrieval
import Acop.Knowledge.References

/-! What retrieval lets a principal see. Every passage of an answer is one that he may read,
and what he may not read changes neither the exact stage nor the lexical one. -/
namespace Acop.Knowledge
open Acop.Selection

/-- One of the principal's roles is cleared for it. -/
def MayRead (principal : Principal) (sensitivity : Sensitivity) : Prop :=
  ∃ role ∈ principal.roles, ∃ cleared, defaultRoleSensitivity.lookup role = some cleared ∧ sensitivity ∈ cleared

structure RetrievalFilters.Match {φ : Type} (filters : RetrievalFilters) (row : Row φ) : Prop where
  sources : filters.sourceIds = [] ∨ row.chunk.sourceId ∈ filters.sourceIds
  documents : filters.documentIds = [] ∨ row.chunk.documentId ∈ filters.documentIds
  kinds : filters.sourceKinds = [] ∨ row.source.sourceKind.value ∈ filters.sourceKinds
  trust : filters.trustClasses = [] ∨ row.source.trustClass.value ∈ filters.trustClasses

/-- The row belongs to the current version of an active document of an active source that
the principal may read and that is not quarantined. -/
structure Row.Readable {φ : Type} (principal : Principal) (filters : RetrievalFilters) (row : Row φ) : Prop where
  cleared : MayRead principal row.source.sensitivity
  trusted : row.source.trustClass ≠ .quarantined
  source : row.source.lifecycleState = .active
  document : row.document.lifecycleState = .active
  current : row.document.currentVersionId = some row.chunk.versionId
  matching : filters.Match row

/-- The passage is read from stored rows that the principal may read. -/
def Disclosable {φ : Type} (tables : Tables φ) (principal : Principal) (filters : RetrievalFilters) (passage : Passage) : Prop :=
  ∃ row, Joined tables row ∧ passage = row.passage ∧ row.Readable principal filters

theorem mem_allowed {principal : Principal} {sensitivity : Sensitivity} :
    sensitivity ∈ (policyFor principal).allowedSensitivities ↔ MayRead principal sensitivity := by
  simp only [policyFor,Finset.mem_biUnion,MayRead]
  constructor
  · rintro ⟨role,held,mem⟩
    cases found : defaultRoleSensitivity.lookup role with
    | none => simp [found] at mem
    | some cleared => exact ⟨role,held,cleared,found,by simpa [found] using mem⟩
  · rintro ⟨role,held,cleared,found,mem⟩
    exact ⟨role,held,by simpa [found] using mem⟩

section Answers

variable {φ ν : Type} [LinearOrder ν] {engine : Engine φ ν} {execution : Execution φ} {tables : Tables φ}
  {space : EmbeddingSpace} {config : RetrievalConfig} {filters : RetrievalFilters} {vector : List φ} {query : String}
  {principal : Principal} {embedder : String → String → Except KnowledgeError (List φ)}

theorem Row.readable_of_eligible {row : Row φ} (eligible : Eligible (policyFor principal) filters row) :
    row.Readable principal filters := by
  obtain ⟨cleared,trusted,source,document,current,sources,documents,kinds,trust⟩ := eligible
  have notQuarantined : row.source.trustClass ≠ .quarantined := by
    intro quarantined
    apply trusted
    rw [quarantined]
    exact Finset.mem_singleton_self _
  exact ⟨mem_allowed.mp cleared,notQuarantined,source,document,current,⟨sources,documents,kinds,trust⟩⟩

theorem disclosable_of_live {row : Row φ} (live : row ∈ tables.liveRows space)
    (eligible : Eligible (policyFor principal) filters row) : Disclosable tables principal filters row.passage :=
  ⟨row,Tables.joined_of_mem (mem_liveRows.mp live).1,rfl,Row.readable_of_eligible eligible⟩

theorem disclosable_of_eligible {row : Row φ} (eligible : row ∈ eligibleRows tables space (policyFor principal) filters) :
    Disclosable tables principal filters row.passage := by
  obtain ⟨live,_,permitted⟩ := mem_eligibleRows.mp eligible
  exact disclosable_of_live live permitted

/-- Every passage of the answer is one the principal may read. -/
def Discreet (tables : Tables φ) (principal : Principal) (filters : RetrievalFilters) (results : List (RetrievedChunk ν)) : Prop :=
  ∀ chunk ∈ results, Disclosable tables principal filters chunk.toPassage

omit [LinearOrder ν] in
theorem discreet_finish {rows : List (Row φ)} {how : Finish}
    (disclosable : ∀ row ∈ rows, Disclosable tables principal filters row.passage) :
    Discreet tables principal filters (finish engine space config (policyFor principal) vector rows how).results := by
  intro chunk member
  obtain ⟨row,inRows,same,_⟩ := mem_finish member
  rw [same]
  exact disclosable row inRows

theorem discreet_of_resolved {result : RetrievalResult ν}
    (resolved : Resolved engine execution tables space config (policyFor principal) filters vector result) :
    Discreet tables principal filters result.results := by
  have surfaced : ∀ {rows}, annStage engine execution tables space config (policyFor principal) filters vector = .ok rows →
      ∀ row ∈ rows, Disclosable tables principal filters row.passage := fun stage row member =>
    disclosable_of_live (mem_of_annStage stage member).1 (mem_of_annStage stage member).2
  cases resolved with
  | unreadable => exact fun chunk member => absurd member List.not_mem_nil
  | ann stage => exact discreet_finish fun row member => surfaced stage row (List.mem_of_mem_take member)
  | annComplete stage => exact discreet_finish (surfaced stage)
  | partially stage => exact discreet_finish (surfaced stage)
  | exactFallback _ stage => exact discreet_finish fun row member => disclosable_of_eligible (mem_of_exactStage stage member)

theorem discreet_searchVector {k : Option Int} {result : RetrievalResult ν}
    (ok : searchVector engine execution tables space config filters vector principal k = .ok result) :
    Discreet tables principal filters result.results := by
  obtain ⟨_,_,ok⟩ := bind_ok ok
  exact discreet_of_resolved (resolved_of_ok ok)

theorem discreet_lexicalChunks {used : RetrievalConfig} {rows : List (Row φ)}
    (stage : lexicalStage engine tables space config (policyFor principal) filters query = .ok rows) :
    Discreet tables principal filters (lexicalChunks engine space used query rows) := by
  intro chunk member
  obtain ⟨index,bound,rfl⟩ := List.mem_mapIdx.mp member
  exact disclosable_of_eligible (mem_of_lexicalStage stage (List.mem_of_mem_take (List.getElem_mem bound)))

theorem discreet_searchLexical {k : Option Int} {result : RetrievalResult ν}
    (ok : searchLexical engine tables space config filters query principal k = .ok result) :
    Discreet tables principal filters result.results := by
  obtain ⟨_,_,ok⟩ := bind_ok ok
  obtain ⟨used,_,ok⟩ := bind_ok ok
  dsimp only at ok
  split at ok
  · cases Except.ok.inj ok
    exact fun chunk member => absurd member List.not_mem_nil
  · obtain ⟨rows,stage,ok⟩ := bind_ok ok
    cases Except.ok.inj ok
    exact discreet_lexicalChunks stage

theorem discreet_search {k : Option Int} {result : RetrievalResult ν}
    (ok : search engine execution tables embedder space config filters query principal k = .ok result) :
    Discreet tables principal filters result.results := by
  obtain ⟨_,_,ok⟩ := bind_ok ok
  obtain ⟨_,_,ok⟩ := bind_ok ok
  exact discreet_searchVector ok

/-- The chunks an entry carries are chunks of its legs. -/
def Contribution.From (dense lexical : List (RetrievedChunk ν)) (entry : Contribution ν) : Prop :=
  (∀ chunk ∈ entry.dense, chunk ∈ dense) ∧ ∀ chunk ∈ entry.lexical, chunk ∈ lexical

omit [LinearOrder ν] in
theorem contribute_from {rrfK : Int} {isDense : Bool} {dense lexical : List (RetrievedChunk ν)} {chunk : RetrievedChunk ν}
    {contributions : List (Contribution ν)} (inLeg : chunk ∈ if isDense then dense else lexical)
    (all : ∀ entry ∈ contributions, entry.From dense lexical) :
    ∀ entry ∈ contribute engine rrfK isDense contributions chunk, entry.From dense lexical := by
  intro entry member
  obtain ⟨old,present,rfl⟩ := List.mem_map.mp member
  have known : old.From dense lexical := by
    split at present
    · exact all old present
    · rcases List.mem_append.mp present with earlier | made
      · exact all old earlier
      · obtain rfl := List.mem_singleton.mp made
        exact ⟨by simp,by simp⟩
  split
  · cases isDense with
    | true => exact ⟨fun other is => Option.some.inj is ▸ inLeg,known.2⟩
    | false => exact ⟨known.1,fun other is => Option.some.inj is ▸ inLeg⟩
  · exact known

omit [LinearOrder ν] in
theorem contributions_from {rrfK : Int} {isDense : Bool} {dense lexical leg : List (RetrievedChunk ν)}
    {contributions : List (Contribution ν)} (inLeg : ∀ chunk ∈ leg, chunk ∈ if isDense then dense else lexical)
    (all : ∀ entry ∈ contributions, entry.From dense lexical) :
    ∀ entry ∈ leg.foldl (contribute engine rrfK isDense) contributions, entry.From dense lexical := by
  induction leg generalizing contributions with
  | nil => exact all
  | cons chunk rest ih =>
    exact ih (fun other member => inLeg other (List.mem_cons_of_mem chunk member))
      (contribute_from (inLeg chunk List.mem_cons_self) all)

omit [LinearOrder ν] in
theorem fused_passage {entry : Contribution ν} {chunk : RetrievedChunk ν} (fused : entry.fused = some chunk) :
    ∃ base, (entry.dense = some base ∨ entry.lexical = some base) ∧ chunk.toPassage = base.toPassage := by
  obtain ⟨base,carrier,rfl⟩ := Option.map_eq_some_iff.mp fused
  refine ⟨base,?_,rfl⟩
  cases leg : entry.dense with
  | some other =>
    rw [leg] at carrier
    exact .inl carrier
  | none =>
    rw [leg] at carrier
    exact .inr carrier

theorem fuse_passages {rrfK : Int} {dense lexical : List (RetrievedChunk ν)} {chunk : RetrievedChunk ν}
    (member : chunk ∈ fuse engine rrfK dense lexical) :
    ∃ base, (base ∈ dense ∨ base ∈ lexical) ∧ chunk.toPassage = base.toPassage := by
  obtain ⟨index,bound,rfl⟩ := List.mem_mapIdx.mp member
  obtain ⟨entry,inEntries,fused⟩ := List.mem_filterMap.mp ((mem_ordered _).mp (List.getElem_mem bound))
  have started : ∀ entry ∈ ([] : List (Contribution ν)), entry.From dense lexical := fun entry none => absurd none List.not_mem_nil
  have ofDense := @contributions_from _ _ engine rrfK true dense lexical dense _ (fun _ inDense => inDense) started
  have known := @contributions_from _ _ engine rrfK false dense lexical lexical _ (fun _ inLexical => inLexical) ofDense entry inEntries
  obtain ⟨base,carrier,same⟩ := fused_passage fused
  exact ⟨base,carrier.imp (known.1 base) (known.2 base),same⟩

theorem discreet_searchHybrid {k : Option Int} {result : RetrievalResult ν}
    (ok : searchHybrid engine execution tables embedder space config filters query principal k = .ok result) :
    Discreet tables principal filters result.results := by
  obtain ⟨_,_,ok⟩ := bind_ok ok
  obtain ⟨used,_,ok⟩ := bind_ok ok
  dsimp only at ok
  split at ok
  · cases Except.ok.inj ok
    exact fun chunk member => absurd member List.not_mem_nil
  · obtain ⟨dense,searched,ok⟩ := bind_ok ok
    obtain ⟨rows,stage,ok⟩ := bind_ok ok
    cases Except.ok.inj ok
    intro chunk member
    obtain ⟨base,inDense | inLexical,same⟩ := fuse_passages (List.mem_of_mem_take member)
    · rw [same]
      exact discreet_search searched base inDense
    · rw [same]
      exact discreet_lexicalChunks stage base inLexical

theorem discreet_retrieve {mode : RetrievalMode} {k : Option Int} {result : RetrievalResult ν}
    (ok : retrieve engine execution tables embedder space config filters query principal mode k = .ok result) :
    Discreet tables principal filters result.results := by
  obtain ⟨_,_,ok⟩ := bind_ok ok
  cases mode with
  | vector => exact discreet_search ok
  | lexical => exact discreet_searchLexical ok
  | hybrid => exact discreet_searchHybrid ok

end Answers

section Blindness

variable {φ ν : Type} {tables other : Tables φ} {principal : Principal} {filters : RetrievalFilters} {space : EmbeddingSpace}

/-- The source of this id is one the principal may read. -/
def Tables.Cleared (tables : Tables φ) (principal : Principal) (sourceId : Uuid) : Prop :=
  ∃ source ∈ tables.sources, source.id = sourceId ∧ MayRead principal source.sensitivity

/-- Two stores that differ only in rows the principal may not read: what is under a source
he may read is stored in both or in neither. -/
structure SameReadable (principal : Principal) (tables other : Tables φ) : Prop where
  sources : ∀ source, MayRead principal source.sensitivity → (source ∈ tables.sources ↔ source ∈ other.sources)
  documents : ∀ document : KnowledgeDocument, document ∈ tables.documents ∧ tables.Cleared principal document.sourceId ↔
    document ∈ other.documents ∧ other.Cleared principal document.sourceId
  chunks : ∀ chunk : KnowledgeChunk, chunk ∈ tables.chunks ∧ tables.Cleared principal chunk.sourceId ↔
    chunk ∈ other.chunks ∧ other.Cleared principal chunk.sourceId
  embeddings : ∀ embedding : KnowledgeEmbedding φ,
    (embedding ∈ tables.embeddings ∧ ∃ chunk ∈ tables.chunks, chunk.id = embedding.chunkId ∧ tables.Cleared principal chunk.sourceId) ↔
    (embedding ∈ other.embeddings ∧ ∃ chunk ∈ other.chunks, chunk.id = embedding.chunkId ∧ other.Cleared principal chunk.sourceId)

def Attributed (tables : Tables φ) : Prop := ∀ chunk ∈ tables.chunks, ∀ document ∈ tables.documents,
  document.id = chunk.documentId → document.sourceId = chunk.sourceId

instance (tables : Tables φ) : Decidable (Attributed tables) := inferInstanceAs (Decidable (∀ _ ∈ _, _))

theorem attributed_of_intact {records : Records φ} (intact : Intact records) :
    Attributed {documents := records.canon.documents.rows,chunks := records.canon.chunks.rows : Tables φ} :=
  intact.chunkSource

theorem SameReadable.symm (same : SameReadable principal tables other) : SameReadable principal other tables where
  sources source cleared := (same.sources source cleared).symm
  documents document := (same.documents document).symm
  chunks chunk := (same.chunks chunk).symm
  embeddings embedding := (same.embeddings embedding).symm

theorem find_of_mem {Row : Type} {key : Row → Uuid} {rows : List Row} (distinct : (rows.map key).Nodup) {row : Row} {id : Uuid}
    (member : row ∈ rows) (named : key row = id) : rows.find? (fun row => decide (key row = id)) = some row := by
  have some' : (rows.find? fun row => decide (key row = id)).isSome = true :=
    List.find?_isSome.mpr ⟨row,member,decide_eq_true named⟩
  obtain ⟨found,is⟩ := Option.isSome_iff_exists.mp some'
  have foundId : key found = id := by simpa using List.find?_some is
  have same : key found = key row := foundId.trans named.symm
  rw [is,List.inj_on_of_nodup_map distinct (List.mem_of_find?_eq_some is) member same]

theorem Joined.row (keyed : Keyed tables) {row : Row φ} (joined : Joined tables row) :
    tables.row row.embedding = some row := by
  simp only [Tables.row,find_of_mem keyed.chunks joined.chunk joined.byChunk,
    find_of_mem keyed.documents joined.document joined.byDocument,find_of_mem keyed.sources joined.source joined.bySource,
    Option.bind_eq_bind,Option.bind_some,Option.pure_def]

theorem Joined.elsewhere (same : SameReadable principal tables other) (attributed : Attributed tables) {row : Row φ}
    (joined : Joined tables row) (cleared : MayRead principal row.source.sensitivity) : Joined other row := by
  have under : tables.Cleared principal row.chunk.sourceId := ⟨row.source,joined.source,joined.bySource,cleared⟩
  have owner : row.document.sourceId = row.chunk.sourceId :=
    attributed row.chunk joined.chunk row.document joined.document joined.byDocument
  exact {
    embedding := ((same.embeddings row.embedding).mp ⟨joined.embedding,row.chunk,joined.chunk,joined.byChunk,under⟩).1
    chunk := ((same.chunks row.chunk).mp ⟨joined.chunk,under⟩).1
    document := ((same.documents row.document).mp ⟨joined.document,owner ▸ under⟩).1
    source := (same.sources row.source cleared).mp joined.source
    byChunk := joined.byChunk
    byDocument := joined.byDocument
    bySource := joined.bySource }

theorem eligibleRows_within (same : SameReadable principal tables other) (attributed : Attributed tables) (keyed : Keyed other)
    {row : Row φ} (eligible : row ∈ eligibleRows tables space (policyFor principal) filters) :
    row ∈ eligibleRows other space (policyFor principal) filters := by
  obtain ⟨live,vector,permitted⟩ := mem_eligibleRows.mp eligible
  obtain ⟨stored,lifecycle⟩ := mem_liveRows.mp live
  have joined : Joined other row := (Tables.joined_of_mem stored).elsewhere same attributed (mem_allowed.mp permitted.1)
  have found : row ∈ other.rows := List.mem_filterMap.mpr ⟨row.embedding,joined.embedding,joined.row keyed⟩
  exact mem_eligibleRows.mpr ⟨mem_liveRows.mpr ⟨found,lifecycle⟩,vector,permitted⟩

theorem eligibleRows_same (same : SameReadable principal tables other) (keyed : Keyed tables) (keyed' : Keyed other)
    (attributed : Attributed tables) (attributed' : Attributed other) :
    (eligibleRows tables space (policyFor principal) filters).Perm (eligibleRows other space (policyFor principal) filters) :=
  (List.perm_ext_iff_of_nodup (eligibleRows_nodup keyed) (eligibleRows_nodup keyed')).mpr fun _ =>
    ⟨eligibleRows_within same attributed keyed',eligibleRows_within same.symm attributed' keyed⟩

variable [LinearOrder ν] {engine : Engine φ ν} {execution again : Execution φ} {config : RetrievalConfig}
  {policy : RetrievalPolicy} {vector : List φ} {query : String}

theorem ordered_same {κ : Type} [LinearOrder κ] (key : Row φ → κ) {rows others : List (Row φ)} (perm : rows.Perm others)
    (distinct : (rows.map (·.chunk.id)).Nodup) (tells : ∀ first second, key first = key second → first.chunk.id = second.chunk.id) :
    ordered key rows = ordered key others :=
  ordered_congr key perm fun first inRows second inRows' same =>
    List.inj_on_of_nodup_map distinct inRows inRows' (tells first second same)

theorem lexicalStage_same (keyed : Keyed tables)
    (perm : (eligibleRows tables space policy filters).Perm (eligibleRows other space policy filters)) :
    lexicalStage engine tables space config policy filters query = lexicalStage engine other space config policy filters query := by
  have distinct : ((eligibleRows tables space policy filters).map (·.chunk.id)).Nodup := eligibleRows_chunkIds keyed
  have found := ordered_same (fun row => toLex (OrderDual.toDual (lexicalScore engine query row),row.chunk.id.toNat))
    (perm.filter fun row => engine.matchesText lexemeConfig query row.chunk.content)
    (distinct.sublist (List.filter_sublist.map _)) fun first second same =>
      toNat_injective (congrArg (fun key => (ofLex key).2) same)
  unfold lexicalStage
  dsimp only
  rw [found]

/-- The rows the exact stage scans, where it scans in the same order or reaches every eligible row. -/
theorem scanned_same (keyed : Keyed tables)
    (perm : (eligibleRows tables space policy filters).Perm (eligibleRows other space policy filters))
    (scans : execution.scan = again.scan ∨ ((eligibleRows tables space policy filters).length : Int) ≤ config.exactMaxRows) :
    (first (fun row => execution.scan row.chunk.id) config.exactMaxRows.toNat (eligibleRows tables space policy filters)).Perm
      (first (fun row => again.scan row.chunk.id) config.exactMaxRows.toNat (eligibleRows other space policy filters)) := by
  rcases scans with same | within
  · rw [same,first,ordered_same _ perm (eligibleRows_chunkIds keyed) fun one two equal => again.scan_injective equal]
    exact List.Perm.refl _
  · have length := perm.length_eq
    exact (first_all _ (by omega)).trans (perm.trans (first_all _ (by omega)).symm)

theorem exactStage_same (keyed : Keyed tables)
    (perm : (eligibleRows tables space policy filters).Perm (eligibleRows other space policy filters))
    (ties : execution.ties = again.ties) (reply : execution.exactReply = again.exactReply)
    (scans : execution.scan = again.scan ∨ ((eligibleRows tables space policy filters).length : Int) ≤ config.exactMaxRows) :
    exactStage engine execution tables space config policy filters vector =
      exactStage engine again other space config policy filters vector := by
  have pos := config.exactMaxRows_pos
  have scanned := scanned_same keyed perm scans
  have distinct : ((first (fun row => execution.scan row.chunk.id) config.exactMaxRows.toNat
      (eligibleRows tables space policy filters)).map (·.chunk.id)).Nodup := by
    obtain ⟨chosen,same,inside⟩ := first_subperm (fun row : Row φ => execution.scan row.chunk.id) config.exactMaxRows.toNat
      (eligibleRows tables space policy filters)
    exact (same.map _).nodup_iff.mp ((eligibleRows_chunkIds keyed).sublist (inside.map _))
  have ranked := ordered_same (fun row => toLex (rowDistance engine space vector row,execution.ties row.chunk.id))
    scanned distinct fun one two equal => execution.ties_injective (congrArg (fun key => (ofLex key).2) equal)
  unfold exactStage
  cases parentRelation space with
  | error refusal => rfl
  | ok _ =>
    cases bindVector space vector with
    | error refusal => rfl
    | ok _ =>
      simp only [ok_bind,← reply]
      cases execution.exactReply with
      | cancelled => rfl
      | failed => rfl
      | answered =>
        by_cases small : config.exactMaxRows < 2^63
        · simp only [limit_eq _ (by omega : (0 : Int) ≤ config.exactMaxRows) small,ok_bind,config.limit_k]
          simp only [first] at ranked
          rw [ranked,ties]
        · have refused : ∀ rows : List (Row φ), limit config.exactMaxRows rows =
              .error (.database "value out of int64 range") := fun rows => by
            rw [limit,if_neg (by omega),if_pos (by omega)]
          simp only [refused]
          rfl

end Blindness

section

variable {φ ν : Type} [LinearOrder ν] (engine : Engine φ ν) (space : EmbeddingSpace) (config : RetrievalConfig)
  (filters : RetrievalFilters) (principal : Principal)

/-- No answer of any mode shows a passage that the principal may not read, and what he may not
read has no influence on the exact stage, where a dense call reaches it or scans in the same
order, nor on the lexical one. -/
theorem retrieval_discloses_nothing :
    (∀ (corpus : Corpus φ) (execution : Execution φ) (vector : List φ) (k : Option Int) (result : RetrievalResult ν),
      searchVector engine execution corpus.toTables space config filters vector principal k = .ok result →
        Discreet corpus.toTables principal filters result.results) ∧
    (∀ (corpus : Corpus φ) (execution : Execution φ) (embedder : String → String → Except KnowledgeError (List φ))
        (query : String) (mode : RetrievalMode) (k : Option Int) (result : RetrievalResult ν),
      retrieve engine execution corpus.toTables embedder space config filters query principal mode k = .ok result →
        Discreet corpus.toTables principal filters result.results) ∧
    ∀ corpus other : Corpus φ, Attributed corpus.toTables → Attributed other.toTables →
      SameReadable principal corpus.toTables other.toTables →
      (∀ query, lexicalStage engine corpus.toTables space config (policyFor principal) filters query =
        lexicalStage engine other.toTables space config (policyFor principal) filters query) ∧
      ∀ (execution again : Execution φ) (vector : List φ), execution.ties = again.ties →
        execution.exactReply = again.exactReply →
        (execution.scan = again.scan ∨
          ∃ population, countEligible corpus.toTables space config (policyFor principal) filters = .ok (population,false)) →
        exactStage engine execution corpus.toTables space config (policyFor principal) filters vector =
          exactStage engine again other.toTables space config (policyFor principal) filters vector := by
  refine ⟨fun _ _ _ _ _ => discreet_searchVector,fun _ _ _ _ _ _ _ => discreet_retrieve,?_⟩
  intro corpus other attributed attributed' same
  have perm : (eligibleRows corpus.toTables space (policyFor principal) filters).Perm
      (eligibleRows other.toTables space (policyFor principal) filters) :=
    eligibleRows_same same corpus.keyed other.keyed attributed attributed'
  refine ⟨fun query => lexicalStage_same corpus.keyed perm,?_⟩
  intro execution again vector ties reply scans
  apply exactStage_same corpus.keyed perm ties reply
  refine scans.imp_right fun ⟨population,counted⟩ => ?_
  obtain ⟨_,capped⟩ := countEligible_ok counted
  by_contra many
  exact absurd (capped.mpr (by omega)) Bool.false_ne_true

end

namespace Laboratory

def plan : KnowledgeSource := {source .confidentialBand with id := 7,title := "Plans"}

def planDocument : KnowledgeDocument := {document with id := 8,sourceId := 7,externalRef := "plan.md",currentVersionId := some 9}

def planChunk : KnowledgeChunk := {chunk 5 "vlan" with versionId := 9,documentId := 8,sourceId := 7}

def planEmbedding : KnowledgeEmbedding Int := {embedding 5 .confidentialBand with sourceId := 7,documentId := 8}

/-- The small store with a confidential source beside the public one. -/
def secretive : Corpus Int where
  spaces := [space]
  sources := [plan,source .publicBand]
  documents := [planDocument,document]
  versions := [version]
  chunks := [planChunk,chunk 0 "vlan",chunk 1 "trunk",chunk 2 "uplink"]
  embeddings := [planEmbedding,embedding 0 .publicBand,embedding 1 .publicBand,embedding 2 .publicBand]
  keyed := ⟨by decide,by decide,by decide,by decide,by decide,by decide⟩

theorem attributed_lab : Attributed (corpus .publicBand .publicBand).toTables ∧ Attributed secretive.toTables :=
  ⟨by decide,by decide⟩

theorem not_mayRead_plan : ¬ MayRead viewer plan.sensitivity := by
  rw [← mem_allowed]
  decide

theorem cleared_secretive (sourceId : Uuid) : secretive.toTables.Cleared viewer sourceId ↔
    (corpus .publicBand .publicBand).toTables.Cleared viewer sourceId := by
  constructor
  · rintro ⟨found,member,named,cleared⟩
    rcases List.mem_cons.mp member with rfl | inRest
    · exact absurd cleared not_mayRead_plan
    · exact ⟨found,inRest,named,cleared⟩
  · rintro ⟨found,member,named,cleared⟩
    exact ⟨found,List.mem_cons_of_mem _ member,named,cleared⟩

theorem not_cleared_plan : ¬ secretive.toTables.Cleared viewer 7 := by
  rw [cleared_secretive]
  rintro ⟨found,member,named,_⟩
  obtain rfl := List.mem_singleton.mp member
  exact absurd named (by decide)

theorem sameReadable_lab : SameReadable viewer secretive.toTables (corpus .publicBand .publicBand).toTables where
  sources found cleared := by
    refine ⟨fun member => ?_,List.mem_cons_of_mem _⟩
    rcases List.mem_cons.mp member with rfl | inRest
    · exact absurd cleared not_mayRead_plan
    · exact inRest
  documents found := by
    rw [cleared_secretive]
    refine and_congr_left fun cleared => ⟨fun member => ?_,List.mem_cons_of_mem _⟩
    rcases List.mem_cons.mp member with rfl | inRest
    · exact absurd ((cleared_secretive _).mpr cleared) not_cleared_plan
    · exact inRest
  chunks found := by
    rw [cleared_secretive]
    refine and_congr_left fun cleared => ⟨fun member => ?_,List.mem_cons_of_mem _⟩
    rcases List.mem_cons.mp member with rfl | inRest
    · exact absurd ((cleared_secretive _).mpr cleared) not_cleared_plan
    · exact inRest
  embeddings found := by
    constructor
    · rintro ⟨member,piece,inChunks,named,cleared⟩
      have inRest : piece ∈ (corpus .publicBand .publicBand).toTables.chunks := by
        rcases List.mem_cons.mp inChunks with rfl | inRest
        · exact absurd cleared not_cleared_plan
        · exact inRest
      rcases List.mem_cons.mp member with rfl | stored
      · exact absurd named ((by decide : ∀ piece ∈ (corpus .publicBand .publicBand).toTables.chunks,
          piece.id ≠ planEmbedding.chunkId) piece inRest)
      · exact ⟨stored,piece,inRest,named,(cleared_secretive _).mp cleared⟩
    · rintro ⟨member,piece,inChunks,named,cleared⟩
      exact ⟨List.mem_cons_of_mem _ member,piece,List.mem_cons_of_mem _ inChunks,named,(cleared_secretive _).mpr cleared⟩

end Laboratory

open Laboratory in
/-- The viewer who asks for vlans finds the public passage, and the plan makes no difference. -/
theorem retrieval_discloses_nothing_lab :
    (∀ result, retrieve engine (proposing 2) secretive.toTables (fun _ _ => .ok (axis 0)) space config {} "vlan" viewer
        .hybrid none = .ok result → Discreet secretive.toTables viewer {} result.results) ∧
    (lexicalStage engine secretive.toTables space config (policyFor viewer) {} "vlan").toOption.map List.length = some 1 ∧
    lexicalStage engine secretive.toTables space config (policyFor viewer) {} "vlan" =
      lexicalStage engine (corpus .publicBand .publicBand).toTables space config (policyFor viewer) {} "vlan" ∧
    exactStage engine (proposing 1) secretive.toTables space config (policyFor viewer) {} (axis 0) =
      exactStage engine (proposing 2) (corpus .publicBand .publicBand).toTables space config (policyFor viewer) {} (axis 0) := by
  obtain ⟨_,answers,blind⟩ := retrieval_discloses_nothing engine space config {} viewer
  obtain ⟨lexical,exact⟩ := blind secretive (corpus .publicBand .publicBand) attributed_lab.2 attributed_lab.1 sameReadable_lab
  exact ⟨answers secretive (proposing 2) _ "vlan" .hybrid none,by decide +kernel,lexical "vlan",
    exact (proposing 1) (proposing 2) (axis 0) rfl rfl (.inl rfl)⟩

end Acop.Knowledge
