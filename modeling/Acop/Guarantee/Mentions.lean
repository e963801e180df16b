import Acop.Knowledge.Mentions
import Acop.Cmdb.Laboratory
import Mathlib.Data.List.Infix

/-! What a scan of a version records. A mention quotes its chunk and names the holders of a live
identifier. Whether these assets are live themselves is not looked at, and a scan of the same
tables adds nothing. -/
namespace Acop.Knowledge
open Acop.Store Acop.Selection
open Acop.Cmdb (Python identifierNamespaces)

section Tokens

structure IsToken (text token : List Char) : Prop where
  inside : token <:+: text
  short : token.length ≤ 128
  ending : ∀ last ∈ token.getLast?, last.isAlphanum

variable {first second : Char} {rest text token : List Char}

theorem longTail_within (rest : List Char) : longTail rest <+: rest := by
  apply (List.rdropWhile_prefix _ _).trans
  apply (List.take_prefix _ _).trans
  apply List.takeWhile_prefix

theorem tokenTail_within (rest : List Char) : tokenTail rest <+: rest := by
  unfold tokenTail
  split
  · exact longTail_within rest
  · exact List.takeWhile_prefix _

theorem longTail_two (inner : first.isAlphanum) (outer : second.isAlphanum) (rest : List Char) :
    2 ≤ (longTail (first::second::rest)).length := by
  have run : ((first::second::rest).takeWhile tokenChar).take 127 =
      first::second::((rest.takeWhile tokenChar).take 125) := by
    simp [tokenChar,inner,outer]
  unfold longTail
  rw [run]
  have whole := @List.rdropWhile_append_rtakeWhile _ (fun char : Char => !char.isAlphanum)
    (first::second::((rest.takeWhile tokenChar).take 125))
  have dropped : second ∉ List.rtakeWhile (fun char : Char => !char.isAlphanum)
      (first::second::((rest.takeWhile tokenChar).take 125)) := by
    intro member
    simpa [outer] using List.mem_rtakeWhile_imp member
  rcases kept : List.rdropWhile (fun char : Char => !char.isAlphanum)
      (first::second::((rest.takeWhile tokenChar).take 125)) with _ | ⟨char,_ | ⟨other,others⟩⟩
  · rw [kept,List.nil_append] at whole
    rw [whole] at dropped
    exact absurd (.tail _ (.head _)) dropped
  · rw [kept,List.singleton_append] at whole
    rw [(List.cons.inj whole).2] at dropped
    exact absurd (.head _) dropped
  · simp

theorem tokenTail_short (rest : List Char) : (tokenTail rest).length ≤ 127 := by
  unfold tokenTail
  split
  · apply (List.rdropWhile_prefix _ _).length_le.trans
    exact List.length_take_le _ _
  · rename_i short
    rcases rest with _ | ⟨first,_ | ⟨second,rest⟩⟩
    · exact Nat.zero_le _
    · exact (List.takeWhile_prefix _).length_le.trans (by simp)
    · rw [List.takeWhile_cons]
      split
      · rename_i inner
        rw [List.takeWhile_cons]
        split
        · rename_i outer
          exact absurd (longTail_two inner outer rest) short
        · simp
      · simp

theorem longTail_ending {last : Char} (member : last ∈ (longTail rest).getLast?) : last.isAlphanum := by
  obtain ⟨nonempty,rfl⟩ := List.mem_getLast?_eq_getLast member
  have kept := List.rdropWhile_last_not (fun char : Char => !char.isAlphanum) _ nonempty
  simpa [longTail] using kept

theorem tokenTail_ending {last : Char} (member : last ∈ (tokenTail rest).getLast?) : last.isAlphanum := by
  unfold tokenTail at member
  split at member
  · exact longTail_ending member
  · exact List.mem_takeWhile_imp (List.mem_of_mem_getLast? member)

theorem isToken_match (alphanumeric : first.isAlphanum) (rest : List Char) :
    IsToken (first::rest) (first::tokenTail rest) where
  inside := ((List.prefix_cons_inj first).mpr (tokenTail_within rest)).isInfix
  short := Nat.succ_le_succ (tokenTail_short rest)
  ending last member := by
    cases tail : tokenTail rest with
    | nil =>
      rw [tail] at member
      cases member
      exact alphanumeric
    | cons second others =>
      apply @tokenTail_ending rest
      rw [tail,List.getLast?_cons_cons] at member
      rwa [tail]

theorem IsToken.later (isToken : IsToken rest token) : IsToken (first::rest) token where
  inside := isToken.inside.trans (List.suffix_cons first rest).isInfix
  short := isToken.short
  ending := isToken.ending

theorem isToken_of_mem {skip : Nat} (member : token ∈ tokensFrom skip text) : IsToken text token := by
  induction text generalizing skip with
  | nil => cases skip <;> cases member
  | cons char rest ih =>
    cases skip with
    | succ skip => exact (ih member).later
    | zero =>
      rw [tokensFrom] at member
      split at member
      · rename_i alphanumeric
        rcases List.mem_cons.mp member with rfl | later
        · exact isToken_match alphanumeric rest
        · exact (ih later).later
      · exact (ih member).later

theorem forms_token (isToken : IsToken text token) : forms (String.ofList token) = [String.ofList token] := by
  have stripped : token.rdropWhile (fun char => char ∈ ['.',',',':',';',')','/','-']) = token := by
    rw [List.rdropWhile_eq_self_iff]
    intro nonempty trailing
    have alphanumeric := isToken.ending _ (List.getLast?_eq_some_getLast nonempty)
    simp only [List.mem_cons,List.not_mem_nil,or_false,decide_eq_true_eq] at trailing
    rcases trailing with same | same | same | same | same | same | same
    all_goals
      rw [same] at alphanumeric
      exact absurd alphanumeric (by decide)
  have same : rstripTrailing (String.ofList token) = String.ofList token := by
    rw [rstripTrailing,String.toList_ofList,stripped]
  exact if_pos same

end Tokens

section Candidates

variable {python : Python} {enumeration other : Enumeration} {text : String} {found : MentionCandidate}

/-- A candidate is a part of the text, read by the normaliser of its namespace. -/
structure Reads (python : Python) (text : String) (found : MentionCandidate) : Prop where
  inside : found.surface.toList <:+: text.toList
  short : found.surface.length ≤ 128
  normalised : ∃ spec, identifierNamespaces.lookup found.namespaceName = some spec ∧
    spec.normaliser.apply python found.surface = found.valueNormalized

theorem mem_readings : found ∈ readings python enumeration text ↔
    ∃ token ∈ (((tokens text).take maxTokensPerChunk).flatMap forms).filter eligible,
      ∃ name ∈ mentionableNamespaces, candidate python token name = some found := by
  simp only [readings,List.mem_flatMap,List.mem_filterMap,enumeration.complete.mem_iff]

theorem candidate_some {token name : String} (read : candidate python token name = some found) :
    found.surface = token ∧ ∃ spec, identifierNamespaces.lookup found.namespaceName = some spec ∧
      spec.normaliser.apply python found.surface = found.valueNormalized := by
  unfold candidate at read
  split at read
  · cases read
  · rename_i spec known
    dsimp only at read
    split at read
    · cases read
    · cases read
      exact ⟨rfl,spec,known,rfl⟩

theorem reads_of_mem_readings (member : found ∈ readings python enumeration text) : Reads python text found := by
  obtain ⟨surface,formed,name,_,read⟩ := mem_readings.mp member
  obtain ⟨same,normalised⟩ := candidate_some read
  obtain ⟨token,taken,form⟩ := List.mem_flatMap.mp (List.mem_filter.mp formed).1
  obtain ⟨chars,scanned,rfl⟩ := List.mem_map.mp (List.mem_of_mem_take taken)
  have isToken := isToken_of_mem scanned
  rw [forms_token isToken,List.mem_singleton] at form
  subst form
  refine ⟨?_,?_,normalised⟩
  · rw [same,String.toList_ofList]
    exact isToken.inside
  · rw [same,String.length_ofList]
    exact isToken.short

theorem mem_of_mem_firsts {seen : List (String × String)} {listed : List MentionCandidate} (member : found ∈ firsts seen listed) :
    found ∈ listed := by
  induction listed generalizing seen with
  | nil => exact member
  | cons head rest ih =>
    rw [firsts] at member
    split at member
    · exact .tail _ (ih member)
    · rcases List.mem_cons.mp member with rfl | later
      · exact .head _
      · exact .tail _ (ih later)

theorem mem_keys_firsts {key : String × String} (seen : List (String × String)) (listed : List MentionCandidate) :
    key ∈ (firsts seen listed).map (·.key) ↔ key ∈ listed.map (·.key) ∧ key ∉ seen := by
  induction listed generalizing seen with
  | nil => simp [firsts]
  | cons head rest ih =>
    rw [firsts]
    split
    · rename_i known
      rw [ih,List.map_cons,List.mem_cons]
      constructor
      · rintro ⟨listed,unseen⟩
        exact ⟨.inr listed,unseen⟩
      · rintro ⟨rfl | listed,unseen⟩
        · exact absurd known unseen
        · exact ⟨listed,unseen⟩
    · rename_i new
      rw [List.map_cons,List.mem_cons,ih,List.map_cons,List.mem_cons,List.mem_cons]
      by_cases same : key = head.key
      · simp [same,new]
      · simp [same]

theorem reads_of_mem (member : found ∈ candidates python enumeration text) : Reads python text found :=
  reads_of_mem_readings (mem_of_mem_firsts member)

theorem keys_candidates (member : found ∈ candidates python enumeration text) :
    ∃ same ∈ candidates python other text, same.key = found.key := by
  have listed : found.key ∈ (candidates python enumeration text).map (·.key) := List.mem_map_of_mem member
  have again : found.key ∈ (candidates python other text).map (·.key) := by
    rw [candidates,mem_keys_firsts] at listed ⊢
    obtain ⟨⟨reading,read,same⟩,unseen⟩ := listed.imp_left List.mem_map.mp
    refine ⟨List.mem_map.mpr ⟨reading,?_,same⟩,unseen⟩
    rw [mem_readings] at read ⊢
    exact read
  exact List.mem_map.mp again

variable {identifiers : List Cmdb.AssetIdentifier}

theorem mem_holders {key : String × String} {id : Uuid} : id ∈ holders identifiers key ↔
    ∃ row ∈ identifiers, row.retiredAt = none ∧ row.key = key ∧ row.assetId = id := by
  simp only [holders,mem_ordered,List.mem_dedup,List.mem_map,List.mem_filter,Bool.and_eq_true,decide_eq_true_eq,and_assoc]

theorem nodup_holders (identifiers : List Cmdb.AssetIdentifier) (key : String × String) : (holders identifiers key).Nodup :=
  (ordered_perm _ _).nodup_iff.mpr (List.nodup_dedup _)

theorem mem_matched {listed : List MentionCandidate} {assetIds : List Uuid} :
    (found,assetIds) ∈ matched identifiers listed ↔
      found ∈ listed ∧ holders identifiers found.key = assetIds ∧ assetIds ≠ [] := by
  rw [matched,List.mem_filterMap]
  constructor
  · rintro ⟨candidate,member,some⟩
    split at some
    · cases some
    · rename_i held
      cases some
      exact ⟨member,held,List.cons_ne_nil _ _⟩
  · rintro ⟨member,held,some⟩
    refine ⟨found,member,?_⟩
    split
    · rename_i none
      exact absurd (held.symm.trans none) some
    · rename_i other
      rw [← held,other]

end Candidates

section Scan

variable {python : Python} {scan : Scan} {identifiers : List Cmdb.AssetIdentifier} {chunks : List KnowledgeChunk}
  {existing : List MentionKey} {progress : Progress}

def keyIn (chunkId : Uuid) (key : String × String) : MentionKey := (chunkId,key.2,some key.1)

theorem surface_kept {text : String} {found : MentionCandidate} (reads : Reads python text found) :
    String.ofList (found.surface.toList.take 255) = found.surface := by
  have short := reads.short
  rw [← String.length_toList] at short
  rw [List.take_of_length_le (by omega),String.ofList_toList]

theorem scanKey_mentionRow {text : String} {found : MentionCandidate} (reads : Reads python text found) (drawn : Nat)
    (chunkId : Uuid) (assetIds : List Uuid) :
    (mentionRow scan drawn chunkId found assetIds).scanKey python = keyIn chunkId found.key := by
  obtain ⟨spec,known,value⟩ := reads.normalised
  simp only [KnowledgeAssetMention.scanKey,mentionRow,Option.getD_some,known,surface_kept reads,value]
  rfl

/-- A row of the scan: a match in one of the chunks that was not on record. -/
def Added (python : Python) (scan : Scan) (identifiers : List Cmdb.AssetIdentifier) (chunks : List KnowledgeChunk)
    (existing : List MentionKey) (row : KnowledgeAssetMention) : Prop :=
  ∃ chunk ∈ chunks, ∃ found ∈ candidates python scan.enumeration chunk.content, ∃ drawn,
    holders identifiers found.key ≠ [] ∧ keyIn chunk.id found.key ∉ existing ∧
      row = mentionRow scan drawn chunk.id found (holders identifiers found.key)

/-- The set of keys is that of the rows on record and of the rows that were added. -/
structure Kept (python : Python) (scan : Scan) (identifiers : List Cmdb.AssetIdentifier) (chunks : List KnowledgeChunk)
    (existing : List MentionKey) (progress : Progress) : Prop where
  added : ∀ row ∈ progress.added, Added python scan identifiers chunks existing row
  known : ∀ key, key ∈ progress.existing ↔ key ∈ existing ∨ ∃ row ∈ progress.added, row.scanKey python = key

theorem record_kept (kept : Kept python scan identifiers chunks existing progress) {chunk : KnowledgeChunk}
    (inChunks : chunk ∈ chunks) {found : MentionCandidate} {assetIds : List Uuid}
    (matches' : (found,assetIds) ∈ matched identifiers (candidates python scan.enumeration chunk.content)) :
    Kept python scan identifiers chunks existing (record scan chunk.id progress (found,assetIds)) := by
  obtain ⟨member,rfl,some⟩ := mem_matched.mp matches'
  unfold record
  dsimp only
  split
  · exact kept
  · rename_i new
    have unrecorded : keyIn chunk.id found.key ∉ progress.existing := new
    have same : (mentionRow scan progress.added.length chunk.id found (holders identifiers found.key)).scanKey python =
        keyIn chunk.id found.key := scanKey_mentionRow (reads_of_mem member) _ _ _
    constructor
    · intro row inAdded
      rcases List.mem_append.mp inAdded with earlier | last
      · exact kept.added row earlier
      · cases List.mem_singleton.mp last
        exact ⟨chunk,inChunks,found,member,_,some,fun listed => unrecorded ((kept.known _).mpr (.inl listed)),rfl⟩
    · intro key
      rw [List.mem_cons,kept.known]
      simp only [List.mem_append,List.mem_singleton]
      constructor
      · rintro (rfl | listed | ⟨row,inAdded,named⟩)
        · exact .inr ⟨_,.inr rfl,same⟩
        · exact .inl listed
        · exact .inr ⟨row,.inl inAdded,named⟩
      · rintro (listed | ⟨row,inAdded | rfl,named⟩)
        · exact .inr (.inl listed)
        · exact .inr (.inr ⟨row,inAdded,named⟩)
        · exact .inl (named.symm.trans same)

theorem record_recorded (chunkId : Uuid) (progress : Progress) (found : MentionCandidate × List Uuid) :
    keyIn chunkId found.1.key ∈ (record scan chunkId progress found).existing := by
  unfold record
  dsimp only
  split
  · assumption
  · exact .head _

theorem record_subset (chunkId : Uuid) (progress : Progress) (found : MentionCandidate × List Uuid) :
    progress.existing ⊆ (record scan chunkId progress found).existing := by
  unfold record
  dsimp only
  split
  · exact List.Subset.refl _
  · exact List.subset_cons_self _ _

theorem foldl_record_subset (chunkId : Uuid) (progress : Progress) (matches' : List (MentionCandidate × List Uuid)) :
    progress.existing ⊆ (matches'.foldl (record scan chunkId) progress).existing := by
  induction matches' generalizing progress with
  | nil => exact List.Subset.refl _
  | cons found rest ih => exact List.Subset.trans (record_subset chunkId progress found) (ih _)

theorem foldl_record_recorded (chunkId : Uuid) {progress : Progress} {matches' : List (MentionCandidate × List Uuid)}
    {found : MentionCandidate × List Uuid} (member : found ∈ matches') :
    keyIn chunkId found.1.key ∈ (matches'.foldl (record scan chunkId) progress).existing := by
  induction member generalizing progress with
  | head rest => exact foldl_record_subset chunkId _ rest (record_recorded chunkId progress found)
  | tail other _ ih => exact ih

theorem foldl_record_kept (kept : Kept python scan identifiers chunks existing progress) {chunk : KnowledgeChunk}
    (inChunks : chunk ∈ chunks) {matches' : List (MentionCandidate × List Uuid)}
    (all : matches' ⊆ matched identifiers (candidates python scan.enumeration chunk.content)) :
    Kept python scan identifiers chunks existing (matches'.foldl (record scan chunk.id) progress) := by
  induction matches' generalizing progress with
  | nil => exact kept
  | cons found rest ih =>
    apply ih (record_kept kept inChunks (all (.head _)))
    exact fun other member => all (.tail _ member)

theorem scanChunk_kept (kept : Kept python scan identifiers chunks existing progress) {chunk : KnowledgeChunk}
    (inChunks : chunk ∈ chunks) :
    Kept python scan identifiers chunks existing (scanChunk python scan identifiers progress chunk) := by
  unfold scanChunk
  dsimp only
  apply foldl_record_kept _ inChunks (List.Subset.refl _)
  exact ⟨kept.added,kept.known⟩

theorem scanChunk_subset (progress : Progress) (chunk : KnowledgeChunk) :
    progress.existing ⊆ (scanChunk python scan identifiers progress chunk).existing :=
  foldl_record_subset _ {progress with considered := progress.considered + _} _

theorem scanChunk_recorded {chunk : KnowledgeChunk} {found : MentionCandidate} (progress : Progress)
    (member : found ∈ candidates python scan.enumeration chunk.content) (held : holders identifiers found.key ≠ []) :
    keyIn chunk.id found.key ∈ (scanChunk python scan identifiers progress chunk).existing := by
  unfold scanChunk
  dsimp only
  exact foldl_record_recorded chunk.id (mem_matched.mpr ⟨member,rfl,held⟩)

theorem scan_kept (kept : Kept python scan identifiers chunks existing progress) {listed : List KnowledgeChunk}
    (all : listed ⊆ chunks) :
    Kept python scan identifiers chunks existing (listed.foldl (scanChunk python scan identifiers) progress) := by
  induction listed generalizing progress with
  | nil => exact kept
  | cons chunk rest ih =>
    rw [List.foldl_cons]
    apply ih (scanChunk_kept kept (all (.head _)))
    exact fun other member => all (.tail _ member)

theorem scan_subset (progress : Progress) (listed : List KnowledgeChunk) :
    progress.existing ⊆ (listed.foldl (scanChunk python scan identifiers) progress).existing := by
  induction listed generalizing progress with
  | nil => exact List.Subset.refl _
  | cons chunk rest ih =>
    rw [List.foldl_cons]
    exact List.Subset.trans (scanChunk_subset progress chunk) (ih _)

theorem scan_recorded {listed : List KnowledgeChunk} {chunk : KnowledgeChunk} {found : MentionCandidate}
    (inListed : chunk ∈ listed) (member : found ∈ candidates python scan.enumeration chunk.content)
    (held : holders identifiers found.key ≠ []) :
    keyIn chunk.id found.key ∈ (listed.foldl (scanChunk python scan identifiers) progress).existing := by
  induction inListed generalizing progress with
  | head rest =>
    rw [List.foldl_cons]
    exact scan_subset _ rest (scanChunk_recorded progress member held)
  | tail other _ ih =>
    rw [List.foldl_cons]
    exact ih

theorem foldl_record_idle {chunkId : Uuid} {matches' : List (MentionCandidate × List Uuid)}
    (recorded : ∀ found ∈ matches', keyIn chunkId found.1.key ∈ progress.existing) :
    matches'.foldl (record scan chunkId) progress = progress := by
  induction matches' with
  | nil => rfl
  | cons found rest ih =>
    have unmoved : record scan chunkId progress found = progress := if_pos (recorded found (.head _))
    rw [List.foldl_cons,unmoved]
    exact ih fun other member => recorded other (.tail _ member)

theorem scanChunk_idle {chunk : KnowledgeChunk}
    (recorded : ∀ found ∈ candidates python scan.enumeration chunk.content, holders identifiers found.key ≠ [] →
      keyIn chunk.id found.key ∈ progress.existing) :
    (scanChunk python scan identifiers progress chunk).existing = progress.existing ∧
      (scanChunk python scan identifiers progress chunk).added = progress.added := by
  unfold scanChunk
  dsimp only
  rw [foldl_record_idle]
  · exact ⟨rfl,rfl⟩
  · intro found member
    obtain ⟨listed,held,some⟩ := mem_matched.mp member
    exact recorded found.1 listed (held ▸ some)

theorem scan_idle {listed : List KnowledgeChunk}
    (recorded : ∀ chunk ∈ listed, ∀ found ∈ candidates python scan.enumeration chunk.content,
      holders identifiers found.key ≠ [] → keyIn chunk.id found.key ∈ progress.existing) :
    (listed.foldl (scanChunk python scan identifiers) progress).added = progress.added := by
  induction listed generalizing progress with
  | nil => rfl
  | cons chunk rest ih =>
    obtain ⟨known,unchanged⟩ := scanChunk_idle (recorded chunk (.head _))
    rw [List.foldl_cons,ih,unchanged]
    intro other member
    rw [known]
    exact recorded other (.tail _ member)

end Scan

section Link

variable {python : Python} {scan : Scan} {chunks : Table KnowledgeChunk.id} {identifiers : List Cmdb.AssetIdentifier}
  {mentions flushed : MentionTable} {versionId : Uuid} {report : MentionReport}

theorem mem_existingKeys {chunkIds : List Uuid} {key : MentionKey} : key ∈ existingKeys python mentions chunkIds ↔
    ∃ row ∈ mentions.rows, row.chunkId ∈ chunkIds ∧ row.mentionSource = identifierMatch ∧ row.scanKey python = key := by
  simp only [existingKeys,List.mem_map,List.mem_filter,Bool.and_eq_true,decide_eq_true_eq,and_assoc]

def chunkIdsOf (chunks : Table KnowledgeChunk.id) (versionId : Uuid) : List Uuid := (versionChunks chunks versionId).map (·.id)

def scanned (python : Python) (scan : Scan) (chunks : Table KnowledgeChunk.id) (identifiers : List Cmdb.AssetIdentifier)
    (mentions : MentionTable) (versionId : Uuid) : Progress :=
  (versionChunks chunks versionId).foldl (scanChunk python scan identifiers)
    {existing := existingKeys python mentions (chunkIdsOf chunks versionId)}

theorem linkVersion_cases : (versionChunks chunks versionId = [] ∧
      ∃ refusal, linkVersion python scan chunks identifiers mentions versionId = .error refusal) ∨
    (versionChunks chunks versionId ≠ [] ∧
      linkVersion python scan chunks identifiers mentions versionId = (do
        columns ((scanned python scan chunks identifiers mentions versionId).added.flatMap (·.checks))
        let next ← keyed (mentions.insertAll (scanned python scan chunks identifiers mentions versionId).added)
        return ({
          chunksScanned := (versionChunks chunks versionId).length
          candidatesConsidered := (scanned python scan chunks identifiers mentions versionId).considered
          mentionsCreated := (scanned python scan chunks identifiers mentions versionId).added.length
          ambiguous := (scanned python scan chunks identifiers mentions versionId).ambiguous},next))) := by
  unfold linkVersion scanned chunkIdsOf
  cases versionChunks chunks versionId with
  | nil => exact .inl ⟨rfl,_,rfl⟩
  | cons first rest => exact .inr ⟨List.cons_ne_nil _ _,rfl⟩

theorem linkVersion_ok (linked : linkVersion python scan chunks identifiers mentions versionId = .ok (report,flushed)) :
    versionChunks chunks versionId ≠ [] ∧
      flushed.rows = mentions.rows ++ (scanned python scan chunks identifiers mentions versionId).added := by
  rcases @linkVersion_cases python scan chunks identifiers mentions versionId with ⟨_,_,refused⟩ | ⟨some,run⟩
  · cases refused.symm.trans linked
  · rw [run] at linked
    obtain ⟨_,_,linked⟩ := bind_ok linked
    obtain ⟨next,inserted,linked⟩ := bind_ok linked
    cases linked
    unfold keyed at inserted
    split at inserted
    · rename_i table added
      cases inserted
      exact ⟨some,(Table.insertAll_eq_some added).2⟩
    · cases inserted

theorem scanned_kept : Kept python scan identifiers (versionChunks chunks versionId)
    (existingKeys python mentions (chunkIdsOf chunks versionId)) (scanned python scan chunks identifiers mentions versionId) := by
  apply scan_kept _ (List.Subset.refl _)
  exact ⟨fun _ none => absurd none List.not_mem_nil,fun key => by simp⟩

theorem recorded_after (linked : linkVersion python scan chunks identifiers mentions versionId = .ok (report,flushed))
    {chunk : KnowledgeChunk} (inVersion : chunk ∈ versionChunks chunks versionId) {enumeration : Enumeration}
    {found : MentionCandidate} (member : found ∈ candidates python enumeration chunk.content)
    (held : holders identifiers found.key ≠ []) :
    keyIn chunk.id found.key ∈ existingKeys python flushed (chunkIdsOf chunks versionId) := by
  obtain ⟨_,rows⟩ := linkVersion_ok linked
  obtain ⟨same,listed,named⟩ := @keys_candidates python _ scan.enumeration _ _ member
  have kept : Kept python scan identifiers (versionChunks chunks versionId)
      (existingKeys python mentions (chunkIdsOf chunks versionId))
      (scanned python scan chunks identifiers mentions versionId) := scanned_kept
  have known : keyIn chunk.id found.key ∈ (scanned python scan chunks identifiers mentions versionId).existing := by
    rw [← named]
    exact scan_recorded inVersion listed (named ▸ held)
  rw [mem_existingKeys,rows]
  rcases (kept.known _).mp known with earlier | ⟨row,inAdded,keyed⟩
  · obtain ⟨row,inRows,ofChunk,source,keyed⟩ := mem_existingKeys.mp earlier
    exact ⟨row,List.mem_append_left _ inRows,ofChunk,source,keyed⟩
  · obtain ⟨other,inOther,_,_,_,_,_,made⟩ := kept.added row inAdded
    refine ⟨row,List.mem_append_right _ inAdded,?_,?_,keyed⟩
    · rw [made]
      exact List.mem_map_of_mem inOther
    · rw [made]
      rfl

theorem linkVersion_again (linked : linkVersion python scan chunks identifiers mentions versionId = .ok (report,flushed))
    (again : Scan) : ∃ later, linkVersion python again chunks identifiers flushed versionId = .ok (later,flushed) ∧
      later.mentionsCreated = 0 := by
  obtain ⟨nonempty,_⟩ := linkVersion_ok linked
  have idle : (scanned python again chunks identifiers flushed versionId).added = [] :=
    scan_idle fun chunk inVersion found member held => recorded_after linked inVersion member held
  have same : flushed.insertAll [] = some flushed := by
    have distinct : ((flushed.rows ++ []).map KnowledgeAssetMention.id).Nodup := by
      rw [List.append_nil]
      exact flushed.distinct
    rw [Table.insertAll,dif_pos distinct]
    congr
    exact List.append_nil _
  rcases @linkVersion_cases python again chunks identifiers flushed versionId with ⟨none,_⟩ | ⟨_,run⟩
  · exact absurd none nonempty
  · rw [run,idle,same]
    exact ⟨_,rfl,rfl⟩

end Link

section Grounded

variable {python : Python} {scan : Scan} {chunks : Table KnowledgeChunk.id} {inventory : Cmdb.Tables}
  {mentions flushed : MentionTable} {versionId : Uuid} {report : MentionReport}

/-- A mention that a scan recorded in a chunk of the version. -/
def Scanned (chunks : Table KnowledgeChunk.id) (versionId : Uuid) (mention : KnowledgeAssetMention) : Prop :=
  mention.mentionSource = identifierMatch ∧ mention.chunkId ∈ chunkIdsOf chunks versionId

/-- A mention quotes its chunk and reads as a live identifier of each of its candidates. -/
structure Traced (python : Python) (chunks : Table KnowledgeChunk.id) (inventory : Cmdb.Tables)
    (mention : KnowledgeAssetMention) : Prop where
  quotes : ∃ chunk ∈ chunks.rows, chunk.id = mention.chunkId ∧ mention.mentionText.toList <:+: chunk.content.toList
  reads : ∃ name spec, mention.matchedNamespace = some name ∧ identifierNamespaces.lookup name = some spec ∧
    ∀ assetId ∈ mention.candidateAssetIds, ∃ row ∈ inventory.identifiers.rows, row.retiredAt = none ∧
      row.key = (name,spec.normaliser.apply python mention.mentionText) ∧ row.assetId = assetId
  resolves : mention.resolution = "RESOLVED" ↔ ∃! assetId, assetId ∈ mention.candidateAssetIds

def InUse (inventory : Cmdb.Tables) (assetId : Uuid) : Prop :=
  ∃ asset, inventory.assets.find assetId = some asset ∧ ¬ asset.lifecycleState.Terminal

structure Grounded (python : Python) (chunks : Table KnowledgeChunk.id) (inventory : Cmdb.Tables)
    (mention : KnowledgeAssetMention) : Prop extends Traced python chunks inventory mention where
  inUse : ∀ assetId ∈ mention.candidateAssetIds, InUse inventory assetId

theorem unique_iff_length {α : Type} {listed : List α} (distinct : listed.Nodup) :
    listed.length = 1 ↔ ∃! element, element ∈ listed := by
  constructor
  · intro single
    obtain ⟨element,rfl⟩ := List.length_eq_one_iff.mp single
    exact ⟨element,.head _,fun _ member => List.mem_singleton.mp member⟩
  · rintro ⟨element,member,only⟩
    rcases listed with _ | ⟨first,_ | ⟨second,rest⟩⟩
    · cases member
    · rfl
    · have same : first = second := (only first (.head _)).trans (only second (.tail _ (.head _))).symm
      subst same
      exact absurd (.head _) (List.nodup_cons.mp distinct).1

theorem mem_versionChunks {chunk : KnowledgeChunk} :
    chunk ∈ versionChunks chunks versionId ↔ chunk ∈ chunks.rows ∧ chunk.versionId = versionId := by
  simp only [versionChunks,mem_ordered,List.mem_filter,decide_eq_true_eq]

theorem traced_added {existing : List MentionKey} {mention : KnowledgeAssetMention}
    (added : Added python scan inventory.identifiers.rows (versionChunks chunks versionId) existing mention) :
    Traced python chunks inventory mention := by
  obtain ⟨chunk,inVersion,found,member,drawn,_,_,rfl⟩ := added
  have reads := reads_of_mem member
  obtain ⟨spec,known,value⟩ := reads.normalised
  refine ⟨⟨chunk,(mem_versionChunks.mp inVersion).1,rfl,?_⟩,⟨found.namespaceName,spec,rfl,known,?_⟩,?_⟩
  · simp only [mentionRow,surface_kept reads]
    exact reads.inside
  · intro assetId candidate
    simp only [mentionRow,surface_kept reads,value]
    exact mem_holders.mp candidate
  · simp only [mentionRow]
    rw [← unique_iff_length (nodup_holders inventory.identifiers.rows found.key)]
    split
    · exact iff_of_true rfl ‹_›
    · exact iff_of_false (by decide) ‹_›

/-- Mentions are grounded after a scan, and a further one changes nothing, if and only if those on
record before are and no live identifier that a chunk names for the first time is a terminal asset's. -/
theorem mentions_grounded (python : Python) (scan : Scan) (chunks : Table KnowledgeChunk.id) (inventory : Cmdb.Tables)
    (mentions flushed : MentionTable) (versionId : Uuid) (report : MentionReport)
    (linked : linkVersion python scan chunks inventory.identifiers.rows mentions versionId = .ok (report,flushed)) :
    ((∀ mention ∈ flushed.rows, Scanned chunks versionId mention → Grounded python chunks inventory mention) ∧
      ∀ again : Scan, ∃ later, later.mentionsCreated = 0 ∧
        linkVersion python again chunks inventory.identifiers.rows flushed versionId = .ok (later,flushed)) ↔
    (∀ mention ∈ mentions.rows, Scanned chunks versionId mention → Grounded python chunks inventory mention) ∧
      ∀ chunk ∈ versionChunks chunks versionId, ∀ found ∈ candidates python scan.enumeration chunk.content,
        keyIn chunk.id found.key ∉ existingKeys python mentions (chunkIdsOf chunks versionId) →
        ∀ row ∈ inventory.identifiers.rows, row.retiredAt = none → row.key = found.key → InUse inventory row.assetId := by
  obtain ⟨_,rows⟩ := linkVersion_ok linked
  have kept : Kept python scan inventory.identifiers.rows (versionChunks chunks versionId)
      (existingKeys python mentions (chunkIdsOf chunks versionId))
      (scanned python scan chunks inventory.identifiers.rows mentions versionId) := scanned_kept
  constructor
  · rintro ⟨grounded,_⟩
    refine ⟨fun mention member => grounded mention (rows ▸ List.mem_append_left _ member),?_⟩
    intro chunk inVersion found member unrecorded row inRows live named
    have held : row.assetId ∈ holders inventory.identifiers.rows found.key := mem_holders.mpr ⟨row,inRows,live,named,rfl⟩
    have known : keyIn chunk.id found.key ∈
        (scanned python scan chunks inventory.identifiers.rows mentions versionId).existing :=
      scan_recorded inVersion member (List.ne_nil_of_mem held)
    -- The match is new, so that the scan has added a row under its key.
    rcases (kept.known _).mp known with listed | ⟨mention,inAdded,keyed⟩
    · exact absurd listed unrecorded
    obtain ⟨other,inOther,same,inSame,drawn,_,_,rfl⟩ := kept.added mention inAdded
    rw [scanKey_mentionRow (reads_of_mem inSame)] at keyed
    have sameKey : same.key = found.key :=
      Prod.ext (Option.some.inj (congrArg (·.2.2) keyed)) (congrArg (·.2.1) keyed)
    have scannedRow : Scanned chunks versionId (mentionRow scan drawn other.id same
        (holders inventory.identifiers.rows same.key)) := ⟨rfl,List.mem_map_of_mem inOther⟩
    apply (grounded _ (rows ▸ List.mem_append_right _ inAdded) scannedRow).inUse
    rw [← sameKey] at held
    exact held
  · rintro ⟨before,unrecorded⟩
    refine ⟨?_,fun again => ?_⟩
    · intro mention member isScanned
      rw [rows] at member
      rcases List.mem_append.mp member with earlier | new
      · exact before mention earlier isScanned
      · have added := kept.added mention new
        refine ⟨traced_added added,?_⟩
        obtain ⟨chunk,inVersion,found,listed,_,_,fresh,rfl⟩ := added
        intro assetId candidate
        obtain ⟨row,inRows,live,named,rfl⟩ := mem_holders.mp candidate
        exact unrecorded chunk inVersion found listed fresh row inRows live named
    · obtain ⟨later,run,none⟩ := linkVersion_again linked again
      exact ⟨later,none,run⟩

end Grounded

section Laboratory

def labChunk : KnowledgeChunk where
  id := 21
  versionId := 7
  documentId := 5
  sourceId := 3
  ordinal := 0
  content := "Reboot SN1"
  contentHash := ""
  charStart := 0
  charEnd := 10
  tokenEstimate := 4
  headingPath := none
  sectionLabel := none
  flags := []

def labChunks : Table KnowledgeChunk.id := ⟨[labChunk],by decide⟩

def labScan : Scan where
  enumeration := ⟨mentionableNamespaces,.refl _⟩
  principal := Cmdb.labPerson "operator"
  now := 2
  ids := fun drawn => BitVec.ofNat 128 (100 + drawn)

def labMention : KnowledgeAssetMention := mentionRow labScan 0 21 ⟨"serial","SN1","SN1"⟩ [1]

def noMentions : MentionTable := ⟨[],List.nodup_nil⟩

/-- The inventory, with its first host retired: its serial number is still live. -/
def labRetired : Cmdb.Tables := Cmdb.after Cmdb.Tables.violation Cmdb.labPython Cmdb.labTables [Cmdb.retiring 1 1]

/-- A retired machine is named in a chunk, and the mention is resolved to it. -/
theorem retired_is_linked : ∃ report flushed, linkVersion Cmdb.labPython labScan labChunks labRetired.identifiers.rows
    noMentions 7 = .ok (report,flushed) ∧
    ¬ ∀ mention ∈ flushed.rows, Scanned labChunks 7 mention → Grounded Cmdb.labPython labChunks labRetired mention := by
  refine ⟨⟨1,14,1,0⟩,⟨[labMention],by decide⟩,rfl,?_⟩
  intro grounded
  obtain ⟨asset,found,current⟩ := (grounded labMention (.head _) ⟨rfl,.head _⟩).inUse 1 (.head _)
  have retired : labRetired.assets.find 1 = some ((Cmdb.AssetService.retired 1).change (Cmdb.labHost 1 "pve-01")) := by decide +kernel
  rw [retired] at found
  cases found
  exact current (.inl rfl)

/-- Before its retirement the machine is named without fault. -/
theorem mentions_grounded_lab :
    ((∀ mention ∈ [labMention], Scanned labChunks 7 mention → Grounded Cmdb.labPython labChunks Cmdb.labTables mention) ∧
      ∀ again : Scan, ∃ later, later.mentionsCreated = 0 ∧
        linkVersion Cmdb.labPython again labChunks Cmdb.labTables.identifiers.rows ⟨[labMention],by decide⟩ 7 =
          .ok (later,⟨[labMention],by decide⟩)) ↔
    (∀ mention ∈ noMentions.rows, Scanned labChunks 7 mention → Grounded Cmdb.labPython labChunks Cmdb.labTables mention) ∧
      ∀ chunk ∈ versionChunks labChunks 7, ∀ found ∈ candidates Cmdb.labPython labScan.enumeration chunk.content,
        keyIn chunk.id found.key ∉ existingKeys Cmdb.labPython noMentions (chunkIdsOf labChunks 7) →
        ∀ row ∈ Cmdb.labTables.identifiers.rows, row.retiredAt = none → row.key = found.key →
          InUse Cmdb.labTables row.assetId :=
  mentions_grounded Cmdb.labPython labScan labChunks Cmdb.labTables noMentions ⟨[labMention],by decide⟩ 7 ⟨1,14,1,0⟩ rfl

end Laboratory

end Acop.Knowledge
