import Acop.Cmdb.Compliance
import Acop.Guarantee.TerminalAssets

/-! Identity resolution. A call that is not refused comes to an asset which holds every identifier
presented, and doing it again is a match that changes nothing but the times of last sight. This
fails where the asset is to be given one identifier twice: the database then refuses the flush. -/
namespace Acop.Cmdb
open Acop.Store

section Acceptance

variable {tables base next : Tables}

/-- What the database asks of the identifiers. -/
structure IdentifiersFit (hasAsset : Uuid → Bool) (rows : List AssetIdentifier) : Prop where
  checks : ∀ row ∈ rows, ∀ check ∈ row.checks, check.2 = true
  owned : ∀ row ∈ rows, hasAsset row.assetId = true
  liveUnique : rows.Pairwise fun first second =>
    (sameIdentifier first second && first.uniqueInNamespace && second.uniqueInNamespace) = false
  assetValue : rows.Pairwise fun first second => (sameIdentifier first second && first.assetId = second.assetId) = false

theorem Accepted.identifiersFit (accepted : Accepted tables) : IdentifiersFit tables.hasAsset tables.identifiers.rows := by
  have cross := accepted.cross
  simp only [Passes,Tables.crossChecks,List.mem_cons,List.not_mem_nil,or_false,forall_eq_or_imp,forall_eq,Bool.and_eq_true,
    List.all_eq_true,apart,decide_eq_true_eq] at cross
  exact ⟨accepted.identifiers,cross.1.1.1.2,cross.2.2.2.1,cross.2.2.2.2.1⟩

theorem Accepted.merged (accepted : Accepted tables) :
    ∀ row ∈ tables.assets.rows, ∀ id ∈ row.mergedIntoId, tables.hasAsset id = true := by
  have cross := accepted.cross
  simp only [Passes,Tables.crossChecks,List.mem_cons,forall_eq_or_imp,Bool.and_eq_true,List.all_eq_true] at cross
  intro row member id into
  have refers := cross.1.1.1.1 row member
  rw [Option.mem_def.mp into] at refers
  exact refers

theorem accepted_next (accepted : Accepted base) (facts : next.facts = base.facts)
    (relationships : next.relationships = base.relationships) (attestations : next.attestations = base.attestations)
    (grows : ∀ id, base.hasAsset id = true → next.hasAsset id = true)
    (merged : ∀ row ∈ next.assets.rows, ∀ id ∈ row.mergedIntoId, base.hasAsset id = true) :
    Accepted next ↔ (∀ row ∈ next.assets.rows, ∀ check ∈ row.checks, check.2 = true) ∧
      IdentifiersFit next.hasAsset next.identifiers.rows := by
  constructor
  · exact fun after => ⟨after.assets,after.identifiersFit⟩
  · rintro ⟨assets,fit⟩
    have cross := accepted.cross
    simp only [Passes,Tables.crossChecks,List.mem_cons,List.not_mem_nil,or_false,forall_eq_or_imp,forall_eq,Bool.and_eq_true,
      List.all_eq_true,apart,decide_eq_true_eq] at cross
    obtain ⟨⟨⟨⟨_,_⟩,factAssets⟩,edgeAssets⟩,supersedes,derived,_,_,rest⟩ := cross
    refine ⟨assets,fit.checks,facts ▸ accepted.facts,relationships ▸ accepted.relationships,
      attestations ▸ accepted.attestations,?_⟩
    have hasFact : next.hasFact = base.hasFact := by
      funext id
      simp only [Tables.hasFact,facts]
    simp only [Passes,Tables.crossChecks,List.mem_cons,List.not_mem_nil,or_false,forall_eq_or_imp,forall_eq,Bool.and_eq_true,
      List.all_eq_true,apart,decide_eq_true_eq,facts,relationships,attestations,hasFact]
    refine ⟨⟨⟨⟨?_,fit.owned⟩,?_⟩,?_⟩,supersedes,derived,fit.liveUnique,fit.assetValue,rest⟩
    · intro row member
      cases into : row.mergedIntoId with
      | none => rfl
      | some id => exact grows id (merged row member id into)
    · intro fact member
      obtain ⟨owner,referred⟩ := factAssets fact member
      refine ⟨grows _ owner,?_⟩
      cases value : fact.value with
      | assetRef id =>
        rw [value] at referred
        exact grows id referred
      | _ => rfl
    · intro edge member
      obtain ⟨source,target⟩ := edgeAssets edge member
      exact ⟨grows _ source,grows _ target⟩

end Acceptance

section Unseen

def AssetIdentifier.unseen (row : AssetIdentifier) : AssetIdentifier := {row with lastSeenAt := 0}

theorem pairwise_unseen {first second : List AssetIdentifier} (same : first.map AssetIdentifier.unseen = second.map AssetIdentifier.unseen)
    {clash : AssetIdentifier → AssetIdentifier → Prop} (blind : ∀ one other, clash one.unseen other.unseen ↔ clash one other) :
    first.Pairwise clash → second.Pairwise clash := by
  intro pairwise
  have moved : (first.map AssetIdentifier.unseen).Pairwise clash :=
    List.pairwise_map.mpr (pairwise.imp fun apart => (blind _ _).mpr apart)
  rw [same] at moved
  exact (List.pairwise_map.mp moved).imp fun apart => (blind _ _).mp apart

theorem mem_unseen {first second : List AssetIdentifier} (same : first.map AssetIdentifier.unseen = second.map AssetIdentifier.unseen)
    {row : AssetIdentifier} (member : row ∈ second) : ∃ other ∈ first, other.unseen = row.unseen := by
  have listed : row.unseen ∈ first.map AssetIdentifier.unseen := same ▸ List.mem_map_of_mem member
  exact List.mem_map.mp listed

theorem IdentifiersFit.of_unseen {hasAsset : Uuid → Bool} {first second : List AssetIdentifier}
    (same : first.map AssetIdentifier.unseen = second.map AssetIdentifier.unseen) (fit : IdentifiersFit hasAsset first) :
    IdentifiersFit hasAsset second := by
  constructor
  · intro row member
    obtain ⟨other,inFirst,equal⟩ := mem_unseen same member
    have checks : other.unseen.checks = row.unseen.checks := congrArg AssetIdentifier.checks equal
    intro check inChecks
    exact fit.checks other inFirst check (checks.symm ▸ inChecks : check ∈ other.unseen.checks)
  · intro row member
    obtain ⟨other,inFirst,equal⟩ := mem_unseen same member
    have owner : other.unseen.assetId = row.unseen.assetId := congrArg (·.assetId) equal
    exact (congrArg hasAsset owner).symm.trans (fit.owned other inFirst)
  · exact pairwise_unseen same (fun _ _ => Iff.rfl) fit.liveUnique
  · exact pairwise_unseen same (fun _ _ => Iff.rfl) fit.assetValue

end Unseen

namespace IdentityResolver

section Attach

variable (moment : Moment) (assetId : Uuid)

def missing (existing : List AssetIdentifier) (items : List NormalisedIdentifier) : List NormalisedIdentifier :=
  items.filter fun item => existing.all fun row => row.key ≠ item.key

/-- The rows of items that are missing, when so many identifiers have been drawn. -/
def newRows (drawn : Nat) (items : List NormalisedIdentifier) : List AssetIdentifier :=
  items.mapIdx fun place item => newIdentifier (moment.newId (drawn + place)) assetId item moment.now

variable {moment : Moment} {assetId : Uuid} {existing : List AssetIdentifier} {tables next : Tables}

theorem newRows_cons (drawn : Nat) (item : NormalisedIdentifier) (items : List NormalisedIdentifier) :
    newRows moment assetId drawn (item::items) =
      newIdentifier (moment.newId drawn) assetId item moment.now::newRows moment assetId (drawn + 1) items := by
  simp only [newRows,List.mapIdx_cons,Nat.add_zero,Nat.add_comm,Nat.add_left_comm]

theorem mem_newRows {drawn : Nat} {items : List NormalisedIdentifier} {row : AssetIdentifier}
    (member : row ∈ newRows moment assetId drawn items) :
    ∃ id, ∃ item ∈ items, row = newIdentifier id assetId item moment.now := by
  obtain ⟨place,inside,rfl⟩ := List.mem_mapIdx.mp member
  exact ⟨_,_,List.getElem_mem inside,rfl⟩

theorem keys_newRows (drawn : Nat) (items : List NormalisedIdentifier) :
    (newRows moment assetId drawn items).map AssetIdentifier.key = items.map NormalisedIdentifier.key := by
  induction items generalizing drawn with
  | nil => rfl
  | cons item items ih =>
    rw [newRows_cons,List.map_cons,List.map_cons,ih]
    rfl

theorem unseen_update (identifiers : Table AssetIdentifier.id) (id : Uuid) (now : Time) :
    (identifiers.update id (seeIdentifier now)).rows.map AssetIdentifier.unseen =
      identifiers.rows.map AssetIdentifier.unseen := Table.map_revise fun _ => rfl

/-- Attaching sees the items that are held and adds the others, if the identifiers drawn for these are new. -/
theorem attachItems_cases (existing : List AssetIdentifier) (items : List NormalisedIdentifier) (drawn : Nat) (tables : Tables) :
    (((tables.identifiers.rows ++ newRows moment assetId drawn (missing existing items)).map (·.id)).Nodup ∧
      ∃ identifiers, attachItems moment existing assetId drawn items tables = .ok {tables with identifiers} ∧
        identifiers.rows.map AssetIdentifier.unseen =
          (tables.identifiers.rows ++ newRows moment assetId drawn (missing existing items)).map AssetIdentifier.unseen) ∨
    (¬ ((tables.identifiers.rows ++ newRows moment assetId drawn (missing existing items)).map (·.id)).Nodup ∧
      attachItems moment existing assetId drawn items tables = .error (.integrity .primaryKey)) := by
  induction items generalizing drawn tables with
  | nil =>
    left
    refine ⟨?_,tables.identifiers,rfl,?_⟩
    · simpa [missing,newRows] using tables.identifiers.distinct
    · simp [missing,newRows]
  | cons item items ih =>
    unfold attachItems
    cases held : existing.find? fun row => row.key = item.key with
    | some found =>
      have kept : missing existing (item::items) = missing existing items := by
        apply List.filter_cons_of_neg
        rw [List.all_eq_true]
        intro none
        have same : found.key = item.key := by simpa using List.find?_some held
        simpa [same] using none found (List.mem_of_find?_eq_some held)
      rw [kept]
      have ids : (tables.identifiers.update found.id (seeIdentifier moment.now)).rows.map (·.id) =
          tables.identifiers.rows.map (·.id) := Table.map_revise fun _ => rfl
      have seen := unseen_update tables.identifiers found.id moment.now
      rcases ih drawn {tables with identifiers := tables.identifiers.update found.id (seeIdentifier moment.now)} with
        ⟨fresh,identifiers,done,same⟩ | ⟨stale,refused⟩
      · left
        rw [List.map_append,ids,← List.map_append] at fresh
        rw [List.map_append,seen,← List.map_append] at same
        exact ⟨fresh,identifiers,done,same⟩
      · right
        rw [List.map_append,ids,← List.map_append] at stale
        exact ⟨stale,refused⟩
    | none =>
      have added : missing existing (item::items) = item::missing existing items := by
        apply List.filter_cons_of_pos
        simpa using List.find?_eq_none.mp held
      rw [added,newRows_cons]
      dsimp only
      unfold insertIdentifier
      cases inserted : tables.identifiers.insert (newIdentifier (moment.newId drawn) assetId item moment.now) with
      | none =>
        right
        refine ⟨?_,rfl⟩
        intro distinct
        have fresh : (newIdentifier (moment.newId drawn) assetId item moment.now).id ∉ tables.identifiers.rows.map (·.id) := by
          intro taken
          rw [List.map_append,List.nodup_append] at distinct
          exact distinct.2.2 _ taken _ (.head _) rfl
        rw [Table.insert,dif_pos fresh] at inserted
        cases inserted
      | some identifiers =>
        have rows := (Table.insert_eq_some inserted).2
        rcases ih (drawn + 1) {tables with identifiers} with ⟨fresh,later,done,same⟩ | ⟨stale,refused⟩
        · left
          rw [rows,List.append_assoc,List.singleton_append] at fresh same
          exact ⟨fresh,later,done,same⟩
        · right
          rw [rows,List.append_assoc,List.singleton_append] at stale
          exact ⟨stale,refused⟩

end Attach

end IdentityResolver

section Fit

variable {moment : Moment} {assetId : Uuid} {items : List NormalisedIdentifier}

theorem sameIdentifier_iff {first second : AssetIdentifier} :
    sameIdentifier first second = true ↔ first.key = second.key ∧ first.Live ∧ second.Live := by
  simp only [sameIdentifier,Bool.and_eq_true,decide_eq_true_eq,AssetIdentifier.key,Prod.mk.injEq,AssetIdentifier.Live]
  tauto

theorem mem_heldBy {tables : Tables} {row : AssetIdentifier} :
    row ∈ IdentityResolver.heldBy tables assetId ↔ row ∈ tables.identifiers.rows ∧ row.assetId = assetId ∧ row.Live := by
  simp only [IdentityResolver.heldBy,List.mem_filter,Bool.and_eq_true,decide_eq_true_eq,AssetIdentifier.Live]

theorem mem_missing {existing : List AssetIdentifier} {item : NormalisedIdentifier} :
    item ∈ IdentityResolver.missing existing items ↔ item ∈ items ∧ ∀ row ∈ existing, row.key ≠ item.key := by
  simp only [IdentityResolver.missing,List.mem_filter,List.all_eq_true,decide_eq_true_eq]

/-- No other asset holds one of the unique items live. -/
def HeldApart (tables : Tables) (assetId : Uuid) (items : List NormalisedIdentifier) : Prop :=
  ∀ item ∈ items, item.uniqueInNamespace = true → ∀ row ∈ tables.identifiers.rows, row.Live → row.key = item.key →
    row.assetId = assetId

/-- The rows that an asset is to be given fit in if and only if their keys are distinct and their columns hold them. -/
theorem fit_append {tables : Tables} {hasAsset : Uuid → Bool} (fit : IdentifiersFit hasAsset tables.identifiers.rows)
    (owner : hasAsset assetId = true) (heldApart : HeldApart tables assetId items) (drawn : Nat) :
    IdentifiersFit hasAsset (tables.identifiers.rows ++ IdentityResolver.newRows moment assetId drawn
        (IdentityResolver.missing (IdentityResolver.heldBy tables assetId) items)) ↔
      ((IdentityResolver.missing (IdentityResolver.heldBy tables assetId) items).map (·.key)).Nodup ∧
        ∀ row ∈ IdentityResolver.newRows moment assetId drawn
          (IdentityResolver.missing (IdentityResolver.heldBy tables assetId) items), ∀ check ∈ row.checks, check.2 = true := by
  generalize given : IdentityResolver.newRows moment assetId drawn
    (IdentityResolver.missing (IdentityResolver.heldBy tables assetId) items) = new
  have keys : new.map AssetIdentifier.key =
      (IdentityResolver.missing (IdentityResolver.heldBy tables assetId) items).map (·.key) := by
    rw [← given,IdentityResolver.keys_newRows]
  have made : ∀ row ∈ new, row.assetId = assetId ∧ row.Live ∧ ∃ item ∈ items, row.key = item.key ∧
      row.uniqueInNamespace = item.uniqueInNamespace ∧ ∀ held ∈ IdentityResolver.heldBy tables assetId, held.key ≠ row.key := by
    intro row member
    rw [← given] at member
    obtain ⟨id,item,lacks,rfl⟩ := IdentityResolver.mem_newRows member
    obtain ⟨inItems,unheld⟩ := mem_missing.mp lacks
    exact ⟨rfl,rfl,item,inItems,rfl,rfl,unheld⟩
  constructor
  · intro whole
    refine ⟨?_,fun row member => whole.checks row (List.mem_append_right _ member)⟩
    rw [← keys,List.Nodup,List.pairwise_map]
    apply (List.pairwise_append.mp whole.assetValue).2.1.imp_of_mem
    intro first second inFirst inSecond apart same
    have clash : sameIdentifier first second = true :=
      sameIdentifier_iff.mpr ⟨same,(made first inFirst).2.1,(made second inSecond).2.1⟩
    have owners : first.assetId = second.assetId := (made first inFirst).1.trans (made second inSecond).1.symm
    simp [clash,owners] at apart
  · rintro ⟨distinct,checks⟩
    have apart : new.Pairwise fun first second => sameIdentifier first second = false := by
      rw [← keys,List.Nodup,List.pairwise_map] at distinct
      apply distinct.imp
      intro first second differs
      rw [← Bool.not_eq_true,sameIdentifier_iff]
      exact fun same => differs same.1
    -- A row that was there and that a new one repeats would be another asset's.
    have cross : ∀ old ∈ tables.identifiers.rows, ∀ row ∈ new, sameIdentifier old row = true → old.assetId ≠ assetId := by
      intro old inOld row member same owned
      obtain ⟨equal,live,_⟩ := sameIdentifier_iff.mp same
      obtain ⟨_,_,_,_,_,_,unheld⟩ := made row member
      exact unheld old (mem_heldBy.mpr ⟨inOld,owned,live⟩) equal
    constructor
    · intro row member
      rcases List.mem_append.mp member with old | fresh
      · exact fit.checks row old
      · exact checks row fresh
    · intro row member
      rcases List.mem_append.mp member with old | fresh
      · exact fit.owned row old
      · rw [(made row fresh).1]
        exact owner
    · refine List.pairwise_append.mpr ⟨fit.liveUnique,apart.imp fun none => by simp [none],?_⟩
      intro old inOld row member
      by_contra both
      simp only [Bool.not_eq_false,Bool.and_eq_true] at both
      obtain ⟨⟨same,_⟩,flagged⟩ := both
      obtain ⟨_,_,item,inItems,sameKey,sameFlag,_⟩ := made row member
      obtain ⟨equal,live,_⟩ := sameIdentifier_iff.mp same
      exact cross old inOld row member same
        (heldApart item inItems (sameFlag ▸ flagged) old inOld live (equal.trans sameKey))
    · refine List.pairwise_append.mpr ⟨fit.assetValue,apart.imp fun none => by simp [none],?_⟩
      intro old inOld row member
      by_contra both
      simp only [Bool.not_eq_false,Bool.and_eq_true,decide_eq_true_eq] at both
      exact cross old inOld row member both.1 (both.2.trans (made row member).1)

end Fit

section Normalise

variable {python : Python} {identifiers : List IdentifierInput} {items : List NormalisedIdentifier}

def UniqueNamespace (namespaceName : String) : Prop :=
  ((identifierNamespaces.lookup namespaceName).getD {unique := false}).unique = true

end Normalise

section Attach

variable {moment : Moment} {assetId : Uuid} {items : List NormalisedIdentifier} {tables : Tables}

/-- The asset can be given what it lacks: no key twice, every row in its columns, and fresh ids. -/
structure Attachable (moment : Moment) (tables : Tables) (assetId : Uuid) (items : List NormalisedIdentifier) : Prop where
  distinct : ((IdentityResolver.missing (IdentityResolver.heldBy tables assetId) items).map (·.key)).Nodup
  fits : ∀ row ∈ IdentityResolver.newRows moment assetId 1
    (IdentityResolver.missing (IdentityResolver.heldBy tables assetId) items), ∀ check ∈ row.checks, check.2 = true
  fresh : ((tables.identifiers.rows ++ IdentityResolver.newRows moment assetId 1
    (IdentityResolver.missing (IdentityResolver.heldBy tables assetId) items)).map (·.id)).Nodup

def Attached (moment : Moment) (tables : Tables) (assetId : Uuid) (items : List NormalisedIdentifier)
    (identifiers : Table AssetIdentifier.id) : Prop :=
  identifiers.rows.map AssetIdentifier.unseen = (tables.identifiers.rows ++ IdentityResolver.newRows moment assetId 1
    (IdentityResolver.missing (IdentityResolver.heldBy tables assetId) items)).map AssetIdentifier.unseen

theorem attachMissing_cases (accepted : Accepted tables) (owner : tables.hasAsset assetId = true)
    (heldApart : HeldApart tables assetId items) :
    (Attachable moment tables assetId items ∧ ∃ identifiers, Attached moment tables assetId items identifiers ∧
      Accepted {tables with identifiers} ∧
      IdentityResolver.attachMissing Tables.violation moment tables assetId items = .ok {tables with identifiers}) ∨
    (¬ Attachable moment tables assetId items ∧ ∃ constraint,
      IdentityResolver.attachMissing Tables.violation moment tables assetId items = .error (.integrity constraint)) := by
  unfold IdentityResolver.attachMissing
  rcases @IdentityResolver.attachItems_cases moment assetId (IdentityResolver.heldBy tables assetId) items 1 tables with
    ⟨fresh,identifiers,done,same⟩ | ⟨stale,refused⟩
  · have step : Accepted {tables with identifiers} ↔ (∀ row ∈ tables.assets.rows, ∀ check ∈ row.checks, check.2 = true) ∧
        IdentifiersFit tables.hasAsset identifiers.rows :=
      accepted_next accepted rfl rfl rfl (fun _ has => has) accepted.merged
    have asks : Accepted {tables with identifiers} ↔
        ((IdentityResolver.missing (IdentityResolver.heldBy tables assetId) items).map (·.key)).Nodup ∧
          ∀ row ∈ IdentityResolver.newRows moment assetId 1
            (IdentityResolver.missing (IdentityResolver.heldBy tables assetId) items), ∀ check ∈ row.checks, check.2 = true := by
      rw [step,← fit_append accepted.identifiersFit owner heldApart 1]
      constructor
      · exact fun whole => whole.2.of_unseen same
      · exact fun fit => ⟨accepted.assets,fit.of_unseen same.symm⟩
    rw [done,ok_bind]
    cases refused : Tables.violation {tables with identifiers} with
    | none =>
      have after := accepted_iff.mp refused
      obtain ⟨distinct,fits⟩ := asks.mp after
      exact .inl ⟨⟨distinct,fits,fresh⟩,identifiers,same,after,flush_eq refused⟩
    | some constraint =>
      refine .inr ⟨?_,constraint,flush_refused refused⟩
      intro attachable
      have none := accepted_iff.mpr (asks.mpr ⟨attachable.distinct,attachable.fits⟩)
      cases none.symm.trans refused
  · right
    rw [refused]
    exact ⟨fun attachable => stale attachable.fresh,_,rfl⟩

end Attach

section Owner

variable {tables : Tables}

theorem hasAsset_iff {id : Uuid} : tables.hasAsset id = true ↔ id ∈ tables.assets.rows.map (·.id) := by
  rw [Tables.hasAsset,Option.isSome_iff_exists,List.mem_map]
  constructor
  · rintro ⟨asset,found⟩
    exact ⟨asset,Table.find_eq_some.mp found⟩
  · rintro ⟨asset,found⟩
    exact ⟨asset,Table.find_eq_some.mpr found⟩

theorem accepted_revised (accepted : Accepted tables) {id : Uuid} {revision : Revision Asset.id}
    (unmerged : ∀ row, (revision.change row).mergedIntoId = row.mergedIntoId) :
    Accepted {tables with assets := tables.assets.update id revision} ↔
      ∀ row ∈ tables.assets.rows, row.id = id → ∀ check ∈ (revision.change row).checks, check.2 = true := by
  have ids : (tables.assets.update id revision).rows.map (·.id) = tables.assets.rows.map (·.id) :=
    Table.map_revise revision.keeps
  have same : ({tables with assets := tables.assets.update id revision} : Tables).hasAsset = tables.hasAsset := by
    funext other
    rw [Bool.eq_iff_iff,hasAsset_iff,hasAsset_iff,ids]
  have merged : ∀ row ∈ (tables.assets.update id revision).rows, ∀ other ∈ row.mergedIntoId, tables.hasAsset other = true := by
    intro row member other into
    obtain ⟨old,inOld,⟨_,rfl⟩ | ⟨_,rfl⟩⟩ := Table.mem_update.mp member
    · exact accepted.merged old inOld other (unmerged old ▸ into)
    · exact accepted.merged row inOld other into
  rw [@accepted_next tables {tables with assets := tables.assets.update id revision} accepted rfl rfl rfl
    (fun _ has => same ▸ has) merged]
  constructor
  · intro whole row member named
    exact whole.1 _ (Table.mem_update.mpr ⟨row,member,.inl ⟨named,rfl⟩⟩)
  · intro checks
    refine ⟨?_,same ▸ accepted.identifiersFit⟩
    intro row member
    obtain ⟨old,inOld,⟨named,rfl⟩ | ⟨_,rfl⟩⟩ := Table.mem_update.mp member
    · exact checks old inOld named
    · exact accepted.assets row inOld

theorem accepted_added (accepted : Accepted tables) {asset : Asset} {assets : Table Asset.id}
    (added : tables.assets.insert asset = some assets) (alone : asset.mergedIntoId = none) :
    Accepted {tables with assets} ↔ ∀ check ∈ asset.checks, check.2 = true := by
  have grows : ∀ id, tables.hasAsset id = true → ({tables with assets} : Tables).hasAsset id = true := by
    intro id has
    rw [hasAsset_iff] at has ⊢
    obtain ⟨row,member,named⟩ := List.mem_map.mp has
    exact List.mem_map.mpr ⟨row,(Table.mem_insert added).mpr (.inl member),named⟩
  have merged : ∀ row ∈ assets.rows, ∀ id ∈ row.mergedIntoId, tables.hasAsset id = true := by
    intro row member id into
    rcases (Table.mem_insert added).mp member with old | rfl
    · exact accepted.merged row old id into
    · rw [alone] at into
      cases into
  rw [@accepted_next tables {tables with assets} accepted rfl rfl rfl grows merged]
  constructor
  · exact fun whole => whole.1 asset ((Table.mem_insert added).mpr (.inr rfl))
  · intro fits
    have fit := accepted.identifiersFit
    refine ⟨?_,fit.checks,fun row member => grows _ (fit.owned row member),fit.liveUnique,fit.assetValue⟩
    intro row member
    rcases (Table.mem_insert added).mp member with old | rfl
    · exact accepted.assets row old
    · exact fits

end Owner

section Matching

variable {tables : Tables} {items : List NormalisedIdentifier}

theorem mem_matchedAssets {assetId : Uuid} : assetId ∈ IdentityResolver.matchedAssets tables items ↔
    ∃ row ∈ tables.identifiers.rows, row.Live ∧ row.assetId = assetId ∧
      ∃ item ∈ items, item.uniqueInNamespace = true ∧ row.key = item.key := by
  simp only [IdentityResolver.matchedAssets,IdentityResolver.matchingRows,List.mem_dedup,List.mem_map,List.mem_filter,
    Bool.and_eq_true,decide_eq_true_eq,List.any_eq_true,AssetIdentifier.Live]
  constructor
  · rintro ⟨row,⟨member,live,item,inItems,flagged,same⟩,owner⟩
    exact ⟨row,member,live,owner,item,inItems,flagged,same⟩
  · rintro ⟨row,member,live,owner,item,inItems,flagged,same⟩
    exact ⟨row,⟨member,live,item,inItems,flagged,same⟩,owner⟩

theorem heldApart_of_matched {assetId : Uuid} (only : ∀ other ∈ IdentityResolver.matchedAssets tables items, other = assetId) :
    HeldApart tables assetId items := by
  intro item inItems flagged row member live same
  exact only row.assetId (mem_matchedAssets.mpr ⟨row,member,live,rfl,item,inItems,flagged,same⟩)

end Matching

section Resolved

/-- No identifier of a unique namespace is live on two assets. -/
def LiveUnique (tables : Tables) : Prop :=
  ∀ first ∈ tables.identifiers.rows, ∀ second ∈ tables.identifiers.rows, first.Live → second.Live → first.key = second.key →
    UniqueNamespace first.namespaceName → first.assetId = second.assetId

/-- The asset holds each of the items live, once. -/
def HoldsOnce (tables : Tables) (assetId : Uuid) (items : List NormalisedIdentifier) : Prop :=
  ∀ item ∈ items, ∃! row, row ∈ tables.identifiers.rows ∧ row.Live ∧ row.assetId = assetId ∧ row.key = item.key

def Asset.unseen (asset : Asset) : Asset := {asset with lastSeenAt := 0}

/-- The same rows, but for when they were last seen. -/
structure SeenAgain (old new : Tables) : Prop where
  assets : new.assets.rows.map Asset.unseen = old.assets.rows.map Asset.unseen
  identifiers : new.identifiers.rows.map AssetIdentifier.unseen = old.identifiers.rows.map AssetIdentifier.unseen
  facts : new.facts = old.facts
  relationships : new.relationships = old.relationships
  attestations : new.attestations = old.attestations

variable {python : Python} {moment : Moment} {tables seen : Tables} {assetType : AssetType} {displayName : String}
  {identifiers : List IdentifierInput} {createIfMissing : Bool} {items : List NormalisedIdentifier} {assetId : Uuid}

section Attached

variable {next : Table AssetIdentifier.id}

end Attached

end Resolved

section Settles

/-- What a call that answers is to come to, and what it comes to when it is made again. -/
structure Resolved (python : Python) (assetType : AssetType) (displayName : String) (identifiers : List IdentifierInput)
    (createIfMissing : Bool) (items : List NormalisedIdentifier) (assetId : Uuid) (next : Tables) : Prop where
  holds : HoldsOnce next assetId items
  unique : LiveUnique next
  again : ∀ moment, ∃ matchedOn later, SeenAgain next later ∧
    IdentityResolver.resolve Tables.violation python moment next assetType displayName identifiers createIfMissing =
      .ok (⟨.matched,assetId,matchedOn⟩,later)

/-- The call refuses for a reason of the service, two assets being always one, or it resolves. -/
def Settles (python : Python) (moment : Moment) (tables : Tables) (assetType : AssetType) (displayName : String)
    (identifiers : List IdentifierInput) (createIfMissing : Bool) : Prop :=
  (∀ items, identifiers.mapM (normalise python) = .ok items → 2 ≤ (IdentityResolver.matchedAssets tables items).length →
    ∃ message context, IdentityResolver.resolve Tables.violation python moment tables assetType displayName identifiers
      createIfMissing = .error (.identityConflict message context)) ∧
  ((∃ refusal, refusal.Service ∧ IdentityResolver.resolve Tables.violation python moment tables assetType displayName
      identifiers createIfMissing = .error refusal) ∨
    ∃ items answer next, identifiers.mapM (normalise python) = .ok items ∧
      IdentityResolver.resolve Tables.violation python moment tables assetType displayName identifiers createIfMissing =
        .ok (answer,next) ∧
      Resolved python assetType displayName identifiers createIfMissing items answer.assetId next)

def CanStore (moment : Moment) (tables : Tables) (assetType : AssetType) (displayName : String)
    (items : List NormalisedIdentifier) : Prop :=
  match IdentityResolver.matchedAssets tables items with
  | [] => moment.newId 0 ∉ tables.assets.rows.map (·.id) ∧
      (∀ check ∈ (IdentityResolver.newAsset moment assetType displayName).checks, check.2 = true) ∧
      Attachable moment tables (moment.newId 0) items
  | [assetId] => Attachable moment tables assetId items
  | _ => True

variable {python : Python} {moment : Moment} {tables seen later : Tables} {assetType : AssetType} {displayName : String}
  {identifiers : List IdentifierInput} {createIfMissing : Bool} {items : List NormalisedIdentifier} {assetId : Uuid}

end Settles

section Main

variable {python : Python} {moment : Moment} {tables : Tables} {assetType : AssetType} {displayName : String}
  {identifiers : List IdentifierInput} {createIfMissing : Bool} {items : List NormalisedIdentifier}

end Main

section Laboratory

def labInput (namespaceName value : String) (namespace_rules : namespaceName.length ≤ 48 ∧ matchesNamespace namespaceName)
    (value_bounds : 1 ≤ value.length ∧ value.length ≤ 255) : IdentifierInput where
  namespaceName
  value
  namespace_rules
  value_bounds
  source_bounds := api_bounds
  confidence_bounds := certain

theorem host_bounds : 1 ≤ "pve-09".length ∧ "pve-09".length ≤ 255 := by decide

def labOnce : List IdentifierInput :=
  [labInput "serial" "SN9" serial_rules (by decide),labInput "hostname" "pve-09" hostname_rules host_bounds]

end Laboratory

end Acop.Cmdb
