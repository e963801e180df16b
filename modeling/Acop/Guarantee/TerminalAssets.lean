import Acop.Cmdb.Effects
import Acop.Cmdb.Laboratory

/-! Assets that are retired or merged, under operations on assets and identifiers: which
operations still reach the row or give it an identifier. -/
namespace Acop.Cmdb
open Acop.Store Acop.Serial

def AssetIdentifier.Live (row : AssetIdentifier) : Prop := row.retiredAt = none

/-- An asset operation and what it reads from outside. -/
structure AssetStep where
  request : AssetOperation
  moment : Moment

def nextAsset (verdict : Verdict) (python : Python) (tables : Tables) (step : AssetStep) : Tables :=
  next verdict python tables ⟨.asset step.request,step.moment⟩

/-- A row that held the same identifier for the same asset, live if the later one is. -/
def SameHold (before row : AssetIdentifier) : Prop :=
  before.id = row.id ∧ before.assetId = row.assetId ∧ (row.Live → before.Live)

/-- A terminal asset keeps its row and gets no new live identifier. -/
structure Frozen (old new : Tables) : Prop where
  rows : ∀ asset ∈ old.assets.rows, asset.lifecycleState.Terminal → asset ∈ new.assets.rows
  identifiers : ∀ asset ∈ old.assets.rows, asset.lifecycleState.Terminal → ∀ row ∈ new.identifiers.rows,
    row.assetId = asset.id → row.Live → ∃ before ∈ old.identifiers.rows, SameHold before row

section Condition

variable (verdict : Verdict) (python : Python) (moment : Moment) (tables : Tables)

/-- The identifiers name one asset, and it is terminal. -/
def Reaches (identifiers : List IdentifierInput) (asset : Asset) (items : List NormalisedIdentifier) : Prop :=
  identifiers.mapM (normalise python) = .ok items ∧ IdentityResolver.matchedAssets tables items = [asset.id] ∧
    tables.assets.find asset.id = some asset ∧ asset.lifecycleState.Terminal

def sighted (asset : Asset) : Tables :=
  {tables with assets := tables.assets.update asset.id (FactService.seeAsset moment.now)}

/-- The tables once the asset is described, if there is a description. -/
def described (tables : Tables) (assetId : Uuid) : Option String → Tables
  | none => tables
  | some text => {tables with assets := tables.assets.update assetId (AssetService.describe text)}

/-- The asset holds all the identifiers, was seen at this moment and is described so. -/
def AlreadyKnown (asset : Asset) (items : List NormalisedIdentifier) (description : Option String) : Prop :=
  asset.lastSeenAt = moment.now ∧
    (∀ item ∈ items, ∃ row ∈ IdentityResolver.heldBy tables asset.id, row.key = item.key) ∧
    ∀ text ∈ description, asset.description = some text

/-- A terminal asset that identifiers reach is already known so, or the database refuses. -/
def ResolvesApart (identifiers : List IdentifierInput) (description : Option String) : Prop :=
  ∀ asset items, Reaches python tables identifiers asset items →
    ∀ attached, IdentityResolver.attachMissing verdict moment (sighted moment tables asset) asset.id items = .ok attached →
      (description.isSome → verdict (described attached asset.id description) = none) →
      AlreadyKnown moment tables asset items description

/-- An identifier offered to a terminal asset is one it holds, or one that is refused. -/
def AttachesApart (assetId : Uuid) (payload : IdentifierInput) : Prop :=
  ∀ asset item, tables.assets.find assetId = some asset → asset.lifecycleState.Terminal → normalise python payload = .ok item →
    (∃ row ∈ IdentityResolver.heldBy tables asset.id, row.key = item.key) ∨
    (item.uniqueInNamespace ∧ ∃ row ∈ tables.identifiers.rows, row.key = item.key ∧ row.Live) ∨
    ∀ identifiers, tables.identifiers.insert (newIdentifier (moment.newId 0) asset.id item moment.now) = some identifiers →
      verdict {tables with identifiers} ≠ none

def StandsApart (step : AssetStep) : Prop :=
  match step.request with
  | .create payload => ResolvesApart verdict python step.moment tables payload.identifiers payload.description
  | .resolve payload => ResolvesApart verdict python step.moment tables payload.identifiers none
  | .attachIdentifier assetId payload => AttachesApart verdict python step.moment tables assetId payload
  | _ => True

end Condition

section Attaching

variable {verdict : Verdict} {python : Python} {moment : Moment} {tables next' : Tables}

theorem sameHold_refl (row : AssetIdentifier) : SameHold row row := ⟨rfl,rfl,id⟩

theorem sameHold_trans {first second third : AssetIdentifier} (early : SameHold first second) (late : SameHold second third) :
    SameHold first third :=
  ⟨early.1.trans late.1,early.2.1.trans late.2.1,fun live => early.2.2 (late.2.2 live)⟩

theorem held_before_see {identifiers : Table AssetIdentifier.id} {id : Uuid} {now : Time} {row : AssetIdentifier}
    (member : row ∈ (identifiers.update id (seeIdentifier now)).rows) : ∃ before ∈ identifiers.rows, SameHold before row := by
  obtain ⟨old,inOld,⟨_,rfl⟩ | ⟨_,rfl⟩⟩ := Table.mem_update.mp member
  · exact ⟨old,inOld,rfl,rfl,fun live => live⟩
  · exact ⟨row,inOld,sameHold_refl row⟩

theorem attachItems_rows {existing : List AssetIdentifier} {assetId : Uuid} {items : List NormalisedIdentifier} {drawn : Nat}
    (done : IdentityResolver.attachItems moment existing assetId drawn items tables = .ok next')
    {row : AssetIdentifier} (member : row ∈ next'.identifiers.rows) :
    (∃ before ∈ tables.identifiers.rows, SameHold before row) ∨
      row.assetId = assetId ∧ ∃ item ∈ items, ∀ other ∈ existing, other.key ≠ item.key := by
  induction items generalizing drawn tables with
  | nil =>
    cases done
    exact .inl ⟨row,member,sameHold_refl row⟩
  | cons item items ih =>
    unfold IdentityResolver.attachItems at done
    split at done
    · rcases ih done with ⟨middle,inMiddle,same⟩ | ⟨owned,missing,inItems,unheld⟩
      · obtain ⟨before,inBefore,earlier⟩ := held_before_see inMiddle
        exact .inl ⟨before,inBefore,sameHold_trans earlier same⟩
      · exact .inr ⟨owned,missing,List.mem_cons_of_mem item inItems,unheld⟩
    · rename_i unheld
      obtain ⟨inserted,ok,done⟩ := bind_ok done
      obtain ⟨identifiers,added,rfl⟩ := insertIdentifier_ok ok
      rcases ih done with ⟨middle,inMiddle,same⟩ | ⟨owned,missing,inItems,unheld⟩
      · rcases (Table.mem_insert added).mp inMiddle with kept | rfl
        · exact .inl ⟨middle,kept,same⟩
        · exact .inr ⟨same.2.1.symm,item,List.mem_cons_self,by simpa using List.find?_eq_none.mp unheld⟩
      · exact .inr ⟨owned,missing,List.mem_cons_of_mem item inItems,unheld⟩

/-- A row that stays: its key, its holder, and that it is live. -/
def Stays (row later : AssetIdentifier) : Prop :=
  later.id = row.id ∧ later.assetId = row.assetId ∧ later.retiredAt = row.retiredAt

instance : Std.Refl Stays := ⟨fun _ => ⟨rfl,rfl,rfl⟩⟩

instance : IsTrans AssetIdentifier Stays :=
  ⟨fun _ _ _ early late => ⟨late.1.trans early.1,late.2.1.trans early.2.1,late.2.2.trans early.2.2⟩⟩

theorem attachItems_grows {existing : List AssetIdentifier} {assetId : Uuid} {items : List NormalisedIdentifier} {drawn : Nat}
    (done : IdentityResolver.attachItems moment existing assetId drawn items tables = .ok next') :
    Grows Stays tables.identifiers next'.identifiers := by
  induction items generalizing drawn tables with
  | nil =>
    cases done
    exact grows_refl _
  | cons item items ih =>
    unfold IdentityResolver.attachItems at done
    split at done
    · exact grows_trans (grows_revise fun _ _ _ => ⟨rfl,rfl,rfl⟩) (ih done)
    · obtain ⟨inserted,ok,done⟩ := bind_ok done
      obtain ⟨identifiers,added,rfl⟩ := insertIdentifier_ok ok
      exact grows_trans (grows_insert added) (ih done)

theorem attachItems_new {existing : List AssetIdentifier} {assetId : Uuid} {items : List NormalisedIdentifier} {drawn : Nat}
    (done : IdentityResolver.attachItems moment existing assetId drawn items tables = .ok next')
    {item : NormalisedIdentifier} (member : item ∈ items) (unheld : ∀ other ∈ existing, other.key ≠ item.key) :
    ∃ row ∈ next'.identifiers.rows, row.assetId = assetId ∧ row.Live ∧ ∀ old ∈ tables.identifiers.rows, old.id ≠ row.id := by
  induction items generalizing drawn tables with
  | nil => cases member
  | cons head items ih =>
    unfold IdentityResolver.attachItems at done
    split at done
    · rename_i found held
      have sameKey : found.key = head.key := by simpa using List.find?_some held
      rcases List.mem_cons.mp member with rfl | later
      · exact absurd sameKey (unheld found (List.mem_of_find?_eq_some held))
      · obtain ⟨row,inRows,owned,live,fresh⟩ := ih done later
        refine ⟨row,inRows,owned,live,fun old inOld => ?_⟩
        obtain ⟨seen,inSeen,same⟩ := (grows_revise fun _ _ _ => ⟨rfl,rfl,rfl⟩ :
          Grows Stays tables.identifiers (tables.identifiers.update found.id (seeIdentifier moment.now))).mem inOld
        exact same.1 ▸ fresh seen inSeen
    · obtain ⟨inserted,ok,rest⟩ := bind_ok done
      obtain ⟨identifiers,added,rfl⟩ := insertIdentifier_ok ok
      rcases List.mem_cons.mp member with rfl | later
      · obtain ⟨row,inRows,same⟩ := (attachItems_grows rest).mem ((Table.mem_insert added).mpr (.inr rfl))
        refine ⟨row,inRows,same.2.1,same.2.2,fun old inOld => ?_⟩
        rw [same.1]
        exact (Table.insert_eq_some added).1 old inOld
      · obtain ⟨row,inRows,owned,live,fresh⟩ := ih rest later
        exact ⟨row,inRows,owned,live,fun old inOld => fresh old ((Table.mem_insert added).mpr (.inl inOld))⟩

theorem attachMissing_eq {assetId : Uuid} {items : List NormalisedIdentifier}
    (done : IdentityResolver.attachMissing verdict moment tables assetId items = .ok next') :
    IdentityResolver.attachItems moment (IdentityResolver.heldBy tables assetId) assetId 1 items tables = .ok next' := by
  obtain ⟨attached,ok,done⟩ := bind_ok done
  obtain ⟨_,rfl⟩ := flush_ok done
  exact ok

end Attaching

section Kept

variable {verdict : Verdict} {python : Python} {moment : Moment} {tables next' : Tables}

theorem frozen_of (target : Uuid)
    (others : ∀ asset ∈ tables.assets.rows, asset.id ≠ target → asset ∈ next'.assets.rows)
    (identifiers : ∀ row ∈ next'.identifiers.rows, (∃ before ∈ tables.identifiers.rows, SameHold before row) ∨ row.assetId = target)
    (terminal : ∀ asset ∈ tables.assets.rows, asset.id = target → asset.lifecycleState.Terminal → asset ∈ next'.assets.rows ∧
      ∀ row ∈ next'.identifiers.rows, ∃ before ∈ tables.identifiers.rows, SameHold before row) : Frozen tables next' := by
  constructor
  · intro asset member state
    by_cases reached : asset.id = target
    · exact (terminal asset member reached state).1
    · exact others asset member reached
  · intro asset member state row inRows owned live
    rcases identifiers row inRows with held | taken
    · exact held
    · exact (terminal asset member (owned.symm.trans taken) state).2 row inRows

theorem frozen_refl (tables : Tables) : Frozen tables tables :=
  ⟨fun _ member _ => member,fun _ _ _ row inRows _ _ => ⟨row,inRows,sameHold_refl row⟩⟩

theorem frozen_update {assetId : Uuid} {payload : AssetUpdate}
    (done : AssetService.update verdict tables assetId payload = .ok next') : Frozen tables next' := by
  obtain ⟨asset,found,patchable,rfl⟩ := update_ok done
  obtain ⟨member,named⟩ := Table.find_eq_some.mp found
  refine frozen_of assetId (fun other inRows apart => ?_) (fun row inRows => .inl ⟨row,inRows,sameHold_refl row⟩) ?_
  · exact (Table.stays_update inRows).mpr fun same => absurd same apart
  · intro other inRows same state
    cases Table.eq_of_key inRows member (same.trans named.symm)
    exact absurd state patchable

theorem frozen_retire {assetId : Uuid} {answer : Nat × Nat}
    (done : AssetService.retire verdict moment tables assetId = .ok (answer,next')) : Frozen tables next' := by
  obtain ⟨asset,found,patchable,rfl⟩ := retire_ok done
  obtain ⟨member,named⟩ := Table.find_eq_some.mp found
  refine frozen_of assetId (fun other inRows apart => ?_) (fun row inRows => .inl ⟨row,inRows,sameHold_refl row⟩) ?_
  · exact (Table.stays_update inRows).mpr fun same => absurd same apart
  · intro other inRows same state
    cases Table.eq_of_key inRows member (same.trans named.symm)
    exact absurd state patchable

theorem frozen_retireIdentifier {identifierId : Uuid} {answer : AssetIdentifier}
    (done : AssetService.retireIdentifier verdict moment tables identifierId = .ok (answer,next')) : Frozen tables next' := by
  cases retireIdentifier_ok done
  refine ⟨fun _ member _ => member,fun asset member state row inRows owned live => ?_⟩
  obtain ⟨old,inOld,⟨_,rfl⟩ | ⟨_,rfl⟩⟩ := Table.mem_update.mp inRows
  · cases live
  · exact ⟨row,inOld,sameHold_refl row⟩

theorem frozen_attachIdentifier {assetId : Uuid} {payload : IdentifierInput} {answer : AssetIdentifier}
    (done : AssetService.attachIdentifier verdict python moment tables assetId payload = .ok (answer,next'))
    (apart : AttachesApart verdict python moment tables assetId payload) : Frozen tables next' := by
  obtain ⟨asset,item,found,ready,⟨existing,_,_,rfl⟩ | ⟨identifiers,unheld,unclaimed,added,accepted,rfl⟩⟩ :=
    attachIdentifier_ok done
  · exact ⟨fun _ member _ => member,fun _ _ _ row inRows _ _ => held_before_see inRows⟩
  · obtain ⟨member,named⟩ := Table.find_eq_some.mp found
    refine frozen_of assetId (fun other inRows _ => inRows) (fun row inRows => ?_) ?_
    · rcases (Table.mem_insert added).mp inRows with kept | rfl
      · exact .inl ⟨row,kept,sameHold_refl row⟩
      · exact .inr named
    · intro other inRows same state
      cases Table.eq_of_key inRows member (same.trans named.symm)
      rcases apart asset item found state ready with ⟨row,held,sameKey⟩ | ⟨unique,row,inTable,sameKey,live⟩ | refused
      · exact absurd sameKey (unheld row held)
      · exact absurd live (unclaimed unique row inTable sameKey)
      · exact absurd accepted (refused identifiers added)

theorem createAsset_described {payload : AssetCreate} {answer : Resolution}
    (done : AssetService.createAsset verdict python moment tables payload = .ok (answer,next')) :
    ∃ resolved, IdentityResolver.resolve verdict python moment tables payload.assetType payload.displayName payload.identifiers
        true = .ok (answer,resolved) ∧ next' = described resolved answer.assetId payload.description ∧
      (payload.description.isSome → verdict next' = none) := by
  obtain ⟨⟨resolution,resolved⟩,ok,done⟩ := bind_ok done
  refine ⟨resolved,?_⟩
  dsimp only at done
  cases given : payload.description with
  | none =>
    rw [given] at done
    cases done
    exact ⟨ok,rfl,nofun⟩
  | some text =>
    rw [given] at done
    obtain ⟨last,flushed,done⟩ := bind_ok done
    obtain ⟨accepted,rfl⟩ := flush_ok flushed
    cases done
    exact ⟨ok,rfl,fun _ => accepted⟩

theorem mem_described {asset : Asset} {assetId : Uuid} {description : Option String} (member : asset ∈ tables.assets.rows)
    (unchanged : asset.id = assetId → ∀ text ∈ description, asset.description = some text) :
    asset ∈ (described tables assetId description).assets.rows := by
  cases description with
  | none => exact member
  | some text =>
    refine (Table.stays_update member).mpr fun same => ?_
    simp only [AssetService.describe,← unchanged same text rfl]

theorem identifiers_described (assetId : Uuid) (description : Option String) :
    (described tables assetId description).identifiers = tables.identifiers := by
  cases description <;> rfl

theorem frozen_sighted {asset : Asset} {items : List NormalisedIdentifier} {attached : Tables} {description : Option String}
    (found : tables.assets.find asset.id = some asset)
    (done : IdentityResolver.attachMissing verdict moment (sighted moment tables asset) asset.id items = .ok attached)
    (known : asset.lifecycleState.Terminal → AlreadyKnown moment tables asset items description) :
    Frozen tables (described attached asset.id description) := by
  have attaching := attachMissing_eq done
  obtain ⟨identifiers,rfl⟩ := attachMissing_ok done
  have member := (Table.find_eq_some.mp found).1
  refine frozen_of asset.id (fun other inRows apart => ?_) (fun row inRows => ?_) ?_
  · refine mem_described ?_ fun same => absurd same apart
    exact (Table.stays_update inRows).mpr fun same => absurd same apart
  · rw [identifiers_described] at inRows
    exact (attachItems_rows attaching inRows).imp_right And.left
  · intro other inRows same state
    cases Table.eq_of_key inRows member same
    obtain ⟨seen,held,text⟩ := known state
    constructor
    · refine mem_described ?_ fun _ => text
      exact (Table.stays_update inRows).mpr fun _ => by simp only [FactService.seeAsset,← seen]
    · intro row inRows
      rw [identifiers_described] at inRows
      rcases attachItems_rows attaching inRows with before | ⟨_,item,inItems,unheld⟩
      · exact before
      · obtain ⟨row,inHeld,sameKey⟩ := held item inItems
        exact absurd sameKey (unheld row inHeld)

theorem frozen_added {assetType : AssetType} {displayName : String} {items : List NormalisedIdentifier} {attached : Tables}
    {description : Option String} {assets : Table Asset.id}
    (added : tables.assets.insert (IdentityResolver.newAsset moment assetType displayName) = some assets)
    (done : IdentityResolver.attachMissing verdict moment {tables with assets} (moment.newId 0) items = .ok attached) :
    Frozen tables (described attached (moment.newId 0) description) := by
  have attaching := attachMissing_eq done
  obtain ⟨identifiers,rfl⟩ := attachMissing_ok done
  have fresh := (Table.insert_eq_some added).1
  refine frozen_of (moment.newId 0) (fun other inRows apart => ?_) (fun row inRows => ?_) ?_
  · exact mem_described ((Table.mem_insert added).mpr (.inl inRows)) fun same => absurd same apart
  · rw [identifiers_described] at inRows
    exact (attachItems_rows attaching inRows).imp_right And.left
  · exact fun other inRows same _ => absurd same (fresh other inRows)

theorem frozen_resolve {assetType : AssetType} {displayName : String} {identifiers : List IdentifierInput}
    {createIfMissing : Bool} {answer : Resolution} {resolved : Tables} (description : Option String)
    (done : IdentityResolver.resolve verdict python moment tables assetType displayName identifiers createIfMissing =
      .ok (answer,resolved))
    (accepted : description.isSome → verdict (described resolved answer.assetId description) = none)
    (apart : ResolvesApart verdict python moment tables identifiers description) :
    Frozen tables (described resolved answer.assetId description) := by
  obtain ⟨normalised,seen,ready,attached,⟨asset,one,found,named,rfl⟩ | ⟨assets,_,added,named,rfl⟩⟩ := resolve_ok done
  · rw [named] at attached accepted ⊢
    exact frozen_sighted found attached fun state => apart asset normalised ⟨ready,one,found,state⟩ resolved attached accepted
  · rw [named] at attached ⊢
    exact frozen_added added attached

end Kept

section Reached

variable {verdict : Verdict} {python : Python} {moment : Moment} {tables : Tables}

theorem resolve_reaches (assetType : AssetType) (displayName : String) {identifiers : List IdentifierInput}
    (createIfMissing : Bool) {asset : Asset} {items : List NormalisedIdentifier} {attached : Tables}
    (reaches : Reaches python tables identifiers asset items)
    (done : IdentityResolver.attachMissing verdict moment (sighted moment tables asset) asset.id items = .ok attached) :
    ∃ answer, answer.assetId = asset.id ∧ IdentityResolver.resolve verdict python moment tables assetType displayName identifiers
      createIfMissing = .ok (answer,attached) := by
  obtain ⟨ready,one,found,_⟩ := reaches
  refine ⟨⟨.matched,asset.id,IdentityResolver.matchedNamespaces tables items asset.id⟩,rfl,?_⟩
  have attaching : IdentityResolver.attachMissing verdict moment {tables with
      assets := tables.assets.update asset.id (FactService.seeAsset moment.now)} asset.id items = .ok attached := done
  simp only [IdentityResolver.resolve,ready,ok_bind,one,found,attaching]
  rfl

theorem createAsset_reaches {payload : AssetCreate} {asset : Asset} {items : List NormalisedIdentifier} {attached : Tables}
    (reaches : Reaches python tables payload.identifiers asset items)
    (done : IdentityResolver.attachMissing verdict moment (sighted moment tables asset) asset.id items = .ok attached)
    (accepted : payload.description.isSome → verdict (described attached asset.id payload.description) = none) :
    ∃ answer, AssetService.createAsset verdict python moment tables payload =
      .ok (answer,described attached asset.id payload.description) := by
  obtain ⟨answer,named,resolved⟩ := resolve_reaches payload.assetType payload.displayName true reaches done
  refine ⟨answer,?_⟩
  simp only [AssetService.createAsset,resolved,ok_bind]
  cases given : payload.description with
  | none => rfl
  | some text =>
    rw [given] at accepted
    have settled : flush verdict {attached with assets := attached.assets.update answer.assetId (AssetService.describe text)} =
        .ok (described attached asset.id (some text)) := by
      rw [named]
      exact flush_eq (accepted rfl)
    simp only [settled,ok_bind]
    rfl

theorem known_of_frozen {asset : Asset} {items : List NormalisedIdentifier} {attached : Tables} (description : Option String)
    (found : tables.assets.find asset.id = some asset) (state : asset.lifecycleState.Terminal)
    (done : IdentityResolver.attachMissing verdict moment (sighted moment tables asset) asset.id items = .ok attached)
    (frozen : Frozen tables (described attached asset.id description)) :
    AlreadyKnown moment tables asset items description := by
  have attaching := attachMissing_eq done
  obtain ⟨identifiers,rfl⟩ := attachMissing_ok done
  have member := (Table.find_eq_some.mp found).1
  have kept := frozen.rows asset member state
  have held : ∀ item ∈ items, ∃ row ∈ IdentityResolver.heldBy tables asset.id, row.key = item.key := by
    intro item inItems
    by_contra unheld
    push Not at unheld
    obtain ⟨row,inRows,owned,live,fresh⟩ := attachItems_new attaching inItems unheld
    obtain ⟨before,inBefore,same⟩ := frozen.identifiers asset member state row
      ((identifiers_described asset.id description).symm ▸ inRows) owned live
    exact fresh before inBefore same.1
  cases description with
  | none =>
    have same := (Table.stays_update member).mp kept rfl
    exact ⟨(congrArg Asset.lastSeenAt same).symm,held,nofun⟩
  | some text =>
    obtain ⟨seen,inSeen,⟨_,written⟩ | ⟨elsewhere,rfl⟩⟩ := Table.mem_update.mp kept
    · obtain ⟨old,inOld,⟨_,rfl⟩ | ⟨elsewhere,rfl⟩⟩ := Table.mem_update.mp inSeen
      · refine ⟨congrArg Asset.lastSeenAt written,held,fun given inText => ?_⟩
        cases inText
        exact congrArg Asset.description written
      · exact absurd (congrArg Asset.id written).symm elsewhere
    · exact absurd rfl elsewhere

theorem attachesApart_of_frozen {assetId : Uuid} {payload : IdentifierInput}
    (frozen : Frozen tables (nextAsset verdict python tables ⟨.attachIdentifier assetId payload,moment⟩)) :
    AttachesApart verdict python moment tables assetId payload := by
  intro asset item found state ready
  obtain ⟨member,rfl⟩ := Table.find_eq_some.mp found
  by_contra free
  push Not at free
  obtain ⟨unheld,unclaimed,identifiers,added,accepted⟩ := free
  have made := attachIdentifier_lands found ready unheld unclaimed added accepted
  have done : nextAsset verdict python tables ⟨.attachIdentifier asset.id payload,moment⟩ = {tables with identifiers} :=
    settle_ok (map_eq made Prod.snd)
  rw [done] at frozen
  obtain ⟨before,inBefore,same⟩ := frozen.identifiers asset member state _ ((Table.mem_insert added).mpr (.inr rfl)) rfl rfl
  exact (Table.insert_eq_some added).1 before inBefore same.1

end Reached

/-- The step lemma: a step leaves terminal assets frozen exactly when it stands apart from them. -/
theorem frozen_iff {verdict : Verdict} {python : Python} {tables : Tables} {step : AssetStep} :
    Frozen tables (nextAsset verdict python tables step) ↔ StandsApart verdict python tables step := by
  obtain ⟨request,moment⟩ := step
  constructor
  · intro frozen
    cases request with
    | create payload =>
      intro asset items reaches attached done accepted
      obtain ⟨answer,made⟩ := createAsset_reaches reaches done accepted
      have next : nextAsset verdict python tables ⟨.create payload,moment⟩ = described attached asset.id payload.description :=
        settle_ok (map_eq made Prod.snd)
      exact known_of_frozen payload.description reaches.2.2.1 reaches.2.2.2 done (next ▸ frozen)
    | resolve payload =>
      intro asset items reaches attached done _
      obtain ⟨answer,_,made⟩ := resolve_reaches payload.assetType payload.displayName payload.createIfMissing reaches done
      have next : nextAsset verdict python tables ⟨.resolve payload,moment⟩ = attached := settle_ok (map_eq made Prod.snd)
      exact known_of_frozen none reaches.2.2.1 reaches.2.2.2 done (next ▸ frozen)
    | attachIdentifier assetId payload => exact attachesApart_of_frozen frozen
    | update assetId payload => trivial
    | retire assetId => trivial
    | retireIdentifier identifierId => trivial
  · intro apart
    refine settle_preserves (Frozen tables) (fun state done => ?_) (frozen_refl tables)
    cases request with
    | create payload =>
      obtain ⟨⟨answer,state⟩,ok,rfl⟩ := map_ok done
      obtain ⟨resolved,resolving,rfl,accepted⟩ := createAsset_described ok
      exact frozen_resolve payload.description resolving accepted apart
    | resolve payload =>
      obtain ⟨⟨answer,state⟩,ok,rfl⟩ := map_ok done
      exact frozen_resolve none ok nofun apart
    | attachIdentifier assetId payload =>
      obtain ⟨⟨answer,state⟩,ok,rfl⟩ := map_ok done
      exact frozen_attachIdentifier ok apart
    | update assetId payload => exact frozen_update done
    | retire assetId =>
      obtain ⟨⟨answer,state⟩,ok,rfl⟩ := map_ok done
      exact frozen_retire ok
    | retireIdentifier identifierId =>
      obtain ⟨⟨answer,state⟩,ok,rfl⟩ := map_ok done
      exact frozen_retireIdentifier ok

/-- Along any run of asset operations, terminal assets stay frozen exactly when every step
stands apart from them. -/
theorem terminal_untouched (verdict : Verdict) (python : Python) (tables : Tables) (steps : List AssetStep) :
    Along (nextAsset verdict python) (fun state step => Frozen state (nextAsset verdict python state step)) tables steps ↔
      Along (nextAsset verdict python) (StandsApart verdict python) tables steps :=
  along_congr (fun _ => True) (fun _ _ _ => frozen_iff) (fun _ _ _ => trivial) trivial

def resighting (now : Time) (first : Nat) : AssetStep where
  request := .resolve {
    assetType := .host
    displayName := "pve-01"
    identifiers := [{
      namespaceName := "serial"
      value := "SN1"
      namespace_rules := serial_rules
      value_bounds := by decide
      source_bounds := api_bounds
      confidence_bounds := certain},{
      namespaceName := "hostname"
      value := "pve-01"
      namespace_rules := hostname_rules
      value_bounds := by decide
      source_bounds := api_bounds
      confidence_bounds := certain}]
    name_bounds := by decide}
  moment := labMoment now first

def resighted : Tables :=
  run (nextAsset Tables.violation labPython) labTables [⟨.retire 1,labMoment 5 0⟩,resighting 9 200]

/-- A retired host is seen again by its serial number, and gets a hostname. -/
theorem terminal_resighted :
    (nextAsset Tables.violation labPython labTables ⟨.retire 1,labMoment 5 0⟩).assets.rows.map
        (fun asset => (asset.id,asset.lifecycleState,asset.lastSeenAt)) = [(1,.retired,0),(2,.active,0)] ∧
      resighted.assets.rows.map (fun asset => (asset.id,asset.lifecycleState,asset.lastSeenAt)) =
        [(1,.retired,9),(2,.active,0)] ∧
      resighted.identifiers.rows.map (fun row => (row.id,row.assetId,row.valueNormalized,row.retiredAt)) =
        [(11,1,"SN1",none),(201,1,"pve-01",none)] := by
  decide +kernel

end Acop.Cmdb
