import Acop.Guarantee.Resolution

/-! What a request to create an asset comes to: the asset that was asked for, or the one that the
identifiers name, or nothing written. The lifecycle state of the request is not passed on. -/
namespace Acop.Cmdb
open Acop.Store Acop.Serial

section Statement

variable (python : Python) (moment : Moment) (tables : Tables) (payload : AssetCreate) (items : List NormalisedIdentifier)
  (next : Tables) (assetId : Uuid)

/-- The asset is the one that the payload asks for. -/
structure Fulfils (asset : Asset) : Prop where
  assetType : asset.assetType = payload.assetType
  displayName : asset.displayName = payload.displayName
  description : asset.description = payload.description
  lifecycleState : asset.lifecycleState = payload.lifecycleState

/-- Exactly one asset is new, and its live identifiers are the items, each once. -/
structure CreatedAsAsked : Prop where
  asset : ∃ asset, next.assets.rows = tables.assets.rows ++ [asset] ∧ asset.id = assetId ∧ Fulfils payload asset
  identifiers : (IdentityResolver.heldBy next assetId).map (·.key) = items.map (·.key)
  once : (items.map (·.key)).Nodup

/-- A live identifier of a unique namespace that is presented. -/
def Presented (row : AssetIdentifier) : Prop :=
  row ∈ tables.identifiers.rows ∧ row.Live ∧ ∃ item ∈ items, item.uniqueInNamespace = true ∧ row.key = item.key

/-- No asset is new and no other one changed; every identifier that matched is on this one. -/
structure MatchedAlone : Prop where
  ids : next.assets.rows.map (·.id) = tables.assets.rows.map (·.id)
  others : ∀ asset ∈ next.assets.rows, asset.id ≠ assetId → asset ∈ tables.assets.rows
  elsewhere : next.identifiers.rows.filter (·.assetId ≠ assetId) = tables.identifiers.rows.filter (·.assetId ≠ assetId)
  carries : (∃ row, Presented tables items row) ∧ ∀ row, Presented tables items row → row.assetId = assetId

structure Honours : Prop where
  answered : ∀ items answer next, payload.identifiers.mapM (normalise python) = .ok items →
    AssetService.createAsset Tables.violation python moment tables payload = .ok (answer,next) →
    match answer.outcome with
    | .created => CreatedAsAsked tables payload items next answer.assetId
    | .matched => MatchedAlone tables items next answer.assetId
  refused : ∀ refusal, AssetService.createAsset Tables.violation python moment tables payload = .error refusal →
    Cmdb.next Tables.violation python tables ⟨.asset (.create payload),moment⟩ = tables

def requestedAsset : Asset :=
  {IdentityResolver.newAsset moment payload.assetType payload.displayName with description := payload.description}

/-- A new asset of the payload can be stored: its identifiers normalise, none of a unique namespace
is live, and the rows fit. -/
structure Storable : Prop where
  ready : payload.identifiers.mapM (normalise python) = .ok items
  unmatched : IdentityResolver.matchedAssets tables items = []
  stores : CanStore moment tables payload.assetType payload.displayName items
  fits : ∀ check ∈ (requestedAsset moment payload).checks, check.2 = true

end Statement

section Resolved

variable {python : Python} {moment : Moment} {tables next : Tables} {payload : AssetCreate} {items : List NormalisedIdentifier}
  {assetId : Uuid} {answer : Resolution}

theorem rows_update_added {Row Key : Type} {key : Row → Key} [DecidableEq Key] {table added : Table key} {row : Row}
    {revision : Revision key} (inserted : table.insert row = some added) :
    (added.update (key row) revision).rows = table.rows ++ [revision.change row] := by
  obtain ⟨apart,rows⟩ := Table.insert_eq_some inserted
  have kept : table.rows.map (fun old => if key old = key row then revision.change old else old) = table.rows.map id := by
    apply List.map_congr_left
    intro old member
    rw [if_neg (apart old member),id]
  rw [Table.update,Table.rows_revise,rows,List.map_append]
  simp only [decide_eq_true_eq,kept,List.map_id,List.map_singleton,if_true]

theorem heldBy_attached {identifiers : Table AssetIdentifier.id} (attached : Attached moment tables assetId items identifiers)
    (bare : IdentityResolver.heldBy tables assetId = []) :
    (IdentityResolver.heldBy {tables with identifiers} assetId).map (·.key) = items.map (·.key) := by
  have missing : IdentityResolver.missing [] items = items := by simp [IdentityResolver.missing]
  have blind : ∀ rows : List AssetIdentifier, (rows.filter fun row => row.assetId = assetId && row.retiredAt = none).map (·.key) =
      ((rows.map AssetIdentifier.unseen).filter fun row => row.assetId = assetId && row.retiredAt = none).map (·.key) := by
    intro rows
    rw [List.filter_map,List.map_map]
    rfl
  have own : ∀ row ∈ IdentityResolver.newRows moment assetId 1 items,
      (decide (row.assetId = assetId) && decide (row.retiredAt = none)) = true := by
    intro row member
    obtain ⟨id,item,_,rfl⟩ := IdentityResolver.mem_newRows member
    simp [newIdentifier]
  have nothing : (tables.identifiers.rows.filter fun row => row.assetId = assetId && row.retiredAt = none) = [] := bare
  rw [Attached,bare,missing] at attached
  rw [IdentityResolver.heldBy,blind,attached,← blind,List.filter_append,nothing,List.nil_append,List.filter_eq_self.mpr own,
    ← IdentityResolver.keys_newRows]

theorem heldBy_fresh (accepted : Accepted tables) (fresh : assetId ∉ tables.assets.rows.map (·.id)) :
    IdentityResolver.heldBy tables assetId = [] := by
  apply List.eq_nil_iff_forall_not_mem.mpr
  intro row held
  obtain ⟨member,owned,_⟩ := mem_heldBy.mp held
  exact fresh (hasAsset_iff.mp (owned ▸ accepted.identifiersFit.owned row member))

theorem attachItems_elsewhere {existing : List AssetIdentifier} {drawn : Nat}
    (owned : ∀ held ∈ existing, ∀ row ∈ tables.identifiers.rows, row.id = held.id → row.assetId = assetId)
    (done : IdentityResolver.attachItems moment existing assetId drawn items tables = .ok next) :
    next.identifiers.rows.filter (·.assetId ≠ assetId) = tables.identifiers.rows.filter (·.assetId ≠ assetId) ∧
      next.assets = tables.assets := by
  induction items generalizing drawn tables with
  | nil =>
    cases done
    exact ⟨rfl,rfl⟩
  | cons item items ih =>
    unfold IdentityResolver.attachItems at done
    split at done
    · rename_i found held
      have inExisting := List.mem_of_find?_eq_some held
      obtain ⟨same,assets⟩ := ih (by
        intro other inOther row member named
        obtain ⟨old,inOld,⟨_,rfl⟩ | ⟨_,rfl⟩⟩ := Table.mem_update.mp member
        · exact owned other inOther old inOld named
        · exact owned other inOther row inOld named) done
      refine ⟨same.trans ?_,assets⟩
      rw [Table.update,Table.rows_revise,List.filter_map]
      have blind : ((fun row : AssetIdentifier => decide (row.assetId ≠ assetId)) ∘ fun row =>
          if decide (row.id = found.id) = true then (seeIdentifier moment.now).change row else row) =
          fun row => decide (row.assetId ≠ assetId) := by
        funext row
        simp only [Function.comp]
        split
        · rfl
        · rfl
      rw [blind]
      have untouched : ∀ row ∈ tables.identifiers.rows.filter (·.assetId ≠ assetId),
          (if decide (row.id = found.id) = true then (seeIdentifier moment.now).change row else row) = id row := by
        intro row member
        obtain ⟨inRows,other⟩ := List.mem_filter.mp member
        rw [if_neg,id]
        intro named
        exact of_decide_eq_true other (owned found inExisting row inRows (of_decide_eq_true named))
      rw [List.map_congr_left untouched,List.map_id]
    · rename_i absent
      obtain ⟨inserted,ok,done⟩ := bind_ok done
      unfold insertIdentifier at ok
      split at ok
      · rename_i identifiers added
        cases ok
        have rows := (Table.insert_eq_some added).2
        obtain ⟨same,assets⟩ := ih (by
          intro other inOther row member named
          rcases (Table.mem_insert added).mp member with old | rfl
          · exact owned other inOther row old named
          · rfl) done
        refine ⟨same.trans ?_,assets⟩
        rw [rows,List.filter_append]
        simp [newIdentifier]
      · cases ok

theorem attachMissing_elsewhere {verdict : Verdict}
    (done : IdentityResolver.attachMissing verdict moment tables assetId items = .ok next) :
    next.identifiers.rows.filter (·.assetId ≠ assetId) = tables.identifiers.rows.filter (·.assetId ≠ assetId) ∧
      next.assets = tables.assets := by
  obtain ⟨attached,ok,done⟩ := bind_ok done
  obtain ⟨_,rfl⟩ := flush_ok done
  refine attachItems_elsewhere ?_ ok
  intro held member row inRows named
  obtain ⟨inHeld,owned,_⟩ := mem_heldBy.mp member
  rw [Table.eq_of_key inRows inHeld named]
  exact owned

theorem resolve_unmatched (accepted : Accepted tables) (ready : payload.identifiers.mapM (normalise python) = .ok items)
    (unmatched : IdentityResolver.matchedAssets tables items = []) :
    (CanStore moment tables payload.assetType payload.displayName items ∧ ∃ assets identifiers,
      tables.assets.insert (IdentityResolver.newAsset moment payload.assetType payload.displayName) = some assets ∧
      Attached moment tables (moment.newId 0) items identifiers ∧ Accepted {tables with assets, identifiers} ∧
      IdentityResolver.resolve Tables.violation python moment tables payload.assetType payload.displayName payload.identifiers
        true = .ok (⟨.created,moment.newId 0,[]⟩,{tables with assets, identifiers})) ∨
    (¬ CanStore moment tables payload.assetType payload.displayName items ∧ ∃ constraint,
      IdentityResolver.resolve Tables.violation python moment tables payload.assetType payload.displayName payload.identifiers
        true = .error (.integrity constraint)) := by
  have goes : IdentityResolver.resolve Tables.violation python moment tables payload.assetType payload.displayName
      payload.identifiers true = (do
        let inserted ← IdentityResolver.insertAsset tables
          (IdentityResolver.newAsset moment payload.assetType payload.displayName)
        let flushed ← flush Tables.violation inserted
        let next ← IdentityResolver.attachMissing Tables.violation moment flushed (moment.newId 0) items
        return (⟨.created,moment.newId 0,[]⟩,next)) := by
    unfold IdentityResolver.resolve
    rw [ready,ok_bind]
    simp only [unmatched]
    rfl
  simp only [CanStore,unmatched]
  cases added : tables.assets.insert (IdentityResolver.newAsset moment payload.assetType payload.displayName) with
  | none =>
    refine .inr ⟨?_,.primaryKey,?_⟩
    · rintro ⟨fresh,_⟩
      have inserts : tables.assets.insert (IdentityResolver.newAsset moment payload.assetType payload.displayName) = some _ :=
        dif_pos fresh
      cases added.symm.trans inserts
    · rw [goes,IdentityResolver.insertAsset,added]
      rfl
  | some assets =>
    have fresh : moment.newId 0 ∉ tables.assets.rows.map (·.id) := by
      intro taken
      obtain ⟨row,member,same⟩ := List.mem_map.mp taken
      exact (Table.insert_eq_some added).1 row member same
    have checks := accepted_added accepted added rfl
    rw [IdentityResolver.insertAsset,added,ok_bind] at goes
    cases refused : Tables.violation {tables with assets} with
    | some constraint =>
      refine .inr ⟨?_,constraint,?_⟩
      · rintro ⟨_,fits,_⟩
        cases (accepted_iff.mpr (checks.mpr fits)).symm.trans refused
      · rw [goes,flush_refused refused]
        rfl
    | none =>
      have stands := accepted_iff.mp refused
      have owner : ({tables with assets} : Tables).hasAsset (moment.newId 0) = true := by
        rw [hasAsset_iff]
        exact List.mem_map.mpr ⟨_,(Table.mem_insert added).mpr (.inr rfl),rfl⟩
      have heldApart : HeldApart tables (moment.newId 0) items := heldApart_of_matched (by simp [unmatched])
      rw [flush_eq refused,ok_bind] at goes
      rcases @attachMissing_cases moment (moment.newId 0) items {tables with assets} stands owner heldApart with
        ⟨attachable,identifiers,attached,after,done⟩ | ⟨full,constraint,failed⟩
      · refine .inl ⟨⟨fresh,checks.mp stands,attachable.distinct,attachable.fits,attachable.fresh⟩,assets,identifiers,rfl,
          attached,after,?_⟩
        rw [goes,done]
        rfl
      · refine .inr ⟨fun canStore => full ⟨canStore.2.2.distinct,canStore.2.2.fits,canStore.2.2.fresh⟩,constraint,?_⟩
        rw [goes,failed]
        rfl

/-- The asset of a payload that can be stored is made, and is `ACTIVE`. -/
theorem createAsset_storable (accepted : Accepted tables) (storable : Storable python moment tables payload items) :
    ∃ answer next, AssetService.createAsset Tables.violation python moment tables payload = .ok (answer,next) ∧
      answer.outcome = .created ∧ answer.assetId = moment.newId 0 ∧
      next.assets.rows = tables.assets.rows ++ [requestedAsset moment payload] ∧
      (IdentityResolver.heldBy next answer.assetId).map (·.key) = items.map (·.key) ∧ (items.map (·.key)).Nodup := by
  obtain ⟨ready,unmatched,stores,fits⟩ := storable
  rcases @resolve_unmatched python moment tables payload items accepted ready unmatched with
    ⟨_,assets,identifiers,added,attached,after,resolved⟩ | ⟨full,_⟩
  swap
  · exact absurd stores full
  have canStore := stores
  simp only [CanStore,unmatched] at canStore
  have bare := heldBy_fresh accepted canStore.1
  have held := heldBy_attached attached bare
  have once : (items.map (·.key)).Nodup := by
    have distinct := canStore.2.2.distinct
    rw [bare] at distinct
    simpa [IdentityResolver.missing] using distinct
  cases given : payload.description with
  | none =>
    refine ⟨⟨.created,moment.newId 0,[]⟩,{tables with assets, identifiers},?_,rfl,rfl,?_,held,once⟩
    · simp only [AssetService.createAsset,resolved,ok_bind,given]
      rfl
    · rw [(Table.insert_eq_some added).2,requestedAsset,given]
      rfl
  | some text =>
    have updated : (assets.update (moment.newId 0) (AssetService.describe text)).rows =
        tables.assets.rows ++ [requestedAsset moment payload] := by
      rw [requestedAsset,given]
      exact rows_update_added added
    have accepts : Accepted {tables with
        assets := assets.update (moment.newId 0) (AssetService.describe text)
        identifiers} := by
      apply (@accepted_revised {tables with assets, identifiers} after (moment.newId 0) (AssetService.describe text)
        fun _ => rfl).mpr
      intro row member named
      rcases (Table.mem_insert added).mp member with old | rfl
      · exact absurd (List.mem_map.mpr ⟨row,old,named⟩) canStore.1
      · rw [requestedAsset,given] at fits
        exact fits
    refine ⟨⟨.created,moment.newId 0,[]⟩,{tables with
      assets := assets.update (moment.newId 0) (AssetService.describe text)
      identifiers},?_,rfl,rfl,updated,held,once⟩
    simp only [AssetService.createAsset,resolved,ok_bind,given]
    rw [flush_eq (accepted_iff.mpr accepts)]
    rfl

theorem resolve_outcome {assetType : AssetType} {displayName : String} {identifiers : List IdentifierInput}
    (ready : identifiers.mapM (normalise python) = .ok items)
    (done : IdentityResolver.resolve Tables.violation python moment tables assetType displayName identifiers true =
      .ok (answer,next)) :
    answer.outcome = .created ↔ IdentityResolver.matchedAssets tables items = [] := by
  unfold IdentityResolver.resolve at done
  rw [ready,ok_bind] at done
  split at done
  · cases done
  · rename_i assetId one
    split at done
    · cases done
    · obtain ⟨attached,_,done⟩ := bind_ok done
      cases done
      simp [one]
  · rename_i unmatched
    rw [if_neg (by simp)] at done
    obtain ⟨inserted,_,done⟩ := bind_ok done
    obtain ⟨flushed,_,done⟩ := bind_ok done
    obtain ⟨attached,_,done⟩ := bind_ok done
    cases done
    simp [unmatched]

theorem storable_of_created (accepted : Accepted tables) (ready : payload.identifiers.mapM (normalise python) = .ok items)
    (done : AssetService.createAsset Tables.violation python moment tables payload = .ok (answer,next))
    (created : answer.outcome = .created) : Storable python moment tables payload items := by
  obtain ⟨resolved,ok,rfl,described⟩ := createAsset_described done
  have unmatched := (resolve_outcome ready ok).mp created
  rcases @resolve_unmatched python moment tables payload items accepted ready unmatched with
    ⟨stores,assets,identifiers,added,_,after,makes⟩ | ⟨_,constraint,fails⟩
  swap
  · cases fails.symm.trans ok
  cases makes.symm.trans ok
  refine ⟨ready,unmatched,stores,?_⟩
  rw [requestedAsset]
  cases given : payload.description with
  | none => exact after.assets _ ((Table.mem_insert added).mpr (.inr rfl))
  | some text =>
    rw [given] at described
    have accepts := accepted_iff.mp (described rfl)
    have rows : (Cmdb.described {tables with assets, identifiers} (moment.newId 0) (some text)).assets.rows =
        tables.assets.rows ++ [_] := rows_update_added added
    apply accepts.assets
    rw [rows]
    exact List.mem_append_right _ (List.mem_singleton_self _)

theorem matchedAlone_of_matched (ready : payload.identifiers.mapM (normalise python) = .ok items)
    (done : AssetService.createAsset Tables.violation python moment tables payload = .ok (answer,next))
    (matched : answer.outcome = .matched) : MatchedAlone tables items next answer.assetId := by
  obtain ⟨resolved,ok,rfl,_⟩ := createAsset_described done
  have outcome := resolve_outcome ready ok
  obtain ⟨others,seen,alsoReady,attached,⟨asset,one,found,named,rfl⟩ | ⟨_,unmatched,_⟩⟩ := resolve_ok ok
  swap
  · cases ready.symm.trans alsoReady
    rw [outcome.mpr unmatched] at matched
    cases matched
  cases ready.symm.trans alsoReady
  obtain ⟨elsewhere,assets⟩ := attachMissing_elsewhere attached
  have seenIds : resolved.assets.rows.map (·.id) = tables.assets.rows.map (·.id) := by
    rw [assets]
    exact Table.map_revise fun _ => rfl
  have seenOthers : ∀ row ∈ resolved.assets.rows, row.id ≠ answer.assetId → row ∈ tables.assets.rows := by
    intro row member other
    rw [assets] at member
    obtain ⟨old,inOld,⟨same,rfl⟩ | ⟨_,rfl⟩⟩ := Table.mem_update.mp member
    · exact absurd (same.trans named.symm) other
    · exact inOld
  refine ⟨?_,?_,?_,?_⟩
  · cases payload.description with
    | none => exact seenIds
    | some text => exact (Table.map_revise fun _ => rfl).trans seenIds
  · cases payload.description with
    | none => exact seenOthers
    | some text =>
      intro row member other
      obtain ⟨old,inOld,⟨same,rfl⟩ | ⟨_,rfl⟩⟩ := Table.mem_update.mp member
      · exact absurd same other
      · exact seenOthers row inOld other
  · rw [identifiers_described]
    exact elsewhere
  · rw [named]
    constructor
    · obtain ⟨row,inRows,live,_,item,inItems,flagged,same⟩ := mem_matchedAssets.mp (one ▸ List.mem_singleton_self asset.id)
      exact ⟨row,inRows,live,item,inItems,flagged,same⟩
    · rintro row ⟨inRows,live,item,inItems,flagged,same⟩
      exact List.mem_singleton.mp (one ▸ mem_matchedAssets.mpr ⟨row,inRows,live,rfl,item,inItems,flagged,same⟩)

end Resolved

/-- In every state that the database accepts and for every payload that the schema does: the route
honours the payload if and only if it asks for `ACTIVE` or no new asset of it can be stored. -/
theorem creation_honoured (python : Python) (moment : Moment) (tables : Tables) (payload : AssetCreate)
    (sound : tables.violation = none) :
    Honours python moment tables payload ↔
      payload.lifecycleState = .active ∨ ∀ items, ¬ Storable python moment tables payload items := by
  have accepted := accepted_iff.mp sound
  constructor
  · intro honours
    by_contra neither
    push Not at neither
    obtain ⟨other,items,storable⟩ := neither
    obtain ⟨answer,next,done,created,named,rows,_⟩ := createAsset_storable accepted storable
    have asked := honours.answered items answer next storable.ready done
    rw [created] at asked
    obtain ⟨asset,alone,_,fulfils⟩ := asked.asset
    have same : requestedAsset moment payload = asset := by
      rw [rows] at alone
      exact List.singleton_inj.mp (List.append_cancel_left alone)
    subst same
    exact other fulfils.lifecycleState.symm
  · intro condition
    constructor
    · intro items answer next ready done
      cases reported : answer.outcome with
      | matched => exact matchedAlone_of_matched ready done reported
      | created =>
        have storable := storable_of_created accepted ready done reported
        have active : payload.lifecycleState = .active := condition.resolve_right fun none => none items storable
        obtain ⟨answer',next',done',_,named,rows,held,once⟩ := createAsset_storable accepted storable
        cases done.symm.trans done'
        exact ⟨⟨requestedAsset moment payload,rows,named.symm,rfl,rfl,rfl,active.symm⟩,held,once⟩
    · intro refusal refused
      apply settle_error
      simp only [attempt,refused]
      rfl

section Laboratory

def labCreate (lifecycleState : LifecycleState) (not_terminal_on_create : ¬ lifecycleState.Terminal) : AssetCreate where
  assetType := .host
  displayName := "pve-09"
  description := some "in the second rack"
  lifecycleState
  identifiers := labOnce
  name_bounds := host_bounds
  description_bounds := by decide
  not_terminal_on_create

theorem creation_honoured_lab : labTables.violation = none ∧
    Honours labPython (labMoment 5 100) labTables (labCreate .active (by decide)) := by
  have sound : labTables.violation = none := by decide +kernel
  exact ⟨sound,(creation_honoured labPython (labMoment 5 100) labTables (labCreate .active (by decide)) sound).mpr (.inl rfl)⟩

/-- A host that is only planned is created as an active one. -/
theorem planned_created_active : labTables.violation = none ∧
    ¬ Honours labPython (labMoment 5 100) labTables (labCreate .planned (by decide)) := by
  refine ⟨by decide +kernel,?_⟩
  have made : (match AssetService.createAsset Tables.violation labPython (labMoment 5 100) labTables
      (labCreate .planned (by decide)) with
    | .ok (answer,next) => answer.outcome = .created && next.assets.rows.all (·.lifecycleState = .active)
    | .error _ => false) = true := by
    decide +kernel
  intro honours
  split at made
  · rename_i answer next done
    rw [Bool.and_eq_true,List.all_eq_true] at made
    obtain ⟨resolved,ok,_⟩ := createAsset_ok done
    obtain ⟨items,_,ready,_⟩ := resolve_ok ok
    have asked := honours.answered items answer next ready done
    rw [of_decide_eq_true made.1] at asked
    obtain ⟨asset,rows,_,fulfils⟩ := asked.asset
    have active := of_decide_eq_true (made.2 asset (rows ▸ List.mem_append_right _ (List.mem_singleton_self asset)))
    cases active.symm.trans fulfils.lifecycleState
  · cases made

end Laboratory

end Acop.Cmdb
