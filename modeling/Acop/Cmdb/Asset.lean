import Acop.Cmdb.Relationship

/-! Assets and their identifiers: resolution to exactly one asset, creation, update,
attachment and retirement. -/
namespace Acop.Cmdb
open Acop.Store

structure IdentifierInput where
  namespaceName : String
  value : String
  sourceType : SourceType := .manualEntry
  sourceId : String := "acop:api"
  confidence : Rat := 1
  namespace_rules : namespaceName.length ≤ 48 ∧ matchesNamespace namespaceName
  value_bounds : 1 ≤ value.length ∧ value.length ≤ 255
  source_bounds : sourceId.length ≤ 255
  confidence_bounds : 0 ≤ confidence ∧ confidence ≤ 1

structure AssetCreate where
  assetType : AssetType
  displayName : String
  description : Option String := none
  lifecycleState : LifecycleState := .active
  identifiers : List IdentifierInput := []
  name_bounds : 1 ≤ displayName.length ∧ displayName.length ≤ 255
  description_bounds : ∀ text ∈ description, text.length ≤ 2000
  not_terminal_on_create : ¬ lifecycleState.Terminal

structure ResolveRequest where
  assetType : AssetType
  displayName : String
  identifiers : List IdentifierInput
  createIfMissing : Bool := true
  name_bounds : 1 ≤ displayName.length ∧ displayName.length ≤ 255

structure AssetUpdate where
  displayName : Option String := none
  description : Option String := none
  lifecycleState : Option LifecycleState := none
  name_bounds : ∀ text ∈ displayName, 1 ≤ text.length ∧ text.length ≤ 255
  description_bounds : ∀ text ∈ description, text.length ≤ 2000
  no_terminal : ∀ state ∈ lifecycleState, ¬ state.Terminal

structure NormalisedIdentifier where
  namespaceName : String
  valueRaw : String
  valueNormalized : String
  uniqueInNamespace : Bool
  sourceType : SourceType
  sourceId : String
  confidence : Rat

def NormalisedIdentifier.key (item : NormalisedIdentifier) : String × String := (item.namespaceName,item.valueNormalized)

def AssetIdentifier.key (row : AssetIdentifier) : String × String := (row.namespaceName,row.valueNormalized)

/-- The registry's normaliser and uniqueness policy; an unregistered namespace is never unique. -/
def normalise (python : Python) (identifier : IdentifierInput) : Except Refusal NormalisedIdentifier :=
  let spec := (identifierNamespaces.lookup identifier.namespaceName).getD {unique := false}
  let valueNormalized := spec.normaliser.apply python identifier.value
  if valueNormalized = "" then
    .error (.vocabulary s!"Identifier value for namespace '{identifier.namespaceName}' is empty after normalisation."
      [("namespace",.str identifier.namespaceName)])
  else .ok {
    namespaceName := identifier.namespaceName
    valueRaw := identifier.value
    valueNormalized
    uniqueInNamespace := spec.unique
    sourceType := identifier.sourceType
    sourceId := identifier.sourceId
    confidence := identifier.confidence}

inductive ResolutionOutcome where
  | matched | created
  deriving DecidableEq

structure Resolution where
  outcome : ResolutionOutcome
  assetId : Uuid
  matchedOn : List String := []

def newIdentifier (id assetId : Uuid) (item : NormalisedIdentifier) (now : Time) : AssetIdentifier where
  id
  assetId
  namespaceName := item.namespaceName
  valueRaw := item.valueRaw
  valueNormalized := item.valueNormalized
  uniqueInNamespace := item.uniqueInNamespace
  sourceType := item.sourceType
  sourceId := item.sourceId
  confidence := numeric43 item.confidence
  firstSeenAt := now
  lastSeenAt := now

def seeIdentifier (now : Time) : Revision AssetIdentifier.id where
  change row := {row with lastSeenAt := now}
  keeps _ := rfl

def insertIdentifier (tables : Tables) (row : AssetIdentifier) : Except Refusal Tables :=
  match tables.identifiers.insert row with
  | some identifiers => .ok {tables with identifiers}
  | none => .error (.integrity .primaryKey)

namespace IdentityResolver

variable (verdict : Verdict) (python : Python) (moment : Moment) (tables : Tables)

/-- The live identifiers that `find_matches` selects. -/
def matchingRows (identifiers : List NormalisedIdentifier) : List AssetIdentifier :=
  tables.identifiers.rows.filter fun row => row.retiredAt = none &&
    identifiers.any fun item => item.uniqueInNamespace && row.key = item.key

/-- The assets that `find_matches` maps. -/
def matchedAssets (identifiers : List NormalisedIdentifier) : List Uuid :=
  (matchingRows tables identifiers).map (·.assetId) |>.dedup

def matchedNamespaces (identifiers : List NormalisedIdentifier) (assetId : Uuid) : List String :=
  ((matchingRows tables identifiers).filter (·.assetId = assetId)).map (·.namespaceName) |>.insertionSort (· ≤ ·)

def heldBy (assetId : Uuid) : List AssetIdentifier :=
  tables.identifiers.rows.filter fun row => row.assetId = assetId && row.retiredAt = none

/-- `_attach_missing`, item by item: `existing` is what the asset held before the first. -/
def attachItems (existing : List AssetIdentifier) (assetId : Uuid) :
    Nat → List NormalisedIdentifier → Tables → Except Refusal Tables
  | _,[],tables => .ok tables
  | drawn,item::items,tables => match existing.find? fun row => row.key = item.key with
    | some found =>
      attachItems existing assetId drawn items
        {tables with identifiers := tables.identifiers.update found.id (seeIdentifier moment.now)}
    | none => do
      let inserted ← insertIdentifier tables (newIdentifier (moment.newId drawn) assetId item moment.now)
      attachItems existing assetId (drawn + 1) items inserted

def attachMissing (assetId : Uuid) (identifiers : List NormalisedIdentifier) : Except Refusal Tables := do
  let attached ← attachItems moment (heldBy tables assetId) assetId 1 identifiers tables
  flush verdict attached

def newAsset (assetType : AssetType) (displayName : String) : Asset where
  id := moment.newId 0
  assetType
  displayName
  firstSeenAt := moment.now
  lastSeenAt := moment.now

def insertAsset (asset : Asset) : Except Refusal Tables :=
  match tables.assets.insert asset with
  | some assets => .ok {tables with assets}
  | none => .error (.integrity .primaryKey)

def resolve (assetType : AssetType) (displayName : String) (identifiers : List IdentifierInput) (createIfMissing : Bool) :
    Except Refusal (Resolution × Tables) := do
  let normalised ← identifiers.mapM (normalise python)
  match matchedAssets tables normalised with
  | first::second::rest => .error (.identityConflict
      "Presented identifiers match more than one existing asset. ACOP will not guess which is correct."
      [("candidates",.arr ((first::second::rest).map fun assetId => .obj
        [("asset_id",.str assetId.text),("matched_on",.arr ((matchedNamespaces tables normalised assetId).map .str))]))])
  | [assetId] =>
    match tables.assets.find assetId with
    | none => .error (.identityConflict "Matched asset disappeared mid-resolution." [])
    | some asset =>
      let seen := {tables with assets := tables.assets.update asset.id (FactService.seeAsset moment.now)}
      let next ← attachMissing verdict moment seen asset.id normalised
      return (⟨.matched,asset.id,matchedNamespaces tables normalised assetId⟩,next)
  | [] =>
    if ¬ createIfMissing then
      .error (.identityConflict "No existing asset matched and creation was not requested." [("candidates",.arr [])])
    else
      let asset := newAsset moment assetType displayName
      let inserted ← insertAsset tables asset
      let flushed ← flush verdict inserted
      let next ← attachMissing verdict moment flushed asset.id normalised
      return (⟨.created,asset.id,[]⟩,next)

end IdentityResolver

namespace AssetService

variable (verdict : Verdict) (python : Python) (moment : Moment) (tables : Tables)

def describe (description : String) : Revision Asset.id where
  change asset := {asset with description := some description}
  keeps _ := rfl

/-- `POST /cmdb/assets`. -/
def createAsset (payload : AssetCreate) : Except Refusal (Resolution × Tables) := do
  let (resolution,resolved) ← IdentityResolver.resolve verdict python moment tables payload.assetType payload.displayName
    payload.identifiers true
  match payload.description with
  | none => return (resolution,resolved)
  | some description =>
    let next ← flush verdict {resolved with assets := resolved.assets.update resolution.assetId (describe description)}
    return (resolution,next)

def assign (payload : AssetUpdate) : Revision Asset.id where
  change asset := {asset with
    displayName := payload.displayName.getD asset.displayName
    description := payload.description.orElse fun _ => asset.description
    lifecycleState := payload.lifecycleState.getD asset.lifecycleState}
  keeps _ := rfl

def update (assetId : Uuid) (payload : AssetUpdate) : Except Refusal Tables := do
  let asset ← requireAsset tables assetId
  if asset.lifecycleState.Terminal then
    .error (.conflict s!"Asset is {asset.lifecycleState.value} and cannot be modified."
      [("lifecycle_state",.str asset.lifecycleState.value)])
  else flush verdict {tables with assets := tables.assets.update assetId (assign payload)}

/-- A retired asset's last known claims are stale; an authoritative one keeps its standing. -/
def closeStale (now : Time) : Revision AssetFact.id where
  change fact := {fact with
    validTo := some now
    verificationStatus := if isAuthoritative fact.verificationStatus then fact.verificationStatus else .stale}
  keeps _ := rfl

def retired (now : Time) : Revision Asset.id where
  change asset := {asset with lifecycleState := .retired,retiredAt := some now}
  keeps _ := rfl

def liveFactOf (assetId : Uuid) (fact : AssetFact) : Bool := fact.assetId = assetId && fact.validTo = none

def liveEdgeOf (assetId : Uuid) (edge : AssetRelationship) : Bool :=
  (edge.sourceAssetId = assetId || edge.targetAssetId = assetId) && edge.validTo = none

/-- `retire`, with the numbers of facts and edges closed. -/
def retire (assetId : Uuid) : Except Refusal ((Nat × Nat) × Tables) := do
  let asset ← requireAsset tables assetId
  if asset.lifecycleState = .retired then .error (.conflict "Asset is already retired." [])
  else if asset.lifecycleState = .merged then .error (.conflict "A merged asset cannot be retired separately." [])
  else
    let next ← flush verdict {tables with
      assets := tables.assets.update assetId (retired moment.now)
      facts := tables.facts.revise (liveFactOf assetId) (closeStale moment.now)
      relationships := tables.relationships.revise (liveEdgeOf assetId) (RelationshipService.close moment.now)}
    return ((tables.facts.rows.countP (liveFactOf assetId),tables.relationships.rows.countP (liveEdgeOf assetId)),next)

def attachIdentifier (assetId : Uuid) (payload : IdentifierInput) : Except Refusal (AssetIdentifier × Tables) := do
  let asset ← requireAsset tables assetId
  let item ← normalise python payload
  match (IdentityResolver.heldBy tables asset.id).find? fun row => row.key = item.key with
  | some existing =>
    let next ← flush verdict {tables with identifiers := tables.identifiers.update existing.id (seeIdentifier moment.now)}
    return ((seeIdentifier moment.now).change existing,next)
  | none =>
    match if item.uniqueInNamespace then
        tables.identifiers.rows.find? fun row => row.key = item.key && row.retiredAt = none else none with
    | some clash => .error (.conflict
        s!"{item.namespaceName}:{item.valueNormalized} is already attached to another asset. Retire it there first."
        [("existing_asset_id",.str clash.assetId.text)])
    | none =>
      let identifier := newIdentifier (moment.newId 0) asset.id item moment.now
      let inserted ← insertIdentifier tables identifier
      let next ← flush verdict inserted
      return (identifier,next)

def retireRow (now : Time) : Revision AssetIdentifier.id where
  change row := {row with retiredAt := some now}
  keeps _ := rfl

def retireIdentifier (identifierId : Uuid) : Except Refusal (AssetIdentifier × Tables) := do
  match tables.identifiers.find identifierId with
  | none => .error (.notFound s!"Identifier {identifierId.text} does not exist.")
  | some identifier =>
    if identifier.retiredAt.isSome then .error (.conflict "Identifier is already retired." [])
    else
      let next ← flush verdict {tables with identifiers := tables.identifiers.update identifierId (retireRow moment.now)}
      return ((retireRow moment.now).change identifier,next)

end AssetService

end Acop.Cmdb
