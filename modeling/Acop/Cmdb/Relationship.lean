import Acop.Cmdb.Fact

/-! Edges between assets: assertion under canonical endpoints, and retirement. -/
namespace Acop.Cmdb
open Acop.Store

structure RelationshipAssert where
  relationshipType : RelationshipType
  sourceAssetId : Uuid
  targetAssetId : Uuid
  qualifier : Option String := none
  sourceType : SourceType
  sourceId : String
  confidence : Rat := 1
  qualifier_bounds : ∀ text ∈ qualifier, text.length ≤ 128
  source_bounds : 1 ≤ sourceId.length ∧ sourceId.length ≤ 255
  confidence_bounds : 0 ≤ confidence ∧ confidence ≤ 1

structure AssertedEdge where
  outcome : AssertOutcome
  edge : AssetRelationship
  canonicalised : Bool

namespace RelationshipService

def touch (now : Time) (confidence : Rat) : Revision AssetRelationship.id where
  change edge := {edge with lastSeenAt := now,confidence := numeric43 confidence}
  keeps _ := rfl

def close (now : Time) : Revision AssetRelationship.id where
  change edge := {edge with validTo := some now}
  keeps _ := rfl

def endpoints (payload : RelationshipAssert) : Uuid × Uuid :=
  if (relationshipSpecs payload.relationshipType).symmetric ∧ payload.targetAssetId.toNat < payload.sourceAssetId.toNat then
    (payload.targetAssetId,payload.sourceAssetId)
  else (payload.sourceAssetId,payload.targetAssetId)

variable (verdict : Verdict) (moment : Moment) (tables : Tables)

def liveEdge (payload : RelationshipAssert) : Option AssetRelationship :=
  tables.relationships.rows.find? fun edge => edge.sourceAssetId = (endpoints payload).1 &&
    edge.targetAssetId = (endpoints payload).2 && edge.relationshipType = payload.relationshipType &&
    edge.sourceId = payload.sourceId && edge.validTo = none

def newEdge (payload : RelationshipAssert) (supersedes : Option Uuid) : AssetRelationship where
  id := moment.newId 0
  relationshipType := payload.relationshipType
  sourceAssetId := (endpoints payload).1
  targetAssetId := (endpoints payload).2
  isSymmetric := (relationshipSpecs payload.relationshipType).symmetric
  qualifier := payload.qualifier
  statementClass := statementClassFor payload.sourceType
  sourceType := payload.sourceType
  sourceId := payload.sourceId
  confidence := numeric43 payload.confidence
  verificationStatus := defaultStatusFor payload.sourceType
  supersedesRelId := supersedes
  validFrom := moment.now
  firstSeenAt := moment.now
  lastSeenAt := moment.now

def insertEdge (edge : AssetRelationship) : Except Refusal Tables :=
  match tables.relationships.insert edge with
  | some relationships => .ok {tables with relationships}
  | none => .error (.integrity .primaryKey)

def guardEndpoints (payload : RelationshipAssert) : Except Refusal Unit := do
  let type := payload.relationshipType
  if payload.sourceAssetId = payload.targetAssetId then
    .error (.vocabulary "An asset cannot be related to itself." [("relationship_type",.str type.value)])
  else
    let source ← requireAsset tables payload.sourceAssetId
    let target ← requireAsset tables payload.targetAssetId
    if ¬ (relationshipSpecs type).permits source.assetType target.assetType then
      .error (.vocabulary s!"{type.value} does not join {source.assetType.value} to {target.assetType.value}."
        [("relationship_type",.str type.value),("source_asset_type",.str source.assetType.value),
          ("target_asset_type",.str target.assetType.value)])
    else .ok ()

def assertRelationship (payload : RelationshipAssert) : Except Refusal (AssertedEdge × Tables) := do
  guardEndpoints tables payload
  let canonicalised := decide ((endpoints payload).1 ≠ payload.sourceAssetId)
  match liveEdge tables payload with
  | some live =>
    if live.qualifier.getD "" = payload.qualifier.getD "" then
      let touched := touch moment.now payload.confidence
      let next ← flush verdict {tables with relationships := tables.relationships.update live.id touched}
      return (⟨.touched,touched.change live,canonicalised⟩,next)
    else
      let closed ← flush verdict {tables with relationships := tables.relationships.update live.id (close moment.now)}
      let edge := newEdge moment payload (some live.id)
      let inserted ← insertEdge closed edge
      let next ← flush verdict inserted
      return (⟨.created,edge,canonicalised⟩,next)
  | none =>
    let edge := newEdge moment payload none
    let inserted ← insertEdge tables edge
    let next ← flush verdict inserted
    return (⟨.created,edge,canonicalised⟩,next)

def retire (relationshipId : Uuid) : Except Refusal (AssetRelationship × Tables) := do
  match tables.relationships.find relationshipId with
  | none => .error (.notFound s!"Relationship {relationshipId.text} does not exist.")
  | some edge =>
    if edge.validTo.isSome then .error (.conflict "Relationship is already closed." [])
    else
      let next ← flush verdict {tables with relationships := tables.relationships.update relationshipId (close moment.now)}
      return ((close moment.now).change edge,next)

end RelationshipService

end Acop.Cmdb
