import Mathlib.Data.Prod.Lex
import Mathlib.Data.String.Basic
import Acop.Selection.Ordered
import Acop.Cmdb.Relationship

/-! The read path of edges: listing them, and the neighbours of an asset, each edge labelled as
it reads from that asset's side. -/
namespace Acop.Cmdb
open Acop.Store Acop.Selection

/-- `inverse_label` of `RELATIONSHIP_SPECS`. -/
def RelationshipType.inverseLabel : RelationshipType → String
  | hasInterface => "INTERFACE_OF"
  | connectedTo => "CONNECTED_TO"
  | memberOf => "HAS_MEMBER"
  | runsOn => "HOSTS"
  | dependsOn => "REQUIRED_BY"
  | ipAssignedTo => "HAS_IP"
  | usesStorage => "PROVIDES_STORAGE"

inductive Direction where
  | outbound | inbound | both
  deriving DecidableEq

structure Neighbour where
  relationshipId : Uuid
  label : String
  direction : Direction
  qualifier : Option String
  assetId : Uuid
  assetType : AssetType
  displayName : String
  lifecycleState : LifecycleState
  verificationStatus : VerificationStatus
  sourceId : String

def AssetRelationship.touches (edge : AssetRelationship) (assetId : Uuid) : Direction → Bool
  | .outbound => edge.sourceAssetId = assetId
  | .inbound => edge.targetAssetId = assetId
  | .both => edge.sourceAssetId = assetId || edge.targetAssetId = assetId

namespace RelationshipService

variable (tables : Tables)

def listRelationships (assetId : Option Uuid) (relationshipType : Option RelationshipType) (direction : Direction)
    (includeClosed : Bool) : List AssetRelationship :=
  ordered (fun edge => edge.relationshipType.value) <| tables.relationships.rows.filter fun edge =>
    (includeClosed || edge.validTo = none) && relationshipType.all (edge.relationshipType = ·) &&
      assetId.all fun id => edge.touches id direction

def otherId (assetId : Uuid) (edge : AssetRelationship) : Uuid :=
  if edge.sourceAssetId = assetId then edge.targetAssetId else edge.sourceAssetId

def seenFrom (assetId : Uuid) (edge : AssetRelationship) (other : Asset) : Neighbour :=
  let outbound : Bool := edge.sourceAssetId = assetId
  {relationshipId := edge.id
   label := if outbound || (relationshipSpecs edge.relationshipType).symmetric then edge.relationshipType.value
     else edge.relationshipType.inverseLabel
   direction := if outbound then .outbound else .inbound
   qualifier := edge.qualifier
   assetId := other.id
   assetType := other.assetType
   displayName := other.displayName
   lifecycleState := other.lifecycleState
   verificationStatus := edge.verificationStatus
   sourceId := edge.sourceId}

def neighbours (assetId : Uuid) : Except Refusal (List Neighbour) := do
  let _ ← requireAsset tables assetId
  let edges := listRelationships tables (some assetId) none .both false
  let found := edges.filterMap fun edge =>
    (tables.assets.find (otherId assetId edge)).map (seenFrom assetId edge)
  return ordered (fun item => toLex (item.label,item.displayName)) found

end RelationshipService

end Acop.Cmdb
