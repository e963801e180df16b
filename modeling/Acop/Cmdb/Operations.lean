import Acop.Cmdb.Asset
import Acop.Serial

/-! The inventory's operations, each a transaction of its own. -/
namespace Acop.Cmdb
open Acop.Serial

/-- An operation on assets and their identifiers. -/
inductive AssetOperation where
  | create (payload : AssetCreate)
  | resolve (payload : ResolveRequest)
  | update (assetId : Uuid) (payload : AssetUpdate)
  | retire (assetId : Uuid)
  | attachIdentifier (assetId : Uuid) (payload : IdentifierInput)
  | retireIdentifier (identifierId : Uuid)

inductive ClaimOperation where
  | assertFact (assetId : Uuid) (payload : FactAssert)
  | createDesired (occurredAt : Time) (assetId : Uuid) (payload : DesiredFactCreate) (principal : Principal)
      (derivedFrom : Option Uuid) (requestId : Option String)
  | transition (occurredAt : Time) (factId : Uuid) (action : AttestationAction) (principal : Principal)
      (reason requestId : Option String)
  | assertRelationship (payload : RelationshipAssert)
  | retireRelationship (relationshipId : Uuid)

inductive Request where
  | asset (request : AssetOperation)
  | claim (request : ClaimOperation)

/-- A request and what it reads from outside. -/
structure Operation where
  request : Request
  moment : Moment

variable (verdict : Verdict) (python : Python)

def attempt (tables : Tables) (op : Operation) : Except Refusal Tables :=
  match op.request with
  | .asset request => match request with
    | .create payload => return (← AssetService.createAsset verdict python op.moment tables payload).2
    | .resolve payload => return (← IdentityResolver.resolve verdict python op.moment tables payload.assetType
        payload.displayName payload.identifiers payload.createIfMissing).2
    | .update assetId payload => AssetService.update verdict tables assetId payload
    | .retire assetId => return (← AssetService.retire verdict op.moment tables assetId).2
    | .attachIdentifier assetId payload => return (← AssetService.attachIdentifier verdict python op.moment tables assetId payload).2
    | .retireIdentifier identifierId => return (← AssetService.retireIdentifier verdict op.moment tables identifierId).2
  | .claim request => match request with
    | .assertFact assetId payload => return (← FactService.assertFact verdict python op.moment tables assetId payload).2
    | .createDesired occurredAt assetId payload principal derivedFrom requestId =>
      return (← FactService.createDesired verdict python op.moment tables occurredAt assetId payload principal derivedFrom
        requestId).2
    | .transition occurredAt factId action principal reason requestId =>
      return (← FactService.transition verdict op.moment tables occurredAt factId action principal reason requestId).2
    | .assertRelationship payload => return (← RelationshipService.assertRelationship verdict op.moment tables payload).2
    | .retireRelationship relationshipId => return (← RelationshipService.retire verdict op.moment tables relationshipId).2

/-- The tables after an operation, which a refusal leaves as they were. -/
def next (tables : Tables) (op : Operation) : Tables := settle (attempt verdict python) tables op

def after (tables : Tables) (ops : List Operation) : Tables := run (next verdict python) tables ops

end Acop.Cmdb
