import Acop.Cmdb.Vocabulary
import Acop.Tables
import Acop.Store.Table

/-! The inventory's tables and what PostgreSQL asks of them. -/
namespace Acop.Cmdb
open Acop.Store

/-- A `NUMERIC`. Two of them are equal as numbers; NaN equals nothing. -/
inductive Numeric where
  | finite (value : Rat)
  | nonFinite (value : NonFinite)
  deriving DecidableEq

def Numeric.equal : Numeric → Numeric → Bool
  | finite first,finite second => first = second
  | nonFinite .nan,_ => false
  | nonFinite first,nonFinite second => first = second
  | _,_ => false

/-- `Numeric(4, 3)`, which rounds half away from zero, at what is not negative. -/
def numeric43 (confidence : Rat) : Rat := (((confidence * 1000 + 1/2).floor : Int) : Rat) / 1000

inductive FactValue where
  | text (value : String)
  | number (value : Numeric)
  | bool (value : Bool)
  | timestamp (value : Time)
  | json (value : JsonObject)
  | assetRef (value : Uuid)

def FactValue.valueType : FactValue → ValueType
  | text _ => .text
  | number _ => .number
  | bool _ => .bool
  | timestamp _ => .timestamp
  | json _ => .json
  | assetRef _ => .assetRef

/-- Where a claim came from and how far it is trusted. -/
structure Provenance where
  statementClass : StatementClass
  sourceType : SourceType
  sourceId : String
  confidence : Rat
  verificationStatus : VerificationStatus
  verifiedBySubject : Option String := none
  verifiedAt : Option Time := none
  approvedBySubject : Option String := none
  approvedAt : Option Time := none

def Provenance.IsInference (provenance : Provenance) : Prop :=
  provenance.statementClass = .inference ∨ provenance.sourceType = .aiInference

instance (provenance : Provenance) : Decidable provenance.IsInference := inferInstanceAs (Decidable (_ ∨ _))

structure ValidityInterval where
  validFrom : Time
  validTo : Option Time := none
  firstSeenAt : Time
  lastSeenAt : Time

def ValidityInterval.overlaps (first second : ValidityInterval) : Bool :=
  first.validTo ≠ some first.validFrom && second.validTo ≠ some second.validFrom &&
    second.validTo.all (first.validFrom < ·) && first.validTo.all (second.validFrom < ·)

structure Asset where
  id : Uuid
  assetType : AssetType
  lifecycleState : LifecycleState := .active
  displayName : String
  description : Option String := none
  mergedIntoId : Option Uuid := none
  firstSeenAt : Time
  lastSeenAt : Time
  retiredAt : Option Time := none
  deriving DecidableEq

structure AssetIdentifier where
  id : Uuid
  assetId : Uuid
  namespaceName : String
  valueRaw : String
  valueNormalized : String
  uniqueInNamespace : Bool
  sourceType : SourceType
  sourceId : String
  confidence : Rat
  firstSeenAt : Time
  lastSeenAt : Time
  retiredAt : Option Time := none
  deriving DecidableEq

structure AssetFact extends Provenance, ValidityInterval where
  id : Uuid
  assetId : Uuid
  predicate : String
  factKind : FactKind
  value : FactValue
  unit : Option String
  supersedesFactId : Option Uuid
  derivedFromFactId : Option Uuid := none

structure AssetRelationship extends Provenance, ValidityInterval where
  id : Uuid
  relationshipType : RelationshipType
  sourceAssetId : Uuid
  targetAssetId : Uuid
  isSymmetric : Bool
  qualifier : Option String
  supersedesRelId : Option Uuid

structure FactAttestation where
  id : Uuid
  factId : Uuid
  action : AttestationAction
  fromStatus : VerificationStatus
  toStatus : VerificationStatus
  principalSubject : String
  principalType : PrincipalType
  principalIssuer : String
  authMethod : AuthMethod
  reason : Option String
  requestId : Option String
  occurredAt : Time

structure Tables where
  assets : Table Asset.id
  identifiers : Table AssetIdentifier.id
  facts : Table AssetFact.id
  relationships : Table AssetRelationship.id
  attestations : Table FactAttestation.id

inductive Constraint where
  | columnType | primaryKey
  | mergedState | retiredState | noSelfMerge | namespaceFormat | identifierLiveUnique | identifierAssetValue
  | assetReference | supersedesReference | derivedFromReference
  | predicateFormat | inferenceNotAuthoritative | verifiedAttribution | approvedAttribution | desiredIsApproved
  | interval | confidence | factNoOverlap | liveClaim | liveAuthority
  | noSelf | symmetricOrder | relationshipNoOverlap | relationshipLive
  deriving DecidableEq

section Checks

def Provenance.columnsFit (row : Provenance) : Bool :=
  fits 255 row.sourceId && fitsOptional 255 row.verifiedBySubject && fitsOptional 255 row.approvedBySubject

def claimChecks (provenance : Provenance) (validity : ValidityInterval) : List (Constraint × Bool) :=
  [(.inferenceNotAuthoritative,!(decide provenance.IsInference && isAuthoritative provenance.verificationStatus)),
    (.verifiedAttribution,provenance.verificationStatus ≠ .verified ||
      (provenance.verifiedBySubject.isSome && provenance.verifiedAt.isSome)),
    (.approvedAttribution,provenance.verificationStatus ≠ .approved ||
      (provenance.approvedBySubject.isSome && provenance.approvedAt.isSome)),
    (.interval,validity.validTo.all (validity.validFrom ≤ ·)),
    (.confidence,0 ≤ provenance.confidence && provenance.confidence ≤ 1)]

def Asset.checks (row : Asset) : List (Constraint × Bool) :=
  [(.columnType,fits 255 row.displayName && fitsOptional 2000 row.description),
    (.mergedState,(row.lifecycleState = .merged) = row.mergedIntoId.isSome),
    (.retiredState,(row.lifecycleState = .retired) = row.retiredAt.isSome),
    (.noSelfMerge,row.mergedIntoId ≠ some row.id)]

def AssetIdentifier.checks (row : AssetIdentifier) : List (Constraint × Bool) :=
  [(.columnType,fits 48 row.namespaceName && fits 255 row.valueRaw && fits 255 row.valueNormalized && fits 255 row.sourceId),
    (.namespaceFormat,matchesNamespace row.namespaceName),
    (.confidence,0 ≤ row.confidence && row.confidence ≤ 1)]

def FactValue.columnFits : FactValue → Bool
  | text value => Json.plainText value
  | json value => Json.storableFields value
  | _ => true

def AssetFact.checks (row : AssetFact) : List (Constraint × Bool) :=
  [(.columnType,fits 128 row.predicate && row.value.columnFits && fitsOptional 24 row.unit && row.columnsFit),
    (.predicateFormat,matchesPredicate row.predicate),
    (.desiredIsApproved,row.factKind ≠ .desiredState || row.verificationStatus = .approved)] ++
  claimChecks row.toProvenance row.toValidityInterval

def AssetRelationship.checks (row : AssetRelationship) : List (Constraint × Bool) :=
  [(.columnType,fitsOptional 128 row.qualifier && row.columnsFit),
    (.noSelf,row.sourceAssetId ≠ row.targetAssetId),
    (.symmetricOrder,!row.isSymmetric || row.sourceAssetId.toNat < row.targetAssetId.toNat)] ++
  claimChecks row.toProvenance row.toValidityInterval

def FactAttestation.checks (row : FactAttestation) : List (Constraint × Bool) :=
  [(.columnType,fits 255 row.principalSubject && fits 255 row.principalIssuer && fitsOptional 1024 row.reason &&
    fitsOptional 128 row.requestId)]

def apart {Row : Type} (rows : List Row) (clash : Row → Row → Bool) : Bool :=
  decide (rows.Pairwise fun first second => clash first second = false)

variable (tables : Tables)

def Tables.hasAsset (id : Uuid) : Bool := (tables.assets.find id).isSome

def Tables.hasFact (id : Uuid) : Bool := (tables.facts.find id).isSome

def sameClaim (first second : AssetFact) : Bool :=
  first.assetId = second.assetId && first.predicate = second.predicate && first.factKind = second.factKind

def sameEdge (first second : AssetRelationship) : Bool :=
  first.sourceAssetId = second.sourceAssetId && first.relationshipType = second.relationshipType &&
    first.targetAssetId = second.targetAssetId && first.qualifier.getD "" = second.qualifier.getD "" &&
    first.sourceId = second.sourceId

def sameIdentifier (first second : AssetIdentifier) : Bool :=
  first.namespaceName = second.namespaceName && first.valueNormalized = second.valueNormalized &&
    first.retiredAt = none && second.retiredAt = none

def Tables.crossChecks : List (Constraint × Bool) :=
  [(.assetReference,
      tables.assets.rows.all (fun row => row.mergedIntoId.all tables.hasAsset) &&
      tables.identifiers.rows.all (fun row => tables.hasAsset row.assetId) &&
      tables.facts.rows.all (fun row => tables.hasAsset row.assetId && match row.value with
        | .assetRef id => tables.hasAsset id
        | _ => true) &&
      tables.relationships.rows.all (fun row => tables.hasAsset row.sourceAssetId && tables.hasAsset row.targetAssetId)),
    (.supersedesReference,
      tables.facts.rows.all (fun row => row.supersedesFactId.all tables.hasFact) &&
      tables.relationships.rows.all (fun row => row.supersedesRelId.all fun id => (tables.relationships.find id).isSome)),
    (.derivedFromReference,
      tables.facts.rows.all (fun row => row.derivedFromFactId.all tables.hasFact) &&
      tables.attestations.rows.all (fun row => tables.hasFact row.factId)),
    (.identifierLiveUnique,apart tables.identifiers.rows fun first second =>
      sameIdentifier first second && first.uniqueInNamespace && second.uniqueInNamespace),
    (.identifierAssetValue,apart tables.identifiers.rows fun first second =>
      sameIdentifier first second && first.assetId = second.assetId),
    (.factNoOverlap,apart tables.facts.rows fun first second =>
      sameClaim first second && first.sourceId = second.sourceId && first.overlaps second.toValidityInterval),
    (.liveClaim,apart tables.facts.rows fun first second =>
      sameClaim first second && first.sourceId = second.sourceId && first.validTo = none && second.validTo = none),
    (.liveAuthority,apart tables.facts.rows fun first second =>
      sameClaim first second && first.validTo = none && second.validTo = none &&
        isAuthoritative first.verificationStatus && isAuthoritative second.verificationStatus),
    (.relationshipNoOverlap,apart tables.relationships.rows fun first second =>
      sameEdge first second && first.overlaps second.toValidityInterval),
    (.relationshipLive,apart tables.relationships.rows fun first second =>
      sameEdge first second && first.validTo = none && second.validTo = none)]

def Tables.violation : Option Constraint :=
  ((tables.assets.rows.flatMap Asset.checks ++ tables.identifiers.rows.flatMap AssetIdentifier.checks ++
    tables.facts.rows.flatMap AssetFact.checks ++ tables.relationships.rows.flatMap AssetRelationship.checks ++
    tables.attestations.rows.flatMap FactAttestation.checks ++ tables.crossChecks).find? fun check => !check.2).map (·.1)

end Checks

end Acop.Cmdb
