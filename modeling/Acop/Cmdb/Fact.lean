import Acop.Cmdb.Tables
import Acop.Fallible

/-! Facts: the screening of a value, assertion, desired state and trust transitions,
under the trust rules that facts and relationships share. -/
namespace Acop.Cmdb
open Acop.Store

inductive Refusal where
  | notFound (message : String)
  | conflict (message : String) (context : JsonObject)
  | validation (message : String) (context : JsonObject)
  | vocabulary (message : String) (context : JsonObject)
  | identityConflict (message : String) (context : JsonObject)
  | secretRejected (message : String) (context : JsonObject)
  | integrity (constraint : Constraint)

/-- An error of the service itself, and not of the database. -/
def Refusal.Service : Refusal → Prop
  | .integrity _ => False
  | _ => True

/-- What one operation reads from outside: its clock and the identifiers it draws. -/
structure Moment where
  now : Time
  newId : Nat → Uuid

abbrev Verdict := Tables → Option Constraint

section Store

variable (verdict : Verdict)

def flush (tables : Tables) : Except Refusal Tables :=
  match verdict tables with
  | some constraint => .error (.integrity constraint)
  | none => .ok tables

variable (tables : Tables)

def requireAsset (assetId : Uuid) : Except Refusal Asset :=
  match tables.assets.find assetId with
  | some asset => .ok asset
  | none => .error (.notFound s!"Asset {assetId.text} does not exist.")

def insertFact (fact : AssetFact) : Except Refusal Tables :=
  match tables.facts.insert fact with
  | some facts => .ok {tables with facts}
  | none => .error (.integrity .primaryKey)

def insertAttestation (attestation : FactAttestation) : Except Refusal Tables :=
  match tables.attestations.insert attestation with
  | some attestations => .ok {tables with attestations}
  | none => .error (.integrity .primaryKey)

end Store

section Screen

variable (python : Python)

def sensitivePredicateComponents : List String :=
  ["password","passwd","secret","token","api_key","apikey","authorization","auth_header","credential","private_key",
    "privatekey","community","enable_secret","session_key","cookie"]

def safePredicates : List String := ["ssh_key.public","cert.ssh_key_fingerprint","community.edition"]

def predicateNamesSecret (predicate : String) : Bool :=
  let lowered := lower predicate
  lowered ∉ safePredicates && (lowered.toList.splitOn '.').any fun component =>
    String.ofList component ∈ sensitivePredicateComponents

def maxTextValueLength : Nat := 64000

def maxJsonValueBytes : Nat := 64000

/-- The characters `json.dumps` writes for one: an escape outside `' '` to `'~'`. -/
def dumpedChar (char : Char) : Nat :=
  if char ∈ ['"','\\','\n','\r','\t','\x08','\x0c'] then 2
  else if char.toNat < 32 then 6
  else if char.toNat < 127 then 1
  else if char.toNat < 65536 then 6
  else 12

def dumpedText (text : String) : Nat := 2 + (text.toList.map dumpedChar).sum

mutual
/-- The length of `json.dumps(value)`. -/
def dumpedLength : Json → Nat
  | .null => 4
  | .bool value => if value then 4 else 5
  | .int value => (toString value).length
  | .float value => (python.floatRepr value).length
  | .nonFinite value => value.text.length
  | .str value => dumpedText value
  | .arr items => 2 + dumpedItems items
  | .obj fields => 2 + dumpedFields fields
def dumpedItems : List Json → Nat
  | [] => 0
  | [item] => dumpedLength item
  | item::items => dumpedLength item + 2 + dumpedItems items
def dumpedFields : List (String × Json) → Nat
  | [] => 0
  | [(key,value)] => dumpedText key + 2 + dumpedLength value
  | (key,value)::fields => dumpedText key + 2 + dumpedLength value + 2 + dumpedFields fields
end

mutual
/-- `_collect_redacted_keys`, by the levels left. -/
def collectRedactedKeys : Nat → Json → List String
  | 0,_ => []
  | left + 1,.obj fields => collectFromFields left fields
  | left + 1,.arr items => collectFromItems left items
  | _ + 1,_ => []
def collectFromItems : Nat → List Json → List String
  | _,[] => []
  | left,item::items => collectRedactedKeys left item ++ collectFromItems left items
def collectFromFields : Nat → List (String × Json) → List String
  | _,[] => []
  | left,(key,value)::fields =>
    (if isSensitiveKey key then [key] else collectRedactedKeys left value) ++ collectFromFields left fields
end

structure ScreenResult where
  value : FactValue
  redactedJsonKeys : List String := []

/-- `FactValueScreen.screen`, with the value it lets through. -/
def screen (predicate : String) (value : FactValue) : Except Refusal ScreenResult :=
  if predicateNamesSecret predicate then
    .error (.secretRejected s!"Predicate '{predicate}' names a secret and cannot be stored in the CMDB."
      [("predicate",.str predicate)])
  else match value with
    | .text text =>
      if maxTextValueLength < text.length then
        .error (.secretRejected s!"Text value for '{predicate}' exceeds {maxTextValueLength} characters."
          [("predicate",.str predicate),("length",.int text.length)])
      else .ok {value}
    | .json fields =>
      if maxJsonValueBytes < dumpedLength python (.obj fields) then
        .error (.secretRejected s!"JSON value for '{predicate}' exceeds {maxJsonValueBytes} bytes."
          [("predicate",.str predicate)])
      else .ok {
        value := .json (redactObject fields)
        redactedJsonKeys := sorted (collectRedactedKeys (maxDepth + 1) (.obj fields)).toFinset}
    | _ => .ok {value}

end Screen

section Values

def asNumber : Json → Option Numeric
  | .bool value => some (.finite (if value then 1 else 0))
  | .int value => some (.finite value)
  | .float value => some (.finite value)
  | .nonFinite value => some (.nonFinite value)
  | _ => none

mutual
/-- `==` on what `json.loads` yields. -/
def pyEqual : Json → Json → Bool
  | .null,.null => true
  | .str first,.str second => first = second
  | .arr first,.arr second => pyEqualItems first second
  | .obj first,.obj second => first.length = second.length && pyEqualFields first second
  | first,second => match asNumber first,asNumber second with
    | some first,some second => first.equal second
    | _,_ => false
def pyEqualItems : List Json → List Json → Bool
  | [],[] => true
  | first::firsts,second::seconds => pyEqual first second && pyEqualItems firsts seconds
  | _,_ => false
def pyEqualFields : List (String × Json) → List (String × Json) → Bool
  | [],_ => true
  | (key,value)::fields,others => (match Json.get others key with
    | some other => pyEqual value other
    | none => false) && pyEqualFields fields others
end

def valuesEqual : FactValue → FactValue → Bool
  | .text current,.text candidate => current = candidate
  | .number current,.number candidate => current.equal candidate
  | .bool current,.bool candidate => current = candidate
  | .timestamp current,.timestamp candidate => current = candidate
  | .json current,.json candidate => pyEqual (.obj current) (.obj candidate)
  | .assetRef current,.assetRef candidate => current = candidate
  | _,_ => false

end Values

/-- A payload that its schema has accepted, the predicate as its validator leaves it.
A number is the decimal that `_value_columns` makes of it. -/
structure FactAssert where
  predicate : String
  factKind : FactKind := .observedState
  sourceType : SourceType
  sourceId : String
  confidence : Rat := 1
  value : FactValue
  unit : Option String := none
  predicate_rules : predicate.length ≤ 128 ∧ matchesPredicate predicate ∧ predicate ∉ reservedRelationshipPredicates
  known_shape : ∀ valueType ∈ knownPredicates.lookup predicate, value.valueType = valueType
  needs_no_human : factKind ≠ .desiredState
  source_bounds : 1 ≤ sourceId.length ∧ sourceId.length ≤ 255
  confidence_bounds : 0 ≤ confidence ∧ confidence ≤ 1
  unit_bounds : ∀ name ∈ unit, name.length ≤ 24

structure DesiredFactCreate where
  predicate : String
  value : FactValue
  unit : Option String := none
  reason : Option String := none
  predicate_rules : predicate.length ≤ 128 ∧ matchesPredicate predicate ∧ predicate ∉ reservedRelationshipPredicates
  unit_bounds : ∀ name ∈ unit, name.length ≤ 24
  reason_bounds : ∀ text ∈ reason, text.length ≤ 1024

inductive AssertOutcome where
  | created | superseded | touched
  deriving DecidableEq

structure Asserted where
  outcome : AssertOutcome
  fact : AssetFact
  supersededId : Option Uuid
  redactedJsonKeys : List String

namespace FactService

section Revisions

/-- `live.last_seen_at = now; live.confidence = ...`. -/
def touch (now : Time) (confidence : Rat) : Revision AssetFact.id where
  change fact := {fact with lastSeenAt := now,confidence := numeric43 confidence}
  keeps _ := rfl

def close (now : Time) : Revision AssetFact.id where
  change fact := {fact with validTo := some now}
  keeps _ := rfl

end Revisions

def seeAsset (now : Time) : Revision Asset.id where
  change asset := {asset with lastSeenAt := now}
  keeps _ := rfl

variable (verdict : Verdict) (python : Python) (moment : Moment) (tables : Tables)

def liveClaim (assetId : Uuid) (predicate : String) (factKind : FactKind) (sourceId : String) : Option AssetFact :=
  tables.facts.rows.find? fun fact => fact.assetId = assetId && fact.predicate = predicate && fact.factKind = factKind &&
    fact.sourceId = sourceId && fact.validTo = none

def newFact (assetId : Uuid) (payload : FactAssert) (value : FactValue) (supersededId : Option Uuid) : AssetFact where
  id := moment.newId 0
  assetId
  predicate := payload.predicate
  factKind := payload.factKind
  statementClass := statementClassFor payload.sourceType
  sourceType := payload.sourceType
  sourceId := payload.sourceId
  confidence := numeric43 payload.confidence
  verificationStatus := defaultStatusFor payload.sourceType
  value
  unit := payload.unit
  supersedesFactId := supersededId
  validFrom := moment.now
  firstSeenAt := moment.now
  lastSeenAt := moment.now

def insertAsserted (asset : Asset) (payload : FactAssert) (screened : ScreenResult) (supersededId : Option Uuid) :
    Except Refusal (Asserted × Tables) := do
  let fact := newFact moment asset.id payload screened.value supersededId
  let inserted ← insertFact tables fact
  let flushed ← flush verdict inserted
  let next ← flush verdict {flushed with assets := flushed.assets.update asset.id (seeAsset moment.now)}
  return (⟨if supersededId.isSome then .superseded else .created,fact,supersededId,screened.redactedJsonKeys⟩,next)

def assertFact (assetId : Uuid) (payload : FactAssert) : Except Refusal (Asserted × Tables) := do
  let asset ← requireAsset tables assetId
  let screened ← screen python payload.predicate payload.value
  match liveClaim tables assetId payload.predicate payload.factKind payload.sourceId with
  | some live =>
    if valuesEqual live.value screened.value then
      let touched := touch moment.now payload.confidence
      let next ← flush verdict {tables with facts := tables.facts.update live.id touched}
      return (⟨.touched,touched.change live,none,screened.redactedJsonKeys⟩,next)
    else
      -- Close first: inserting while the old row is still live violates the partial unique index.
      let closed ← flush verdict {tables with facts := tables.facts.update live.id (close moment.now)}
      insertAsserted verdict moment closed asset payload screened (some live.id)
  | none => insertAsserted verdict moment tables asset payload screened none

section Transitions

/-- `_record_attestation`. -/
def attestation (fact : AssetFact) (action : AttestationAction) (fromStatus toStatus : VerificationStatus)
    (principal : Principal) (reason requestId : Option String) (occurredAt : Time) (id : Uuid) : FactAttestation where
  id
  factId := fact.id
  action
  fromStatus
  toStatus
  principalSubject := principal.subject
  principalType := principal.principalType
  principalIssuer := principal.issuer
  authMethod := principal.authMethod
  reason
  requestId
  occurredAt

def newDesired (assetId : Uuid) (payload : DesiredFactCreate) (value : FactValue) (principal : Principal)
    (supersededId derivedFrom : Option Uuid) : AssetFact where
  id := moment.newId 0
  assetId
  predicate := payload.predicate
  factKind := .desiredState
  statementClass := .fact
  sourceType := .manualEntry
  sourceId := principal.subject
  confidence := 1
  verificationStatus := .approved
  approvedBySubject := some principal.subject
  approvedAt := some moment.now
  value
  unit := payload.unit
  supersedesFactId := supersededId
  derivedFromFactId := derivedFrom
  validFrom := moment.now
  firstSeenAt := moment.now
  lastSeenAt := moment.now

/-- `if live is not None`: close it. -/
def closeLive (tables : Tables) : Option AssetFact → Except Refusal Tables
  | some live => flush verdict {tables with facts := tables.facts.update live.id (close moment.now)}
  | none => .ok tables

/-- `create_desired`. `occurredAt` is the clock when the attestation is recorded. -/
def createDesired (occurredAt : Time) (assetId : Uuid) (payload : DesiredFactCreate) (principal : Principal)
    (derivedFrom : Option Uuid) (requestId : Option String) : Except Refusal (AssetFact × Tables) := do
  let asset ← requireAsset tables assetId
  let screened ← screen python payload.predicate payload.value
  let live := liveClaim tables assetId payload.predicate .desiredState principal.subject
  let closed ← closeLive verdict moment tables live
  let fact := newDesired moment asset.id payload screened.value principal (live.map (·.id)) derivedFrom
  let inserted ← insertFact closed fact
  let flushed ← flush verdict inserted
  let attested ← insertAttestation flushed (attestation fact .approve .unverified .approved principal payload.reason requestId
    occurredAt (moment.newId 1))
  let next ← flush verdict attested
  return (fact,next)

def guardAuthoritativeTransition (fact : AssetFact) : Except Refusal Unit :=
  if ¬ mayBecomeAuthoritative fact.statementClass fact.sourceType then
    .error (.conflict "An AI inference can never be verified or approved. It may only stand as an UNVERIFIED parallel claim."
      [("statement_class",.str fact.statementClass.value),("source_type",.str fact.sourceType.value)])
  else .ok ()

def guardSingleAuthority (fact : AssetFact) : Except Refusal Unit :=
  match tables.facts.rows.find? fun other => other.assetId = fact.assetId && other.predicate = fact.predicate &&
      other.factKind = fact.factKind && other.validTo = none && isAuthoritative other.verificationStatus &&
      other.id ≠ fact.id with
  | some incumbent => .error (.conflict
      "Another live claim for this predicate is already authoritative. Revoke it first - at most one claim may hold authority."
      [("incumbent_fact_id",.str incumbent.id.text),("incumbent_source_id",.str incumbent.sourceId)])
  | none => .ok ()

/-- `attribution_for` and the status it comes with. -/
def attributed (action : AttestationAction) (principal : Principal) (now : Time) (fact : AssetFact) : AssetFact :=
  match action with
  | .verify => {fact with
      verificationStatus := .verified
      verifiedBySubject := some principal.subject
      verifiedAt := some now}
  | .approve => {fact with
      verificationStatus := .approved
      approvedBySubject := some principal.subject
      approvedAt := some now}
  | .revoke => {fact with
      verificationStatus := defaultStatusFor fact.sourceType
      verifiedBySubject := none
      verifiedAt := none
      approvedBySubject := none
      approvedAt := none}

def attributing (action : AttestationAction) (principal : Principal) (now : Time) : Revision AssetFact.id where
  change := attributed action principal now
  keeps _ := by cases action <;> rfl

def guardTransition (fact : AssetFact) : AttestationAction → Except Refusal Unit
  | .revoke =>
    if ¬ isAuthoritative fact.verificationStatus then
      .error (.conflict "Only a VERIFIED or APPROVED claim can be revoked."
        [("current_status",.str fact.verificationStatus.value)])
    else .ok ()
  | _ => do
    guardAuthoritativeTransition fact
    guardSingleAuthority tables fact

def transition (occurredAt : Time) (factId : Uuid) (action : AttestationAction) (principal : Principal)
    (reason requestId : Option String) : Except Refusal (AssetFact × Tables) := do
  match tables.facts.find factId with
  | none => .error (.notFound s!"Fact {factId.text} does not exist.")
  | some fact =>
    if fact.validTo.isSome then
      .error (.conflict "A closed historical claim cannot change trust state; it is already part of the record."
        [("fact_id",.str factId.text)])
    else
      guardTransition tables fact action
      let changed := attributed action principal moment.now fact
      let revised := {tables with facts := tables.facts.update factId (attributing action principal moment.now)}
      let attested ← insertAttestation revised (attestation fact action fact.verificationStatus changed.verificationStatus
        principal reason requestId occurredAt (moment.newId 0))
      let next ← flush verdict attested
      return (changed,next)

end Transitions

end FactService

end Acop.Cmdb
