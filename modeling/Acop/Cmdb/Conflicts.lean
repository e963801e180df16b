import Acop.Cmdb.Fact
import Acop.Selection.Ordered
import Acop.Selection.Grouped
import Mathlib.Data.Prod.Lex

/-! Where live claims disagree, and the value that holds without a resolver. -/
namespace Acop.Cmdb
open Acop.Selection Acop.Store

def FactKind.value : FactKind → String
  | observedState => "OBSERVED_STATE"
  | desiredState => "DESIRED_STATE"

/-- `str` of what a numeric, a timestamp and a JSON column hold. -/
structure Writing where
  decimal : Numeric → String
  datetime : Time → String
  dict : JsonObject → String

/-- `str(_value_of(fact))`. -/
def FactValue.str (writing : Writing) : FactValue → String
  | text value => value
  | number value => writing.decimal value
  | bool value => if value then "True" else "False"
  | timestamp value => writing.datetime value
  | json value => writing.dict value
  | assetRef value => value.text

def shorten (text : String) : String :=
  if text.length ≤ 120 then text else String.ofList (text.toList.take 117) ++ "..."

structure ConflictingClaim where
  factId : Uuid
  sourceType : SourceType
  sourceId : String
  statementClass : StatementClass
  verificationStatus : VerificationStatus
  confidence : Rat
  valueSummary : String

structure PredicateConflict where
  predicate : String
  factKind : FactKind
  distinctValues : Nat
  claims : List ConflictingClaim

inductive Basis where
  | authoritativeSingle | unanimous | unresolved
  deriving DecidableEq

structure EffectiveValue where
  predicate : String
  factKind : FactKind
  basis : Basis
  fact : Option AssetFact
  conflictPresent : Bool
  resolutionRequired : Bool
  inferenceOnly : Bool := false
  dissentingClaims : List ConflictingClaim

namespace FactService

variable (writing : Writing)

def summarise (fact : AssetFact) : String := shorten (fact.value.str writing)

def claim (fact : AssetFact) : ConflictingClaim where
  factId := fact.id
  sourceType := fact.sourceType
  sourceId := fact.sourceId
  statementClass := fact.statementClass
  verificationStatus := fact.verificationStatus
  confidence := fact.confidence
  valueSummary := summarise writing fact

variable (tables : Tables) (assetId : Uuid)

/-- `live_facts`; a filter that is left out, or an empty predicate, filters nothing. -/
def liveFacts (factKind : Option FactKind) (predicate : Option String) : List AssetFact :=
  let found := tables.facts.rows.filter fun fact => fact.assetId = assetId && fact.validTo = none &&
    factKind.all (fact.factKind = ·) && predicate.all fun name => name = "" || fact.predicate = name
  ordered (fun fact => toLex (fact.predicate,fact.sourceId)) found

def distinctSummaries (facts : List AssetFact) : Finset String := (facts.map (summarise writing)).toFinset

def conflicts : List PredicateConflict :=
  let groups := grouped (fun fact => (fact.predicate,fact.factKind)) (liveFacts tables assetId none none)
  (ordered (fun group : (String × FactKind) × List AssetFact => toLex (group.1.1,group.1.2.value)) groups).filterMap fun ((predicate,factKind),facts) =>
    let distinct := distinctSummaries writing facts
    if 1 < distinct.card then some {
      predicate
      factKind
      distinctValues := distinct.card
      claims := facts.map (claim writing)}
    else none

def effective (predicate : String) (factKind : FactKind) : Except Refusal EffectiveValue :=
  let facts := liveFacts tables assetId (some factKind) (some predicate)
  if facts.isEmpty then .error (.notFound s!"No live claim for '{predicate}' on asset {assetId.text}.")
  else
    let authoritative := facts.filter fun fact => isAuthoritative fact.verificationStatus
    let conflictPresent := decide (1 < (distinctSummaries writing facts).card)
    match authoritative with
    | [winner] => .ok {
        predicate
        factKind
        basis := .authoritativeSingle
        fact := some winner
        conflictPresent
        resolutionRequired := false
        dissentingClaims := (facts.filter fun fact => fact.id ≠ winner.id).map (claim writing)}
    | _ =>
      -- An inference that agrees has likely read what it agrees with, so it has no vote.
      let nonInference := facts.filter fun fact => fact.statementClass ≠ .inference
      if (distinctSummaries writing nonInference).card = 1 then .ok {
        predicate
        factKind
        basis := .unanimous
        fact := nonInference.head?
        conflictPresent
        resolutionRequired := false
        dissentingClaims := (facts.filter fun fact => fact.statementClass = .inference).map (claim writing)}
      else .ok {
        predicate
        factKind
        basis := .unresolved
        fact := none
        conflictPresent
        resolutionRequired := true
        inferenceOnly := nonInference.isEmpty
        dissentingClaims := facts.map (claim writing)}

end FactService

end Acop.Cmdb
