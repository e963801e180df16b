import Acop.Cmdb.Effects

/-! The tables that the database accepts: every operation that succeeds leaves such, and what
the constraints ask of facts and attestations stands apart from the rest. -/
namespace Acop.Cmdb
open Acop.Store Acop.Serial

section Constraints

def Passes (checks : List (Constraint × Bool)) : Prop := ∀ check ∈ checks, check.2 = true

instance (checks : List (Constraint × Bool)) : Decidable (Passes checks) := List.decidableBAll _ checks

/-- What the exclusion and the unique indexes ask of two facts. -/
def Compatible (first second : AssetFact) : Prop :=
  (sameClaim first second && first.sourceId = second.sourceId && first.overlaps second.toValidityInterval) = false ∧
    (sameClaim first second && first.sourceId = second.sourceId && first.validTo = none && second.validTo = none) = false ∧
    (sameClaim first second && first.validTo = none && second.validTo = none &&
      isAuthoritative first.verificationStatus && isAuthoritative second.verificationStatus) = false

/-- The constraints on facts and their attestations. -/
structure SoundFacts (tables : Tables) : Prop where
  checked : ∀ fact ∈ tables.facts.rows, Passes fact.checks
  recorded : ∀ row ∈ tables.attestations.rows, Passes row.checks
  placed : ∀ fact ∈ tables.facts.rows, tables.hasAsset fact.assetId
  refers : ∀ fact ∈ tables.facts.rows, ∀ id, fact.value = .assetRef id → tables.hasAsset id
  supersedes : ∀ fact ∈ tables.facts.rows, ∀ id ∈ fact.supersedesFactId, tables.hasFact id
  derived : ∀ fact ∈ tables.facts.rows, ∀ id ∈ fact.derivedFromFactId, tables.hasFact id
  attests : ∀ row ∈ tables.attestations.rows, tables.hasFact row.factId
  compatible : tables.facts.rows.Pairwise Compatible

structure SoundElsewhere (tables : Tables) : Prop where
  assets : ∀ row ∈ tables.assets.rows, Passes row.checks
  identifiers : ∀ row ∈ tables.identifiers.rows, Passes row.checks
  relationships : ∀ row ∈ tables.relationships.rows, Passes row.checks
  merged : ∀ row ∈ tables.assets.rows, ∀ id ∈ row.mergedIntoId, tables.hasAsset id
  named : ∀ row ∈ tables.identifiers.rows, tables.hasAsset row.assetId
  joined : ∀ row ∈ tables.relationships.rows, tables.hasAsset row.sourceAssetId ∧ tables.hasAsset row.targetAssetId
  succeeded : ∀ row ∈ tables.relationships.rows, ∀ id ∈ row.supersedesRelId, (tables.relationships.find id).isSome
  liveUnique : apart tables.identifiers.rows fun first second =>
    sameIdentifier first second && first.uniqueInNamespace && second.uniqueInNamespace
  assetValue : apart tables.identifiers.rows fun first second => sameIdentifier first second && first.assetId = second.assetId
  noOverlap : apart tables.relationships.rows fun first second => sameEdge first second && first.overlaps second.toValidityInterval
  live : apart tables.relationships.rows fun first second =>
    sameEdge first second && first.validTo = none && second.validTo = none

variable {tables : Tables}

theorem passes_append {first second : List (Constraint × Bool)} : Passes (first ++ second) ↔ Passes first ∧ Passes second := by
  simp only [Passes,List.mem_append,or_imp,forall_and]

theorem passes_flatMap {Row : Type} {rows : List Row} {checks : Row → List (Constraint × Bool)} :
    Passes (rows.flatMap checks) ↔ ∀ row ∈ rows, Passes (checks row) := by
  simp only [Passes,List.mem_flatMap,forall_exists_index,and_imp]
  exact ⟨fun all row member check inRow => all check row member inRow,fun each check row member inRow => each row member check inRow⟩

structure Accepted (tables : Tables) : Prop where
  assets : ∀ row ∈ tables.assets.rows, Passes row.checks
  identifiers : ∀ row ∈ tables.identifiers.rows, Passes row.checks
  facts : ∀ row ∈ tables.facts.rows, Passes row.checks
  relationships : ∀ row ∈ tables.relationships.rows, Passes row.checks
  attestations : ∀ row ∈ tables.attestations.rows, Passes row.checks
  cross : Passes tables.crossChecks

theorem accepted_iff : tables.violation = none ↔ Accepted tables := by
  have passes : tables.violation = none ↔ Passes (tables.assets.rows.flatMap Asset.checks ++
      tables.identifiers.rows.flatMap AssetIdentifier.checks ++ tables.facts.rows.flatMap AssetFact.checks ++
      tables.relationships.rows.flatMap AssetRelationship.checks ++ tables.attestations.rows.flatMap FactAttestation.checks ++
      tables.crossChecks) := by
    rw [Tables.violation,Option.map_eq_none_iff,List.find?_eq_none]
    exact forall₂_congr fun check _ => by simp
  simp only [passes,passes_append,passes_flatMap,and_assoc]
  constructor
  · rintro ⟨assets,identifiers,facts,relationships,attestations,cross⟩
    exact ⟨assets,identifiers,facts,relationships,attestations,cross⟩
  · rintro ⟨assets,identifiers,facts,relationships,attestations,cross⟩
    exact ⟨assets,identifiers,facts,relationships,attestations,cross⟩

theorem compatible_iff : tables.facts.rows.Pairwise Compatible ↔
    (apart tables.facts.rows fun first second =>
      sameClaim first second && first.sourceId = second.sourceId && first.overlaps second.toValidityInterval) ∧
    (apart tables.facts.rows fun first second =>
      sameClaim first second && first.sourceId = second.sourceId && first.validTo = none && second.validTo = none) ∧
    apart tables.facts.rows fun first second =>
      sameClaim first second && first.validTo = none && second.validTo = none &&
        isAuthoritative first.verificationStatus && isAuthoritative second.verificationStatus := by
  simp only [apart,decide_eq_true_eq,← List.pairwise_and_iff]
  rfl

theorem violation_none : tables.violation = none ↔ SoundElsewhere tables ∧ SoundFacts tables := by
  rw [accepted_iff]
  constructor
  · rintro ⟨assets,identifiers,facts,relationships,attestations,cross⟩
    simp only [Tables.crossChecks,Passes,List.mem_cons,List.not_mem_nil,or_false,forall_eq_or_imp,forall_eq,Bool.and_eq_true,
      List.all_eq_true,Option.all_eq_true] at cross
    obtain ⟨⟨⟨⟨merged,named⟩,placed⟩,joined⟩,⟨superseded,succeeded⟩,⟨derived,attests⟩,liveUnique,assetValue,overlap,liveClaim,
      authority,noOverlap,live⟩ := cross
    exact ⟨⟨assets,identifiers,relationships,merged,named,joined,succeeded,liveUnique,assetValue,noOverlap,live⟩,
      ⟨facts,attestations,fun fact member => (placed fact member).1,
        fun fact member id refers => by simpa [refers] using (placed fact member).2,superseded,derived,attests,
        compatible_iff.mpr ⟨overlap,liveClaim,authority⟩⟩⟩
  · rintro ⟨elsewhere,sound⟩
    obtain ⟨overlap,liveClaim,authority⟩ := compatible_iff.mp sound.compatible
    refine ⟨elsewhere.assets,elsewhere.identifiers,sound.checked,elsewhere.relationships,sound.recorded,?_⟩
    simp only [Tables.crossChecks,Passes,List.mem_cons,List.not_mem_nil,or_false,forall_eq_or_imp,forall_eq,Bool.and_eq_true,
      List.all_eq_true,Option.all_eq_true]
    refine ⟨⟨⟨⟨elsewhere.merged,elsewhere.named⟩,fun fact member => ⟨sound.placed fact member,?_⟩⟩,elsewhere.joined⟩,
      ⟨sound.supersedes,elsewhere.succeeded⟩,⟨sound.derived,sound.attests⟩,elsewhere.liveUnique,elsewhere.assetValue,overlap,
      liveClaim,authority,elsewhere.noOverlap,elsewhere.live⟩
    split
    · exact sound.refers fact member _ ‹_›
    · rfl

end Constraints

section Runs

variable {verdict : Verdict} {python : Python} {moment : Moment} {tables next : Tables}

theorem accepted_flush (flushed : flush verdict tables = .ok next) : verdict next = none := by
  obtain ⟨accepted,rfl⟩ := flush_ok flushed
  exact accepted

theorem accepted_answer {α : Type} {answer : α} {made : Tables → α}
    (done : (flush verdict tables >>= fun next => Except.ok (made next,next)) = .ok (answer,next)) : verdict next = none := by
  obtain ⟨last,flushed,same⟩ := bind_ok done
  cases same
  exact accepted_flush flushed

theorem accepted_attachMissing {assetId : Uuid} {identifiers : List NormalisedIdentifier}
    (done : IdentityResolver.attachMissing verdict moment tables assetId identifiers = .ok next) : verdict next = none := by
  obtain ⟨_,_,flushed⟩ := bind_ok done
  exact accepted_flush flushed

theorem accepted_resolve {assetType : AssetType} {displayName : String} {identifiers : List IdentifierInput}
    {createIfMissing : Bool} {answer : Resolution}
    (done : IdentityResolver.resolve verdict python moment tables assetType displayName identifiers createIfMissing =
      .ok (answer,next)) : verdict next = none := by
  obtain ⟨normalised,_,done⟩ := bind_ok done
  split at done
  · cases done
  · split at done
    · cases done
    obtain ⟨last,attached,same⟩ := bind_ok done
    cases same
    exact accepted_attachMissing attached
  · split at done
    · cases done
    obtain ⟨_,_,done⟩ := bind_ok done
    obtain ⟨_,_,done⟩ := bind_ok done
    obtain ⟨last,attached,same⟩ := bind_ok done
    cases same
    exact accepted_attachMissing attached

theorem accepted_createAsset {payload : AssetCreate} {answer : Resolution}
    (done : AssetService.createAsset verdict python moment tables payload = .ok (answer,next)) : verdict next = none := by
  obtain ⟨⟨resolution,resolved⟩,settled,done⟩ := bind_ok done
  dsimp only at done
  split at done
  · cases done
    exact accepted_resolve settled
  · exact accepted_answer done

theorem accepted_attachIdentifier {assetId : Uuid} {payload : IdentifierInput} {answer : AssetIdentifier}
    (done : AssetService.attachIdentifier verdict python moment tables assetId payload = .ok (answer,next)) :
    verdict next = none := by
  obtain ⟨asset,_,done⟩ := bind_ok done
  obtain ⟨item,_,done⟩ := bind_ok done
  split at done
  · exact accepted_answer done
  split at done
  · cases done
  · obtain ⟨_,_,done⟩ := bind_ok done
    exact accepted_answer done

theorem accepted_asset {request : AssetOperation} (done : attempt verdict python tables ⟨.asset request,moment⟩ = .ok next) :
    verdict next = none := by
  cases request with
  | create payload =>
    obtain ⟨⟨_,_⟩,ok,rfl⟩ := map_ok done
    exact accepted_createAsset ok
  | resolve payload =>
    obtain ⟨⟨_,_⟩,ok,rfl⟩ := map_ok done
    exact accepted_resolve ok
  | update assetId payload =>
    obtain ⟨asset,_,done⟩ := bind_ok done
    split at done
    · cases done
    · exact accepted_flush done
  | retire assetId =>
    obtain ⟨⟨_,_⟩,ok,rfl⟩ := map_ok done
    obtain ⟨asset,_,done⟩ := bind_ok ok
    split at done
    · cases done
    split at done
    · cases done
    · exact accepted_answer done
  | attachIdentifier assetId payload =>
    obtain ⟨⟨_,_⟩,ok,rfl⟩ := map_ok done
    exact accepted_attachIdentifier ok
  | retireIdentifier identifierId =>
    obtain ⟨⟨_,_⟩,ok,rfl⟩ := map_ok done
    unfold AssetService.retireIdentifier at ok
    split at ok
    · cases ok
    split at ok
    · cases ok
    · exact accepted_answer ok

theorem accepted_claim {request : ClaimOperation} (done : attempt verdict python tables ⟨.claim request,moment⟩ = .ok next) :
    verdict next = none := by
  cases request with
  | assertFact assetId payload =>
    obtain ⟨⟨_,_⟩,ok,rfl⟩ := map_ok done
    obtain ⟨_,_,_,_,⟨_,_,_,accepted,_⟩ | ⟨live,facts,_,_,⟨_,others,added,_,seen⟩,inserted,rfl⟩⟩ := assertFact_ok ok
    · exact accepted
    · cases added.symm.trans inserted
      exact seen
  | createDesired occurredAt assetId payload principal derivedFrom requestId =>
    obtain ⟨⟨_,_⟩,ok,rfl⟩ := map_ok done
    obtain ⟨_,_,_,_,_,_,_,_,_,_,_,complete,rfl⟩ := createDesired_ok ok
    exact complete
  | transition occurredAt factId action principal reason requestId =>
    obtain ⟨⟨_,_⟩,ok,rfl⟩ := map_ok done
    unfold FactService.transition at ok
    split at ok
    · cases ok
    split at ok
    · cases ok
    obtain ⟨_,_,ok⟩ := bind_ok ok
    obtain ⟨_,_,ok⟩ := bind_ok ok
    exact accepted_answer ok
  | assertRelationship payload =>
    obtain ⟨⟨_,_⟩,ok,rfl⟩ := map_ok done
    obtain ⟨_,⟨_,_,_,accepted,_⟩ | ⟨_,relationships,_,_,⟨_,others,added,accepted⟩,inserted,rfl⟩⟩ := assertRelationship_ok ok
    · exact accepted
    · cases added.symm.trans inserted
      exact accepted
  | retireRelationship relationshipId =>
    obtain ⟨⟨_,_⟩,ok,rfl⟩ := map_ok done
    unfold RelationshipService.retire at ok
    split at ok
    · cases ok
    split at ok
    · cases ok
    · exact accepted_answer ok

theorem accepted_attempt {op : Operation} (done : attempt verdict python tables op = .ok next) : verdict next = none := by
  obtain ⟨request,moment⟩ := op
  cases request with
  | asset request => exact accepted_asset done
  | claim request => exact accepted_claim done

theorem accepted_after {start : Tables} (accepted : verdict start = none) (ops : List Operation) :
    verdict (after verdict python start ops) = none := by
  have step : ∀ state op, True → verdict state = none → verdict (Cmdb.next verdict python state op) = none :=
    fun state op _ accepted => settle_preserves (fun state => verdict state = none) (fun _ done => accepted_attempt done) accepted
  exact run_preserves step (along_of_forall (fun _ _ => trivial) start ops) accepted

end Runs

end Acop.Cmdb
