import Acop.Cmdb.Compliance

/-! What a change of one fact has to keep for the database to accept the tables after it. -/
namespace Acop.Cmdb
open Acop.Store

variable {tables : Tables}

theorem hasFact_iff {id : Uuid} : tables.hasFact id = true ↔ ∃ fact ∈ tables.facts.rows, fact.id = id := by
  rw [Tables.hasFact,Option.isSome_iff_exists]
  simp only [Table.find_eq_some]

theorem Compatible.symm {first second : AssetFact} (compatible : Compatible first second) : Compatible second first := by
  have claim : sameClaim second first = sameClaim first second := by simp only [sameClaim,eq_comm]
  have meet : second.overlaps first.toValidityInterval = first.overlaps second.toValidityInterval := by
    simp only [ValidityInterval.overlaps,Bool.and_comm,Bool.and_left_comm,Bool.and_assoc]
  obtain ⟨overlap,live,authority⟩ := compatible
  refine ⟨?_,?_,?_⟩
  · rw [claim,meet,← overlap]
    simp only [eq_comm]
  · rw [claim,← live]
    simp only [eq_comm,Bool.and_comm,Bool.and_left_comm]
  · rw [claim,← authority]
    simp only [Bool.and_comm,Bool.and_left_comm]

instance : Std.Symm Compatible := ⟨fun _ _ => Compatible.symm⟩

theorem SoundElsewhere.facts (elsewhere : SoundElsewhere tables) (facts : Table AssetFact.id)
    (attestations : Table FactAttestation.id) : SoundElsewhere {tables with facts := facts,attestations := attestations} :=
  ⟨elsewhere.assets,elsewhere.identifiers,elsewhere.relationships,elsewhere.merged,elsewhere.named,elsewhere.joined,
    elsewhere.succeeded,elsewhere.liveUnique,elsewhere.assetValue,elsewhere.noOverlap,elsewhere.live⟩

namespace SoundFacts

theorem compatible_of_ne (sound : SoundFacts tables) {first second : AssetFact} (inFirst : first ∈ tables.facts.rows)
    (inSecond : second ∈ tables.facts.rows) (differ : first.id ≠ second.id) : Compatible first second :=
  sound.compatible.forall inFirst inSecond fun same => differ (congrArg AssetFact.id same)

theorem revise (sound : SoundFacts tables) {id : Uuid} {revision : Revision AssetFact.id}
    (refers : ∀ fact, (revision.change fact).assetId = fact.assetId ∧ (revision.change fact).value = fact.value ∧
      (revision.change fact).supersedesFactId = fact.supersedesFactId ∧
      (revision.change fact).derivedFromFactId = fact.derivedFromFactId)
    (checked : ∀ fact ∈ tables.facts.rows, fact.id = id → Passes (revision.change fact).checks)
    (compatible : ∀ fact ∈ tables.facts.rows, fact.id = id → ∀ other ∈ tables.facts.rows, other.id ≠ id →
      Compatible (revision.change fact) other) :
    SoundFacts {tables with facts := tables.facts.update id revision} := by
  have known : ∀ other, tables.hasFact other →
      ({tables with facts := tables.facts.update id revision} : Tables).hasFact other := by
    intro other found
    rw [Tables.hasFact,find_update,Option.isSome_map]
    exact found
  -- Every row refers as an old row does.
  have old : ∀ fact ∈ (tables.facts.update id revision).rows, ∃ before ∈ tables.facts.rows,
      fact.assetId = before.assetId ∧ fact.value = before.value ∧ fact.supersedesFactId = before.supersedesFactId ∧
      fact.derivedFromFactId = before.derivedFromFactId := by
    intro fact member
    obtain ⟨before,inBefore,⟨_,rfl⟩ | ⟨_,rfl⟩⟩ := Table.mem_update.mp member
    · exact ⟨before,inBefore,refers before⟩
    · exact ⟨fact,inBefore,rfl,rfl,rfl,rfl⟩
  refine ⟨?_,sound.recorded,?_,?_,?_,?_,fun row member => known _ (sound.attests row member),?_⟩
  · intro fact member
    obtain ⟨before,inBefore,⟨named,rfl⟩ | ⟨_,rfl⟩⟩ := Table.mem_update.mp member
    · exact checked before inBefore named
    · exact sound.checked fact inBefore
  · intro fact member
    obtain ⟨before,inBefore,asset,_⟩ := old fact member
    rw [asset]
    exact sound.placed before inBefore
  · intro fact member other refers
    obtain ⟨before,inBefore,_,value,_⟩ := old fact member
    exact sound.refers before inBefore other (value.symm.trans refers)
  · intro fact member other named
    obtain ⟨before,inBefore,_,_,supersedes,_⟩ := old fact member
    exact known other (sound.supersedes before inBefore other (supersedes ▸ named))
  · intro fact member other named
    obtain ⟨before,inBefore,_,_,_,derived⟩ := old fact member
    exact known other (sound.derived before inBefore other (derived ▸ named))
  · change (tables.facts.update id revision).rows.Pairwise Compatible
    rw [Table.update,Table.rows_revise,List.pairwise_map]
    have distinct := List.pairwise_map.mp tables.facts.distinct
    refine (sound.compatible.and distinct).imp_of_mem fun {first second} inFirst inSecond both => ?_
    obtain ⟨apart,differ⟩ := both
    by_cases one : first.id = id
    · have other : second.id ≠ id := fun two => differ (one.trans two.symm)
      simp only [one,other,decide_true,decide_false,if_true]
      exact compatible first inFirst one second inSecond other
    · by_cases two : second.id = id
      · simp only [one,two,decide_true,decide_false,if_true]
        exact (compatible second inSecond two first inFirst one).symm
      · simp only [one,two,decide_false]
        exact apart

theorem insert (sound : SoundFacts tables) {fact : AssetFact} {facts : Table AssetFact.id}
    (added : tables.facts.insert fact = some facts) (checked : Passes fact.checks) (placed : tables.hasAsset fact.assetId)
    (refers : ∀ id, fact.value = .assetRef id → tables.hasAsset id)
    (supersedes : ∀ id ∈ fact.supersedesFactId, tables.hasFact id)
    (derived : ∀ id ∈ fact.derivedFromFactId, tables.hasFact id)
    (compatible : ∀ other ∈ tables.facts.rows, Compatible other fact) : SoundFacts {tables with facts} := by
  have known : ∀ other, tables.hasFact other → ({tables with facts} : Tables).hasFact other := by
    intro other found
    obtain ⟨before,inBefore,named⟩ := hasFact_iff.mp found
    exact hasFact_iff.mpr ⟨before,(Table.mem_insert added).mpr (.inl inBefore),named⟩
  have each : ∀ {P : AssetFact → Prop}, (∀ before ∈ tables.facts.rows, P before) → P fact →
      ∀ row ∈ facts.rows, P row := by
    intro P before new row member
    rcases (Table.mem_insert added).mp member with inBefore | rfl
    · exact before row inBefore
    · exact new
  refine ⟨each sound.checked checked,sound.recorded,each sound.placed placed,each sound.refers refers,
    each (fun row member id named => known id (sound.supersedes row member id named))
      fun id named => known id (supersedes id named),
    each (fun row member id named => known id (sound.derived row member id named))
      fun id named => known id (derived id named),
    fun row member => known _ (sound.attests row member),?_⟩
  change facts.rows.Pairwise Compatible
  rw [(Table.insert_eq_some added).2,List.pairwise_append]
  refine ⟨sound.compatible,List.pairwise_singleton _ _,fun other member last single => ?_⟩
  rw [List.mem_singleton.mp single]
  exact compatible other member

theorem attest (sound : SoundFacts tables) {row : FactAttestation} {attestations : Table FactAttestation.id}
    (added : tables.attestations.insert row = some attestations) (checked : Passes row.checks)
    (known : tables.hasFact row.factId) : SoundFacts {tables with attestations} := by
  refine ⟨sound.checked,?_,sound.placed,sound.refers,sound.supersedes,sound.derived,?_,sound.compatible⟩
  · intro other member
    rcases (Table.mem_insert added).mp member with before | rfl
    · exact sound.recorded other before
    · exact checked
  · intro other member
    rcases (Table.mem_insert added).mp member with before | rfl
    · exact sound.attests other before
    · exact known

end SoundFacts

end Acop.Cmdb
