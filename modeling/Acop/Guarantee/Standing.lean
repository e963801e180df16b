import Acop.Cmdb.Effects
import Acop.Cmdb.Laboratory

/-! What a claim's status says: an inference never holds authority, authority carries
who gave it and when, and any other claim stands as its source implies. The services
alone see to it, whatever the database refuses. -/
namespace Acop.Cmdb
open Acop.Store Acop.Serial

structure Standing (claim : Provenance) : Prop where
  classed : claim.statementClass = statementClassFor claim.sourceType
  inference : claim.IsInference → isAuthoritative claim.verificationStatus = false
  verified : claim.verificationStatus = .verified → claim.verifiedBySubject.isSome ∧ claim.verifiedAt.isSome
  approved : claim.verificationStatus = .approved → claim.approvedBySubject.isSome ∧ claim.approvedAt.isSome
  implied : isAuthoritative claim.verificationStatus = false → claim.verificationStatus = defaultStatusFor claim.sourceType

structure Trustworthy (tables : Tables) : Prop where
  facts : ∀ fact ∈ tables.facts.rows, Standing fact.toProvenance
  relationships : ∀ edge ∈ tables.relationships.rows, Standing edge.toProvenance

section Claims

theorem standing_default {claim : Provenance} (classed : claim.statementClass = statementClassFor claim.sourceType)
    (status : claim.verificationStatus = defaultStatusFor claim.sourceType) : Standing claim where
  classed := classed
  inference _ := by rw [status,defaultStatusFor_plain]
  verified held := by
    have plain := defaultStatusFor_plain claim.sourceType
    rw [← status,held] at plain
    cases plain
  approved held := by
    have plain := defaultStatusFor_plain claim.sourceType
    rw [← status,held] at plain
    cases plain
  implied _ := status

theorem standing_touch {fact : AssetFact} (standing : Standing fact.toProvenance) (now : Time) (confidence : Rat) :
    Standing ((FactService.touch now confidence).change fact).toProvenance :=
  ⟨standing.classed,standing.inference,standing.verified,standing.approved,standing.implied⟩

theorem standing_touchEdge {edge : AssetRelationship} (standing : Standing edge.toProvenance) (now : Time) (confidence : Rat) :
    Standing ((RelationshipService.touch now confidence).change edge).toProvenance :=
  ⟨standing.classed,standing.inference,standing.verified,standing.approved,standing.implied⟩

theorem standing_newDesired (moment : Moment) (assetId : Uuid) (payload : DesiredFactCreate) (value : FactValue)
    (principal : Principal) (supersededId derivedFrom : Option Uuid) :
    Standing (FactService.newDesired moment assetId payload value principal supersededId derivedFrom).toProvenance where
  classed := rfl
  inference inferred := by
    rcases inferred with inferred | inferred
    · cases inferred
    · cases inferred
  verified held := by cases held
  approved _ := ⟨rfl,rfl⟩
  implied plain := by cases plain

theorem mayBecome_of_guard {tables : Tables} {fact : AssetFact} {action : AttestationAction} (promoted : action ≠ .revoke)
    (guarded : FactService.guardTransition tables fact action = .ok ()) : ¬ fact.IsInference := by
  have checked : FactService.guardAuthoritativeTransition fact = .ok () := by
    cases action with
    | revoke => exact absurd rfl promoted
    | verify =>
      obtain ⟨_,checked,_⟩ := bind_ok guarded
      exact checked
    | approve =>
      obtain ⟨_,checked,_⟩ := bind_ok guarded
      exact checked
  have permitted := (ok_of_guard checked).1
  simp only [not_not,mayBecomeAuthoritative,Bool.and_eq_true,decide_eq_true_eq] at permitted
  rintro (classed | sourced)
  · exact permitted.1 classed
  · exact permitted.2 sourced

theorem standing_attributed {tables : Tables} {fact : AssetFact} {action : AttestationAction}
    (standing : Standing fact.toProvenance) (guarded : FactService.guardTransition tables fact action = .ok ())
    (principal : Principal) (now : Time) : Standing (FactService.attributed action principal now fact).toProvenance := by
  cases action with
  | revoke => exact standing_default standing.classed rfl
  | verify =>
    have sound : ¬ fact.IsInference := mayBecome_of_guard (by decide) guarded
    exact ⟨standing.classed,fun inferred => absurd inferred sound,fun _ => ⟨rfl,rfl⟩,nofun,nofun⟩
  | approve =>
    have sound : ¬ fact.IsInference := mayBecome_of_guard (by decide) guarded
    exact ⟨standing.classed,fun inferred => absurd inferred sound,nofun,fun _ => ⟨rfl,rfl⟩,nofun⟩

end Claims

section Steps

variable {verdict : Verdict} {python : Python} {moment : Moment} {tables next' : Tables}

theorem standing_vacated {live : Option AssetFact} {now : Time} (sound : ∀ fact ∈ tables.facts.rows, Standing fact.toProvenance) :
    ∀ fact ∈ (vacated tables.facts now live).rows, Standing fact.toProvenance := by
  intro fact member
  cases live with
  | none => exact sound fact member
  | some live =>
    obtain ⟨old,inOld,⟨_,rfl⟩ | ⟨_,rfl⟩⟩ := Table.mem_update.mp member
    · exact sound old inOld
    · exact sound fact inOld

theorem standing_vacatedEdges {live : Option AssetRelationship} {now : Time}
    (sound : ∀ edge ∈ tables.relationships.rows, Standing edge.toProvenance) :
    ∀ edge ∈ (vacatedEdges tables.relationships now live).rows, Standing edge.toProvenance := by
  intro edge member
  cases live with
  | none => exact sound edge member
  | some live =>
    obtain ⟨old,inOld,⟨_,rfl⟩ | ⟨_,rfl⟩⟩ := Table.mem_update.mp member
    · exact sound old inOld
    · exact sound edge inOld

theorem trustworthy_assertFact {assetId : Uuid} {payload : FactAssert} {answer : Asserted}
    (done : FactService.assertFact verdict python moment tables assetId payload = .ok (answer,next'))
    (sound : Trustworthy tables) : Trustworthy next' := by
  obtain ⟨asset,screened,_,_,⟨live,_,_,_,rfl⟩ | ⟨live,facts,_,_,_,added,rfl⟩⟩ := assertFact_ok done
  · refine ⟨?_,sound.relationships⟩
    intro fact member
    obtain ⟨old,inOld,⟨_,rfl⟩ | ⟨_,rfl⟩⟩ := Table.mem_update.mp member
    · exact standing_touch (sound.facts old inOld) _ _
    · exact sound.facts fact inOld
  · refine ⟨?_,sound.relationships⟩
    intro fact member
    rcases (Table.mem_insert added).mp member with kept | rfl
    · exact standing_vacated sound.facts fact kept
    · exact standing_default rfl rfl

theorem trustworthy_createDesired {occurredAt : Time} {assetId : Uuid} {payload : DesiredFactCreate} {principal : Principal}
    {derivedFrom : Option Uuid} {requestId : Option String} {answer : AssetFact}
    (done : FactService.createDesired verdict python moment tables occurredAt assetId payload principal derivedFrom requestId =
      .ok (answer,next'))
    (sound : Trustworthy tables) : Trustworthy next' := by
  obtain ⟨asset,screened,live,facts,attestations,_,_,_,added,_,_,_,rfl⟩ := createDesired_ok done
  refine ⟨?_,sound.relationships⟩
  intro fact member
  rcases (Table.mem_insert added).mp member with kept | rfl
  · exact standing_vacated sound.facts fact kept
  · exact standing_newDesired _ _ _ _ _ _ _

theorem trustworthy_transition {occurredAt : Time} {factId : Uuid} {action : AttestationAction} {principal : Principal}
    {reason requestId : Option String} {answer : AssetFact}
    (done : FactService.transition verdict moment tables occurredAt factId action principal reason requestId = .ok (answer,next'))
    (sound : Trustworthy tables) : Trustworthy next' := by
  obtain ⟨fact,attestations,found,_,guarded,rfl⟩ := transition_ok done
  refine ⟨?_,sound.relationships⟩
  intro changed member
  obtain ⟨old,inOld,⟨named,rfl⟩ | ⟨_,rfl⟩⟩ := Table.mem_update.mp member
  · obtain ⟨inFacts,same⟩ := Table.find_eq_some.mp found
    rw [← Table.eq_of_key inOld inFacts (named.trans same.symm)] at guarded
    exact standing_attributed (sound.facts old inOld) guarded principal moment.now
  · exact sound.facts changed inOld

theorem trustworthy_assertRelationship {payload : RelationshipAssert} {answer : AssertedEdge}
    (done : RelationshipService.assertRelationship verdict moment tables payload = .ok (answer,next'))
    (sound : Trustworthy tables) : Trustworthy next' := by
  obtain ⟨_,⟨live,_,_,_,rfl⟩ | ⟨live,relationships,_,_,_,added,rfl⟩⟩ := assertRelationship_ok done
  · refine ⟨sound.facts,?_⟩
    intro edge member
    obtain ⟨old,inOld,⟨_,rfl⟩ | ⟨_,rfl⟩⟩ := Table.mem_update.mp member
    · exact standing_touchEdge (sound.relationships old inOld) _ _
    · exact sound.relationships edge inOld
  · refine ⟨sound.facts,?_⟩
    intro edge member
    rcases (Table.mem_insert added).mp member with kept | rfl
    · exact standing_vacatedEdges sound.relationships edge kept
    · exact standing_default rfl rfl

theorem trustworthy_retireRelationship {relationshipId : Uuid} {answer : AssetRelationship}
    (done : RelationshipService.retire verdict moment tables relationshipId = .ok (answer,next'))
    (sound : Trustworthy tables) : Trustworthy next' := by
  obtain ⟨rfl,_⟩ := retireRelationship_ok done
  refine ⟨sound.facts,?_⟩
  intro edge member
  obtain ⟨old,inOld,⟨_,rfl⟩ | ⟨_,rfl⟩⟩ := Table.mem_update.mp member
  · exact sound.relationships old inOld
  · exact sound.relationships edge inOld

theorem trustworthy_next {request : ClaimOperation} (sound : Trustworthy tables) :
    Trustworthy (next verdict python tables ⟨.claim request,moment⟩) := by
  refine settle_preserves Trustworthy ?_ sound
  intro state done
  cases request with
  | assertFact assetId payload =>
    obtain ⟨⟨answer,state⟩,ok,rfl⟩ := map_ok done
    exact trustworthy_assertFact ok sound
  | createDesired occurredAt assetId payload principal derivedFrom requestId =>
    obtain ⟨⟨answer,state⟩,ok,rfl⟩ := map_ok done
    exact trustworthy_createDesired ok sound
  | transition occurredAt factId action principal reason requestId =>
    obtain ⟨⟨answer,state⟩,ok,rfl⟩ := map_ok done
    exact trustworthy_transition ok sound
  | assertRelationship payload =>
    obtain ⟨⟨answer,state⟩,ok,rfl⟩ := map_ok done
    exact trustworthy_assertRelationship ok sound
  | retireRelationship relationshipId =>
    obtain ⟨⟨answer,state⟩,ok,rfl⟩ := map_ok done
    exact trustworthy_retireRelationship ok sound

end Steps

/-- In every state that operations on claims reach, under any constraints or none. -/
theorem inference_never_authoritative (verdict : Verdict) (python : Python) (tables : Tables)
    (requests : List (ClaimOperation × Moment)) (sound : Trustworthy tables) :
    Trustworthy (after verdict python tables (requests.map fun entry => ⟨.claim entry.1,entry.2⟩)) := by
  induction requests generalizing tables with
  | nil => exact sound
  | cons entry rest ih => exact ih _ (trustworthy_next sound)

/-- An inference is asserted, and an approver tries to verify it. -/
def labPromotion : List (ClaimOperation × Moment) :=
  [(.assertFact 1 (memory 5 .aiInference),labMoment 1 100),
    (.transition 2 100 .verify (labPerson "approver") none none,labMoment 2 110)]

theorem labTables_trustworthy : Trustworthy labTables := ⟨by simp [labTables],by simp [labTables]⟩

theorem inference_never_authoritative_lab :
    Trustworthy (after Tables.violation labPython labTables (labPromotion.map fun entry => ⟨.claim entry.1,entry.2⟩)) :=
  inference_never_authoritative Tables.violation labPython labTables labPromotion labTables_trustworthy

end Acop.Cmdb
