import Acop.Guarantee.FactHistory

/-! Live claims on retired assets: retirement closes them, and an assertion that names
a retired asset opens one again. -/
namespace Acop.Cmdb
open Acop.Store Acop.Serial

def AssetRelationship.Joins (edge : AssetRelationship) (assetId : Uuid) : Prop :=
  edge.sourceAssetId = assetId ∨ edge.targetAssetId = assetId

instance (edge : AssetRelationship) (assetId : Uuid) : Decidable (edge.Joins assetId) := inferInstanceAs (Decidable (_ ∨ _))

/-- A retired asset has no live fact and ends no live relationship. -/
structure Vacant (tables : Tables) : Prop where
  facts : ∀ asset ∈ tables.assets.rows, asset.lifecycleState = .retired →
    ∀ fact ∈ tables.facts.rows, fact.assetId = asset.id → ¬ fact.Live
  relationships : ∀ asset ∈ tables.assets.rows, asset.lifecycleState = .retired →
    ∀ edge ∈ tables.relationships.rows, edge.Joins asset.id → ¬ edge.Live

section Parts

def FactsSettled (old new : Table AssetFact.id) : Prop :=
  ∀ fact ∈ new.rows, fact.Live → ∃ before ∈ old.rows, before.assetId = fact.assetId ∧ before.Live

theorem factsSettled_refl (facts : Table AssetFact.id) : FactsSettled facts facts :=
  fun fact member live => ⟨fact,member,rfl,live⟩

theorem factsSettled_revise {facts : Table AssetFact.id} {which : AssetFact → Bool} {revision : Revision AssetFact.id}
    (kept : ∀ fact ∈ facts.rows, which fact → (revision.change fact).Live → (revision.change fact).assetId = fact.assetId ∧ fact.Live) :
    FactsSettled facts (facts.revise which revision) := by
  intro fact member live
  obtain ⟨old,inOld,⟨chosen,rfl⟩ | ⟨_,rfl⟩⟩ := Table.mem_revise.mp member
  · have same := kept old inOld chosen live
    exact ⟨old,inOld,same.1.symm,same.2⟩
  · exact ⟨fact,inOld,rfl,live⟩

def EdgesSettled (old new : Table AssetRelationship.id) : Prop :=
  ∀ edge ∈ new.rows, edge.Live → ∃ before ∈ old.rows, (∀ assetId, edge.Joins assetId → before.Joins assetId) ∧ before.Live

theorem edgesSettled_refl (edges : Table AssetRelationship.id) : EdgesSettled edges edges :=
  fun edge member live => ⟨edge,member,fun _ joins => joins,live⟩

theorem edgesSettled_revise {edges : Table AssetRelationship.id} {which : AssetRelationship → Bool}
    {revision : Revision AssetRelationship.id}
    (kept : ∀ edge ∈ edges.rows, which edge → (revision.change edge).Live →
      (∀ assetId, (revision.change edge).Joins assetId → edge.Joins assetId) ∧ edge.Live) :
    EdgesSettled edges (edges.revise which revision) := by
  intro edge member live
  obtain ⟨old,inOld,⟨chosen,rfl⟩ | ⟨_,rfl⟩⟩ := Table.mem_revise.mp member
  · have same := kept old inOld chosen live
    exact ⟨old,inOld,same.1,same.2⟩
  · exact ⟨edge,inOld,fun _ joins => joins,live⟩

def AssetsSettled (old new : Table Asset.id) : Prop :=
  ∀ asset ∈ new.rows, asset.lifecycleState = .retired → ∃ before ∈ old.rows, before.id = asset.id ∧ before.lifecycleState = .retired

theorem assetsSettled_refl (assets : Table Asset.id) : AssetsSettled assets assets :=
  fun asset member retired => ⟨asset,member,rfl,retired⟩

theorem assetsSettled_update {assets : Table Asset.id} {id : Uuid} {revision : Revision Asset.id}
    (kept : ∀ asset ∈ assets.rows, asset.id = id → (revision.change asset).lifecycleState = .retired →
      asset.lifecycleState = .retired) : AssetsSettled assets (assets.update id revision) := by
  intro asset member retired
  obtain ⟨old,inOld,⟨named,rfl⟩ | ⟨_,rfl⟩⟩ := Table.mem_update.mp member
  · exact ⟨old,inOld,(revision.keeps old).symm,kept old inOld named retired⟩
  · exact ⟨asset,inOld,rfl,retired⟩

theorem assetsSettled_see {assets : Table Asset.id} {id : Uuid} {now : Time} :
    AssetsSettled assets (assets.update id (FactService.seeAsset now)) :=
  assetsSettled_update fun _ _ _ retired => retired

theorem factsSettled_vacated {tables : Tables} {live : Option AssetFact} {now : Time} : FactsSettled tables.facts (vacated tables.facts now live) := by
  cases live with
  | none => exact factsSettled_refl _
  | some live => exact factsSettled_revise fun _ _ _ open' => nomatch open'

theorem edgesSettled_vacated {tables : Tables} {live : Option AssetRelationship} {now : Time} :
    EdgesSettled tables.relationships (vacatedEdges tables.relationships now live) := by
  cases live with
  | none => exact edgesSettled_refl _
  | some live => exact edgesSettled_revise fun _ _ _ open' => nomatch open'

theorem vacant_of {old new : Tables} (vacant : Vacant old) (assets : AssetsSettled old.assets new.assets)
    (facts : ∀ fact ∈ new.facts.rows, fact.Live → (∃ before ∈ old.facts.rows, before.assetId = fact.assetId ∧ before.Live) ∨
      ∀ asset ∈ old.assets.rows, asset.lifecycleState = .retired → asset.id ≠ fact.assetId)
    (relationships : ∀ edge ∈ new.relationships.rows, edge.Live →
      (∃ before ∈ old.relationships.rows, (∀ assetId, edge.Joins assetId → before.Joins assetId) ∧ before.Live) ∨
      ∀ asset ∈ old.assets.rows, asset.lifecycleState = .retired → ¬ edge.Joins asset.id) : Vacant new := by
  constructor
  · intro asset member retired fact inFacts same live
    obtain ⟨before,inBefore,sameAsset,wasRetired⟩ := assets asset member retired
    rcases facts fact inFacts live with ⟨earlier,inEarlier,sameClaim,wasLive⟩ | elsewhere
    · exact vacant.facts before inBefore wasRetired earlier inEarlier (sameClaim.trans (same.trans sameAsset.symm)) wasLive
    · exact elsewhere before inBefore wasRetired (sameAsset.trans same.symm)
  · intro asset member retired edge inEdges joins live
    obtain ⟨before,inBefore,sameAsset,wasRetired⟩ := assets asset member retired
    rcases relationships edge inEdges live with ⟨earlier,inEarlier,sameEnds,wasLive⟩ | elsewhere
    · exact vacant.relationships before inBefore wasRetired earlier inEarlier (sameAsset ▸ sameEnds _ joins) wasLive
    · exact elsewhere before inBefore wasRetired (sameAsset ▸ joins)

theorem vacant_of_settled {old new : Tables} (vacant : Vacant old) (assets : AssetsSettled old.assets new.assets)
    (facts : FactsSettled old.facts new.facts) (relationships : EdgesSettled old.relationships new.relationships) : Vacant new :=
  vacant_of vacant assets (fun fact member live => .inl (facts fact member live)) fun edge member live =>
    .inl (relationships edge member live)

end Parts

section Condition

/-- The database takes a desired fact that replaces none, and its attestation. -/
def DesiredLands (verdict : Verdict) (tables : Tables) (fact : AssetFact) (attestation : FactAttestation) : Prop :=
  ∃ facts attestations, tables.facts.insert fact = some facts ∧ verdict {tables with facts} = none ∧
    tables.attestations.insert attestation = some attestations ∧
    verdict {tables with facts := facts,attestations := attestations} = none

def IsRetired (tables : Tables) (assetId : Uuid) : Prop :=
  ∃ asset ∈ tables.assets.rows, asset.id = assetId ∧ asset.lifecycleState = .retired

/-- No claim that would be taken names a retired asset. -/
def Respects (verdict : Verdict) (python : Python) (tables : Tables) (op : Operation) : Prop :=
  match op.request with
  | .claim (.assertFact assetId payload) => IsRetired tables assetId →
    ∀ screened, screen python payload.predicate payload.value = .ok screened →
      ¬ FactLands verdict tables none (FactService.newFact op.moment assetId payload screened.value none) op.moment.now
  | .claim (.createDesired occurredAt assetId payload principal derivedFrom requestId) => IsRetired tables assetId →
    ∀ screened, screen python payload.predicate payload.value = .ok screened →
      let fact := FactService.newDesired op.moment assetId payload screened.value principal none derivedFrom
      ¬ DesiredLands verdict tables fact (FactService.attestation fact .approve .unverified .approved principal payload.reason
        requestId occurredAt (op.moment.newId 1))
  | .claim (.assertRelationship payload) =>
    IsRetired tables payload.sourceAssetId ∨ IsRetired tables payload.targetAssetId →
    RelationshipService.guardEndpoints tables payload = .ok () →
      ¬ EdgeLands verdict tables none (RelationshipService.newEdge op.moment payload none) op.moment.now
  | _ => True

end Condition

section Kept

variable {verdict : Verdict} {python : Python} {moment : Moment} {tables next' : Tables}

theorem liveClaim_retired {assetId : Uuid} {predicate : String} {factKind : FactKind} {sourceId : String}
    (vacant : Vacant tables) (retired : IsRetired tables assetId) :
    FactService.liveClaim tables assetId predicate factKind sourceId = none := by
  obtain ⟨asset,member,rfl,state⟩ := retired
  rw [FactService.liveClaim,List.find?_eq_none]
  intro fact inFacts found
  simp only [Bool.and_eq_true,decide_eq_true_eq] at found
  exact vacant.facts asset member state fact inFacts found.1.1.1.1 found.2

theorem joins_endpoints (payload : RelationshipAssert) (assetId : Uuid) :
    ((RelationshipService.endpoints payload).1 = assetId ∨ (RelationshipService.endpoints payload).2 = assetId) ↔
      (payload.sourceAssetId = assetId ∨ payload.targetAssetId = assetId) := by
  unfold RelationshipService.endpoints
  split
  · exact or_comm
  · exact Iff.rfl

theorem retired_endpoint {payload : RelationshipAssert}
    (retired : IsRetired tables payload.sourceAssetId ∨ IsRetired tables payload.targetAssetId) :
    ∃ asset ∈ tables.assets.rows, (payload.sourceAssetId = asset.id ∨ payload.targetAssetId = asset.id) ∧
      asset.lifecycleState = .retired := by
  obtain ⟨asset,member,same,state⟩ | ⟨asset,member,same,state⟩ := retired
  · exact ⟨asset,member,.inl same.symm,state⟩
  · exact ⟨asset,member,.inr same.symm,state⟩

theorem liveEdge_retired {payload : RelationshipAssert} (vacant : Vacant tables)
    (retired : IsRetired tables payload.sourceAssetId ∨ IsRetired tables payload.targetAssetId) :
    RelationshipService.liveEdge tables payload = none := by
  obtain ⟨asset,member,ends,state⟩ := retired_endpoint retired
  rw [RelationshipService.liveEdge,List.find?_eq_none]
  intro edge inEdges found
  simp only [Bool.and_eq_true,decide_eq_true_eq] at found
  refine vacant.relationships asset member state edge inEdges ?_ found.2
  rw [AssetRelationship.Joins,found.1.1.1.1,found.1.1.1.2,joins_endpoints]
  exact ends

theorem vacant_insertFact {live : Option AssetFact} {fact : AssetFact} {facts : Table AssetFact.id} {assets : Table Asset.id}
    {attestations : Table FactAttestation.id} (vacant : Vacant tables) (served : ¬ IsRetired tables fact.assetId)
    (added : (vacated tables.facts moment.now live).insert fact = some facts) (settled : AssetsSettled tables.assets assets) :
    Vacant {tables with facts := facts,assets := assets,attestations := attestations} := by
  refine vacant_of vacant settled ?_ fun edge member open' => .inl (edgesSettled_refl _ edge member open')
  intro new member open'
  rcases (Table.mem_insert added).mp member with kept | rfl
  · exact .inl (factsSettled_vacated new kept open')
  · exact .inr fun asset inAssets retired same => served ⟨asset,inAssets,same,retired⟩

theorem vacant_assertFact {assetId : Uuid} {payload : FactAssert} {answer : Asserted}
    (done : FactService.assertFact verdict python moment tables assetId payload = .ok (answer,next')) (vacant : Vacant tables)
    (respects : Respects verdict python tables ⟨.claim (.assertFact assetId payload),moment⟩) : Vacant next' := by
  obtain ⟨asset,screened,found,passed,⟨live,_,_,_,rfl⟩ | ⟨live,facts,claimed,_,lands,added,rfl⟩⟩ := assertFact_ok done
  · exact vacant_of_settled vacant (assetsSettled_refl _) (factsSettled_revise fun _ _ _ open' => ⟨rfl,open'⟩) (edgesSettled_refl _)
  have same := (Table.find_eq_some.mp found).2
  subst same
  refine vacant_insertFact vacant ?_ added assetsSettled_see
  intro retired
  cases claimed.symm.trans (liveClaim_retired vacant retired)
  exact respects retired screened passed lands

theorem vacant_createDesired {occurredAt : Time} {assetId : Uuid} {payload : DesiredFactCreate} {principal : Principal}
    {derivedFrom : Option Uuid} {requestId : Option String} {answer : AssetFact}
    (done : FactService.createDesired verdict python moment tables occurredAt assetId payload principal derivedFrom requestId =
      .ok (answer,next'))
    (vacant : Vacant tables)
    (respects : Respects verdict python tables
      ⟨.claim (.createDesired occurredAt assetId payload principal derivedFrom requestId),moment⟩) : Vacant next' := by
  obtain ⟨asset,screened,live,facts,attestations,found,passed,claimed,added,accepted,recorded,complete,rfl⟩ := createDesired_ok done
  have same := (Table.find_eq_some.mp found).2
  subst same
  refine vacant_insertFact vacant ?_ added (assetsSettled_refl _)
  intro retired
  cases claimed.symm.trans (liveClaim_retired vacant retired)
  exact respects retired screened passed ⟨facts,attestations,added,accepted,recorded,complete⟩

theorem vacant_assertRelationship {payload : RelationshipAssert} {answer : AssertedEdge}
    (done : RelationshipService.assertRelationship verdict moment tables payload = .ok (answer,next')) (vacant : Vacant tables)
    (respects : Respects verdict python tables ⟨.claim (.assertRelationship payload),moment⟩) : Vacant next' := by
  obtain ⟨guarded,⟨live,_,_,_,rfl⟩ | ⟨live,relationships,claimed,_,lands,added,rfl⟩⟩ := assertRelationship_ok done
  · exact vacant_of_settled vacant (assetsSettled_refl _) (factsSettled_refl _)
      (edgesSettled_revise fun _ _ _ open' => ⟨fun _ joins => joins,open'⟩)
  refine vacant_of vacant (assetsSettled_refl _) (fun fact member open' => .inl (factsSettled_refl _ fact member open')) ?_
  intro edge member open'
  rcases (Table.mem_insert added).mp member with kept | rfl
  · exact .inl (edgesSettled_vacated edge kept open')
  · right
    intro asset inAssets retired joins
    have named : IsRetired tables payload.sourceAssetId ∨ IsRetired tables payload.targetAssetId := by
      rcases (joins_endpoints payload asset.id).mp joins with same | same
      · exact .inl ⟨asset,inAssets,same.symm,retired⟩
      · exact .inr ⟨asset,inAssets,same.symm,retired⟩
    cases claimed.symm.trans (liveEdge_retired vacant named)
    exact respects named guarded lands

theorem vacant_idle (vacant : Vacant tables) (claims : next'.facts = tables.facts ∧ next'.relationships = tables.relationships)
    (assets : AssetsSettled tables.assets next'.assets) : Vacant next' := by
  refine vacant_of_settled vacant assets ?_ ?_
  · rw [claims.1]
    exact factsSettled_refl _
  · rw [claims.2]
    exact edgesSettled_refl _

theorem assetsSettled_resolve {assetType : AssetType} {displayName : String} {identifiers : List IdentifierInput}
    {createIfMissing : Bool} {answer : Resolution}
    (done : IdentityResolver.resolve verdict python moment tables assetType displayName identifiers createIfMissing =
      .ok (answer,next')) : AssetsSettled tables.assets next'.assets := by
  obtain ⟨normalised,seen,_,attached,⟨asset,_,_,_,rfl⟩ | ⟨assets,_,added,_,rfl⟩⟩ := resolve_ok done
  · obtain ⟨identifiers,rfl⟩ := attachMissing_ok attached
    exact assetsSettled_see
  · obtain ⟨identifiers,rfl⟩ := attachMissing_ok attached
    intro asset member retired
    rcases (Table.mem_insert added).mp member with kept | rfl
    · exact ⟨asset,kept,rfl,retired⟩
    · cases retired

theorem assetsSettled_createAsset {payload : AssetCreate} {answer : Resolution}
    (done : AssetService.createAsset verdict python moment tables payload = .ok (answer,next')) :
    AssetsSettled tables.assets next'.assets := by
  obtain ⟨resolved,ok,described⟩ := createAsset_ok done
  have settled := assetsSettled_resolve ok
  obtain ⟨_,rfl⟩ | ⟨description,_,rfl⟩ := described
  · exact settled
  · intro asset member retired
    obtain ⟨middle,inMiddle,same,wasRetired⟩ := assetsSettled_update (fun _ _ _ retired => retired) asset member retired
    obtain ⟨before,inBefore,sameBefore,retiredBefore⟩ := settled middle inMiddle wasRetired
    exact ⟨before,inBefore,sameBefore.trans same,retiredBefore⟩

theorem vacant_retire {assetId : Uuid} {answer : Nat × Nat}
    (done : AssetService.retire verdict moment tables assetId = .ok (answer,next')) (vacant : Vacant tables) : Vacant next' := by
  obtain ⟨asset,found,_,rfl⟩ := retire_ok done
  constructor
  · intro retired member state fact inFacts same live
    obtain ⟨old,inOld,⟨_,rfl⟩ | ⟨passed,rfl⟩⟩ := Table.mem_revise.mp inFacts
    · cases live
    obtain ⟨before,inBefore,⟨named,rfl⟩ | ⟨other,rfl⟩⟩ := Table.mem_update.mp member
    · apply passed
      simp only [AssetService.liveFactOf,Bool.and_eq_true,decide_eq_true_eq]
      exact ⟨same.trans named,live⟩
    · exact vacant.facts retired inBefore state fact inOld same live
  · intro retired member state edge inEdges joins live
    obtain ⟨old,inOld,⟨_,rfl⟩ | ⟨passed,rfl⟩⟩ := Table.mem_revise.mp inEdges
    · cases live
    obtain ⟨before,inBefore,⟨named,rfl⟩ | ⟨other,rfl⟩⟩ := Table.mem_update.mp member
    · apply passed
      simp only [AssetService.liveEdgeOf,Bool.and_eq_true,Bool.or_eq_true,decide_eq_true_eq]
      exact ⟨named ▸ joins,live⟩
    · exact vacant.relationships retired inBefore state edge inOld joins live

/-- The step lemma: an operation that respects retirement keeps retired assets vacant. -/
theorem vacant_next {op : Operation} (vacant : Vacant tables) (respects : Respects verdict python tables op) :
    Vacant (next verdict python tables op) := by
  refine settle_preserves Vacant ?_ vacant
  intro state done
  obtain ⟨request,moment⟩ := op
  cases request with
  | asset request => cases request with
    | create payload =>
      obtain ⟨⟨answer,state⟩,ok,rfl⟩ := map_ok done
      exact vacant_idle vacant (claims_createAsset ok) (assetsSettled_createAsset ok)
    | resolve payload =>
      obtain ⟨⟨answer,state⟩,ok,rfl⟩ := map_ok done
      exact vacant_idle vacant (claims_resolve ok) (assetsSettled_resolve ok)
    | update assetId payload =>
      obtain ⟨asset,found,patchable,rfl⟩ := update_ok done
      refine vacant_idle vacant ⟨rfl,rfl⟩ (assetsSettled_update ?_)
      intro old inOld named retired
      obtain ⟨member,same⟩ := Table.find_eq_some.mp found
      cases Table.eq_of_key inOld member (named.trans same.symm)
      cases given : payload.lifecycleState with
      | none =>
        simp only [AssetService.assign,given,Option.getD_none] at retired
        exact retired
      | some state =>
        simp only [AssetService.assign,given,Option.getD_some] at retired
        exact absurd (.inl retired) (payload.no_terminal state given)
    | retire assetId =>
      obtain ⟨⟨answer,state⟩,ok,rfl⟩ := map_ok done
      exact vacant_retire ok vacant
    | attachIdentifier assetId payload =>
      obtain ⟨⟨answer,state⟩,ok,rfl⟩ := map_ok done
      obtain ⟨asset,item,_,_,⟨existing,_,_,rfl⟩ | ⟨identifiers,_,_,_,_,rfl⟩⟩ := attachIdentifier_ok ok
      · exact vacant_idle vacant ⟨rfl,rfl⟩ (assetsSettled_refl _)
      · exact vacant_idle vacant ⟨rfl,rfl⟩ (assetsSettled_refl _)
    | retireIdentifier identifierId =>
      obtain ⟨⟨answer,state⟩,ok,rfl⟩ := map_ok done
      cases retireIdentifier_ok ok
      exact vacant_idle vacant ⟨rfl,rfl⟩ (assetsSettled_refl _)
  | claim request => cases request with
    | assertFact assetId payload =>
      obtain ⟨⟨answer,state⟩,ok,rfl⟩ := map_ok done
      exact vacant_assertFact ok vacant respects
    | createDesired occurredAt assetId payload principal derivedFrom requestId =>
      obtain ⟨⟨answer,state⟩,ok,rfl⟩ := map_ok done
      exact vacant_createDesired ok vacant respects
    | transition occurredAt factId action principal reason requestId =>
      obtain ⟨⟨answer,state⟩,ok,rfl⟩ := map_ok done
      obtain ⟨fact,attestations,_,_,_,rfl⟩ := transition_ok ok
      refine vacant_of_settled vacant (assetsSettled_refl _) (factsSettled_revise ?_) (edgesSettled_refl _)
      intro fact _ _ open'
      cases action <;> exact ⟨rfl,open'⟩
    | assertRelationship payload =>
      obtain ⟨⟨answer,state⟩,ok,rfl⟩ := map_ok done
      exact vacant_assertRelationship ok vacant respects
    | retireRelationship relationshipId =>
      obtain ⟨⟨answer,state⟩,ok,rfl⟩ := map_ok done
      obtain ⟨rfl,_⟩ := retireRelationship_ok ok
      exact vacant_of_settled vacant (assetsSettled_refl _) (factsSettled_refl _) (edgesSettled_revise fun _ _ _ open' => nomatch open')

end Kept

section Broken

variable {verdict : Verdict} {python : Python} {moment : Moment} {tables : Tables}

theorem assertFact_opens {assetId : Uuid} {payload : FactAssert} {screened : ScreenResult} (vacant : Vacant tables)
    (retired : IsRetired tables assetId) (passed : screen python payload.predicate payload.value = .ok screened)
    (lands : FactLands verdict tables none (FactService.newFact moment assetId payload screened.value none) moment.now) :
    ¬ Vacant (next verdict python tables ⟨.claim (.assertFact assetId payload),moment⟩) := by
  have unclaimed : FactService.liveClaim tables assetId payload.predicate payload.factKind payload.sourceId = none :=
    liveClaim_retired vacant retired
  obtain ⟨asset,member,rfl,state⟩ := retired
  have found : tables.assets.find asset.id = some asset := Table.find_eq_some.mpr ⟨member,rfl⟩
  obtain ⟨answer,facts,added,made⟩ := assertFact_lands found passed unclaimed (by simp) lands
  rw [next_assertFact made]
  intro still
  exact still.facts _ (Table.mem_update.mpr ⟨asset,member,.inl ⟨rfl,rfl⟩⟩) state _ ((Table.mem_insert added).mpr (.inr rfl)) rfl rfl

theorem createDesired_opens {occurredAt : Time} {assetId : Uuid} {payload : DesiredFactCreate} {principal : Principal}
    {derivedFrom : Option Uuid} {requestId : Option String} {screened : ScreenResult} (vacant : Vacant tables)
    (retired : IsRetired tables assetId) (passed : screen python payload.predicate payload.value = .ok screened)
    (lands : DesiredLands verdict tables (FactService.newDesired moment assetId payload screened.value principal none derivedFrom)
      (FactService.attestation (FactService.newDesired moment assetId payload screened.value principal none derivedFrom)
        .approve .unverified .approved principal payload.reason requestId occurredAt (moment.newId 1))) :
    ¬ Vacant (next verdict python tables
      ⟨.claim (.createDesired occurredAt assetId payload principal derivedFrom requestId),moment⟩) := by
  obtain ⟨facts,attestations,added,accepted,recorded,complete⟩ := lands
  have unclaimed : FactService.liveClaim tables assetId payload.predicate .desiredState principal.subject = none :=
    liveClaim_retired vacant retired
  obtain ⟨asset,member,rfl,state⟩ := retired
  have found : tables.assets.find asset.id = some asset := Table.find_eq_some.mpr ⟨member,rfl⟩
  have done : attempt verdict python tables
      ⟨.claim (.createDesired occurredAt asset.id payload principal derivedFrom requestId),moment⟩ =
      .ok {tables with facts := facts,attestations := attestations} := by
    simp only [attempt,FactService.createDesired,requireAsset_eq found,ok_bind,passed,unclaimed,FactService.closeLive,
      Option.map_none,insertFact,added,flush_eq accepted,insertAttestation,recorded,flush_eq complete]
    rfl
  rw [next_of_ok done]
  intro still
  exact still.facts asset member state _ ((Table.mem_insert added).mpr (.inr rfl)) rfl rfl

theorem assertRelationship_opens {payload : RelationshipAssert} (vacant : Vacant tables)
    (retired : IsRetired tables payload.sourceAssetId ∨ IsRetired tables payload.targetAssetId)
    (guarded : RelationshipService.guardEndpoints tables payload = .ok ())
    (lands : EdgeLands verdict tables none (RelationshipService.newEdge moment payload none) moment.now) :
    ¬ Vacant (next verdict python tables ⟨.claim (.assertRelationship payload),moment⟩) := by
  have unclaimed : RelationshipService.liveEdge tables payload = none := liveEdge_retired vacant retired
  obtain ⟨answer,relationships,added,made⟩ := assertRelationship_lands guarded unclaimed (by simp) lands
  rw [next_assertRelationship made]
  intro still
  obtain ⟨asset,member,same,state⟩ := retired_endpoint retired
  exact still.relationships asset member state _ ((Table.mem_insert added).mpr (.inr rfl))
    ((joins_endpoints payload asset.id).mpr same) rfl

theorem vacant_iff {op : Operation} (vacant : Vacant tables) :
    Vacant (next verdict python tables op) ↔ Respects verdict python tables op := by
  constructor
  · intro kept
    obtain ⟨request,moment⟩ := op
    cases request with
    | asset request => trivial
    | claim request => cases request with
      | assertFact assetId payload =>
        intro retired screened passed lands
        exact assertFact_opens vacant retired passed lands kept
      | createDesired occurredAt assetId payload principal derivedFrom requestId =>
        intro retired screened passed fact lands
        exact createDesired_opens vacant retired passed lands kept
      | transition occurredAt factId action principal reason requestId => trivial
      | assertRelationship payload =>
        intro retired guarded lands
        exact assertRelationship_opens vacant retired guarded lands kept
      | retireRelationship relationshipId => trivial
  · exact vacant_next vacant

end Broken

/-- A retired asset holds no live claim in any state of a run exactly when no assertion of
the run that would be taken names a retired asset. -/
theorem retired_vacant {verdict : Verdict} {python : Python} {tables : Tables} (start : Vacant tables) (ops : List Operation) :
    (∀ before, before <+: ops → Vacant (after verdict python tables before)) ↔
      Along (next verdict python) (Respects verdict python) tables ops :=
  throughout_iff (fun _ _ vacant => vacant_iff vacant) start

theorem labTables_vacant : Vacant labTables where
  facts _ _ _ fact member := by cases member
  relationships _ _ _ edge member := by cases member

theorem retired_vacant_lab :
    (∀ before, before <+: [retiring 5 1] → Vacant (after Tables.violation labPython labTables before)) ↔
      Along (next Tables.violation labPython) (Respects Tables.violation labPython) labTables [retiring 5 1] :=
  retired_vacant labTables_vacant [retiring 5 1]

def assertedOnRetired : Tables :=
  after Tables.violation labPython labTables [retiring 5 1,asserting 6 140 1 (memory 7 .liveDiscovery)]

/-- A fact is asserted on a host that was retired a moment before. -/
theorem retired_claims_live : ∃ asset ∈ assertedOnRetired.assets.rows, asset.lifecycleState = .retired ∧
    ∃ fact ∈ assertedOnRetired.facts.rows, fact.assetId = asset.id ∧ fact.Live := by
  decide +kernel

end Acop.Cmdb
