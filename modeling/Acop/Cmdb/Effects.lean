import Acop.Cmdb.Operations

/-! What each operation has done to the tables once it has succeeded. -/
namespace Acop.Cmdb
open Acop.Store Acop.Serial

def AssetFact.Live (fact : AssetFact) : Prop := fact.validTo = none

instance (fact : AssetFact) : Decidable fact.Live := inferInstanceAs (Decidable (_ = _))

def AssetRelationship.Live (edge : AssetRelationship) : Prop := edge.validTo = none

instance (edge : AssetRelationship) : Decidable edge.Live := inferInstanceAs (Decidable (_ = _))

section Basics

variable {verdict : Verdict} {tables next : Tables}

theorem next_of_ok {python : Python} {op : Operation} (done : attempt verdict python tables op = .ok next) :
    Cmdb.next verdict python tables op = next := settle_ok done

theorem flush_ok (flushed : flush verdict tables = .ok next) : verdict tables = none ∧ next = tables := by
  unfold flush at flushed
  split at flushed
  · cases flushed
  · rename_i accepted
    cases flushed
    exact ⟨accepted,rfl⟩

theorem flush_eq (accepted : verdict tables = none) : flush verdict tables = .ok tables := by
  simp [flush,accepted]

theorem flush_refused {constraint : Constraint} (refused : verdict tables = some constraint) :
    flush verdict tables = .error (.integrity constraint) := by
  simp [flush,refused]

theorem requireAsset_ok {assetId : Uuid} {asset : Asset} (found : requireAsset tables assetId = .ok asset) :
    tables.assets.find assetId = some asset := by
  unfold requireAsset at found
  split at found
  · cases found
    assumption
  · cases found

theorem requireAsset_eq {assetId : Uuid} {asset : Asset} (found : tables.assets.find assetId = some asset) :
    requireAsset tables assetId = .ok asset := by
  simp [requireAsset,found]

theorem insertFact_ok {fact : AssetFact} (inserted : insertFact tables fact = .ok next) :
    ∃ facts, tables.facts.insert fact = some facts ∧ next = {tables with facts} := by
  unfold insertFact at inserted
  split at inserted
  · rename_i facts added
    cases inserted
    exact ⟨facts,added,rfl⟩
  · cases inserted

theorem insertAttestation_ok {attestation : FactAttestation} (inserted : insertAttestation tables attestation = .ok next) :
    ∃ attestations, tables.attestations.insert attestation = some attestations ∧ next = {tables with attestations} := by
  unfold insertAttestation at inserted
  split at inserted
  · rename_i attestations added
    cases inserted
    exact ⟨attestations,added,rfl⟩
  · cases inserted

theorem insertIdentifier_ok {row : AssetIdentifier} (inserted : insertIdentifier tables row = .ok next) :
    ∃ identifiers, tables.identifiers.insert row = some identifiers ∧ next = {tables with identifiers} := by
  unfold insertIdentifier at inserted
  split at inserted
  · rename_i identifiers added
    cases inserted
    exact ⟨identifiers,added,rfl⟩
  · cases inserted

end Basics

section Facts

variable {verdict : Verdict} {python : Python} {moment : Moment} {tables next : Tables}

def vacated (facts : Table AssetFact.id) (now : Time) : Option AssetFact → Table AssetFact.id
  | some live => facts.update live.id (FactService.close now)
  | none => facts

def withFact (tables : Tables) (facts : Table AssetFact.id) (assetId : Uuid) (now : Time) : Tables :=
  {tables with facts := facts,assets := tables.assets.update assetId (FactService.seeAsset now)}

/-- The database takes a fact in the place of the live claim, if there is one, and its
asset as seen. -/
def FactLands (verdict : Verdict) (tables : Tables) (live : Option AssetFact) (fact : AssetFact) (now : Time) : Prop :=
  (live.isSome → verdict {tables with facts := vacated tables.facts now live} = none) ∧
    ∃ facts, (vacated tables.facts now live).insert fact = some facts ∧ verdict {tables with facts} = none ∧
      verdict (withFact tables facts fact.assetId now) = none

theorem insertAsserted_ok {base : Tables} {asset : Asset} {payload : FactAssert} {screened : ScreenResult}
    {supersededId : Option Uuid} {answer : Asserted}
    (done : FactService.insertAsserted verdict moment base asset payload screened supersededId = .ok (answer,next)) :
    ∃ facts, base.facts.insert (FactService.newFact moment asset.id payload screened.value supersededId) = some facts ∧
      verdict {base with facts} = none ∧ verdict (withFact base facts asset.id moment.now) = none ∧
      next = withFact base facts asset.id moment.now := by
  obtain ⟨inserted,ok,done⟩ := bind_ok done
  obtain ⟨facts,added,rfl⟩ := insertFact_ok ok
  obtain ⟨flushed,ok,done⟩ := bind_ok done
  obtain ⟨accepted,rfl⟩ := flush_ok ok
  obtain ⟨last,ok,done⟩ := bind_ok done
  obtain ⟨seen,rfl⟩ := flush_ok ok
  cases done
  exact ⟨facts,added,accepted,seen,rfl⟩

theorem assertFact_ok {assetId : Uuid} {payload : FactAssert} {answer : Asserted}
    (done : FactService.assertFact verdict python moment tables assetId payload = .ok (answer,next)) :
    ∃ asset screened, tables.assets.find assetId = some asset ∧ screen python payload.predicate payload.value = .ok screened ∧
      ((∃ live, FactService.liveClaim tables assetId payload.predicate payload.factKind payload.sourceId = some live ∧
          valuesEqual live.value screened.value ∧ verdict next = none ∧
          next = {tables with facts := tables.facts.update live.id (FactService.touch moment.now payload.confidence)}) ∨
        (∃ live facts, FactService.liveClaim tables assetId payload.predicate payload.factKind payload.sourceId = live ∧
          (∀ claim ∈ live, ¬ valuesEqual claim.value screened.value) ∧
          FactLands verdict tables live (FactService.newFact moment asset.id payload screened.value (live.map (·.id)))
            moment.now ∧
          (vacated tables.facts moment.now live).insert
            (FactService.newFact moment asset.id payload screened.value (live.map (·.id))) = some facts ∧
          next = withFact tables facts asset.id moment.now)) := by
  obtain ⟨asset,ok,done⟩ := bind_ok done
  have found := requireAsset_ok ok
  obtain ⟨screened,passed,done⟩ := bind_ok done
  refine ⟨asset,screened,found,passed,?_⟩
  cases claimed : FactService.liveClaim tables assetId payload.predicate payload.factKind payload.sourceId with
  | none =>
    simp only [claimed] at done
    obtain ⟨facts,added,accepted,seen,rfl⟩ := insertAsserted_ok done
    exact .inr ⟨none,facts,rfl,by simp,⟨nofun,facts,added,accepted,seen⟩,added,rfl⟩
  | some live =>
    simp only [claimed] at done
    by_cases same : valuesEqual live.value screened.value
    · rw [if_pos same] at done
      obtain ⟨flushed,ok,done⟩ := bind_ok done
      obtain ⟨accepted,rfl⟩ := flush_ok ok
      cases done
      exact .inl ⟨live,rfl,same,accepted,rfl⟩
    · rw [if_neg same] at done
      obtain ⟨closed,ok,done⟩ := bind_ok done
      obtain ⟨closable,rfl⟩ := flush_ok ok
      obtain ⟨facts,added,accepted,seen,rfl⟩ := insertAsserted_ok done
      exact .inr ⟨some live,facts,rfl,by simpa using same,⟨fun _ => closable,facts,added,accepted,seen⟩,added,rfl⟩

theorem insertAsserted_eq (base : Tables) {asset : Asset} {payload : FactAssert} {screened : ScreenResult}
    {supersededId : Option Uuid} {facts : Table AssetFact.id}
    (added : base.facts.insert (FactService.newFact moment asset.id payload screened.value supersededId) = some facts)
    (accepted : verdict {base with facts} = none) (seen : verdict (withFact base facts asset.id moment.now) = none) :
    ∃ answer, FactService.insertAsserted verdict moment base asset payload screened supersededId =
      .ok (answer,withFact base facts asset.id moment.now) := by
  have settled : flush verdict {base with
      facts := facts,assets := base.assets.update asset.id (FactService.seeAsset moment.now)} =
      .ok (withFact base facts asset.id moment.now) := flush_eq seen
  refine ⟨⟨if supersededId.isSome then .superseded else .created,
    FactService.newFact moment asset.id payload screened.value supersededId,supersededId,screened.redactedJsonKeys⟩,?_⟩
  simp only [FactService.insertAsserted,insertFact,added,ok_bind,flush_eq accepted,settled]
  rfl

theorem assertFact_lands {asset : Asset} {payload : FactAssert} {screened : ScreenResult} {live : Option AssetFact}
    (found : tables.assets.find asset.id = some asset) (passed : screen python payload.predicate payload.value = .ok screened)
    (claimed : FactService.liveClaim tables asset.id payload.predicate payload.factKind payload.sourceId = live)
    (differs : ∀ claim ∈ live, ¬ valuesEqual claim.value screened.value)
    (lands : FactLands verdict tables live (FactService.newFact moment asset.id payload screened.value (live.map (·.id)))
      moment.now) :
    ∃ answer facts, (vacated tables.facts moment.now live).insert
        (FactService.newFact moment asset.id payload screened.value (live.map (·.id))) = some facts ∧
      FactService.assertFact verdict python moment tables asset.id payload =
        .ok (answer,withFact tables facts asset.id moment.now) := by
  obtain ⟨closable,facts,added,accepted,seen⟩ := lands
  cases live with
  | none =>
    obtain ⟨answer,made⟩ := insertAsserted_eq tables added accepted seen
    refine ⟨answer,facts,added,?_⟩
    simp only [FactService.assertFact,requireAsset_eq found,ok_bind,passed,claimed]
    exact made
  | some live =>
    have closing := flush_eq (closable rfl)
    obtain ⟨answer,made⟩ := insertAsserted_eq {tables with facts := vacated tables.facts moment.now (some live)}
      added accepted seen
    refine ⟨answer,facts,added,?_⟩
    simp only [FactService.assertFact,requireAsset_eq found,ok_bind,passed,claimed,if_neg (differs live rfl)]
    exact (congrArg (· >>= _) closing).trans made

theorem assertFact_touches {asset : Asset} {payload : FactAssert} {screened : ScreenResult} {live : AssetFact}
    (found : tables.assets.find asset.id = some asset) (passed : screen python payload.predicate payload.value = .ok screened)
    (claimed : FactService.liveClaim tables asset.id payload.predicate payload.factKind payload.sourceId = some live)
    (same : valuesEqual live.value screened.value)
    (accepted : verdict {tables with
      facts := tables.facts.update live.id (FactService.touch moment.now payload.confidence)} = none) :
    ∃ answer, FactService.assertFact verdict python moment tables asset.id payload =
      .ok (answer,{tables with facts := tables.facts.update live.id (FactService.touch moment.now payload.confidence)}) := by
  refine ⟨⟨.touched,(FactService.touch moment.now payload.confidence).change live,none,screened.redactedJsonKeys⟩,?_⟩
  simp only [FactService.assertFact,requireAsset_eq found,ok_bind,passed,claimed,if_pos same,flush_eq accepted]
  rfl

theorem next_assertFact {assetId : Uuid} {payload : FactAssert} {answer : Asserted}
    (made : FactService.assertFact verdict python moment tables assetId payload = .ok (answer,next)) :
    Cmdb.next verdict python tables ⟨.claim (.assertFact assetId payload),moment⟩ = next :=
  have done : attempt verdict python tables ⟨.claim (.assertFact assetId payload),moment⟩ = .ok next := map_eq made Prod.snd
  next_of_ok done

theorem createDesired_ok {occurredAt : Time} {assetId : Uuid} {payload : DesiredFactCreate} {principal : Principal}
    {derivedFrom : Option Uuid} {requestId : Option String} {answer : AssetFact}
    (done : FactService.createDesired verdict python moment tables occurredAt assetId payload principal derivedFrom requestId =
      .ok (answer,next)) :
    ∃ asset screened live facts attestations, tables.assets.find assetId = some asset ∧
      screen python payload.predicate payload.value = .ok screened ∧
      FactService.liveClaim tables assetId payload.predicate .desiredState principal.subject = live ∧
      (vacated tables.facts moment.now live).insert
        (FactService.newDesired moment asset.id payload screened.value principal (live.map (·.id)) derivedFrom) = some facts ∧
      verdict {tables with facts} = none ∧
      tables.attestations.insert (FactService.attestation
        (FactService.newDesired moment asset.id payload screened.value principal (live.map (·.id)) derivedFrom)
        .approve .unverified .approved principal payload.reason requestId occurredAt (moment.newId 1)) = some attestations ∧
      verdict {tables with facts := facts,attestations := attestations} = none ∧
      next = {tables with facts := facts,attestations := attestations} := by
  obtain ⟨asset,ok,done⟩ := bind_ok done
  have found := requireAsset_ok ok
  obtain ⟨screened,passed,done⟩ := bind_ok done
  generalize claimed : FactService.liveClaim tables assetId payload.predicate .desiredState principal.subject = live at done
  obtain ⟨closed,closing,done⟩ := bind_ok done
  have vacating : closed = {tables with facts := vacated tables.facts moment.now live} := by
    cases live with
    | none => exact (Except.ok.inj closing).symm
    | some live => exact (flush_ok closing).2
  obtain ⟨inserted,ok,done⟩ := bind_ok done
  obtain ⟨facts,added,rfl⟩ := insertFact_ok ok
  obtain ⟨flushed,ok,done⟩ := bind_ok done
  obtain ⟨accepted,rfl⟩ := flush_ok ok
  obtain ⟨attested,ok,done⟩ := bind_ok done
  obtain ⟨attestations,recorded,rfl⟩ := insertAttestation_ok ok
  obtain ⟨last,ok,done⟩ := bind_ok done
  obtain ⟨complete,rfl⟩ := flush_ok ok
  cases done
  subst vacating
  exact ⟨asset,screened,live,facts,attestations,found,passed,rfl,added,accepted,recorded,complete,rfl⟩

theorem transition_ok {occurredAt : Time} {factId : Uuid} {action : AttestationAction} {principal : Principal}
    {reason requestId : Option String} {answer : AssetFact}
    (done : FactService.transition verdict moment tables occurredAt factId action principal reason requestId = .ok (answer,next)) :
    ∃ fact attestations, tables.facts.find factId = some fact ∧ fact.validTo = none ∧
      FactService.guardTransition tables fact action = .ok () ∧
      next = {tables with
        facts := tables.facts.update factId (FactService.attributing action principal moment.now),
        attestations := attestations} := by
  unfold FactService.transition at done
  cases found : tables.facts.find factId with
  | none =>
    simp only [found] at done
    cases done
  | some fact =>
    simp only [found] at done
    obtain ⟨stillOpen,done⟩ := ok_of_guard done
    obtain ⟨⟨⟩,guarded,done⟩ := bind_ok done
    obtain ⟨attested,ok,done⟩ := bind_ok done
    obtain ⟨attestations,_,rfl⟩ := insertAttestation_ok ok
    obtain ⟨last,ok,done⟩ := bind_ok done
    obtain ⟨_,rfl⟩ := flush_ok ok
    cases done
    exact ⟨fact,attestations,rfl,by simpa using stillOpen,guarded,rfl⟩

end Facts

section Relationships

variable {verdict : Verdict} {moment : Moment} {tables next : Tables}

theorem insertEdge_ok {edge : AssetRelationship} (inserted : RelationshipService.insertEdge tables edge = .ok next) :
    ∃ relationships, tables.relationships.insert edge = some relationships ∧ next = {tables with relationships} := by
  unfold RelationshipService.insertEdge at inserted
  split at inserted
  · rename_i relationships added
    cases inserted
    exact ⟨relationships,added,rfl⟩
  · cases inserted

def vacatedEdges (relationships : Table AssetRelationship.id) (now : Time) : Option AssetRelationship → Table AssetRelationship.id
  | some live => relationships.update live.id (RelationshipService.close now)
  | none => relationships

/-- The database takes an edge in the place of the live one, if there is one. -/
def EdgeLands (verdict : Verdict) (tables : Tables) (live : Option AssetRelationship) (edge : AssetRelationship) (now : Time) :
    Prop :=
  (live.isSome → verdict {tables with relationships := vacatedEdges tables.relationships now live} = none) ∧
    ∃ relationships, (vacatedEdges tables.relationships now live).insert edge = some relationships ∧
      verdict {tables with relationships} = none

theorem assertRelationship_ok {payload : RelationshipAssert} {answer : AssertedEdge}
    (done : RelationshipService.assertRelationship verdict moment tables payload = .ok (answer,next)) :
    RelationshipService.guardEndpoints tables payload = .ok () ∧
      ((∃ live, RelationshipService.liveEdge tables payload = some live ∧ live.qualifier.getD "" = payload.qualifier.getD "" ∧
          verdict next = none ∧ next = {tables with
            relationships := tables.relationships.update live.id (RelationshipService.touch moment.now payload.confidence)}) ∨
        (∃ live relationships, RelationshipService.liveEdge tables payload = live ∧
          (∀ edge ∈ live, edge.qualifier.getD "" ≠ payload.qualifier.getD "") ∧
          EdgeLands verdict tables live (RelationshipService.newEdge moment payload (live.map (·.id))) moment.now ∧
          (vacatedEdges tables.relationships moment.now live).insert
            (RelationshipService.newEdge moment payload (live.map (·.id))) = some relationships ∧
          next = {tables with relationships})) := by
  obtain ⟨⟨⟩,guarded,done⟩ := bind_ok done
  refine ⟨guarded,?_⟩
  cases claimed : RelationshipService.liveEdge tables payload with
  | none =>
    simp only [claimed] at done
    obtain ⟨inserted,ok,done⟩ := bind_ok done
    obtain ⟨relationships,added,rfl⟩ := insertEdge_ok ok
    obtain ⟨last,ok,done⟩ := bind_ok done
    obtain ⟨accepted,rfl⟩ := flush_ok ok
    cases done
    exact .inr ⟨none,relationships,rfl,by simp,⟨nofun,relationships,added,accepted⟩,added,rfl⟩
  | some live =>
    simp only [claimed] at done
    by_cases same : live.qualifier.getD "" = payload.qualifier.getD ""
    · rw [if_pos same] at done
      obtain ⟨flushed,ok,done⟩ := bind_ok done
      obtain ⟨accepted,rfl⟩ := flush_ok ok
      cases done
      exact .inl ⟨live,rfl,same,accepted,rfl⟩
    · rw [if_neg same] at done
      obtain ⟨closed,ok,done⟩ := bind_ok done
      obtain ⟨closable,rfl⟩ := flush_ok ok
      obtain ⟨inserted,ok,done⟩ := bind_ok done
      obtain ⟨relationships,added,rfl⟩ := insertEdge_ok ok
      obtain ⟨last,ok,done⟩ := bind_ok done
      obtain ⟨accepted,rfl⟩ := flush_ok ok
      cases done
      exact .inr ⟨some live,relationships,rfl,by simpa using same,⟨fun _ => closable,relationships,added,accepted⟩,added,rfl⟩

theorem assertRelationship_lands {payload : RelationshipAssert} {live : Option AssetRelationship}
    (guarded : RelationshipService.guardEndpoints tables payload = .ok ())
    (claimed : RelationshipService.liveEdge tables payload = live)
    (differs : ∀ edge ∈ live, edge.qualifier.getD "" ≠ payload.qualifier.getD "")
    (lands : EdgeLands verdict tables live (RelationshipService.newEdge moment payload (live.map (·.id))) moment.now) :
    ∃ answer relationships, (vacatedEdges tables.relationships moment.now live).insert
        (RelationshipService.newEdge moment payload (live.map (·.id))) = some relationships ∧
      RelationshipService.assertRelationship verdict moment tables payload = .ok (answer,{tables with relationships}) := by
  obtain ⟨closable,relationships,added,accepted⟩ := lands
  have inserting : ∀ base : Tables, base.relationships = vacatedEdges tables.relationships moment.now live →
      RelationshipService.insertEdge base (RelationshipService.newEdge moment payload (live.map (·.id))) =
        .ok {base with relationships} := by
    intro base same
    rw [RelationshipService.insertEdge,same,added]
  refine ⟨⟨.created,RelationshipService.newEdge moment payload (live.map (·.id)),
    decide ((RelationshipService.endpoints payload).1 ≠ payload.sourceAssetId)⟩,relationships,added,?_⟩
  cases live with
  | none =>
    simp only [RelationshipService.assertRelationship,guarded,ok_bind,claimed]
    rw [← Option.map_none,inserting tables rfl,ok_bind,flush_eq accepted]
    rfl
  | some live =>
    have closing : flush verdict {tables with
        relationships := tables.relationships.update live.id (RelationshipService.close moment.now)} = .ok _ :=
      flush_eq (closable rfl)
    simp only [RelationshipService.assertRelationship,guarded,ok_bind,claimed,if_neg (differs live rfl),closing]
    rw [← Option.map_some,inserting _ rfl,ok_bind,flush_eq accepted]
    rfl

theorem assertRelationship_touches {payload : RelationshipAssert} {live : AssetRelationship}
    (guarded : RelationshipService.guardEndpoints tables payload = .ok ())
    (claimed : RelationshipService.liveEdge tables payload = some live)
    (same : live.qualifier.getD "" = payload.qualifier.getD "")
    (accepted : verdict {tables with
      relationships := tables.relationships.update live.id (RelationshipService.touch moment.now payload.confidence)} = none) :
    ∃ answer, RelationshipService.assertRelationship verdict moment tables payload = .ok (answer,{tables with
      relationships := tables.relationships.update live.id (RelationshipService.touch moment.now payload.confidence)}) := by
  refine ⟨⟨.touched,(RelationshipService.touch moment.now payload.confidence).change live,
    decide ((RelationshipService.endpoints payload).1 ≠ payload.sourceAssetId)⟩,?_⟩
  simp only [RelationshipService.assertRelationship,guarded,ok_bind,claimed,if_pos same,flush_eq accepted]
  rfl

theorem next_assertRelationship {python : Python} {payload : RelationshipAssert} {answer : AssertedEdge}
    (made : RelationshipService.assertRelationship verdict moment tables payload = .ok (answer,next)) :
    Cmdb.next verdict python tables ⟨.claim (.assertRelationship payload),moment⟩ = next :=
  have done : attempt verdict python tables ⟨.claim (.assertRelationship payload),moment⟩ = .ok next := map_eq made Prod.snd
  next_of_ok done

theorem retireRelationship_ok {relationshipId : Uuid} {answer : AssetRelationship}
    (done : RelationshipService.retire verdict moment tables relationshipId = .ok (answer,next)) :
    next = {tables with relationships := tables.relationships.update relationshipId (RelationshipService.close moment.now)} ∧
      ∃ edge, tables.relationships.find relationshipId = some edge ∧ edge.validTo = none := by
  unfold RelationshipService.retire at done
  cases found : tables.relationships.find relationshipId with
  | none =>
    simp only [found] at done
    cases done
  | some edge =>
    simp only [found] at done
    obtain ⟨stillOpen,done⟩ := ok_of_guard done
    obtain ⟨last,ok,done⟩ := bind_ok done
    obtain ⟨_,rfl⟩ := flush_ok ok
    cases done
    exact ⟨rfl,edge,rfl,by simpa using stillOpen⟩

end Relationships

section Assets

variable {verdict : Verdict} {python : Python} {moment : Moment} {tables next : Tables}

theorem attachItems_ok {existing : List AssetIdentifier} {assetId : Uuid} {items : List NormalisedIdentifier} {drawn : Nat}
    (done : IdentityResolver.attachItems moment existing assetId drawn items tables = .ok next) :
    ∃ identifiers, next = {tables with identifiers} := by
  induction items generalizing drawn tables with
  | nil =>
    cases done
    exact ⟨_,rfl⟩
  | cons item items ih =>
    unfold IdentityResolver.attachItems at done
    split at done
    · obtain ⟨identifiers,rfl⟩ := ih done
      exact ⟨identifiers,rfl⟩
    · obtain ⟨inserted,ok,done⟩ := bind_ok done
      obtain ⟨_,_,rfl⟩ := insertIdentifier_ok ok
      obtain ⟨identifiers,rfl⟩ := ih done
      exact ⟨identifiers,rfl⟩

theorem attachMissing_ok {assetId : Uuid} {items : List NormalisedIdentifier}
    (done : IdentityResolver.attachMissing verdict moment tables assetId items = .ok next) :
    ∃ identifiers, next = {tables with identifiers} := by
  obtain ⟨attached,ok,done⟩ := bind_ok done
  obtain ⟨_,rfl⟩ := flush_ok done
  exact attachItems_ok ok

theorem resolve_ok {assetType : AssetType} {displayName : String} {identifiers : List IdentifierInput} {createIfMissing : Bool}
    {answer : Resolution}
    (done : IdentityResolver.resolve verdict python moment tables assetType displayName identifiers createIfMissing =
      .ok (answer,next)) :
    ∃ normalised seen, identifiers.mapM (normalise python) = .ok normalised ∧
      IdentityResolver.attachMissing verdict moment seen answer.assetId normalised = .ok next ∧
      ((∃ asset, IdentityResolver.matchedAssets tables normalised = [asset.id] ∧ tables.assets.find asset.id = some asset ∧
          answer.assetId = asset.id ∧
          seen = {tables with assets := tables.assets.update asset.id (FactService.seeAsset moment.now)}) ∨
        (∃ assets, IdentityResolver.matchedAssets tables normalised = [] ∧
          tables.assets.insert (IdentityResolver.newAsset moment assetType displayName) = some assets ∧
          answer.assetId = moment.newId 0 ∧ seen = {tables with assets})) := by
  obtain ⟨normalised,ready,done⟩ := bind_ok done
  refine ⟨normalised,?_⟩
  split at done
  · cases done
  · rename_i assetId one
    split at done
    · cases done
    · rename_i asset found
      have same := (Table.find_eq_some.mp found).2
      obtain ⟨attached,ok,done⟩ := bind_ok done
      cases done
      exact ⟨_,ready,ok,.inl ⟨asset,same ▸ one,same ▸ found,rfl,rfl⟩⟩
  · rename_i unmatched
    split at done
    · cases done
    · obtain ⟨inserted,ok,done⟩ := bind_ok done
      unfold IdentityResolver.insertAsset at ok
      split at ok
      · rename_i assets added
        cases ok
        obtain ⟨flushed,ok,done⟩ := bind_ok done
        obtain ⟨_,rfl⟩ := flush_ok ok
        obtain ⟨attached,ok,done⟩ := bind_ok done
        cases done
        exact ⟨_,ready,ok,.inr ⟨assets,unmatched,added,rfl,rfl⟩⟩
      · cases ok

theorem createAsset_ok {payload : AssetCreate} {answer : Resolution}
    (done : AssetService.createAsset verdict python moment tables payload = .ok (answer,next)) :
    ∃ resolved, IdentityResolver.resolve verdict python moment tables payload.assetType payload.displayName payload.identifiers
        true = .ok (answer,resolved) ∧
      ((payload.description = none ∧ next = resolved) ∨ ∃ description, payload.description = some description ∧
        next = {resolved with assets := resolved.assets.update answer.assetId (AssetService.describe description)}) := by
  obtain ⟨⟨resolution,resolved⟩,ok,done⟩ := bind_ok done
  dsimp only at done
  split at done
  · rename_i absent
    cases done
    exact ⟨_,ok,.inl ⟨absent,rfl⟩⟩
  · rename_i description given
    obtain ⟨last,flushed,done⟩ := bind_ok done
    obtain ⟨_,rfl⟩ := flush_ok flushed
    cases done
    exact ⟨resolved,ok,.inr ⟨description,given,rfl⟩⟩

theorem update_ok {assetId : Uuid} {payload : AssetUpdate} (done : AssetService.update verdict tables assetId payload = .ok next) :
    ∃ asset, tables.assets.find assetId = some asset ∧ ¬ asset.lifecycleState.Terminal ∧
      next = {tables with assets := tables.assets.update assetId (AssetService.assign payload)} := by
  obtain ⟨asset,ok,done⟩ := bind_ok done
  obtain ⟨patchable,done⟩ := ok_of_guard done
  exact ⟨asset,requireAsset_ok ok,patchable,(flush_ok done).2⟩

theorem retire_ok {assetId : Uuid} {answer : Nat × Nat}
    (done : AssetService.retire verdict moment tables assetId = .ok (answer,next)) :
    ∃ asset, tables.assets.find assetId = some asset ∧ ¬ asset.lifecycleState.Terminal ∧
      next = {tables with
        assets := tables.assets.update assetId (AssetService.retired moment.now),
        facts := tables.facts.revise (AssetService.liveFactOf assetId) (AssetService.closeStale moment.now),
        relationships := tables.relationships.revise (AssetService.liveEdgeOf assetId) (RelationshipService.close moment.now)} := by
  obtain ⟨asset,ok,done⟩ := bind_ok done
  obtain ⟨notRetired,done⟩ := ok_of_guard done
  obtain ⟨notMerged,done⟩ := ok_of_guard done
  obtain ⟨last,flushed,done⟩ := bind_ok done
  obtain ⟨_,rfl⟩ := flush_ok flushed
  cases done
  refine ⟨asset,requireAsset_ok ok,?_,rfl⟩
  rintro (retired | merged)
  · exact notRetired retired
  · exact notMerged merged

theorem attachIdentifier_ok {assetId : Uuid} {payload : IdentifierInput} {answer : AssetIdentifier}
    (done : AssetService.attachIdentifier verdict python moment tables assetId payload = .ok (answer,next)) :
    ∃ asset item, tables.assets.find assetId = some asset ∧ normalise python payload = .ok item ∧
      ((∃ existing ∈ IdentityResolver.heldBy tables asset.id, existing.key = item.key ∧
          next = {tables with identifiers := tables.identifiers.update existing.id (seeIdentifier moment.now)}) ∨
        ∃ identifiers, (∀ row ∈ IdentityResolver.heldBy tables asset.id, row.key ≠ item.key) ∧
          (item.uniqueInNamespace → ∀ row ∈ tables.identifiers.rows, row.key = item.key → row.retiredAt ≠ none) ∧
          tables.identifiers.insert (newIdentifier (moment.newId 0) asset.id item moment.now) = some identifiers ∧
          verdict {tables with identifiers} = none ∧ next = {tables with identifiers}) := by
  obtain ⟨asset,ok,done⟩ := bind_ok done
  have found := requireAsset_ok ok
  obtain ⟨item,ready,done⟩ := bind_ok done
  refine ⟨asset,item,found,ready,?_⟩
  split at done
  · rename_i existing held
    obtain ⟨last,flushed,done⟩ := bind_ok done
    obtain ⟨_,rfl⟩ := flush_ok flushed
    cases done
    exact .inl ⟨existing,List.mem_of_find?_eq_some held,by simpa using List.find?_some held,rfl⟩
  · rename_i unheld
    have missing : ∀ row ∈ IdentityResolver.heldBy tables asset.id, row.key ≠ item.key := by
      simpa using List.find?_eq_none.mp unheld
    split at done
    · cases done
    · rename_i unclaimed
      have free : item.uniqueInNamespace → ∀ row ∈ tables.identifiers.rows, row.key = item.key → row.retiredAt ≠ none := by
        intro unique
        rw [if_pos unique] at unclaimed
        simpa using List.find?_eq_none.mp unclaimed
      obtain ⟨inserted,ok,done⟩ := bind_ok done
      obtain ⟨identifiers,added,rfl⟩ := insertIdentifier_ok ok
      obtain ⟨last,flushed,done⟩ := bind_ok done
      obtain ⟨accepted,rfl⟩ := flush_ok flushed
      cases done
      exact .inr ⟨identifiers,missing,free,added,accepted,rfl⟩

theorem attachIdentifier_lands {asset : Asset} {payload : IdentifierInput} {item : NormalisedIdentifier}
    {identifiers : Table AssetIdentifier.id} (found : tables.assets.find asset.id = some asset)
    (ready : normalise python payload = .ok item) (unheld : ∀ row ∈ IdentityResolver.heldBy tables asset.id, row.key ≠ item.key)
    (unclaimed : item.uniqueInNamespace → ∀ row ∈ tables.identifiers.rows, row.key = item.key → row.retiredAt ≠ none)
    (added : tables.identifiers.insert (newIdentifier (moment.newId 0) asset.id item moment.now) = some identifiers)
    (accepted : verdict {tables with identifiers} = none) :
    AssetService.attachIdentifier verdict python moment tables asset.id payload =
      .ok (newIdentifier (moment.newId 0) asset.id item moment.now,{tables with identifiers}) := by
  have missing : (IdentityResolver.heldBy tables asset.id).find? (fun row => row.key = item.key) = none := by
    simpa using unheld
  have free : (if item.uniqueInNamespace then
      tables.identifiers.rows.find? fun row => row.key = item.key && row.retiredAt = none else none) = none := by
    split
    · simpa using unclaimed ‹_›
    · rfl
  simp only [AssetService.attachIdentifier,requireAsset_eq found,ok_bind,ready,missing,free,insertIdentifier,added,flush_eq accepted]
  rfl

theorem retireIdentifier_ok {identifierId : Uuid} {answer : AssetIdentifier}
    (done : AssetService.retireIdentifier verdict moment tables identifierId = .ok (answer,next)) :
    next = {tables with identifiers := tables.identifiers.update identifierId (AssetService.retireRow moment.now)} := by
  unfold AssetService.retireIdentifier at done
  split at done
  · cases done
  · obtain ⟨_,done⟩ := ok_of_guard done
    obtain ⟨last,flushed,done⟩ := bind_ok done
    obtain ⟨_,rfl⟩ := flush_ok flushed
    cases done
    rfl

end Assets

section Claims

variable {verdict : Verdict} {python : Python} {moment : Moment} {tables next' : Tables}

theorem claims_resolve {assetType : AssetType} {displayName : String} {identifiers : List IdentifierInput}
    {createIfMissing : Bool} {answer : Resolution}
    (done : IdentityResolver.resolve verdict python moment tables assetType displayName identifiers createIfMissing =
      .ok (answer,next')) : next'.facts = tables.facts ∧ next'.relationships = tables.relationships := by
  obtain ⟨normalised,seen,_,attached,⟨asset,_,_,_,rfl⟩ | ⟨assets,_,_,_,rfl⟩⟩ := resolve_ok done
  · obtain ⟨identifiers,rfl⟩ := attachMissing_ok attached
    exact ⟨rfl,rfl⟩
  · obtain ⟨identifiers,rfl⟩ := attachMissing_ok attached
    exact ⟨rfl,rfl⟩

theorem claims_createAsset {payload : AssetCreate} {answer : Resolution}
    (done : AssetService.createAsset verdict python moment tables payload = .ok (answer,next')) :
    next'.facts = tables.facts ∧ next'.relationships = tables.relationships := by
  obtain ⟨resolved,ok,described⟩ := createAsset_ok done
  have kept := claims_resolve ok
  obtain ⟨_,rfl⟩ | ⟨description,_,rfl⟩ := described
  · exact kept
  · exact kept

theorem claims_attachIdentifier {assetId : Uuid} {payload : IdentifierInput} {answer : AssetIdentifier}
    (done : AssetService.attachIdentifier verdict python moment tables assetId payload = .ok (answer,next')) :
    next'.facts = tables.facts ∧ next'.relationships = tables.relationships := by
  obtain ⟨asset,item,_,_,⟨existing,_,_,rfl⟩ | ⟨identifiers,_,_,_,_,rfl⟩⟩ := attachIdentifier_ok done
  · exact ⟨rfl,rfl⟩
  · exact ⟨rfl,rfl⟩

/-- What an operation has done to the facts: nothing, closed those of a retired asset, or the
one thing that its own service does. -/
theorem attempt_facts {op : Operation} (done : attempt verdict python tables op = .ok next') :
    next'.facts = tables.facts ∨
    (∃ assetId answer, op.request = .asset (.retire assetId) ∧
      AssetService.retire verdict op.moment tables assetId = .ok (answer,next')) ∨
    (∃ assetId payload answer, op.request = .claim (.assertFact assetId payload) ∧
      FactService.assertFact verdict python op.moment tables assetId payload = .ok (answer,next')) ∨
    (∃ occurredAt assetId payload principal derivedFrom requestId answer,
      op.request = .claim (.createDesired occurredAt assetId payload principal derivedFrom requestId) ∧
      FactService.createDesired verdict python op.moment tables occurredAt assetId payload principal derivedFrom requestId =
        .ok (answer,next')) ∨
    ∃ occurredAt factId action principal reason requestId answer,
      op.request = .claim (.transition occurredAt factId action principal reason requestId) ∧
      FactService.transition verdict op.moment tables occurredAt factId action principal reason requestId =
        .ok (answer,next') := by
  obtain ⟨request,moment⟩ := op
  cases request with
  | asset request => cases request with
    | create payload =>
      obtain ⟨⟨answer,state⟩,ok,rfl⟩ := map_ok done
      exact .inl (claims_createAsset ok).1
    | resolve payload =>
      obtain ⟨⟨answer,state⟩,ok,rfl⟩ := map_ok done
      exact .inl (claims_resolve ok).1
    | update assetId payload =>
      obtain ⟨asset,_,_,rfl⟩ := update_ok done
      exact .inl rfl
    | retire assetId =>
      obtain ⟨⟨answer,state⟩,ok,rfl⟩ := map_ok done
      exact .inr (.inl ⟨assetId,answer,rfl,ok⟩)
    | attachIdentifier assetId payload =>
      obtain ⟨⟨answer,state⟩,ok,rfl⟩ := map_ok done
      exact .inl (claims_attachIdentifier ok).1
    | retireIdentifier identifierId =>
      obtain ⟨⟨answer,state⟩,ok,rfl⟩ := map_ok done
      cases retireIdentifier_ok ok
      exact .inl rfl
  | claim request => cases request with
    | assertFact assetId payload =>
      obtain ⟨⟨answer,state⟩,ok,rfl⟩ := map_ok done
      exact .inr (.inr (.inl ⟨assetId,payload,answer,rfl,ok⟩))
    | createDesired occurredAt assetId payload principal derivedFrom requestId =>
      obtain ⟨⟨answer,state⟩,ok,rfl⟩ := map_ok done
      exact .inr (.inr (.inr (.inl ⟨occurredAt,assetId,payload,principal,derivedFrom,requestId,answer,rfl,ok⟩)))
    | transition occurredAt factId action principal reason requestId =>
      obtain ⟨⟨answer,state⟩,ok,rfl⟩ := map_ok done
      exact .inr (.inr (.inr (.inr ⟨occurredAt,factId,action,principal,reason,requestId,answer,rfl,ok⟩)))
    | assertRelationship payload =>
      obtain ⟨⟨answer,state⟩,ok,rfl⟩ := map_ok done
      obtain ⟨_,⟨live,_,_,_,rfl⟩ | ⟨live,relationships,_,_,_,_,rfl⟩⟩ := assertRelationship_ok ok
      · exact .inl rfl
      · exact .inl rfl
    | retireRelationship relationshipId =>
      obtain ⟨⟨answer,state⟩,ok,rfl⟩ := map_ok done
      obtain ⟨rfl,_⟩ := retireRelationship_ok ok
      exact .inl rfl

theorem attempt_edges {op : Operation} (done : attempt verdict python tables op = .ok next') :
    next'.relationships = tables.relationships ∨
    (∃ which, next'.relationships = tables.relationships.revise which (RelationshipService.close op.moment.now)) ∨
    ∃ payload answer, op.request = .claim (.assertRelationship payload) ∧
      RelationshipService.assertRelationship verdict op.moment tables payload = .ok (answer,next') := by
  obtain ⟨request,moment⟩ := op
  cases request with
  | asset request => cases request with
    | create payload =>
      obtain ⟨⟨answer,state⟩,ok,rfl⟩ := map_ok done
      exact .inl (claims_createAsset ok).2
    | resolve payload =>
      obtain ⟨⟨answer,state⟩,ok,rfl⟩ := map_ok done
      exact .inl (claims_resolve ok).2
    | update assetId payload =>
      obtain ⟨asset,_,_,rfl⟩ := update_ok done
      exact .inl rfl
    | retire assetId =>
      obtain ⟨⟨answer,state⟩,ok,rfl⟩ := map_ok done
      obtain ⟨asset,_,_,rfl⟩ := retire_ok ok
      exact .inr (.inl ⟨_,rfl⟩)
    | attachIdentifier assetId payload =>
      obtain ⟨⟨answer,state⟩,ok,rfl⟩ := map_ok done
      exact .inl (claims_attachIdentifier ok).2
    | retireIdentifier identifierId =>
      obtain ⟨⟨answer,state⟩,ok,rfl⟩ := map_ok done
      cases retireIdentifier_ok ok
      exact .inl rfl
  | claim request => cases request with
    | assertFact assetId payload =>
      obtain ⟨⟨answer,state⟩,ok,rfl⟩ := map_ok done
      obtain ⟨asset,screened,_,_,⟨live,_,_,_,rfl⟩ | ⟨live,facts,_,_,_,_,rfl⟩⟩ := assertFact_ok ok
      · exact .inl rfl
      · exact .inl rfl
    | createDesired occurredAt assetId payload principal derivedFrom requestId =>
      obtain ⟨⟨answer,state⟩,ok,rfl⟩ := map_ok done
      obtain ⟨asset,screened,live,facts,attestations,_,_,_,_,_,_,_,rfl⟩ := createDesired_ok ok
      exact .inl rfl
    | transition occurredAt factId action principal reason requestId =>
      obtain ⟨⟨answer,state⟩,ok,rfl⟩ := map_ok done
      obtain ⟨fact,attestations,_,_,_,rfl⟩ := transition_ok ok
      exact .inl rfl
    | assertRelationship payload =>
      obtain ⟨⟨answer,state⟩,ok,rfl⟩ := map_ok done
      exact .inr (.inr ⟨payload,answer,rfl,ok⟩)
    | retireRelationship relationshipId =>
      obtain ⟨⟨answer,state⟩,ok,rfl⟩ := map_ok done
      obtain ⟨rfl,_⟩ := retireRelationship_ok ok
      exact .inr (.inl ⟨_,rfl⟩)

end Claims

end Acop.Cmdb
