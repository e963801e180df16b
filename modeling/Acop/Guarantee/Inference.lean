import Acop.Cmdb.Effects
import Acop.Cmdb.Laboratory

/-! Assertions of an inference, and the live claims they find under their source's id. -/
namespace Acop.Cmdb
open Acop.Store Acop.Serial

def Infers (op : Operation) : Prop :=
  match op.request with
  | .claim (.assertFact _ payload) => payload.sourceType = .aiInference
  | .claim (.assertRelationship payload) => payload.sourceType = .aiInference
  | _ => False

/-- Every live claim that is no inference is still there as it was. -/
structure Spares (old new : Tables) : Prop where
  facts : ∀ fact ∈ old.facts.rows, fact.Live → ¬ fact.IsInference → fact ∈ new.facts.rows
  relationships : ∀ edge ∈ old.relationships.rows, edge.Live → ¬ edge.IsInference → edge ∈ new.relationships.rows

section Condition

variable (verdict : Verdict) (python : Python) (moment : Moment) (tables : Tables)

/-- If the source's live claim is no inference, the assertion repeats it to the letter or
the database refuses it. -/
def YieldsFact (assetId : Uuid) (payload : FactAssert) : Prop :=
  ∀ screened live, (tables.assets.find assetId).isSome → screen python payload.predicate payload.value = .ok screened →
    FactService.liveClaim tables assetId payload.predicate payload.factKind payload.sourceId = some live → ¬ live.IsInference →
      if valuesEqual live.value screened.value then
        verdict {tables with facts := tables.facts.update live.id (FactService.touch moment.now payload.confidence)} = none →
          live.lastSeenAt = moment.now ∧ live.confidence = numeric43 payload.confidence
      else ¬ FactLands verdict tables (some live)
        (FactService.newFact moment assetId payload screened.value (some live.id)) moment.now

def YieldsEdge (payload : RelationshipAssert) : Prop :=
  ∀ live, RelationshipService.guardEndpoints tables payload = .ok () →
    RelationshipService.liveEdge tables payload = some live → ¬ live.IsInference →
      if live.qualifier.getD "" = payload.qualifier.getD "" then
        verdict {tables with
          relationships := tables.relationships.update live.id (RelationshipService.touch moment.now payload.confidence)} = none →
          live.lastSeenAt = moment.now ∧ live.confidence = numeric43 payload.confidence
      else ¬ EdgeLands verdict tables (some live) (RelationshipService.newEdge moment payload (some live.id)) moment.now

/-- An inference finds no other claim to displace. -/
def Yields (op : Operation) : Prop :=
  match op.request with
  | .claim (.assertFact assetId payload) =>
    payload.sourceType = .aiInference → YieldsFact verdict python op.moment tables assetId payload
  | .claim (.assertRelationship payload) => payload.sourceType = .aiInference → YieldsEdge verdict op.moment tables payload
  | _ => True

end Condition

section Spared

variable {verdict : Verdict} {python : Python} {moment : Moment} {tables next' : Tables}

theorem spares_refl (tables : Tables) : Spares tables tables :=
  ⟨fun _ member _ _ => member,fun _ member _ _ => member⟩

theorem liveClaim_mem {assetId : Uuid} {predicate : String} {factKind : FactKind} {sourceId : String} {live : AssetFact}
    (claimed : FactService.liveClaim tables assetId predicate factKind sourceId = some live) :
    live ∈ tables.facts.rows ∧ live.Live := by
  refine ⟨List.mem_of_find?_eq_some claimed,?_⟩
  have found := List.find?_some claimed
  simp only [Bool.and_eq_true,decide_eq_true_eq] at found
  exact found.2

theorem liveEdge_mem {payload : RelationshipAssert} {live : AssetRelationship}
    (claimed : RelationshipService.liveEdge tables payload = some live) : live ∈ tables.relationships.rows ∧ live.Live := by
  refine ⟨List.mem_of_find?_eq_some claimed,?_⟩
  have found := List.find?_some claimed
  simp only [Bool.and_eq_true,decide_eq_true_eq] at found
  exact found.2

theorem touched_same {live : AssetFact} {now : Time} {confidence : Rat} :
    (FactService.touch now confidence).change live = live ↔ live.lastSeenAt = now ∧ live.confidence = numeric43 confidence := by
  constructor
  · intro same
    exact ⟨(congrArg (·.lastSeenAt) same).symm,(congrArg (·.confidence) same).symm⟩
  · rintro ⟨rfl,same⟩
    simp only [FactService.touch,← same]

theorem touchedEdge_same {live : AssetRelationship} {now : Time} {confidence : Rat} :
    (RelationshipService.touch now confidence).change live = live ↔
      live.lastSeenAt = now ∧ live.confidence = numeric43 confidence := by
  constructor
  · intro same
    exact ⟨(congrArg (·.lastSeenAt) same).symm,(congrArg (·.confidence) same).symm⟩
  · rintro ⟨rfl,same⟩
    simp only [RelationshipService.touch,← same]

theorem closed_changed {live : AssetFact} {now : Time} (open' : live.Live) : (FactService.close now).change live ≠ live := by
  intro same
  have changed : some now = live.validTo := congrArg (fun fact : AssetFact => fact.validTo) same
  cases changed.trans open'

theorem closedEdge_changed {live : AssetRelationship} {now : Time} (open' : live.Live) :
    (RelationshipService.close now).change live ≠ live := by
  intro same
  have changed : some now = live.validTo := congrArg (fun edge : AssetRelationship => edge.validTo) same
  cases changed.trans open'

theorem mem_vacated {live : Option AssetFact} {now : Time} {fact : AssetFact} (member : fact ∈ tables.facts.rows)
    (inTable : ∀ claim ∈ live, claim ∈ tables.facts.rows) (other : ∀ claim ∈ live, claim ≠ fact) :
    fact ∈ (vacated tables.facts now live).rows := by
  cases live with
  | none => exact member
  | some live =>
    refine (Table.stays_update member).mpr fun same => ?_
    exact absurd (Table.eq_of_key (inTable live rfl) member same.symm) (other live rfl)

theorem mem_vacatedEdges {live : Option AssetRelationship} {now : Time} {edge : AssetRelationship}
    (member : edge ∈ tables.relationships.rows) (inTable : ∀ claim ∈ live, claim ∈ tables.relationships.rows)
    (other : ∀ claim ∈ live, claim ≠ edge) : edge ∈ (vacatedEdges tables.relationships now live).rows := by
  cases live with
  | none => exact member
  | some live =>
    refine (Table.stays_update member).mpr fun same => ?_
    exact absurd (Table.eq_of_key (inTable live rfl) member same.symm) (other live rfl)

theorem spares_assertFact {assetId : Uuid} {payload : FactAssert} {answer : Asserted}
    (done : FactService.assertFact verdict python moment tables assetId payload = .ok (answer,next'))
    (yields : YieldsFact verdict python moment tables assetId payload) : Spares tables next' := by
  obtain ⟨asset,screened,found,passed,⟨live,claimed,same,accepted,rfl⟩ | ⟨live,facts,claimed,differs,lands,added,rfl⟩⟩ :=
    assertFact_ok done
  · refine ⟨fun fact member _ certain => ?_,fun _ member _ _ => member⟩
    refine (Table.stays_update member).mpr fun named => ?_
    cases Table.eq_of_key member (liveClaim_mem claimed).1 named
    have repeated := yields screened live (by simp [found]) passed claimed certain
    rw [if_pos same] at repeated
    exact touched_same.mpr (repeated accepted)
  · refine ⟨fun fact member _ certain => ?_,fun _ member _ _ => member⟩
    refine (Table.mem_insert added).mpr (.inl (mem_vacated member (fun claim named => ?_) fun claim named same => ?_))
    · exact (liveClaim_mem (claimed.trans named)).1
    · subst same
      cases (Table.find_eq_some.mp found).2
      have refused := yields screened claim (by simp [found]) passed (claimed.trans named) certain
      rw [if_neg (differs claim named)] at refused
      cases named
      exact refused lands

theorem spares_assertRelationship {payload : RelationshipAssert} {answer : AssertedEdge}
    (done : RelationshipService.assertRelationship verdict moment tables payload = .ok (answer,next'))
    (yields : YieldsEdge verdict moment tables payload) : Spares tables next' := by
  obtain ⟨guarded,⟨live,claimed,same,accepted,rfl⟩ | ⟨live,relationships,claimed,differs,lands,added,rfl⟩⟩ :=
    assertRelationship_ok done
  · refine ⟨fun _ member _ _ => member,fun edge member _ certain => ?_⟩
    refine (Table.stays_update member).mpr fun named => ?_
    cases Table.eq_of_key member (liveEdge_mem claimed).1 named
    have repeated := yields live guarded claimed certain
    rw [if_pos same] at repeated
    exact touchedEdge_same.mpr (repeated accepted)
  · refine ⟨fun _ member _ _ => member,fun edge member _ certain => ?_⟩
    refine (Table.mem_insert added).mpr (.inl (mem_vacatedEdges member (fun claim named => ?_) fun claim named same => ?_))
    · exact (liveEdge_mem (claimed.trans named)).1
    · subst same
      have refused := yields claim guarded (claimed.trans named) certain
      rw [if_neg (differs claim named)] at refused
      cases named
      exact refused lands

end Spared

section Displaced

variable {verdict : Verdict} {python : Python} {moment : Moment} {tables : Tables}

theorem yieldsFact_of_spares {assetId : Uuid} {payload : FactAssert}
    (spared : Spares tables (next verdict python tables ⟨.claim (.assertFact assetId payload),moment⟩)) :
    YieldsFact verdict python moment tables assetId payload := by
  intro screened live exists' passed claimed certain
  obtain ⟨asset,found⟩ := Option.isSome_iff_exists.mp exists'
  cases (Table.find_eq_some.mp found).2
  obtain ⟨member,open'⟩ := liveClaim_mem claimed
  split
  · rename_i same
    intro accepted
    obtain ⟨answer,made⟩ := assertFact_touches found passed claimed same accepted
    rw [next_assertFact made] at spared
    exact touched_same.mp ((Table.stays_update member).mp (spared.facts live member open' certain) rfl)
  · rename_i differs
    intro lands
    obtain ⟨answer,facts,added,made⟩ := assertFact_lands found passed claimed (by simpa using differs) lands
    rw [next_assertFact made] at spared
    have closed : (FactService.close moment.now).change live ∈ (vacated tables.facts moment.now (some live)).rows :=
      Table.mem_update.mpr ⟨live,member,.inl ⟨rfl,rfl⟩⟩
    rcases (Table.mem_insert added).mp (spared.facts live member open' certain) with kept | same
    · exact closed_changed open' ((Table.stays_update member).mp kept rfl)
    · have taken : live.id = _ := congrArg AssetFact.id same
      exact (Table.insert_eq_some added).1 _ closed taken

theorem yieldsEdge_of_spares {payload : RelationshipAssert}
    (spared : Spares tables (next verdict python tables ⟨.claim (.assertRelationship payload),moment⟩)) :
    YieldsEdge verdict moment tables payload := by
  intro live guarded claimed certain
  obtain ⟨member,open'⟩ := liveEdge_mem claimed
  split
  · rename_i same
    intro accepted
    obtain ⟨answer,made⟩ := assertRelationship_touches guarded claimed same accepted
    rw [next_assertRelationship made] at spared
    exact touchedEdge_same.mp ((Table.stays_update member).mp (spared.relationships live member open' certain) rfl)
  · rename_i differs
    intro lands
    obtain ⟨answer,relationships,added,made⟩ := assertRelationship_lands guarded claimed (by simpa using differs) lands
    rw [next_assertRelationship made] at spared
    have closed : (RelationshipService.close moment.now).change live ∈
        (vacatedEdges tables.relationships moment.now (some live)).rows := Table.mem_update.mpr ⟨live,member,.inl ⟨rfl,rfl⟩⟩
    rcases (Table.mem_insert added).mp (spared.relationships live member open' certain) with kept | same
    · exact closedEdge_changed open' ((Table.stays_update member).mp kept rfl)
    · have taken : live.id = _ := congrArg AssetRelationship.id same
      exact (Table.insert_eq_some added).1 _ closed taken

end Displaced

/-- The step lemma: an inference spares the other claims exactly when it finds none to displace. -/
theorem spares_iff {verdict : Verdict} {python : Python} {tables : Tables} {op : Operation} :
    (Infers op → Spares tables (next verdict python tables op)) ↔ Yields verdict python tables op := by
  obtain ⟨request,moment⟩ := op
  cases request with
  | asset request => exact ⟨fun _ => trivial,fun _ inferred => inferred.elim⟩
  | claim request => cases request with
    | assertFact assetId payload =>
      constructor
      · intro spared inferred
        exact yieldsFact_of_spares (spared inferred)
      · intro yields inferred
        refine settle_preserves (Spares tables) (fun state done => ?_) (spares_refl tables)
        obtain ⟨⟨answer,state⟩,ok,rfl⟩ := map_ok done
        exact spares_assertFact ok (yields inferred)
    | assertRelationship payload =>
      constructor
      · intro spared inferred
        exact yieldsEdge_of_spares (spared inferred)
      · intro yields inferred
        refine settle_preserves (Spares tables) (fun state done => ?_) (spares_refl tables)
        obtain ⟨⟨answer,state⟩,ok,rfl⟩ := map_ok done
        exact spares_assertRelationship ok (yields inferred)
    | createDesired occurredAt assetId payload principal derivedFrom requestId =>
      exact ⟨fun _ => trivial,fun _ inferred => inferred.elim⟩
    | transition occurredAt factId action principal reason requestId =>
      exact ⟨fun _ => trivial,fun _ inferred => inferred.elim⟩
    | retireRelationship relationshipId => exact ⟨fun _ => trivial,fun _ inferred => inferred.elim⟩

/-- Along any run, the assertions of an inference spare every other live claim exactly when
each yields to the claim it finds under its source's id. -/
theorem inference_spares (verdict : Verdict) (python : Python) (tables : Tables) (ops : List Operation) :
    Along (next verdict python) (fun state op => Infers op → Spares state (next verdict python state op)) tables ops ↔
      Along (next verdict python) (Yields verdict python) tables ops :=
  along_congr (fun _ => True) (fun _ _ _ => spares_iff) (fun _ _ _ => trivial) trivial

def inferredOver : List Operation := [asserting 1 100 1 (memory 5 .liveDiscovery),asserting 2 110 1 (memory 6 .aiInference)]

/-- A reading from discovery, and then an inference under the same source's id. -/
theorem inference_displaces :
    ∃ fact ∈ (after Tables.violation labPython labTables (inferredOver.take 1)).facts.rows, fact.Live ∧ ¬ fact.IsInference ∧
      ∃ later ∈ (after Tables.violation labPython labTables inferredOver).facts.rows, later.id = fact.id ∧ ¬ later.Live := by
  decide +kernel

end Acop.Cmdb
