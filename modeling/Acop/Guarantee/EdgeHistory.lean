import Acop.Guarantee.FactHistory
import Acop.Guarantee.Links

/-! The history of edges: of those of one type, pair of endpoints and source at most one is live, their intervals
are in order, and one that takes the place of another names it and begins where it ended. -/
namespace Acop.Cmdb
open Acop.Store Acop.Serial

/-- An edge's lineage is what the lookup goes by: its type, endpoints and source. -/
def edgeClaims : Claims AssetRelationship (RelationshipType × Uuid × Uuid × String) Uuid Time where
  lineage edge := edge.pair
  id edge := edge.id
  opened edge := edge.validFrom
  closed edge := edge.validTo
  supersedes edge := edge.supersedesRelId

structure Drawn (old new : AssetRelationship) : Prop where
  id : new.id = old.id
  link : new.link = old.link
  symmetric : new.isSymmetric = old.isSymmetric
  sourceType : new.sourceType = old.sourceType
  statementClass : new.statementClass = old.statementClass
  opened : new.validFrom = old.validFrom
  supersedes : new.supersedesRelId = old.supersedesRelId

instance : Std.Refl Drawn := ⟨fun _ => ⟨rfl,rfl,rfl,rfl,rfl,rfl,rfl⟩⟩

instance : IsTrans AssetRelationship Drawn where
  trans _ _ _ early late := ⟨late.id.trans early.id,late.link.trans early.link,late.symmetric.trans early.symmetric,
    late.sourceType.trans early.sourceType,late.statementClass.trans early.statementClass,late.opened.trans early.opened,
    late.supersedes.trans early.supersedes⟩

/-- A history of edges up to a moment, grown from earlier tables. -/
abbrev Charted (old new : Table AssetRelationship.id) (now : Time) : Prop := Continued edgeClaims Drawn old new now

section Steps

variable {edges edges' : Table AssetRelationship.id} {now : Time}

theorem drawn_touch (confidence : Rat) (edge : AssetRelationship) :
    Drawn edge ((RelationshipService.touch now confidence).change edge) := ⟨rfl,rfl,rfl,rfl,rfl,rfl,rfl⟩

theorem drawn_close (edge : AssetRelationship) : Drawn edge ((RelationshipService.close now).change edge) :=
  ⟨rfl,rfl,rfl,rfl,rfl,rfl,rfl⟩

theorem charted_close {which : AssetRelationship → Bool} (history : History edgeClaims now edges.rows)
    (live : ∀ edge ∈ edges.rows, which edge → edge.Live) :
    Charted edges (edges.revise which (RelationshipService.close now)) now :=
  .revise history (fun edge _ _ => drawn_close edge) fun edge member chosen =>
    ⟨rfl,rfl,rfl,rfl,.inr ⟨live edge member chosen,rfl⟩⟩

theorem charted_touch {id : Uuid} {confidence : Rat} (history : History edgeClaims now edges.rows) :
    Charted edges (edges.update id (RelationshipService.touch now confidence)) now :=
  .revise history (fun edge _ _ => drawn_touch confidence edge) fun _ _ _ => ⟨rfl,rfl,rfl,rfl,.inl rfl⟩

theorem charted_insert {tables : Tables} {payload : RelationshipAssert} {edge : AssetRelationship}
    (history : History edgeClaims now tables.relationships.rows) (pair : edge.pair = payload.pair) (opened : edge.validFrom = now)
    (stillOpen : edge.validTo = none)
    (supersedes : edge.supersedesRelId = (RelationshipService.liveEdge tables payload).map (·.id))
    (added : (vacatedEdges tables.relationships now (RelationshipService.liveEdge tables payload)).insert edge = some edges') :
    Charted tables.relationships edges' now := by
  cases found : RelationshipService.liveEdge tables payload with
  | none =>
    rw [found] at added supersedes
    exact .start history opened stillOpen supersedes
      (fun old member same alive => liveEdge_none found old member alive (same.trans pair)) added
  | some live =>
    rw [found] at added supersedes
    obtain ⟨member,samePair,alive⟩ := liveEdge_some found
    exact .succeed rfl history member alive (drawn_close live) ⟨rfl,rfl,rfl,rfl,.inr ⟨alive,rfl⟩⟩ rfl opened stillOpen
      (samePair.trans pair.symm) supersedes added

variable {verdict : Verdict} {python : Python} {moment : Moment} {tables next' : Tables}

theorem charted_assert {payload : RelationshipAssert} {answer : AssertedEdge}
    (done : RelationshipService.assertRelationship verdict moment tables payload = .ok (answer,next'))
    (history : History edgeClaims moment.now tables.relationships.rows) :
    Charted tables.relationships next'.relationships moment.now := by
  obtain ⟨_,⟨live,_,_,_,rfl⟩ | ⟨live,edges,rfl,_,_,added,rfl⟩⟩ := assertRelationship_ok done
  · exact charted_touch history
  · exact charted_insert history rfl rfl rfl rfl added

theorem charted_retire {relationshipId : Uuid} {answer : AssetRelationship}
    (done : RelationshipService.retire verdict moment tables relationshipId = .ok (answer,next'))
    (history : History edgeClaims moment.now tables.relationships.rows) :
    Charted tables.relationships next'.relationships moment.now := by
  obtain ⟨rfl,edge,found,alive⟩ := retireRelationship_ok done
  obtain ⟨member,named⟩ := Table.find_eq_some.mp found
  refine charted_close history fun old inOld same => ?_
  cases Table.eq_of_key inOld member ((of_decide_eq_true same).trans named.symm)
  exact alive

theorem charted_retireAsset {assetId : Uuid} {answer : Nat × Nat}
    (done : AssetService.retire verdict moment tables assetId = .ok (answer,next'))
    (history : History edgeClaims moment.now tables.relationships.rows) :
    Charted tables.relationships next'.relationships moment.now := by
  obtain ⟨_,_,_,rfl⟩ := retire_ok done
  refine charted_close history fun edge _ live => ?_
  simp only [AssetService.liveEdgeOf,Bool.and_eq_true,decide_eq_true_eq] at live
  exact live.2

theorem charted_attempt {op : Operation} (done : attempt verdict python tables op = .ok next')
    (history : History edgeClaims op.moment.now tables.relationships.rows) :
    Charted tables.relationships next'.relationships op.moment.now := by
  obtain ⟨request,moment⟩ := op
  have unchanged : next'.relationships = tables.relationships → Charted tables.relationships next'.relationships moment.now := by
    intro same
    rw [same]
    exact .refl history
  cases request with
  | asset request => cases request with
    | create payload =>
      obtain ⟨⟨answer,state⟩,ok,rfl⟩ := map_ok done
      exact unchanged (claims_createAsset ok).2
    | resolve payload =>
      obtain ⟨⟨answer,state⟩,ok,rfl⟩ := map_ok done
      exact unchanged (claims_resolve ok).2
    | update assetId payload =>
      obtain ⟨asset,_,_,rfl⟩ := update_ok done
      exact unchanged rfl
    | retire assetId =>
      obtain ⟨⟨answer,state⟩,ok,rfl⟩ := map_ok done
      exact charted_retireAsset ok history
    | attachIdentifier assetId payload =>
      obtain ⟨⟨answer,state⟩,ok,rfl⟩ := map_ok done
      exact unchanged (claims_attachIdentifier ok).2
    | retireIdentifier identifierId =>
      obtain ⟨⟨answer,state⟩,ok,rfl⟩ := map_ok done
      cases retireIdentifier_ok ok
      exact unchanged rfl
  | claim request => cases request with
    | assertFact assetId payload =>
      obtain ⟨⟨answer,state⟩,ok,rfl⟩ := map_ok done
      obtain ⟨asset,screened,_,_,⟨live,_,_,_,rfl⟩ | ⟨live,facts,_,_,_,_,rfl⟩⟩ := assertFact_ok ok
      · exact unchanged rfl
      · exact unchanged rfl
    | createDesired occurredAt assetId payload principal derivedFrom requestId =>
      obtain ⟨⟨answer,state⟩,ok,rfl⟩ := map_ok done
      obtain ⟨_,_,_,_,_,_,_,_,_,_,_,_,rfl⟩ := createDesired_ok ok
      exact unchanged rfl
    | transition occurredAt factId action principal reason requestId =>
      obtain ⟨⟨answer,state⟩,ok,rfl⟩ := map_ok done
      obtain ⟨_,_,_,_,_,rfl⟩ := transition_ok ok
      exact unchanged rfl
    | assertRelationship payload =>
      obtain ⟨⟨answer,state⟩,ok,rfl⟩ := map_ok done
      exact charted_assert ok history
    | retireRelationship relationshipId =>
      obtain ⟨⟨answer,state⟩,ok,rfl⟩ := map_ok done
      exact charted_retire ok history

theorem charted_next {op : Operation} (history : History edgeClaims op.moment.now tables.relationships.rows) :
    Charted tables.relationships (next verdict python tables op).relationships op.moment.now := by
  have preserves : ∀ state, attempt verdict python tables op = .ok state →
      Charted tables.relationships state.relationships op.moment.now := fun state done => charted_attempt done history
  exact settle_preserves (fun state : Tables => Charted tables.relationships state.relationships op.moment.now) preserves
    (.refl history)

end Steps

/-- Whatever the operations of a run under a clock that does not go back, at every moment of it the edges of one type, pair of
endpoints and source are in order, at most one of them live and each successor begun where the edge it names ended; and what
was recorded of an edge then stands at the end. -/
theorem edge_history (verdict : Verdict) (python : Python) (tables : Tables) (began : Time) (earlier later : List Operation)
    (history : History edgeClaims began tables.relationships.rows)
    (clock : (began :: (earlier ++ later).map (·.moment.now)).Pairwise (· ≤ ·)) :
    History edgeClaims (clockAfter began earlier) (after verdict python tables earlier).relationships.rows ∧
      SingleLinks (after verdict python tables earlier) ∧
      Grows Drawn (after verdict python tables earlier).relationships
        (after verdict python tables (earlier ++ later)).relationships := by
  obtain ⟨told,grown⟩ := Continued.run_append Tables.relationships (fun op : Operation => op.moment.now)
    (fun _ _ told => charted_next told) history clock
  refine ⟨told,?_,grown⟩
  exact fun one inOne other inOther aliveOne aliveOther same => told.open_eq inOne inOther same aliveOne aliveOther

/-- Two links between the same switches, asserted one after the other, and the retirement of one of the switches. -/
theorem edge_history_lab :
    History edgeClaims 6 (after Tables.violation labPython labSwitches ([firstLink,secondLink].map linking)).relationships.rows ∧
      SingleLinks (after Tables.violation labPython labSwitches ([firstLink,secondLink].map linking)) ∧
      Grows Drawn (after Tables.violation labPython labSwitches ([firstLink,secondLink].map linking)).relationships
        (after Tables.violation labPython labSwitches ([firstLink,secondLink].map linking ++ [retiring 7 1])).relationships :=
  edge_history Tables.violation labPython labSwitches 0 ([firstLink,secondLink].map linking) [retiring 7 1] History.nil (by decide)

end Acop.Cmdb
