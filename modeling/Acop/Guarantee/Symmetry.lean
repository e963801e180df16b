import Acop.Cmdb.Compliance
import Acop.Cmdb.Neighbours
import Acop.Guarantee.Links

/-! Both sides of an edge. A symmetric relationship is one row whichever end asserts it, a directed
one keeps its direction, and each live edge is listed once on either side. -/
namespace Acop.Cmdb
open Acop.Store Acop.Serial Acop.Selection

section Sides

def RelationshipAssert.swapped (payload : RelationshipAssert) : RelationshipAssert :=
  {payload with sourceAssetId := payload.targetAssetId,targetAssetId := payload.sourceAssetId}

def AssetRelationship.Symmetric (edge : AssetRelationship) : Prop := (relationshipSpecs edge.relationshipType).symmetric

/-- The two edges join the same assets, in whatever direction. -/
def AssetRelationship.SameEnds (first second : AssetRelationship) : Prop :=
  (first.sourceAssetId = second.sourceAssetId ∧ first.targetAssetId = second.targetAssetId) ∨
    (first.sourceAssetId = second.targetAssetId ∧ first.targetAssetId = second.sourceAssetId)

def Declared (tables : Tables) : Prop :=
  ∀ edge ∈ tables.relationships.rows, edge.isSymmetric = (relationshipSpecs edge.relationshipType).symmetric

def Permitted (tables : Tables) (payload : RelationshipAssert) : Prop :=
  ∃ source target, tables.assets.find payload.sourceAssetId = some source ∧
    tables.assets.find payload.targetAssetId = some target ∧
    (relationshipSpecs payload.relationshipType).permits source.assetType target.assetType

/-- What an assertion leaves, but for whether it turned the ends round. -/
def outcome (done : AssertedEdge × Tables) : AssertOutcome × AssetRelationship × Tables :=
  (done.1.outcome,done.1.edge,done.2)

/-- The neighbours of an asset hold one entry for an edge: the other asset, under a label. -/
def ListedOnce (tables : Tables) (edge : AssetRelationship) (assetId otherId : Uuid) (label : String) : Prop :=
  ∃ items item, RelationshipService.neighbours tables assetId = .ok items ∧
    items.filter (fun item => item.relationshipId = edge.id) = [item] ∧ item.assetId = otherId ∧ item.label = label ∧
      item.qualifier = edge.qualifier ∧ item.sourceId = edge.sourceId

/-- The edge of which an entry is the view from an asset. -/
def ViewOf (edge : AssetRelationship) (assetId : Uuid) (item : Neighbour) : Prop :=
  edge.Live ∧ edge.id = item.relationshipId ∧ ((edge.sourceAssetId = assetId ∧ edge.targetAssetId = item.assetId) ∨
    (edge.targetAssetId = assetId ∧ edge.sourceAssetId = item.assetId))

/-- What a state does with the two ends of an edge. -/
structure TwoSided (verdict : Verdict) (python : Python) (tables : Tables) : Prop where
  /-- Whichever end asserts a symmetric relationship, the tables after are the same. -/
  swapped : ∀ moment payload, (relationshipSpecs payload.relationshipType).symmetric →
    next verdict python tables ⟨.claim (.assertRelationship payload.swapped),moment⟩ =
      next verdict python tables ⟨.claim (.assertRelationship payload),moment⟩
  /-- So are the answers, where the type joins the assets. -/
  answered : ∀ moment payload, (relationshipSpecs payload.relationshipType).symmetric → Permitted tables payload →
    (RelationshipService.assertRelationship verdict moment tables payload.swapped).map outcome =
      (RelationshipService.assertRelationship verdict moment tables payload).map outcome
  /-- A symmetric relationship is live once for its assets, qualifier and source. -/
  single : ∀ first ∈ tables.relationships.rows, ∀ second ∈ tables.relationships.rows, first.Live → second.Live →
    first.Symmetric → first.relationshipType = second.relationshipType → first.SameEnds second →
    first.qualifier.getD "" = second.qualifier.getD "" → first.sourceId = second.sourceId → first = second
  /-- A live edge reads as its label from its source and as the inverse from its target. -/
  listed : ∀ edge ∈ tables.relationships.rows, edge.Live →
    ListedOnce tables edge edge.sourceAssetId edge.targetAssetId edge.relationshipType.value ∧
      ListedOnce tables edge edge.targetAssetId edge.sourceAssetId edge.relationshipType.inverseLabel
  /-- From the two sides of a directed edge the labels differ. -/
  told : ∀ type, ¬ (relationshipSpecs type).symmetric → type.inverseLabel ≠ type.value
  /-- Nothing else is listed. -/
  nothing : ∀ assetId items, RelationshipService.neighbours tables assetId = .ok items →
    ∀ item ∈ items, ∃ edge ∈ tables.relationships.rows, ViewOf edge assetId item
  /-- A directed relationship is asserted in its own direction, and its opposite stays as it was. -/
  directed : ∀ moment payload answer later, ¬ (relationshipSpecs payload.relationshipType).symmetric →
    RelationshipService.assertRelationship verdict moment tables payload = .ok (answer,later) →
    answer.edge.sourceAssetId = payload.sourceAssetId ∧ answer.edge.targetAssetId = payload.targetAssetId ∧
      ∀ edge : AssetRelationship, edge.pair = payload.swapped.pair →
        (edge ∈ tables.relationships.rows ↔ edge ∈ later.relationships.rows)

end Sides

section Ends

variable {verdict : Verdict} {python : Python} {moment : Moment} {tables : Tables} {payload : RelationshipAssert}

theorem endpoints_swapped (symmetric : (relationshipSpecs payload.relationshipType).symmetric) :
    RelationshipService.endpoints payload.swapped = RelationshipService.endpoints payload := by
  unfold RelationshipService.endpoints RelationshipAssert.swapped
  dsimp only
  rcases Nat.lt_trichotomy payload.sourceAssetId.toNat payload.targetAssetId.toNat with less | same | more
  · rw [if_pos ⟨symmetric,less⟩,if_neg fun other => absurd other.2 (Nat.lt_asymm less)]
  · rw [if_neg fun other => absurd other.2 (by omega),if_neg fun other => absurd other.2 (by omega),BitVec.eq_of_toNat_eq same]
  · rw [if_neg fun other => absurd other.2 (Nat.lt_asymm more),if_pos ⟨symmetric,more⟩]

theorem endpoints_directed (directed : ¬ (relationshipSpecs payload.relationshipType).symmetric) :
    RelationshipService.endpoints payload = (payload.sourceAssetId,payload.targetAssetId) :=
  if_neg fun both => directed both.1

theorem permits_swapped {type : RelationshipType} (symmetric : (relationshipSpecs type).symmetric) (source target : AssetType) :
    (relationshipSpecs type).permits target source = (relationshipSpecs type).permits source target := by
  have ends : (relationshipSpecs type).sources = (relationshipSpecs type).targets := by
    cases type <;> first | rfl | cases symmetric
  simp only [EdgeSpec.permits,ends,Bool.and_comm]

theorem inverseLabel_symmetric {type : RelationshipType} (symmetric : (relationshipSpecs type).symmetric) :
    type.inverseLabel = type.value := by
  cases type <;> first | rfl | cases symmetric

theorem inverseLabel_directed {type : RelationshipType} (directed : ¬ (relationshipSpecs type).symmetric) :
    type.inverseLabel ≠ type.value := by
  cases type <;> first | decide | exact absurd rfl directed

theorem guardEndpoints_swapped (symmetric : (relationshipSpecs payload.relationshipType).symmetric) :
    RelationshipService.guardEndpoints tables payload.swapped = .ok () ↔
      RelationshipService.guardEndpoints tables payload = .ok () := by
  unfold RelationshipService.guardEndpoints RelationshipAssert.swapped
  dsimp only
  by_cases same : payload.sourceAssetId = payload.targetAssetId
  · rw [if_pos same,if_pos same.symm]
  · rw [if_neg same,if_neg fun other => same other.symm]
    cases source : tables.assets.find payload.sourceAssetId <;> cases target : tables.assets.find payload.targetAssetId
    case some.some first second =>
      simp only [requireAsset_eq source,requireAsset_eq target,ok_bind,permits_swapped symmetric]
      split <;> simp_all
    all_goals simp [requireAsset,source,target,bind,Except.bind]

theorem liveEdge_swapped (symmetric : (relationshipSpecs payload.relationshipType).symmetric) :
    RelationshipService.liveEdge tables payload.swapped = RelationshipService.liveEdge tables payload := by
  unfold RelationshipService.liveEdge
  rw [endpoints_swapped symmetric]
  rfl

theorem newEdge_swapped (symmetric : (relationshipSpecs payload.relationshipType).symmetric) (supersedes : Option Uuid) :
    RelationshipService.newEdge moment payload.swapped supersedes = RelationshipService.newEdge moment payload supersedes := by
  unfold RelationshipService.newEdge
  rw [endpoints_swapped symmetric]
  rfl

theorem outcome_swapped (symmetric : (relationshipSpecs payload.relationshipType).symmetric)
    (guarded : RelationshipService.guardEndpoints tables payload = .ok ()) :
    (RelationshipService.assertRelationship verdict moment tables payload.swapped).map outcome =
      (RelationshipService.assertRelationship verdict moment tables payload).map outcome := by
  unfold RelationshipService.assertRelationship
  rw [guarded,(guardEndpoints_swapped symmetric).mpr guarded]
  simp only [ok_bind,liveEdge_swapped symmetric,newEdge_swapped symmetric]
  cases RelationshipService.liveEdge tables payload with
  | none =>
    dsimp only
    cases RelationshipService.insertEdge tables (RelationshipService.newEdge moment payload none) with
    | error => rfl
    | ok inserted =>
      simp only [ok_bind]
      cases flush verdict inserted <;> rfl
  | some live =>
    have qualifier : payload.swapped.qualifier = payload.qualifier := rfl
    have confidence : payload.swapped.confidence = payload.confidence := rfl
    dsimp only
    simp only [qualifier,confidence]
    by_cases same : live.qualifier.getD "" = payload.qualifier.getD ""
    · simp only [if_pos same]
      cases flush verdict _ <;> rfl
    · simp only [if_neg same]
      cases flush verdict _ with
      | error => rfl
      | ok closed =>
        simp only [ok_bind]
        cases RelationshipService.insertEdge closed _ with
        | error => rfl
        | ok inserted =>
          simp only [ok_bind]
          cases flush verdict inserted <;> rfl

theorem answered_swapped (symmetric : (relationshipSpecs payload.relationshipType).symmetric) (permitted : Permitted tables payload) :
    (RelationshipService.assertRelationship verdict moment tables payload.swapped).map outcome =
      (RelationshipService.assertRelationship verdict moment tables payload).map outcome := by
  obtain ⟨source,target,found,foundTarget,permits⟩ := permitted
  by_cases same : payload.sourceAssetId = payload.targetAssetId
  · have turned : payload.swapped = payload := by
      cases payload
      cases same
      rfl
    rw [turned]
  · refine outcome_swapped symmetric ?_
    rw [RelationshipService.guardEndpoints,if_neg same,requireAsset_eq found,requireAsset_eq foundTarget]
    simp only [ok_bind,permits,not_true_eq_false,if_false]

theorem next_swapped (symmetric : (relationshipSpecs payload.relationshipType).symmetric) :
    next verdict python tables ⟨.claim (.assertRelationship payload.swapped),moment⟩ =
      next verdict python tables ⟨.claim (.assertRelationship payload),moment⟩ := by
  cases guarded : RelationshipService.guardEndpoints tables payload with
  | ok =>
    have same : (RelationshipService.assertRelationship verdict moment tables payload.swapped).map outcome =
        (RelationshipService.assertRelationship verdict moment tables payload).map outcome := outcome_swapped symmetric guarded
    unfold next settle attempt
    dsimp only
    generalize RelationshipService.assertRelationship verdict moment tables payload.swapped = first at same ⊢
    generalize RelationshipService.assertRelationship verdict moment tables payload = second at same ⊢
    cases first <;> cases second <;> simp_all [outcome,Except.map,bind,Except.bind]
  | error refusal =>
    cases swapped : RelationshipService.guardEndpoints tables payload.swapped with
    | ok => exact nomatch guarded.symm.trans ((guardEndpoints_swapped symmetric).mp swapped)
    | error other =>
      simp [next,settle,attempt,RelationshipService.assertRelationship,guarded,swapped,bind,Except.bind]

end Ends

section Views

variable {tables : Tables} {edge : AssetRelationship}

theorem ends_differ (sound : SoundElsewhere tables) (member : edge ∈ tables.relationships.rows) :
    edge.sourceAssetId ≠ edge.targetAssetId := by
  have passed := sound.relationships edge member (.noSelf,edge.sourceAssetId ≠ edge.targetAssetId)
    (by simp [AssetRelationship.checks])
  simpa using passed

theorem ends_ordered (sound : SoundElsewhere tables) (declared : Declared tables)
    (member : edge ∈ tables.relationships.rows) (symmetric : edge.Symmetric) :
    edge.sourceAssetId.toNat < edge.targetAssetId.toNat := by
  have passed := sound.relationships edge member
    (.symmetricOrder,!edge.isSymmetric || edge.sourceAssetId.toNat < edge.targetAssetId.toNat)
    (by simp [AssetRelationship.checks])
  have marked : edge.isSymmetric = true := (declared edge member).trans symmetric
  simpa [marked] using passed

theorem same_live (sound : SoundElsewhere tables) {first second : AssetRelationship}
    (inFirst : first ∈ tables.relationships.rows) (inSecond : second ∈ tables.relationships.rows)
    (liveFirst : first.Live) (liveSecond : second.Live) (same : sameEdge first second) : first = second := by
  by_contra different
  have apart' := sound.live
  simp only [apart,decide_eq_true_eq] at apart'
  have flips : Std.Symm fun one other : AssetRelationship =>
      (sameEdge one other && one.validTo = none && other.validTo = none) = false := by
    constructor
    intro one other clash
    simp only [sameEdge,Bool.and_eq_false_iff,decide_eq_false_iff_not] at clash ⊢
    tauto
  have clash := apart'.forall inFirst inSecond different
  have open₁ : first.validTo = none := liveFirst
  have open₂ : second.validTo = none := liveSecond
  simp [same,open₁,open₂] at clash

theorem single_symmetric (sound : SoundElsewhere tables) (declared : Declared tables) {first second : AssetRelationship}
    (inFirst : first ∈ tables.relationships.rows) (inSecond : second ∈ tables.relationships.rows)
    (liveFirst : first.Live) (liveSecond : second.Live) (symmetric : first.Symmetric)
    (type : first.relationshipType = second.relationshipType) (ends : first.SameEnds second)
    (qualifier : first.qualifier.getD "" = second.qualifier.getD "") (author : first.sourceId = second.sourceId) :
    first = second := by
  have symmetric' : second.Symmetric := by
    unfold AssetRelationship.Symmetric at symmetric ⊢
    rwa [← type]
  have order := ends_ordered sound declared inFirst symmetric
  have order' := ends_ordered sound declared inSecond symmetric'
  rcases ends with ⟨source,target⟩ | ⟨source,target⟩
  · exact same_live sound inFirst inSecond liveFirst liveSecond (by simp [sameEdge,source,target,type,qualifier,author])
  · rw [source,target] at order
    omega

theorem found_of_hasAsset {id : Uuid} (there : tables.hasAsset id) : ∃ asset, tables.assets.find id = some asset ∧ asset.id = id := by
  obtain ⟨asset,found⟩ := Option.isSome_iff_exists.mp there
  exact ⟨asset,found,(Table.find_eq_some.mp found).2⟩

theorem mem_listed {assetId : Uuid} : edge ∈ RelationshipService.listRelationships tables (some assetId) none .both false ↔
    edge ∈ tables.relationships.rows ∧ edge.Live ∧ (edge.sourceAssetId = assetId ∨ edge.targetAssetId = assetId) := by
  simp [RelationshipService.listRelationships,AssetRelationship.touches,AssetRelationship.Live]

theorem neighbours_eq {assetId : Uuid} {asset : Asset} (found : tables.assets.find assetId = some asset) :
    RelationshipService.neighbours tables assetId = .ok (ordered (fun item => toLex (item.label,item.displayName))
      ((RelationshipService.listRelationships tables (some assetId) none .both false).filterMap fun edge =>
        (tables.assets.find (RelationshipService.otherId assetId edge)).map (RelationshipService.seenFrom assetId edge))) := by
  rw [RelationshipService.neighbours,requireAsset_eq found]
  rfl

theorem filter_seen (assetId id : Uuid) (edges : List AssetRelationship) :
    (edges.filterMap fun edge => (tables.assets.find (RelationshipService.otherId assetId edge)).map
        (RelationshipService.seenFrom assetId edge)).filter (fun item => item.relationshipId = id) =
      (edges.filter fun edge => edge.id = id).filterMap fun edge =>
        (tables.assets.find (RelationshipService.otherId assetId edge)).map (RelationshipService.seenFrom assetId edge) := by
  rw [List.filter_filterMap,List.filterMap_filter]
  congr 1
  funext edge
  cases tables.assets.find (RelationshipService.otherId assetId edge) <;> simp [RelationshipService.seenFrom,Option.filter]

theorem entries_once (sound : SoundElsewhere tables) (member : edge ∈ tables.relationships.rows) (live : edge.Live) {assetId : Uuid}
    (touches : edge.sourceAssetId = assetId ∨ edge.targetAssetId = assetId) :
    ∃ items other, RelationshipService.neighbours tables assetId = .ok items ∧
      other.id = RelationshipService.otherId assetId edge ∧
      items.filter (fun item => item.relationshipId = edge.id) = [RelationshipService.seenFrom assetId edge other] := by
  obtain ⟨source,target⟩ := sound.joined edge member
  have here : ∃ asset, tables.assets.find assetId = some asset ∧ asset.id = assetId := by
    rcases touches with rfl | rfl
    · exact found_of_hasAsset source
    · exact found_of_hasAsset target
  have there : tables.hasAsset (RelationshipService.otherId assetId edge) := by
    unfold RelationshipService.otherId
    split
    · exact target
    · exact source
  obtain ⟨asset,found,_⟩ := here
  obtain ⟨other,foundOther,named⟩ := found_of_hasAsset there
  refine ⟨_,other,neighbours_eq found,named,?_⟩
  refine List.perm_singleton.mp (((ordered_perm _ _).filter _).trans (List.Perm.of_eq ?_))
  have distinct : ((RelationshipService.listRelationships tables (some assetId) none .both false).map
      AssetRelationship.id).Nodup := by
    rw [RelationshipService.listRelationships,((ordered_perm _ _).map _).nodup_iff]
    exact (List.filter_sublist.map _).nodup tables.relationships.distinct
  rw [filter_seen,filter_key distinct (mem_listed.mpr ⟨member,live,touches⟩),List.filterMap_cons,foundOther]
  rfl

theorem listed_source (sound : SoundElsewhere tables) (member : edge ∈ tables.relationships.rows) (live : edge.Live) :
    ListedOnce tables edge edge.sourceAssetId edge.targetAssetId edge.relationshipType.value := by
  obtain ⟨items,other,answered,named,once⟩ := entries_once sound member live (.inl rfl)
  refine ⟨items,_,answered,once,?_,?_,rfl,rfl⟩
  · exact named.trans (if_pos rfl)
  · simp [RelationshipService.seenFrom]

theorem listed_target (sound : SoundElsewhere tables) (member : edge ∈ tables.relationships.rows) (live : edge.Live) :
    ListedOnce tables edge edge.targetAssetId edge.sourceAssetId edge.relationshipType.inverseLabel := by
  obtain ⟨items,other,answered,named,once⟩ := entries_once sound member live (.inr rfl)
  have differ := ends_differ sound member
  refine ⟨items,_,answered,once,?_,?_,rfl,rfl⟩
  · exact named.trans (if_neg differ)
  · by_cases symmetric : (relationshipSpecs edge.relationshipType).symmetric
    · simp [RelationshipService.seenFrom,symmetric,inverseLabel_symmetric symmetric]
    · simp [RelationshipService.seenFrom,symmetric,differ]

theorem view_of_listed {assetId : Uuid} {items : List Neighbour} (answered : RelationshipService.neighbours tables assetId = .ok items)
    {item : Neighbour} (inItems : item ∈ items) : ∃ edge ∈ tables.relationships.rows, ViewOf edge assetId item := by
  cases found : tables.assets.find assetId with
  | none =>
    simp [RelationshipService.neighbours,requireAsset,found,bind,Except.bind] at answered
  | some asset =>
    cases (neighbours_eq found).symm.trans answered
    obtain ⟨edge,listed,seen⟩ := List.mem_filterMap.mp ((mem_ordered _).mp inItems)
    obtain ⟨other,foundOther,rfl⟩ := Option.map_eq_some_iff.mp seen
    obtain ⟨member,live,touches⟩ := mem_listed.mp listed
    have named : other.id = RelationshipService.otherId assetId edge := (Table.find_eq_some.mp foundOther).2
    refine ⟨edge,member,live,rfl,?_⟩
    by_cases outbound : edge.sourceAssetId = assetId
    · exact .inl ⟨outbound,(named.trans (if_pos outbound)).symm⟩
    · exact .inr ⟨touches.resolve_left outbound,(named.trans (if_neg outbound)).symm⟩

end Views

section Runs

variable {verdict : Verdict} {python : Python} {moment : Moment} {tables next' : Tables} {payload : RelationshipAssert}

theorem declared_of_rows {relationships : List AssetRelationship}
    (kept : ∀ row ∈ relationships, ∃ old ∈ tables.relationships.rows,
      row.isSymmetric = old.isSymmetric ∧ row.relationshipType = old.relationshipType)
    (declared : Declared tables) : ∀ row ∈ relationships, row.isSymmetric = (relationshipSpecs row.relationshipType).symmetric := by
  intro row member
  obtain ⟨old,inOld,marked,type⟩ := kept row member
  rw [marked,type]
  exact declared old inOld

theorem declared_attempt {op : Operation} (done : attempt verdict python tables op = .ok next') (declared : Declared tables) :
    Declared next' := by
  have revised : ∀ which now, ∀ row ∈ (tables.relationships.revise which (RelationshipService.close now)).rows,
      ∃ old ∈ tables.relationships.rows, row.isSymmetric = old.isSymmetric ∧ row.relationshipType = old.relationshipType := by
    intro which now row member
    obtain ⟨old,inOld,⟨_,rfl⟩ | ⟨_,rfl⟩⟩ := Table.mem_revise.mp member
    · exact ⟨old,inOld,rfl,rfl⟩
    · exact ⟨row,inOld,rfl,rfl⟩
  rcases attempt_edges done with same | ⟨which,same⟩ | ⟨payload,answer,_,ok⟩
  · rwa [Declared,same]
  · rw [Declared,same]
    exact declared_of_rows (revised which _) declared
  · obtain ⟨_,⟨live,_,_,_,rfl⟩ | ⟨live,relationships,rfl,_,_,added,rfl⟩⟩ := assertRelationship_ok ok
    · intro row member
      obtain ⟨old,inOld,⟨_,rfl⟩ | ⟨_,rfl⟩⟩ := Table.mem_update.mp member
      · exact declared old inOld
      · exact declared row inOld
    · intro row member
      rcases (Table.mem_insert added).mp member with inOld | rfl
      · refine declared_of_rows ?_ declared row inOld
        cases RelationshipService.liveEdge tables payload with
        | none => exact fun row member => ⟨row,member,rfl,rfl⟩
        | some live => exact revised _ _
      · rfl

theorem declared_after {start : Tables} (declared : Declared start) (ops : List Operation) :
    Declared (after verdict python start ops) := by
  have step : ∀ state op, True → Declared state → Declared (next verdict python state op) := fun state op _ declared =>
    settle_preserves Declared (fun _ done => declared_attempt done declared) declared
  exact run_preserves step (along_of_forall (fun _ _ => trivial) start ops) declared

theorem answer_pair {answer : AssertedEdge}
    (done : RelationshipService.assertRelationship verdict moment tables payload = .ok (answer,next')) :
    answer.edge.pair = payload.pair := by
  obtain ⟨⟨⟩,_,done⟩ := bind_ok done
  cases claimed : RelationshipService.liveEdge tables payload with
  | none =>
    simp only [claimed] at done
    obtain ⟨_,_,done⟩ := bind_ok done
    obtain ⟨_,_,done⟩ := bind_ok done
    cases done
    exact newEdge_pair _
  | some live =>
    simp only [claimed] at done
    by_cases same : live.qualifier.getD "" = payload.qualifier.getD ""
    · rw [if_pos same] at done
      obtain ⟨_,_,done⟩ := bind_ok done
      cases done
      exact (liveEdge_some claimed).2.1
    · rw [if_neg same] at done
      obtain ⟨_,_,done⟩ := bind_ok done
      obtain ⟨_,_,done⟩ := bind_ok done
      obtain ⟨_,_,done⟩ := bind_ok done
      cases done
      exact newEdge_pair _

theorem directed_assert {answer : AssertedEdge} (directed : ¬ (relationshipSpecs payload.relationshipType).symmetric)
    (done : RelationshipService.assertRelationship verdict moment tables payload = .ok (answer,next')) :
    answer.edge.sourceAssetId = payload.sourceAssetId ∧ answer.edge.targetAssetId = payload.targetAssetId ∧
      ∀ edge : AssetRelationship, edge.pair = payload.swapped.pair →
        (edge ∈ tables.relationships.rows ↔ edge ∈ next'.relationships.rows) := by
  have ends := endpoints_directed directed
  have pair := answer_pair done
  simp only [AssetRelationship.pair,RelationshipAssert.pair,ends,Prod.mk.injEq] at pair
  refine ⟨pair.2.1,pair.2.2.1,fun edge opposite => stays_assert done ?_⟩
  have apart' : payload.sourceAssetId ≠ payload.targetAssetId := by
    intro same
    have guarded := (assertRelationship_ok done).1
    rw [RelationshipService.guardEndpoints,if_pos same] at guarded
    cases guarded
  have swappedEnds : RelationshipService.endpoints payload.swapped = (payload.targetAssetId,payload.sourceAssetId) :=
    if_neg fun both => directed both.1
  intro same
  have crossed := opposite.symm.trans same
  simp only [RelationshipAssert.pair,ends,swappedEnds,Prod.mk.injEq] at crossed
  exact apart' crossed.2.1.symm

/-- In every state that a run reaches, a symmetric relationship is one row whichever end asserts it, each live edge
is listed once on either side under its label and its inverse, and a directed edge keeps its direction. -/
theorem relationships_two_sided {start : Tables} (accepted : start.violation = none) (declared : Declared start)
    (ops : List Operation) : TwoSided Tables.violation python (after Tables.violation python start ops) := by
  have kept : (after Tables.violation python start ops).violation = none := accepted_after accepted ops
  have sound := (violation_none.mp kept).1
  have marked : Declared (after Tables.violation python start ops) := declared_after declared ops
  exact {
    swapped := fun _ _ => next_swapped
    answered := fun _ _ => answered_swapped
    single := fun _ inFirst _ inSecond => single_symmetric sound marked inFirst inSecond
    listed := fun _ member live => ⟨listed_source sound member live,listed_target sound member live⟩
    told := fun _ => inverseLabel_directed
    nothing := fun _ _ answered _ => view_of_listed answered
    directed := fun _ _ _ _ => directed_assert}

end Runs

section Laboratory

/-- The cable between the two switches, asserted from either of them. -/
theorem cable_two_sided : TwoSided Tables.violation labPython
    (after Tables.violation labPython labSwitches [linking firstLink]) :=
  relationships_two_sided (by decide +kernel) (fun _ member => absurd member List.not_mem_nil) [linking firstLink]

end Laboratory

end Acop.Cmdb
