import Acop.Store.Single
import Acop.Cmdb.Effects
import Acop.Cmdb.Laboratory

/-! Links between two assets. The service keeps one live edge for each type, pair of endpoints and
source, so that an assertion leaves the other links alone exactly where no other is live. -/
namespace Acop.Cmdb
open Acop.Store Acop.Serial

section Links

def AssetRelationship.pair (edge : AssetRelationship) : RelationshipType × Uuid × Uuid × String :=
  (edge.relationshipType,edge.sourceAssetId,edge.targetAssetId,edge.sourceId)

def AssetRelationship.link (edge : AssetRelationship) : (RelationshipType × Uuid × Uuid × String) × String :=
  (edge.pair,edge.qualifier.getD "")

def RelationshipAssert.pair (payload : RelationshipAssert) : RelationshipType × Uuid × Uuid × String :=
  (payload.relationshipType,(RelationshipService.endpoints payload).1,(RelationshipService.endpoints payload).2,
    payload.sourceId)

def RelationshipAssert.link (payload : RelationshipAssert) : (RelationshipType × Uuid × Uuid × String) × String :=
  (payload.pair,payload.qualifier.getD "")

theorem pair_eq {first second : RelationshipAssert} (type : first.relationshipType = second.relationshipType)
    (source : first.sourceAssetId = second.sourceAssetId) (target : first.targetAssetId = second.targetAssetId)
    (author : first.sourceId = second.sourceId) : first.pair = second.pair := by
  simp only [RelationshipAssert.pair,RelationshipService.endpoints,type,source,target,author]

/-- At most one edge is live for each type, pair of endpoints and source. -/
def SingleLinks (tables : Tables) : Prop := Single AssetRelationship.Live AssetRelationship.pair tables.relationships.rows

def OneLive (tables : Tables) (link : (RelationshipType × Uuid × Uuid × String) × String) : Prop :=
  ∃ edge ∈ tables.relationships.rows, edge.Live ∧ edge.link = link ∧
    ∀ other ∈ tables.relationships.rows, other.Live → other.link = link → other = edge

/-- The assertion touched or created the edge of its own key, and no other edge changed. -/
structure Coexisting (tables : Tables) (payload : RelationshipAssert) (next : Tables) : Prop where
  apart : ∀ edge : AssetRelationship, edge.link ≠ payload.link →
    (edge ∈ tables.relationships.rows ↔ edge ∈ next.relationships.rows)
  one : OneLive next payload.link

/-- No live edge of the same type, endpoints and source carries another qualifier. -/
def Unparalleled (tables : Tables) (payload : RelationshipAssert) : Prop :=
  ∀ edge ∈ tables.relationships.rows, edge.Live → edge.pair = payload.pair → edge.link = payload.link

end Links

section Steps

variable {verdict : Verdict} {python : Python} {moment : Moment} {tables next' : Tables} {payload : RelationshipAssert}

theorem liveEdge_some {live : AssetRelationship} (found : RelationshipService.liveEdge tables payload = some live) :
    live ∈ tables.relationships.rows ∧ live.pair = payload.pair ∧ live.Live := by
  have matched := List.find?_some found
  simp only [Bool.and_eq_true,decide_eq_true_eq] at matched
  obtain ⟨⟨⟨⟨source,target⟩,type⟩,named⟩,alive⟩ := matched
  exact ⟨List.mem_of_find?_eq_some found,by simp [AssetRelationship.pair,RelationshipAssert.pair,source,target,type,named],alive⟩

theorem liveEdge_none (missing : RelationshipService.liveEdge tables payload = none) :
    ∀ edge ∈ tables.relationships.rows, edge.Live → edge.pair ≠ payload.pair := by
  intro edge member alive same
  have unmatched := List.find?_eq_none.mp missing edge member
  simp only [AssetRelationship.pair,RelationshipAssert.pair,Prod.mk.injEq] at same
  have open' : edge.validTo = none := alive
  simp [same,open'] at unmatched

theorem newEdge_pair (supersedes : Option Uuid) : (RelationshipService.newEdge moment payload supersedes).pair = payload.pair := rfl

theorem single_touch (single : SingleLinks tables) (id : Uuid) (now : Time) (confidence : Rat) :
    Single AssetRelationship.Live AssetRelationship.pair
      (tables.relationships.update id (RelationshipService.touch now confidence)).rows :=
  single_revise single fun _ _ alive => ⟨alive,rfl⟩

theorem vacated_free (single : SingleLinks tables) (now : Time) :
    ∀ old ∈ (vacatedEdges tables.relationships now (RelationshipService.liveEdge tables payload)).rows,
      old.Live → old.pair ≠ payload.pair := by
  cases found : RelationshipService.liveEdge tables payload with
  | none => exact liveEdge_none found
  | some live =>
    obtain ⟨member,same,alive⟩ := liveEdge_some found
    rw [← same]
    exact free_of_closed single member alive fun _ closed => nomatch closed

theorem single_vacated (single : SingleLinks tables) (now : Time) (live : Option AssetRelationship) :
    Single AssetRelationship.Live AssetRelationship.pair (vacatedEdges tables.relationships now live).rows := by
  cases live with
  | none => exact single
  | some live => exact single_revise single fun _ _ closed => nomatch closed

theorem single_assert {answer : AssertedEdge}
    (done : RelationshipService.assertRelationship verdict moment tables payload = .ok (answer,next'))
    (single : SingleLinks tables) : SingleLinks next' := by
  obtain ⟨_,⟨live,_,_,_,rfl⟩ | ⟨live,relationships,rfl,_,_,added,rfl⟩⟩ := assertRelationship_ok done
  · exact single_touch single _ _ _
  · exact single_insert (single_vacated single _ _) (vacated_free single _) added

theorem single_attempt {op : Operation} (done : attempt verdict python tables op = .ok next') (single : SingleLinks tables) :
    SingleLinks next' := by
  obtain ⟨request,moment⟩ := op
  rcases attempt_edges done with same | ⟨which,same⟩ | ⟨payload,answer,rfl,ok⟩
  · rw [SingleLinks,same]
    exact single
  · rw [SingleLinks,same]
    exact single_revise single fun _ _ closed => nomatch closed
  · exact single_assert ok single

theorem single_after {start : Tables} (single : SingleLinks start) (ops : List Operation) :
    SingleLinks (after verdict python start ops) := by
  have step : ∀ state op, True → SingleLinks state → SingleLinks (next verdict python state op) := fun state op _ single =>
    settle_preserves SingleLinks (fun _ done => single_attempt done single) single
  exact run_preserves step (along_of_forall (fun _ _ => trivial) start ops) single

theorem oneLive_assert {answer : AssertedEdge}
    (done : RelationshipService.assertRelationship verdict moment tables payload = .ok (answer,next'))
    (single : SingleLinks tables) : OneLive next' payload.link := by
  have after := single_assert done single
  have alone : ∀ edge ∈ next'.relationships.rows, edge.Live → edge.link = payload.link → OneLive next' payload.link :=
    fun edge member alive same => ⟨edge,member,alive,same,fun other inOther aliveOther sameOther =>
      after other inOther edge member aliveOther alive (congrArg Prod.fst (sameOther.trans same.symm))⟩
  obtain ⟨_,⟨live,found,same,_,rfl⟩ | ⟨live,relationships,rfl,_,_,added,rfl⟩⟩ := assertRelationship_ok done
  · obtain ⟨member,pair,alive⟩ := liveEdge_some found
    exact alone _ (Table.mem_update.mpr ⟨live,member,.inl ⟨rfl,rfl⟩⟩) alive (Prod.ext pair same)
  · exact alone _ ((Table.mem_insert added).mpr (.inr rfl)) rfl rfl

theorem stays_assert {answer : AssertedEdge} {edge : AssetRelationship}
    (done : RelationshipService.assertRelationship verdict moment tables payload = .ok (answer,next'))
    (other : edge.pair ≠ payload.pair) : edge ∈ tables.relationships.rows ↔ edge ∈ next'.relationships.rows := by
  obtain ⟨_,⟨live,found,_,_,rfl⟩ | ⟨live,relationships,rfl,_,_,added,rfl⟩⟩ := assertRelationship_ok done
  · obtain ⟨member,pair,_⟩ := liveEdge_some found
    exact apart_update AssetRelationship.pair member (fun _ => rfl) (pair ▸ other)
  · refine Iff.trans ?_ (apart_insert AssetRelationship.pair added other)
    cases found : RelationshipService.liveEdge tables payload with
    | none => exact Iff.rfl
    | some live =>
      obtain ⟨member,pair,_⟩ := liveEdge_some found
      exact apart_update AssetRelationship.pair member (fun _ => rfl) (pair ▸ other)

/-- The step lemma: an assertion leaves the other links alone exactly where none is live beside its own. -/
theorem coexisting_assert {answer : AssertedEdge}
    (done : RelationshipService.assertRelationship verdict moment tables payload = .ok (answer,next'))
    (single : SingleLinks tables) : Coexisting tables payload next' ↔ Unparalleled tables payload := by
  have one := oneLive_assert done single
  constructor
  · intro coexisting edge member alive same
    by_contra different
    have stays := (coexisting.apart edge different).mp member
    obtain ⟨mine,inMine,aliveMine,named,_⟩ := one
    have merged := single_assert done single edge stays mine inMine alive aliveMine
      (same.trans (congrArg Prod.fst named).symm)
    exact different (merged ▸ named)
  · intro unparalleled
    refine ⟨fun edge different => ?_,one⟩
    obtain ⟨_,⟨live,found,same,_,rfl⟩ | ⟨live,relationships,rfl,differs,_,added,rfl⟩⟩ := assertRelationship_ok done
    · obtain ⟨member,pair,_⟩ := liveEdge_some found
      have link : live.link = payload.link := Prod.ext pair same
      exact apart_update AssetRelationship.link member (fun _ => rfl) (link ▸ different)
    · refine Iff.trans ?_ (apart_insert AssetRelationship.link added different)
      cases found : RelationshipService.liveEdge tables payload with
      | none => exact Iff.rfl
      | some live =>
        obtain ⟨member,pair,alive⟩ := liveEdge_some found
        exact absurd (congrArg Prod.snd (unparalleled live member alive pair)) (differs live found)

end Steps

section Runs

variable {verdict : Verdict} {python : Python} {tables next' : Tables} {payload : RelationshipAssert}
  {link : (RelationshipType × Uuid × Uuid × String) × String}

def linking (entry : RelationshipAssert × Moment) : Operation := ⟨.claim (.assertRelationship entry.1),entry.2⟩

/-- The operation succeeds in the state that it meets. -/
def Succeeds (verdict : Verdict) (python : Python) (state : Tables) (op : Operation) : Prop :=
  ∃ later, attempt verdict python state op = .ok later

theorem succeeds_linking {entry : RelationshipAssert × Moment} (succeeds : Succeeds verdict python tables (linking entry)) :
    ∃ answer, RelationshipService.assertRelationship verdict entry.2 tables entry.1 =
      .ok (answer,next verdict python tables (linking entry)) := by
  obtain ⟨later,done⟩ := succeeds
  rw [next_of_ok done]
  obtain ⟨⟨answer,state⟩,ok,rfl⟩ := map_ok done
  exact ⟨answer,ok⟩

/-- A later assertion keeps the one live edge of a key, unless it asserts another key of the same pair. -/
theorem oneLive_stays {answer : AssertedEdge} {moment : Moment}
    (done : RelationshipService.assertRelationship verdict moment tables payload = .ok (answer,next'))
    (single : SingleLinks tables) (one : OneLive tables link) (agree : payload.pair = link.1 → payload.link = link) :
    OneLive next' link := by
  by_cases same : payload.pair = link.1
  · exact agree same ▸ oneLive_assert done single
  · obtain ⟨edge,member,alive,named,unique⟩ := one
    have elsewhere : ∀ other : AssetRelationship, other.link = link →
        (other ∈ tables.relationships.rows ↔ other ∈ next'.relationships.rows) := fun other carries =>
      stays_assert done fun pair => same (pair.symm.trans (congrArg Prod.fst carries))
    exact ⟨edge,(elsewhere edge named).mp member,alive,named,fun other inOther aliveOther carries =>
      unique other ((elsewhere other carries).mpr inOther) aliveOther carries⟩

theorem oneLive_run {batch : List (RelationshipAssert × Moment)}
    (made : Along (next verdict python) (Succeeds verdict python) tables (batch.map linking)) (single : SingleLinks tables)
    (one : OneLive tables link) (agree : ∀ entry ∈ batch, entry.1.pair = link.1 → entry.1.link = link) :
    OneLive (after verdict python tables (batch.map linking)) link := by
  induction batch generalizing tables with
  | nil => exact one
  | cons entry rest ih =>
    obtain ⟨answer,done⟩ := succeeds_linking made.1
    exact ih made.2 (single_assert done single) (oneLive_stays done single one (agree entry (.head _)))
      fun later member => agree later (.tail _ member)

/-- The run lemma: a batch of assertions leaves one live edge for each key exactly where no two of its keys share a pair. -/
theorem oneLive_batch {batch : List (RelationshipAssert × Moment)}
    (made : Along (next verdict python) (Succeeds verdict python) tables (batch.map linking)) (single : SingleLinks tables) :
    (∀ entry ∈ batch, OneLive (after verdict python tables (batch.map linking)) entry.1.link) ↔
      ∀ first ∈ batch, ∀ second ∈ batch, first.1.pair = second.1.pair → first.1.link = second.1.link := by
  constructor
  · intro ones first inFirst second inSecond same
    obtain ⟨edge,member,alive,named,_⟩ := ones first inFirst
    obtain ⟨other,inOther,aliveOther,carries,_⟩ := ones second inSecond
    have pairs : edge.pair = other.pair :=
      (congrArg Prod.fst named).trans (same.trans (congrArg Prod.fst carries).symm)
    have one := single_after single (batch.map linking) edge member other inOther alive aliveOther pairs
    exact named.symm.trans (one ▸ carries)
  · intro agree
    induction batch generalizing tables with
    | nil => exact fun _ member => absurd member List.not_mem_nil
    | cons entry rest ih =>
      obtain ⟨answer,done⟩ := succeeds_linking made.1
      have single' := single_assert done single
      intro later member
      rcases List.mem_cons.mp member with rfl | inRest
      · have kept := oneLive_run made.2 single' (oneLive_assert done single) fun other inOther same =>
          (agree _ (.head _) other (.tail _ inOther) same.symm).symm
        exact kept
      · exact ih made.2 single' (fun first inFirst second inSecond =>
          agree first (.tail _ inFirst) second (.tail _ inSecond)) later inRest

/-- In every state that a run reaches, an assertion that succeeds leaves the other links alone and one live edge
of its own if and only if no live edge of the same type, endpoints and source carries another qualifier; and a batch
of assertions leaves one live edge for each qualifier asserted if and only if no two of them differ in that alone. -/
theorem parallel_links {start : Tables} (single : SingleLinks start) (ops : List Operation) :
    (∀ moment payload answer later, RelationshipService.assertRelationship verdict moment (after verdict python start ops) payload =
        .ok (answer,later) → (Coexisting (after verdict python start ops) payload later ↔
          Unparalleled (after verdict python start ops) payload)) ∧
    ∀ batch : List (RelationshipAssert × Moment),
      Along (next verdict python) (Succeeds verdict python) (after verdict python start ops) (batch.map linking) →
        ((∀ entry ∈ batch, OneLive (after verdict python (after verdict python start ops) (batch.map linking)) entry.1.link) ↔
          ∀ first ∈ batch, ∀ second ∈ batch, first.1.pair = second.1.pair → first.1.link = second.1.link) := by
  have reached : SingleLinks (after verdict python start ops) := single_after single ops
  exact ⟨fun _ _ _ _ done => coexisting_assert done reached,fun _ made => oneLive_batch made reached⟩

end Runs

section Laboratory

def labSwitch (id : Uuid) (name : String) : Asset := {labHost id name with assetType := .device}

def labSwitches : Tables := {labTables with
  assets := ⟨[labSwitch 1 "core-01",labSwitch 2 "core-02"],by decide⟩}

def labLink (qualifier : String) (short : qualifier.length ≤ 128) : RelationshipAssert where
  relationshipType := .connectedTo
  sourceAssetId := 1
  targetAssetId := 2
  qualifier := some qualifier
  sourceType := .liveDiscovery
  sourceId := "lldp:core-01"
  qualifier_bounds := by simpa using short
  source_bounds := by decide
  confidence_bounds := certain

def firstLink : RelationshipAssert × Moment := (labLink "uplink-a" (by decide),labMoment 5 100)

def secondLink : RelationshipAssert × Moment := (labLink "uplink-b" (by decide),labMoment 6 110)

theorem labSwitches_single : SingleLinks labSwitches := single_nil

def labLinked : Tables := {labSwitches with
  relationships := ⟨[RelationshipService.newEdge (labMoment 5 100) firstLink.1 none],by decide⟩}

theorem next_firstLink : next Tables.violation labPython labSwitches (linking firstLink) = labLinked := by
  with_unfolding_all rfl

theorem succeeds_firstLink : Succeeds Tables.violation labPython labSwitches (linking firstLink) :=
  ok_of_isOk (by decide +kernel)

theorem succeeds_secondLink : Succeeds Tables.violation labPython labLinked (linking secondLink) :=
  ok_of_isOk (by decide +kernel)

theorem links_succeed : Along (next Tables.violation labPython) (Succeeds Tables.violation labPython) labSwitches
    ([firstLink,secondLink].map linking) := by
  simp only [List.map_cons,List.map_nil,along_cons,along_nil,and_true]
  rw [next_firstLink]
  exact ⟨succeeds_firstLink,succeeds_secondLink⟩

theorem links_paired : firstLink.1.pair = secondLink.1.pair := by
  apply pair_eq <;> simp only [firstLink,secondLink,labLink]

theorem links_differ : firstLink.1.link ≠ secondLink.1.link := by
  intro same
  exact absurd (congrArg Prod.snd same) (by decide)

/-- One of them is closed by the other. -/
theorem parallel_link_closed : ¬ ∀ entry ∈ [firstLink,secondLink],
    OneLive (after Tables.violation labPython labSwitches ([firstLink,secondLink].map linking)) entry.1.link := by
  intro ones
  have agree := (oneLive_batch links_succeed labSwitches_single).mp ones
  exact links_differ (agree firstLink (.head _) secondLink (.tail _ (.head _)) links_paired)

def otherLink : RelationshipAssert × Moment :=
  ({labLink "uplink-b" (by decide) with
    sourceId := "lldp:core-02"
    source_bounds := by decide},labMoment 6 110)

theorem otherLinks_succeed : Along (next Tables.violation labPython) (Succeeds Tables.violation labPython) labSwitches
    ([firstLink,otherLink].map linking) := by
  simp only [List.map_cons,List.map_nil,along_cons,along_nil,and_true]
  rw [next_firstLink]
  exact ⟨succeeds_firstLink,ok_of_isOk (by decide +kernel)⟩

/-- The first link and the other one are both live, though they differ in their qualifier. -/
theorem parallel_links_one :
    OneLive (after Tables.violation labPython labSwitches ([firstLink,otherLink].map linking)) firstLink.1.link ∧
      OneLive (after Tables.violation labPython labSwitches ([firstLink,otherLink].map linking)) otherLink.1.link := by
  have apart : firstLink.1.pair ≠ otherLink.1.pair := by decide +kernel
  have each := ((parallel_links labSwitches_single []).2 [firstLink,otherLink] otherLinks_succeed).mpr (by simp [apart,apart.symm])
  exact ⟨each _ (.head _),each _ (.tail _ (.head _))⟩

end Laboratory

end Acop.Cmdb
