import Acop.Guarantee.FactHistory
import Acop.Store.Single

/-! What an assertion leaves: the one live claim of its asset, predicate, kind and source,
saying what the payload says. -/
namespace Acop.Cmdb
open Acop.Store Acop.Serial

section Values

mutual
/-- JSON values alike: numbers by what they amount to, objects by what is under each key. A
boolean is no number. -/
def sameJson : Json → Json → Bool
  | .null,.null => true
  | .bool first,.bool second => first = second
  | .bool _,_ => false
  | _,.bool _ => false
  | .nonFinite first,.nonFinite second => first = second
  | .str first,.str second => first = second
  | .arr first,.arr second => sameItems first second
  | .obj first,.obj second => first.length = second.length && sameFields first second
  | first,second => match asNumber first,asNumber second with
    | some first,some second => first.equal second
    | _,_ => false
def sameItems : List Json → List Json → Bool
  | [],[] => true
  | first::firsts,second::seconds => sameJson first second && sameItems firsts seconds
  | _,_ => false
def sameFields : List (String × Json) → List (String × Json) → Bool
  | [],_ => true
  | (key,value)::fields,others => (match Json.get others key with
    | some other => sameJson value other
    | none => false) && sameFields fields others
end

def FactValue.same : FactValue → FactValue → Bool
  | .text first,.text second => first = second
  | .number first,.number second => first = second
  | .bool first,.bool second => first = second
  | .timestamp first,.timestamp second => first = second
  | .json first,.json second => sameJson (.obj first) (.obj second)
  | .assetRef first,.assetRef second => first = second
  | _,_ => false

end Values

/-- What keys the live claims: one for each asset, predicate, kind and source. -/
abbrev AssetFact.lineage (fact : AssetFact) : Uuid × String × FactKind × String := factClaims.lineage fact

def FactAssert.lineage (payload : FactAssert) (assetId : Uuid) : Uuid × String × FactKind × String :=
  (assetId,payload.predicate,payload.factKind,payload.sourceId)

def SingleClaims (tables : Tables) : Prop := Single AssetFact.Live AssetFact.lineage tables.facts.rows

structure Carries (fact : AssetFact) (payload : FactAssert) : Prop where
  value : fact.value.same payload.value
  unit : fact.unit = payload.unit
  sourceType : fact.sourceType = payload.sourceType
  statementClass : fact.statementClass = statementClassFor payload.sourceType

/-- Exactly one live claim has the payload's key, and it says what the payload says. -/
def OneCarries (tables : Tables) (assetId : Uuid) (payload : FactAssert) : Prop :=
  ∃ fact ∈ tables.facts.rows, fact.Live ∧ fact.lineage = payload.lineage assetId ∧ Carries fact payload ∧
    ∀ other ∈ tables.facts.rows, other.Live → other.lineage = payload.lineage assetId → other = fact

def touchedClaim (tables : Tables) (assetId : Uuid) (payload : FactAssert) (screened : FactValue) : Option AssetFact :=
  (FactService.liveClaim tables assetId payload.predicate payload.factKind payload.sourceId).filter
    fun live => valuesEqual live.value screened

/-- A live claim whose value is `==` to the screened one says what the payload says; where there is
none, the screen leaves the value as it came. -/
def Faithful (python : Python) (tables : Tables) (assetId : Uuid) (payload : FactAssert) : Prop :=
  ∀ screened, screen python payload.predicate payload.value = .ok screened →
    match touchedClaim tables assetId payload screened.value with
    | some live => Carries live payload
    | none => screened.value.same payload.value

section Steps

variable {verdict : Verdict} {python : Python} {moment : Moment} {tables next : Tables}

theorem single_vacate (now : Time) {assetId : Uuid} {predicate : String} {factKind : FactKind} {sourceId : String} {live : Option AssetFact}
    (claimed : FactService.liveClaim tables assetId predicate factKind sourceId = live) (single : SingleClaims tables) :
    Single AssetFact.Live AssetFact.lineage (vacated tables.facts now live).rows ∧
      ∀ old ∈ (vacated tables.facts now live).rows, old.Live → old.lineage ≠ (assetId,predicate,factKind,sourceId) := by
  cases live with
  | none => exact ⟨single,fun old member alive same => liveClaim_none claimed old member same alive⟩
  | some live =>
    obtain ⟨member,same,alive⟩ := liveClaim_some claimed
    refine ⟨single_revise single fun _ _ closed => absurd closed (by simp [FactService.close,AssetFact.Live]),?_⟩
    rw [← same]
    exact free_of_closed single member alive (by simp [FactService.close,AssetFact.Live])

theorem single_replace {assetId : Uuid} {predicate : String} {factKind : FactKind} {sourceId : String} {live : Option AssetFact}
    {fact : AssetFact} {facts : Table AssetFact.id}
    (claimed : FactService.liveClaim tables assetId predicate factKind sourceId = live) (single : SingleClaims tables)
    (keyed : fact.lineage = (assetId,predicate,factKind,sourceId))
    (added : (vacated tables.facts moment.now live).insert fact = some facts) :
    Single AssetFact.Live AssetFact.lineage facts.rows := by
  obtain ⟨vacant,free⟩ := single_vacate moment.now claimed single
  rw [← keyed] at free
  exact single_insert vacant free added

theorem single_assertFact {assetId : Uuid} {payload : FactAssert} {answer : Asserted} (single : SingleClaims tables)
    (done : FactService.assertFact verdict python moment tables assetId payload = .ok (answer,next)) : SingleClaims next := by
  obtain ⟨asset,screened,found,_,⟨live,_,_,_,rfl⟩ | ⟨live,facts,claimed,_,_,added,rfl⟩⟩ := assertFact_ok done
  · exact single_revise single fun _ _ alive => ⟨alive,rfl⟩
  · obtain ⟨_,rfl⟩ := Table.find_eq_some.mp found
    exact single_replace claimed single rfl added

theorem single_claims_attempt {op : Operation} (single : SingleClaims tables) (done : attempt verdict python tables op = .ok next) :
    SingleClaims next := by
  rcases attempt_facts done with same | ⟨assetId,answer,_,retired⟩ | ⟨assetId,payload,answer,_,asserted⟩ |
      ⟨_,_,_,_,_,_,_,_,declared⟩ | ⟨_,_,action,_,_,_,_,_,moved⟩
  · rw [SingleClaims,same]
    exact single
  · obtain ⟨_,_,_,rfl⟩ := retire_ok retired
    exact single_revise single fun _ _ closed => absurd closed (by simp [AssetService.closeStale,AssetFact.Live])
  · exact single_assertFact single asserted
  · obtain ⟨asset,screened,live,facts,_,found,_,claimed,added,_,_,_,rfl⟩ := createDesired_ok declared
    obtain ⟨_,rfl⟩ := Table.find_eq_some.mp found
    exact single_replace claimed single rfl added
  · obtain ⟨fact,_,_,_,_,rfl⟩ := transition_ok moved
    refine single_revise single fun old _ alive => ?_
    cases action <;> exact ⟨alive,rfl⟩

theorem single_claims_after {start : Tables} (single : SingleClaims start) (ops : List Operation) :
    SingleClaims (after verdict python start ops) := by
  have step : ∀ state op, True → SingleClaims state → SingleClaims (Cmdb.next verdict python state op) := fun state op _ single =>
    settle_preserves SingleClaims (fun _ done => single_claims_attempt single done) single
  exact run_preserves step (along_of_forall (fun _ _ => trivial) start ops) single

theorem oneCarries_iff {assetId : Uuid} {payload : FactAssert} {fact : AssetFact} (single : SingleClaims tables)
    (member : fact ∈ tables.facts.rows) (alive : fact.Live) (keyed : fact.lineage = payload.lineage assetId) :
    OneCarries tables assetId payload ↔ Carries fact payload := by
  constructor
  · rintro ⟨one,_,_,_,carries,only⟩
    rwa [only fact member alive keyed]
  · intro carries
    exact ⟨fact,member,alive,keyed,carries,fun other inTable aliveOther same =>
      single other inTable fact member aliveOther alive (same.trans keyed.symm)⟩

theorem carries_touch {live : AssetFact} {payload : FactAssert} {confidence : Rat} :
    Carries ((FactService.touch moment.now confidence).change live) payload ↔ Carries live payload :=
  ⟨fun carries => ⟨carries.value,carries.unit,carries.sourceType,carries.statementClass⟩,
    fun carries => ⟨carries.value,carries.unit,carries.sourceType,carries.statementClass⟩⟩

theorem carries_new {assetId : Uuid} {payload : FactAssert} {value : FactValue} {supersededId : Option Uuid} :
    Carries (FactService.newFact moment assetId payload value supersededId) payload ↔ value.same payload.value :=
  ⟨fun carries => carries.value,fun same => ⟨same,rfl,rfl,rfl⟩⟩

/-- An assertion that succeeds leaves one live claim that says what the payload says if and only if the row it
would touch does, or, where it touches none, the screen has left the value alone. -/
theorem oneCarries_assertFact {assetId : Uuid} {payload : FactAssert} {answer : Asserted} (single : SingleClaims tables)
    (done : FactService.assertFact verdict python moment tables assetId payload = .ok (answer,next)) :
    OneCarries next assetId payload ↔ Faithful python tables assetId payload := by
  have single' := single_assertFact single done
  obtain ⟨asset,screened,found,passed,⟨live,claimed,equal,_,rfl⟩ | ⟨live,facts,claimed,differs,_,added,rfl⟩⟩ := assertFact_ok done
  · obtain ⟨member,keyed,alive⟩ := liveClaim_some claimed
    have touched : touchedClaim tables assetId payload screened.value = some live := by
      simp [touchedClaim,claimed,equal]
    have stays : (FactService.touch moment.now payload.confidence).change live ∈
        (tables.facts.update live.id (FactService.touch moment.now payload.confidence)).rows :=
      Table.mem_update.mpr ⟨live,member,.inl ⟨rfl,rfl⟩⟩
    rw [oneCarries_iff single' stays alive keyed,carries_touch]
    constructor
    · intro carries other passed'
      cases passed.symm.trans passed'
      rwa [touched]
    · intro faithful
      have carries := faithful screened passed
      rwa [touched] at carries
  · obtain ⟨_,rfl⟩ := Table.find_eq_some.mp found
    have touched : touchedClaim tables asset.id payload screened.value = none := by
      rw [touchedClaim,claimed]
      exact Option.filter_eq_none_iff.mpr fun claim inLive => differs claim inLive
    have inserted := (Table.mem_insert added).mpr (.inr rfl)
    refine (oneCarries_iff single' inserted rfl rfl).trans (carries_new.trans ?_)
    constructor
    · intro same other passed'
      cases passed.symm.trans passed'
      rwa [touched]
    · intro faithful
      have same := faithful screened passed
      rwa [touched] at same

end Steps

/-- In every state that a run reaches, an assertion that succeeds leaves exactly one live claim of its asset, predicate,
kind and source, with the payload's value, unit, source type and statement class, if and only if the live claim that
Python takes for the same value says all of that already, or there is none and the screen redacts nothing. -/
theorem assertion_postcondition {verdict : Verdict} {python : Python} {start : Tables} (single : SingleClaims start)
    (ops : List Operation) (moment : Moment) (assetId : Uuid) (payload : FactAssert) (answer : Asserted) (next : Tables)
    (done : FactService.assertFact verdict python moment (after verdict python start ops) assetId payload = .ok (answer,next)) :
    OneCarries next assetId payload ↔ Faithful python (after verdict python start ops) assetId payload :=
  oneCarries_assertFact (single_claims_after single ops) done

section Laboratory

def flags (enabled : Json) : FactAssert where
  predicate := "agent.flags"
  sourceType := .liveDiscovery
  sourceId := "proxmox:pve-01"
  value := .json [("enabled",enabled)]
  predicate_rules := by decide
  known_shape := by
    have unknown : knownPredicates.lookup "agent.flags" = none := by decide
    simp [unknown]
  needs_no_human := observed_undesired
  source_bounds := cluster_bounds
  confidence_bounds := certain
  unit_bounds := unitless

theorem labTables_single : SingleClaims labTables := single_nil

def flaggedFact : AssetFact :=
  FactService.newFact (labMoment 5 100) 1 (flags (.bool true)) (.json [("enabled",.bool true)]) none

def flagged : Tables := {labTables with
  assets := labTables.assets.update 1 (FactService.seeAsset 5)
  facts := ⟨[flaggedFact],by decide⟩}

theorem after_flags : after Tables.violation labPython labTables [asserting 5 100 1 (flags (.bool true))] = flagged := by
  with_unfolding_all rfl

theorem screen_flags : screen labPython "agent.flags" (.json [("enabled",.int 1)]) =
    .ok {value := .json [("enabled",.int 1)]} := by
  with_unfolding_all rfl

theorem flags_made : (FactService.assertFact Tables.violation labPython (labMoment 6 110) flagged 1 (flags (.int 1))).isOk := by
  decide +kernel

theorem touched_flags : touchedClaim flagged 1 (flags (.int 1)) (.json [("enabled",.int 1)]) = some flaggedFact := by
  with_unfolding_all rfl

/-- A host that now says `1` is still recorded as having said `true`. -/
theorem one_taken_for_true : ∃ answer next,
    FactService.assertFact Tables.violation labPython (labMoment 6 110)
      (after Tables.violation labPython labTables [asserting 5 100 1 (flags (.bool true))]) 1 (flags (.int 1)) = .ok (answer,next) ∧
      ¬ OneCarries next 1 (flags (.int 1)) := by
  rw [after_flags]
  obtain ⟨⟨answer,next⟩,done⟩ := ok_of_isOk flags_made
  refine ⟨answer,next,done,fun one => ?_⟩
  have single : SingleClaims flagged := after_flags ▸ single_claims_after labTables_single _
  have faithful := (oneCarries_assertFact single done).mp one _ screen_flags
  rw [touched_flags] at faithful
  exact absurd faithful.value (by decide)

theorem screen_set : screen labPython "agent.flags" (.json [("enabled",.bool true)]) =
    .ok {value := .json [("enabled",.bool true)]} := by
  with_unfolding_all rfl

theorem flags_set : (FactService.assertFact Tables.violation labPython (labMoment 5 100) labTables 1 (flags (.bool true))).isOk := by
  decide +kernel

/-- What the host said first is recorded as it said it. -/
theorem assertion_postcondition_first : ∃ answer next,
    FactService.assertFact Tables.violation labPython (labMoment 5 100) (after Tables.violation labPython labTables []) 1
      (flags (.bool true)) = .ok (answer,next) ∧ OneCarries next 1 (flags (.bool true)) := by
  obtain ⟨⟨answer,next⟩,done⟩ := ok_of_isOk flags_set
  refine ⟨answer,next,done,(assertion_postcondition labTables_single [] _ _ _ _ _ done).mpr fun screened passed => ?_⟩
  cases screen_set.symm.trans passed
  rfl

end Laboratory

end Acop.Cmdb
