import Acop.Cmdb.Effects
import Acop.Store.History
import Acop.Cmdb.Laboratory

/-! The history of facts: every operation of the inventory keeps the intervals of a
claim's lineage in order and rewrites nothing that was recorded. -/
namespace Acop.Cmdb
open Acop.Store Acop.Serial

def factClaims : Claims AssetFact (Uuid × String × FactKind × String) Uuid Time where
  lineage fact := (fact.assetId,fact.predicate,fact.factKind,fact.sourceId)
  id fact := fact.id
  opened fact := fact.validFrom
  closed fact := fact.validTo
  supersedes fact := fact.supersedesFactId

structure Recorded (old new : AssetFact) : Prop where
  id : new.id = old.id
  lineage : factClaims.lineage new = factClaims.lineage old
  value : new.value = old.value
  unit : new.unit = old.unit
  sourceType : new.sourceType = old.sourceType
  statementClass : new.statementClass = old.statementClass
  opened : new.validFrom = old.validFrom
  supersedes : new.supersedesFactId = old.supersedesFactId

instance : Std.Refl Recorded := ⟨fun _ => ⟨rfl,rfl,rfl,rfl,rfl,rfl,rfl,rfl⟩⟩

instance : IsTrans AssetFact Recorded where
  trans _ _ _ early late := ⟨late.id.trans early.id,late.lineage.trans early.lineage,late.value.trans early.value,late.unit.trans early.unit,
    late.sourceType.trans early.sourceType,late.statementClass.trans early.statementClass,late.opened.trans early.opened,
    late.supersedes.trans early.supersedes⟩

/-- A history of facts up to a moment, grown from earlier tables. -/
abbrev Chronicled (old new : Table AssetFact.id) (now : Time) : Prop := Continued factClaims Recorded old new now

section Steps

variable {facts facts' : Table AssetFact.id} {now : Time}

theorem chronicled_revise {which : AssetFact → Bool} {revision : Revision AssetFact.id} (history : History factClaims now facts.rows)
    (recorded : ∀ fact ∈ facts.rows, which fact → Recorded fact (revision.change fact))
    (closed : ∀ fact ∈ facts.rows, which fact → (revision.change fact).validTo = fact.validTo ∨
      (fact.validTo = none ∧ (revision.change fact).validTo = some now)) :
    Chronicled facts (facts.revise which revision) now := by
  refine .revise history recorded fun fact member chosen => ?_
  have same := recorded fact member chosen
  exact ⟨same.lineage,same.id,same.opened,same.supersedes,closed fact member chosen⟩

theorem recorded_touch (confidence : Rat) (fact : AssetFact) : Recorded fact ((FactService.touch now confidence).change fact) :=
  ⟨rfl,rfl,rfl,rfl,rfl,rfl,rfl,rfl⟩

theorem recorded_close (fact : AssetFact) : Recorded fact ((FactService.close now).change fact) :=
  ⟨rfl,rfl,rfl,rfl,rfl,rfl,rfl,rfl⟩

theorem recorded_attributing (action : AttestationAction) (principal : Principal) (fact : AssetFact) :
    Recorded fact ((FactService.attributing action principal now).change fact) := by
  cases action <;> exact ⟨rfl,rfl,rfl,rfl,rfl,rfl,rfl,rfl⟩

theorem recorded_closeStale (fact : AssetFact) : Recorded fact ((AssetService.closeStale now).change fact) :=
  ⟨rfl,rfl,rfl,rfl,rfl,rfl,rfl,rfl⟩

theorem attributing_validTo (action : AttestationAction) (principal : Principal) (fact : AssetFact) :
    ((FactService.attributing action principal now).change fact).validTo = fact.validTo := by
  cases action <;> rfl

theorem liveClaim_some {tables : Tables} {assetId : Uuid} {predicate : String} {factKind : FactKind} {sourceId : String}
    {live : AssetFact} (found : FactService.liveClaim tables assetId predicate factKind sourceId = some live) :
    live ∈ tables.facts.rows ∧ factClaims.lineage live = (assetId,predicate,factKind,sourceId) ∧ live.validTo = none := by
  have matched := List.find?_some found
  simp only [Bool.and_eq_true,decide_eq_true_eq] at matched
  obtain ⟨⟨⟨⟨asset,named⟩,kind⟩,source⟩,stillOpen⟩ := matched
  refine ⟨List.mem_of_find?_eq_some found,?_,stillOpen⟩
  simp [factClaims,asset,named,kind,source]

theorem liveClaim_none {tables : Tables} {assetId : Uuid} {predicate : String} {factKind : FactKind} {sourceId : String}
    (missing : FactService.liveClaim tables assetId predicate factKind sourceId = none) :
    ∀ fact ∈ tables.facts.rows, factClaims.lineage fact = (assetId,predicate,factKind,sourceId) → fact.validTo ≠ none := by
  intro fact member same stillOpen
  simp only [factClaims,Prod.mk.injEq] at same
  have unmatched := List.find?_eq_none.mp missing fact member
  simp [same,stillOpen] at unmatched

theorem chronicled_insert {tables : Tables} {assetId : Uuid} {predicate : String} {factKind : FactKind} {sourceId : String}
    {fact : AssetFact} (history : History factClaims now tables.facts.rows)
    (lineage : factClaims.lineage fact = (assetId,predicate,factKind,sourceId)) (opened : fact.validFrom = now)
    (stillOpen : fact.validTo = none)
    (supersedes : fact.supersedesFactId = (FactService.liveClaim tables assetId predicate factKind sourceId).map (·.id))
    (added : (vacated tables.facts now (FactService.liveClaim tables assetId predicate factKind sourceId)).insert fact = some facts') :
    Chronicled tables.facts facts' now := by
  cases found : FactService.liveClaim tables assetId predicate factKind sourceId with
  | none =>
    rw [found] at added supersedes
    exact .start history opened stillOpen supersedes
      (fun old member same => liveClaim_none found old member (same.trans lineage)) added
  | some live =>
    rw [found] at added supersedes
    obtain ⟨member,sameLineage,openLive⟩ := liveClaim_some found
    exact .succeed rfl history member openLive (recorded_close live) ⟨rfl,rfl,rfl,rfl,.inr ⟨openLive,rfl⟩⟩ rfl opened stillOpen
      (sameLineage.trans lineage.symm) supersedes added

variable {verdict : Verdict} {python : Python} {moment : Moment} {tables next' : Tables}

theorem chronicled_assertFact {assetId : Uuid} {payload : FactAssert} {answer : Asserted}
    (done : FactService.assertFact verdict python moment tables assetId payload = .ok (answer,next'))
    (history : History factClaims moment.now tables.facts.rows) : Chronicled tables.facts next'.facts moment.now := by
  obtain ⟨asset,screened,found,_,⟨live,_,_,_,rfl⟩ | ⟨live,facts,rfl,_,_,added,rfl⟩⟩ := assertFact_ok done
  · exact chronicled_revise history (fun fact _ _ => recorded_touch _ fact) fun _ _ _ => .inl rfl
  · have same := (Table.find_eq_some.mp found).2
    exact chronicled_insert history (by simp [factClaims,FactService.newFact,same]) rfl rfl rfl added

theorem chronicled_createDesired {occurredAt : Time} {assetId : Uuid} {payload : DesiredFactCreate} {principal : Principal}
    {derivedFrom : Option Uuid} {requestId : Option String} {answer : AssetFact}
    (done : FactService.createDesired verdict python moment tables occurredAt assetId payload principal derivedFrom requestId =
      .ok (answer,next'))
    (history : History factClaims moment.now tables.facts.rows) : Chronicled tables.facts next'.facts moment.now := by
  obtain ⟨asset,screened,live,facts,attestations,found,_,rfl,added,_,_,_,rfl⟩ := createDesired_ok done
  have same := (Table.find_eq_some.mp found).2
  exact chronicled_insert history (by simp [factClaims,FactService.newDesired,same]) rfl rfl rfl added

theorem chronicled_transition {occurredAt : Time} {factId : Uuid} {action : AttestationAction} {principal : Principal}
    {reason requestId : Option String} {answer : AssetFact}
    (done : FactService.transition verdict moment tables occurredAt factId action principal reason requestId = .ok (answer,next'))
    (history : History factClaims moment.now tables.facts.rows) : Chronicled tables.facts next'.facts moment.now := by
  obtain ⟨fact,attestations,_,_,_,rfl⟩ := transition_ok done
  exact chronicled_revise history (fun fact _ _ => recorded_attributing action principal fact) fun fact _ _ =>
    .inl (attributing_validTo action principal fact)

theorem chronicled_retire {assetId : Uuid} {answer : Nat × Nat}
    (done : AssetService.retire verdict moment tables assetId = .ok (answer,next'))
    (history : History factClaims moment.now tables.facts.rows) : Chronicled tables.facts next'.facts moment.now := by
  obtain ⟨asset,_,_,rfl⟩ := retire_ok done
  refine chronicled_revise history (fun fact _ _ => recorded_closeStale fact) ?_
  intro fact _ live
  simp only [AssetService.liveFactOf,Bool.and_eq_true,decide_eq_true_eq] at live
  exact .inr ⟨live.2,rfl⟩

theorem chronicled_attempt {op : Operation} (done : attempt verdict python tables op = .ok next')
    (history : History factClaims op.moment.now tables.facts.rows) : Chronicled tables.facts next'.facts op.moment.now := by
  obtain ⟨request,moment⟩ := op
  rcases attempt_facts done with same | ⟨assetId,answer,rfl,ok⟩ | ⟨assetId,payload,answer,rfl,ok⟩ |
    ⟨occurredAt,assetId,payload,principal,derivedFrom,requestId,answer,rfl,ok⟩ |
    ⟨occurredAt,factId,action,principal,reason,requestId,answer,rfl,ok⟩
  · rw [same]
    exact .refl history
  · exact chronicled_retire ok history
  · exact chronicled_assertFact ok history
  · exact chronicled_createDesired ok history
  · exact chronicled_transition ok history

theorem chronicled_next {op : Operation} (history : History factClaims op.moment.now tables.facts.rows) :
    Chronicled tables.facts (next verdict python tables op).facts op.moment.now := by
  have preserves : ∀ state, attempt verdict python tables op = .ok state →
      Chronicled tables.facts state.facts op.moment.now := fun state done => chronicled_attempt done history
  exact settle_preserves (fun state : Tables => Chronicled tables.facts state.facts op.moment.now) preserves
    (.refl history)

end Steps

def clockAfter (began : Time) (ops : List Operation) : Time := (ops.map (·.moment.now)).getLastD began

/-- Whatever the operations of a run under a clock that does not go back, at every
moment of it the rows of each lineage are in order, at most one of them live and each
successor begun where the row it names ended; and what was recorded then stands at the end. -/
theorem fact_history (verdict : Verdict) (python : Python) (tables : Tables) (began : Time) (earlier later : List Operation)
    (history : History factClaims began tables.facts.rows)
    (clock : (began :: (earlier ++ later).map (·.moment.now)).Pairwise (· ≤ ·)) :
    History factClaims (clockAfter began earlier) (after verdict python tables earlier).facts.rows ∧
      (after verdict python tables earlier).facts.rows.Pairwise (OneOpen factClaims) ∧
      Grows Recorded (after verdict python tables earlier).facts (after verdict python tables (earlier ++ later)).facts := by
  obtain ⟨told,grown⟩ := Continued.run_append Tables.facts (fun op : Operation => op.moment.now)
    (fun _ _ told => chronicled_next told) history clock
  exact ⟨told,told.open_unique,grown⟩

/-- A value is observed, observed again and changed, and its host is retired. -/
def labHistory : List Operation :=
  [asserting 1 100 1 (memory 5 .liveDiscovery),asserting 2 110 1 (memory 5 .liveDiscovery),
    asserting 2 120 1 (memory 6 .liveDiscovery)]

theorem fact_history_lab :
    History factClaims 2 (after Tables.violation labPython labTables labHistory).facts.rows ∧
      (after Tables.violation labPython labTables labHistory).facts.rows.Pairwise (OneOpen factClaims) ∧
      Grows Recorded (after Tables.violation labPython labTables labHistory).facts
        (after Tables.violation labPython labTables (labHistory ++ [retiring 5 1])).facts :=
  fact_history Tables.violation labPython labTables 0 labHistory [retiring 5 1] History.nil (by decide)

end Acop.Cmdb
