import Acop.Cmdb.Soundness
import Acop.Coding.Lines
import Acop.Guarantee.FactHistory

/-! The declaration of a desired state, which is to take the place of the one before it. -/
namespace Acop.Cmdb
open Acop.Store Acop.Serial

/-- One call of `create_desired`. -/
structure Declaration where
  moment : Moment
  occurredAt : Time
  assetId : Uuid
  payload : DesiredFactCreate
  principal : Principal
  derivedFrom : Option Uuid := none
  requestId : Option String := none

namespace Declaration

variable (call : Declaration)

def run (python : Python) (tables : Tables) : Except Refusal (AssetFact × Tables) :=
  FactService.createDesired Tables.violation python call.moment tables call.occurredAt call.assetId call.payload call.principal
    call.derivedFrom call.requestId

/-- A live desired state of the asset and predicate. -/
def Governs (fact : AssetFact) : Prop :=
  fact.assetId = call.assetId ∧ fact.predicate = call.payload.predicate ∧ fact.factKind = .desiredState ∧ fact.Live

/-- The call succeeds with the one live desired state, which names what it has closed. -/
def Replaces (python : Python) (tables : Tables) : Prop :=
  ∃ fact later, call.run python tables = .ok (fact,later) ∧ fact ∈ later.facts.rows ∧ call.Governs fact ∧
    (∀ other ∈ later.facts.rows, call.Governs other → other = fact) ∧
    (∀ previous ∈ tables.facts.rows, call.Governs previous → fact.supersedesFactId = some previous.id ∧
      ∃ closed ∈ later.facts.rows, closed.id = previous.id ∧ closed.validTo = some call.moment.now) ∧
    ((∀ previous ∈ tables.facts.rows, ¬ call.Governs previous) → fact.supersedesFactId = none)

/-- What the call writes fits its columns and refers to what is there. -/
structure Fits (tables : Tables) (value : FactValue) : Prop where
  stored : value.columnFits
  refers : ∀ id, value = .assetRef id → tables.hasAsset id
  unit : fitsOptional 24 call.payload.unit
  subject : fits 255 call.principal.subject
  issuer : fits 255 call.principal.issuer
  reason : fitsOptional 1024 call.payload.reason
  requestId : fitsOptional 128 call.requestId

/-- The live desired state, if there is one, was declared by the same subject. -/
def SameAuthor (tables : Tables) : Prop :=
  ∀ previous ∈ tables.facts.rows, call.Governs previous → previous.sourceId = call.principal.subject

/-- What the call finds: its asset, a value that the screen lets through, and new identifiers. -/
structure Finds (python : Python) (tables : Tables) (screened : ScreenResult) : Prop where
  asset : tables.hasAsset call.assetId
  screened : screen python call.payload.predicate call.payload.value = .ok screened
  derived : ∀ id ∈ call.derivedFrom, tables.hasFact id
  newFact : call.moment.newId 0 ∉ tables.facts.rows.map AssetFact.id
  newAttestation : call.moment.newId 1 ∉ tables.attestations.rows.map FactAttestation.id

section Outcome

variable {call : Declaration} {python : Python} {tables : Tables} {screened : ScreenResult} {fact other : AssetFact}

def live (call : Declaration) (tables : Tables) : Option AssetFact :=
  FactService.liveClaim tables call.assetId call.payload.predicate .desiredState call.principal.subject

def declared (call : Declaration) (tables : Tables) (value : FactValue) : AssetFact :=
  FactService.newDesired call.moment call.assetId call.payload value call.principal ((call.live tables).map (·.id))
    call.derivedFrom

def approval (call : Declaration) (fact : AssetFact) : FactAttestation :=
  FactService.attestation fact .approve .unverified .approved call.principal call.payload.reason call.requestId call.occurredAt
    (call.moment.newId 1)

def lineage (call : Declaration) : Uuid × String × FactKind × String :=
  (call.assetId,call.payload.predicate,.desiredState,call.principal.subject)

theorem lineage_iff : factClaims.lineage fact = call.lineage ∧ fact.Live ↔
    call.Governs fact ∧ fact.sourceId = call.principal.subject := by
  simp only [factClaims,lineage,Prod.mk.injEq,Governs]
  tauto

theorem governs_declared (value : FactValue) : call.Governs (call.declared tables value) := ⟨rfl,rfl,rfl,rfl⟩

theorem closed_of_vacated (history : History factClaims call.moment.now tables.facts.rows)
    (member : other ∈ (vacated tables.facts call.moment.now (call.live tables)).rows)
    (same : factClaims.lineage other = call.lineage) : ¬ other.Live := by
  intro alive
  cases found : call.live tables with
  | none =>
    rw [found] at member
    exact liveClaim_none found other member same alive
  | some live =>
    rw [found] at member
    obtain ⟨inFacts,lineage,stillOpen⟩ := liveClaim_some found
    obtain ⟨old,inOld,⟨_,rfl⟩ | ⟨differ,rfl⟩⟩ := Table.mem_update.mp member
    · exact nomatch alive
    · have apart : other ≠ live := fun equal => differ (congrArg AssetFact.id equal)
      exact history.open_unique.forall inOld inFacts apart (same.trans lineage.symm) ⟨alive,stillOpen⟩

theorem mem_of_vacated (member : other ∈ (vacated tables.facts call.moment.now (call.live tables)).rows) (alive : other.Live) :
    other ∈ tables.facts.rows := by
  cases found : call.live tables with
  | none =>
    rw [found] at member
    exact member
  | some live =>
    rw [found] at member
    obtain ⟨old,inOld,⟨_,rfl⟩ | ⟨_,rfl⟩⟩ := Table.mem_update.mp member
    · exact nomatch alive
    · exact inOld

theorem ended_of_vacated (history : History factClaims call.moment.now tables.facts.rows)
    (member : other ∈ (vacated tables.facts call.moment.now (call.live tables)).rows) {ended : Time}
    (closed : other.validTo = some ended) : ended ≤ call.moment.now := by
  cases found : call.live tables with
  | none =>
    rw [found] at member
    exact (history.ended other member ended closed).2
  | some live =>
    rw [found] at member
    obtain ⟨old,inOld,⟨_,rfl⟩ | ⟨_,rfl⟩⟩ := Table.mem_update.mp member
    · exact (Option.some.inj closed).ge
    · exact (history.ended other inOld ended closed).2

theorem compatible_close {now : Time} (alive : fact.Live) (compatible : Compatible fact other) :
    Compatible ((FactService.close now).change fact) other := by
  obtain ⟨overlap,_,_⟩ := compatible
  refine ⟨?_,?_,?_⟩
  · rw [Bool.eq_false_iff] at overlap ⊢
    intro all
    simp only [ValidityInterval.overlaps,Bool.and_eq_true,and_assoc,ne_eq] at all overlap
    obtain ⟨claim,source,_,kept,later,_⟩ := all
    have unended : fact.validTo = none := alive
    refine overlap ⟨claim,source,?_,kept,later,?_⟩
    · rw [unended]
      rfl
    · rw [unended]
      rfl
  · rw [Bool.eq_false_iff]
    intro all
    simp [FactService.close] at all
  · rw [Bool.eq_false_iff]
    intro all
    simp [FactService.close] at all

theorem sound_vacated (sound : SoundFacts tables) (history : History factClaims call.moment.now tables.facts.rows) :
    SoundFacts {tables with facts := vacated tables.facts call.moment.now (call.live tables)} := by
  cases found : call.live tables with
  | none => exact sound
  | some live =>
    obtain ⟨member,_,alive⟩ := liveClaim_some found
    refine sound.revise (fun _ => ⟨rfl,rfl,rfl,rfl⟩) ?_ ?_
    · intro fact inFacts same
      have begun : fact.validFrom ≤ call.moment.now := history.begun fact inFacts
      have passed := sound.checked fact inFacts
      simp only [Passes,AssetFact.checks,claimChecks,List.mem_append,List.mem_cons,List.not_mem_nil,or_false,or_imp,forall_and,
        forall_eq] at passed ⊢
      obtain ⟨columns,inference,verified,approved,_,confidence⟩ := passed
      exact ⟨columns,inference,verified,approved,decide_eq_true begun,confidence⟩
    · intro fact inFacts same other inOther differ
      rw [Table.eq_of_key inFacts member same]
      have apart : live.id ≠ other.id := fun equal => differ equal.symm
      exact compatible_close alive (sound.compatible_of_ne member inOther apart)

theorem ungoverned (history : History factClaims call.moment.now tables.facts.rows) (author : call.SameAuthor tables)
    (member : other ∈ (vacated tables.facts call.moment.now (call.live tables)).rows) : ¬ call.Governs other := by
  intro governs
  have alive : other.Live := governs.2.2.2
  have source := author other (mem_of_vacated member alive) governs
  exact closed_of_vacated history member (lineage_iff.mpr ⟨governs,source⟩).1 alive

theorem compatible_declared {value : FactValue} (history : History factClaims call.moment.now tables.facts.rows)
    (author : call.SameAuthor tables) (member : other ∈ (vacated tables.facts call.moment.now (call.live tables)).rows) :
    Compatible other (call.declared tables value) := by
  have claimed : sameClaim other (call.declared tables value) → other.assetId = call.assetId ∧
      other.predicate = call.payload.predicate ∧ other.factKind = .desiredState := by
    intro claim
    simp only [sameClaim,Bool.and_eq_true,decide_eq_true_eq] at claim
    exact ⟨claim.1.1,claim.1.2,claim.2⟩
  have dead : sameClaim other (call.declared tables value) → ¬ other.Live := by
    intro claim alive
    obtain ⟨asset,predicate,kind⟩ := claimed claim
    exact ungoverned history author member ⟨asset,predicate,kind,alive⟩
  refine ⟨?_,?_,?_⟩
  · rw [Bool.eq_false_iff]
    intro all
    simp only [ValidityInterval.overlaps,Bool.and_eq_true,and_assoc] at all
    obtain ⟨claim,_,_,_,_,before⟩ := all
    cases ended : other.validTo with
    | none => exact dead claim ended
    | some moment =>
      rw [ended] at before
      have later : call.moment.now < moment := of_decide_eq_true before
      exact absurd (ended_of_vacated history member ended) (not_le.mpr later)
  · rw [Bool.eq_false_iff]
    intro all
    simp only [Bool.and_eq_true,decide_eq_true_eq,and_assoc] at all
    exact dead all.1 all.2.2.1
  · rw [Bool.eq_false_iff]
    intro all
    simp only [Bool.and_eq_true,decide_eq_true_eq,and_assoc] at all
    exact dead all.1 all.2.1

theorem passes_approval : Passes (call.approval fact).checks ↔ fits 255 call.principal.subject ∧
    fits 255 call.principal.issuer ∧ fitsOptional 1024 call.payload.reason ∧ fitsOptional 128 call.requestId := by
  have shape : Passes (call.approval fact).checks ↔ (fits 255 call.principal.subject && fits 255 call.principal.issuer &&
      fitsOptional 1024 call.payload.reason && fitsOptional 128 call.requestId) = true := List.forall_mem_singleton
  rw [shape]
  simp only [Bool.and_eq_true,and_assoc]

theorem plain_predicate {predicate : String} (matched : matchesPredicate predicate) : Json.plainText predicate := by
  simp only [matchesPredicate,Bool.and_eq_true,List.all_eq_true] at matched
  rw [Json.plainText,List.all_eq_true]
  intro char member
  rw [← @List.intercalate_splitOn _ predicate.toList _ _ '.'] at member
  rcases Coding.mem_of_mem_intercalate member with rfl | ⟨segment,inSegments,inSegment⟩
  · rfl
  · have allowed := (matched.1 segment inSegments).2 char inSegment
    rw [decide_eq_true_eq]
    rintro rfl
    exact nomatch allowed

theorem passes_declared {value : FactValue} : Passes (call.declared tables value).checks ↔
    value.columnFits ∧ fitsOptional 24 call.payload.unit ∧ fits 255 call.principal.subject := by
  obtain ⟨length,matched,_⟩ := call.payload.predicate_rules
  have named : fits 128 call.payload.predicate = true := by
    rw [fits,Bool.and_eq_true,decide_eq_true_eq]
    exact ⟨length,plain_predicate matched⟩
  have person : fitsOptional 255 (some call.principal.subject) = fits 255 call.principal.subject := rfl
  have columns : Passes (call.declared tables value).checks ↔ (fits 128 call.payload.predicate && value.columnFits &&
      fitsOptional 24 call.payload.unit && (fits 255 call.principal.subject && fitsOptional 255 none &&
      fitsOptional 255 (some call.principal.subject))) = true := by
    constructor
    · exact fun passed => passed (.columnType,_) (List.mem_append_left _ List.mem_cons_self)
    · intro fitting
      have inference : ¬ (call.declared tables value).IsInference := by
        rintro (inferred | inferred) <;> exact nomatch inferred
      simp only [Passes,AssetFact.checks,claimChecks,List.mem_append,List.mem_cons,List.not_mem_nil,or_false,or_imp,
        forall_and,forall_eq]
      refine ⟨⟨fitting,matched,rfl⟩,?_,rfl,rfl,rfl,?_⟩
      · simp [inference]
      · simp [declared,FactService.newDesired]
  rw [columns,person,named]
  have blank : fitsOptional 255 none = true := rfl
  simp only [blank,Bool.and_eq_true,true_and,and_true,and_self,and_assoc]

theorem sound_declared {value : FactValue} {facts : Table AssetFact.id} (sound : SoundFacts tables)
    (history : History factClaims call.moment.now tables.facts.rows) (finds : call.Finds python tables screened)
    (author : call.SameAuthor tables) (fits : call.Fits tables value)
    (added : (vacated tables.facts call.moment.now (call.live tables)).insert (call.declared tables value) = some facts) :
    SoundFacts {tables with facts} := by
  have vacating := sound_vacated sound history
  have known : ∀ id, tables.hasFact id →
      ({tables with facts := vacated tables.facts call.moment.now (call.live tables)} : Tables).hasFact id := by
    intro id found
    cases live : call.live tables with
    | none => exact found
    | some claim =>
      rw [Tables.hasFact,vacated,find_update,Option.isSome_map]
      exact found
  refine vacating.insert added (passes_declared.mpr ⟨fits.stored,fits.unit,fits.subject⟩) finds.asset fits.refers ?_
    (fun id derived => known id (finds.derived id derived)) fun other member => compatible_declared history author member
  intro id superseded
  obtain ⟨live,found,rfl⟩ := Option.mem_map.mp superseded
  exact known live.id (hasFact_iff.mpr ⟨live,(liveClaim_some found).1,rfl⟩)

theorem run_eq {facts : Table AssetFact.id} {attestations : Table FactAttestation.id} (finds : call.Finds python tables screened)
    (added : (vacated tables.facts call.moment.now (call.live tables)).insert (call.declared tables screened.value) = some facts)
    (recorded : tables.attestations.insert (call.approval (call.declared tables screened.value)) = some attestations)
    (vacating : Tables.violation {tables with facts := vacated tables.facts call.moment.now (call.live tables)} = none)
    (inserting : Tables.violation {tables with facts} = none)
    (attesting : Tables.violation {tables with facts := facts,attestations := attestations} = none) :
    call.run python tables =
      .ok (call.declared tables screened.value,{tables with facts := facts,attestations := attestations}) := by
  obtain ⟨asset,found⟩ := Option.isSome_iff_exists.mp finds.asset
  have same : asset.id = call.assetId := (Table.find_eq_some.mp found).2
  have closing : FactService.closeLive Tables.violation call.moment tables (call.live tables) =
      .ok {tables with facts := vacated tables.facts call.moment.now (call.live tables)} := by
    cases live : call.live tables with
    | none => rfl
    | some claim =>
      rw [live] at vacating
      exact flush_eq vacating
  have inserted : insertFact {tables with facts := vacated tables.facts call.moment.now (call.live tables)}
      (call.declared tables screened.value) = .ok {tables with facts} := by
    unfold insertFact
    rw [added]
  have attested : insertAttestation {tables with facts} (call.approval (call.declared tables screened.value)) =
      .ok {tables with facts := facts,attestations := attestations} := by
    unfold insertAttestation
    rw [recorded]
  unfold run FactService.createDesired
  rw [requireAsset_eq found,ok_bind,finds.screened,ok_bind,same]
  change (FactService.closeLive Tables.violation call.moment tables (call.live tables) >>= fun closed =>
    insertFact closed (call.declared tables screened.value) >>= fun inserted => flush Tables.violation inserted >>= fun flushed =>
    insertAttestation flushed (call.approval (call.declared tables screened.value)) >>= fun attested =>
    flush Tables.violation attested >>= fun next => .ok (call.declared tables screened.value,next)) = _
  rw [closing,ok_bind,inserted,ok_bind,flush_eq inserting,ok_bind,attested,ok_bind,flush_eq attesting,ok_bind]

theorem replaces_of_author (accepted : tables.violation = none) (history : History factClaims call.moment.now tables.facts.rows)
    (finds : call.Finds python tables screened) (author : call.SameAuthor tables) (fits : call.Fits tables screened.value) :
    call.Replaces python tables := by
  obtain ⟨elsewhere,sound⟩ := violation_none.mp accepted
  have unused : (call.declared tables screened.value).id ∉
      (vacated tables.facts call.moment.now (call.live tables)).rows.map AssetFact.id := by
    have ids : (vacated tables.facts call.moment.now (call.live tables)).rows.map AssetFact.id =
        tables.facts.rows.map AssetFact.id := by
      cases call.live tables with
      | none => rfl
      | some live => exact Table.map_revise fun row => (FactService.close call.moment.now).keeps row
    rw [ids]
    exact finds.newFact
  obtain ⟨facts,added⟩ : ∃ facts, (vacated tables.facts call.moment.now (call.live tables)).insert
      (call.declared tables screened.value) = some facts := by
    rw [Table.insert,dif_pos unused]
    exact ⟨_,rfl⟩
  have unrecorded : (call.approval (call.declared tables screened.value)).id ∉
      tables.attestations.rows.map FactAttestation.id := finds.newAttestation
  obtain ⟨attestations,recorded⟩ : ∃ attestations, tables.attestations.insert
      (call.approval (call.declared tables screened.value)) = some attestations := by
    rw [Table.insert,dif_pos unrecorded]
    exact ⟨_,rfl⟩
  have inFacts : call.declared tables screened.value ∈ facts.rows := (Table.mem_insert added).mpr (.inr rfl)
  have declaring := sound_declared sound history finds author fits added
  have attesting : SoundFacts {tables with facts := facts,attestations := attestations} :=
    declaring.attest recorded (passes_approval.mpr ⟨fits.subject,fits.issuer,fits.reason,fits.requestId⟩)
      (hasFact_iff.mpr ⟨_,inFacts,rfl⟩)
  have ran := run_eq finds added recorded
    (violation_none.mpr ⟨elsewhere.facts _ tables.attestations,sound_vacated sound history⟩)
    (violation_none.mpr ⟨elsewhere.facts _ tables.attestations,declaring⟩)
    (violation_none.mpr ⟨elsewhere.facts _ _,attesting⟩)
  refine ⟨_,_,ran,inFacts,governs_declared _,?_,?_,?_⟩
  · intro other member governs
    rcases (Table.mem_insert added).mp member with left | same
    · exact absurd governs (ungoverned history author left)
    · exact same
  · intro previous member governs
    obtain ⟨lineage,alive⟩ := lineage_iff.mpr ⟨governs,author previous member governs⟩
    cases found : call.live tables with
    | none => exact absurd alive (liveClaim_none found previous member lineage)
    | some live =>
      obtain ⟨inLive,sameLineage,stillOpen⟩ := liveClaim_some found
      have same : previous = live := by
        by_contra differ
        exact history.open_unique.forall member inLive differ (lineage.trans sameLineage.symm) ⟨alive,stillOpen⟩
      subst same
      rw [found] at added
      have closed : (FactService.close call.moment.now).change previous ∈ facts.rows :=
        (Table.mem_insert added).mpr (.inl (Table.mem_update.mpr ⟨previous,member,.inl ⟨rfl,rfl⟩⟩))
      refine ⟨?_,_,closed,rfl,rfl⟩
      change (call.live tables).map (·.id) = some previous.id
      rw [found]
      rfl
  · intro none
    change (call.live tables).map (·.id) = Option.none
    cases found : call.live tables with
    | none => rfl
    | some live =>
      obtain ⟨inLive,lineage,stillOpen⟩ := liveClaim_some found
      exact absurd (lineage_iff.mp ⟨lineage,stillOpen⟩).1 (none live inLive)

theorem fits_of_replaces (finds : call.Finds python tables screened) (replaces : call.Replaces python tables) :
    call.SameAuthor tables ∧ call.Fits tables screened.value := by
  obtain ⟨fact,later,ran,_,_,alone,_,_⟩ := replaces
  obtain ⟨asset,passed,live,facts,attestations,found,lets,claimed,added,_,recorded,complete,rfl⟩ := createDesired_ok ran
  cases finds.screened.symm.trans lets
  have same : asset.id = call.assetId := (Table.find_eq_some.mp found).2
  subst claimed
  rw [same] at added recorded
  have inserted : (vacated tables.facts call.moment.now (call.live tables)).insert (call.declared tables screened.value) =
      some facts := added
  have attested : tables.attestations.insert (call.approval (call.declared tables screened.value)) = some attestations := recorded
  have inFacts : call.declared tables screened.value ∈ facts.rows := (Table.mem_insert inserted).mpr (.inr rfl)
  have sound := (violation_none.mp complete).2
  constructor
  · intro previous member governs
    by_contra other
    have left : previous ∈ (vacated tables.facts call.moment.now (call.live tables)).rows := by
      cases claim : call.live tables with
      | none => exact member
      | some live =>
        obtain ⟨inLive,lineage,stillOpen⟩ := liveClaim_some claim
        have source := (lineage_iff.mp ⟨lineage,stillOpen⟩).2
        refine Table.mem_update.mpr ⟨previous,member,.inr ⟨fun named => ?_,rfl⟩⟩
        exact other (Table.eq_of_key member inLive named ▸ source)
    have first := alone previous ((Table.mem_insert inserted).mpr (.inl left)) governs
    have second := alone _ inFacts (governs_declared screened.value)
    exact other (congrArg (·.sourceId) (first.trans second.symm))
  · obtain ⟨stored,unit,subject⟩ := passes_declared.mp (sound.checked _ inFacts)
    obtain ⟨_,issuer,reason,requestId⟩ := passes_approval.mp (sound.recorded _ ((Table.mem_insert attested).mpr (.inr rfl)))
    exact ⟨stored,fun id refers => sound.refers _ inFacts id refers,unit,subject,issuer,reason,requestId⟩

end Outcome

end Declaration

/-- After any run under a clock that does not go back, a declaration replaces the desired state
before it exactly if the same subject declared that and what it writes can be stored. -/
theorem desired_replaced (python : Python) (start : Tables) (began : Time) (ops : List Operation) (call : Declaration)
    (screened : ScreenResult) (accepted : start.violation = none) (history : History factClaims began start.facts.rows)
    (clock : (began :: (ops.map (·.moment.now) ++ [call.moment.now])).Pairwise (· ≤ ·))
    (finds : call.Finds python (after Tables.violation python start ops) screened) :
    call.Replaces python (after Tables.violation python start ops) ↔
      call.SameAuthor (after Tables.violation python start ops) ∧
        call.Fits (after Tables.violation python start ops) screened.value := by
  rw [← List.cons_append,List.pairwise_append] at clock
  obtain ⟨earlier,_,last⟩ := clock
  have now : clockAfter began ops ≤ call.moment.now := last _ (List.getLastD_mem_cons) _ List.mem_cons_self
  have told : History factClaims call.moment.now (after Tables.violation python start ops).facts.rows :=
    (Continued.run Tables.facts (fun op : Operation => op.moment.now) (fun _ _ told => chronicled_next told) history
      earlier).history.mono now
  constructor
  · exact Declaration.fits_of_replaces finds
  · rintro ⟨author,fits⟩
    exact Declaration.replaces_of_author (accepted_after accepted ops) told finds author fits

section Examples

/-- At `now`, a person wants the first host to have so much memory. -/
def wanting (now : Time) (first : Nat) (subject : String) (bytes : Rat) : Declaration where
  moment := labMoment now first
  occurredAt := now
  assetId := 1
  payload := labIntent bytes
  principal := labPerson subject

def Declaration.operation (call : Declaration) : Operation :=
  ⟨.claim (.createDesired call.occurredAt call.assetId call.payload call.principal call.derivedFrom call.requestId),
    call.moment⟩

def annWants : Tables := after Tables.violation labPython labTables [(wanting 1 100 "ann" 8).operation]

instance (call : Declaration) (fact : AssetFact) : Decidable (call.Governs fact) :=
  inferInstanceAs (Decidable (_ ∧ _ ∧ _ ∧ _))

theorem screen_lab (bytes : Rat) :
    screen labPython "memory.total_bytes" (.number (.finite bytes)) = .ok ⟨.number (.finite bytes),[]⟩ := by
  have named : predicateNamesSecret "memory.total_bytes" = false := by decide +kernel
  rw [screen.eq_def,named]
  rfl

theorem desired_replaced_again : (wanting 2 300 "ann" 16).Replaces labPython annWants := by
  have finds : (wanting 2 300 "ann" 16).Finds labPython annWants ⟨.number (.finite 16),[]⟩ :=
    ⟨by decide +kernel,screen_lab 16,nofun,by decide +kernel,by decide +kernel⟩
  refine (desired_replaced labPython labTables 0 _ _ _ (by decide +kernel) History.nil (by decide) finds).mpr ⟨?_,?_⟩
  · unfold Declaration.SameAuthor
    decide +kernel
  · exact ⟨rfl,nofun,rfl,by decide,by decide,rfl,rfl⟩

/-- What ann wants keeps ben from wanting something else. -/
theorem desired_refused : ¬ (wanting 2 300 "ben" 16).Replaces labPython annWants := by
  rintro ⟨fact,later,ran,_⟩
  have refused : ((wanting 2 300 "ben" 16).run labPython annWants).isOk = false := by decide +kernel
  rw [ran] at refused
  exact nomatch refused

end Examples

end Acop.Cmdb
