import Acop.Cmdb.Soundness
import Acop.Cmdb.Transitions
import Acop.Cmdb.Laboratory

/-! A trust transition of a live fact: refused by the service, or accepted by the database. -/
namespace Acop.Cmdb
open Acop.Store Acop.Serial

namespace TrustRequest

def operation (request : TrustRequest) (occurredAt : Time) (moment : Moment) : Operation :=
  ⟨.claim (.transition occurredAt request.factId request.action request.principal request.reason request.requestId),moment⟩

/-- The texts that the transition writes fit their columns. -/
structure Fits (request : TrustRequest) : Prop where
  subject : fits 255 request.principal.subject
  issuer : fits 255 request.principal.issuer
  reason : fitsOptional 1024 request.reason
  requestId : fitsOptional 128 request.requestId

variable (request : TrustRequest)

/-- The fact passes its checks, and one attestation says from where to where it has moved. -/
def Moved (tables later : Tables) (fact : AssetFact) : Prop :=
  ∃ changed row, later.facts.find fact.id = some changed ∧ Passes changed.checks ∧
    later.attestations.rows = tables.attestations.rows ++ [row] ∧ row.factId = fact.id ∧ row.action = request.action ∧
    row.fromStatus = fact.verificationStatus ∧ row.toStatus = changed.verificationStatus

/-- A service error leaves everything as it was, and anything else moves the fact. -/
def Orderly (python : Python) (tables : Tables) (moment : Moment) (occurredAt : Time) (fact : AssetFact) : Prop :=
  match attempt Tables.violation python tables (request.operation occurredAt moment) with
  | .error refusal => refusal.Service ∧ next Tables.violation python tables (request.operation occurredAt moment) = tables
  | .ok later => request.Moved tables later fact

/-- The guards refuse, or no desired state loses its approval and the texts fit. -/
def Admissible (tables : Tables) (fact : AssetFact) : Prop :=
  (∃ refusal, FactService.guardTransition tables fact request.action = .error refusal) ∨
    ((fact.factKind = .desiredState → request.action = .approve) ∧ request.Fits)

section Outcome

variable {request : TrustRequest} {python : Python} {tables : Tables} {moment : Moment} {occurredAt : Time} {fact : AssetFact}

theorem guardTransition_service {action : AttestationAction} {refusal : Refusal}
    (refused : FactService.guardTransition tables fact action = .error refusal) : refusal.Service := by
  have authority : ∀ {refusal}, (FactService.guardAuthoritativeTransition fact >>= fun _ =>
      FactService.guardSingleAuthority tables fact) = .error refusal → refusal.Service := by
    intro refusal refused
    unfold FactService.guardAuthoritativeTransition FactService.guardSingleAuthority at refused
    split at refused
    · cases refused
      trivial
    rw [ok_bind] at refused
    split at refused
    · cases refused
      trivial
    · cases refused
  cases action with
  | verify => exact authority refused
  | approve => exact authority refused
  | revoke =>
    unfold FactService.guardTransition at refused
    dsimp only at refused
    split at refused
    · cases refused
      trivial
    · cases refused

def attested (request : TrustRequest) (moment : Moment) (occurredAt : Time) (fact : AssetFact) : FactAttestation :=
  FactService.attestation fact request.action fact.verificationStatus
    (FactService.attributed request.action request.principal moment.now fact).verificationStatus request.principal
    request.reason request.requestId occurredAt (moment.newId 0)

def revised (request : TrustRequest) (tables : Tables) (moment : Moment) : Tables :=
  {tables with facts := tables.facts.update request.factId (FactService.attributing request.action request.principal moment.now)}

theorem attempt_operation (found : tables.facts.find request.factId = some fact) (live : fact.Live)
    {attestations : Table FactAttestation.id}
    (added : tables.attestations.insert (request.attested moment occurredAt fact) = some attestations) :
    attempt Tables.violation python tables (request.operation occurredAt moment) =
      (FactService.guardTransition tables fact request.action >>= fun _ =>
        flush Tables.violation {request.revised tables moment with attestations}) := by
  have recorded : insertAttestation (request.revised tables moment) (request.attested moment occurredAt fact) =
      .ok {request.revised tables moment with attestations} := by
    unfold insertAttestation
    rw [show (request.revised tables moment).attestations = tables.attestations from rfl,added]
  change (do return (← FactService.transition Tables.violation moment tables occurredAt request.factId request.action
    request.principal request.reason request.requestId).2) = _
  unfold FactService.transition
  rw [found]
  dsimp only
  rw [if_neg (by rw [live]; exact Bool.false_ne_true)]
  cases FactService.guardTransition tables fact request.action with
  | error refusal => rfl
  | ok _ =>
    rw [ok_bind,ok_bind]
    unfold revised attested at recorded
    rw [recorded,ok_bind]
    change ((flush Tables.violation {request.revised tables moment with attestations} >>= fun later =>
      Except.ok (FactService.attributed request.action request.principal moment.now fact,later)) >>= fun both => .ok both.2) = _
    cases flush Tables.violation {request.revised tables moment with attestations} <;> rfl

theorem authority_ok {action : AttestationAction} (takes : action ≠ .revoke)
    (guarded : FactService.guardTransition tables fact action = .ok ()) :
    ¬ fact.IsInference ∧ ∀ other ∈ tables.facts.rows, other.id ≠ fact.id → sameClaim fact other → other.Live →
      isAuthoritative other.verificationStatus = false := by
  have both : (FactService.guardAuthoritativeTransition fact >>= fun _ =>
      FactService.guardSingleAuthority tables fact) = .ok () := by
    cases action with
    | verify => exact guarded
    | approve => exact guarded
    | revoke => exact absurd rfl takes
  obtain ⟨⟨⟩,authoritative,single⟩ := bind_ok both
  constructor
  · obtain ⟨may,_⟩ := ok_of_guard authoritative
    rintro (inference | ai)
    · simp [mayBecomeAuthoritative,inference] at may
    · simp [mayBecomeAuthoritative,ai] at may
  · intro other member differ claim alive
    unfold FactService.guardSingleAuthority at single
    split at single
    · cases single
    · rename_i free
      have passed := List.find?_eq_none.mp free other member
      simp only [sameClaim,Bool.and_eq_true,decide_eq_true_eq] at claim
      obtain ⟨⟨asset,named⟩,kind⟩ := claim
      simpa [asset,named,kind,show other.validTo = none from alive,differ] using passed

theorem passes_attributed {action : AttestationAction} {principal : Principal} {now : Time} (checked : Passes fact.checks)
    (allowed : action ≠ .revoke → ¬ fact.IsInference) (approved : fact.factKind = .desiredState → action = .approve)
    (subject : fits 255 principal.subject) : Passes (FactService.attributed action principal now fact).checks := by
  simp only [Passes,AssetFact.checks,claimChecks,List.mem_append,List.mem_cons,List.not_mem_nil,or_false,
    or_imp,forall_and,forall_eq,Bool.and_eq_true,Provenance.columnsFit] at checked ⊢
  obtain ⟨⟨⟨⟨⟨predicate,value⟩,unit⟩,⟨source,verifier⟩,approver⟩,format,_⟩,_,_,_,interval,low,high⟩ := checked
  have name : fitsOptional 255 (some principal.subject) = true := subject
  cases action with
  | verify =>
    have inferred : (!(decide fact.IsInference && isAuthoritative .verified)) = true := by simp [allowed (by decide)]
    have desired : (decide (fact.factKind ≠ .desiredState) || decide (VerificationStatus.verified = .approved)) = true := by
      simp only [Bool.or_eq_true,decide_eq_true_eq]
      exact .inl fun kind => absurd (approved kind) (by decide)
    exact ⟨⟨⟨⟨⟨predicate,value⟩,unit⟩,⟨source,name⟩,approver⟩,format,desired⟩,inferred,rfl,rfl,interval,low,high⟩
  | approve =>
    have inferred : (!(decide fact.IsInference && isAuthoritative .approved)) = true := by simp [allowed (by decide)]
    have desired : (decide (fact.factKind ≠ .desiredState) || decide (VerificationStatus.approved = .approved)) = true := by
      simp
    exact ⟨⟨⟨⟨⟨predicate,value⟩,unit⟩,⟨source,verifier⟩,name⟩,format,desired⟩,inferred,rfl,rfl,interval,low,high⟩
  | revoke =>
    have plain := defaultStatusFor_plain fact.sourceType
    have inferred : (!(decide fact.IsInference && isAuthoritative (defaultStatusFor fact.sourceType))) = true := by simp
    have desired : (decide (fact.factKind ≠ .desiredState) || decide (defaultStatusFor fact.sourceType = .approved)) = true := by
      simp only [Bool.or_eq_true,decide_eq_true_eq]
      exact .inl fun kind => absurd (approved kind) (by decide)
    have unverified : defaultStatusFor fact.sourceType ≠ .verified := by
      intro same
      rw [same] at plain
      cases plain
    have unapproved : defaultStatusFor fact.sourceType ≠ .approved := by
      intro same
      rw [same] at plain
      cases plain
    refine ⟨⟨⟨⟨⟨predicate,value⟩,unit⟩,⟨source,rfl⟩,rfl⟩,format,desired⟩,inferred,?_,?_,interval,low,high⟩
    · simp [FactService.attributed,unverified]
    · simp [FactService.attributed,unapproved]

theorem passes_attested : Passes (request.attested moment occurredAt fact).checks ↔ request.Fits := by
  have shape : Passes (request.attested moment occurredAt fact).checks ↔ (fits 255 request.principal.subject &&
      fits 255 request.principal.issuer && fitsOptional 1024 request.reason && fitsOptional 128 request.requestId) = true :=
    List.forall_mem_singleton
  rw [shape]
  simp only [Bool.and_eq_true]
  exact ⟨fun ⟨⟨⟨subject,issuer⟩,reason⟩,requestId⟩ => ⟨subject,issuer,reason,requestId⟩,
    fun ⟨subject,issuer,reason,requestId⟩ => ⟨⟨⟨subject,issuer⟩,reason⟩,requestId⟩⟩

theorem attributed_same {action : AttestationAction} {principal : Principal} {now : Time} (fact : AssetFact) :
    (FactService.attributed action principal now fact).assetId = fact.assetId ∧
      (FactService.attributed action principal now fact).value = fact.value ∧
      (FactService.attributed action principal now fact).supersedesFactId = fact.supersedesFactId ∧
      (FactService.attributed action principal now fact).derivedFromFactId = fact.derivedFromFactId := by
  cases action <;> exact ⟨rfl,rfl,rfl,rfl⟩

theorem compatible_attributed {action : AttestationAction} {principal : Principal} {now : Time} {other : AssetFact}
    (compatible : Compatible fact other) (alone : action ≠ .revoke → sameClaim fact other → other.Live →
      isAuthoritative other.verificationStatus = false) :
    Compatible (FactService.attributed action principal now fact) other := by
  obtain ⟨overlap,live,authority⟩ := compatible
  have claimed : ∀ status, (action ≠ .revoke ∨ isAuthoritative status = false) →
      (sameClaim fact other && fact.validTo = none && other.validTo = none && isAuthoritative status &&
        isAuthoritative other.verificationStatus) = false := by
    intro status given
    rw [Bool.eq_false_iff]
    intro all
    simp only [Bool.and_eq_true,decide_eq_true_eq] at all
    obtain ⟨⟨⟨⟨claim,_⟩,alive⟩,taken⟩,incumbent⟩ := all
    rcases given with takes | plain
    · rw [alone takes claim alive] at incumbent
      exact nomatch incumbent
    · rw [plain] at taken
      exact nomatch taken
  cases action with
  | verify => exact ⟨overlap,live,claimed .verified (.inl (by decide))⟩
  | approve => exact ⟨overlap,live,claimed .approved (.inl (by decide))⟩
  | revoke => exact ⟨overlap,live,claimed _ (.inr (defaultStatusFor_plain fact.sourceType))⟩

/-- The database accepts what the guards let through exactly if a desired state stays approved and the texts fit. -/
theorem accepts_iff (accepted : tables.violation = none) (found : tables.facts.find request.factId = some fact)
    {attestations : Table FactAttestation.id}
    (added : tables.attestations.insert (request.attested moment occurredAt fact) = some attestations)
    (guarded : FactService.guardTransition tables fact request.action = .ok ()) :
    Tables.violation {request.revised tables moment with attestations} = none ↔
      (fact.factKind = .desiredState → request.action = .approve) ∧ request.Fits := by
  obtain ⟨elsewhere,sound⟩ := violation_none.mp accepted
  obtain ⟨member,named⟩ := Table.find_eq_some.mp found
  have others : SoundElsewhere {request.revised tables moment with attestations} := elsewhere.facts _ _
  rw [violation_none,and_iff_right others]
  constructor
  · intro after
    have passed := after.checked (FactService.attributed request.action request.principal moment.now fact)
      (Table.mem_update.mpr ⟨fact,member,.inl ⟨named,rfl⟩⟩)
    refine ⟨fun kind => ?_,passes_attested.mp (after.recorded _ ((Table.mem_insert added).mpr (.inr rfl)))⟩
    have approved := passed (.desiredIsApproved,_) (by simp only [AssetFact.checks]; exact .tail _ (.tail _ (.head _)))
    cases action : request.action with
    | approve => rfl
    | verify =>
      rw [action] at approved
      simp [FactService.attributed,kind] at approved
    | revoke =>
      rw [action] at approved
      have plain := defaultStatusFor_plain fact.sourceType
      simp only [FactService.attributed,kind,Bool.or_eq_true,decide_eq_true_eq] at approved
      rw [approved.resolve_left (by simp)] at plain
      exact nomatch plain
  · rintro ⟨approved,texts⟩
    have revising : SoundFacts (request.revised tables moment) := by
      refine sound.revise attributed_same ?_ ?_
      · intro old inOld same
        rw [Table.eq_of_key inOld member (same.trans named.symm)]
        exact passes_attributed (sound.checked fact member) (fun takes => (authority_ok takes guarded).1) approved texts.subject
      · intro old inOld same other inOther differ
        rw [Table.eq_of_key inOld member (same.trans named.symm)]
        have apart : other.id ≠ fact.id := fun equal => differ (equal.trans named)
        exact compatible_attributed (sound.compatible_of_ne member inOther apart.symm) fun takes claim alive =>
          (authority_ok takes guarded).2 other inOther apart claim alive
    refine revising.attest added (passes_attested.mpr texts) (hasFact_iff.mpr ?_)
    exact ⟨_,Table.mem_update.mpr ⟨fact,member,.inl ⟨named,rfl⟩⟩,(FactService.attributing _ _ _).keeps fact⟩

/-- A transition of a live fact is orderly exactly if it is admissible. -/
theorem orderly_iff (accepted : tables.violation = none) (found : tables.facts.find request.factId = some fact)
    (live : fact.Live) (fresh : moment.newId 0 ∉ tables.attestations.rows.map FactAttestation.id) :
    request.Orderly python tables moment occurredAt fact ↔ request.Admissible tables fact := by
  have unused : (request.attested moment occurredAt fact).id ∉ tables.attestations.rows.map FactAttestation.id := fresh
  obtain ⟨attestations,added⟩ : ∃ attestations,
      tables.attestations.insert (request.attested moment occurredAt fact) = some attestations := by
    rw [Table.insert,dif_pos unused]
    exact ⟨_,rfl⟩
  have tried : attempt Tables.violation python tables (request.operation occurredAt moment) = _ :=
    attempt_operation found live added
  cases guarded : FactService.guardTransition tables fact request.action with
  | error refusal =>
    rw [guarded,error_bind] at tried
    refine iff_of_true ?_ (.inl ⟨refusal,guarded⟩)
    unfold Orderly
    rw [tried]
    exact ⟨guardTransition_service guarded,settle_error tried⟩
  | ok _ =>
    rw [guarded,ok_bind] at tried
    have condition : request.Admissible tables fact ↔
        (fact.factKind = .desiredState → request.action = .approve) ∧ request.Fits := by
      rw [Admissible,guarded]
      exact or_iff_right fun ⟨_,refused⟩ => nomatch refused
    rw [condition,← accepts_iff accepted found added guarded]
    cases verdict : Tables.violation {request.revised tables moment with attestations} with
    | some constraint =>
      rw [flush_refused verdict] at tried
      unfold Orderly
      rw [tried]
      exact iff_of_false (fun both => both.1) nofun
    | none =>
      rw [flush_eq verdict] at tried
      unfold Orderly
      rw [tried]
      refine iff_of_true ?_ rfl
      obtain ⟨member,named⟩ := Table.find_eq_some.mp found
      have moved : FactService.attributed request.action request.principal moment.now fact ∈
          (request.revised tables moment).facts.rows := Table.mem_update.mpr ⟨fact,member,.inl ⟨named,rfl⟩⟩
      exact ⟨_,request.attested moment occurredAt fact,
        Table.find_eq_some.mpr ⟨moved,(FactService.attributing _ _ _).keeps fact⟩,
        (violation_none.mp verdict).2.checked _ moved,
        (Table.insert_eq_some added).2,rfl,rfl,rfl,rfl⟩

end Outcome

end TrustRequest

section Examples

def labIntended : AssetFact :=
  FactService.newDesired (labMoment 1 100) 1 (labIntent 8) (.number (.finite 8)) (labPerson "ann") none none

def labObserved : AssetFact := FactService.newFact (labMoment 1 200) 1 (memory 4 .liveDiscovery) (.number (.finite 4)) none

def labClaims : Tables := {labTables with facts := ⟨[labIntended,labObserved],by decide⟩}

def verifying (factId : Uuid) : TrustRequest := {factId,action := .verify,principal := labPerson "ben"}

theorem orderly_iff_observed : labClaims.violation = none ∧
    ((verifying 200).Orderly labPython labClaims (labMoment 2 300) 2 labObserved ↔
      (verifying 200).Admissible labClaims labObserved) := by
  have accepted : labClaims.violation = none := by decide +kernel
  have found : labClaims.facts.find (verifying 200).factId = some labObserved := rfl
  exact ⟨accepted,TrustRequest.orderly_iff accepted found rfl (by decide)⟩

/-- The database refuses to verify a desired state, which no guard of the service did. -/
theorem desired_unverified : labClaims.violation = none ∧ labClaims.facts.find 100 = some labIntended ∧ labIntended.Live ∧
    ¬ (verifying 100).Orderly labPython labClaims (labMoment 2 300) 2 labIntended := by
  refine ⟨by decide +kernel,rfl,rfl,?_⟩
  have refused : integrityOf (attempt Tables.violation labPython labClaims ((verifying 100).operation 2 (labMoment 2 300))) =
      some .desiredIsApproved := by decide +kernel
  intro orderly
  unfold TrustRequest.Orderly at orderly
  rw [integrityOf_some refused] at orderly
  exact orderly.1

end Examples

end Acop.Cmdb
