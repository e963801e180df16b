import Acop.Cmdb.Transitions
import Acop.Cmdb.Effects
import Acop.Cmdb.Laboratory
import Acop.Transaction.Alone

/-! The log of a fact's trust. Its attestations, in the order of their commits, lead from the
status that the fact began with to the one that it has, as long as no two transitions of one fact
overlap. -/
namespace Acop.Cmdb
open Acop.Store Acop.Transaction

section Log

/-- Each attestation leads on from where the one before it led. -/
def Leads : VerificationStatus → List FactAttestation → VerificationStatus → Prop
  | first,[],last => first = last
  | first,row::rows,last => row.fromStatus = first ∧ Leads row.toStatus rows last

variable {first last other : VerificationStatus} {rows : List FactAttestation} {row : FactAttestation}

theorem Leads.unique (leads : Leads first rows last) (alsoLeads : Leads first rows other) : last = other := by
  induction rows generalizing first with
  | nil => exact Eq.trans (Eq.symm leads) alsoLeads
  | cons row rows ih => exact ih leads.2 alsoLeads.2

theorem leads_concat : Leads first (rows ++ [row]) last ↔ Leads first rows row.fromStatus ∧ row.toStatus = last := by
  induction rows generalizing first with
  | nil =>
    constructor
    · exact fun leads => ⟨leads.1.symm,leads.2⟩
    · exact fun leads => ⟨Eq.symm leads.1,leads.2⟩
  | cons head rows ih =>
    rw [List.cons_append,Leads,Leads,ih,and_assoc]

def Tables.logOf (tables : Tables) (factId : Uuid) : List FactAttestation :=
  tables.attestations.rows.filter (·.factId = factId)

/-- The log of every fact leads from the status that it began with to the one that it has. -/
def Attested (initial : Uuid → VerificationStatus) (tables : Tables) : Prop :=
  ∀ fact ∈ tables.facts.rows, Leads (initial fact.id) (tables.logOf fact.id) fact.verificationStatus

end Log

section Commit

variable {initial : Uuid → VerificationStatus} {tables : Tables} {read changed fact : AssetFact} {row : FactAttestation}
  {writes : List TrustWrite}

/-- The writes are those of one transition, which attests the change that it makes. -/
def Saved (writes : List TrustWrite) : Prop :=
  ∃ read changed row, writes = trustWrites read changed row ∧ row.factId = read.id ∧
    row.fromStatus = read.verificationStatus ∧ row.toStatus = changed.verificationStatus

/-- No attestation that is written has a key that is taken. -/
def Unused (writes : List TrustWrite) (tables : Tables) : Prop :=
  ∀ row, .insertAttestation row ∈ writes → row.id ∉ tables.attestations.rows.map FactAttestation.id

/-- The fact still has the status that the transition was decided on. -/
def Timely (writes : List TrustWrite) (tables : Tables) : Prop :=
  ∀ row, .insertAttestation row ∈ writes → ∀ fact, tables.facts.find row.factId = some fact →
    fact.verificationStatus = row.fromStatus

theorem insertAttestation_mem {other : FactAttestation} :
    .insertAttestation other ∈ trustWrites read changed row ↔ other = row := by
  unfold trustWrites
  dsimp only
  split <;> simp

theorem netChange_getD {Column : Type} [DecidableEq Column] (read changed : Column) :
    (netChange read changed).getD read = changed := by
  unfold netChange
  split
  · rename_i same
    exact same.symm
  · rfl

theorem setting_nothing (fact : AssetFact) : TrustColumns.nothing.setting.change fact = fact := rfl

theorem settle_facts : ((trustWrites read changed row).foldl Tables.applyTrust tables).facts.rows =
    (tables.facts.update read.id (TrustColumns.netChanges read changed).setting).rows := by
  have inserted : ∀ tables : Tables, (tables.applyTrust (.insertAttestation row)).facts = tables.facts := by
    intro tables
    unfold Tables.applyTrust
    dsimp only
    split
    · rfl
    · rfl
  unfold trustWrites
  dsimp only
  split
  · rename_i unchanged
    rw [unchanged,List.nil_append,List.foldl_cons,List.foldl_nil,inserted,Table.update,Table.rows_revise]
    have same : (fun fact : AssetFact => if decide (fact.id = read.id) = true then
        TrustColumns.nothing.setting.change fact else fact) = id := by
      funext fact
      rw [setting_nothing,ite_self,id]
    rw [same,List.map_id]
  · rw [List.singleton_append,List.foldl_cons,List.foldl_cons,List.foldl_nil,inserted]
    rfl

theorem settle_attestations (unused : row.id ∉ tables.attestations.rows.map FactAttestation.id) :
    ((trustWrites read changed row).foldl Tables.applyTrust tables).attestations.rows = tables.attestations.rows ++ [row] := by
  have inserted : ∀ later : Tables, later.attestations = tables.attestations →
      (later.applyTrust (.insertAttestation row)).attestations.rows = tables.attestations.rows ++ [row] := by
    intro later same
    unfold Tables.applyTrust
    dsimp only
    rw [same]
    split
    · rename_i attestations added
      exact (Table.insert_eq_some added).2
    · rename_i refused
      rw [Table.insert,dif_pos unused] at refused
      cases refused
  unfold trustWrites
  dsimp only
  split
  · exact inserted tables rfl
  · exact inserted _ rfl

/-- The step lemma: behind the commit of a transition the logs agree exactly when it was timely. -/
theorem attested_settle (saved : Saved writes) (unused : Unused writes tables) (attested : Attested initial tables) :
    Attested initial (writes.foldl Tables.applyTrust tables) ↔ Timely writes tables := by
  obtain ⟨read,changed,row,rfl,named,source,target⟩ := saved
  have rows := @settle_attestations tables read changed row (unused row (insertAttestation_mem.mpr rfl))
  have own : ((trustWrites read changed row).foldl Tables.applyTrust tables).logOf read.id = tables.logOf read.id ++ [row] := by
    rw [Tables.logOf,rows,List.filter_append]
    simp [Tables.logOf,named]
  have status : ∀ fact : AssetFact, ((TrustColumns.netChanges read changed).setting.change fact).verificationStatus =
      (netChange read.verificationStatus changed.verificationStatus).getD fact.verificationStatus := fun _ => rfl
  have kept : ∀ fact : AssetFact, ((TrustColumns.netChanges read changed).setting.change fact).id = fact.id := fun _ => rfl
  constructor
  · intro after other written fact found
    cases insertAttestation_mem.mp written
    obtain ⟨member,same⟩ := Table.find_eq_some.mp found
    rw [named] at same
    have inAfter : (TrustColumns.netChanges read changed).setting.change fact ∈
        ((trustWrites read changed row).foldl Tables.applyTrust tables).facts.rows := by
      rw [settle_facts]
      exact Table.mem_update.mpr ⟨fact,member,.inl ⟨same,rfl⟩⟩
    have led := after _ inAfter
    rw [kept,same,own,leads_concat] at led
    have before := attested fact member
    rw [same] at before
    exact before.unique led.1
  · intro timely fact inAfter
    rw [settle_facts] at inAfter
    obtain ⟨old,member,⟨same,rfl⟩ | ⟨other,rfl⟩⟩ := Table.mem_update.mp inAfter
    · have current := timely row (insertAttestation_mem.mpr rfl) old (Table.find_eq_some.mpr ⟨member,same.trans named.symm⟩)
      have before := attested old member
      rw [kept,same,own,leads_concat,status,current,source,netChange_getD]
      rw [same,current,source] at before
      exact ⟨before,target⟩
    · have apart : row.factId ≠ fact.id := fun same => other (same.symm.trans named)
      have still : ((trustWrites read changed row).foldl Tables.applyTrust tables).logOf fact.id = tables.logOf fact.id := by
        rw [Tables.logOf,rows,List.filter_append]
        simp [Tables.logOf,apart]
      rw [still]
      exact attested fact member

end Commit

section Sessions

variable {verdict : Verdict} {initial : Uuid → VerificationStatus}

/-- The session serves the request and has read this of its fact. -/
structure Decided (request : TrustRequest) (read : AssetFact)
    (past : List (Event TrustReply Refusal AssetFact TrustRequest Tables TrustWrite)) : Prop where
  started : .start request ∈ past
  asked : ∃ tables, .call (.getFact request.factId) (some read) tables ∈ past ∧ tables.facts.find request.factId = some read

/-- What is attested is of the fact that was asked for, with the status that it was read with. -/
def Attests (writes : List TrustWrite) (past : List (Event TrustReply Refusal AssetFact TrustRequest Tables TrustWrite)) : Prop :=
  ∃ request read, Decided request read past ∧ ∀ row, .insertAttestation row ∈ writes →
    row.factId = request.factId ∧ row.fromStatus = read.verificationStatus

/-- What a transition commits, and that nobody takes the key of an attestation that it has written. -/
def saving (verdict : Verdict) : Spec (transitions verdict) where
  Inv _ := True
  Com writes tables := Saved writes ∧ Unused writes tables
  Agree locks old new := ∀ id, .attestation id ∈ locks → id ∈ new.attestations.rows.map FactAttestation.id →
    id ∈ old.attestations.rows.map FactAttestation.id
  assume _ _ _ _ := True
  duty past event := match event with
    | .commit writes _ => Attests writes past
    | _ => True
  agree_refl _ _ _ _ taken := taken
  agree_trans _ _ _ _ first second id locked taken := first id locked (second id locked taken)
  guarantee := by
    rintro locks tables writes _ ⟨⟨read,changed,row,rfl,_⟩,unused⟩ free id locked taken
    have rows := @settle_attestations tables read changed row (unused row (insertAttestation_mem.mpr rfl))
    have settled : (transitions verdict).settle tables (trustWrites read changed row) =
        (trustWrites read changed row).foldl Tables.applyTrust tables := rfl
    rw [settled,rows,List.map_append,List.mem_append] at taken
    refine taken.resolve_right fun new => ?_
    have own : id = row.id := by simpa using new
    subst own
    apply free (.attestation row.id) _ locked
    exact List.mem_flatMap.mpr ⟨.insertAttestation row,insertAttestation_mem.mpr rfl,List.mem_singleton_self _⟩
  preserves _ _ _ _ := trivial
  duty_start _ := trivial
  duty_crash _ := trivial

variable {good : AssetFact → (saving verdict).Assertion} {bad : Refusal → (saving verdict).Assertion}
  {tables : Tables} {past : List (Event TrustReply Refusal AssetFact TrustRequest Tables TrustWrite)}

theorem Decided.onward {request : TrustRequest} {read : AssetFact} (decided : Decided request read past)
    {later : List (Event TrustReply Refusal AssetFact TrustRequest Tables TrustWrite)} (onward : past ⊆ later) :
    Decided request read later := by
  obtain ⟨started,tables,asked,found⟩ := decided
  exact ⟨onward started,tables,onward asked,found⟩

theorem saving_read {stmt : TrustStmt} {α : Type} {rest : TrustReply stmt → TrustService α}
    {good : α → (saving verdict).Assertion}
    (reads : ∀ tables input, (executeTrust verdict tables input stmt).2 = [])
    (quiet : ∀ past reply now, (saving verdict).duty past (.call stmt reply now))
    (follows : ∀ reply now later, past ⊆ later → .call stmt reply now ∈ later →
      (∃ input, (executeTrust verdict now input stmt).1 = reply) → (saving verdict).Ok good bad (rest reply) [] now later) :
    (saving verdict).Ok good bad (issue stmt >>= rest) [] tables past := by
  intro now _ _ _ input reply new answered
  have answered : executeTrust verdict now input stmt = (reply,new) := Option.some.inj answered
  have none := reads now input
  rw [answered] at none
  refine ⟨quiet past reply now,?_⟩
  cases none
  exact follows reply now _ (List.subset_append_left _ _) (List.mem_append_right _ (.head _)) ⟨input,by rw [answered]⟩

theorem saving_flush {read changed : AssetFact} {row : FactAttestation} {rest : Except Constraint Unit → TrustService AssetFact}
    (refused : ∀ constraint now later, (saving verdict).Ok good bad (rest (.error constraint)) [] now later)
    (flushed : ∀ now later, past ⊆ later → row.id ∉ now.attestations.rows.map FactAttestation.id →
      (saving verdict).Ok good bad (rest (.ok ())) (trustWrites read changed row) now later) :
    (saving verdict).Ok good bad (issue (.flush read changed row) >>= rest) [] tables past := by
  intro now _ _ _ input reply new answered
  refine ⟨trivial,?_⟩
  have answered : executeTrust verdict now input (.flush read changed row) = (reply,new) := Option.some.inj answered
  unfold executeTrust at answered
  dsimp only at answered
  split at answered
  · cases answered
    exact refused _ _ _
  · rename_i unused
    split at answered
    · cases answered
      exact refused _ _ _
    · cases answered
      exact flushed _ _ (List.subset_append_left _ _) unused

theorem saving_authority {fact : AssetFact} {rest : Unit → TrustService AssetFact}
    (refused : ∀ refusal now later, bad refusal [] now later)
    (follows : ∀ now later, past ⊆ later → (saving verdict).Ok good bad (rest ()) [] now later) :
    (saving verdict).Ok good bad ((match FactService.guardAuthoritativeTransition fact with
      | .error refusal => throw refusal
      | .ok _ => TrustRequest.guardSingleAuthority fact) >>= rest) [] tables past := by
  split
  · exact refused _ _ _
  · unfold TrustRequest.guardSingleAuthority
    rw [Program.bind_assoc]
    refine saving_read (fun _ _ => rfl) (fun _ _ _ => trivial) fun found now later onward _ _ => ?_
    cases found with
    | none => exact follows now later onward
    | some incumbent => exact refused _ _ _

theorem saving_guard {fact : AssetFact} {action : AttestationAction} {rest : Unit → TrustService AssetFact}
    (refused : ∀ refusal now later, bad refusal [] now later)
    (follows : ∀ now later, past ⊆ later → (saving verdict).Ok good bad (rest ()) [] now later) :
    (saving verdict).Ok good bad (TrustRequest.guardTransition fact action >>= rest) [] tables past := by
  cases action with
  | revoke =>
    unfold TrustRequest.guardTransition
    dsimp only
    split
    · exact refused _ _ _
    · exact follows tables past (List.Subset.refl past)
  | verify => exact saving_authority refused follows
  | approve => exact saving_authority refused follows

theorem saving_verified : (saving verdict).Verified := by
  intro request tables _
  refine saving_read (fun _ _ => rfl) (fun _ _ _ => trivial) fun found now later onward heard answered => ?_
  obtain ⟨_,same⟩ := answered
  have same : now.facts.find request.factId = found := same
  cases found with
  | none => exact trivial
  | some fact =>
    have decided : Decided request fact later := ⟨onward (.head _),now,heard,same⟩
    have named : fact.id = request.factId := (Table.find_eq_some.mp same).2
    dsimp only
    split
    · exact trivial
    refine saving_guard (fun _ _ _ => trivial) fun now later onward => ?_
    have decided := decided.onward onward
    refine saving_read (fun _ _ => rfl) (fun _ _ _ => trivial) fun moment now later onward _ _ => ?_
    have decided := decided.onward onward
    refine saving_read (fun _ _ => rfl) (fun _ _ _ => trivial) fun occurredAt now later onward _ _ => ?_
    have decided := decided.onward onward
    refine saving_read (fun _ _ => rfl) (fun _ _ _ => trivial) fun id now later onward _ _ => ?_
    have decided := decided.onward onward
    refine saving_flush (fun _ _ _ => trivial) fun now later onward unused => ?_
    have decided := decided.onward onward
    intro last agree _
    refine ⟨⟨⟨_,_,_,rfl,rfl,rfl,rfl⟩,?_⟩,⟨request,fact,decided,?_⟩,trivial⟩
    · intro row written taken
      cases insertAttestation_mem.mp written
      apply unused
      apply agree _ _ taken
      exact List.mem_flatMap.mpr ⟨_,insertAttestation_mem.mpr rfl,List.mem_singleton_self _⟩
    · intro row written
      cases insertAttestation_mem.mp written
      exact ⟨named,rfl⟩

variable {start : Tables} {w : World TrustReply Refusal AssetFact TrustRequest Tables TrustWrite}

theorem attested_commit (reachable : (transitions verdict).Reachable (transitions verdict).free start w)
    {before after : List (Nat × Event TrustReply Refusal AssetFact TrustRequest Tables TrustWrite)} {id : Nat}
    {writes : List TrustWrite} {tables : Tables} (split : w.trace = before ++ (id,.commit writes tables)::after)
    (attested : Attested initial ((transitions verdict).replay start before)) :
    Attested initial ((transitions verdict).replay start (before ++ [(id,.commit writes tables)])) ↔ Timely writes tables := by
  have told := System.chronicled_of_reachable reachable
  have sound : (saving verdict).Sound w :=
    Spec.sound_of_reachable saving_verified (fun _ _ _ _ _ _ _ _ => trivial) trivial reachable
  have same := told.dated before id _ after split tables rfl
  obtain ⟨saved,unused⟩ := ((sound.due before id _ after split).committed writes tables rfl).2
  rw [System.replay_append,← same]
  rw [← same] at attested
  exact attested_settle saved unused attested

theorem attested_replay (attested : Attested initial start)
    (reachable : (transitions verdict).Reachable (transitions verdict).free start w)
    (timely : ∀ id writes tables, (id,.commit writes tables) ∈ w.trace → Timely writes tables)
    (before : List (Nat × Event TrustReply Refusal AssetFact TrustRequest Tables TrustWrite)) (reached : before <+: w.trace) :
    Attested initial ((transitions verdict).replay start before) := by
  induction before using List.reverseRec with
  | nil => exact attested
  | append_singleton before entry ih =>
    obtain ⟨id,event⟩ := entry
    obtain ⟨after,split⟩ := reached
    have split' : w.trace = before ++ (id,event)::after := by simpa using split.symm
    have agreed := ih ((List.prefix_append _ _).trans ⟨after,split⟩)
    by_cases published : ∃ writes tables, event = .commit writes tables
    · obtain ⟨writes,tables,rfl⟩ := published
      refine (attested_commit reachable split' agreed).mpr (timely id writes tables ?_)
      rw [split']
      exact List.mem_append_right _ (.head _)
    · rw [System.replay_append,System.replay_other]
      · exact agreed
      · exact fun writes tables same => published ⟨writes,tables,same⟩

/-- Along any run of transitions, side by side as they may be, from tables whose logs agree: the
logs agree in every state that the run goes through if and only if every transition commits in time. -/
theorem attested_iff_timely (attested : Attested initial start)
    (reachable : (transitions verdict).Reachable (transitions verdict).free start w) :
    (∀ earlier, (transitions verdict).Reachable (transitions verdict).free start earlier →
        (transitions verdict).Steps (transitions verdict).free earlier w → Attested initial earlier.committed) ↔
      ∀ id writes tables, (id,.commit writes tables) ∈ w.trace → Timely writes tables := by
  constructor
  · intro agreed id writes tables member
    obtain ⟨before,after,split⟩ := List.append_of_mem member
    have replayed : ∀ part, part <+: w.trace → Attested initial ((transitions verdict).replay start part) := by
      intro part earlier
      obtain ⟨middle,reached,later,told⟩ := System.reached_at _ reachable earlier
      have current := (System.chronicled_of_reachable reached).current
      rw [told] at current
      rw [← current]
      exact agreed middle reached later
    have behind : before ++ [(id,.commit writes tables)] <+: w.trace := ⟨after,by simp [split]⟩
    exact (attested_commit reachable split (replayed before ((List.prefix_append _ _).trans behind))).mp (replayed _ behind)
  · intro timely earlier reached later
    rw [(System.chronicled_of_reachable reached).current]
    exact attested_replay attested reachable timely earlier.trace (System.grows_of_steps _ later)

def Serves (w : World TrustReply Refusal AssetFact TrustRequest Tables TrustWrite) (id : Nat) (factId : Uuid) : Prop :=
  ∃ request : TrustRequest, (id,.start request) ∈ w.trace ∧ request.factId = factId

/-- No two transitions of one fact overlap: from the one's reading of the fact to its commit, none commits. -/
def Apart (w : World TrustReply Refusal AssetFact TrustRequest Tables TrustWrite) : Prop :=
  ∀ before id factId reply tables middle writes seen after,
    w.trace = before ++ (id,.call (.getFact factId) reply tables)::(middle ++ (id,.commit writes seen)::after) →
      ∀ other writes' seen', (other,.commit writes' seen') ∈ middle → ¬ Serves w other factId

theorem settle_elsewhere {writes : List TrustWrite} {tables : Tables} {factId : Uuid} (saved : Saved writes)
    (elsewhere : ∀ row, .insertAttestation row ∈ writes → row.factId ≠ factId) :
    (writes.foldl Tables.applyTrust tables).facts.find factId = tables.facts.find factId := by
  obtain ⟨read,changed,row,rfl,named,_⟩ := saved
  have apart : factId ≠ read.id := fun same => elsewhere row (insertAttestation_mem.mpr rfl) (named.trans same.symm)
  have facts : ((trustWrites read changed row).foldl Tables.applyTrust tables).facts =
      tables.facts.update read.id (TrustColumns.netChanges read changed).setting := table_ext settle_facts
  rw [facts,find_update]
  cases found : tables.facts.find factId with
  | none => rfl
  | some fact =>
    have key : fact.id = factId := (Table.find_eq_some.mp found).2
    rw [Option.map_some,if_neg (key ▸ apart)]

theorem find_stays (reachable : (transitions verdict).Reachable (transitions verdict).free start w) {factId : Uuid}
    (before middle after : List (Nat × Event TrustReply Refusal AssetFact TrustRequest Tables TrustWrite))
    (split : w.trace = before ++ (middle ++ after))
    (elsewhere : ∀ other writes seen, (other,.commit writes seen) ∈ middle → ¬ Serves w other factId) :
    ((transitions verdict).replay start (before ++ middle)).facts.find factId =
      ((transitions verdict).replay start before).facts.find factId := by
  have sound : (saving verdict).Sound w :=
    Spec.sound_of_reachable saving_verified (fun _ _ _ _ _ _ _ _ => trivial) trivial reachable
  induction middle using List.reverseRec generalizing after with
  | nil => rw [List.append_nil]
  | append_singleton middle entry ih =>
    obtain ⟨id,event⟩ := entry
    have place : w.trace = (before ++ middle) ++ (id,event)::after := by simpa using split
    have earlier := ih ((id,event)::after) (by simpa using split) fun other writes seen member =>
      elsewhere other writes seen (List.mem_append_left _ member)
    rw [← List.append_assoc,System.replay_append,← earlier]
    by_cases published : ∃ writes tables, event = .commit writes tables
    · obtain ⟨writes,tables,rfl⟩ := published
      have due := sound.due _ id _ after place
      obtain ⟨request,read,decided,attests⟩ := due.duty
      have served : (id,.start request) ∈ w.trace := by
        rw [place]
        exact List.mem_append_left _ (mem_history.mp decided.started)
      refine settle_elsewhere (due.committed writes tables rfl).2.1 fun row written same => ?_
      exact elsewhere id writes tables (List.mem_append_right _ (.head _))
        ⟨request,served,(attests row written).1.symm.trans same⟩
    · rw [System.replay_other]
      · rfl
      · exact fun writes tables same => published ⟨writes,tables,same⟩

theorem timely_apart (reachable : (transitions verdict).Reachable (transitions verdict).free start w) (apart : Apart w)
    {id : Nat} {writes : List TrustWrite} {tables : Tables} (member : (id,.commit writes tables) ∈ w.trace) :
    Timely writes tables := by
  have told := System.chronicled_of_reachable reachable
  have sound : (saving verdict).Sound w :=
    Spec.sound_of_reachable saving_verified (fun _ _ _ _ _ _ _ _ => trivial) trivial reachable
  obtain ⟨before,after,split⟩ := List.append_of_mem member
  obtain ⟨request,read,decided,attests⟩ := (sound.due before id _ after split).duty
  obtain ⟨seen,asked,found⟩ := decided.asked
  obtain ⟨earlier,middle,rfl⟩ := List.append_of_mem (mem_history.mp asked)
  have parted : w.trace = earlier ++ (id,.call (.getFact request.factId) (some read) seen)::(middle ++
      (id,.commit writes tables)::after) := by simpa using split
  have then' := told.dated earlier id _ _ parted seen rfl
  have now := told.dated _ id _ after split tables rfl
  have stays := find_stays reachable (earlier ++ [(id,.call (.getFact request.factId) (some read) seen)]) middle
    ((id,.commit writes tables)::after) (by simpa using parted) (apart earlier id _ _ _ middle writes tables after parted)
  have read_only : (transitions verdict).replay start (earlier ++ [(id,.call (.getFact request.factId) (some read) seen)]) =
      (transitions verdict).replay start earlier := by
    rw [System.replay_append,System.replay_other]
    · rfl
    · exact fun _ _ => nofun
  have same : tables.facts.find request.factId = some read := by
    rw [List.append_cons] at now
    rw [now,stays,read_only,← then']
    exact found
  intro row written fact present
  obtain ⟨named,source⟩ := attests row written
  rw [named,same] at present
  rw [source,Option.some.inj present]

/-- In every run whose transitions of one fact do not overlap, from tables whose logs agree, the logs agree in
every state, and no transition commits that was decided on another status than the fact's. -/
theorem attestations_agree (attested : Attested initial start)
    (reachable : (transitions verdict).Reachable (transitions verdict).free start w) (apart : Apart w) :
    (∀ earlier, (transitions verdict).Reachable (transitions verdict).free start earlier →
        (transitions verdict).Steps (transitions verdict).free earlier w → Attested initial earlier.committed) ∧
      ∀ id writes tables, (id,.commit writes tables) ∈ w.trace → Timely writes tables := by
  have timely : ∀ id writes tables, (id,.commit writes tables) ∈ w.trace → Timely writes tables :=
    fun _ _ _ member => timely_apart reachable apart member
  exact ⟨(attested_iff_timely attested reachable).mpr timely,timely⟩

end Sessions

section Alone

variable {verdict : Verdict} {moment : Moment} {tables : Tables}

theorem setting_attributed (action : AttestationAction) (principal : Principal) (now : Time) (fact : AssetFact) :
    (TrustColumns.netChanges fact (FactService.attributed action principal now fact)).setting.change fact =
      FactService.attributed action principal now fact := by
  simp only [TrustColumns.setting,TrustColumns.netChanges,netChange_getD]
  cases action <;> rfl

theorem settle_trustWrites {action : AttestationAction} {principal : Principal} {now : Time} {fact : AssetFact}
    {row : FactAttestation} {attestations : Table FactAttestation.id} (member : fact ∈ tables.facts.rows)
    (added : tables.attestations.insert row = some attestations) :
    (trustWrites fact (FactService.attributed action principal now fact) row).foldl Tables.applyTrust tables =
      {tables with facts := tables.facts.update fact.id (FactService.attributing action principal now), attestations} := by
  have unused : row.id ∉ tables.attestations.rows.map FactAttestation.id := by
    intro taken
    obtain ⟨old,inRows,same⟩ := List.mem_map.mp taken
    exact (Table.insert_eq_some added).1 old inRows same
  have facts : ((trustWrites fact (FactService.attributed action principal now fact) row).foldl Tables.applyTrust tables).facts =
      tables.facts.update fact.id (FactService.attributing action principal now) := by
    apply table_ext
    rw [settle_facts,Table.update,Table.update,Table.rows_revise,Table.rows_revise]
    apply List.map_congr_left
    intro other inRows
    split
    · rename_i named
      rw [Table.eq_of_key inRows member (of_decide_eq_true named),setting_attributed]
      rfl
    · rfl
  have attested : ((trustWrites fact (FactService.attributed action principal now fact) row).foldl Tables.applyTrust
      tables).attestations = attestations := by
    apply table_ext
    rw [settle_attestations unused,(Table.insert_eq_some added).2]
  have others : ∀ later : Tables, later.assets = tables.assets → later.identifiers = tables.identifiers →
      later.relationships = tables.relationships → later.facts = tables.facts.update fact.id
        (FactService.attributing action principal now) → later.attestations = attestations →
      later = {tables with facts := tables.facts.update fact.id (FactService.attributing action principal now), attestations} := by
    rintro ⟨_,_,_,_,_⟩ rfl rfl rfl rfl rfl
    rfl
  have kept : ∀ (writes : List TrustWrite) (tables : Tables), (writes.foldl Tables.applyTrust tables).assets = tables.assets ∧
      (writes.foldl Tables.applyTrust tables).identifiers = tables.identifiers ∧
      (writes.foldl Tables.applyTrust tables).relationships = tables.relationships := by
    intro writes
    induction writes with
    | nil => exact fun _ => ⟨rfl,rfl,rfl⟩
    | cons write writes ih =>
      intro tables
      obtain ⟨assets,identifiers,relationships⟩ := ih (tables.applyTrust write)
      have here : (tables.applyTrust write).assets = tables.assets ∧ (tables.applyTrust write).identifiers = tables.identifiers ∧
          (tables.applyTrust write).relationships = tables.relationships := by
        unfold Tables.applyTrust
        split
        · exact ⟨rfl,rfl,rfl⟩
        · split
          · exact ⟨rfl,rfl,rfl⟩
          · exact ⟨rfl,rfl,rfl⟩
      exact ⟨assets.trans here.1,identifiers.trans here.2.1,relationships.trans here.2.2⟩
  obtain ⟨assets,identifiers,relationships⟩ := kept (trustWrites fact (FactService.attributed action principal now fact) row) tables
  exact others _ assets identifiers relationships facts attested

def concluded (tables : Tables) : Except Refusal (AssetFact × Tables) → Except Refusal AssetFact × Tables
  | .ok (changed,next) => (.ok changed,next)
  | .error refusal => (.error refusal,tables)

theorem alone_issue {α : Type} {stmt : TrustStmt} {rest : TrustReply stmt → TrustService α} {input : TrustInput}
    {inputs : List TrustInput} :
    (transitions verdict).alone (issue stmt >>= rest) [] tables (input::inputs) =
      (transitions verdict).alone (rest (executeTrust verdict tables input stmt).1)
        (executeTrust verdict tables input stmt).2 tables inputs := rfl

/-- What a guard reads: the incumbent, if a standing is to be given. -/
def AttestationAction.reads : AttestationAction → List TrustInput
  | .revoke => []
  | _ => [{now := 0}]

theorem authority_alone {fact : AssetFact} {rest : Unit → TrustService AssetFact} {inputs : List TrustInput} :
    (transitions verdict).alone ((match FactService.guardAuthoritativeTransition fact with
      | .error refusal => throw refusal
      | .ok _ => TrustRequest.guardSingleAuthority fact) >>= rest) [] tables ([{now := 0}] ++ inputs) =
      match (do
        FactService.guardAuthoritativeTransition fact
        FactService.guardSingleAuthority tables fact) with
      | .ok _ => (transitions verdict).alone (rest ()) [] tables inputs
      | .error refusal => some (.error refusal,tables) := by
  cases FactService.guardAuthoritativeTransition fact with
  | error refusal => rfl
  | ok _ =>
    dsimp only
    rw [ok_bind]
    unfold TrustRequest.guardSingleAuthority FactService.guardSingleAuthority
    rw [Program.bind_assoc,List.singleton_append,alone_issue]
    have asked : (executeTrust verdict tables {now := 0} (.selectIncumbent fact)).1 = tables.facts.rows.find? fun other =>
        other.assetId = fact.assetId && other.predicate = fact.predicate && other.factKind = fact.factKind &&
          other.validTo = none && isAuthoritative other.verificationStatus && other.id ≠ fact.id := rfl
    rw [asked]
    cases tables.facts.rows.find? fun other =>
        other.assetId = fact.assetId && other.predicate = fact.predicate && other.factKind = fact.factKind &&
          other.validTo = none && isAuthoritative other.verificationStatus && other.id ≠ fact.id with
    | none => rfl
    | some incumbent => rfl

theorem guard_alone {fact : AssetFact} {action : AttestationAction} {rest : Unit → TrustService AssetFact}
    {inputs : List TrustInput} :
    (transitions verdict).alone (TrustRequest.guardTransition fact action >>= rest) [] tables (action.reads ++ inputs) =
      match FactService.guardTransition tables fact action with
      | .ok _ => (transitions verdict).alone (rest ()) [] tables inputs
      | .error refusal => some (.error refusal,tables) := by
  cases action with
  | revoke =>
    unfold TrustRequest.guardTransition FactService.guardTransition
    dsimp only
    by_cases standing : isAuthoritative fact.verificationStatus
    · rw [if_neg (not_not_intro standing),if_neg (not_not_intro standing)]
      rfl
    · rw [if_pos standing,if_pos standing]
      rfl
  | verify => exact authority_alone
  | approve => exact authority_alone

theorem executeTrust_flush {fact changed : AssetFact} {row : FactAttestation} {input : TrustInput}
    (unused : row.id ∉ tables.attestations.rows.map FactAttestation.id) :
    executeTrust verdict tables input (.flush fact changed row) =
      match verdict ((trustWrites fact changed row).foldl Tables.applyTrust tables) with
      | some constraint => (.error constraint,[])
      | none => (.ok (),trustWrites fact changed row) := if_neg unused

theorem flush_alone {fact changed : AssetFact} {action : AttestationAction} {principal : Principal} {now : Time}
    {row : FactAttestation} {input : TrustInput} (member : fact ∈ tables.facts.rows)
    (attributed : changed = FactService.attributed action principal now fact) :
    (transitions verdict).alone (TrustRequest.save fact changed row) [] tables [input] =
      some (concluded tables (do
        let attested ← insertAttestation
          {tables with facts := tables.facts.update fact.id (FactService.attributing action principal now)} row
        let next ← flush verdict attested
        return (changed,next))) := by
  subst attributed
  unfold TrustRequest.save
  rw [alone_issue]
  unfold insertAttestation
  dsimp only
  cases added : tables.attestations.insert row with
  | none =>
    have taken : row.id ∈ tables.attestations.rows.map FactAttestation.id := by
      by_contra unused
      rw [Table.insert,dif_pos unused] at added
      cases added
    have answered : executeTrust verdict tables input (.flush fact (FactService.attributed action principal now fact) row) =
        (.error .primaryKey,[]) := if_pos taken
    rw [answered]
    rfl
  | some attestations =>
    have unused : row.id ∉ tables.attestations.rows.map FactAttestation.id := by
      intro taken
      obtain ⟨old,inRows,same⟩ := List.mem_map.mp taken
      exact (Table.insert_eq_some added).1 old inRows same
    have writes := @settle_trustWrites tables action principal now fact row attestations member added
    rw [executeTrust_flush unused,writes,ok_bind]
    cases accepted : verdict {tables with
        facts := tables.facts.update fact.id (FactService.attributing action principal now)
        attestations} with
    | some constraint =>
      rw [flush_refused accepted]
      rfl
    | none =>
      rw [flush_eq accepted,ok_bind]
      exact congrArg (fun last => some (Except.ok _,last)) writes

/-- A transition that runs alone is `FactService.transition`. -/
theorem transition_alone (request : TrustRequest) (occurredAt : Time) : ∃ inputs,
    (transitions verdict).alone request.transition [] tables inputs =
      some (concluded tables (FactService.transition verdict moment tables occurredAt request.factId request.action
        request.principal request.reason request.requestId)) := by
  refine ⟨{now := 0} :: (request.action.reads ++
    [{now := moment.now},{now := occurredAt},{uuid := moment.newId 0},{now := 0}]),?_⟩
  unfold TrustRequest.transition FactService.transition
  rw [alone_issue]
  dsimp only [executeTrust]
  cases found : tables.facts.find request.factId with
  | none => rfl
  | some fact =>
    obtain ⟨member,named⟩ := Table.find_eq_some.mp found
    dsimp only
    by_cases closed : fact.validTo.isSome
    · rw [if_pos closed,if_pos closed]
      rfl
    · rw [if_neg closed,if_neg closed,guard_alone]
      cases FactService.guardTransition tables fact request.action with
      | error refusal => rfl
      | ok _ =>
        rw [ok_bind,← named]
        dsimp only
        rw [alone_issue]
        dsimp only [executeTrust]
        rw [alone_issue]
        dsimp only [executeTrust]
        rw [alone_issue]
        dsimp only [executeTrust]
        exact flush_alone member rfl

theorem transition_reached (request : TrustRequest) (occurredAt : Time) :
    let ended := concluded tables (FactService.transition verdict moment tables occurredAt request.factId request.action
      request.principal request.reason request.requestId)
    ∃ w, (transitions verdict).Reachable (transitions verdict).free tables w ∧ w.committed = ended.2 ∧
      (0,.answer ended.1) ∈ w.trace := by
  obtain ⟨inputs,ran⟩ := @transition_alone verdict moment tables request occurredAt
  exact System.reachable_of_alone ran

end Alone

section Laboratory

/-- A reading of the first host's memory that nobody has verified. -/
def labReading : AssetFact where
  statementClass := .fact
  sourceType := .liveDiscovery
  sourceId := "proxmox:pve-01"
  confidence := 1
  verificationStatus := .unverified
  validFrom := 0
  firstSeenAt := 0
  lastSeenAt := 0
  id := 21
  assetId := 1
  predicate := "memory.total_bytes"
  factKind := .observedState
  value := .number (.finite 64)
  unit := none
  supersedesFactId := none

def labSecond : AssetFact := {labReading with id := 22, predicate := "cpu.count"}

def labReadings : Tables := {labTables with facts := ⟨[labReading,labSecond],by decide⟩}

theorem labReadings_attested : Attested (fun _ => .unverified) labReadings := by
  intro fact member
  rcases List.mem_pair.mp member with rfl | rfl
  · exact rfl
  · exact rfl

def labTrust (action : AttestationAction) (subject : String) : TrustRequest :=
  ⟨21,action,labPerson subject,none,none⟩

abbrev TrustMove := Move TrustRequest TrustInput

def trustCalls (session : Nat) (inputs : List TrustInput) : List TrustMove := inputs.map (.call session)

def trustRun (moves : List TrustMove) : Option (World TrustReply Refusal AssetFact TrustRequest Tables TrustWrite) :=
  (transitions Tables.violation).run (transitions Tables.violation).free (.initial labReadings) moves

instance leadsDecidable : (first : VerificationStatus) → (rows : List FactAttestation) → (last : VerificationStatus) →
    Decidable (Leads first rows last)
  | first,[],last => inferInstanceAs (Decidable (first = last))
  | first,row::rows,last => @instDecidableAnd _ _ (inferInstanceAs (Decidable (row.fromStatus = first)))
      (leadsDecidable row.toStatus rows last)

instance (initial : Uuid → VerificationStatus) (tables : Tables) : Decidable (Attested initial tables) := by
  unfold Attested
  infer_instance

def verifiedTwice : List TrustMove :=
  .start 0 (labTrust .verify "ann") :: .start 1 (labTrust .verify "bob") ::
    trustCalls 0 [{now := 1}] ++ trustCalls 1 [{now := 1},{now := 1}] ++
    trustCalls 0 [{now := 2},{now := 2},{now := 2},{uuid := 31},{now := 2}] ++ .commit 0 ::
    trustCalls 1 [{now := 3},{now := 3},{uuid := 32},{now := 3}] ++ [.commit 1]

/-- The second attestation leaves a status that the fact no longer had. -/
theorem verified_twice : Attested (fun _ => .unverified) labReadings ∧
    ∃ w, (transitions Tables.violation).Reachable (transitions Tables.violation).free labReadings w ∧
      ¬ Attested (fun _ => .unverified) w.committed := by
  refine ⟨labReadings_attested,?_⟩
  have ran : (trustRun verifiedTwice).any (fun w => ¬ Attested (fun _ => .unverified) w.committed) = true := by decide +kernel
  obtain ⟨w,reachable,broken⟩ := System.reachable_of_run _ ran
  exact ⟨w,reachable,of_decide_eq_true broken⟩

/-- Two facts are verified side by side, and then one of them is revoked. -/
def verifiedThenRevoked : List TrustMove :=
  .start 0 (labTrust .verify "ann") :: .start 1 {labTrust .verify "bob" with factId := 22} ::
    trustCalls 0 [{now := 1},{now := 1}] ++ trustCalls 1 [{now := 1},{now := 1},{now := 1}] ++
    trustCalls 0 [{now := 2},{now := 2},{uuid := 31},{now := 2}] ++ .commit 0 ::
    trustCalls 1 [{now := 2},{uuid := 32},{now := 2}] ++ .commit 1 ::
    .start 2 (labTrust .revoke "bob") :: trustCalls 2 [{now := 3},{now := 3},{now := 3},{uuid := 33},{now := 3}] ++ [.commit 2]

abbrev TrustTrace := List (Nat × Event TrustReply Refusal AssetFact TrustRequest Tables TrustWrite)

def serves (trace : TrustTrace) (id : Nat) (factId : Uuid) : Bool :=
  trace.any fun entry => entry.1 = id && match entry.2 with
    | .start request => request.factId = factId
    | _ => false

def unserved (trace : TrustTrace) (factId : Uuid) (middle : TrustTrace) : Bool :=
  middle.all fun entry => match entry.2 with
    | .commit _ _ => !serves trace entry.1 factId
    | _ => true

def unlapped (trace : TrustTrace) : Bool :=
  trace.tails.all fun rest => match rest with
    | (id,.call (.getFact factId) _ _)::rest => rest.inits.all fun part => match part.getLast? with
      | some (owner,.commit _ _) => owner ≠ id || unserved trace factId part.dropLast
      | _ => true
    | _ => true

theorem apart_of_unlapped {w : World TrustReply Refusal AssetFact TrustRequest Tables TrustWrite} (checked : unlapped w.trace = true) :
    Apart w := by
  intro before id factId reply tables middle writes seen after split other writes' seen' member served
  have rest : (id,.call (.getFact factId) reply tables)::(middle ++ (id,.commit writes seen)::after) ∈ w.trace.tails :=
    (List.mem_tails _ _).mpr ⟨before,split.symm⟩
  have parts := List.all_eq_true.mp checked _ rest
  have part : middle ++ [(id,.commit writes seen)] ∈ (middle ++ (id,.commit writes seen)::after).inits :=
    (List.mem_inits _ _).mpr ⟨after,by simp⟩
  have between := List.all_eq_true.mp parts _ part
  simp only [List.getLast?_concat,List.dropLast_concat,ne_eq,not_true_eq_false,decide_false,Bool.false_or] at between
  have none := List.all_eq_true.mp between _ member
  obtain ⟨request,started,named⟩ := served
  have some' : serves w.trace other factId = true :=
    List.any_eq_true.mpr ⟨_,started,by simp [named]⟩
  simp [some'] at none

theorem attestations_agree_lab : ∃ w, (transitions Tables.violation).Reachable (transitions Tables.violation).free labReadings w ∧
    w.committed.attestations.rows.length = 3 ∧
    ∀ earlier, (transitions Tables.violation).Reachable (transitions Tables.violation).free labReadings earlier →
      (transitions Tables.violation).Steps (transitions Tables.violation).free earlier w →
        Attested (fun _ => .unverified) earlier.committed := by
  have ran : (trustRun verifiedThenRevoked).any (fun w => unlapped w.trace && w.committed.attestations.rows.length = 3) = true := by
    decide +kernel
  obtain ⟨w,reachable,seen⟩ := System.reachable_of_run _ ran
  rw [Bool.and_eq_true] at seen
  exact ⟨w,reachable,of_decide_eq_true seen.2,(attestations_agree labReadings_attested reachable (apart_of_unlapped seen.1)).1⟩

end Laboratory

end Acop.Cmdb
