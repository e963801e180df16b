import Acop.Request

/-! Which requests are atomic: all of a body's changes are visible once it answered, or none ever. -/
namespace Acop.Request
open Acop.Serial

variable {Change Denial : Type}

section Rules

def made (tx : RequestTransaction Change Denial) : Act Change Denial → List Change
  | .change change => [change]
  | .bulkUpdate change fails => if tx.standing = .usable ∧ fails = false then [change] else []
  | .record event _ => [event]
  | _ => []

def changes (tx : RequestTransaction Change Denial) : List (Act Change Denial) → List Change
  | [] => []
  | act::rest => made tx act ++ changes (tx.act act) rest

def denied (body : List (Act Change Denial)) : List Denial :=
  body.filterMap fun
    | .recordDenial event false => some event
    | _ => none

structure Atomic (body : List (Act Change Denial)) (ending : Ending) (reply : CommitReply) : Prop where
  kept : (wrapper body ending reply).answer = .returns → ∀ change ∈ changes {} body,
    change ∈ (wrapper body ending reply).committed
  undone : (wrapper body ending reply).answer = .raises → (wrapper body ending reply).committed = []
  denied : (wrapper body ending reply).denials = denied body

/-- The act is a flush that sends a statement, and none of its statements fails. -/
def Emits (tx : RequestTransaction Change Denial) : Act Change Denial → Prop
  | .flush fails => tx.standing = .usable ∧ fails = false ∧ tx.pending ≠ []
  | .record _ fails => tx.standing = .usable ∧ fails = false
  | _ => False

/-- A body that returns has changed nothing, or one of its flushes sent a statement and the
transaction it leaves is not one that a COMMIT without a word rolls back. -/
def Noticed (body : List (Act Change Denial)) (ending : Ending) (reply : CommitReply) : Prop :=
  ending = .returns → changes {} body = [] ∨
    ((∃ before act after, body = before ++ act::after ∧ Emits (run RequestTransaction.act {} before) act) ∧
      ((run RequestTransaction.act {} body).standing = .aborted → (run RequestTransaction.act {} body).pending = [] →
        reply.commitFails = true))

end Rules

variable {tx : RequestTransaction Change Denial} {act : Act Change Denial} {body : List (Act Change Denial)}

theorem flush_cases (tx : RequestTransaction Change Denial) (fails : Bool) :
    (tx.pending = [] ∧ tx.flush fails = tx) ∨
    (tx.pending ≠ [] ∧ (tx.standing = .usable ∧ fails = false) ∧
      tx.flush fails = {tx with pending := [],flushed := tx.flushed ++ tx.pending,wrote := true}) ∨
    (tx.pending ≠ [] ∧ ¬ (tx.standing = .usable ∧ fails = false) ∧ (tx.flush fails).standing = .closed ∧
      (tx.flush fails).wrote = tx.wrote ∧ (tx.flush fails).denials = tx.denials) := by
  obtain ⟨pending,flushed,standing,wrote,denials⟩ := tx
  cases pending with
  | nil => exact .inl ⟨rfl,rfl⟩
  | cons change rest =>
    right
    cases standing with
    | usable =>
      cases fails with
      | false => exact .inl ⟨by simp,⟨rfl,rfl⟩,rfl⟩
      | true => exact .inr ⟨by simp,by simp,rfl,rfl,rfl⟩
    | aborted => exact .inr ⟨by simp,by simp,rfl,rfl,rfl⟩
    | closed => exact .inr ⟨by simp,by simp,rfl,rfl,rfl⟩

theorem execute_cases (tx : RequestTransaction Change Denial) (written : List Change) (fails : Bool) :
    (tx.standing = .usable ∧ fails = false ∧ tx.execute written fails = {tx with flushed := tx.flushed ++ written}) ∨
    (tx.standing = .usable ∧ fails = true ∧ tx.execute written fails = {tx with standing := .aborted}) ∨
    (tx.standing ≠ .usable ∧ tx.execute written fails = tx) := by
  obtain ⟨pending,flushed,standing,wrote,denials⟩ := tx
  cases standing with
  | usable =>
    cases fails with
    | false => exact .inl ⟨rfl,rfl,rfl⟩
    | true => exact .inr (.inl ⟨rfl,rfl,rfl⟩)
  | aborted => exact .inr (.inr ⟨by simp,rfl⟩)
  | closed => exact .inr (.inr ⟨by simp,rfl⟩)

section Act

theorem flush_wrote {fails : Bool} : (tx.flush fails).wrote = true ↔
    tx.wrote = true ∨ (tx.standing = .usable ∧ fails = false ∧ tx.pending ≠ []) := by
  rcases flush_cases tx fails with ⟨idle,same⟩ | ⟨pending,passes,done⟩ | ⟨_,refused,_,wrote,_⟩
  · simp [same,idle]
  · rw [done]
    exact iff_of_true rfl (.inr ⟨passes.1,passes.2,pending⟩)
  · rw [wrote]
    constructor
    · exact .inl
    · rintro (before | ⟨usable,passes,_⟩)
      · exact before
      · exact absurd ⟨usable,passes⟩ refused

theorem execute_wrote {written : List Change} {fails : Bool} : (tx.execute written fails).wrote = tx.wrote := by
  rcases execute_cases tx written fails with ⟨_,_,done⟩ | ⟨_,_,done⟩ | ⟨_,done⟩
  all_goals rw [done]

theorem act_wrote : (tx.act act).wrote = true ↔ tx.wrote = true ∨ Emits tx act := by
  cases act with
  | read fails => simp [RequestTransaction.act,execute_wrote,Emits]
  | change change => simp [RequestTransaction.act,RequestTransaction.add,Emits]
  | flush fails => exact flush_wrote
  | bulkUpdate change fails => simp [RequestTransaction.act,execute_wrote,Emits]
  | record event fails =>
    have added : (tx.add event).pending ≠ [] := by simp [RequestTransaction.add]
    rw [RequestTransaction.act,flush_wrote,and_iff_left added]
    exact Iff.rfl
  | recordDenial event fails => cases fails <;> simp [RequestTransaction.act,Emits]

theorem flush_closed (closed : tx.standing = .closed) (fails : Bool) : (tx.flush fails).standing = .closed := by
  rcases flush_cases tx fails with ⟨_,same⟩ | ⟨_,passes,_⟩ | ⟨_,_,after,_⟩
  · rw [same,closed]
  · cases closed.symm.trans passes.1
  · exact after

theorem execute_closed (closed : tx.standing = .closed) (written : List Change) (fails : Bool) :
    (tx.execute written fails).standing = .closed := by
  rcases execute_cases tx written fails with ⟨usable,_⟩ | ⟨usable,_⟩ | ⟨_,done⟩
  · cases closed.symm.trans usable
  · cases closed.symm.trans usable
  · rw [done,closed]

theorem act_closed (closed : tx.standing = .closed) : (tx.act act).standing = .closed := by
  cases act with
  | read fails => exact execute_closed closed _ _
  | change change => exact closed
  | flush fails => exact flush_closed closed fails
  | bulkUpdate change fails => exact execute_closed closed _ _
  | record event fails => exact @flush_closed _ _ (tx.add event) closed fails
  | recordDenial event fails => cases fails <;> exact closed

/-- What the transaction holds, sent or still to be sent. -/
def Holds (tx : RequestTransaction Change Denial) (change : Change) : Prop := change ∈ tx.flushed ∨ change ∈ tx.pending

theorem flush_holds {fails : Bool} (unclosed : (tx.flush fails).standing ≠ .closed) {change : Change} (holds : Holds tx change) :
    Holds (tx.flush fails) change := by
  rcases flush_cases tx fails with ⟨_,same⟩ | ⟨_,_,done⟩ | ⟨_,_,closed,_⟩
  · rwa [same]
  · rw [done]
    exact .inl (List.mem_append.mpr holds)
  · exact absurd closed unclosed

theorem execute_holds {written : List Change} {fails : Bool} {change : Change} (holds : Holds tx change) :
    Holds (tx.execute written fails) change := by
  rcases execute_cases tx written fails with ⟨_,_,done⟩ | ⟨_,_,done⟩ | ⟨_,done⟩
  · rw [done]
    exact holds.imp_left (List.mem_append_left _)
  · rwa [done]
  · rwa [done]

theorem act_holds (unclosed : (tx.act act).standing ≠ .closed) {change : Change}
    (holds : Holds tx change ∨ change ∈ made tx act) : Holds (tx.act act) change := by
  cases act with
  | read fails =>
    rcases holds with holds | none
    · exact execute_holds holds
    · cases none
  | change added =>
    rcases holds with holds | new
    · exact holds.imp_right (List.mem_append_left _)
    · exact .inr (List.mem_append_right _ new)
  | flush fails =>
    rcases holds with holds | none
    · exact flush_holds unclosed holds
    · cases none
  | bulkUpdate written fails =>
    rcases holds with holds | new
    · exact execute_holds holds
    · have new : change ∈ if tx.standing = .usable ∧ fails = false then [written] else [] := new
      split at new
      · rename_i passes
        rcases execute_cases tx [written] fails with ⟨_,_,done⟩ | ⟨_,refused,_⟩ | ⟨unusable,_⟩
        · show Holds (tx.execute [written] fails) change
          rw [done]
          exact .inl (List.mem_append_right _ new)
        · cases refused.symm.trans passes.2
        · exact absurd passes.1 unusable
      · cases new
  | record event fails =>
    apply flush_holds unclosed
    rcases holds with holds | new
    · exact holds.imp_right (List.mem_append_left _)
    · exact .inr (List.mem_append_right _ new)
  | recordDenial event fails =>
    rcases holds with holds | none
    · cases fails <;> exact holds
    · cases none

theorem act_denials : (tx.act act).denials = tx.denials ++ denied [act] := by
  have flushed (tx : RequestTransaction Change Denial) (fails : Bool) : (tx.flush fails).denials = tx.denials := by
    rcases flush_cases tx fails with ⟨_,same⟩ | ⟨_,_,done⟩ | ⟨_,_,_,_,same⟩
    · rw [same]
    · rw [done]
    · exact same
  have executed (written : List Change) (fails : Bool) : (tx.execute written fails).denials = tx.denials := by
    rcases execute_cases tx written fails with ⟨_,_,done⟩ | ⟨_,_,done⟩ | ⟨_,done⟩
    all_goals rw [done]
  cases act with
  | read fails => simp [RequestTransaction.act,executed,denied]
  | change change => simp [RequestTransaction.act,RequestTransaction.add,denied]
  | flush fails => simp [RequestTransaction.act,flushed,denied]
  | bulkUpdate change fails => simp [RequestTransaction.act,executed,denied]
  | record event fails => simp [RequestTransaction.act,flushed,RequestTransaction.add,denied]
  | recordDenial event fails => cases fails <;> simp [RequestTransaction.act,denied]

end Act

section Body

theorem body_wrote : (run RequestTransaction.act tx body).wrote = true ↔ tx.wrote = true ∨
    ∃ before act after, body = before ++ act::after ∧ Emits (run RequestTransaction.act tx before) act := by
  induction body generalizing tx with
  | nil => simp
  | cons act rest ih =>
    rw [run_cons,ih,act_wrote,or_assoc]
    apply or_congr_right
    constructor
    · rintro (emits | ⟨before,later,after,rfl,emits⟩)
      · exact ⟨[],act,rest,rfl,emits⟩
      · exact ⟨act::before,later,after,rfl,emits⟩
    · rintro ⟨before,later,after,split,emits⟩
      cases before with
      | nil =>
        cases split
        exact .inl emits
      | cons first before =>
        obtain ⟨rfl,tail⟩ := List.cons.inj split
        exact .inr ⟨before,later,after,tail,emits⟩

theorem body_closed (closed : tx.standing = .closed) (body : List (Act Change Denial)) :
    (run RequestTransaction.act tx body).standing = .closed := by
  induction body generalizing tx with
  | nil => exact closed
  | cons act rest ih => exact ih (act_closed closed)

theorem body_holds (unclosed : (run RequestTransaction.act tx body).standing ≠ .closed) {change : Change}
    (holds : Holds tx change ∨ change ∈ changes tx body) : Holds (run RequestTransaction.act tx body) change := by
  induction body generalizing tx with
  | nil => exact holds.resolve_right (List.not_mem_nil)
  | cons act rest ih =>
    apply ih unclosed
    have early : (tx.act act).standing ≠ .closed := fun closed => unclosed (body_closed closed rest)
    rcases holds with holds | new
    · exact .inl (act_holds early (.inl holds))
    rcases List.mem_append.mp new with new | later
    · exact .inl (act_holds early (.inr new))
    · exact .inr later

theorem body_denials : (run RequestTransaction.act tx body).denials = tx.denials ++ denied body := by
  induction body generalizing tx with
  | nil => simp [denied]
  | cons act rest ih =>
    rw [run_cons,ih,act_denials,List.append_assoc,denied,denied,denied,← List.filterMap_append,List.singleton_append]

end Body

section Commit

variable {reply : CommitReply} {visible : List Change}

/-- A commit that does not raise has made all of it visible, or, where a statement failed and
nothing was left to flush, none. -/
theorem commit_cases (committed : tx.commit reply = some visible) :
    ((tx.flush reply.flushFails).standing = .usable ∧ visible = (tx.flush reply.flushFails).flushed ∧
      (tx.flush reply.flushFails).pending = []) ∨
    (tx.standing = .aborted ∧ tx.pending = [] ∧ reply.commitFails = false ∧ visible = []) := by
  unfold RequestTransaction.commit at committed
  dsimp only at committed
  split at committed
  · cases committed
  · rename_i aborted
    split at committed
    · cases committed
    rename_i passes
    right
    rcases flush_cases tx reply.flushFails with ⟨idle,same⟩ | ⟨_,usable,done⟩ | ⟨_,_,closed,_⟩
    · rw [same] at aborted
      exact ⟨aborted,idle,Bool.eq_false_iff.mpr passes,(Option.some.inj committed).symm⟩
    · rw [done] at aborted
      cases usable.1.symm.trans aborted
    · cases closed.symm.trans aborted
  · rename_i usable
    split at committed
    · cases committed
    left
    refine ⟨usable,(Option.some.inj committed).symm,?_⟩
    rcases flush_cases tx reply.flushFails with ⟨idle,same⟩ | ⟨_,_,done⟩ | ⟨_,_,closed,_⟩
    · rw [same,idle]
    · rw [done]
    · cases closed.symm.trans usable

theorem commit_holds (committed : tx.commit reply = some visible)
    (noticed : tx.standing = .aborted → tx.pending = [] → reply.commitFails = true) {change : Change}
    (holds : Holds tx change) : change ∈ visible := by
  rcases commit_cases committed with ⟨usable,rfl,sent⟩ | ⟨aborted,idle,passes,_⟩
  · have unclosed : (tx.flush reply.flushFails).standing ≠ .closed := by
      rw [usable]
      decide
    rcases flush_holds unclosed holds with held | left
    · exact held
    · rw [sent] at left
      cases left
  · cases passes.symm.trans (noticed aborted idle)

theorem commit_of_closed (closed : tx.standing = .closed) : tx.commit reply = none := by
  unfold RequestTransaction.commit
  simp only [flush_closed closed]

theorem commit_lost (aborted : tx.standing = .aborted) (idle : tx.pending = []) (passes : reply.commitFails = false) :
    tx.commit reply = some [] := by
  have same : tx.flush reply.flushFails = tx := by
    rcases flush_cases tx reply.flushFails with ⟨_,same⟩ | ⟨pending,_⟩ | ⟨pending,_⟩
    · exact same
    · exact absurd idle pending
    · exact absurd idle pending
  unfold RequestTransaction.commit
  simp only [same,aborted,passes]
  rfl

end Commit

section Wrapper

variable {ending : Ending} {reply : CommitReply}

theorem wrapper_denials : (wrapper body ending reply).denials = denied body := by
  have recorded := @body_denials _ _ ({} : RequestTransaction Change Denial) body
  rw [List.nil_append] at recorded
  unfold wrapper
  dsimp only
  split
  · exact recorded
  · split
    · split <;> exact recorded
    · exact recorded

theorem wrapper_undone (raised : (wrapper body ending reply).answer = .raises) : (wrapper body ending reply).committed = [] := by
  unfold wrapper at raised ⊢
  dsimp only at raised ⊢
  split at raised
  · rfl
  · split at raised
    · split at raised
      · cases raised
      · rename_i wrote _ _
        rw [if_pos wrote]
    · cases raised

theorem wrapper_unwritten (silent : (run RequestTransaction.act {} body).wrote ≠ true) :
    wrapper body .returns reply = ⟨.returns,[],(run RequestTransaction.act {} body).denials⟩ :=
  if_neg silent

theorem wrapper_written (wrote : (run RequestTransaction.act {} body).wrote = true) :
    wrapper body .returns reply = match (run RequestTransaction.act {} body).commit reply with
      | some visible => ⟨.returns,visible,(run RequestTransaction.act {} body).denials⟩
      | none => ⟨.raises,[],(run RequestTransaction.act {} body).denials⟩ :=
  if_pos wrote

theorem wrote_iff : (run RequestTransaction.act {} body).wrote = true ↔
    ∃ before act after, body = before ++ act::after ∧ Emits (run RequestTransaction.act {} before) act := by
  rw [body_wrote]
  simp

theorem atomic_iff : Atomic body ending reply ↔ Noticed body ending reply := by
  constructor
  · rintro ⟨kept,_,_⟩ rfl
    by_cases wrote : (run RequestTransaction.act {} body).wrote = true
    · by_cases lost : (run RequestTransaction.act {} body).standing = .aborted ∧
          (run RequestTransaction.act {} body).pending = [] ∧ reply.commitFails = false
      · left
        rw [wrapper_written wrote,commit_lost lost.1 lost.2.1 lost.2.2] at kept
        exact List.eq_nil_iff_forall_not_mem.mpr fun change member => List.not_mem_nil (kept rfl change member)
      · right
        refine ⟨wrote_iff.mp wrote,fun aborted idle => ?_⟩
        by_contra passes
        exact lost ⟨aborted,idle,Bool.eq_false_iff.mpr passes⟩
    · left
      rw [wrapper_unwritten wrote] at kept
      exact List.eq_nil_iff_forall_not_mem.mpr fun change member => List.not_mem_nil (kept rfl change member)
  · intro noticed
    refine ⟨?_,wrapper_undone,wrapper_denials⟩
    intro returned change member
    cases ending with
    | raises => cases returned
    | returns =>
      rcases noticed rfl with unchanged | ⟨emitted,safe⟩
      · rw [unchanged] at member
        cases member
      rw [wrapper_written (wrote_iff.mpr emitted)] at returned ⊢
      cases committed : (run RequestTransaction.act {} body).commit reply with
      | none =>
        rw [committed] at returned
        cases returned
      | some visible =>
        apply commit_holds committed safe
        apply body_holds _ (.inr member)
        intro closed
        cases committed.symm.trans (commit_of_closed closed)

end Wrapper

/-- Request atomicity: whatever a body does and however its statements and the commit fare, the
request is atomic exactly if a body that returns has changed nothing, or has had a flush that
sent a statement and leaves no aborted transaction that its COMMIT would roll back unseen. -/
theorem request_atomicity (body : List (Act Change Denial)) (ending : Ending) (reply : CommitReply) :
    Atomic body ending reply ↔ Noticed body ending reply :=
  atomic_iff

/-- A bulk UPDATE that succeeds is answered with success and never committed. -/
theorem bulk_update_lost : (wrapper [(.bulkUpdate 1 false : Act Nat Nat)] .returns {}).answer = .returns ∧
    (wrapper [(.bulkUpdate 1 false : Act Nat Nat)] .returns {}).committed = [] ∧
    ¬ Atomic [(.bulkUpdate 1 false : Act Nat Nat)] .returns {} := by
  refine ⟨rfl,rfl,?_⟩
  intro atomic
  cases atomic.kept rfl 1 (.head _)

end Acop.Request
