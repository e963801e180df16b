import Acop.Transaction.World

/-! A rely-guarantee logic for interleaved transactions. A program is judged
alone: between two of its statements the committed database may move only as
other transactions' commits can move it while this one's locks are held. If
every program is judged correct, every reachable world is. -/
namespace Acop.Transaction

variable {Stmt : Type} {Reply : Stmt → Type} {Fault Answer Op Db Write Lock Input : Type}

/-- What a verification states of committed databases (`Inv`), of what a
transaction may commit (`Com`), of what others' commits leave alone while `locks`
are held (`Agree`), and of each event a session adds to its history (`duty`).
`assume` is what the runs under consideration promise of a statement. -/
structure Spec (σ : System Reply Fault Answer Op Db Write Lock Input) where
  Inv : Db → Prop
  Com : List Write → Db → Prop
  Agree : List Lock → Db → Db → Prop
  assume : List (Event Reply Fault Answer Op Db Write) → Stmt → List Write → Db → Prop
  duty : List (Event Reply Fault Answer Op Db Write) → Event Reply Fault Answer Op Db Write → Prop
  agree_refl : ∀ locks db, Agree locks db db
  agree_trans : ∀ locks a b c, Agree locks a b → Agree locks b c → Agree locks a c
  guarantee : ∀ locks db pending, Inv db → Com pending db →
    (∀ lock ∈ σ.held pending, lock ∉ locks) → Agree locks db (σ.settle db pending)
  preserves : ∀ db pending, Inv db → Com pending db → Inv (σ.settle db pending)
  duty_start : ∀ op, duty [] (.start op)
  duty_crash : ∀ past, duty past .crash

namespace Spec

variable {σ : System Reply Fault Answer Op Db Write Lock Input} (spec : Spec σ) {α β : Type}

/-- Assertions on a program point: pending writes, the last committed database
this session has looked at, and its own history. -/
abbrev Assertion (_ : Spec σ) :=
  List Write → Db → List (Event Reply Fault Answer Op Db Write) → Prop

def Ok (good : α → spec.Assertion) (bad : Fault → spec.Assertion) :
    Program Reply Fault α → spec.Assertion
  | .done value, pending, db, past => good value pending db past
  | .fail fault, pending, db, past => bad fault pending db past
  | .call stmt rest, pending, db, past =>
    ∀ now, spec.Agree (σ.held pending) db now → spec.Inv now → spec.assume past stmt pending now →
      ∀ input reply new, σ.exec stmt (σ.settle now pending) input = some (reply,new) →
        spec.duty past (.call stmt reply now) ∧
        Ok good bad (rest reply) (pending ++ new) now (past ++ [.call stmt reply now])
  | .commit rest, pending, db, past =>
    ∀ now, spec.Agree (σ.held pending) db now → spec.Inv now →
      spec.Com pending now ∧ spec.duty past (.commit pending now) ∧
      Ok good bad rest [] (σ.settle now pending) (past ++ [.commit pending now])

/-- What every event of a judged session satisfies where it is recorded. -/
structure Due (past : List (Event Reply Fault Answer Op Db Write))
    (event : Event Reply Fault Answer Op Db Write) : Prop where
  duty : spec.duty past event
  called : ∀ stmt reply db, event = .call stmt reply db → spec.Inv db
  committed : ∀ writes db, event = .commit writes db → spec.Inv db ∧ spec.Com writes db

variable {spec} {good : α → spec.Assertion} {bad : Fault → spec.Assertion}

theorem ok_weaken {good' : α → spec.Assertion} {bad' : Fault → spec.Assertion}
    (goods : ∀ value pending db past, good value pending db past → good' value pending db past)
    (bads : ∀ fault pending db past, bad fault pending db past → bad' fault pending db past)
    (program : Program Reply Fault α) (pending : List Write) (db : Db)
    (past : List (Event Reply Fault Answer Op Db Write)) (ok : spec.Ok good bad program pending db past) :
    spec.Ok good' bad' program pending db past := by
  induction program generalizing pending db past with
  | done value => exact goods _ _ _ _ ok
  | fail fault => exact bads _ _ _ _ ok
  | call stmt rest ih =>
    intro now agree inv assumed input reply new answered
    have step := ok now agree inv assumed input reply new answered
    exact ⟨step.1,ih reply _ _ _ step.2⟩
  | commit rest ih =>
    intro now agree inv
    have step := ok now agree inv
    exact ⟨step.1,step.2.1,ih _ _ _ step.2.2⟩

theorem ok_bind {program : Program Reply Fault α} {rest : α → Program Reply Fault β}
    {good : β → spec.Assertion} {pending : List Write} {db : Db}
    {past : List (Event Reply Fault Answer Op Db Write)}
    (ok : spec.Ok (fun value => spec.Ok good bad (rest value)) bad program pending db past) :
    spec.Ok good bad (program >>= rest) pending db past := by
  induction program generalizing pending db past with
  | done value => exact ok
  | fail fault => exact ok
  | call stmt next ih =>
    intro now agree inv assumed input reply new answered
    have step := ok now agree inv assumed input reply new answered
    exact ⟨step.1,ih reply step.2⟩
  | commit next ih =>
    intro now agree inv
    have step := ok now agree inv
    exact ⟨step.1,step.2.1,ih step.2.2⟩

theorem ok_tryCatch {program : Program Reply Fault α} {handler : Fault → Program Reply Fault α}
    {pending : List Write} {db : Db} {past : List (Event Reply Fault Answer Op Db Write)}
    (ok : spec.Ok good (fun fault => spec.Ok good bad (handler fault)) program pending db past) :
    spec.Ok good bad (program.tryCatch handler) pending db past := by
  induction program generalizing pending db past with
  | done value => exact ok
  | fail fault => exact ok
  | call stmt next ih =>
    intro now agree inv assumed input reply new answered
    have step := ok now agree inv assumed input reply new answered
    exact ⟨step.1,ih reply step.2⟩
  | commit next ih =>
    intro now agree inv
    have step := ok now agree inv
    exact ⟨step.1,step.2.1,ih step.2.2⟩

theorem ok_quiet (Kept : List (Event Reply Fault Answer Op Db Write) → Prop)
    (stays : ∀ past stmt reply seen, Kept past → Kept (past ++ [.call stmt reply seen]))
    (called : ∀ past stmt reply seen, spec.duty past (.call stmt reply seen)) {program : Program Reply Fault α}
    (quiet : program.Quiet) {pending : List Write} {db : Db} {past : List (Event Reply Fault Answer Op Db Write)} (kept : Kept past)
    (follows : ∀ value pending now past', Kept past' → good value pending now past') :
    spec.Ok good (fun _ _ _ past => Kept past) program pending db past := by
  induction program generalizing pending db past with
  | done value => exact follows value pending db past kept
  | fail fault => exact kept
  | call stmt next ih =>
    intro now _ _ _ input reply new _
    exact ⟨called past stmt reply now,ih reply (quiet reply) (stays past stmt reply now kept)⟩
  | commit next ih => cases quiet

variable (spec)

theorem ok_lasting (Kept : List (Event Reply Fault Answer Op Db Write) → Prop)
    (stays : ∀ past event, Kept past → Kept (past ++ [event])) (called : ∀ past stmt reply seen, spec.duty past (.call stmt reply seen))
    (committed : ∀ past writes seen, spec.Com writes seen ∧ spec.duty past (.commit writes seen)) (program : Program Reply Fault α)
    (pending : List Write) (db : Db) (past : List (Event Reply Fault Answer Op Db Write)) (kept : Kept past) :
    spec.Ok (fun _ _ _ past => Kept past) (fun _ _ _ past => Kept past) program pending db past := by
  induction program generalizing pending db past with
  | done value => exact kept
  | fail fault => exact kept
  | call stmt next ih =>
    intro now _ _ _ input reply new _
    exact ⟨called past stmt reply now,ih reply _ _ _ (stays past _ kept)⟩
  | commit next ih =>
    intro now _ _
    exact ⟨(committed past pending now).1,(committed past pending now).2,ih _ _ _ (stays past _ kept)⟩

/-- Every operation is judged correct from the start of its session. -/
def Verified : Prop :=
  ∀ op db, spec.Inv db →
    spec.Ok (fun value _ _ past => spec.duty past (.answer (.ok value)))
      (fun fault _ _ past => spec.duty past (.answer (.error fault))) (σ.program op) [] db [.start op]

/-- The regime keeps the promises that the judgments assume. -/
def Follows (regime : σ.Regime) : Prop :=
  ∀ w id input stmt rest pending, regime w (.call id input) →
    w.sessions.lookup id = some ⟨.call stmt rest,pending⟩ →
    spec.assume (history w.trace id) stmt pending w.committed

/-- A session whose remaining program is judged correct where the world stands. -/
def Judged (w : World Reply Fault Answer Op Db Write) (id : Nat)
    (session : Session Reply Fault Answer Write) : Prop :=
  ∃ db, spec.Agree (σ.held session.pending) db w.committed ∧
    spec.Ok (fun value _ _ past => spec.duty past (.answer (.ok value)))
      (fun fault _ _ past => spec.duty past (.answer (.error fault)))
      session.program session.pending db (history w.trace id)

structure Sound (w : World Reply Fault Answer Op Db Write) : Prop where
  inv : spec.Inv w.committed
  exclusive : ∀ a b first second, w.sessions.lookup a = some first → w.sessions.lookup b = some second →
    a ≠ b → ∀ lock ∈ σ.held first.pending, lock ∉ σ.held second.pending
  judged : ∀ id session, w.sessions.lookup id = some session → spec.Judged w id session
  due : ∀ before id event after, w.trace = before ++ (id,event)::after →
    spec.Due (history before id) event

theorem sound_initial (db : Db) (start : spec.Inv db) :
    spec.Sound (World.initial db : World Reply Fault Answer Op Db Write) where
  inv := start
  exclusive := by simp [World.initial]
  judged := by simp [World.initial]
  due := by simp [World.initial]

variable {spec}

theorem split_grown {Entry : Type} {trace before after : List Entry} {last entry : Entry}
    (split : trace ++ [last] = before ++ entry::after) :
    (before = trace ∧ entry = last) ∨ ∃ rest, trace = before ++ entry::rest := by
  rcases List.append_eq_append_iff.mp split with ⟨gap,left,right⟩ | ⟨gap,left,right⟩
  · cases gap with
    | nil => exact .inl ⟨by simpa using left,by simp_all⟩
    | cons head rest => simp at right
  · cases gap with
    | nil => exact .inl ⟨by simpa using left.symm,by simp_all⟩
    | cons head rest => exact .inr ⟨rest,by simp_all⟩

private theorem sound_extend {w w' : World Reply Fault Answer Op Db Write} {id : Nat}
    {event : Event Reply Fault Answer Op Db Write} (sound : spec.Sound w)
    (grown : w'.trace = w.trace ++ [(id,event)]) (inv : spec.Inv w'.committed)
    (others : ∀ other, other ≠ id → w'.sessions.lookup other = w.sessions.lookup other)
    (agrees : ∀ other session, other ≠ id → w.sessions.lookup other = some session →
      spec.Agree (σ.held session.pending) w.committed w'.committed)
    (apart : ∀ own, w'.sessions.lookup id = some own → ∀ other session, other ≠ id →
      w.sessions.lookup other = some session → ∀ lock ∈ σ.held own.pending, lock ∉ σ.held session.pending)
    (judged : ∀ own, w'.sessions.lookup id = some own → spec.Judged w' id own)
    (due : spec.Due (history w.trace id) event) : spec.Sound w' where
  inv := inv
  exclusive := by
    intro a b first second left right different lock member
    by_cases own : a = id
    · subst own
      rw [others b (Ne.symm different)] at right
      exact apart first left b second (Ne.symm different) right lock member
    rw [others a own] at left
    by_cases other : b = id
    · subst other
      intro both
      exact apart second right a first own left lock both member
    rw [others b other] at right
    exact sound.exclusive a b first second left right different lock member
  judged := by
    intro other session running
    by_cases own : other = id
    · subst own
      exact judged session running
    rw [others other own] at running
    obtain ⟨db,agree,ok⟩ := sound.judged other session running
    refine ⟨db,spec.agree_trans _ _ _ _ agree (agrees other session own running),?_⟩
    simpa [grown,history_other (Ne.symm own)] using ok
  due := by
    intro before owner found after split
    rw [grown] at split
    rcases split_grown split with ⟨same,last⟩ | ⟨rest,earlier⟩
    · cases last
      exact same ▸ due
    · exact sound.due before owner found rest earlier

theorem sound_step [DecidableEq Lock] {regime : σ.Regime} {w w' : World Reply Fault Answer Op Db Write}
    (verified : spec.Verified) (follows : spec.Follows regime) (sound : spec.Sound w)
    (step : σ.Step regime w w') : spec.Sound w' := by
  obtain ⟨move,admitted,fired⟩ := step
  cases σ.fires_of_next w w' move fired with
  | start id op idle unused =>
    refine sound_extend sound rfl sound.inv (fun other different => AList.lookup_insert_ne different)
      (fun _ _ _ _ => spec.agree_refl _ _) ?_ ?_ ⟨history_unused unused ▸ spec.duty_start op,by simp,by simp⟩
    · intro own found
      simp only [AList.lookup_insert,Option.some.injEq] at found
      subst found
      simp
    · intro own found
      simp only [AList.lookup_insert,Option.some.injEq] at found
      subst found
      refine ⟨w.committed,spec.agree_refl _ _,?_⟩
      simpa [history_unused unused] using verified op w.committed sound.inv
  | call id input stmt rest pending reply new running answered free =>
    obtain ⟨db,agree,ok⟩ := sound.judged id _ running
    have step := ok w.committed agree sound.inv (follows w id input stmt rest pending admitted running)
      input reply new answered
    refine sound_extend sound rfl sound.inv (fun other different => AList.lookup_insert_ne different)
      (fun _ _ _ _ => spec.agree_refl _ _) ?_ ?_ ⟨step.1,by rintro _ _ _ ⟨⟩; exact sound.inv,by simp⟩
    · intro own found other session different open'
      simp only [AList.lookup_insert,Option.some.injEq] at found
      subst found
      intro lock member both
      simp only [System.held_append,List.mem_append] at member
      rcases member with old | taken
      · exact sound.exclusive id other _ session running open' (Ne.symm different) lock old both
      · exact free ⟨other,session⟩ (AList.mem_lookup_iff.mp open') different lock both taken
    · intro own found
      simp only [AList.lookup_insert,Option.some.injEq] at found
      subst found
      exact ⟨w.committed,spec.agree_refl _ _,by simpa using step.2⟩
  | commit id rest pending running =>
    obtain ⟨db,agree,ok⟩ := sound.judged id _ running
    have step := ok w.committed agree sound.inv
    refine sound_extend sound rfl (spec.preserves _ _ sound.inv step.1)
      (fun other different => AList.lookup_insert_ne different) ?_ ?_ ?_
      ⟨step.2.1,by simp,by rintro _ _ ⟨⟩; exact ⟨sound.inv,step.1⟩⟩
    · intro other session different open'
      exact spec.guarantee _ _ _ sound.inv step.1
        (sound.exclusive id other _ session running open' (Ne.symm different))
    · intro own found
      simp only [AList.lookup_insert,Option.some.injEq] at found
      subst found
      simp
    · intro own found
      simp only [AList.lookup_insert,Option.some.injEq] at found
      subst found
      exact ⟨_,spec.agree_refl _ _,by simpa using step.2.2⟩
  | done id value pending running =>
    obtain ⟨db,agree,ok⟩ := sound.judged id _ running
    exact sound_extend sound rfl sound.inv (fun other different => AList.lookup_erase_ne different)
      (fun _ _ _ _ => spec.agree_refl _ _) (by simp) (by simp) ⟨ok,by simp,by simp⟩
  | fail id fault pending running =>
    obtain ⟨db,agree,ok⟩ := sound.judged id _ running
    exact sound_extend sound rfl sound.inv (fun other different => AList.lookup_erase_ne different)
      (fun _ _ _ _ => spec.agree_refl _ _) (by simp) (by simp) ⟨ok,by simp,by simp⟩
  | crash id running =>
    exact sound_extend sound rfl sound.inv (fun other different => AList.lookup_erase_ne different)
      (fun _ _ _ _ => spec.agree_refl _ _) (by simp) (by simp) ⟨spec.duty_crash _,by simp,by simp⟩

theorem sound_of_steps [DecidableEq Lock] {regime : σ.Regime} {w w' : World Reply Fault Answer Op Db Write}
    (verified : spec.Verified) (follows : spec.Follows regime) (sound : spec.Sound w)
    (steps : σ.Steps regime w w') : spec.Sound w' := by
  induction steps with
  | refl => exact sound
  | tail _ step ih => exact sound_step verified follows ih step

theorem sound_of_reachable [DecidableEq Lock] {regime : σ.Regime} {start : Db}
    {w : World Reply Fault Answer Op Db Write} (verified : spec.Verified) (follows : spec.Follows regime)
    (inv : spec.Inv start) (reachable : σ.Reachable regime start w) : spec.Sound w :=
  sound_of_steps verified follows (spec.sound_initial start inv) reachable

end Spec

end Acop.Transaction
