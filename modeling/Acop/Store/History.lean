import Acop.Serial
import Acop.Store.Table
import Mathlib

/-! Claims valid over an interval, recorded in the order they are opened: at most one
of a lineage is open, and one that replaces another starts where that one ended. -/
namespace Acop.Store
open Acop.Serial

/-- Where a row keeps its lineage, its interval and the row it replaced. -/
structure Claims (Row Lineage Id Moment : Type) where
  lineage : Row → Lineage
  id : Row → Id
  opened : Row → Moment
  closed : Row → Option Moment
  supersedes : Row → Option Id

variable {Row Lineage Id Moment : Type} [LinearOrder Moment] (claims : Claims Row Lineage Id Moment)

/-- The earlier of two rows of a lineage ended before the later began. -/
def Follows (earlier later : Row) : Prop :=
  claims.lineage earlier = claims.lineage later → ∃ moment, claims.closed earlier = some moment ∧ moment ≤ claims.opened later

/-- A row replaces one that stands before it in its lineage and ended as it began. -/
def Replaces (before : List Row) (row : Row) : Prop :=
  ∀ id ∈ claims.supersedes row, ∃ earlier ∈ before, claims.id earlier = id ∧
    claims.lineage earlier = claims.lineage row ∧ claims.closed earlier = some (claims.opened row)

def OneOpen (first second : Row) : Prop :=
  claims.lineage first = claims.lineage second → ¬ (claims.closed first = none ∧ claims.closed second = none)

instance : Std.Symm (OneOpen claims) := ⟨fun _ _ apart same both => apart same.symm both.symm⟩

/-- Rows in the order they were added, none later than `now`. -/
structure History (now : Moment) (rows : List Row) : Prop where
  ordered : rows.Pairwise (Follows claims)
  begun : ∀ row ∈ rows, claims.opened row ≤ now
  ended : ∀ row ∈ rows, ∀ moment ∈ claims.closed row, claims.opened row ≤ moment ∧ moment ≤ now
  replaces : ∀ before row after, rows = before ++ row::after → Replaces claims before row
  replacedOnce : rows.Pairwise fun first second => ∀ id ∈ claims.supersedes first, claims.supersedes second ≠ some id

namespace History

variable {claims} {now later : Moment} {rows : List Row}

theorem nil : History claims now [] where
  ordered := List.Pairwise.nil
  begun := by simp
  ended := by simp
  replaces := by simp
  replacedOnce := List.Pairwise.nil

theorem mono (history : History claims now rows) (passed : now ≤ later) : History claims later rows where
  ordered := history.ordered
  begun := fun row member => (history.begun row member).trans passed
  ended := fun row member moment closed => ⟨(history.ended row member moment closed).1,
    (history.ended row member moment closed).2.trans passed⟩
  replaces := history.replaces
  replacedOnce := history.replacedOnce

theorem open_unique (history : History claims now rows) : rows.Pairwise (OneOpen claims) := by
  refine history.ordered.imp ?_
  intro first second follows same both
  obtain ⟨moment,closed,_⟩ := follows same
  cases both.1.symm.trans closed

/-- What an in-place change must keep: it may close an open row at `now`, and no more. -/
structure Closes (claims : Claims Row Lineage Id Moment) (now : Moment) (old new : Row) : Prop where
  lineage : claims.lineage new = claims.lineage old
  id : claims.id new = claims.id old
  opened : claims.opened new = claims.opened old
  supersedes : claims.supersedes new = claims.supersedes old
  closed : claims.closed new = claims.closed old ∨ (claims.closed old = none ∧ claims.closed new = some now)

omit [LinearOrder Moment] in
theorem Closes.refl (row : Row) : Closes claims now row row := ⟨rfl,rfl,rfl,rfl,.inl rfl⟩

omit [LinearOrder Moment] in
theorem Closes.of_some {old new : Row} {moment : Moment} (closes : Closes claims now old new)
    (closed : claims.closed old = some moment) : claims.closed new = some moment := by
  rcases closes.closed with same | ⟨absent,_⟩
  · exact same.trans closed
  · cases absent.symm.trans closed

theorem map {change : Row → Row} (history : History claims now rows)
    (closes : ∀ row ∈ rows, Closes claims now row (change row)) : History claims now (rows.map change) := by
  constructor
  · rw [List.pairwise_map]
    refine history.ordered.imp_of_mem ?_
    intro first second inFirst inSecond follows same
    rw [(closes first inFirst).lineage,(closes second inSecond).lineage] at same
    obtain ⟨moment,closed,before⟩ := follows same
    exact ⟨moment,(closes first inFirst).of_some closed,(closes second inSecond).opened ▸ before⟩
  · intro row member
    obtain ⟨old,inOld,rfl⟩ := List.mem_map.mp member
    exact (closes old inOld).opened ▸ history.begun old inOld
  · intro row member moment closed
    obtain ⟨old,inOld,rfl⟩ := List.mem_map.mp member
    rw [(closes old inOld).opened]
    rcases (closes old inOld).closed with same | ⟨_,stamped⟩
    · exact history.ended old inOld moment (same ▸ closed)
    · cases stamped.symm.trans closed
      exact ⟨history.begun old inOld,le_refl _⟩
  · intro before row after split
    obtain ⟨oldBefore,oldRest,rfl,rfl,rest⟩ := List.map_eq_append_iff.mp split
    obtain ⟨old,oldAfter,rfl,rfl,rfl⟩ := List.map_eq_cons_iff.mp rest
    have inOld : old ∈ oldBefore ++ old::oldAfter := by simp
    intro id named
    rw [(closes old inOld).supersedes] at named
    obtain ⟨earlier,inEarlier,sameId,sameLineage,closed⟩ := history.replaces oldBefore old oldAfter rfl id named
    have inRows : earlier ∈ oldBefore ++ old::oldAfter := List.mem_append_left _ inEarlier
    refine ⟨change earlier,List.mem_map_of_mem inEarlier,?_,?_,?_⟩
    · rw [(closes earlier inRows).id,sameId]
    · rw [(closes earlier inRows).lineage,(closes old inOld).lineage,sameLineage]
    · rw [(closes earlier inRows).of_some closed,(closes old inOld).opened]
  · rw [List.pairwise_map]
    refine history.replacedOnce.imp_of_mem ?_
    intro first second inFirst inSecond once id named
    rw [(closes first inFirst).supersedes] at named
    rw [(closes second inSecond).supersedes]
    exact once id named

theorem append {row : Row} (history : History claims now rows) (opensNow : claims.opened row = now)
    (stillOpen : claims.closed row = none)
    (closed : ∀ old ∈ rows, claims.lineage old = claims.lineage row → claims.closed old ≠ none)
    (replaces : Replaces claims rows row)
    (once : ∀ old ∈ rows, ∀ id ∈ claims.supersedes old, claims.supersedes row ≠ some id) :
    History claims now (rows ++ [row]) := by
  constructor
  · rw [List.pairwise_append]
    refine ⟨history.ordered,List.pairwise_singleton _ _,?_⟩
    intro old member new single same
    rw [List.mem_singleton] at single
    subst single
    obtain ⟨moment,ended⟩ := Option.ne_none_iff_exists'.mp (closed old member same)
    exact ⟨moment,ended,opensNow ▸ (history.ended old member moment ended).2⟩
  · intro other member
    rcases List.mem_append.mp member with member | single
    · exact history.begun other member
    · rw [List.mem_singleton.mp single,opensNow]
  · intro other member moment ended
    rcases List.mem_append.mp member with member | single
    · exact history.ended other member moment ended
    · rw [List.mem_singleton.mp single] at ended
      cases stillOpen.symm.trans ended
  · intro before other after split
    rcases List.eq_nil_or_concat after with rfl | ⟨kept,last,rfl⟩
    · obtain ⟨rfl,same⟩ := List.append_inj' split rfl
      cases same
      exact replaces
    · have shorter : rows = before ++ other::kept := by
        rw [List.concat_eq_append,← List.cons_append,← List.append_assoc] at split
        exact (List.append_inj' split rfl).1
      exact history.replaces before other kept shorter
  · rw [List.pairwise_append]
    refine ⟨history.replacedOnce,List.pairwise_singleton _ _,?_⟩
    intro old member new single
    rw [List.mem_singleton] at single
    subst single
    exact once old member

theorem open_eq (history : History claims now rows) {first second : Row} (inFirst : first ∈ rows) (inSecond : second ∈ rows)
    (same : claims.lineage first = claims.lineage second) (openFirst : claims.closed first = none)
    (openSecond : claims.closed second = none) : first = second := by
  by_contra different
  exact history.open_unique.forall inFirst inSecond different same ⟨openFirst,openSecond⟩

theorem start {row : Row} (history : History claims now rows) (opensNow : claims.opened row = now)
    (stillOpen : claims.closed row = none) (fresh : claims.supersedes row = none)
    (vacant : ∀ old ∈ rows, claims.lineage old = claims.lineage row → claims.closed old ≠ none) :
    History claims now (rows ++ [row]) := by
  refine history.append opensNow stillOpen vacant ?_ ?_
  · intro id named
    cases fresh.symm.trans named
  · intro old _ id _
    simp [fresh]

theorem succeed {change : Row → Row} {live row : Row} (history : History claims now rows) (distinct : (rows.map claims.id).Nodup)
    (member : live ∈ rows) (openLive : claims.closed live = none) (closes : ∀ row ∈ rows, Closes claims now row (change row))
    (closed : claims.closed (change live) = some now) (opensNow : claims.opened row = now)
    (stillOpen : claims.closed row = none) (same : claims.lineage live = claims.lineage row)
    (supersedes : claims.supersedes row = some (claims.id live)) : History claims now (rows.map change ++ [row]) := by
  refine (history.map closes).append opensNow stillOpen ?_ ?_ ?_
  · intro changed inChanged sameLineage
    obtain ⟨old,inOld,rfl⟩ := List.mem_map.mp inChanged
    rw [(closes old inOld).lineage] at sameLineage
    intro still
    cases ended : claims.closed old with
    | some moment => cases ((closes old inOld).of_some ended).symm.trans still
    | none =>
      cases history.open_eq inOld member (sameLineage.trans same.symm) ended openLive
      cases closed.symm.trans still
  · intro id named
    cases supersedes.symm.trans named
    refine ⟨change live,List.mem_map_of_mem member,(closes live member).id,?_,?_⟩
    · rw [(closes live member).lineage,same]
    · rw [closed,opensNow]
  · intro changed inChanged id named again
    obtain ⟨old,inOld,rfl⟩ := List.mem_map.mp inChanged
    rw [(closes old inOld).supersedes] at named
    cases supersedes.symm.trans again
    obtain ⟨before,after,rfl⟩ := List.append_of_mem inOld
    obtain ⟨earlier,inEarlier,sameId,_,ended⟩ := history.replaces before old after rfl _ named
    cases List.inj_on_of_nodup_map distinct (List.mem_append_left _ inEarlier) member sameId
    cases openLive.symm.trans ended

end History

/-- A history up to a moment, grown from that of an earlier table. -/
structure Continued {key : Row → Id} (keeps : Row → Row → Prop) (old new : Table key) (now : Moment) : Prop where
  history : History claims now new.rows
  grows : Grows keeps old new

namespace Continued

variable {claims} {key : Row → Id} {keeps : Row → Row → Prop} {table next : Table key} {now : Moment}

theorem refl [Std.Refl keeps] (history : History claims now table.rows) : Continued claims keeps table table now :=
  ⟨history,grows_refl table⟩

theorem revise [Std.Refl keeps] {which : Row → Bool} {revision : Revision key} (history : History claims now table.rows)
    (kept : ∀ row ∈ table.rows, which row → keeps row (revision.change row))
    (closes : ∀ row ∈ table.rows, which row → History.Closes claims now row (revision.change row)) :
    Continued claims keeps table (table.revise which revision) now := by
  refine ⟨history.map ?_,grows_revise kept⟩
  intro row member
  by_cases chosen : which row
  · rw [if_pos chosen]
    exact closes row member chosen
  · rw [if_neg chosen]
    exact History.Closes.refl row

section Run

variable {State Op : Type} {step : State → Op → State} (tables : State → Table key) (clock : Op → Moment)

/-- The run lemma, under a clock that does not go back. -/
theorem run [Std.Refl keeps] [IsTrans Row keeps]
    (kept : ∀ state op, History claims (clock op) (tables state).rows →
      Continued claims keeps (tables state) (tables (step state op)) (clock op))
    {state : State} {began : Moment} {ops : List Op} (history : History claims began (tables state).rows)
    (ordered : (began :: ops.map clock).Pairwise (· ≤ ·)) :
    Continued claims keeps (tables state) (tables (Serial.run step state ops)) ((ops.map clock).getLastD began) := by
  induction ops generalizing state began with
  | nil => exact refl history
  | cons op rest ih =>
    rw [List.map_cons,List.pairwise_cons] at ordered
    have first := kept state op (history.mono (ordered.1 _ List.mem_cons_self))
    have later := ih first.history ordered.2
    refine ⟨?_,grows_trans first.grows later.grows⟩
    rw [List.map_cons,List.getLastD_cons]
    exact later.history

theorem run_append [Std.Refl keeps] [IsTrans Row keeps]
    (kept : ∀ state op, History claims (clock op) (tables state).rows →
      Continued claims keeps (tables state) (tables (step state op)) (clock op))
    {state : State} {began : Moment} {earlier later : List Op} (history : History claims began (tables state).rows)
    (ordered : (began :: (earlier ++ later).map clock).Pairwise (· ≤ ·)) :
    History claims ((earlier.map clock).getLastD began) (tables (Serial.run step state earlier)).rows ∧
      Grows keeps (tables (Serial.run step state earlier)) (tables (Serial.run step state (earlier ++ later))) := by
  rw [List.map_append,← List.cons_append,List.pairwise_append] at ordered
  obtain ⟨early,late,across⟩ := ordered
  have reached := run tables clock kept history early
  have last : (earlier.map clock).getLastD began ∈ began :: earlier.map clock := List.getLastD_mem_cons
  have rest := run tables clock kept reached.history (List.pairwise_cons.mpr ⟨across _ last,late⟩)
  rw [Serial.run_append]
  exact ⟨reached.history,rest.grows⟩

end Run

variable [DecidableEq Id] {row live : Row}

theorem start [Std.Refl keeps] (history : History claims now table.rows) (opensNow : claims.opened row = now)
    (stillOpen : claims.closed row = none) (fresh : claims.supersedes row = none)
    (vacant : ∀ old ∈ table.rows, claims.lineage old = claims.lineage row → claims.closed old ≠ none)
    (added : table.insert row = some next) : Continued claims keeps table next now := by
  refine ⟨?_,grows_insert added⟩
  rw [(Table.insert_eq_some added).2]
  exact history.start opensNow stillOpen fresh vacant

theorem succeed [Std.Refl keeps] [IsTrans Row keeps] {close : Revision key} (keyed : claims.id = key)
    (history : History claims now table.rows) (member : live ∈ table.rows) (openLive : claims.closed live = none)
    (kept : keeps live (close.change live)) (closes : History.Closes claims now live (close.change live))
    (closed : claims.closed (close.change live) = some now) (opensNow : claims.opened row = now)
    (stillOpen : claims.closed row = none) (same : claims.lineage live = claims.lineage row)
    (supersedes : claims.supersedes row = some (claims.id live))
    (added : (table.update (key live) close).insert row = some next) : Continued claims keeps table next now := by
  have only : ∀ old ∈ table.rows, decide (key old = key live) → old = live := fun old inOld named =>
    Table.eq_of_key inOld member (of_decide_eq_true named)
  have closing : Continued claims keeps table (table.update (key live) close) now :=
    revise history (fun old inOld named => only old inOld named ▸ kept) fun old inOld named => only old inOld named ▸ closes
  refine ⟨?_,grows_trans closing.grows (grows_insert added)⟩
  rw [(Table.insert_eq_some added).2]
  refine history.succeed (keyed ▸ table.distinct) member openLive ?_ ?_ opensNow stillOpen same supersedes
  · intro old inOld
    split
    · exact only old inOld ‹_› ▸ closes
    · exact History.Closes.refl old
  · rw [if_pos (decide_eq_true rfl)]
    exact closed

end Continued

end Acop.Store
