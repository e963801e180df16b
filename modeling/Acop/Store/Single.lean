import Acop.Store.Table

/-! Tables in which each slot has at most one live row: what a revision and an insertion
leave of that. -/
namespace Acop.Store

variable {Row Key Slot : Type} {key : Row → Key} {live : Row → Prop} {slot : Row → Slot}

theorem filter_key [DecidableEq Key] {rows : List Row} (distinct : (rows.map key).Nodup) {row : Row} (member : row ∈ rows) :
    rows.filter (fun other => key other = key row) = [row] := by
  induction rows with
  | nil => exact absurd member List.not_mem_nil
  | cons first rest ih =>
    obtain ⟨fresh,distinct'⟩ := List.nodup_cons.mp distinct
    rcases List.mem_cons.mp member with rfl | inRest
    · have others : rest.filter (fun other => key other = key row) = [] := by
        refine List.filter_eq_nil_iff.mpr fun other inRest same => fresh ?_
        exact of_decide_eq_true same ▸ List.mem_map_of_mem inRest
      rw [List.filter_cons_of_pos (by simp),others]
    · have differs : key first ≠ key row := fun same => fresh (same ▸ List.mem_map_of_mem inRest)
      rw [List.filter_cons_of_neg (by simpa using differs)]
      exact ih distinct' inRest

def Single (live : Row → Prop) (slot : Row → Slot) (rows : List Row) : Prop :=
  ∀ first ∈ rows, ∀ second ∈ rows, live first → live second → slot first = slot second → first = second

theorem single_nil : Single live slot [] := fun _ member => absurd member List.not_mem_nil

theorem single_revise {table : Table key} {which : Row → Bool} {revision : Revision key}
    (single : Single live slot table.rows)
    (kept : ∀ row ∈ table.rows, live (revision.change row) → live row ∧ slot (revision.change row) = slot row) :
    Single live slot (table.revise which revision).rows := by
  have before : ∀ row ∈ (table.revise which revision).rows, live row → ∃ old ∈ table.rows,
      row = (if which old then revision.change old else old) ∧ live old ∧ slot row = slot old := by
    intro row member alive
    obtain ⟨old,inOld,⟨chosen,rfl⟩ | ⟨passed,rfl⟩⟩ := Table.mem_revise.mp member
    · obtain ⟨wasAlive,same⟩ := kept old inOld alive
      exact ⟨old,inOld,(if_pos chosen).symm,wasAlive,same⟩
    · exact ⟨row,inOld,(if_neg passed).symm,alive,rfl⟩
  intro first inFirst second inSecond aliveFirst aliveSecond same
  obtain ⟨a,inA,fromA,aliveA,slotA⟩ := before first inFirst aliveFirst
  obtain ⟨b,inB,fromB,aliveB,slotB⟩ := before second inSecond aliveSecond
  have one : a = b := single a inA b inB aliveA aliveB (slotA.symm.trans (same.trans slotB))
  rw [fromA,fromB,one]

theorem single_insert [DecidableEq Key] {table next : Table key} {row : Row} (single : Single live slot table.rows)
    (free : ∀ old ∈ table.rows, live old → slot old ≠ slot row) (added : table.insert row = some next) :
    Single live slot next.rows := by
  intro first inFirst second inSecond aliveFirst aliveSecond same
  rcases (Table.mem_insert added).mp inFirst with oldFirst | rfl
  · rcases (Table.mem_insert added).mp inSecond with oldSecond | rfl
    · exact single first oldFirst second oldSecond aliveFirst aliveSecond same
    · exact absurd same (free first oldFirst aliveFirst)
  · rcases (Table.mem_insert added).mp inSecond with oldSecond | rfl
    · exact absurd same.symm (free second oldSecond aliveSecond)
    · rfl

theorem free_of_closed [DecidableEq Key] {table : Table key} {row : Row} {revision : Revision key}
    (single : Single live slot table.rows) (member : row ∈ table.rows) (alive : live row)
    (closes : ∀ old, ¬ live (revision.change old)) :
    ∀ old ∈ (table.update (key row) revision).rows, live old → slot old ≠ slot row := by
  intro old inOld aliveOld same
  obtain ⟨before,inBefore,⟨_,rfl⟩ | ⟨other,rfl⟩⟩ := Table.mem_update.mp inOld
  · exact closes before aliveOld
  · exact other (congrArg key (single old inBefore row member aliveOld alive same))

theorem apart_update [DecidableEq Key] (slot : Row → Slot) {table : Table key} {row other : Row} {revision : Revision key}
    (member : row ∈ table.rows) (kept : ∀ old, slot (revision.change old) = slot old) (apart : slot other ≠ slot row) :
    other ∈ table.rows ↔ other ∈ (table.update (key row) revision).rows := by
  constructor
  · intro inTable
    refine (Table.stays_update inTable).mpr fun named => absurd ?_ apart
    rw [Table.eq_of_key inTable member named]
  · intro inNext
    obtain ⟨old,inOld,⟨named,rfl⟩ | ⟨_,rfl⟩⟩ := Table.mem_update.mp inNext
    · refine absurd (kept old) ?_
      rw [Table.eq_of_key inOld member named] at apart ⊢
      exact apart
    · exact inOld

theorem apart_insert [DecidableEq Key] (slot : Row → Slot) {table next : Table key} {row other : Row} (added : table.insert row = some next)
    (apart : slot other ≠ slot row) : other ∈ table.rows ↔ other ∈ next.rows := by
  rw [Table.mem_insert added]
  constructor
  · exact .inl
  · rintro (old | rfl)
    · exact old
    · exact absurd rfl apart

end Acop.Store
