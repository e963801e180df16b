import Acop.Selection.Ordered

/-! Where a row stands in an ordered list, and what taking one row further up a list does
to the places of all of them. -/
namespace Acop.Selection

variable {α : Type} [DecidableEq α]

section Ordered

variable {κ : Type} [LinearOrder κ] {key : α → κ} {rows : List α} {row other : α}

theorem idxOf_ordered (distinct : rows.Nodup) (told : ∀ first ∈ rows, ∀ second ∈ rows, key first = key second → first = second)
    (member : row ∈ rows) : (ordered key rows).idxOf row = rows.countP fun other => key other < key row := by
  obtain ⟨before,after,parts⟩ := List.append_of_mem ((mem_ordered key).mpr member)
  have perm := ordered_perm key rows
  have single : (before ++ row :: after).Nodup := parts ▸ perm.nodup_iff.mpr distinct
  have sorted : (before ++ row :: after).Pairwise fun first second => key first ≤ key second := parts ▸ ordered_pairwise key rows
  obtain ⟨_,sortedAfter,sortedBefore⟩ := List.pairwise_append.mp sorted
  obtain ⟨_,_,apart⟩ := List.nodup_append.mp single
  have smaller : ∀ first ∈ before, key first < key row := by
    intro first there
    refine lt_of_le_of_ne (sortedBefore first there row List.mem_cons_self) fun same => ?_
    have present : first ∈ rows := (mem_ordered key).mp (parts ▸ List.mem_append_left _ there)
    exact apart first there row List.mem_cons_self (told first present row member same)
  have larger : ∀ last ∈ after, ¬ key last < key row := fun last there =>
    not_lt.mpr ((List.pairwise_cons.mp sortedAfter).1 last there)
  have absent : row ∉ before := fun there => lt_irrefl _ (smaller row there)
  rw [← perm.countP_eq,parts,List.countP_append,List.countP_cons_of_neg (by simp),
    List.countP_eq_length.mpr fun first there => decide_eq_true (smaller first there),
    List.countP_eq_zero.mpr fun last there => by simpa using larger last there,List.idxOf_append_of_notMem absent,
    List.idxOf_cons_self]

theorem idxOf_ordered_lt (first : row ∈ rows) (second : other ∈ rows) (smaller : key row < key other) :
    (ordered key rows).idxOf row < (ordered key rows).idxOf other := by
  by_contra late
  have rowAt := List.idxOf_lt_length_of_mem ((mem_ordered key).mpr first)
  have otherAt := List.idxOf_lt_length_of_mem ((mem_ordered key).mpr second)
  rcases Nat.lt_or_eq_of_le (Nat.le_of_not_lt late) with before | same
  · have le := List.pairwise_iff_getElem.mp (ordered_pairwise key rows) _ _ otherAt rowAt before
    rw [List.getElem_idxOf,List.getElem_idxOf] at le
    exact absurd smaller (not_lt.mpr le)
  · have equal := List.getElem_idxOf otherAt
    simp only [same,List.getElem_idxOf] at equal
    rw [equal] at smaller
    exact lt_irrefl _ smaller

theorem idxOf_ordered_le {key' : α → κ} {rows' : List α} (same : rows'.Perm rows) (distinct : rows.Nodup)
    (told : ∀ first ∈ rows, ∀ second ∈ rows, key first = key second → first = second)
    (told' : ∀ first ∈ rows, ∀ second ∈ rows, key' first = key' second → first = second) (member : row ∈ rows)
    (preceding : ∀ other ∈ rows, key' other < key' row → key other < key row) :
    (ordered key' rows').idxOf row ≤ (ordered key rows).idxOf row := by
  have moved : ∀ {first : α}, first ∈ rows' → first ∈ rows := fun there => same.mem_iff.mp there
  rw [idxOf_ordered distinct told member,
    idxOf_ordered (same.nodup_iff.mpr distinct) (fun first there second there' => told' first (moved there) second (moved there'))
      (same.mem_iff.mpr member),same.countP_eq]
  exact List.countP_mono_left fun other there smaller => decide_eq_true (preceding other there (of_decide_eq_true smaller))

end Ordered

section MovedUp

/-- One row taken further up, the others keeping their order. -/
def MovedUp (row : α) (old new : List α) : Prop :=
  ∃ front passed back, old = front ++ passed ++ row :: back ∧ new = front ++ row :: passed ++ back

variable {row other : α} {old new : List α}

omit [DecidableEq α] in
theorem MovedUp.perm (moved : MovedUp row old new) : new.Perm old := by
  obtain ⟨front,passed,back,rfl,rfl⟩ := moved
  rw [List.append_assoc,List.append_assoc]
  exact (List.perm_middle.symm).append_left front

theorem MovedUp.idxOf_self (moved : MovedUp row old new) (distinct : old.Nodup) : new.idxOf row ≤ old.idxOf row := by
  obtain ⟨front,passed,back,rfl,rfl⟩ := moved
  obtain ⟨_,_,apart⟩ := List.nodup_append.mp distinct
  have absent : row ∉ front ++ passed := fun there => apart row there row List.mem_cons_self rfl
  have outside : row ∉ front := fun there => absent (List.mem_append_left _ there)
  rw [List.idxOf_append_of_notMem absent,List.append_assoc,List.idxOf_append_of_notMem outside]
  simp

theorem MovedUp.idxOf_other (moved : MovedUp row old new) (distinct : other ≠ row) : old.idxOf other ≤ new.idxOf other := by
  obtain ⟨front,passed,back,rfl,rfl⟩ := moved
  rw [List.append_assoc,List.append_assoc]
  by_cases inFront : other ∈ front
  · rw [List.idxOf_append_of_mem inFront,List.idxOf_append_of_mem inFront]
  rw [List.idxOf_append_of_notMem inFront,List.idxOf_append_of_notMem inFront,List.cons_append,
    List.idxOf_cons_ne _ distinct.symm]
  by_cases inPassed : other ∈ passed
  · rw [List.idxOf_append_of_mem inPassed,List.idxOf_append_of_mem inPassed]
    omega
  · rw [List.idxOf_append_of_notMem inPassed,List.idxOf_append_of_notMem inPassed,List.idxOf_cons_ne _ distinct.symm]
    omega

end MovedUp

end Acop.Selection
