import Mathlib.Data.List.Sort
import Mathlib.Data.List.Perm.Subperm
import Mathlib.Data.List.Nodup

/-! `ORDER BY key` and `LIMIT count` on the rows of a query. What the rows are and
what the key compares is left to the caller; only the key's order is used. -/
namespace Acop.Selection

variable {α κ : Type} [LinearOrder κ] (key : α → κ)

def ordered (rows : List α) : List α := rows.insertionSort fun first second => key first ≤ key second

def first (count : Nat) (rows : List α) : List α := (ordered key rows).take count

theorem ordered_perm (rows : List α) : (ordered key rows).Perm rows := List.perm_insertionSort _ rows

@[simp] theorem mem_ordered {row : α} {rows : List α} : row ∈ ordered key rows ↔ row ∈ rows :=
  (ordered_perm key rows).mem_iff

@[simp] theorem length_ordered (rows : List α) : (ordered key rows).length = rows.length :=
  (ordered_perm key rows).length_eq

theorem ordered_pairwise (rows : List α) : (ordered key rows).Pairwise fun first second => key first ≤ key second := by
  have : IsTrans α fun first second => key first ≤ key second := ⟨fun _ _ _ => le_trans⟩
  have : Std.Total fun (first second : α) => key first ≤ key second := ⟨fun _ _ => le_total _ _⟩
  exact List.pairwise_insertionSort _ rows

theorem ordered_congr {rows others : List α} (same : rows.Perm others)
    (distinct : ∀ row ∈ rows, ∀ other ∈ rows, key row = key other → row = other) :
    ordered key rows = ordered key others := by
  have perm : (ordered key rows).Perm (ordered key others) :=
    (ordered_perm key rows).trans (same.trans (ordered_perm key others).symm)
  refine perm.eq_of_pairwise ?_ (ordered_pairwise key rows) (ordered_pairwise key others)
  intro row other mem mem' le ge
  have inRows : row ∈ rows := (mem_ordered key).mp mem
  have inOthers : other ∈ rows := same.symm.mem_iff.mp ((mem_ordered key).mp mem')
  exact distinct row inRows other inOthers (le_antisymm le ge)

theorem first_subperm (count : Nat) (rows : List α) : (first key count rows).Subperm rows :=
  (List.take_sublist count _).subperm.trans (ordered_perm key rows).subperm

theorem mem_of_mem_first {count : Nat} {rows : List α} {row : α} (mem : row ∈ first key count rows) : row ∈ rows :=
  (first_subperm key count rows).subset mem

@[simp] theorem length_first (count : Nat) (rows : List α) : (first key count rows).length = min count rows.length := by
  simp [first]

theorem first_all {count : Nat} {rows : List α} (short : rows.length ≤ count) :
    (first key count rows).Perm rows := by
  have all : first key count rows = ordered key rows := List.take_of_length_le (by simpa using short)
  rw [all]
  exact ordered_perm key rows

theorem first_least {count : Nat} {rows : List α} {taken left : α} (mem : taken ∈ first key count rows)
    (inRows : left ∈ rows) (out : left ∉ first key count rows) : key taken ≤ key left := by
  have split : first key count rows ++ (ordered key rows).drop count = ordered key rows := List.take_append_drop count _
  have dropped : left ∈ (ordered key rows).drop count := by
    have found : left ∈ first key count rows ++ (ordered key rows).drop count := by
      rw [split]
      exact (mem_ordered key).mpr inRows
    exact (List.mem_append.mp found).resolve_left out
  have sorted := ordered_pairwise key rows
  rw [← split] at sorted
  exact (List.pairwise_append.mp sorted).2.2 taken mem left dropped

theorem mem_first_of_least {count : Nat} {rows : List α} {row : α} (some' : 0 < count) (mem : row ∈ rows)
    (least : ∀ other ∈ rows, other ≠ row → key row < key other) : row ∈ first key count rows := by
  by_contra out
  have nonempty : first key count rows ≠ [] := by
    intro nothing
    have length := length_first key count rows
    have pos := List.length_pos_of_mem mem
    rw [nothing,List.length_nil] at length
    omega
  obtain ⟨taken,inFirst⟩ := List.exists_mem_of_ne_nil _ nonempty
  have apart : taken ≠ row := fun same => out (same ▸ inFirst)
  have less := least taken (mem_of_mem_first key inFirst) apart
  exact absurd (first_least key inFirst mem out) (not_le_of_gt less)

theorem last_greatest {rows : List α} {which : α → Bool} {row : α} (found : (ordered key rows).reverse.find? which = some row) :
    row ∈ rows ∧ which row ∧ ∀ other ∈ rows, which other → key other ≤ key row := by
  obtain ⟨qualifies,later,earlier,shape,passed⟩ := List.find?_eq_some_iff_append.mp found
  have sorted := List.pairwise_reverse.mpr (ordered_pairwise key rows)
  have members : ∀ other, other ∈ rows ↔ other ∈ later ++ row::earlier := fun other => by
    rw [← shape,List.mem_reverse,mem_ordered]
  rw [shape] at sorted
  refine ⟨(members row).mpr (by simp),qualifies,?_⟩
  intro other inRows chosen
  rcases List.mem_append.mp ((members other).mp inRows) with inLater | inRest
  · exact absurd chosen (by simpa using passed other inLater)
  · rcases List.mem_cons.mp inRest with rfl | inEarlier
    · exact le_refl _
    · exact (List.pairwise_cons.mp (List.pairwise_append.mp sorted).2.1).1 other inEarlier

end Acop.Selection

namespace Acop.Selection

variable {α : Type}

theorem complete_of_length {chosen rows : List α} (choice : chosen.Subperm rows) (long : rows.length ≤ chosen.length)
    {row : α} (mem : row ∈ rows) : row ∈ chosen :=
  (choice.perm_of_length_le long).mem_iff.mpr mem

theorem exists_left_out {chosen rows : List α} (distinct : rows.Nodup) (short : chosen.length < rows.length) :
    ∃ row ∈ rows, row ∉ chosen := by
  by_contra none
  push Not at none
  have choice : rows.Subperm chosen := List.subperm_of_subset distinct none
  exact absurd choice.length_le (by omega)

end Acop.Selection
