import Mathlib.Data.List.Basic

/-! Half-open ranges of positions, in the order in which they are read. They cover when no
marked position falls before the first, between two of them or after the last. -/
namespace Acop

variable {marked : Nat → Prop} {start middle stop : Nat} {spans before after : List (Nat × Nat)}

def Unmarked (marked : Nat → Prop) (start stop : Nat) : Prop := ∀ x, start ≤ x → x < stop → ¬marked x

def Covers (marked : Nat → Prop) : Nat → List (Nat × Nat) → Nat → Prop
  | start,[],stop => Unmarked marked start stop
  | start,span::rest,stop => Unmarked marked start span.1 ∧ Covers marked span.2 rest stop

theorem Unmarked.trans (first : Unmarked marked start middle) (second : Unmarked marked middle stop) :
    Unmarked marked start stop := by
  intro x low high
  by_cases early : x < middle
  · exact first x low early
  · exact second x (by omega) high

theorem Unmarked.of_le (backwards : stop ≤ start) : Unmarked marked start stop := by
  intro x low high
  omega

theorem Covers.finds (covers : Covers marked start spans stop) {x : Nat} (low : start ≤ x) (high : x < stop)
    (isMarked : marked x) : ∃ span ∈ spans, span.1 ≤ x ∧ x < span.2 := by
  induction spans generalizing start with
  | nil => exact absurd isMarked (covers x low high)
  | cons span rest ih =>
    have reached : span.1 ≤ x := by
      by_contra early
      exact covers.1 x low (by omega) isMarked
    by_cases inside : x < span.2
    · exact ⟨span,List.mem_cons_self,reached,inside⟩
    · obtain ⟨later,member,within⟩ := ih covers.2 (by omega)
      exact ⟨later,List.mem_cons_of_mem span member,within⟩

theorem Covers.earlier (gap : Unmarked marked start middle) (covers : Covers marked middle spans stop) :
    Covers marked start spans stop := by
  cases spans with
  | nil => exact gap.trans covers
  | cons span rest => exact ⟨gap.trans covers.1,covers.2⟩

theorem Covers.append (first : Covers marked start before middle) (second : Covers marked middle after stop) :
    Covers marked start (before ++ after) stop := by
  induction before generalizing start with
  | nil => exact second.earlier first
  | cons span rest ih => exact ⟨first.1,ih first.2⟩

theorem Covers.flatMap (cut : Nat × Nat → List (Nat × Nat)) (covers : Covers marked start spans stop)
    (cuts : ∀ span ∈ spans, Covers marked span.1 (cut span) span.2) : Covers marked start (spans.flatMap cut) stop := by
  induction spans generalizing start with
  | nil => exact covers
  | cons span rest ih =>
    rw [List.flatMap_cons]
    have here : Covers marked start (cut span) span.2 := (cuts span List.mem_cons_self).earlier covers.1
    exact here.append (ih covers.2 fun later member => cuts later (List.mem_cons_of_mem span member))

theorem Covers.filter (keep : Nat × Nat → Bool) (covers : Covers marked start spans stop)
    (dropped : ∀ span ∈ spans, keep span = false → Unmarked marked span.1 span.2) :
    Covers marked start (spans.filter keep) stop := by
  induction spans generalizing start with
  | nil => exact covers
  | cons span rest ih =>
    have later := ih covers.2 fun other member => dropped other (List.mem_cons_of_mem span member)
    cases kept : keep span with
    | true =>
      rw [List.filter_cons_of_pos kept]
      exact ⟨covers.1,later⟩
    | false =>
      rw [List.filter_cons_of_neg (by simp [kept])]
      exact later.earlier (covers.1.trans (dropped span List.mem_cons_self kept))

end Acop
