import Mathlib.Data.List.Nodup
import Mathlib.Tactic.Common

/-! Rows under their keys, as a dictionary of lists keeps them: a key stands where its
first row did, and the rows of one key in the order they came. -/
namespace Acop.Selection

variable {α κ : Type} [DecidableEq κ]

def place (key : κ) (row : α) : List (κ × List α) → List (κ × List α)
  | [] => [(key,[row])]
  | (taken,rows)::groups => if taken = key then (taken,rows ++ [row])::groups else (taken,rows)::place key row groups

def grouped (key : α → κ) (rows : List α) : List (κ × List α) :=
  rows.foldl (fun groups row => place (key row) row groups) []

def held (key : κ) : List (κ × List α) → List α
  | [] => []
  | (taken,rows)::groups => if taken = key then rows else held key groups

variable {groups : List (κ × List α)} {key wanted : κ} {row : α} {members : List α}

theorem held_place : held wanted (place key row groups) =
    if key = wanted then held wanted groups ++ [row] else held wanted groups := by
  induction groups with
  | nil =>
    by_cases same : key = wanted <;> simp [place,held,same]
  | cons group groups ih =>
    obtain ⟨taken,rows⟩ := group
    by_cases here : taken = key
    · subst here
      by_cases same : taken = wanted <;> simp [place,held,same]
    · simp only [place,if_neg here,held,ih]
      by_cases same : taken = wanted
      · have other : key ≠ wanted := fun equal => here (same.trans equal.symm)
        simp [same,other]
      · simp [same]

theorem mem_keys_place {name : κ} : name ∈ (place key row groups).map (·.1) ↔ name = key ∨ name ∈ groups.map (·.1) := by
  induction groups with
  | nil => simp [place]
  | cons group groups ih =>
    obtain ⟨taken,rows⟩ := group
    by_cases here : taken = key
    · simp [place,here]
    · simp only [place,if_neg here,List.map_cons,List.mem_cons,ih]
      tauto

theorem nodup_place (distinct : (groups.map (·.1)).Nodup) : ((place key row groups).map (·.1)).Nodup := by
  induction groups with
  | nil => simp [place]
  | cons group groups ih =>
    obtain ⟨taken,rows⟩ := group
    rw [List.map_cons,List.nodup_cons] at distinct
    by_cases here : taken = key
    · simpa [place,here] using distinct
    · simp only [place,if_neg here,List.map_cons,List.nodup_cons,mem_keys_place]
      exact ⟨fun either => either.elim here distinct.1,ih distinct.2⟩

theorem filled_place (filled : ∀ group ∈ groups, group.2 ≠ []) : ∀ group ∈ place key row groups, group.2 ≠ [] := by
  induction groups with
  | nil => simp [place]
  | cons group groups ih =>
    obtain ⟨taken,rows⟩ := group
    have later := ih fun group member => filled group (.tail _ member)
    have first := filled _ (.head _)
    by_cases here : taken = key
    · rw [place,if_pos here]
      intro other member
      rcases List.mem_cons.mp member with rfl | member
      · simp
      · exact filled other (.tail _ member)
    · rw [place,if_neg here]
      intro other member
      rcases List.mem_cons.mp member with rfl | member
      · exact first
      · exact later other member

theorem held_of_mem (distinct : (groups.map (·.1)).Nodup) (member : (key,members) ∈ groups) : held key groups = members := by
  induction groups with
  | nil => cases member
  | cons group groups ih =>
    obtain ⟨taken,rows⟩ := group
    rw [List.map_cons,List.nodup_cons] at distinct
    rcases List.mem_cons.mp member with same | member
    · cases same
      simp [held]
    · have other : taken ≠ key := by
        intro same
        rw [same] at distinct
        exact distinct.1 (List.mem_map.mpr ⟨_,member,rfl⟩)
      rw [held,if_neg other]
      exact ih distinct.2 member

theorem mem_of_held (some' : held key groups ≠ []) : (key,held key groups) ∈ groups := by
  induction groups with
  | nil => exact absurd rfl some'
  | cons group groups ih =>
    obtain ⟨taken,rows⟩ := group
    by_cases here : taken = key
    · simp [held,here]
    · rw [held,if_neg here] at some' ⊢
      exact .tail _ (ih some')

variable (name : α → κ) (rows : List α)

/-- What a dictionary of lists keeps while rows are added to it. -/
structure Grouping (groups : List (κ × List α)) : Prop where
  distinct : (groups.map (·.1)).Nodup
  filled : ∀ group ∈ groups, group.2 ≠ []

theorem grouping_fold (kept : Grouping groups) : Grouping (rows.foldl (fun groups row => place (name row) row groups) groups) := by
  induction rows generalizing groups with
  | nil => exact kept
  | cons row rows ih => exact ih ⟨nodup_place kept.distinct,filled_place kept.filled⟩

theorem held_fold : held wanted (rows.foldl (fun groups row => place (name row) row groups) groups) =
    held wanted groups ++ rows.filter fun row => name row = wanted := by
  induction rows generalizing groups with
  | nil => simp
  | cons row rows ih =>
    rw [List.foldl_cons,ih,held_place]
    by_cases same : name row = wanted <;> simp [same]

variable {name rows}

theorem mem_grouped : (key,members) ∈ grouped name rows ↔ members = rows.filter (fun row => name row = key) ∧ members ≠ [] := by
  have kept : Grouping (grouped name rows) := grouping_fold name rows ⟨List.nodup_nil,by simp⟩
  have all : held key (grouped name rows) = rows.filter fun row => name row = key := held_fold name rows
  constructor
  · intro member
    exact ⟨(held_of_mem kept.distinct member).symm.trans all,kept.filled _ member⟩
  · intro ⟨same,some'⟩
    rw [same,← all] at some' ⊢
    exact mem_of_held some'

end Acop.Selection
