import Mathlib.Data.List.Forall2
import Mathlib.Data.List.Nodup
import Mathlib.Order.Defs.Unbundled
import Mathlib.Tactic.Common

/-! Tables under a primary key: a row is added at the end or revised in place, and
none is deleted. -/
namespace Acop.Store

variable {Row Key : Type} {key : Row → Key}

structure Table (key : Row → Key) where
  rows : List Row
  distinct : (rows.map key).Nodup

structure Revision (key : Row → Key) where
  change : Row → Row
  keeps : ∀ row, key (change row) = key row

namespace Table

def empty : Table key := ⟨[],List.nodup_nil⟩

def revise (table : Table key) (which : Row → Bool) (revision : Revision key) : Table key where
  rows := table.rows.map fun row => if which row then revision.change row else row
  distinct := by
    have same : (key ∘ fun row => if which row then revision.change row else row) = key := by
      funext row
      simp only [Function.comp]
      split
      · exact revision.keeps row
      · rfl
    rw [List.map_map,same]
    exact table.distinct

section Revise

variable {table : Table key} {which : Row → Bool} {revision : Revision key} {row : Row}

theorem rows_revise : (table.revise which revision).rows =
    table.rows.map fun row => if which row then revision.change row else row := rfl

theorem mem_revise : row ∈ (table.revise which revision).rows ↔
    ∃ old ∈ table.rows, (which old ∧ row = revision.change old) ∨ (¬ which old ∧ row = old) := by
  rw [rows_revise,List.mem_map]
  constructor
  · rintro ⟨old,member,rfl⟩
    by_cases chosen : which old
    · exact ⟨old,member,.inl ⟨chosen,if_pos chosen⟩⟩
    · exact ⟨old,member,.inr ⟨chosen,if_neg chosen⟩⟩
  · rintro ⟨old,member,⟨chosen,rfl⟩ | ⟨passed,rfl⟩⟩
    · exact ⟨old,member,if_pos chosen⟩
    · exact ⟨row,member,if_neg passed⟩

theorem mem_revise_of_not (member : row ∈ table.rows) (passed : ¬ which row) : row ∈ (table.revise which revision).rows :=
  mem_revise.mpr ⟨row,member,.inr ⟨passed,rfl⟩⟩

theorem change_mem_revise (member : row ∈ table.rows) (chosen : which row) :
    revision.change row ∈ (table.revise which revision).rows :=
  mem_revise.mpr ⟨row,member,.inl ⟨chosen,rfl⟩⟩

theorem map_revise {Column : Type} {column : Row → Column} (kept : ∀ row, column (revision.change row) = column row) :
    (table.revise which revision).rows.map column = table.rows.map column := by
  rw [rows_revise,List.map_map]
  apply List.map_congr_left
  intro row _
  simp only [Function.comp]
  split
  · exact kept row
  · rfl

end Revise

theorem eq_of_key {table : Table key} {first second : Row} (inFirst : first ∈ table.rows) (inSecond : second ∈ table.rows)
    (same : key first = key second) : first = second :=
  List.inj_on_of_nodup_map table.distinct inFirst inSecond same

variable [DecidableEq Key]

def find (table : Table key) (id : Key) : Option Row := table.rows.find? fun row => key row = id

theorem find_eq_some {table : Table key} {id : Key} {row : Row} :
    table.find id = some row ↔ row ∈ table.rows ∧ key row = id := by
  constructor
  · intro found
    exact ⟨List.mem_of_find?_eq_some found,by simpa using List.find?_some found⟩
  · rintro ⟨member,rfl⟩
    cases found : table.find (key row) with
    | none => simpa using List.find?_eq_none.mp found row member
    | some other =>
      have same : key other = key row := by simpa using List.find?_some found
      rw [eq_of_key (List.mem_of_find?_eq_some found) member same]

def update (table : Table key) (id : Key) (revision : Revision key) : Table key :=
  table.revise (fun row => key row = id) revision

theorem mem_update {table : Table key} {id : Key} {revision : Revision key} {row : Row} :
    row ∈ (table.update id revision).rows ↔
      ∃ old ∈ table.rows, (key old = id ∧ row = revision.change old) ∨ (key old ≠ id ∧ row = old) := by
  simp only [update,mem_revise,decide_eq_true_eq]

theorem stays_update {table : Table key} {id : Key} {revision : Revision key} {row : Row} (member : row ∈ table.rows) :
    row ∈ (table.update id revision).rows ↔ (key row = id → revision.change row = row) := by
  rw [mem_update]
  constructor
  · rintro ⟨old,inOld,⟨named,changed⟩ | ⟨other,rfl⟩⟩ same
    · have kept : key row = key old := by rw [changed,revision.keeps]
      cases eq_of_key member inOld kept
      exact changed.symm
    · exact absurd same other
  · intro unchanged
    by_cases same : key row = id
    · exact ⟨row,member,.inl ⟨same,(unchanged same).symm⟩⟩
    · exact ⟨row,member,.inr ⟨same,rfl⟩⟩

def insert (table : Table key) (row : Row) : Option (Table key) :=
  if fresh : key row ∉ table.rows.map key then
    some ⟨table.rows ++ [row],by
      rw [List.map_append,List.nodup_append]
      refine ⟨table.distinct,by simp,?_⟩
      intro taken member other single
      rw [List.map_singleton,List.mem_singleton] at single
      subst single
      exact fun same => fresh (same ▸ member)⟩
  else none

theorem insert_eq_some {table next : Table key} {row : Row} (added : table.insert row = some next) :
    (∀ old ∈ table.rows, key old ≠ key row) ∧ next.rows = table.rows ++ [row] := by
  unfold insert at added
  split at added
  · rename_i fresh
    cases added
    exact ⟨fun old member same => fresh (same ▸ List.mem_map_of_mem member),rfl⟩
  · cases added

theorem mem_insert {table next : Table key} {row other : Row} (added : table.insert row = some next) :
    other ∈ next.rows ↔ other ∈ table.rows ∨ other = row := by
  rw [(insert_eq_some added).2,List.mem_append,List.mem_singleton]

theorem rows_update_insert {table next : Table key} {row : Row} (revision : Revision key) (added : table.insert row = some next) :
    (next.update (key row) revision).rows = table.rows ++ [revision.change row] := by
  obtain ⟨apart,rows⟩ := insert_eq_some added
  rw [update,rows_revise,rows,List.map_append,List.map_singleton]
  congr 1
  · refine (List.map_congr_left fun old member => if_neg ?_).trans (List.map_id _)
    exact fun same => apart old member (of_decide_eq_true same)
  · exact congrArg (fun row => [row]) (if_pos (decide_eq_true rfl))

/-- Rows are added together, unless one of their keys is taken or occurs twice. -/
def insertAll (table : Table key) (rows : List Row) : Option (Table key) :=
  if distinct : ((table.rows ++ rows).map key).Nodup then some ⟨table.rows ++ rows,distinct⟩ else none

theorem insertAll_eq_some {table next : Table key} {rows : List Row} (added : table.insertAll rows = some next) :
    ((table.rows ++ rows).map key).Nodup ∧ next.rows = table.rows ++ rows := by
  unfold insertAll at added
  split at added
  · rename_i distinct
    cases added
    exact ⟨distinct,rfl⟩
  · cases added

theorem mem_insertAll {table next : Table key} {rows : List Row} {row : Row} (added : table.insertAll rows = some next) :
    row ∈ next.rows ↔ row ∈ table.rows ∨ row ∈ rows := by
  rw [(insertAll_eq_some added).2,List.mem_append]

end Table

theorem table_ext {first second : Table key} (same : first.rows = second.rows) :
    first = second := by
  cases first
  cases second
  cases same
  rfl

theorem find_update [DecidableEq Key] (table : Table key) (id other : Key)
    (revision : Revision key) : (table.update id revision).find other =
      (table.find other).map fun row => if key row = id then revision.change row else row := by
  unfold Table.find
  rw [Table.update,Table.rows_revise,List.find?_map]
  have same : ((fun row => decide (key row = other)) ∘ fun row =>
      if decide (key row = id) = true then revision.change row else row) = fun row => decide (key row = other) := by
    funext row
    simp only [Function.comp,decide_eq_true_eq]
    split
    · rw [revision.keeps]
    · rfl
  rw [same]
  simp

section View

variable {Other : Type} {otherKey : Other → Key} (see : Row → Other) (keyed : ∀ row, otherKey (see row) = key row)

/-- The table seen through a part of its columns, the key among them. -/
def Table.view (table : Table key) : Table otherKey where
  rows := table.rows.map see
  distinct := by
    have same : otherKey ∘ see = key := funext keyed
    rw [List.map_map,same]
    exact table.distinct

theorem find_view [DecidableEq Key] (table : Table key) (id : Key) :
    (table.view see keyed).find id = (table.find id).map see := by
  unfold Table.find
  rw [Table.view,List.find?_map]
  have same : ((fun row => decide (otherKey row = id)) ∘ see) = fun row => decide (key row = id) := by
    funext row
    simp only [Function.comp,keyed]
  rw [same]

theorem view_revise (table : Table key) {which : Row → Bool} {seen : Other → Bool} {revision : Revision key}
    {other : Revision otherKey} (chosen : ∀ row, seen (see row) = which row)
    (changed : ∀ row, see (revision.change row) = other.change (see row)) :
    (table.revise which revision).view see keyed = (table.view see keyed).revise seen other := by
  apply table_ext
  simp only [Table.view,Table.rows_revise,List.map_map]
  apply List.map_congr_left
  intro row _
  simp only [Function.comp,chosen]
  split
  · exact changed row
  · rfl

theorem view_update [DecidableEq Key] (table : Table key) (id : Key) {revision : Revision key} {other : Revision otherKey}
    (changed : ∀ row, see (revision.change row) = other.change (see row)) :
    (table.update id revision).view see keyed = (table.view see keyed).update id other :=
  view_revise see keyed table (fun row => by rw [keyed]) changed

end View

section Growth

variable {keeps : Row → Row → Prop}

/-- A later table holds every earlier row in its place, as far as `keeps` tells. -/
def Grows (keeps : Row → Row → Prop) (old new : Table key) : Prop :=
  ∀ (place : Nat) (row : Row), old.rows[place]? = some row → ∃ later, new.rows[place]? = some later ∧ keeps row later

theorem grows_refl [Std.Refl keeps] (table : Table key) : Grows keeps table table :=
  fun _ row found => ⟨row,found,refl_of keeps row⟩

theorem grows_trans [IsTrans Row keeps]
    {first second third : Table key} (early : Grows keeps first second) (late : Grows keeps second third) :
    Grows keeps first third := by
  intro place row found
  obtain ⟨middle,foundMiddle,kept⟩ := early place row found
  obtain ⟨last,foundLast,keptLater⟩ := late place middle foundMiddle
  exact ⟨last,foundLast,trans_of keeps kept keptLater⟩

theorem grows_revise [Std.Refl keeps] {table : Table key} {which : Row → Bool} {revision : Revision key}
    (kept : ∀ row ∈ table.rows, which row → keeps row (revision.change row)) : Grows keeps table (table.revise which revision) := by
  intro place row found
  rw [Table.rows_revise,List.getElem?_map,found]
  refine ⟨_,rfl,?_⟩
  dsimp only
  split
  · exact kept row (List.mem_of_getElem? found) ‹_›
  · exact refl_of keeps row

theorem grows_insert [DecidableEq Key] [Std.Refl keeps] {table next : Table key} {row : Row}
    (added : table.insert row = some next) : Grows keeps table next := by
  intro place old found
  have inside : place < table.rows.length := (List.getElem?_eq_some_iff.mp found).1
  rw [(Table.insert_eq_some added).2,List.getElem?_append_left inside]
  exact ⟨old,found,refl_of keeps old⟩

theorem Grows.mem {old new : Table key} {row : Row} (grows : Grows keeps old new) (member : row ∈ old.rows) :
    ∃ later ∈ new.rows, keeps row later := by
  obtain ⟨place,found⟩ := List.getElem?_of_mem member
  obtain ⟨later,foundLater,kept⟩ := grows place row found
  exact ⟨later,List.mem_of_getElem? foundLater,kept⟩

end Growth

end Acop.Store
