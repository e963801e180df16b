import Acop.Redaction

/-! What redaction leaves of a nested value: nothing under a sensitive key, and everything else,
exactly where no container is met that it cannot rebuild and none that it does not walk. -/
namespace Acop.Redaction

section Properties

variable {Key Scalar : Type} (name : Key → String)

/-- A value that is not redacted lies under a sensitive key, through mappings, lists and tuples. -/
inductive Exposed : Nested Key Scalar → Prop where
  | here {entries : List (Key × Nested Key Scalar)} {key : Key} {item : Nested Key Scalar} (member : (key,item) ∈ entries)
    (sensitive : isSensitiveKey (name key)) (kept : item ≠ .str redacted) : Exposed (.dict entries)
  | entry {entries : List (Key × Nested Key Scalar)} {key : Key} {item : Nested Key Scalar} (member : (key,item) ∈ entries)
    (inside : Exposed item) : Exposed (.dict entries)
  | mappingHere {entries : List (Key × Nested Key Scalar)} {key : Key} {item : Nested Key Scalar}
    (member : (key,item) ∈ entries) (sensitive : isSensitiveKey (name key)) (kept : item ≠ .str redacted) :
    Exposed (.mapping entries)
  | mappingEntry {entries : List (Key × Nested Key Scalar)} {key : Key} {item : Nested Key Scalar}
    (member : (key,item) ∈ entries) (inside : Exposed item) : Exposed (.mapping entries)
  | list {items : List (Nested Key Scalar)} {item : Nested Key Scalar} (member : item ∈ items) (inside : Exposed item) :
    Exposed (.list items)
  | tuple {items : List (Nested Key Scalar)} {item : Nested Key Scalar} (member : item ∈ items) (inside : Exposed item) :
    Exposed (.tuple items)
  | named {defaults items : List (Nested Key Scalar)} {item : Nested Key Scalar} (member : item ∈ items)
    (inside : Exposed item) : Exposed (.named defaults items)

/-- The items of a set, unchanged down to the depth limit, where they are cut off. -/
def SparedItem : Nat → Hashable Scalar → Hashable Scalar → Prop
  | 0,_,kept => kept = .str truncated
  | left + 1,.tuple items,kept => ∃ others, kept = .tuple others ∧ List.Forall₂ (SparedItem left) items others
  | left + 1,.named items,kept => ∃ others, kept = .named others ∧ List.Forall₂ (SparedItem left) items others
  | _ + 1,value,kept => kept = value

/-- The entries under no sensitive key are unchanged down to the depth limit, where they are cut off, and the keys and the
lengths are the same. -/
def Spared : Nat → Nested Key Scalar → Nested Key Scalar → Prop
  | 0,_,kept => kept = .str truncated
  | left + 1,.dict entries,kept => ∃ others, kept = .dict others ∧ List.Forall₂ (fun entry other =>
      entry.1 = other.1 ∧ (isSensitiveKey (name entry.1) = false → Spared left entry.2 other.2)) entries others
  | left + 1,.list items,kept => ∃ others, kept = .list others ∧ List.Forall₂ (Spared left) items others
  | left + 1,.tuple items,kept => ∃ others, kept = .tuple others ∧ List.Forall₂ (Spared left) items others
  | left + 1,.named defaults items,kept => ∃ others, kept = .named defaults others ∧ List.Forall₂ (Spared left) items others
  | left + 1,.set items,kept => ∃ others, kept = .set others ∧ List.Forall₂ (SparedItem left) items others
  | _ + 1,value,kept => kept = value

/-- What is promised of `redact`. -/
structure Redacts (value : Nested Key Scalar) : Prop where
  done : ∃ result, redact name maxDepth value = some result ∧ redact name maxDepth result = some result ∧
    ¬ Exposed name result ∧ Spared name maxDepth value result

def RegularItem : Nat → Hashable Scalar → Prop
  | 0,_ => True
  | left + 1,.tuple items => ∀ item ∈ items, RegularItem left item
  | _ + 1,.named _ => False
  | _ + 1,_ => True

/-- Down to the depth limit and under no sensitive key there is no named tuple, nor a mapping other than a `dict` that
exposes a value. -/
def Regular : Nat → Nested Key Scalar → Prop
  | 0,_ => True
  | left + 1,.dict entries => ∀ entry ∈ entries, isSensitiveKey (name entry.1) = false → Regular left entry.2
  | _ + 1,.mapping entries => ¬ Exposed name (.mapping entries)
  | left + 1,.list items => ∀ item ∈ items, Regular left item
  | left + 1,.tuple items => ∀ item ∈ items, Regular left item
  | _ + 1,.named _ _ => False
  | left + 1,.set items => ∀ item ∈ items, RegularItem left item
  | _ + 1,_ => True

end Properties

section Items

variable {α β : Type} {items : List α} {others : List β}

theorem mapM_some_iff {f : α → Option β} : items.mapM f = some others ↔ List.Forall₂ (fun item other => f item = some other) items others := by
  induction items generalizing others with
  | nil => simp [List.forall₂_nil_left_iff,eq_comm]
  | cons item items ih =>
    rw [List.mapM_cons]
    constructor
    · intro done
      obtain ⟨other,first,done⟩ := Option.bind_eq_some_iff.mp done
      obtain ⟨rest,later,done⟩ := Option.bind_eq_some_iff.mp done
      cases done
      exact .cons first (ih.mp later)
    · rintro (_ | ⟨first,later⟩)
      rw [first,ih.mpr later]
      rfl

theorem mapM_some_of_forall {f : α → Option β} {good : α → β → Prop}
    (each : ∀ item ∈ items, ∃ other, f item = some other ∧ good item other) :
    ∃ others, items.mapM f = some others ∧ List.Forall₂ good items others := by
  induction items with
  | nil => exact ⟨[],rfl,.nil⟩
  | cons item items ih =>
    obtain ⟨other,first,holds⟩ := each item List.mem_cons_self
    obtain ⟨rest,later,all⟩ := ih fun item member => each item (List.mem_cons_of_mem _ member)
    refine ⟨other::rest,?_,.cons holds all⟩
    rw [List.mapM_cons,first,later]
    rfl

theorem forall₂_both {first second : α → β → Prop} (one : List.Forall₂ first items others)
    (two : List.Forall₂ second items others) {item : α} (member : item ∈ items) :
    ∃ other ∈ others, first item other ∧ second item other := by
  induction one with
  | nil => cases member
  | cons here later ih =>
    cases two with
    | cons here' later' =>
      rcases List.mem_cons.mp member with rfl | inRest
      · exact ⟨_,List.mem_cons_self,here,here'⟩
      · obtain ⟨other,there,both⟩ := ih later' inRest
        exact ⟨other,List.mem_cons_of_mem _ there,both⟩

theorem forall₂_right {good : α → β → Prop} (all : List.Forall₂ good items others) {other : β} (member : other ∈ others) :
    ∃ item ∈ items, good item other := by
  induction all with
  | nil => cases member
  | cons here _ ih =>
    rcases List.mem_cons.mp member with rfl | inRest
    · exact ⟨_,List.mem_cons_self,here⟩
    · obtain ⟨item,there,holds⟩ := ih inRest
      exact ⟨item,List.mem_cons_of_mem _ there,holds⟩

theorem mapM_fixed {f : β → Option β} {good : α → β → Prop} (all : List.Forall₂ good items others)
    (fixed : ∀ item other, good item other → f other = some other) : others.mapM f = some others := by
  rw [mapM_some_iff,List.forall₂_same]
  intro other member
  obtain ⟨item,_,holds⟩ := forall₂_right all member
  exact fixed item other holds

end Items

section Sets

variable {Scalar : Type}

theorem regularItem_redact (left : Nat) (item : Hashable Scalar) (regular : RegularItem left item) :
    ∃ kept, redactHashable left item = some kept ∧ redactHashable left kept = some kept ∧ SparedItem left item kept := by
  induction left generalizing item with
  | zero => exact ⟨.str truncated,by rw [redactHashable],by rw [redactHashable],by rw [SparedItem]⟩
  | succ left ih =>
    cases item with
    | str text => exact ⟨.str text,by simp [redactHashable],by simp [redactHashable],by simp [SparedItem]⟩
    | scalar value => exact ⟨.scalar value,by simp [redactHashable],by simp [redactHashable],by simp [SparedItem]⟩
    | named items => exact absurd regular (by simp [RegularItem])
    | tuple items =>
      rw [RegularItem] at regular
      obtain ⟨others,done,all⟩ := mapM_some_of_forall fun item member => ih item (regular item member)
      refine ⟨.tuple others,by rw [redactHashable,done]; rfl,?_,?_⟩
      · rw [redactHashable,mapM_fixed all fun _ _ both => both.1]
        rfl
      · rw [SparedItem]
        exact ⟨others,rfl,all.imp fun _ _ both => both.2⟩

theorem regularItem_of_redact (left : Nat) (item kept : Hashable Scalar) (done : redactHashable left item = some kept) :
    RegularItem left item := by
  induction left generalizing item kept with
  | zero => simp [RegularItem]
  | succ left ih =>
    cases item with
    | str text => simp [RegularItem]
    | scalar value => simp [RegularItem]
    | named items => simp [redactHashable] at done
    | tuple items =>
      rw [redactHashable] at done
      obtain ⟨others,each,_⟩ := Option.map_eq_some_iff.mp done
      rw [RegularItem]
      intro item member
      obtain ⟨other,_,here,_⟩ := forall₂_both (mapM_some_iff.mp each) (mapM_some_iff.mp each) member
      exact ih item other here

end Sets

section Values

variable {Key Scalar : Type} {name : Key → String}

theorem not_exposed_str (text : String) : ¬ Exposed name (.str text : Nested Key Scalar) := nofun

/-- One entry of a `dict`. -/
def redactEntry (name : Key → String) (left : Nat) (entry : Key × Nested Key Scalar) : Option (Key × Nested Key Scalar) :=
  if isSensitiveKey (name entry.1) then some (entry.1,.str redacted) else (redact name left entry.2).map fun item => (entry.1,item)

theorem redact_dict (left : Nat) (entries : List (Key × Nested Key Scalar)) :
    redact name (left + 1) (.dict entries) = (entries.mapM (redactEntry name left)).map .dict := by
  rw [redact]
  rfl

/-- What holds of an entry, and of what becomes of it. -/
structure Kept (name : Key → String) (left : Nat) (entry other : Key × Nested Key Scalar) : Prop where
  done : redactEntry name left entry = some other
  again : redactEntry name left other = some other
  key : entry.1 = other.1
  hidden : isSensitiveKey (name other.1) = true → other.2 = .str redacted
  unexposed : ¬ Exposed name other.2
  spared : isSensitiveKey (name entry.1) = false → Spared name left entry.2 other.2

/-- What `redact` makes of a regular value. -/
theorem redact_regular (left : Nat) (value : Nested Key Scalar) (regular : Regular name left value) :
    ∃ kept, redact name left value = some kept ∧ redact name left kept = some kept ∧ ¬ Exposed name kept ∧
      Spared name left value kept := by
  induction left generalizing value with
  | zero => exact ⟨.str truncated,by rw [redact],by rw [redact],not_exposed_str _,by rw [Spared]⟩
  | succ left ih =>
    cases value with
    | str text => exact ⟨.str text,by simp [redact],by simp [redact],nofun,by simp [Spared]⟩
    | scalar value => exact ⟨.scalar value,by simp [redact],by simp [redact],nofun,by simp [Spared]⟩
    | mapping entries =>
      rw [Regular] at regular
      exact ⟨.mapping entries,by simp [redact],by simp [redact],regular,by simp [Spared]⟩
    | named defaults items => exact absurd regular (by simp [Regular])
    | dict entries =>
      rw [Regular] at regular
      have each : ∀ entry ∈ entries, ∃ other, redactEntry name left entry = some other ∧ Kept name left entry other := by
        rintro ⟨key,item⟩ member
        cases sensitive : isSensitiveKey (name key) with
        | true =>
          have done : redactEntry name left (key,item) = some (key,.str redacted) := if_pos sensitive
          exact ⟨_,done,done,if_pos sensitive,rfl,fun _ => rfl,not_exposed_str _,fun plain => by rw [sensitive] at plain; cases plain⟩
        | false =>
          obtain ⟨kept,done,again,unexposed,spared⟩ := ih item (regular _ member sensitive)
          have entryDone : redactEntry name left (key,item) = some (key,kept) := by
            simp [redactEntry,sensitive,done]
          have entryAgain : redactEntry name left (key,kept) = some (key,kept) := by
            simp [redactEntry,sensitive,again]
          refine ⟨(key,kept),entryDone,entryDone,entryAgain,rfl,fun plain => ?_,unexposed,fun _ => spared⟩
          rw [sensitive] at plain
          cases plain
      obtain ⟨others,done,all⟩ := mapM_some_of_forall each
      refine ⟨.dict others,by rw [redact_dict,done]; rfl,?_,?_,?_⟩
      · rw [redact_dict,mapM_fixed all fun _ _ kept => kept.again]
        rfl
      · intro exposed
        cases exposed with
        | here member sensitive shown =>
          obtain ⟨_,_,kept⟩ := forall₂_right all member
          exact shown (kept.hidden sensitive)
        | entry member inside =>
          obtain ⟨_,_,kept⟩ := forall₂_right all member
          exact kept.unexposed inside
      · rw [Spared]
        exact ⟨others,rfl,all.imp fun _ _ kept => ⟨kept.key,kept.spared⟩⟩
    | list items =>
      rw [Regular] at regular
      obtain ⟨others,done,all⟩ := mapM_some_of_forall fun item member => ih item (regular item member)
      refine ⟨.list others,by rw [redact,done]; rfl,?_,?_,?_⟩
      · rw [redact,mapM_fixed all fun _ _ kept => kept.1]
        rfl
      · intro exposed
        cases exposed with
        | list member inside =>
          obtain ⟨_,_,kept⟩ := forall₂_right all member
          exact kept.2.1 inside
      · rw [Spared]
        exact ⟨others,rfl,all.imp fun _ _ kept => kept.2.2⟩
    | tuple items =>
      rw [Regular] at regular
      obtain ⟨others,done,all⟩ := mapM_some_of_forall fun item member => ih item (regular item member)
      refine ⟨.tuple others,by rw [redact,done]; rfl,?_,?_,?_⟩
      · rw [redact,mapM_fixed all fun _ _ kept => kept.1]
        rfl
      · intro exposed
        cases exposed with
        | tuple member inside =>
          obtain ⟨_,_,kept⟩ := forall₂_right all member
          exact kept.2.1 inside
      · rw [Spared]
        exact ⟨others,rfl,all.imp fun _ _ kept => kept.2.2⟩
    | set items =>
      rw [Regular] at regular
      obtain ⟨others,done,all⟩ := mapM_some_of_forall fun item member => regularItem_redact left item (regular item member)
      refine ⟨.set others,by rw [redact,done]; rfl,?_,nofun,?_⟩
      · rw [redact,mapM_fixed all fun _ _ kept => kept.1]
        rfl
      · rw [Spared]
        exact ⟨others,rfl,all.imp fun _ _ kept => kept.2⟩

theorem not_spared_wrapped (left : Nat) (value kept : Nested Key Scalar) (rest : List (Nested Key Scalar))
    (done : redact name left value = some kept) : ¬ Spared name left value (.list (kept::rest)) := by
  induction left generalizing value kept rest with
  | zero => simp [Spared]
  | succ left ih =>
    cases value with
    | list items =>
      rw [Spared]
      rintro ⟨others,same,all⟩
      cases same
      rw [redact] at done
      obtain ⟨results,each,rfl⟩ := Option.map_eq_some_iff.mp done
      cases all with
      | cons first _ =>
        cases mapM_some_iff.mp each with
        | cons here _ => exact ih _ _ _ here first
    | str text | scalar value | dict entries | mapping entries | tuple items | named defaults items | set items =>
      simp [Spared]

theorem regular_of_redact (left : Nat) (value kept : Nested Key Scalar) (done : redact name left value = some kept)
    (unexposed : ¬ Exposed name kept) (spared : Spared name left value kept) : Regular name left value := by
  induction left generalizing value kept with
  | zero => simp [Regular]
  | succ left ih =>
    cases value with
    | str text => simp [Regular]
    | scalar value => simp [Regular]
    | mapping entries =>
      rw [Regular]
      rw [redact] at done <;> simp_all
    | named defaults items =>
      rw [redact] at done
      obtain ⟨results,each,done⟩ := Option.bind_eq_some_iff.mp done
      unfold construct at done
      split at done
      · cases done
        rw [Spared] at spared
        obtain ⟨others,same,all⟩ := spared
        cases same
        cases all with
        | cons first _ =>
          cases mapM_some_iff.mp each with
          | cons here _ => exact absurd first (not_spared_wrapped _ _ _ _ here)
      · cases done
    | dict entries =>
      rw [redact_dict] at done
      obtain ⟨results,each,rfl⟩ := Option.map_eq_some_iff.mp done
      rw [Spared] at spared
      obtain ⟨others,same,all⟩ := spared
      cases same
      rw [Regular]
      intro entry member plain
      obtain ⟨other,inside,here,key,sparedItem⟩ := forall₂_both (mapM_some_iff.mp each) all member
      unfold redactEntry at here
      rw [if_neg (by simp [plain])] at here
      obtain ⟨item,doneItem,rfl⟩ := Option.map_eq_some_iff.mp here
      exact ih entry.2 item doneItem (fun exposed => unexposed (.entry inside exposed)) (sparedItem plain)
    | list items =>
      rw [redact] at done
      obtain ⟨results,each,rfl⟩ := Option.map_eq_some_iff.mp done
      rw [Spared] at spared
      obtain ⟨others,same,all⟩ := spared
      cases same
      rw [Regular]
      intro item member
      obtain ⟨other,inside,here,sparedItem⟩ := forall₂_both (mapM_some_iff.mp each) all member
      exact ih item other here (fun exposed => unexposed (.list inside exposed)) sparedItem
    | tuple items =>
      rw [redact] at done
      obtain ⟨results,each,rfl⟩ := Option.map_eq_some_iff.mp done
      rw [Spared] at spared
      obtain ⟨others,same,all⟩ := spared
      cases same
      rw [Regular]
      intro item member
      obtain ⟨other,inside,here,sparedItem⟩ := forall₂_both (mapM_some_iff.mp each) all member
      exact ih item other here (fun exposed => unexposed (.tuple inside exposed)) sparedItem
    | set items =>
      rw [redact] at done
      obtain ⟨results,each,_⟩ := Option.map_eq_some_iff.mp done
      rw [Regular]
      intro item member
      obtain ⟨other,_,here,_⟩ := forall₂_both (mapM_some_iff.mp each) (mapM_some_iff.mp each) member
      exact regularItem_of_redact left item other here

/-- Redaction does what it is for on a value exactly if, down to its depth limit and under no sensitive key, it meets no
named tuple and no mapping other than a `dict` that exposes a value. -/
theorem redacts_iff (name : Key → String) (value : Nested Key Scalar) : Redacts name value ↔ Regular name maxDepth value := by
  constructor
  · rintro ⟨kept,done,_,unexposed,spared⟩
    exact regular_of_redact maxDepth value kept done unexposed spared
  · intro regular
    exact ⟨redact_regular maxDepth value regular⟩

/-- A named tuple of two fields has no redaction, and of a mapping that is no `dict` a password is left. -/
theorem irregular_values : redact id maxDepth (.named [] [.str "sw1",.str "up"] : Nested String Unit) = none ∧
    ¬ Redacts id (.named [] [.str "sw1",.str "up"] : Nested String Unit) ∧
      ¬ Redacts id (.mapping [("password",.str "hunter2")] : Nested String Unit) := by
  refine ⟨rfl,?_,?_⟩
  · rintro ⟨kept,done,_⟩
    cases done
  · rintro ⟨kept,done,_,unexposed,_⟩
    cases done
    exact unexposed (.mappingHere List.mem_cons_self (by decide +kernel) (by simp [redacted]))

end Values

section Json

mutual
theorem regular_ofJson : (left : Nat) → (value : Json) → Regular id left (ofJson value)
  | 0,_ => by simp [Regular]
  | left + 1,.arr items => by
    rw [ofJson,Regular]
    exact regular_ofItems left items
  | left + 1,.obj fields => by
    rw [ofJson,Regular]
    exact fun entry member _ => regular_ofFields left fields entry member
  | _ + 1,.str _ | _ + 1,.null | _ + 1,.bool _ | _ + 1,.int _ | _ + 1,.float _ | _ + 1,.nonFinite _ => by
    simp [ofJson,Regular]
theorem regular_ofItems (left : Nat) : (items : List Json) → ∀ item ∈ ofItems items, Regular id left item
  | [] => by simp [ofItems]
  | item::items => by
    rw [ofItems]
    exact List.forall_mem_cons.mpr ⟨regular_ofJson left item,regular_ofItems left items⟩
theorem regular_ofFields (left : Nat) : (fields : List (String × Json)) → ∀ entry ∈ ofFields fields, Regular id left entry.2
  | [] => by simp [ofFields]
  | (key,value)::fields => by
    rw [ofFields]
    exact List.forall_mem_cons.mpr ⟨regular_ofJson left value,regular_ofFields left fields⟩
end

theorem json_redacted (value : Json) : redact id maxDepth (ofJson value) = some (ofJson (Acop.redact value)) ∧
    ¬ Exposed id (ofJson (Acop.redact value)) := by
  have done : redact id maxDepth (ofJson value) = some (ofJson (Acop.redact value)) := redact_ofJson maxDepth value
  refine ⟨done,?_⟩
  obtain ⟨kept,here,_,unexposed,_⟩ := redact_regular maxDepth _ (regular_ofJson maxDepth value)
  cases done.symm.trans here
  exact unexposed

end Json

end Acop.Redaction
