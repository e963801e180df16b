import Acop.Guarantee.Pagination

/-! The identifier filter: what a listing by `namespace:value` returns, page after page, and for which
values that is what carries the identifier. -/
namespace Acop.Cmdb
open Acop.Store AssetService

section Splitting

theorem rpartition_eq {front back : List Char} (plain : ':' ∉ back) : rpartition (front ++ ':'::back) = (front,back) := by
  have all : ∀ char ∈ back.reverse, decide (char ≠ ':') = true := by
    intro char member
    refine decide_eq_true ?_
    rintro rfl
    exact plain (List.mem_reverse.mp member)
  have value : (((front ++ ':'::back).reverse.takeWhile (· ≠ ':')).reverse : List Char) = back := by
    rw [List.reverse_append,List.reverse_cons,List.append_assoc,List.takeWhile_append_of_pos all]
    simp
  have place : (front ++ ':'::back).length - back.length - 1 = front.length := by
    rw [List.length_append,List.length_cons]
    omega
  rw [rpartition,value,place,List.take_left]

theorem split_last {text : List Char} (colon : ':' ∈ text) : ∃ front back, text = front ++ ':'::back ∧ ':' ∉ back := by
  obtain ⟨back,front,split,plain⟩ := List.eq_append_cons_of_mem (List.mem_reverse.mpr colon)
  refine ⟨front.reverse,back.reverse,?_,by simpa using plain⟩
  rw [← List.reverse_reverse text,split]
  simp

theorem mem_intercalate {pieces : List (List Char)} {char : Char} (member : char ∈ [':'].intercalate pieces) :
    char = ':' ∨ ∃ piece ∈ pieces, char ∈ piece := by
  induction pieces with
  | nil => simp at member
  | cons piece pieces ih =>
    cases pieces with
    | nil => exact .inr ⟨piece,by simp,by simpa using member⟩
    | cons next pieces =>
      simp only [List.intercalate_cons_cons,List.mem_append,List.mem_singleton] at member
      rcases member with (inPiece | colon) | later
      · exact .inr ⟨piece,by simp,inPiece⟩
      · exact .inl colon
      · obtain colon | ⟨other,inRest,inOther⟩ := ih later
        · exact .inl colon
        · exact .inr ⟨other,List.mem_cons_of_mem _ inRest,inOther⟩

def isNamespaceChar (char : Char) : Bool :=
  ('a' ≤ char && char ≤ 'z') || ('0' ≤ char && char ≤ '9') || char = '_' || char = '-' || char = ':'

theorem namespace_chars {text : String} (rules : matchesNamespace text) : ∀ char ∈ text.toList, isNamespaceChar char := by
  intro char member
  have whole : [':'].intercalate (text.toList.splitOn ':') = text.toList := List.intercalate_splitOn ':'
  rw [← whole] at member
  rcases mem_intercalate member with rfl | ⟨piece,inPieces,inPiece⟩
  · rfl
  · unfold matchesNamespace at rules
    split at rules
    · cases rules
    · rename_i first rest split
      rw [split] at inPieces
      simp only [Bool.and_eq_true,List.all_eq_true] at rules
      obtain ⟨⟨_,plain⟩,others⟩ := rules
      rcases List.mem_cons.mp inPieces with rfl | inRest
      · have := plain char inPiece
        simp only [isNamespaceChar]
        grind
      · have := (others piece inRest).2 char inPiece
        simp only [isNamespaceChar]
        grind

/-- Such characters are digits, small letters and three signs of ASCII. -/
theorem namespace_bounds {char : Char} (rules : isNamespaceChar char) :
    45 ≤ char.toNat ∧ char.toNat ≤ 122 ∧ (char.toNat ≤ 58 ∨ 95 ≤ char.toNat) := by
  simp only [isNamespaceChar,Bool.or_eq_true,Bool.and_eq_true,decide_eq_true_eq,Char.le_def,UInt32.le_iff_toNat_le] at rules
  rcases rules with (((⟨low,high⟩ | ⟨low,high⟩) | rfl) | rfl) | rfl
  · have low : 97 ≤ char.toNat := low
    have high : char.toNat ≤ 122 := high
    omega
  · have low : 48 ≤ char.toNat := low
    have high : char.toNat ≤ 57 := high
    omega
  all_goals decide

theorem namespace_not_space {char : Char} (rules : isNamespaceChar char) : isSpace char = false := by
  have bounds := namespace_bounds rules
  refine Bool.eq_false_iff.mpr fun space => ?_
  simp only [isSpace,List.mem_cons,List.not_mem_nil,or_false,Bool.or_eq_true,Bool.and_eq_true,decide_eq_true_eq] at space
  omega

theorem strip_plain {text : String} (plain : ∀ char ∈ text.toList, isSpace char = false) : strip text = text := by
  have kept : ∀ chars : List Char, (∀ char ∈ chars, isSpace char = false) → chars.dropWhile isSpace = chars := by
    intro chars all
    cases chars with
    | nil => rfl
    | cons char rest => simp [all char]
  rw [strip,kept _ plain,kept _ fun char member => plain char (List.mem_reverse.mp member),List.reverse_reverse,String.ofList_toList]

end Splitting

def Holds (inventory : Inventory) (item : NormalisedIdentifier) (row : AssetRow) : Prop :=
  ∃ identifier ∈ inventory.identifiers.rows, identifier.assetId = row.id ∧ identifier.key = item.key ∧ identifier.retiredAt = none

section Filtering

variable {server : Server} {python : Python} {input : IdentifierInput} {item : NormalisedIdentifier} {inventory : Inventory}

theorem normalise_key {other : IdentifierInput} (namespaceName : other.namespaceName = input.namespaceName)
    (value : other.value = input.value) (ready : normalise python input = .ok item) :
    ∃ same, normalise python other = .ok same ∧ same.key = item.key := by
  unfold normalise at ready ⊢
  rw [namespaceName,value]
  obtain ⟨filled,ready⟩ := ok_of_guard ready
  cases ready
  exact ⟨_,if_neg filled,rfl⟩

theorem normalise_namespace (ready : normalise python input = .ok item) : item.namespaceName = input.namespaceName := by
  unfold normalise at ready
  obtain ⟨_,ready⟩ := ok_of_guard ready
  cases ready
  rfl

theorem identifierInput_eq (input : IdentifierInput) (lowers : ∀ text, matchesNamespace text → python.lower text = text) :
    ∃ other, identifierInput python input.namespaceName input.value = some other ∧ other.namespaceName = input.namespaceName ∧
      other.value = input.value := by
  have rules := input.namespace_rules
  have stripped : strip input.namespaceName = input.namespaceName :=
    strip_plain fun char member => namespace_not_space (namespace_chars rules.2 char member)
  have lowered : python.lower (strip input.namespaceName) = input.namespaceName := by rw [stripped,lowers _ rules.2]
  unfold identifierInput
  simp only [lowered]
  rw [dif_pos ⟨rules.1,input.value_bounds⟩,dif_pos rules]
  exact ⟨_,rfl,rfl,rfl⟩

theorem filterText_chars : (input.namespaceName ++ ":" ++ input.value).toList =
    input.namespaceName.toList ++ ':'::input.value.toList := by
  simp

theorem identifierFilter_plain (lowers : ∀ text, matchesNamespace text → python.lower text = text)
    (ready : normalise python input = .ok item) (plain : ':' ∉ input.value.toList) :
    identifierFilter python (input.namespaceName ++ ":" ++ input.value) = .ok item.key := by
  obtain ⟨other,accepted,namespaceName,value⟩ := identifierInput_eq input lowers
  obtain ⟨same,normal,key⟩ := normalise_key namespaceName value ready
  unfold identifierFilter
  rw [if_neg (by simp),filterText_chars,rpartition_eq plain]
  simp only [String.ofList_toList,accepted,normal]
  rw [← key,NormalisedIdentifier.key,normalise_namespace normal,namespaceName]

theorem identifierFilter_namespace {text : String} {wanted : String × String} (asked : identifierFilter python text = .ok wanted) :
    wanted.1 = String.ofList (rpartition text.toList).1 := by
  unfold identifierFilter at asked
  split at asked
  · cases asked
  · dsimp only at asked
    split at asked
    · cases asked
    · split at asked
      · cases asked
      · cases asked
        rfl

end Filtering

section Laboratory

end Laboratory

end Acop.Cmdb
