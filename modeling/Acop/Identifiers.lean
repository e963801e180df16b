import Acop.Json
import Mathlib.Data.List.Induction
import Mathlib.Data.Nat.ModEq
import Mathlib.Tactic.Common

/-! Sets of names as sorted lists, and identifiers as texts: neither form loses anything. -/
namespace Acop

theorem mem_sorted {names : Finset String} {name : String} : name ∈ sorted names ↔ name ∈ names := by
  obtain ⟨⟨names⟩,distinct⟩ := names
  exact (List.perm_insertionSort _ names).mem_iff

theorem sorted_injective : Function.Injective sorted := by
  intro first second equal
  ext name
  rw [← mem_sorted,equal,mem_sorted]

theorem hexDigit_injective {m n : Nat} (left : m < 16) (right : n < 16) (equal : hexDigit m = hexDigit n) : m = n := by
  have all : ∀ m < 16, ∀ n < 16, hexDigit m = hexDigit n → m = n := by decide
  exact all m left n right equal

theorem mod_pow_of_digits {m n : Nat} (k : Nat) (digits : ∀ place < k, m / 16^place % 16 = n / 16^place % 16) :
    m % 16^k = n % 16^k := by
  induction k with
  | zero => simp [Nat.mod_one]
  | succ k ih =>
    rw [Nat.mod_pow_succ,Nat.mod_pow_succ,ih fun place below => digits place (by omega),digits k (by omega)]

def Uuid.digits (uuid : Uuid) : List Char :=
  (List.range 32).map fun place => hexDigit (uuid.toNat / 16^(31 - place) % 16)

theorem Uuid.digits_injective : Function.Injective Uuid.digits := by
  intro first second equal
  have each := List.map_inj_left.mp equal
  have places : ∀ place < 32, first.toNat / 16^place % 16 = second.toNat / 16^place % 16 := by
    intro place below
    have same := each (31 - place) (List.mem_range.mpr (by omega))
    rw [show 31 - (31 - place) = place by omega] at same
    exact hexDigit_injective (Nat.mod_lt _ (by decide)) (Nat.mod_lt _ (by decide)) same
  have whole := mod_pow_of_digits 32 places
  apply BitVec.eq_of_toNat_eq
  rwa [Nat.mod_eq_of_lt (show first.toNat < 16^32 from first.isLt),
    Nat.mod_eq_of_lt (show second.toNat < 16^32 from second.isLt)] at whole

theorem hyphenated {first second : List Char} (size : first.length = second.length) {groups : List Char → List (List Char)}
    (split : groups = fun digits => [digits.take 8,(digits.drop 8).take 4,(digits.drop 12).take 4,(digits.drop 16).take 4,
      (digits.drop 20).take 12])
    (long : first.length = 32)
    (equal : List.intercalate ['-'] (groups first) = List.intercalate ['-'] (groups second)) : first = second := by
  subst split
  simp only [List.intercalate_cons_cons,List.intercalate_singleton,List.append_assoc,List.singleton_append] at equal
  obtain ⟨one,equal⟩ := List.append_inj equal (by simp [size])
  obtain ⟨two,equal⟩ := List.append_inj (List.cons.inj equal).2 (by simp [size])
  obtain ⟨three,equal⟩ := List.append_inj (List.cons.inj equal).2 (by simp [size])
  obtain ⟨four,equal⟩ := List.append_inj (List.cons.inj equal).2 (by simp [size])
  have five := (List.cons.inj equal).2
  have whole : ∀ digits : List Char, digits.length = 32 → digits = digits.take 8 ++ ((digits.drop 8).take 4 ++
      ((digits.drop 12).take 4 ++ ((digits.drop 16).take 4 ++ (digits.drop 20).take 12))) := by
    intro digits long
    rw [List.take_of_length_le (show (digits.drop 20).length ≤ 12 by simp [long])]
    have step : ∀ k n, digits.drop k = (digits.drop k).take n ++ digits.drop (k + n) := by
      intro k n
      rw [← List.drop_drop,List.take_append_drop]
    rw [← step 16 4,← step 12 4,← step 8 4,List.take_append_drop]
  rw [whole first long,whole second (size ▸ long),one,two,three,four,five]

theorem Uuid.text_injective : Function.Injective Uuid.text := by
  intro first second equal
  apply Uuid.digits_injective
  apply hyphenated (by simp [Uuid.digits]) rfl (by simp [Uuid.digits])
  have symbols := congrArg String.toList equal
  simpa [Uuid.text,Uuid.digits,String.toList_intercalate] using symbols

end Acop
