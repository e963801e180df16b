import Acop.Json
import Acop.Coding.Separated
import Mathlib.Tactic.IntervalCases
import Mathlib.Tactic.Tauto

/-! What the canonical rendering determines: two values are rendered alike only if
they are the same value up to the order of keys, at every depth. -/
namespace Acop

open Coding

namespace Json

def byKey {Value : Type} (fields : List (String × Value)) : List (String × Value) :=
  fields.insertionSort fun a b => a.1 ≤ b.1

mutual
/-- The value with the keys of every object in order: equal mappings have one such form. -/
def canonical : Json → Json
  | .arr items => .arr (canonicalItems items)
  | .obj fields => .obj (byKey (canonicalFields fields))
  | value => value
def canonicalItems : List Json → List Json
  | [] => []
  | item::items => canonical item :: canonicalItems items
def canonicalFields : List (String × Json) → List (String × Json)
  | [] => []
  | (key,value)::fields => (key,canonical value) :: canonicalFields fields
end

variable {floatRepr : Rat → String}

theorem canonicalItems_eq (items : List Json) : canonicalItems items = items.map canonical := by
  induction items with
  | nil => rfl
  | cons item items ih => simp [canonicalItems,ih]

theorem canonicalFields_eq (fields : List (String × Json)) :
    canonicalFields fields = fields.map fun field => (field.1,field.2.canonical) := by
  induction fields with
  | nil => rfl
  | cons field fields ih => simp [canonicalFields,ih]

theorem renderItems_eq (items : List Json) : renderItems floatRepr items = items.map (render floatRepr) := by
  induction items with
  | nil => rfl
  | cons item items ih => simp [renderItems,ih]

theorem renderFields_eq (fields : List (String × Json)) :
    renderFields floatRepr fields = fields.map fun field => (field.1,render floatRepr field.2) := by
  induction fields with
  | nil => rfl
  | cons field fields ih => simp [renderFields,ih]

/-- Induction over values, with what holds of the parts. -/
@[elab_as_elim]
theorem induct {P : Json → Prop} (null : P .null) (bool : ∀ value, P (.bool value)) (int : ∀ value, P (.int value))
    (float : ∀ value, P (.float value)) (nonFinite : ∀ text, P (.nonFinite text)) (str : ∀ value, P (.str value))
    (arr : ∀ items, (∀ item ∈ items, P item) → P (.arr items))
    (obj : ∀ fields, (∀ field ∈ fields, P field.2) → P (.obj fields)) (value : Json) : P value := by
  refine @Json.rec P (fun items => ∀ item ∈ items, P item) (fun fields => ∀ field ∈ fields, P field.2)
    (fun field => P field.2) null bool int float nonFinite str arr obj ?_ ?_ ?_ ?_ ?_ value
  · intro item member
    cases member
  · intro item items held rest
    exact List.forall_mem_cons.mpr ⟨held,rest⟩
  · intro field member
    cases member
  · intro field fields held rest
    exact List.forall_mem_cons.mpr ⟨held,rest⟩
  · intro key value held
    exact held
def unescape : List Char → Option (Char × List Char)
  | '"'::_ => none
  | '\\' :: '"'::rest => some ('"',rest)
  | '\\' :: '\\'::rest => some ('\\',rest)
  | '\\' :: 'n'::rest => some ('\n',rest)
  | '\\' :: 'r'::rest => some ('\r',rest)
  | '\\' :: 't'::rest => some ('\t',rest)
  | '\\' :: 'b'::rest => some ('\x08',rest)
  | '\\' :: 'f'::rest => some ('\x0c',rest)
  | '\\' :: 'u' :: '0' :: '0'::high::low::rest =>
    some (Char.ofNat (16 * "0123456789abcdef".toList.idxOf high + "0123456789abcdef".toList.idxOf low),rest)
  | char::rest => some (char,rest)
  | [] => none

theorem unescape_control {n : Nat} (control : n < 32) (rest : List Char) :
    unescape ('\\' :: 'u' :: '0' :: '0'::hexDigit (n / 16)::hexDigit (n % 16)::rest) = some (Char.ofNat n,rest) := by
  interval_cases n <;> rfl

theorem unescape_escape (char : Char) (rest : List Char) :
    unescape ((escape char).toList ++ rest) = some (char,rest) := by
  unfold escape
  split
  · subst_vars
    rfl
  split
  · subst_vars
    rfl
  split
  · subst_vars
    rfl
  split
  · subst_vars
    rfl
  split
  · subst_vars
    rfl
  split
  · subst_vars
    rfl
  split
  · subst_vars
    rfl
  split
  · rename_i control
    rw [String.toList_ofList]
    exact (unescape_control control rest).trans (by rw [Char.ofNat_toNat])
  · rename_i quoteless plain _ _ _ _ _ _
    rw [String.toList_ofList]
    simp only [List.cons_append,List.nil_append]
    unfold unescape
    split <;> simp_all

theorem quoted_apart {first second rest rest' : List Char}
    (equal : first.flatMap (fun char => (escape char).toList) ++ '"'::rest =
      second.flatMap (fun char => (escape char).toList) ++ '"'::rest') : first = second ∧ rest = rest' := by
  induction first generalizing second with
  | nil =>
    cases second with
    | nil => exact ⟨rfl,(List.cons.inj equal).2⟩
    | cons char second =>
      have read := congrArg unescape equal
      rw [List.flatMap_cons,List.append_assoc,unescape_escape] at read
      cases read
  | cons char first ih =>
    have read := congrArg unescape equal
    rw [List.flatMap_cons,List.append_assoc,unescape_escape] at read
    cases second with
    | nil => cases read
    | cons char' second =>
      rw [List.flatMap_cons,List.append_assoc,unescape_escape] at read
      obtain ⟨rfl,tail⟩ := Prod.mk.inj (Option.some.inj read)
      obtain ⟨rfl,ends⟩ := ih tail
      exact ⟨rfl,ends⟩

def Stops (char : Char) : Prop := char = ',' ∨ char = ']' ∨ char = '}'

def Numeric (char : Char) : Prop := char.isDigit = true ∨ char ∈ ['+','-','.','e']

/-- What Python documents of `repr` of a finite float: it reads back, and looks like no integer. -/
structure ReadableFloats (floatRepr : Rat → String) : Prop where
  injective : Function.Injective floatRepr
  numeric : ∀ value, ∀ char ∈ (floatRepr value).toList, Numeric char
  fractional : ∀ value, ∃ char ∈ (floatRepr value).toList, char = '.' ∨ char = 'e'

theorem Numeric.runs {char : Char} (numeric : Numeric char) : ¬ Stops char ∧ char ≠ '"' ∧ char ≠ '[' ∧ char ≠ '{' := by
  unfold Numeric at numeric
  unfold Stops
  refine ⟨?_,?_,?_,?_⟩
  · rintro (rfl | rfl | rfl) <;> revert numeric <;> decide
  · rintro rfl
    revert numeric
    decide
  · rintro rfl
    revert numeric
    decide
  · rintro rfl
    revert numeric
    decide

theorem int_digits (n : Int) : (toString n).toList =
    if n < 0 then '-'::Nat.toDigits 10 n.natAbs else Nat.toDigits 10 n.natAbs := by
  cases n with
  | ofNat n => exact Nat.toList_repr
  | negSucc n =>
    rw [if_pos (Int.negSucc_lt_zero n)]
    exact (String.toList_append).trans (congrArg ('-'::·) Nat.toList_repr)

theorem digit_of_int {n : Int} {char : Char} (member : char ∈ (toString n).toList) : char.isDigit = true ∨ char = '-' := by
  rw [int_digits] at member
  split at member
  · rcases List.mem_cons.mp member with rfl | digit
    · exact .inr rfl
    · exact .inl (Nat.isDigit_of_mem_toDigits (by decide) (by decide) digit)
  · exact .inl (Nat.isDigit_of_mem_toDigits (by decide) (by decide) member)

theorem int_injective {first second : Int} (equal : (toString first).toList = (toString second).toList) :
    first = second := by
  have read : ∀ {m n : Nat}, Nat.toDigits 10 m = Nat.toDigits 10 n → m = n := by
    intro m n same
    have value := congrArg (Nat.ofDigitChars 10 · 0) same
    simpa using value
  have unsigned : ∀ {m n : Nat}, '-'::Nat.toDigits 10 m ≠ Nat.toDigits 10 n := by
    intro m n same
    have digit := Nat.isDigit_of_mem_toDigits (by decide) (by decide) (same ▸ List.Mem.head _)
    exact absurd digit (by decide)
  rw [int_digits,int_digits] at equal
  split at equal <;> split at equal
  · have same := read (List.cons.inj equal).2
    omega
  · exact absurd equal unsigned
  · exact absurd equal.symm unsigned
  · have same := read equal
    omega

def word : Json → Option String
  | .null => some "null"
  | .bool value => some (if value then "true" else "false")
  | .nonFinite value => some value.text
  | _ => none

def wordValues : List Json := [.null,.bool true,.bool false,.nonFinite .nan,.nonFinite .posInf,.nonFinite .negInf]

def words : List String := ["null","true","false","NaN","Infinity","-Infinity"]

theorem word_listed {value : Json} {text : String} (spelled : value.word = some text) : (value,text) ∈ wordValues.zip words := by
  cases value with
  | null =>
    cases spelled
    simp [wordValues,words]
  | bool value =>
    cases spelled
    cases value <;> simp [wordValues,words]
  | nonFinite value =>
    cases spelled
    cases value <;> simp [wordValues,words,NonFinite.text]
  | _ => cases spelled

theorem word_mem (value : Json) {text : String} (spelled : value.word = some text) : text ∈ words :=
  (List.of_mem_zip (word_listed spelled)).2

theorem word_injective {first second : Json} {text : String} (spelled : first.word = some text)
    (spelled' : second.word = some text) : first = second := by
  have listed := word_listed spelled
  have listed' := word_listed spelled'
  simp only [wordValues,words,List.zip_cons_cons,List.zip_nil_left,List.mem_cons,Prod.mk.injEq,List.not_mem_nil,
    or_false] at listed listed'
  rcases listed with ⟨rfl,rfl⟩ | ⟨rfl,rfl⟩ | ⟨rfl,rfl⟩ | ⟨rfl,rfl⟩ | ⟨rfl,rfl⟩ | ⟨rfl,rfl⟩ <;> exact Eq.symm (by simpa using listed')

theorem word_runs {text : String} (listed : text ∈ words) :
    ∀ char ∈ text.toList, char ∉ [',',']','}','"','[','{'] := by
  have plain : (words.all fun text => text.toList.all fun char => decide (char ∉ [',',']','}','"','[','{'])) = true := by
    decide
  exact fun char member => of_decide_eq_true (List.all_eq_true.mp (List.all_eq_true.mp plain text listed) char member)

theorem word_literal {text : String} (listed : text ∈ words) : ∃ char ∈ text.toList, ¬ Numeric char := by
  have letters : (words.all fun text => text.toList.any fun char =>
      decide (¬ (char.isDigit = true ∨ char ∈ ['+','-','.','e']))) = true := by
    decide
  obtain ⟨char,member,letter⟩ := List.any_eq_true.mp (List.all_eq_true.mp letters text listed)
  exact ⟨char,member,@of_decide_eq_true (¬ (char.isDigit = true ∨ char ∈ ['+','-','.','e'])) _ letter⟩

variable (floatRepr) in
def symbols (value : Json) : List Char := (render floatRepr value).toList

def quotedSymbols (text : String) : List Char := '"'::(text.toList.flatMap (fun char => (escape char).toList) ++ ['"'])

theorem quote_symbols (text : String) : (quote text).toList = quotedSymbols text := by
  simp [quote,quotedSymbols,String.toList_join,List.flatMap_map]

variable (floatRepr) in
def fieldSymbols (field : String × Json) : List Char := quotedSymbols field.1 ++ ':'::symbols floatRepr field.2

theorem symbols_arr (items : List Json) :
    symbols floatRepr (.arr items) = '['::(List.intercalate [','] (items.map (symbols floatRepr)) ++ [']']) := by
  simp only [symbols,render,renderItems_eq,String.toList_append,String.toList_intercalate,List.map_map]
  rfl

theorem symbols_obj (fields : List (String × Json)) :
    symbols floatRepr (.obj fields) =
      '{'::(List.intercalate [','] ((byKey fields).map (fieldSymbols floatRepr)) ++ ['}']) := by
  have sorted : (fields.map fun field => (field.1,render floatRepr field.2)).insertionSort (fun a b => a.1 ≤ b.1) =
      (byKey fields).map fun field => (field.1,render floatRepr field.2) := by
    refine (List.map_insertionSort _ _ _ _ ?_).symm
    intro a _ b _
    rfl
  simp only [symbols,render,renderFields_eq,joinFields,sorted,String.toList_append,String.toList_intercalate,List.map_map]
  have colon : ∀ field : String × Json, (quote field.1 ++ ":" ++ render floatRepr field.2).toList =
      fieldSymbols floatRepr field := by
    intro field
    simp only [String.toList_append,quote_symbols,fieldSymbols,symbols,List.append_assoc]
    rfl
  simp only [Function.comp_def,colon]
  rfl

/-- The symbol that opens a value, where it is no number and no word. -/
def opening : Json → Option Char
  | .str _ => some '"'
  | .arr _ => some '['
  | .obj _ => some '{'
  | _ => none

def atomic (value : Json) : Prop := value.opening = none

theorem atomic_runs (readable : ReadableFloats floatRepr) {value : Json}
    (plain : value.atomic) : ∀ char ∈ symbols floatRepr value, char ∉ [',',']','}','"','[','{'] := by
  have number : ∀ {char : Char}, Numeric char → char ∉ [',',']','}','"','[','{'] := by
    intro char numeric
    have runs := numeric.runs
    unfold Stops at runs
    simp only [List.mem_cons,List.not_mem_nil,or_false]
    tauto
  intro char member
  cases value with
  | int n => exact number ((digit_of_int member).imp_right fun sign => by simp [sign])
  | float value => exact number (readable.numeric value char member)
  | null => exact word_runs (word_mem .null rfl) char member
  | bool value => exact word_runs (word_mem (.bool value) rfl) char member
  | nonFinite value => exact word_runs (word_mem (.nonFinite value) rfl) char member
  | _ => cases plain

theorem symbols_ne_nil (readable : ReadableFloats floatRepr) (value : Json) :
    symbols floatRepr value ≠ [] := by
  intro empty
  have spelled : ∀ {text : String}, text ∈ words → text.toList ≠ [] := by
    intro text listed
    obtain ⟨char,member,_⟩ := word_literal listed
    exact List.ne_nil_of_mem member
  cases value with
  | int n =>
    have digits := int_digits n
    rw [show (toString n).toList = [] from empty] at digits
    split at digits
    · cases digits
    · exact Nat.toDigits_ne_nil digits.symm
  | float value =>
    obtain ⟨char,member,_⟩ := readable.fractional value
    exact List.ne_nil_of_mem member empty
  | null => exact spelled (word_mem .null rfl) empty
  | bool value => exact spelled (word_mem (.bool value) rfl) empty
  | nonFinite value => exact spelled (word_mem (.nonFinite value) rfl) empty
  | str value => exact absurd ((quote_symbols value).symm.trans empty) (by simp [quotedSymbols])
  | arr items => exact absurd ((symbols_arr items).symm.trans empty) (by simp)
  | obj fields => exact absurd ((symbols_obj fields).symm.trans empty) (by simp)

theorem head_symbol (readable : ReadableFloats floatRepr) (value : Json) :
    ∃ char rest, symbols floatRepr value = char::rest ∧ ¬ Stops char ∧
      value.opening = if char ∈ ['"','[','{'] then some char else none := by
  cases opened : value.opening with
  | none =>
    cases shape : symbols floatRepr value with
    | nil => exact absurd shape (symbols_ne_nil readable value)
    | cons char rest =>
      have runs := atomic_runs readable opened char (by rw [shape]; exact .head _)
      simp only [List.mem_cons,List.not_mem_nil,or_false] at runs
      refine ⟨char,rest,rfl,?_,?_⟩
      · unfold Stops
        tauto
      · rw [if_neg]
        simp only [List.mem_cons,List.not_mem_nil,or_false]
        tauto
  | some mark =>
    cases value with
    | str value =>
      cases opened
      exact ⟨'"',_,quote_symbols value,by unfold Stops; decide,rfl⟩
    | arr items =>
      cases opened
      exact ⟨'[',_,symbols_arr items,by unfold Stops; decide,rfl⟩
    | obj fields =>
      cases opened
      exact ⟨'{',_,symbols_obj fields,by unfold Stops; decide,rfl⟩
    | _ => cases opened

theorem opening_unique (readable : ReadableFloats floatRepr) {first second : Json} {rest rest' : List Char}
    (equal : symbols floatRepr first ++ rest = symbols floatRepr second ++ rest') : first.opening = second.opening := by
  obtain ⟨char,tail,shape,_,opened⟩ := head_symbol readable first
  obtain ⟨char',tail',shape',_,opened'⟩ := head_symbol readable second
  rw [shape,shape'] at equal
  rw [opened,opened',(List.cons.inj equal).1]

theorem symbols_word {value : Json} {text : String} (spelled : value.word = some text) :
    symbols floatRepr value = text.toList := by
  cases value with
  | null =>
    cases spelled
    rfl
  | bool value =>
    cases spelled
    rfl
  | nonFinite text' =>
    cases spelled
    rfl
  | _ => cases spelled

theorem number_symbols (readable : ReadableFloats floatRepr) {value : Json} (plain : value.atomic) (wordless : value.word = none) :
    ∀ char ∈ symbols floatRepr value, Numeric char := by
  intro char member
  cases value with
  | int n => exact (digit_of_int member).imp_right fun sign => by simp [sign]
  | float value => exact readable.numeric value char member
  | null => cases wordless
  | bool value => cases wordless
  | nonFinite text => cases wordless
  | _ => cases plain

theorem int_not_float (readable : ReadableFloats floatRepr) (n : Int) (value : Rat) :
    (toString n).toList ≠ (floatRepr value).toList := by
  intro same
  obtain ⟨char,member,mark⟩ := readable.fractional value
  rcases digit_of_int (same ▸ member) with digit | rfl
  · rcases mark with rfl | rfl
    · exact absurd digit (by decide)
    · exact absurd digit (by decide)
  · exact absurd mark (by decide)

theorem number_injective (readable : ReadableFloats floatRepr) {first second : Json} (plain : first.atomic)
    (plain' : second.atomic) (wordless : first.word = none) (wordless' : second.word = none)
    (equal : symbols floatRepr first = symbols floatRepr second) : first = second := by
  cases first with
  | int n =>
    cases second with
    | int m => rw [int_injective equal]
    | float value => exact absurd equal (int_not_float readable n value)
    | null => cases wordless'
    | bool value => cases wordless'
    | nonFinite text => cases wordless'
    | _ => cases plain'
  | float value =>
    cases second with
    | int n => exact absurd equal.symm (int_not_float readable n value)
    | float value' => rw [readable.injective (String.toList_inj.mp equal)]
    | null => cases wordless'
    | bool value => cases wordless'
    | nonFinite text => cases wordless'
    | _ => cases plain'
  | null => cases wordless
  | bool value => cases wordless
  | nonFinite text => cases wordless
  | _ => cases plain

theorem word_not_number (readable : ReadableFloats floatRepr) {first second : Json}
    (plain' : second.atomic) {text : String} (spelled : first.word = some text) (wordless : second.word = none) :
    symbols floatRepr first ≠ symbols floatRepr second := by
  intro equal
  obtain ⟨char,member,literal⟩ := word_literal (word_mem _ spelled)
  rw [← symbols_word spelled,equal] at member
  exact literal (number_symbols readable plain' wordless char member)

theorem atomic_injective (readable : ReadableFloats floatRepr) {first second : Json} (plain : first.atomic) (plain' : second.atomic)
    (equal : symbols floatRepr first = symbols floatRepr second) : first = second := by
  cases spelled : first.word with
  | none =>
    cases spelled' : second.word with
    | none => exact number_injective readable plain plain' spelled spelled' equal
    | some text => exact absurd equal.symm (word_not_number readable plain spelled' spelled)
  | some text =>
    cases spelled' : second.word with
    | none => exact absurd equal (word_not_number readable plain' spelled spelled')
    | some text' =>
      rw [symbols_word spelled,symbols_word spelled'] at equal
      cases String.toList_inj.mp equal
      exact word_injective spelled spelled'

theorem enclosed {mark last : Char} {first second rest rest' : List Char}
    (equal : mark::(first ++ [last]) ++ rest = mark::(second ++ [last]) ++ rest') :
    first ++ last::rest = second ++ last::rest' := by
  simpa using equal

def Same (first second : Json) : Prop := first.canonical = second.canonical

def Told (floatRepr : Rat → String) : Json → Prop :=
  Separated Stops (symbols floatRepr) Same

theorem atomic_told (readable : ReadableFloats floatRepr) {value : Json}
    (plain : value.atomic) : Told floatRepr value := by
  intro other rest rest' ends ends' equal
  have plain' : other.atomic := (opening_unique readable equal).symm.trans plain
  have free : ∀ {value : Json}, value.atomic → ∀ char ∈ symbols floatRepr value, ¬ Stops char := by
    intro value plain char member
    have runs := atomic_runs readable plain char member
    simp only [List.mem_cons,List.not_mem_nil,or_false] at runs
    unfold Stops
    tauto
  obtain ⟨same,tail⟩ := atom (free plain) (free plain') ends ends' equal
  exact ⟨congrArg canonical (atomic_injective readable plain plain' same),tail⟩

theorem str_told (readable : ReadableFloats floatRepr) (value : String) : Told floatRepr (.str value) := by
  intro other rest rest' _ _ equal
  have opened := opening_unique readable equal
  cases other with
  | str value' =>
    have quoted : quotedSymbols value ++ rest = quotedSymbols value' ++ rest' := by
      rw [← quote_symbols,← quote_symbols]
      exact equal
    obtain ⟨same,tail⟩ := quoted_apart (enclosed quoted)
    exact ⟨by rw [String.toList_inj.mp same]; rfl,tail⟩
  | _ => cases opened

theorem begun (readable : ReadableFloats floatRepr) (value : Json) :
    Begun Stops (symbols floatRepr value) := by
  obtain ⟨char,rest,shape,runs,_⟩ := head_symbol readable value
  exact ⟨char,rest,shape,runs⟩

theorem arr_told (readable : ReadableFloats floatRepr) {items : List Json}
    (told : ∀ item ∈ items, Told floatRepr item) : Told floatRepr (.arr items) := by
  intro other rest rest' _ _ equal
  have opened := opening_unique readable equal
  cases other with
  | arr others =>
    rw [symbols_arr,symbols_arr] at equal
    obtain ⟨same,tail⟩ := sequence (.inl rfl) (.inr (.inl rfl)) (by decide) told (begun readable) (enclosed equal)
    refine ⟨?_,tail⟩
    have each : items.map canonical = others.map canonical := List.forall₂_eq_eq_eq ▸ (List.forall₂_map_left_iff.mpr
      (List.forall₂_map_right_iff.mpr same))
    simp only [Same,canonical,canonicalItems_eq,each]
  | _ => cases opened

theorem field_told {field : String × Json} (told : Told floatRepr field.2) :
    Separated Stops (fieldSymbols floatRepr)
      (fun field other => field.1 = other.1 ∧ Same field.2 other.2) field := by
  intro other rest rest' ends ends' equal
  have quoted : quotedSymbols field.1 ++ ':'::(symbols floatRepr field.2 ++ rest) =
      quotedSymbols other.1 ++ ':'::(symbols floatRepr other.2 ++ rest') := by
    simpa [fieldSymbols,List.append_assoc] using equal
  obtain ⟨key,tail⟩ := quoted_apart (enclosed quoted)
  obtain ⟨value,tail⟩ := told other.2 rest rest' ends ends' (List.cons.inj tail).2
  exact ⟨⟨String.toList_inj.mp key,value⟩,tail⟩

theorem mem_byKey {Value : Type} {fields : List (String × Value)} {field : String × Value} :
    field ∈ byKey fields ↔ field ∈ fields := (List.perm_insertionSort _ fields).mem_iff

theorem byKey_map {Value Value' : Type} (change : Value → Value') (fields : List (String × Value)) :
    byKey (fields.map fun field => (field.1,change field.2)) = (byKey fields).map fun field => (field.1,change field.2) := by
  refine (List.map_insertionSort _ _ _ _ ?_).symm
  intro a _ b _
  rfl

theorem byKey_byKey {Value : Type} (fields : List (String × Value)) : byKey (byKey fields) = byKey fields := by
  have total : ∀ a b : String × Value, a.1 ≤ b.1 ∨ b.1 ≤ a.1 := fun a b => le_total a.1 b.1
  have trans : ∀ a b c : String × Value, a.1 ≤ b.1 → b.1 ≤ c.1 → a.1 ≤ c.1 := fun _ _ _ => le_trans
  have : Std.Total fun a b : String × Value => a.1 ≤ b.1 := ⟨total⟩
  have : IsTrans (String × Value) fun a b => a.1 ≤ b.1 := ⟨trans⟩
  exact (List.pairwise_insertionSort _ fields).insertionSort_eq

theorem canonical_fields_byKey (fields : List (String × Json)) :
    byKey (canonicalFields fields) = (byKey fields).map fun field => (field.1,field.2.canonical) := by
  rw [canonicalFields_eq,byKey_map]

theorem obj_told (readable : ReadableFloats floatRepr) {fields : List (String × Json)}
    (told : ∀ field ∈ fields, Told floatRepr field.2) :
    Told floatRepr (.obj fields) := by
  intro other rest rest' _ _ equal
  have opened := opening_unique readable equal
  cases other with
  | obj others =>
    rw [symbols_obj,symbols_obj] at equal
    have begun : ∀ field : String × Json, Begun Stops (fieldSymbols floatRepr field) :=
      fun field => ⟨'"',_,rfl,by unfold Stops; decide⟩
    obtain ⟨same,tail⟩ := sequence (.inl rfl) (.inr (.inr rfl)) (by decide)
      (fun field member => field_told (told field (mem_byKey.mp member))) begun (enclosed equal)
    refine ⟨?_,tail⟩
    have each : (byKey fields).map (fun field => (field.1,field.2.canonical)) =
        (byKey others).map fun field => (field.1,field.2.canonical) := by
      apply List.forall₂_eq_eq_eq ▸ List.forall₂_map_left_iff.mpr (List.forall₂_map_right_iff.mpr ?_)
      exact same.imp fun field other alike => Prod.ext alike.1 alike.2
    simp only [Same,canonical,canonical_fields_byKey,each]
  | _ => cases opened

theorem rendered_told (readable : ReadableFloats floatRepr) (value : Json) :
    Told floatRepr value := by
  induction value using induct with
  | null => exact atomic_told readable rfl
  | bool value => exact atomic_told readable rfl
  | int value => exact atomic_told readable rfl
  | float value => exact atomic_told readable rfl
  | nonFinite value => exact atomic_told readable rfl
  | str value => exact str_told readable value
  | arr items ih => exact arr_told readable ih
  | obj fields ih => exact obj_told readable ih

theorem same_of_render (readable : ReadableFloats floatRepr) {first second : Json} (equal : render floatRepr first = render floatRepr second) : Same first second := by
  apply (rendered_told readable first second [] [] ends_nil ends_nil ?_).1
  rw [symbols,symbols,equal]

theorem render_of_same {first second : Json} (same : Same first second) : render floatRepr first = render floatRepr second := by
  have kept : ∀ value : Json, render floatRepr value.canonical = render floatRepr value := by
    intro value
    induction value using induct with
    | arr items ih =>
      have each : (items.map canonical).map (render floatRepr) = items.map (render floatRepr) := by
        rw [List.map_map]
        exact List.map_congr_left ih
      simp only [canonical,canonicalItems_eq,render,renderItems_eq,each]
    | obj fields ih =>
      have each : fields.map (fun field => (field.1,render floatRepr field.2.canonical)) =
          fields.map fun field => (field.1,render floatRepr field.2) :=
        List.map_congr_left fun field member => congrArg (Prod.mk field.1) (ih field member)
      have sorted : byKey (renderFields floatRepr (byKey (canonicalFields fields))) = byKey (renderFields floatRepr fields) := by
        rw [renderFields_eq,renderFields_eq,byKey_map,byKey_byKey,← byKey_map,canonicalFields_eq,List.map_map,← each]
        rfl
      simp only [canonical,render,joinFields]
      rw [show (renderFields floatRepr (byKey (canonicalFields fields))).insertionSort _ = _ from sorted]
      rfl
    | _ => rfl
  rw [← kept first,← kept second,same]

end Json

end Acop
