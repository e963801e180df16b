import Mathlib

/-! Numbers in a fixed number of digits, and octets in the URL-safe Base64 alphabet. -/
namespace Acop.Coding

section Digits

variable (symbol : Nat → Char) (symbolOf : Char → Option Nat) (base : Nat)

def digits : Nat → Nat → List Char
  | 0,_ => []
  | width + 1,n => digits width (n / base) ++ [symbol (n % base)]

def numeral (text : List Char) : Option Nat :=
  text.foldlM (fun read char => (symbolOf char).map fun digit => read * base + digit) 0

variable {symbol symbolOf base}

@[simp] theorem length_digits (width n : Nat) : (digits symbol base width n).length = width := by
  induction width generalizing n with
  | zero => rfl
  | succ width ih => simp [digits,ih]

theorem mem_digits {width n : Nat} {char : Char} (member : char ∈ digits symbol base width n) (positive : 0 < base) :
    ∃ digit < base, char = symbol digit := by
  induction width generalizing n with
  | zero => cases member
  | succ width ih =>
    rcases List.mem_append.mp member with earlier | last
    · exact ih earlier
    · exact ⟨n % base,Nat.mod_lt _ positive,List.mem_singleton.mp last⟩

theorem numeral_digits (reads : ∀ digit < base, symbolOf (symbol digit) = some digit) {width n : Nat} (small : n < base^width) :
    numeral symbolOf base (digits symbol base width n) = some n := by
  induction width generalizing n with
  | zero =>
    rw [Nat.pow_zero,Nat.lt_one_iff] at small
    subst small
    rfl
  | succ width ih =>
    have positive : 0 < base := by
      rcases Nat.eq_zero_or_pos base with none | positive
      · rw [none,Nat.pow_succ,Nat.mul_zero] at small
        omega
      · exact positive
    have earlier := ih (Nat.div_lt_of_lt_mul (by rwa [Nat.pow_succ'] at small))
    rw [numeral] at earlier
    rw [numeral,digits,List.foldlM_append,earlier]
    simp [reads _ (Nat.mod_lt n positive),Nat.div_add_mod']

end Digits

section Base64

def alphabet : List Char := "ABCDEFGHIJKLMNOPQRSTUVWXYZabcdefghijklmnopqrstuvwxyz0123456789-_".toList

def sextet (n : Nat) : Char := alphabet.getD n 'A'

def sextetOf (char : Char) : Option Nat := alphabet.idxOf? char

def encode : List UInt8 → List Char
  | [] => []
  | [a] => [sextet (a.toNat / 4),sextet (a.toNat % 4 * 16),'=','=']
  | [a,b] => [sextet (a.toNat / 4),sextet (a.toNat % 4 * 16 + b.toNat / 16),sextet (b.toNat % 16 * 4),'=']
  | a::b::c::rest => sextet (a.toNat / 4)::sextet (a.toNat % 4 * 16 + b.toNat / 16)::
      sextet (b.toNat % 16 * 4 + c.toNat / 64)::sextet (c.toNat % 64)::encode rest

def upper (p q : Nat) : UInt8 := UInt8.ofNat (p * 4 + q / 16)

def middle (q r : Nat) : UInt8 := UInt8.ofNat (q % 16 * 16 + r / 4)

def lower (r s : Nat) : UInt8 := UInt8.ofNat (r % 4 * 64 + s)

def decode : List Char → Option (List UInt8)
  | [] => some []
  | first::second::third::fourth::rest => do
    let p ← sextetOf first
    let q ← sextetOf second
    if third = '=' ∧ fourth = '=' ∧ rest = [] then return [upper p q]
    let r ← sextetOf third
    if fourth = '=' ∧ rest = [] then return [upper p q,middle q r]
    let s ← sextetOf fourth
    let later ← decode rest
    return upper p q::middle q r::lower r s::later
  | _ => none

theorem sextetOf_sextet {n : Nat} (small : n < 64) : sextetOf (sextet n) = some n := by
  have all : ∀ n < 64, sextetOf (sextet n) = some n := by decide +kernel
  exact all n small

theorem sextet_plain {n : Nat} (small : n < 64) : sextet n ≠ '=' := by
  have all : ∀ n < 64, sextet n ≠ '=' := by decide +kernel
  exact all n small

theorem octet {n : Nat} {value : UInt8} (same : n = value.toNat) : UInt8.ofNat n = value := by
  rw [same,UInt8.ofNat_toNat]

theorem decode_encode (octets : List UInt8) : decode (encode octets) = some octets := by
  induction octets using encode.induct with
  | case1 => rfl
  | case2 a =>
    have small := a.toNat_lt
    have first := sextetOf_sextet (show a.toNat / 4 < 64 by omega)
    have second := sextetOf_sextet (show a.toNat % 4 * 16 < 64 by omega)
    have whole : upper (a.toNat / 4) (a.toNat % 4 * 16) = a := octet (by omega)
    simp [encode,decode,first,second,whole]
  | case3 a b =>
    have small := a.toNat_lt
    have small' := b.toNat_lt
    have first := sextetOf_sextet (show a.toNat / 4 < 64 by omega)
    have second := sextetOf_sextet (show a.toNat % 4 * 16 + b.toNat / 16 < 64 by omega)
    have third := sextetOf_sextet (show b.toNat % 16 * 4 < 64 by omega)
    have plain := sextet_plain (show b.toNat % 16 * 4 < 64 by omega)
    have whole : upper (a.toNat / 4) (a.toNat % 4 * 16 + b.toNat / 16) = a := octet (by omega)
    have whole' : middle (a.toNat % 4 * 16 + b.toNat / 16) (b.toNat % 16 * 4) = b := octet (by omega)
    simp [encode,decode,first,second,third,plain,whole,whole']
  | case4 a b c rest ih =>
    have small := a.toNat_lt
    have small' := b.toNat_lt
    have small'' := c.toNat_lt
    have first := sextetOf_sextet (show a.toNat / 4 < 64 by omega)
    have second := sextetOf_sextet (show a.toNat % 4 * 16 + b.toNat / 16 < 64 by omega)
    have third := sextetOf_sextet (show b.toNat % 16 * 4 + c.toNat / 64 < 64 by omega)
    have fourth := sextetOf_sextet (show c.toNat % 64 < 64 by omega)
    have plain := sextet_plain (show b.toNat % 16 * 4 + c.toNat / 64 < 64 by omega)
    have plain' := sextet_plain (show c.toNat % 64 < 64 by omega)
    have whole : upper (a.toNat / 4) (a.toNat % 4 * 16 + b.toNat / 16) = a := octet (by omega)
    have whole' : middle (a.toNat % 4 * 16 + b.toNat / 16) (b.toNat % 16 * 4 + c.toNat / 64) = b := octet (by omega)
    have whole'' : lower (b.toNat % 16 * 4 + c.toNat / 64) (c.toNat % 64) = c := octet (by omega)
    simp [encode,decode,first,second,third,fourth,plain,plain',whole,whole',whole'',ih]

end Base64

end Acop.Coding
