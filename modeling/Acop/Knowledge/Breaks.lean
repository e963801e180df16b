import Acop.Knowledge.Ingest
import Acop.Coding.Lines

/-! The line endings of a text, read character by character: with its byte-order marks
taken out first, as `normalise` reads them, and as they stand. -/
namespace Acop.Knowledge
open Acop.Coding

def mark : Char := '\uFEFF'

def unmark (text : List Char) : List Char := text.filter (· ≠ mark)

inductive Ending where
  | lf
  | crlf
  | cr
  deriving DecidableEq

def Ending.text : Ending → List Char
  | .lf => ['\n']
  | .crlf => ['\r','\n']
  | .cr => ['\r']

/-- The text with its line feeds written as `ending`. -/
def written (ending : Ending) (text : List Char) : List Char :=
  text.flatMap fun char => if char = '\n' then ending.text else [char]

/-- Every line ending of the text, of whichever kind, written as `ending`. -/
def reencode (ending : Ending) (text : List Char) : List Char := written ending (unifyLines text)

def Blank (text : List Char) : Prop := ∀ char ∈ text, char = mark ∨ isSpace char

/-- A line feed after `before` and a carriage return from which marks alone part it. -/
def Torn (text before behind : List Char) : Prop :=
  ∃ marks, marks ≠ [] ∧ (∀ char ∈ marks, char = mark) ∧ text = before ++ '\r'::(marks ++ '\n'::behind)

/-- Marks part a carriage return from a line feed above the first line or below the last only. -/
def Whole (text : List Char) : Prop := ∀ before behind, Torn text before behind → Blank before ∨ Blank behind

/-- A text with unified line endings and no marks. A line feed is part of the ending before it
where a carriage return is `behind`; marks on the way do not part them if `joins`. -/
def read (joins : Bool) : (behind : Bool) → List Char → List Char
  | _,[] => []
  | behind,char::rest =>
    if char = '\n' then if behind then read joins false rest else '\n'::read joins false rest
    else if char = '\r' then '\n'::read joins true rest
    else if char = mark then read joins (joins && behind) rest
    else char::read joins false rest

section Read

variable {joins behind : Bool} {rest text : List Char} {char : Char}

theorem read_lf : read joins false ('\n'::rest) = '\n'::read joins false rest := by
  rw [read,if_pos rfl,if_neg Bool.false_ne_true]

theorem read_crlf : read joins true ('\n'::rest) = read joins false rest := by
  rw [read,if_pos rfl,if_pos rfl]

theorem read_cr : read joins behind ('\r'::rest) = '\n'::read joins true rest := by
  rw [read,if_neg (by decide),if_pos rfl]

theorem read_mark : read joins behind (mark::rest) = read joins (joins && behind) rest := by
  rw [read,if_neg (by decide),if_neg (by decide),if_pos rfl]

def Plain (char : Char) : Prop := char ≠ '\n' ∧ char ≠ '\r' ∧ char ≠ mark

theorem read_plain (plain : Plain char) : read joins behind (char::rest) = char::read joins false rest := by
  rw [read,if_neg plain.1,if_neg plain.2.1,if_neg plain.2.2]

theorem kinds (char : Char) : char = '\n' ∨ char = '\r' ∨ char = mark ∨ Plain char := by
  unfold Plain
  tauto

theorem unifyLines_crlf : unifyLines ('\r':: '\n'::rest) = '\n'::unifyLines rest := by
  rw [unifyLines]

theorem unifyLines_cr (apart : rest.head? ≠ some '\n') : unifyLines ('\r'::rest) = '\n'::unifyLines rest := by
  rw [unifyLines]
  intro later same
  rw [same] at apart
  exact apart rfl

theorem unifyLines_cons (other : char ≠ '\r') : unifyLines (char::rest) = char::unifyLines rest := by
  rw [unifyLines]
  · intro later same
    exact absurd same other
  · intro same
    exact absurd same other

theorem unmark_cons (other : char ≠ mark) : unmark (char::rest) = char::unmark rest := by
  unfold unmark
  rw [List.filter_cons_of_pos (by simpa using other)]

theorem unmark_mark : unmark (mark::rest) = unmark rest := by
  unfold unmark
  rw [List.filter_cons_of_neg (by simp)]

/-- `normalise` takes the marks out before it unifies the line endings. -/
theorem read_joined (text : List Char) : unifyLines (unmark text) = read true false text ∧
    unifyLines ('\r'::unmark text) = '\n'::read true true text := by
  induction text with
  | nil => exact ⟨rfl,rfl⟩
  | cons char rest ih =>
    obtain ⟨free,bound⟩ := ih
    rcases kinds char with rfl | rfl | rfl | plain
    · rw [unmark_cons (by decide),unifyLines_crlf,unifyLines_cons (by decide),read_lf,read_crlf,free]
      exact ⟨rfl,rfl⟩
    · have second : unifyLines ('\r':: '\r'::unmark rest) = '\n'::unifyLines ('\r'::unmark rest) := unifyLines_cr (by simp)
      rw [unmark_cons (by decide),second,read_cr,read_cr,bound]
      exact ⟨rfl,rfl⟩
    · rw [unmark_mark,read_mark,read_mark]
      exact ⟨free,bound⟩
    · rw [unmark_cons plain.2.2,unifyLines_cr (by simpa using plain.1),unifyLines_cons plain.2.1,read_plain plain,
        read_plain plain,free]
      exact ⟨rfl,rfl⟩

theorem read_parted (text : List Char) : unmark (unifyLines text) = read false false text ∧
    unmark (unifyLines ('\r'::text)) = '\n'::read false true text := by
  induction text with
  | nil => exact ⟨rfl,rfl⟩
  | cons char rest ih =>
    obtain ⟨free,bound⟩ := ih
    rcases kinds char with rfl | rfl | rfl | plain
    · rw [unifyLines_crlf,unifyLines_cons (by decide),unmark_cons (by decide),read_lf,read_crlf,free]
      exact ⟨rfl,rfl⟩
    · have second : unifyLines ('\r':: '\r'::rest) = '\n'::unifyLines ('\r'::rest) := unifyLines_cr (by simp)
      have broken : '\n' ≠ mark := by decide
      rw [second,unmark_cons broken,read_cr,read_cr,bound]
      exact ⟨rfl,rfl⟩
    · have second : unifyLines ('\r'::mark::rest) = '\n'::unifyLines (mark::rest) := unifyLines_cr (by simp [mark])
      have broken : '\n' ≠ mark := by decide
      rw [second,unmark_cons broken,unifyLines_cons (by decide),unmark_mark,read_mark,read_mark,free]
      exact ⟨rfl,rfl⟩
    · have second : unifyLines ('\r'::char::rest) = '\n'::unifyLines (char::rest) := unifyLines_cr (by simpa using plain.1)
      have broken : '\n' ≠ mark := by decide
      rw [second,unmark_cons broken,unifyLines_cons plain.2.1,unmark_cons plain.2.2,read_plain plain,read_plain plain,free]
      exact ⟨rfl,rfl⟩

theorem unifyLines_unified (text : List Char) : '\r' ∉ unifyLines text := by
  fun_induction unifyLines text <;> simp_all [eq_comm]

theorem written_lf {ending : Ending} : written ending ('\n'::rest) = ending.text ++ written ending rest := by
  unfold written
  rw [List.flatMap_cons,if_pos rfl]

theorem written_cons {ending : Ending} (other : char ≠ '\n') : written ending (char::rest) = char::written ending rest := by
  unfold written
  rw [List.flatMap_cons,if_neg other]
  rfl

theorem read_written {ending : Ending} (unified : '\r' ∉ text) (possible : behind = true → ending = .cr) :
    read true behind (written ending text) = unmark text := by
  induction text generalizing behind with
  | nil => rfl
  | cons char rest ih =>
    have unified' : '\r' ∉ rest := fun member => unified (List.mem_cons_of_mem _ member)
    rcases kinds char with rfl | rfl | rfl | plain
    · rw [written_lf,unmark_cons (by decide)]
      cases ending with
      | lf =>
        cases behind with
        | false =>
          change read true false ('\n'::written .lf rest) = _
          rw [read_lf,ih unified' (by simp)]
        | true => exact absurd (possible rfl) (by simp)
      | crlf =>
        change read true behind ('\r':: '\n'::written .crlf rest) = _
        rw [read_cr,read_crlf,ih unified' (by simp)]
      | cr =>
        change read true behind ('\r'::written .cr rest) = _
        rw [read_cr,ih unified' (by simp)]
    · exact absurd List.mem_cons_self unified
    · rw [written_cons (by decide),read_mark,unmark_mark]
      exact ih unified' possible
    · rw [written_cons plain.1,read_plain plain,unmark_cons plain.2.2,ih unified' (by simp)]

theorem read_reencode (ending : Ending) (text : List Char) : read true false (reencode ending text) = read false false text := by
  rw [← (read_parted text).1]
  exact read_written (unifyLines_unified text) (by simp)

theorem blank_cons : Blank (char::rest) ↔ (char = mark ∨ isSpace char) ∧ Blank rest := List.forall_mem_cons

theorem blank_append {first second : List Char} : Blank (first ++ second) ↔ Blank first ∧ Blank second := List.forall_mem_append

theorem blank_read : Blank (read joins behind text) ↔ Blank text := by
  induction text generalizing behind with
  | nil => rfl
  | cons char rest ih =>
    rcases kinds char with rfl | rfl | rfl | plain
    · have space : isSpace '\n' = true := by decide
      cases behind with
      | true => rw [read_crlf,ih,blank_cons,and_iff_right (.inr space)]
      | false => rw [read_lf,blank_cons,blank_cons,ih]
    · have space : isSpace '\r' = true := by decide
      have space' : isSpace '\n' = true := by decide
      rw [read_cr,blank_cons,blank_cons,ih,and_iff_right (.inr space),and_iff_right (.inr space')]
    · rw [read_mark,ih,blank_cons,and_iff_right (.inl rfl)]
    · rw [read_plain plain,blank_cons,blank_cons,ih]

theorem read_unmarked : mark ∉ read joins behind text := by
  induction text generalizing behind with
  | nil => simp [read]
  | cons char rest ih =>
    rcases kinds char with rfl | rfl | rfl | plain
    · cases behind with
      | true => rw [read_crlf]; exact ih
      | false => rw [read_lf]; exact List.not_mem_cons_of_ne_of_not_mem (by decide) ih
    · rw [read_cr]
      exact List.not_mem_cons_of_ne_of_not_mem (by decide) ih
    · rw [read_mark]
      exact ih
    · rw [read_plain plain]
      exact List.not_mem_cons_of_ne_of_not_mem plain.2.2.symm ih

end Read

end Acop.Knowledge
