import Mathlib.Data.List.DropRight
import Mathlib.Data.List.Intervals

/-! Texts as lines between breaks: what is left of a text once the spaces at the end of each
line are gone, and what is left of that once the breaks at both ends are. -/
namespace Acop.Coding

section Trim

variable {Symbol : Type} {p : Symbol → Bool} {first second middle text : List Symbol}

/-- A text without what satisfies `p` at either end. -/
def trim (p : Symbol → Bool) (text : List Symbol) : List Symbol := (text.dropWhile p).rdropWhile p

theorem rdropWhile_append_of_pos (all : ∀ symbol ∈ second, p symbol) :
    (first ++ second).rdropWhile p = first.rdropWhile p := by
  unfold List.rdropWhile
  rw [List.reverse_append,List.dropWhile_append_of_pos]
  intro symbol member
  exact all symbol (List.mem_reverse.mp member)

theorem rdropWhile_append_of_some (some : ∃ symbol ∈ second, p symbol = false) :
    (first ++ second).rdropWhile p = first ++ second.rdropWhile p := by
  obtain ⟨symbol,member,fails⟩ := some
  have left : (second.reverse.dropWhile p).isEmpty = false := by
    rw [List.isEmpty_eq_false_iff]
    intro none
    have holds := List.dropWhile_eq_nil_iff.mp none symbol (List.mem_reverse.mpr member)
    exact absurd holds (by simp [fails])
  unfold List.rdropWhile
  rw [List.reverse_append,List.dropWhile_append,left,if_neg Bool.false_ne_true,List.reverse_append,List.reverse_reverse]

theorem dropWhile_append_of_some (some : ∃ symbol ∈ first, p symbol = false) :
    (first ++ second).dropWhile p = first.dropWhile p ++ second := by
  obtain ⟨symbol,member,fails⟩ := some
  have left : (first.dropWhile p).isEmpty = false := by
    rw [List.isEmpty_eq_false_iff]
    intro none
    exact absurd (List.dropWhile_eq_nil_iff.mp none symbol member) (by simp [fails])
  rw [List.dropWhile_append,left,if_neg Bool.false_ne_true]

theorem trim_append_left (all : ∀ symbol ∈ first, p symbol) : trim p (first ++ second) = trim p second := by
  unfold trim
  rw [List.dropWhile_append_of_pos all]

theorem trim_append_right (all : ∀ symbol ∈ second, p symbol) : trim p (first ++ second) = trim p first := by
  unfold trim
  by_cases some : ∃ symbol ∈ first, p symbol = false
  · rw [dropWhile_append_of_some some,rdropWhile_append_of_pos all]
  · have every : ∀ symbol ∈ first, p symbol := by
      intro symbol member
      by_contra fails
      exact some ⟨symbol,member,by simpa using fails⟩
    have both : ∀ symbol ∈ first ++ second, p symbol := fun symbol member =>
      (List.mem_append.mp member).elim (every symbol) (all symbol)
    rw [List.dropWhile_eq_nil_iff.mpr both,List.dropWhile_eq_nil_iff.mpr every]

theorem trim_between (before : ∃ symbol ∈ first, p symbol = false) (behind : ∃ symbol ∈ second, p symbol = false) :
    trim p (first ++ (middle ++ second)) = first.dropWhile p ++ (middle ++ second.rdropWhile p) := by
  unfold trim
  rw [dropWhile_append_of_some before,← List.append_assoc,rdropWhile_append_of_some behind,List.append_assoc]

theorem dropWhile_trim : (trim p text).dropWhile p = trim p text := by
  rw [List.dropWhile_eq_self_iff]
  intro long
  have part : trim p text <+: text.dropWhile p := List.rdropWhile_prefix p _
  rw [part.getElem long]
  exact List.dropWhile_get_zero_not p text (Nat.lt_of_lt_of_le long part.length_le)

theorem trim_trim : trim p (trim p text) = trim p text := by
  rw [trim,dropWhile_trim]
  exact List.rdropWhile_idempotent p _

/-- What holds of a text and of each part of it on one side of a symbol to drop holds of what is left. -/
theorem trim_ind {motive : List Symbol → Prop} (front : ∀ symbol rest, p symbol → motive (symbol::rest) → motive rest)
    (back : ∀ symbol rest, p symbol → motive (rest ++ [symbol]) → motive rest) (holds : motive text) : motive (trim p text) := by
  have dropped : motive (text.dropWhile p) := by
    induction text with
    | nil => exact holds
    | cons symbol rest ih =>
      by_cases drops : p symbol
      · rw [List.dropWhile_cons_of_pos drops]
        exact ih (front symbol rest drops holds)
      · rw [List.dropWhile_cons_of_neg drops]
        exact holds
  unfold trim
  generalize text.dropWhile p = left at dropped
  induction left using List.reverseRecOn with
  | nil => exact dropped
  | append_singleton rest symbol ih =>
    by_cases drops : p symbol
    · rw [List.rdropWhile_concat_pos p rest symbol drops]
      exact ih (back symbol rest drops dropped)
    · rw [List.rdropWhile_concat_neg p rest symbol drops]
      exact dropped

end Trim

section Polish

variable {Symbol : Type} [DecidableEq Symbol] (brk : Symbol) (space : Symbol → Bool)

def polish (text : List Symbol) : List Symbol := List.intercalate [brk] ((text.splitOn brk).map (·.rdropWhile space))

variable {brk space} {first second text : List Symbol} {symbol : Symbol}

omit [DecidableEq Symbol] in
theorem intercalate_append {lines rest : List (List Symbol)} (some : lines ≠ []) (some' : rest ≠ []) :
    List.intercalate [brk] (lines ++ rest) = List.intercalate [brk] lines ++ brk::List.intercalate [brk] rest := by
  induction lines with
  | nil => exact absurd rfl some
  | cons line lines ih =>
    cases lines with
    | nil =>
      cases rest with
      | nil => exact absurd rfl some'
      | cons next rest => simp [List.intercalate_cons_cons]
    | cons next lines =>
      have later := ih (List.cons_ne_nil next lines)
      rw [List.cons_append,List.cons_append,List.intercalate_cons_cons,← List.cons_append,later,List.intercalate_cons_cons]
      simp only [List.append_assoc]

omit [DecidableEq Symbol] in
theorem mem_of_mem_intercalate {lines : List (List Symbol)} (member : symbol ∈ List.intercalate [brk] lines) :
    symbol = brk ∨ ∃ line ∈ lines, symbol ∈ line := by
  induction lines with
  | nil => exact nomatch member
  | cons line lines ih =>
    cases lines with
    | nil =>
      rw [List.intercalate_singleton] at member
      exact .inr ⟨line,List.mem_cons_self,member⟩
    | cons next lines =>
      rw [List.intercalate_cons_cons,List.mem_append,List.mem_append,List.mem_singleton] at member
      rcases member with (inLine | same) | later
      · exact .inr ⟨line,List.mem_cons_self,inLine⟩
      · exact .inl same
      · rcases ih later with same | ⟨other,inLines,inOther⟩
        · exact .inl same
        · exact .inr ⟨other,List.mem_cons_of_mem line inLines,inOther⟩

theorem polish_append : polish brk space (first ++ brk::second) = polish brk space first ++ brk::polish brk space second := by
  unfold polish
  rw [List.splitOn_append_cons_self,List.map_append,intercalate_append]
  · simp
  · simp

theorem polish_nil : polish brk space [] = [] := by
  simp [polish]

theorem polish_line (unbroken : brk ∉ text) : polish brk space text = text.rdropWhile space := by
  unfold polish
  rw [List.splitOn_eq_singleton unbroken]
  simp

theorem lines_ind (brk : Symbol) {motive : List Symbol → Prop} (line : ∀ text, brk ∉ text → motive text)
    (more : ∀ line rest, brk ∉ line → motive rest → motive (line ++ brk::rest)) (text : List Symbol) : motive text := by
  induction length : text.length using Nat.strong_induction_on generalizing text with
  | _ size ih =>
    by_cases broken : brk ∈ text
    · obtain ⟨first,rest,whole,unbroken⟩ := List.eq_append_cons_of_mem broken
      have shorter : rest.length < size := by
        rw [← length,whole,List.length_append,List.length_cons]
        omega
      rw [whole]
      exact more first rest unbroken (ih rest.length shorter rest rfl)
    · exact line text broken

theorem polish_concat (blank : space symbol) (inside : symbol ≠ brk) :
    polish brk space (text ++ [symbol]) = polish brk space text := by
  induction text using lines_ind brk with
  | line text unbroken =>
    have unbroken' : brk ∉ text ++ [symbol] := by
      simp [unbroken,inside.symm]
    rw [polish_line unbroken,polish_line unbroken',List.rdropWhile_concat_pos space text symbol blank]
  | more line rest _ ih => rw [List.append_assoc,List.cons_append,polish_append,polish_append,ih]

omit [DecidableEq Symbol] in
theorem mem_rdropWhile (member : symbol ∈ text) (shown : space symbol = false) : symbol ∈ text.rdropWhile space := by
  rw [← show text.rdropWhile space ++ text.rtakeWhile space = text from List.rdropWhile_append_rtakeWhile ..] at member
  refine (List.mem_append.mp member).resolve_right fun dropped => ?_
  exact absurd (List.mem_rtakeWhile_imp dropped) (by simp [shown])

theorem mem_polish (member : symbol ∈ text) (shown : space symbol = false) : symbol ∈ polish brk space text := by
  induction text using lines_ind brk with
  | line text unbroken =>
    rw [polish_line unbroken]
    exact mem_rdropWhile member shown
  | more line rest unbroken ih =>
    rw [polish_append,polish_line unbroken]
    rcases List.mem_append.mp member with inLine | behind
    · exact List.mem_append_left _ (mem_rdropWhile inLine shown)
    · refine List.mem_append_right _ ?_
      rcases List.mem_cons.mp behind with rfl | later
      · exact List.mem_cons_self
      · exact List.mem_cons_of_mem _ (ih later)

theorem mem_of_mem_polish (member : symbol ∈ polish brk space text) : symbol = brk ∨ symbol ∈ text := by
  induction text using lines_ind brk with
  | line text unbroken =>
    rw [polish_line unbroken] at member
    exact .inr ((List.rdropWhile_prefix space text).subset member)
  | more line rest unbroken ih =>
    rw [polish_append,polish_line unbroken] at member
    rcases List.mem_append.mp member with inLine | behind
    · exact .inr (List.mem_append_left _ ((List.rdropWhile_prefix space line).subset inLine))
    · rcases List.mem_cons.mp behind with rfl | later
      · exact .inl rfl
      · refine (ih later).imp_right fun there => ?_
        exact List.mem_append_right _ (List.mem_cons_of_mem _ there)

theorem polish_once (unbroken : brk ∉ text) : polish brk space (polish brk space text) = polish brk space text := by
  have unbroken' : brk ∉ text.rdropWhile space := fun member => unbroken ((List.rdropWhile_prefix space text).subset member)
  rw [polish_line unbroken,polish_line unbroken',List.rdropWhile_idempotent]

theorem polish_polish : polish brk space (polish brk space text) = polish brk space text := by
  induction text using lines_ind brk with
  | line text unbroken => exact polish_once unbroken
  | more line rest unbroken ih =>
    have first : polish brk space (polish brk space line) = polish brk space line := polish_once unbroken
    rw [polish_append,polish_append,ih,first]

end Polish

end Acop.Coding
