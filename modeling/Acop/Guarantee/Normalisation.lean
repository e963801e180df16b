import Acop.Knowledge.Breaks
import Acop.Knowledge.Effects

/-! Which ways of writing a text down `normalise` takes for the same text. -/
namespace Acop.Knowledge
open Acop.Coding

/-- What Unicode says of its normalisation form C. -/
structure Composing (nfc : String → String) : Prop where
  idempotent text : nfc (nfc text) = nfc text
  /-- Every part of a normalised text is normalised. -/
  part before text behind : nfc (before ++ text ++ behind) = before ++ text ++ behind → nfc text = text
  /-- Line feeds compose with nothing. -/
  lineFeed before behind : nfc (before ++ "\n" ++ behind) = nfc before ++ "\n" ++ nfc behind
  /-- Spaces compose with nothing before them; some have another space for their form. -/
  space char : isSpace char →
    ∃ form, isSpace form ∧ (form = '\n' ↔ char = '\n') ∧ ∀ before, nfc (before.push char) = (nfc before).push form
  shown text : (∃ char ∈ text.toList, isSpace char = false) → ∃ char ∈ (nfc text).toList, isSpace char = false
  /-- Marks and line endings come from nowhere. -/
  foreign text char : char = '\n' ∨ char = '\r' ∨ char = mark → char ∈ (nfc text).toList → char ∈ text.toList

inductive Padding : List Char → List Char → Prop where
  | space {before behind : List Char} {char : Char} (blank : isSpace char) (inside : char ≠ '\n' ∧ char ≠ '\r')
    (endsLine : behind.head? = none ∨ behind.head? = some '\n' ∨ behind.head? = some '\r')
    (parts : ¬ (before.getLast? = some '\r' ∧ behind.head? = some '\n')) :
    Padding (before ++ behind) (before ++ char::behind)

/-- A blank line more, above the text or below it. -/
inductive Framing : List Char → List Char → Prop where
  | above {text : List Char} (blanks : List Char) (ending : Ending)
    (blank : ∀ char ∈ blanks, isSpace char ∧ char ≠ '\n' ∧ char ≠ '\r') : Framing text (blanks ++ (ending.text ++ text))
  | below {text : List Char} (blanks : List Char) (ending : Ending)
    (blank : ∀ char ∈ blanks, isSpace char ∧ char ≠ '\n' ∧ char ≠ '\r') : Framing text (text ++ (ending.text ++ blanks))

/-- A document is handed in again to a source that takes it, and its current version has the text. -/
structure Resubmission {φ : Type} (instruments : Instruments) (submission : Submission φ) (records : Records φ) (text : String) where
  source : KnowledgeSource
  document : KnowledgeDocument
  current : KnowledgeDocumentVersion
  opened : Records φ
  opening : openAttempt instruments submission records = .ok opened
  valid : Valid submission records source
  found : findDocument submission records = some document
  serving : currentVersion records (some document) = some current
  ingested : current.textContentHash = instruments.sha256 (normalise instruments.nfc text)

/-- However the text is written down, `normalise` takes it for the same. -/
structure Canonical (nfc : String → String) (text : String) : Prop where
  idempotent : normalise nfc (normalise nfc text) = normalise nfc text
  reencoded ending : normalise nfc (String.ofList (reencode ending text.toList)) = normalise nfc text
  marked (marked : String) : unmark marked.toList = unmark text.toList → normalise nfc marked = normalise nfc text
  padded (padded : List Char) : Relation.ReflTransGen Padding text.toList padded →
    normalise nfc (String.ofList padded) = normalise nfc text
  framed (framed : List Char) : Relation.ReflTransGen Framing text.toList framed →
    normalise nfc (String.ofList framed) = normalise nfc text
  recognised {φ : Type} (instruments : Instruments) (ties : Uuid → Nat) (storable : φ → Bool) (submission : Submission φ)
    (space : EmbeddingSpace) (records : Records φ) (again : Resubmission instruments submission records text) (ending : Ending) :
    instruments.nfc = nfc → submission.request.content = String.ofList (reencode ending text.toList) →
    ∃ result final, ingest instruments ties storable submission space records = (.returned result,final) ∧
      result.versionId = some again.current.id ∧ SameStore records final ∧
        (again.current.rawContentHash ≠ submission.rawHash instruments → result.outcome = .unchangedText)

section Canon

variable {nfc : String → String} {text first second : List Char} {char : Char}

def isBreak (char : Char) : Bool := char = '\n'

/-- The composed text without the spaces at the ends of its lines. -/
def clean (nfc : String → String) (text : List Char) : List Char := polish '\n' isSpace (nfc (String.ofList text)).toList

def canon (nfc : String → String) (text : List Char) : List Char := trim isBreak (clean nfc text)

theorem normalise_canon (raw : String) : normalise nfc raw = String.ofList (canon nfc (read true false raw.toList)) := by
  rw [← (read_joined raw.toList).1]
  rfl

theorem isBreak_iff : isBreak char = true ↔ char = '\n' := decide_eq_true_iff

theorem isSpace_break : isSpace '\n' = true := by decide

theorem isBreak_of_shown (shown : isSpace char = false) : isBreak char = false := by
  refine decide_eq_false fun same => ?_
  rw [same,isSpace_break] at shown
  cases shown

theorem blank_spaces (unmarked : mark ∉ text) : Blank text ↔ ∀ char ∈ text, isSpace char := by
  refine forall₂_congr fun char member => or_iff_right ?_
  rintro rfl
  exact unmarked member

variable (laws : Composing nfc)
include laws

theorem Composing.empty : nfc "" = "" :=
  laws.part "" "" (nfc "") (by
    have settled := laws.idempotent ""
    simpa using settled)

theorem clean_append : clean nfc (first ++ '\n'::second) = clean nfc first ++ '\n'::clean nfc second := by
  have whole : String.ofList (first ++ '\n'::second) = String.ofList first ++ "\n" ++ String.ofList second := by
    rw [← String.toList_inj]
    simp
  unfold clean
  rw [whole,laws.lineFeed]
  have parts : (nfc (String.ofList first) ++ "\n" ++ nfc (String.ofList second)).toList =
      (nfc (String.ofList first)).toList ++ '\n'::(nfc (String.ofList second)).toList := by simp
  rw [parts,polish_append]

theorem clean_nil : clean nfc [] = [] := by
  unfold clean
  rw [String.ofList_nil,laws.empty]
  exact polish_nil

theorem clean_concat (blank : isSpace char) (inside : char ≠ '\n') : clean nfc (first ++ [char]) = clean nfc first := by
  obtain ⟨form,space,line,composed⟩ := laws.space char blank
  have whole : String.ofList (first ++ [char]) = (String.ofList first).push char := by
    rw [← String.toList_inj]
    simp
  unfold clean
  rw [whole,composed,String.toList_push]
  exact polish_concat space fun same => inside (line.mp same)

theorem canon_concat (blank : isSpace char) : canon nfc (first ++ [char]) = canon nfc first := by
  unfold canon
  by_cases same : char = '\n'
  · rw [same,clean_append laws,clean_nil laws]
    exact trim_append_right (by simp [isBreak])
  · rw [clean_concat laws blank same]

theorem canon_right (blank : ∀ char ∈ second, isSpace char) : canon nfc (first ++ second) = canon nfc first := by
  induction second using List.reverseRecOn with
  | nil => rw [List.append_nil]
  | append_singleton rest char ih =>
    rw [← List.append_assoc,canon_concat laws (blank char (by simp))]
    exact ih fun char member => blank char (List.mem_append_left _ member)

theorem clean_blank (blank : ∀ char ∈ first, isSpace char) : ∀ char ∈ clean nfc first, isBreak char := by
  induction first using List.reverseRecOn with
  | nil =>
    rw [clean_nil laws]
    intro char member
    cases member
  | append_singleton rest char ih =>
    have inner := ih fun char member => blank char (List.mem_append_left _ member)
    by_cases same : char = '\n'
    · rw [same,clean_append laws,clean_nil laws]
      intro char member
      rcases List.mem_append.mp member with early | last
      · exact inner char early
      · rw [List.mem_singleton.mp last]
        rfl
    · rw [clean_concat laws (blank char (by simp)) same]
      exact inner

theorem canon_left (blank : ∀ char ∈ first, isSpace char) : canon nfc (first ++ '\n'::second) = canon nfc second := by
  unfold canon
  have parts : clean nfc first ++ '\n'::clean nfc second = (clean nfc first ++ ['\n']) ++ clean nfc second := by simp
  rw [clean_append laws,parts]
  refine trim_append_left fun char member => ?_
  rcases List.mem_append.mp member with early | last
  · exact clean_blank laws blank char early
  · rw [List.mem_singleton.mp last]
    rfl

theorem clean_shown (shown : ∃ char ∈ text, isSpace char = false) : ∃ char ∈ clean nfc text, isBreak char = false := by
  obtain ⟨char,member,stays⟩ := laws.shown (String.ofList text) (by simpa using shown)
  exact ⟨char,mem_polish member stays,isBreak_of_shown stays⟩

theorem canon_between (before : ∃ char ∈ first, isSpace char = false) (behind : ∃ char ∈ second, isSpace char = false) :
    (canon nfc (first ++ '\n':: '\n'::second)).length = (canon nfc (first ++ '\n'::second)).length + 1 := by
  have early := clean_shown laws before
  have late := clean_shown laws behind
  have twice : clean nfc (first ++ '\n':: '\n'::second) = clean nfc first ++ (['\n','\n'] ++ clean nfc second) := by
    have rest : clean nfc ([] ++ '\n'::second) = clean nfc [] ++ '\n'::clean nfc second := clean_append laws
    rw [clean_nil laws] at rest
    rw [clean_append laws]
    exact congrArg (fun tail => clean nfc first ++ '\n'::tail) rest
  have once : clean nfc (first ++ '\n'::second) = clean nfc first ++ (['\n'] ++ clean nfc second) := clean_append laws
  unfold canon
  rw [twice,once,trim_between early late,trim_between early late]
  simp only [List.length_append,List.length_cons,List.length_nil]
  omega

/-- An empty line after `first` is one more line if text that is not blank stands on both its sides, and else makes
no difference. -/
theorem canon_empty (early : mark ∉ first) (late : mark ∉ second) :
    (Blank first ∨ Blank second) ∧ canon nfc (first ++ '\n':: '\n'::second) = canon nfc (first ++ '\n'::second) ∨
    ¬ (Blank first ∨ Blank second) ∧
      (canon nfc (first ++ '\n':: '\n'::second)).length = (canon nfc (first ++ '\n'::second)).length + 1 := by
  rw [blank_spaces early,blank_spaces late]
  by_cases blank : (∀ char ∈ first, isSpace char) ∨ ∀ char ∈ second, isSpace char
  · refine .inl ⟨blank,?_⟩
    rcases blank with above | below
    · have empty : canon nfc ([] ++ '\n'::second) = canon nfc second := canon_left laws nofun
      rw [canon_left laws above,canon_left laws above]
      exact empty
    · have twice : ∀ char ∈ '\n':: '\n'::second, isSpace char := by
        simpa [isSpace_break] using below
      have once : ∀ char ∈ '\n'::second, isSpace char := by
        simpa [isSpace_break] using below
      rw [canon_right laws twice,canon_right laws once]
  · refine .inr ⟨blank,?_⟩
    simp only [not_or,not_forall,Bool.not_eq_true,exists_prop] at blank
    exact canon_between laws blank.1 blank.2

end Canon

section Torn

variable {text before behind rest : List Char} {char : Char} {closed : Bool}

/-- Marks alone, one at least if not `closed`, and then a line feed. -/
def Opened (closed : Bool) (text behind : List Char) : Prop :=
  ∃ marks, (closed = false → marks ≠ []) ∧ (∀ char ∈ marks, char = mark) ∧ text = marks ++ '\n'::behind

theorem torn_cons : Torn (char::rest) before behind ↔
    (char = '\r' ∧ before = [] ∧ Opened false rest behind) ∨ ∃ early, before = char::early ∧ Torn rest early behind := by
  unfold Torn Opened
  constructor
  · rintro ⟨marks,some,all,whole⟩
    cases before with
    | nil =>
      obtain ⟨rfl,rfl⟩ := List.cons.inj whole
      exact .inl ⟨rfl,rfl,marks,fun _ => some,all,rfl⟩
    | cons head early =>
      obtain ⟨rfl,rfl⟩ := List.cons.inj whole
      exact .inr ⟨early,rfl,marks,some,all,rfl⟩
  · rintro (⟨rfl,rfl,marks,some,all,rfl⟩ | ⟨early,rfl,marks,some,all,rfl⟩)
    · exact ⟨marks,some rfl,all,rfl⟩
    · exact ⟨marks,some,all,rfl⟩

theorem opened_mark : Opened closed (mark::rest) behind ↔ Opened true rest behind := by
  unfold Opened
  constructor
  · rintro ⟨marks,_,all,whole⟩
    cases marks with
    | nil => exact absurd (List.cons.inj whole).1 (by decide)
    | cons head marks =>
      exact ⟨marks,nofun,fun char member => all char (List.mem_cons_of_mem _ member),(List.cons.inj whole).2⟩
  · rintro ⟨marks,_,all,rfl⟩
    exact ⟨mark::marks,fun _ => List.cons_ne_nil _ _,List.forall_mem_cons.mpr ⟨rfl,all⟩,rfl⟩

theorem opened_other (other : char ≠ mark) : Opened closed (char::rest) behind ↔ closed = true ∧ char = '\n' ∧ rest = behind := by
  unfold Opened
  constructor
  · rintro ⟨marks,some,all,whole⟩
    cases marks with
    | nil =>
      obtain ⟨rfl,rfl⟩ := List.cons.inj whole
      refine ⟨?_,rfl,rfl⟩
      cases closed with
      | true => rfl
      | false => exact absurd rfl (some rfl)
    | cons head marks =>
      have same := all head List.mem_cons_self
      exact absurd ((List.cons.inj whole).1.trans same) other
  · rintro ⟨rfl,rfl,rfl⟩
    exact ⟨[],nofun,nofun,rfl⟩

/-- No line ending is torn once `done` has been read: none of the rest, and, if a carriage return is `behind`, not that
one either. With `bound` it is the last character that was read. -/
def Unharmed (done text : List Char) (behind bound : Bool) : Prop :=
  (∀ before after, Torn text before after → Blank (done ++ before) ∨ Blank after) ∧
    (behind = true → ∀ after, Opened (!bound) text after → Blank done ∨ Blank after)

variable {done : List Char} {bound : Bool}

theorem unharmed_plain (plain : Plain char) {behind : Bool} :
    Unharmed done (char::rest) behind bound ↔ Unharmed (done ++ [char]) rest false false := by
  unfold Unharmed
  simp only [torn_cons,opened_other plain.2.2,plain.1,plain.2.1,false_and,false_or,and_false,List.append_assoc,
    List.cons_append,List.nil_append]
  constructor
  · rintro ⟨torn,_⟩
    exact ⟨fun before after there => torn _ after ⟨before,rfl,there⟩,nofun⟩
  · rintro ⟨torn,_⟩
    refine ⟨?_,fun _ _ => False.elim⟩
    rintro before after ⟨early,rfl,there⟩
    exact torn early after there

theorem blank_snoc : Blank (done ++ ['\n']) ↔ Blank done := by
  simp [blank_append,blank_cons,isSpace_break,show Blank [] from nofun]

theorem unharmed_cr {behind : Bool} : Unharmed done ('\r'::rest) behind bound ↔ Unharmed (done ++ ['\n']) rest true true := by
  have shift : ∀ before, Blank (done ++ '\r'::before) ↔ Blank (done ++ ['\n'] ++ before) := by
    intro before
    simp [blank_append,blank_cons,isSpace_break,show isSpace '\r' = true by decide]
  unfold Unharmed
  rw [blank_snoc]
  constructor
  · rintro ⟨torn,_⟩
    refine ⟨fun before after there => ?_,fun _ after there => ?_⟩
    · rw [← shift]
      exact torn _ after (torn_cons.mpr (.inr ⟨before,rfl,there⟩))
    · have both := torn [] after (torn_cons.mpr (.inl ⟨rfl,rfl,there⟩))
      rwa [List.append_nil] at both
  · rintro ⟨torn,opened⟩
    refine ⟨fun before after there => ?_,fun _ after there => absurd ((opened_other (by decide)).mp there).2.1 (by decide)⟩
    rcases torn_cons.mp there with ⟨_,rfl,later⟩ | ⟨early,rfl,later⟩
    · rw [List.append_nil]
      exact opened rfl after later
    · rw [shift]
      exact torn early after later

theorem unharmed_mark {behind : Bool} : Unharmed done (mark::rest) behind bound ↔ Unharmed done rest behind false := by
  have shift : ∀ before, Blank (done ++ mark::before) ↔ Blank (done ++ before) := by
    intro before
    simp [blank_append,blank_cons]
  unfold Unharmed
  simp only [torn_cons,opened_mark,Bool.not_false,show mark ≠ '\r' by decide,false_and,false_or]
  constructor
  · rintro ⟨torn,opened⟩
    refine ⟨fun before after there => ?_,opened⟩
    rw [← shift]
    exact torn _ after ⟨before,rfl,there⟩
  · rintro ⟨torn,opened⟩
    refine ⟨?_,opened⟩
    rintro before after ⟨early,rfl,there⟩
    rw [shift]
    exact torn early after there

theorem shift_lf (before : List Char) : Blank (done ++ '\n'::before) ↔ Blank (done ++ before) := by
  simp [blank_append,blank_cons,isSpace_break]

theorem torn_lf : (∀ before after, Torn ('\n'::rest) before after → Blank (done ++ before) ∨ Blank after) ↔
    ∀ before after, Torn rest before after → Blank (done ++ before) ∨ Blank after := by
  simp only [torn_cons,show ¬ '\n' = '\r' by decide,false_and,false_or]
  constructor
  · intro torn before after there
    rw [← shift_lf]
    exact torn _ after ⟨before,rfl,there⟩
  · rintro torn before after ⟨early,rfl,there⟩
    rw [shift_lf]
    exact torn early after there

theorem unharmed_lf : Unharmed done ('\n'::rest) false bound ↔ Unharmed (done ++ ['\n']) rest false false := by
  unfold Unharmed
  rw [torn_lf]
  simp only [List.append_assoc,List.cons_append,List.nil_append,shift_lf,Bool.false_eq_true,false_implies]

theorem unharmed_crlf : Unharmed done ('\n'::rest) true true ↔ Unharmed done rest false false := by
  unfold Unharmed
  rw [torn_lf]
  simp [opened_other (show '\n' ≠ mark by decide)]

theorem unharmed_parted : Unharmed done ('\n'::rest) true false ↔ (Blank done ∨ Blank rest) ∧ Unharmed done rest false false := by
  unfold Unharmed
  rw [torn_lf]
  simp [opened_other (show '\n' ≠ mark by decide),and_comm]

end Torn

section Joined

variable {nfc : String → String} (laws : Composing nfc)
include laws

/-- What is read with the marks taken out first has no more lines, and is the same exactly if no line ending is torn. -/
theorem canon_read (text done : List Char) (unmarked : mark ∉ done) (behind bound : Bool)
    (ended : behind = true → ∃ early, done = early ++ ['\n']) (possible : bound = true → behind = true) :
    (canon nfc (done ++ read true behind text)).length ≤ (canon nfc (done ++ read false bound text)).length ∧
      (canon nfc (done ++ read true behind text) = canon nfc (done ++ read false bound text) ↔ Unharmed done text behind bound) := by
  induction text generalizing done behind bound with
  | nil =>
    refine ⟨le_refl _,fun _ => ⟨?_,?_⟩,fun _ => rfl⟩
    · rintro before after ⟨marks,_,_,whole⟩
      simp at whole
    · rintro _ after ⟨marks,_,_,whole⟩
      simp at whole
  | cons char rest ih =>
    have further : ∀ symbol, symbol ≠ mark → mark ∉ done ++ [symbol] := by
      intro symbol other member
      rcases List.mem_append.mp member with early | last
      · exact unmarked early
      · exact other (List.mem_singleton.mp last).symm
    have step : ∀ symbol tail, done ++ symbol::tail = done ++ [symbol] ++ tail := by simp
    rcases kinds char with rfl | rfl | rfl | plain
    · cases behind with
      | false =>
        cases bound with
        | true => exact absurd (possible rfl) Bool.false_ne_true
        | false =>
          rw [read_lf,read_lf,step '\n' (read true false rest),step '\n' (read false false rest),unharmed_lf]
          exact ih _ (further '\n' (by decide)) false false nofun nofun
      | true =>
        have later := ih done unmarked false false nofun nofun
        cases bound with
        | true =>
          rw [read_crlf,read_crlf,unharmed_crlf]
          exact later
        | false =>
          obtain ⟨early,rfl⟩ := ended rfl
          rw [read_crlf,read_lf,unharmed_parted]
          have plainRest : mark ∉ read false false rest := read_unmarked
          have empty := canon_empty laws (fun member => unmarked (List.mem_append_left ['\n'] member)) plainRest
          rw [blank_read,← blank_snoc] at empty
          simp only [List.append_assoc,List.cons_append,List.nil_append] at later empty ⊢
          rcases empty with ⟨blank,same⟩ | ⟨shown,longer⟩
          · rw [same,and_iff_right blank]
            exact later
          · refine ⟨?_,fun same => ?_,fun both => absurd both.1 shown⟩
            · exact le_trans later.1 (by omega)
            · have lengths := congrArg List.length same
              have bounded := later.1
              omega
    · rw [read_cr,read_cr,step '\n' (read true true rest),step '\n' (read false true rest),unharmed_cr]
      exact ih _ (further '\n' (by decide)) true true (fun _ => ⟨done,rfl⟩) fun _ => rfl
    · rw [read_mark,read_mark,unharmed_mark,Bool.true_and,Bool.false_and]
      exact ih done unmarked behind false ended nofun
    · rw [read_plain plain,read_plain plain,step char (read true false rest),step char (read false false rest),
        unharmed_plain plain]
      exact ih _ (further char plain.2.2) false false nofun nofun

theorem whole_iff (text : List Char) : canon nfc (read true false text) = canon nfc (read false false text) ↔ Whole text := by
  have joined := (canon_read laws text [] List.not_mem_nil false false nofun nofun).2
  rw [List.nil_append,List.nil_append] at joined
  rw [joined]
  unfold Unharmed Whole
  simp

end Joined

section Padded

variable {before behind text padded : List Char} {char : Char}

theorem unifyLines_append (apart : ¬ (before.getLast? = some '\r' ∧ behind.head? = some '\n')) :
    unifyLines (before ++ behind) = unifyLines before ++ unifyLines behind := by
  fun_induction unifyLines before with
  | case1 rest ih =>
    have later : ¬ (rest.getLast? = some '\r' ∧ behind.head? = some '\n') := by
      rintro ⟨last,next⟩
      exact apart ⟨by simp [List.getLast?_cons,last],next⟩
    rw [List.cons_append,List.cons_append,unifyLines_crlf,ih later,List.cons_append]
  | case2 rest other ih =>
    cases rest with
    | nil =>
      have next : behind.head? ≠ some '\n' := fun next => apart ⟨rfl,next⟩
      exact unifyLines_cr next
    | cons first rest =>
      have later : ¬ ((first::rest).getLast? = some '\r' ∧ behind.head? = some '\n') := by
        rintro ⟨last,next⟩
        exact apart ⟨by simpa [List.getLast?_cons] using last,next⟩
      have next : (first::rest ++ behind).head? ≠ some '\n' := by
        intro same
        exact other rest (by simpa using same)
      rw [List.cons_append,unifyLines_cr next,ih later,List.cons_append]
  | case3 char rest _ other ih =>
    have later : ¬ (rest.getLast? = some '\r' ∧ behind.head? = some '\n') := by
      rintro ⟨last,next⟩
      exact apart ⟨by simp [List.getLast?_cons,last],next⟩
    have plain : char ≠ '\r' := fun same => other same
    rw [List.cons_append,unifyLines_cons plain,ih later,List.cons_append]
  | case4 => rfl

theorem plain_of_space (blank : isSpace char) (inside : char ≠ '\n' ∧ char ≠ '\r') : Plain char := by
  refine ⟨inside.1,inside.2,?_⟩
  rintro rfl
  exact absurd blank (by decide)

theorem torn_pad (plain : Plain char) {first last : List Char} (there : Torn (before ++ char::behind) first last) :
    (∃ rest, first = before ++ char::rest ∧ Torn (before ++ behind) (before ++ rest) last) ∨
      ∃ rest, last = rest ++ char::behind ∧ Torn (before ++ behind) first (rest ++ behind) := by
  obtain ⟨marks,some,all,whole⟩ := there
  rcases List.append_eq_append_iff.mp whole with ⟨middle,rfl,tail⟩ | ⟨middle,rfl,tail⟩
  · cases middle with
    | nil => exact absurd (List.cons.inj tail).1 plain.2.1
    | cons head rest =>
      obtain ⟨rfl,rfl⟩ := List.cons.inj tail
      exact .inl ⟨rest,rfl,marks,some,all,by simp⟩
  · cases middle with
    | nil => exact absurd (List.cons.inj tail).1.symm plain.2.1
    | cons head rest =>
      obtain ⟨rfl,later⟩ := List.cons.inj tail
      rcases List.append_eq_append_iff.mp later with ⟨inner,rfl,final⟩ | ⟨inner,rfl,final⟩
      · cases inner with
        | nil => exact absurd (List.cons.inj final).1.symm plain.1
        | cons head rest =>
          obtain ⟨rfl,rfl⟩ := List.cons.inj final
          exact .inr ⟨rest,rfl,marks,some,all,by simp⟩
      · cases inner with
        | nil => exact absurd (List.cons.inj final).1 plain.1
        | cons head inner =>
          obtain ⟨rfl,_⟩ := List.cons.inj final
          exact absurd (all _ (List.mem_append_right _ List.mem_cons_self)) plain.2.2

theorem Whole.pad (whole : Whole text) (padding : Padding text padded) : Whole padded := by
  cases padding with
  | space blank inside _ _ =>
    have plain := plain_of_space blank inside
    intro first last there
    rcases torn_pad plain there with ⟨rest,rfl,torn⟩ | ⟨rest,rfl,torn⟩
    · refine (whole _ _ torn).imp_left fun above => ?_
      rw [blank_append] at above ⊢
      exact ⟨above.1,blank_cons.mpr ⟨.inr blank,above.2⟩⟩
    · refine (whole _ _ torn).imp_right fun below => ?_
      rw [blank_append] at below ⊢
      exact ⟨below.1,blank_cons.mpr ⟨.inr blank,below.2⟩⟩

theorem unmark_append (before behind : List Char) : unmark (before ++ behind) = unmark before ++ unmark behind := List.filter_append ..

theorem parted_head (endsLine : behind.head? = none ∨ behind.head? = some '\n' ∨ behind.head? = some '\r') :
    unmark (unifyLines behind) = [] ∨ ∃ rest, unmark (unifyLines behind) = '\n'::rest := by
  rw [(read_parted behind).1]
  cases behind with
  | nil => exact .inl rfl
  | cons head rest =>
    rcases endsLine with none | feed | ret
    · cases none
    · cases Option.some.inj feed
      exact .inr ⟨_,read_lf⟩
    · cases Option.some.inj ret
      exact .inr ⟨_,read_cr⟩

variable {nfc : String → String} (laws : Composing nfc)
include laws

theorem canon_pad (padding : Padding text padded) :
    canon nfc (read false false padded) = canon nfc (read false false text) := by
  cases padding with
  | @space before behind char blank inside endsLine parts =>
    have plain := plain_of_space blank inside
    have apart : ¬ (before.getLast? = some '\r' ∧ (char::behind).head? = some '\n') := fun both =>
      plain.1 (Option.some.inj both.2)
    rw [← (read_parted _).1,← (read_parted _).1,unifyLines_append apart,unifyLines_append parts,unifyLines_cons plain.2.1,
      unmark_append,unmark_append,unmark_cons plain.2.2]
    generalize unmark (unifyLines before) = early
    rcases parted_head endsLine with none | ⟨rest,some⟩
    · rw [none,List.append_nil]
      exact canon_concat laws blank
    · rw [some]
      have split : early ++ char:: '\n'::rest = early ++ [char] ++ '\n'::rest := by simp
      unfold canon
      rw [split,clean_append laws,clean_append laws,clean_concat laws blank plain.1]

theorem normalise_whole (whole : Whole text) :
    normalise nfc (String.ofList text) = String.ofList (canon nfc (read false false text)) := by
  rw [normalise_canon,String.toList_ofList,(whole_iff laws text).mpr whole]

theorem normalise_padded (whole : Whole text) (padding : Relation.ReflTransGen Padding text padded) :
    Whole padded ∧ normalise nfc (String.ofList padded) = normalise nfc (String.ofList text) := by
  induction padding with
  | refl => exact ⟨whole,rfl⟩
  | tail _ next ih =>
    have wholeNext := ih.1.pad next
    refine ⟨wholeNext,Eq.trans ?_ ih.2⟩
    rw [normalise_whole laws wholeNext,normalise_whole laws ih.1,canon_pad laws next]

end Padded

section Framed

variable {nfc : String → String} {text framed blanks rest : List Char} {joins behind : Bool}

theorem read_plains (plain : ∀ char ∈ blanks, Plain char) : read joins false (blanks ++ rest) = blanks ++ read joins false rest := by
  induction blanks with
  | nil => rfl
  | cons char blanks ih =>
    rw [List.cons_append,read_plain (plain char List.mem_cons_self),ih fun char member => plain char (List.mem_cons_of_mem _ member)]
    rfl

theorem read_behind (text : List Char) : read true true text = read true false text ∨
    read true false text = '\n'::read true true text := by
  induction text with
  | nil => exact .inl rfl
  | cons char rest ih =>
    rcases kinds char with rfl | rfl | rfl | plain
    · exact .inr (by rw [read_lf,read_crlf])
    · exact .inl (by rw [read_cr,read_cr])
    · rw [read_mark,read_mark]
      exact ih
    · exact .inl (by rw [read_plain plain,read_plain plain])

theorem ending_space (ending : Ending) : ∀ char ∈ ending.text, isSpace char := by
  have ret : isSpace '\r' = true := by decide
  cases ending <;> simp [Ending.text,isSpace_break,ret]

theorem read_spaces (blank : ∀ char ∈ rest, isSpace char) (behind : Bool) (text : List Char) :
    ∃ left, (∀ char ∈ left, isSpace char) ∧ read true behind (text ++ rest) = read true behind text ++ left := by
  induction text generalizing behind with
  | nil =>
    refine ⟨read true behind rest,?_,rfl⟩
    rw [← blank_spaces read_unmarked,blank_read]
    exact fun char member => .inr (blank char member)
  | cons char text ih =>
    rw [List.cons_append]
    rcases kinds char with rfl | rfl | rfl | plain
    · cases behind with
      | true =>
        rw [read_crlf,read_crlf]
        exact ih false
      | false =>
        obtain ⟨left,spaces,whole⟩ := ih false
        exact ⟨left,spaces,by rw [read_lf,read_lf,whole,List.cons_append]⟩
    · obtain ⟨left,spaces,whole⟩ := ih true
      exact ⟨left,spaces,by rw [read_cr,read_cr,whole,List.cons_append]⟩
    · rw [read_mark,read_mark,Bool.true_and]
      exact ih behind
    · obtain ⟨left,spaces,whole⟩ := ih false
      exact ⟨left,spaces,by rw [read_plain plain,read_plain plain,whole,List.cons_append]⟩

variable (laws : Composing nfc)
include laws

theorem canon_above : canon nfc ('\n'::text) = canon nfc text := by
  have empty : canon nfc ([] ++ '\n'::text) = canon nfc text := canon_left laws nofun
  exact empty

theorem canon_behind (text : List Char) : canon nfc (read true behind text) = canon nfc (read true false text) := by
  cases behind with
  | false => rfl
  | true =>
    rcases read_behind text with same | above
    · rw [same]
    · rw [above,canon_above laws]

theorem canon_frame (framing : Framing text framed) : canon nfc (read true false framed) = canon nfc (read true false text) := by
  cases framing with
  | above blanks ending blank =>
    have opened : ∃ behind, read true false (ending.text ++ text) = '\n'::read true behind text := by
      cases ending with
      | lf => exact ⟨false,read_lf⟩
      | crlf => exact ⟨false,(read_cr).trans (congrArg _ read_crlf)⟩
      | cr => exact ⟨true,read_cr⟩
    obtain ⟨behind,first⟩ := opened
    rw [read_plains fun char member => plain_of_space (blank char member).1 (blank char member).2,first,
      canon_left laws fun char member => (blank char member).1,canon_behind laws]
  | below blanks ending blank =>
    have spaces : ∀ char ∈ ending.text ++ blanks, isSpace char := by
      intro char member
      rcases List.mem_append.mp member with ends | last
      · exact ending_space ending char ends
      · exact (blank char last).1
    obtain ⟨left,blankLeft,whole⟩ := read_spaces spaces false text
    rw [whole,canon_right laws blankLeft]

theorem normalise_framed (framing : Relation.ReflTransGen Framing text framed) :
    normalise nfc (String.ofList framed) = normalise nfc (String.ofList text) := by
  induction framing with
  | refl => rfl
  | tail _ next ih =>
    refine Eq.trans ?_ ih
    rw [normalise_canon,normalise_canon,String.toList_ofList,String.toList_ofList,canon_frame laws next]

end Framed

section Settled

variable {nfc : String → String} {text before behind : List Char}

theorem read_settled {joins : Bool} (unmarked : mark ∉ text) (unified : '\r' ∉ text) : read joins false text = text := by
  induction text with
  | nil => rfl
  | cons char rest ih =>
    have later := ih (fun member => unmarked (List.mem_cons_of_mem _ member)) fun member => unified (List.mem_cons_of_mem _ member)
    rcases kinds char with rfl | rfl | rfl | plain
    · rw [read_lf,later]
    · exact absurd List.mem_cons_self unified
    · exact absurd List.mem_cons_self unmarked
    · rw [read_plain plain,later]

theorem read_unified {joins behind : Bool} : '\r' ∉ read joins behind text := by
  induction text generalizing behind with
  | nil => exact List.not_mem_nil
  | cons char rest ih =>
    rcases kinds char with rfl | rfl | rfl | plain
    · cases behind with
      | true =>
        rw [read_crlf]
        exact ih
      | false =>
        rw [read_lf]
        exact List.not_mem_cons_of_ne_of_not_mem (by decide) ih
    · rw [read_cr]
      exact List.not_mem_cons_of_ne_of_not_mem (by decide) ih
    · rw [read_mark]
      exact ih
    · rw [read_plain plain]
      exact List.not_mem_cons_of_ne_of_not_mem plain.2.1.symm ih

def Settled (nfc : String → String) (text : List Char) : Prop := nfc (String.ofList text) = String.ofList text

variable (laws : Composing nfc)
include laws

theorem Settled.part {after : List Char} (settled : Settled nfc (before ++ (text ++ after))) : Settled nfc text := by
  refine laws.part (String.ofList before) (String.ofList text) (String.ofList after) ?_
  rw [← String.ofList_append,← String.ofList_append,List.append_assoc]
  exact settled

theorem Settled.start {after : List Char} (settled : Settled nfc (text ++ after)) : Settled nfc text := by
  have whole : Settled nfc ([] ++ (text ++ after)) := settled
  exact whole.part laws

theorem Settled.join (early : Settled nfc before) (late : Settled nfc behind) : Settled nfc (before ++ '\n'::behind) := by
  have whole : String.ofList (before ++ '\n'::behind) = String.ofList before ++ "\n" ++ String.ofList behind := by
    rw [← String.toList_inj]
    simp
  unfold Settled
  rw [whole,laws.lineFeed,early,late]

theorem Settled.polish (settled : Settled nfc text) : Settled nfc (polish '\n' isSpace text) := by
  induction text using lines_ind '\n' with
  | line text unbroken =>
    rw [polish_line unbroken]
    obtain ⟨dropped,whole⟩ := List.rdropWhile_prefix isSpace text
    rw [← whole] at settled
    exact settled.start laws
  | more line rest unbroken ih =>
    have first : Settled nfc (line.rdropWhile isSpace) := by
      obtain ⟨dropped,whole⟩ := List.rdropWhile_prefix isSpace line
      rw [← whole,List.append_assoc] at settled
      exact settled.start laws
    have last : Settled nfc rest := by
      have tail : line ++ '\n'::rest = line ++ ['\n'] ++ (rest ++ []) := by simp
      rw [tail] at settled
      exact settled.part laws
    rw [polish_append,polish_line unbroken]
    exact first.join laws (ih last)

theorem Settled.trim (settled : Settled nfc text) : Settled nfc (trim isBreak text) := by
  refine trim_ind (fun symbol rest _ whole => ?_) (fun symbol rest _ whole => ?_) settled
  · have split : symbol::rest = [symbol] ++ (rest ++ []) := by simp
    rw [split] at whole
    exact whole.part laws
  · exact whole.start laws

theorem clean_settled (text : List Char) : Settled nfc (clean nfc text) := by
  refine Settled.polish laws ?_
  unfold Settled
  rw [String.ofList_toList]
  exact laws.idempotent _

theorem mem_canon {char : Char} (foreign : char = '\n' ∨ char = '\r' ∨ char = mark) (member : char ∈ canon nfc text) :
    char ∈ text ∨ char = '\n' := by
  have inClean : char ∈ clean nfc text := (List.dropWhile_suffix _).subset ((List.rdropWhile_prefix _ _).subset member)
  rcases mem_of_mem_polish inClean with rfl | inComposed
  · exact .inr rfl
  · have there := laws.foreign _ char foreign inComposed
    rw [String.toList_ofList] at there
    exact .inl there

omit laws in
theorem polished_trim (left : List Char) (polished : polish '\n' isSpace left = left) :
    polish '\n' isSpace (trim isBreak left) = trim isBreak left := by
  refine trim_ind (motive := fun left => polish '\n' isSpace left = left) (fun symbol rest break_ whole => ?_)
    (fun symbol rest break_ whole => ?_) polished
  · rw [isBreak_iff] at break_
    subst break_
    have split : polish '\n' isSpace ([] ++ '\n'::rest) = [] ++ '\n'::rest := whole
    rw [polish_append,polish_nil] at split
    exact (List.cons.inj split).2
  · rw [isBreak_iff] at break_
    subst break_
    have split : polish '\n' isSpace (rest ++ '\n'::[]) = rest ++ '\n'::[] := whole
    rw [polish_append,polish_nil] at split
    exact List.append_cancel_right split

theorem canon_canon (text : List Char) : canon nfc (canon nfc text) = canon nfc text := by
  have settled : Settled nfc (canon nfc text) := (clean_settled laws text).trim laws
  have polished : polish '\n' isSpace (canon nfc text) = canon nfc text := by
    refine polished_trim _ ?_
    exact polish_polish
  have cleaned : clean nfc (canon nfc text) = canon nfc text := by
    unfold clean
    rw [settled,String.toList_ofList,polished]
  have whole : canon nfc (canon nfc text) = trim isBreak (canon nfc text) := congrArg (trim isBreak) cleaned
  rw [whole]
  exact trim_trim

theorem normalise_normalise (raw : String) : normalise nfc (normalise nfc raw) = normalise nfc raw := by
  rw [normalise_canon (normalise nfc raw),normalise_canon raw,String.toList_ofList]
  have unmarked : mark ∉ canon nfc (read true false raw.toList) := by
    intro member
    rcases mem_canon laws (.inr (.inr rfl)) member with early | break_
    · exact read_unmarked early
    · exact absurd break_ (by decide)
  have unified : '\r' ∉ canon nfc (read true false raw.toList) := by
    intro member
    rcases mem_canon laws (.inr (.inl rfl)) member with early | break_
    · exact read_unified early
    · exact absurd break_ (by decide)
  rw [read_settled unmarked unified,canon_canon laws]

end Settled

section Resubmitted

variable {φ : Type} {instruments : Instruments} {ties : Uuid → Nat} {storable : φ → Bool} {submission : Submission φ}
  {space : EmbeddingSpace} {records : Records φ} {text : String}

theorem insertAll_nil {Row Key : Type} [DecidableEq Key] {key : Row → Key} (table : Store.Table key) : table.insertAll [] = some table := by
  have distinct : ((table.rows ++ []).map key).Nodup := by
    rw [List.append_nil]
    exact table.distinct
  rw [Store.Table.insertAll,dif_pos distinct]
  congr
  exact List.append_nil _

theorem judge_resubmitted (ties : Uuid → Nat) (space : EmbeddingSpace)
    (again : Resubmission instruments submission records text) :
    judge instruments ties submission space records = (do
      checkUnchanged instruments submission (some again.document) (some again.current)
      let report := screen instruments (submission.normalised instruments)
      passGate instruments ties submission records report
      let (chunks,vectors) ← embedChunks instruments submission space report
      return ⟨again.source,some again.document,some again.current,report,chunks,vectors⟩) := by
  unfold judge
  rw [validate_ok.mpr again.valid]
  simp only [ok_bind,again.found,again.serving]

theorem judge_unchanged (ties : Uuid → Nat) (space : EmbeddingSpace) (again : Resubmission instruments submission records text)
    (same : normalise instruments.nfc submission.request.content = normalise instruments.nfc text) :
    ∃ closing result, judge instruments ties submission space records = .error (.unchanged closing result) ∧
      closing.outcome ∉ canonicalOutcomes ∧ closing.versionId = none ∧ closing.findings = [] ∧
        result.versionId = some again.current.id ∧
          (again.current.rawContentHash ≠ submission.rawHash instruments → result.outcome = .unchangedText) := by
  have ingested : again.current.textContentHash = submission.textHash instruments := by
    rw [again.ingested,Submission.textHash,Submission.normalised,same]
  rw [judge_resubmitted ties space again,checkUnchanged]
  by_cases raw : again.current.rawContentHash = submission.rawHash instruments
  · rw [if_pos raw]
    exact ⟨_,_,rfl,show IngestOutcome.unchanged ∉ canonicalOutcomes by decide,rfl,rfl,rfl,fun other => absurd raw other⟩
  · rw [if_neg raw,if_pos ingested]
    exact ⟨_,_,rfl,show IngestOutcome.unchangedText ∉ canonicalOutcomes by decide,rfl,rfl,rfl,fun _ => rfl⟩

theorem ingest_unchanged (again : Resubmission instruments submission records text)
    (same : normalise instruments.nfc submission.request.content = normalise instruments.nfc text) :
    ∃ result final, ingest instruments ties storable submission space records = (.returned result,final) ∧
      result.versionId = some again.current.id ∧ SameStore records final ∧
        (again.current.rawContentHash ≠ submission.rawHash instruments → result.outcome = .unchangedText) := by
  obtain ⟨closing,result,judged,outcome,version,findings,current,unchanged⟩ := judge_unchanged ties space again same
  have judgedLater : judge instruments ties submission space again.opened = .error (.unchanged closing result) := by
    obtain ⟨_,_,attempts,_,opened⟩ := openAttempt_ok.mp again.opening
    rw [opened,judge_attempts,judged]
  obtain ⟨final,closed⟩ : ∃ final, closeAttempt again.opened submission.draws closing = .ok final := by
    refine ⟨_,closeAttempt_ok.mpr ⟨?_,again.opened.findings,?_,rfl⟩⟩
    · rw [version]
      exact decide_eq_false outcome
    · rw [findings]
      exact insertAll_nil again.opened.findings
  refine ⟨result,final,?_,current,(sameStore_open again.opening).trans (sameStore_close closed),unchanged⟩
  unfold ingest
  rw [again.opening]
  dsimp only
  rw [judgedLater]
  dsimp only [endAttempt]
  rw [closed]

end Resubmitted

/-- A text is taken for the same however it is written down exactly if marks part no carriage return from a line feed,
unless above its first line or below its last. -/
theorem canonical_whole {nfc : String → String} (laws : Composing nfc) (text : String) : Canonical nfc text ↔ Whole text.toList := by
  have written : ∀ ending, normalise nfc (String.ofList (reencode ending text.toList)) =
      String.ofList (canon nfc (read false false text.toList)) := by
    intro ending
    rw [normalise_canon,String.toList_ofList,read_reencode]
  constructor
  · intro canonical
    have same := canonical.reencoded .lf
    rw [written,normalise_canon] at same
    exact (whole_iff laws _).mp (String.ofList_injective same).symm
  · intro whole
    have reencoded : ∀ ending, normalise nfc (String.ofList (reencode ending text.toList)) = normalise nfc text := by
      intro ending
      rw [written,normalise_canon,(whole_iff laws _).mpr whole]
    refine {idempotent := normalise_normalise laws text,reencoded,marked := ?_,padded := ?_,framed := ?_,recognised := ?_}
    · intro marked same
      rw [normalise_canon,normalise_canon,← (read_joined _).1,← (read_joined _).1,same]
    · intro padded padding
      have same := (normalise_padded laws whole padding).2
      rwa [String.ofList_toList] at same
    · intro framed framing
      have same := normalise_framed laws framing
      rwa [String.ofList_toList] at same
    · intro φ instruments ties storable submission space records again ending composed content
      refine ingest_unchanged again ?_
      rw [content,composed]
      exact reencoded ending

section Laboratory

/-- ASCII is composed as it stands. -/
theorem composing_id : Composing id where
  idempotent _ := rfl
  part _ _ _ _ := rfl
  lineFeed _ _ := rfl
  space char blank := ⟨char,blank,Iff.rfl,fun _ => rfl⟩
  shown _ some := some
  foreign _ _ _ member := member

theorem whole_of_unmarked {text : List Char} (unmarked : mark ∉ text) : Whole text := by
  rintro before behind ⟨marks,some,all,rfl⟩
  obtain ⟨first,rest,rfl⟩ := List.exists_cons_of_ne_nil some
  have same := all first List.mem_cons_self
  exact absurd (by simp [same]) unmarked

theorem runbook_canonical : Composing id ∧ (Canonical id "# Core switch\r\nsw1\r\n" ↔ Whole "# Core switch\r\nsw1\r\n".toList) ∧
    Whole "# Core switch\r\nsw1\r\n".toList :=
  ⟨composing_id,canonical_whole composing_id _,whole_of_unmarked (by decide)⟩

/-- A mark between a carriage return and a line feed: with line feeds only the text has an empty line more. -/
theorem mark_parts_ending : Composing id ∧
    normalise id (String.ofList (reencode .lf "a\r\uFEFF\nb".toList)) ≠ normalise id "a\r\uFEFF\nb" := by
  refine ⟨composing_id,?_⟩
  decide +kernel

end Laboratory

end Acop.Knowledge
