import Acop.Coding.Spans
import Acop.Knowledge.Chunking
import Mathlib.Tactic.Common

/-! What the chunker returns covers the text and locates itself in it. -/
namespace Acop.Knowledge

variable {chars : List Char} {start stop : Nat}

/-- The position holds a character that is not whitespace. -/
def Shown (chars : List Char) (x : Nat) : Prop := ∃ char, chars[x]? = some char ∧ isSpace char = false

structure Chunked (text : String) (settings : ChunkerParams) (chunks : List Chunk) : Prop where
  ordinals : chunks.map Chunk.ordinal = (List.range chunks.length).map Int.ofNat
  located : ∀ chunk ∈ chunks, ∃ start stop : Nat, chunk.charStart = start ∧ chunk.charEnd = stop ∧
    start ≤ stop ∧ stop ≤ text.length ∧ chunk.content.toList = slice text.toList start stop
  nonempty : ∀ chunk ∈ chunks, chunk.content ≠ ""
  bounded : ∀ chunk ∈ chunks, chunk.tokenEstimate ≤ settings.maxTokens
  complete : ∀ x, Shown text.toList x → ∃ chunk ∈ chunks, chunk.charStart ≤ x ∧ x < chunk.charEnd

section Slices

theorem slice_get (chars : List Char) (start stop x : Nat) :
    (slice chars start stop)[x]? = if start + x < stop then chars[start + x]? else none := by
  rw [slice,List.getElem?_drop,List.getElem?_take]

theorem slice_length (chars : List Char) (start stop : Nat) :
    (slice chars start stop).length = min stop chars.length - start := by
  rw [slice,List.length_drop,List.length_take]

theorem slice_append (chars : List Char) (start stop : Nat) :
    chars.drop start = slice chars start stop ++ (chars.drop start).drop (stop - start) := by
  rw [slice,List.drop_take]
  exact (List.take_append_drop (stop - start) (chars.drop start)).symm

theorem slice_drop (chars : List Char) (start stop more : Nat) :
    (slice chars start stop).drop more = slice chars (start + more) stop := by
  rw [slice,List.drop_drop]
  rfl

theorem Shown.lt {x : Nat} (shown : Shown chars x) : x < chars.length := by
  obtain ⟨char,found,_⟩ := shown
  exact (List.getElem?_eq_some_iff.mp found).1

theorem unmarked_of_blank (blank : isBlank (slice chars start stop) = true) : Unmarked (Shown chars) start stop := by
  rintro x low high ⟨char,found,visible⟩
  have here : (slice chars start stop)[x - start]? = some char := by
    rw [slice_get,show start + (x - start) = x by omega,if_pos high,found]
  have space := List.all_eq_true.mp blank char (List.mem_of_getElem? here)
  rw [space] at visible
  cases visible

theorem shown_of_not_blank (visible : isBlank chars = false) : ∃ x, Shown chars x := by
  obtain ⟨char,member,plain⟩ := List.all_eq_false.mp visible
  obtain ⟨x,found⟩ := List.getElem?_of_mem member
  exact ⟨x,char,found,by simpa using plain⟩

end Slices

section Sections

theorem sectionsFrom_covers (chars : List Char) (lines : List (List Char)) (fence : Option FenceMarker) (path : List String)
    (sectionStart offset : Nat) : Covers (Shown chars) sectionStart
      ((sectionsFrom chars.length fence path sectionStart offset lines).map Piece.range) chars.length := by
  have past : ∀ {position}, chars.length ≤ position → ∀ {stop}, Unmarked (Shown chars) position stop :=
    fun beyond _ x low _ shown => absurd shown.lt (by omega)
  induction lines generalizing fence path sectionStart offset with
  | nil =>
    rw [sectionsFrom]
    split
    · exact ⟨Unmarked.of_le le_rfl,Unmarked.of_le le_rfl⟩
    · exact Unmarked.of_le (by omega)
  | cons line rest ih =>
    simp only [sectionsFrom]
    split
    · exact ih ..
    split
    · exact ih ..
    split
    · exact ih ..
    · rename_i depth title _
      rw [List.map_append]
      have later := ih fence (descend path depth title) offset (offset + (line.length + 1))
      split
      · have here : Unmarked (Shown chars) (min offset chars.length) offset := by
          by_cases inside : offset ≤ chars.length
          · exact Unmarked.of_le (by omega)
          · exact past (by omega)
        exact Covers.append ⟨Unmarked.of_le le_rfl,here⟩ later
      · exact later.earlier (Unmarked.of_le (by omega))

theorem sections_cover (chars : List Char) :
    Covers (Shown chars) 0 ((sections chars).map Piece.range) chars.length := by
  have all := sectionsFrom_covers chars (chars.splitOn '\n') none [] 0 0
  have kept := all.filter (fun span => !isBlank (slice chars span.1 span.2)) fun span _ blank =>
    unmarked_of_blank (by simpa using blank)
  rw [List.filter_map] at kept
  exact kept

end Sections

section Paragraphs

/-- Reading the lines from the offset on, a blank line stands where no character is shown, and only the
last line may reach the end. -/
def Laid (marked : Nat → Prop) (stop : Nat) : Nat → List (List Char) → Prop
  | _,[] => True
  | cursor,line::rest => (isBlank line = true → Unmarked marked cursor (min (cursor + (line.length + 1)) stop)) ∧
      (rest = [] ∨ cursor + (line.length + 1) ≤ stop) ∧ Laid marked stop (cursor + (line.length + 1)) rest

theorem laid_of_intercalate (line : List Char) (rest : List (List Char)) {cursor : Nat}
    (joined : List.intercalate ['\n'] (line::rest) = slice chars cursor stop) :
    Laid (Shown chars) stop cursor (line::rest) := by
  induction rest generalizing line cursor with
  | nil =>
    rw [List.intercalate_singleton] at joined
    refine ⟨fun blank x low high => ?_,.inl rfl,trivial⟩
    rw [joined] at blank
    exact unmarked_of_blank blank x low (by omega)
  | cons second rest ih =>
    rw [List.intercalate_cons_cons,List.append_assoc] at joined
    refine ⟨?_,.inr ?_,ih second ?_⟩
    · rintro blank x low high ⟨char,found,visible⟩
      have here : (line ++ (['\n'] ++ List.intercalate ['\n'] (second::rest)))[x - cursor]? = some char := by
        rw [joined,slice_get,show cursor + (x - cursor) = x by omega,if_pos (by omega),found]
      by_cases inLine : x - cursor < line.length
      · rw [List.getElem?_append_left inLine] at here
        have space := List.all_eq_true.mp blank char (List.mem_of_getElem? here)
        rw [space] at visible
        cases visible
      · rw [List.getElem?_append_right (by omega),show x - cursor - line.length = 0 by omega] at here
        cases here
        cases visible
    · have lengths := congrArg List.length joined
      rw [slice_length] at lengths
      simp only [List.length_append,List.length_singleton] at lengths
      omega
    · have dropped := congrArg (List.drop (line.length + 1)) joined
      rw [slice_drop,← List.drop_drop,List.drop_left] at dropped
      exact dropped

theorem paragraphsFrom_covers {marked : Nat → Prop} (lines : List (List Char)) (fence : Option FenceMarker)
    {blockStart cursor : Nat} (laid : Laid marked stop cursor lines) :
    Covers marked blockStart (paragraphsFrom stop fence blockStart cursor lines) stop := by
  induction lines generalizing fence blockStart cursor with
  | nil =>
    rw [paragraphsFrom]
    split
    · exact ⟨Unmarked.of_le le_rfl,Unmarked.of_le le_rfl⟩
    · exact Unmarked.of_le (by omega)
  | cons line rest ih =>
    obtain ⟨blank,only,later⟩ := laid
    simp only [paragraphsFrom]
    split
    · exact ih _ later
    split
    · rename_i closes
      simp only [Bool.and_eq_true] at closes
      refine ⟨Unmarked.of_le le_rfl,?_⟩
      have gap := blank closes.1.2
      rcases only with rfl | inside
      · -- the separator of the last line lies beyond the end, where a block could not start
        by_cases ends : cursor + (line.length + 1) < stop
        · rw [min_eq_left ends.le] at gap
          exact (ih fence later).earlier gap
        · rw [min_eq_right (by omega)] at gap
          rw [paragraphsFrom,if_neg ends]
          exact gap
      · rw [min_eq_left inside] at gap
        exact (ih fence later).earlier gap
    · exact ih _ later

theorem paragraphSpans_cover (chars : List Char) (start stop : Nat) :
    Covers (Shown chars) start (paragraphSpans chars start stop) stop := by
  have laid : Laid (Shown chars) stop start ((slice chars start stop).splitOn '\n') := by
    cases lines : (slice chars start stop).splitOn '\n' with
    | nil => trivial
    | cons line rest =>
      apply laid_of_intercalate
      rw [← lines,List.intercalate_splitOn]
  apply (paragraphsFrom_covers _ none laid).filter _
  intro span _ blank
  exact unmarked_of_blank (by simpa using blank)

end Paragraphs

section Stages

variable {marked : Nat → Prop} {targetChars overlapChars minChars maxChars : Int}

theorem packFrom_covers {paragraphs : List (Nat × Nat)} {bufferStart bufferEnd : Nat}
    (covers : Covers marked start ((bufferStart,bufferEnd)::paragraphs) stop) :
    Covers marked start (packFrom targetChars overlapChars bufferStart bufferEnd paragraphs) stop := by
  induction paragraphs generalizing start bufferStart bufferEnd with
  | nil => exact covers
  | cons paragraph rest ih =>
    obtain ⟨paraStart,paraEnd⟩ := paragraph
    obtain ⟨first,gap,later⟩ := covers
    rw [packFrom]
    split
    · exact ih ⟨first,later⟩
    · -- stepping back only brings the next start forward of the gap
      refine ⟨first,ih ⟨fun x low high => gap x low ?_,later⟩⟩
      simp only at high ⊢
      omega

theorem pack_covers {paragraphs : List (Nat × Nat)} (covers : Covers marked start paragraphs stop) :
    Covers marked start (pack targetChars overlapChars paragraphs) stop := by
  cases paragraphs with
  | nil => exact covers
  | cons paragraph rest => exact packFrom_covers covers

theorem rawPieces_cover (targetChars overlapChars : Int) (chars : List Char) :
    Covers (Shown chars) 0 ((rawPieces targetChars overlapChars chars).map Piece.range) chars.length := by
  have packed := (sections_cover chars).flatMap
    (fun span => pack targetChars overlapChars (paragraphSpans chars span.1 span.2))
    fun span _ => pack_covers (paragraphSpans_cover chars span.1 span.2)
  rw [List.flatMap_map] at packed
  rw [rawPieces,List.map_flatMap]
  simpa only [List.map_map,Function.comp_def,Piece.range,List.map_id'] using packed

def Piece.Fits (maxChars : Int) (piece : Piece) : Prop := (piece.stop : Int) - piece.start ≤ maxChars

theorem hardSplit_covers (marked : Nat → Prop) (positive : 1 ≤ maxChars) (path : List String) {rounds cursor : Nat}
    (enough : stop - cursor < rounds) : ∃ pieces, hardSplit maxChars path rounds cursor stop = some pieces ∧
      Covers marked cursor (pieces.map Piece.range) stop ∧ ∀ piece ∈ pieces, piece.Fits maxChars := by
  induction rounds generalizing cursor with
  | zero => omega
  | succ rounds ih =>
    rw [hardSplit]
    split
    · have nearer : stop - (cursor + maxChars.toNat) < rounds := by omega
      obtain ⟨pieces,ends,covers,fit⟩ := ih nearer
      rw [ends]
      refine ⟨_,rfl,⟨Unmarked.of_le le_rfl,covers⟩,?_⟩
      intro piece member
      rcases List.mem_cons.mp member with rfl | later
      · simp only [Piece.Fits]
        omega
      · exact fit piece later
    · refine ⟨_,rfl,?_⟩
      split
      · refine ⟨⟨Unmarked.of_le le_rfl,Unmarked.of_le le_rfl⟩,?_⟩
        intro piece member
        obtain rfl := List.mem_singleton.mp member
        simp only [Piece.Fits]
        omega
      · exact ⟨Unmarked.of_le (by omega),by simp⟩

theorem bound_covers (positive : 1 ≤ maxChars) {pieces : List Piece}
    (covers : Covers marked start (pieces.map Piece.range) stop) : ∃ bounded, bound maxChars pieces = some bounded ∧
      Covers marked start (bounded.map Piece.range) stop ∧ ∀ piece ∈ bounded, piece.Fits maxChars := by
  induction pieces generalizing start with
  | nil => exact ⟨[],rfl,covers,by simp⟩
  | cons piece rest ih =>
    obtain ⟨gap,later⟩ := covers
    obtain ⟨here,ends,covered,fit⟩ := hardSplit_covers marked positive piece.headingPath
      (Nat.lt_succ_self (piece.stop - piece.start))
    obtain ⟨others,others',coveredOthers,fitOthers⟩ := ih later
    refine ⟨here ++ others,?_,?_,?_⟩
    · rw [bound,show piece.stop - piece.start + 1 = (piece.stop - piece.start).succ from rfl,ends,others']
      rfl
    · rw [List.map_append]
      exact (covered.earlier gap).append coveredOthers
    · intro other member
      rcases List.mem_append.mp member with early | late
      · exact fit other early
      · exact fitOthers other late

theorem mergeFrom_fits {last : Piece} {pieces : List Piece} (fits : last.Fits maxChars)
    (fit : ∀ piece ∈ pieces, piece.Fits maxChars) : ∀ piece ∈ mergeFrom minChars maxChars last pieces, piece.Fits maxChars := by
  induction pieces generalizing last with
  | nil =>
    intro piece member
    obtain rfl := List.mem_singleton.mp member
    exact fits
  | cons next rest ih =>
    rw [mergeFrom]
    have others := fun piece member => fit piece (List.mem_cons_of_mem next member)
    split
    · rename_i joins
      exact ih joins.2.2 others
    · intro piece member
      rcases List.mem_cons.mp member with rfl | later
      · exact fits
      · exact ih (fit next List.mem_cons_self) others piece later

/-- A merge may move the end of the last piece backwards, where the next pieces overlap it: what it gives
up, they have. -/
theorem mergeFrom_finds {last : Piece} {pieces : List Piece} (covers : Covers marked last.stop (pieces.map Piece.range) stop)
    {x : Nat} (low : last.start ≤ x) (high : x < stop) (isMarked : marked x) :
    ∃ piece ∈ mergeFrom minChars maxChars last pieces, piece.start ≤ x ∧ x < piece.stop := by
  induction pieces generalizing last with
  | nil =>
    have inside : x < last.stop := by
      by_contra beyond
      exact covers x (by omega) high isMarked
    exact ⟨last,List.mem_cons_self,low,inside⟩
  | cons next rest ih =>
    obtain ⟨gap,later⟩ := covers
    rw [mergeFrom]
    split
    · exact @ih ⟨last.headingPath,last.start,next.stop⟩ later low
    · by_cases inside : x < last.stop
      · exact ⟨last,List.mem_cons_self,low,inside⟩
      have reached : next.start ≤ x := by
        by_contra early
        exact gap x (by omega) (by simpa only [Piece.range] using (by omega : x < next.start)) isMarked
      obtain ⟨piece,member,within⟩ := @ih next later reached
      exact ⟨piece,List.mem_cons_of_mem last member,within⟩

theorem merge_fits {pieces : List Piece} (fit : ∀ piece ∈ pieces, piece.Fits maxChars) :
    ∀ piece ∈ merge minChars maxChars pieces, piece.Fits maxChars := by
  cases pieces with
  | nil => simp [merge]
  | cons piece rest =>
    exact mergeFrom_fits (fit piece List.mem_cons_self) fun other member => fit other (List.mem_cons_of_mem piece member)

theorem merge_finds {pieces : List Piece} (covers : Covers marked start (pieces.map Piece.range) stop)
    {x : Nat} (low : start ≤ x) (high : x < stop) (isMarked : marked x) :
    ∃ piece ∈ merge minChars maxChars pieces, piece.start ≤ x ∧ x < piece.stop := by
  cases pieces with
  | nil => exact absurd isMarked (covers x low high)
  | cons piece rest =>
    have reached : piece.start ≤ x := by
      by_contra early
      exact covers.1 x low (by simpa only [Piece.range] using (by omega : x < piece.start)) isMarked
    exact mergeFrom_finds covers.2 reached high isMarked

end Stages

section Content

theorem isSpace_newline : isSpace '\n' = true := by decide

theorem blank_of_newlines {characters : List Char} (newlines : ∀ char ∈ characters, char = '\n') :
    isBlank characters = true := by
  apply List.all_eq_true.mpr
  intro char member
  rw [newlines char member,isSpace_newline]

theorem stripLines_split (characters : List Char) : ∃ lead trail,
    characters = lead ++ (stripLines characters ++ trail) ∧ (∀ char ∈ lead, char = '\n') ∧
      (∀ char ∈ trail, char = '\n') ∧ (stripLines characters).head? ≠ some '\n' := by
  refine ⟨characters.takeWhile (· = '\n'),(characters.dropWhile (· = '\n')).rtakeWhile (· = '\n'),?_,?_,?_,?_⟩
  · rw [stripLines,List.rdropWhile_append_rtakeWhile,List.takeWhile_append_dropWhile]
  · intro char member
    simpa using List.mem_takeWhile_imp member
  · intro char member
    simpa using List.mem_rtakeWhile_imp member
  · intro newline
    obtain ⟨rest,joined⟩ := List.rdropWhile_prefix (· = '\n') (characters.dropWhile (· = '\n'))
    have first := List.head?_dropWhile_not (fun char : Char => decide (char = '\n')) characters
    change (stripLines characters) ++ rest = _ at joined
    rw [← joined,List.head?_append,newline] at first
    simp at first

theorem index_after {lead content : List Char} (rest : List Char) (newlines : ∀ char ∈ lead, char = '\n')
    (visible : content ≠ []) (first : content.head? ≠ some '\n') :
    index content (lead ++ (content ++ rest)) = some lead.length := by
  obtain ⟨head,tail,rfl⟩ := List.exists_cons_of_ne_nil visible
  induction lead with
  | nil =>
    have whole : (head::tail).isPrefixOf (head::(tail ++ rest)) = true :=
      List.isPrefixOf_iff_prefix.mpr ⟨rest,rfl⟩
    exact if_pos whole
  | cons char lead ih =>
    obtain rfl := newlines char List.mem_cons_self
    have other : (head::tail).isPrefixOf ('\n'::(lead ++ ((head::tail) ++ rest))) = false := by
      have differs : head ≠ '\n' := fun same => first (congrArg some same)
      simp [List.isPrefixOf,differs]
    rw [List.cons_append,index,other,ih fun other member => newlines other (List.mem_cons_of_mem _ member)]
    rfl

theorem piece_split {piece : Piece} (visible : isBlank (pieceContent chars piece) = false) : ∃ lead trail,
    slice chars piece.start piece.stop = lead ++ (pieceContent chars piece ++ trail) ∧
      (∀ char ∈ lead, char = '\n') ∧ (∀ char ∈ trail, char = '\n') ∧
        pieceOffset chars piece = piece.start + lead.length := by
  obtain ⟨lead,trail,split,leading,trailing,first⟩ := stripLines_split (slice chars piece.start piece.stop)
  change _ = lead ++ (pieceContent chars piece ++ trail) at split
  have nonempty : pieceContent chars piece ≠ [] := by
    intro empty
    rw [empty] at visible
    cases visible
  refine ⟨lead,trail,split,leading,trailing,?_⟩
  have inside : index (pieceContent chars piece) (slice chars piece.start piece.stop) = some lead.length := by
    conv_lhs => rw [split]
    exact index_after trail leading nonempty first
  have found : index (pieceContent chars piece) (chars.drop piece.start) = some lead.length := by
    rw [slice_append chars piece.start piece.stop,split,List.append_assoc,List.append_assoc]
    exact index_after _ leading nonempty first
  rw [pieceOffset]
  simp only [inside,found,Option.isSome_some,if_true,Option.getD_some]

theorem unmarked_of_blank_content {piece : Piece} (blank : isBlank (pieceContent chars piece) = true) :
    Unmarked (Shown chars) piece.start piece.stop := by
  obtain ⟨lead,trail,split,leading,trailing,_⟩ := stripLines_split (slice chars piece.start piece.stop)
  apply unmarked_of_blank
  rw [split]
  change isBlank (lead ++ (pieceContent chars piece ++ trail)) = true
  have before := blank_of_newlines leading
  have after := blank_of_newlines trailing
  simp only [isBlank,List.all_append,Bool.and_eq_true] at before after blank ⊢
  exact ⟨before,blank,after⟩

theorem piece_keeps {piece : Piece} (visible : isBlank (pieceContent chars piece) = false) {x : Nat}
    (shown : Shown chars x) (low : piece.start ≤ x) (high : x < piece.stop) :
    pieceOffset chars piece ≤ x ∧ x < pieceOffset chars piece + (pieceContent chars piece).length := by
  obtain ⟨lead,trail,split,leading,trailing,offset⟩ := piece_split visible
  obtain ⟨char,found,plain⟩ := shown
  have here : (lead ++ (pieceContent chars piece ++ trail))[x - piece.start]? = some char := by
    rw [← split,slice_get,show piece.start + (x - piece.start) = x by omega,if_pos high,found]
  have notNewline : char ≠ '\n' := by
    rintro rfl
    rw [isSpace_newline] at plain
    cases plain
  rw [offset]
  by_cases early : x - piece.start < lead.length
  · rw [List.getElem?_append_left early] at here
    exact absurd (leading char (List.mem_of_getElem? here)) notNewline
  by_cases late : x - piece.start - lead.length < (pieceContent chars piece).length
  · omega
  · rw [List.getElem?_append_right (by omega),List.getElem?_append_right (by omega)] at here
    exact absurd (trailing char (List.mem_of_getElem? here)) notNewline

theorem piece_located {piece : Piece} (visible : isBlank (pieceContent chars piece) = false) :
    let offset := pieceOffset chars piece
    offset + (pieceContent chars piece).length ≤ chars.length ∧
      pieceContent chars piece = slice chars offset (offset + (pieceContent chars piece).length) := by
  obtain ⟨lead,trail,split,_,_,offset⟩ := piece_split visible
  have dropped : chars.drop (pieceOffset chars piece) =
      pieceContent chars piece ++ (trail ++ (chars.drop piece.start).drop (piece.stop - piece.start)) := by
    have whole := congrArg (List.drop lead.length) (slice_append chars piece.start piece.stop)
    rw [split,List.append_assoc,List.drop_left,List.append_assoc,List.drop_drop] at whole
    rw [offset]
    exact whole
  have lengths := congrArg List.length dropped
  rw [List.length_drop,List.length_append] at lengths
  have nonempty : 0 < (pieceContent chars piece).length := by
    apply List.length_pos_of_ne_nil
    intro empty
    rw [empty] at visible
    cases visible
  refine ⟨by omega,?_⟩
  rw [slice,List.drop_take,Nat.add_sub_cancel_left,dropped,List.take_left]

theorem piece_short {piece : Piece} (visible : isBlank (pieceContent chars piece) = false) {limit : Int}
    (fits : piece.Fits (limit * charsPerToken)) : ((pieceContent chars piece).length : Int) ≤ limit * charsPerToken := by
  obtain ⟨lead,trail,split,_⟩ := piece_split visible
  have lengths := congrArg List.length split
  rw [slice_length,List.length_append,List.length_append] at lengths
  simp only [Piece.Fits] at fits
  have nonempty : 0 < (pieceContent chars piece).length := by
    apply List.length_pos_of_ne_nil
    intro empty
    rw [empty] at visible
    cases visible
  omega

theorem estimateTokens_le {text : String} {limit : Int} (positive : 1 ≤ limit)
    (short : (text.length : Int) ≤ limit * charsPerToken) : estimateTokens text ≤ limit := by
  simp only [estimateTokens,charsPerToken] at short ⊢
  omega

end Content

section Chunks

theorem mem_chunksFrom {count : Nat} {pieces : List Piece} {chunk : Chunk} (member : chunk ∈ chunksFrom chars count pieces) :
    ∃ piece ∈ pieces, isBlank (pieceContent chars piece) = false ∧ ∃ ordinal, chunk = piece.chunk chars ordinal := by
  induction pieces generalizing count with
  | nil => cases member
  | cons piece rest ih =>
    rw [chunksFrom] at member
    split at member
    · obtain ⟨other,inRest,is⟩ := ih member
      exact ⟨other,List.mem_cons_of_mem piece inRest,is⟩
    · rename_i visible
      rcases List.mem_cons.mp member with rfl | later
      · exact ⟨piece,List.mem_cons_self,by simpa using visible,count,rfl⟩
      · obtain ⟨other,inRest,is⟩ := ih later
        exact ⟨other,List.mem_cons_of_mem piece inRest,is⟩

theorem chunksFrom_mem (count : Nat) {pieces : List Piece} {piece : Piece} (member : piece ∈ pieces)
    (visible : isBlank (pieceContent chars piece) = false) :
    ∃ ordinal, piece.chunk chars ordinal ∈ chunksFrom chars count pieces := by
  induction pieces generalizing count with
  | nil => cases member
  | cons head rest ih =>
    rw [chunksFrom]
    rcases List.mem_cons.mp member with rfl | later
    · rw [visible]
      exact ⟨count,List.mem_cons_self⟩
    · split
      · exact ih count later
      · obtain ⟨ordinal,inRest⟩ := ih (count + 1) later
        exact ⟨ordinal,List.mem_cons_of_mem _ inRest⟩

theorem chunksFrom_ordinals (chars : List Char) (count : Nat) (pieces : List Piece) :
    (chunksFrom chars count pieces).map Chunk.ordinal =
      (List.range' count (chunksFrom chars count pieces).length).map Int.ofNat := by
  induction pieces generalizing count with
  | nil => rfl
  | cons piece rest ih =>
    rw [chunksFrom]
    split
    · exact ih count
    · rw [List.map_cons,List.length_cons,List.range'_succ,List.map_cons,ih (count + 1)]
      rfl

theorem chunked_of_pieces {text : String} {settings : ChunkerParams} {pieces : List Piece}
    (positive : 1 ≤ settings.maxTokens) (fit : ∀ piece ∈ pieces, piece.Fits (settings.maxTokens * charsPerToken))
    (finds : ∀ x, Shown text.toList x → ∃ piece ∈ pieces, piece.start ≤ x ∧ x < piece.stop) :
    Chunked text settings (chunksFrom text.toList 0 pieces) := by
  constructor
  case ordinals =>
    rw [chunksFrom_ordinals,List.range_eq_range']
  case located =>
    intro chunk member
    obtain ⟨piece,_,visible,ordinal,rfl⟩ := mem_chunksFrom member
    obtain ⟨inside,located⟩ := piece_located visible
    refine ⟨_,_,rfl,rfl,by omega,inside.trans_eq String.length_toList,?_⟩
    rw [← located]
    exact String.toList_ofList
  case nonempty =>
    intro chunk member empty
    obtain ⟨piece,_,visible,ordinal,rfl⟩ := mem_chunksFrom member
    have none := congrArg String.toList empty
    rw [Piece.chunk,String.toList_ofList] at none
    rw [none] at visible
    cases visible
  case bounded =>
    intro chunk member
    obtain ⟨piece,inPieces,visible,ordinal,rfl⟩ := mem_chunksFrom member
    apply estimateTokens_le positive
    rw [String.length_ofList]
    exact piece_short visible (fit piece inPieces)
  case complete =>
    intro x shown
    obtain ⟨piece,inPieces,low,high⟩ := finds x shown
    have visible : isBlank (pieceContent text.toList piece) = false := by
      by_contra blank
      exact unmarked_of_blank_content (by simpa using blank) x low high shown
    obtain ⟨ordinal,member⟩ := chunksFrom_mem 0 inPieces visible
    obtain ⟨reached,within⟩ := piece_keeps visible shown low high
    refine ⟨_,member,?_,?_⟩
    · exact Int.ofNat_le.mpr reached
    · exact Int.ofNat_lt.mpr within

theorem chunkDocument_pieces (text : String) {settings : ChunkerParams} (positive : 1 ≤ settings.maxTokens) :
    ∃ pieces, chunkDocument text settings = some (chunksFrom text.toList 0 pieces) ∧
      Chunked text settings (chunksFrom text.toList 0 pieces) := by
  have ceiling : 1 ≤ settings.maxTokens * (charsPerToken : Int) := by
    simp only [charsPerToken]
    omega
  obtain ⟨bounded,ends,covers,fit⟩ := bound_covers ceiling
    (rawPieces_cover (settings.targetTokens * charsPerToken) (settings.overlapTokens * charsPerToken) text.toList)
  have chunked : Chunked text settings (chunksFrom text.toList 0
      (merge (settings.minTokens * charsPerToken) (settings.maxTokens * charsPerToken) bounded)) :=
    chunked_of_pieces positive (merge_fits fit) fun x shown => merge_finds covers (Nat.zero_le x) shown.lt shown
  refine ⟨_,?_,chunked⟩
  have whole : ((chunksFrom text.toList 0 (merge (settings.minTokens * charsPerToken)
      (settings.maxTokens * charsPerToken) bounded)).isEmpty && !isBlank text.toList) = false := by
    by_contra fallback
    simp only [Bool.and_eq_false_iff,not_or,Bool.not_eq_false,List.isEmpty_iff,Bool.not_eq_true'] at fallback
    obtain ⟨empty,visible⟩ := fallback
    obtain ⟨x,char,found,plain⟩ := shown_of_not_blank visible
    obtain ⟨chunk,member,_⟩ := chunked.complete x ⟨char,found,plain⟩
    rw [empty] at member
    cases member
  simp only [chunkDocument,ends,Option.bind_eq_bind,Option.bind_some,whole]
  rfl

theorem Chunked.placed {text : String} {settings : ChunkerParams} {chunks : List Chunk} (chunked : Chunked text settings chunks)
    {chunk : Chunk} (member : chunk ∈ chunks) : chunk.charStart < chunk.charEnd ∧ 0 ≤ chunk.ordinal := by
  obtain ⟨start,stop,starts,stops,ordered,_,content⟩ := chunked.located chunk member
  constructor
  · rw [starts,stops,Int.ofNat_lt]
    refine lt_of_le_of_ne ordered fun same => chunked.nonempty chunk member (String.toList_eq_nil_iff.mp ?_)
    apply List.eq_nil_of_length_eq_zero
    rw [content,slice_length]
    omega
  · have numbered : chunk.ordinal ∈ chunks.map Chunk.ordinal := List.mem_map_of_mem member
    rw [chunked.ordinals] at numbered
    obtain ⟨count,_,same⟩ := List.mem_map.mp numbered
    rw [← same]
    exact Int.natCast_nonneg count

theorem Instruments.chunked (instruments : Instruments) (text : String) :
    Knowledge.chunkDocument text instruments.chunkerParams = some (instruments.chunkDocument text) ∧
      Chunked text instruments.chunkerParams (instruments.chunkDocument text) := by
  obtain ⟨pieces,returned,chunked⟩ := chunkDocument_pieces text instruments.chunkerParams_pos
  rw [Instruments.chunkDocument,returned]
  exact ⟨rfl,chunked⟩

/-- The chunker returns, and its chunks say where they stand and leave no character out. -/
theorem chunkDocument_faithful (text : String) (settings : ChunkerParams) (positive : 1 ≤ settings.maxTokens) :
    ∃ chunks, chunkDocument text settings = some chunks ∧ Chunked text settings chunks := by
  obtain ⟨pieces,returned,chunked⟩ := chunkDocument_pieces text positive
  exact ⟨_,returned,chunked⟩

/-- A text with a heading, a fence and a run longer than the ceiling, cut with a large overlap. -/
theorem chunkDocument_faithful_lab :
    ∃ chunks, chunkDocument "# A\n\n~~~\n# not\n~~~\n\nabcdefghijklmnopqrstuvwxyz" ⟨2,9,3,4⟩ = some chunks ∧
      Chunked "# A\n\n~~~\n# not\n~~~\n\nabcdefghijklmnopqrstuvwxyz" ⟨2,9,3,4⟩ chunks :=
  chunkDocument_faithful _ ⟨2,9,3,4⟩ (by decide)

example : chunkDocument "# A\n\nabcdefghijk" ⟨1,1,0,2⟩ =
    some [⟨0,"# A",0,3,1,["A"]⟩,⟨1,"# A\n\nabc",0,8,2,["A"]⟩,⟨2,"defghijk",8,16,2,["A"]⟩] := by decide +kernel

end Chunks

end Acop.Knowledge
