import Acop.Knowledge.Screening

/-! `services/knowledge/chunking.py`: the chunker. A text is the list of its characters, a
position in it a natural number. -/
namespace Acop.Knowledge

section Text

/-- `text[start:stop]`. -/
def slice (chars : List Char) (start stop : Nat) : List Char := (chars.take stop).drop start

/-- `not text.strip()`. -/
def isBlank (chars : List Char) : Bool := chars.all isSpace

/-- `text.strip("\n")`. -/
def stripLines (chars : List Char) : List Char := (chars.dropWhile (· = '\n')).rdropWhile (· = '\n')

/-- `text.index(content)`, `none` where it raises `ValueError`. -/
def index (content : List Char) : List Char → Option Nat
  | [] => if content = [] then some 0 else none
  | char::rest => if content.isPrefixOf (char::rest) then some 0 else (index content rest).map (· + 1)

end Text

section Markdown

/-- The group of `_FENCE`. -/
inductive FenceMarker where
  | backticks
  | tildes
  deriving DecidableEq

def FenceMarker.text : FenceMarker → String
  | .backticks => "```"
  | .tildes => "~~~"

/-- `_FENCE.match`. -/
def fenceMatch (line : List Char) : Option FenceMarker :=
  [FenceMarker.backticks,FenceMarker.tildes].find? fun marker => marker.text.toList.isPrefixOf (line.dropWhile isSpace)

/-- The fence after a line that carries a marker; only the marker that opened it closes it. -/
def toggle (marker : FenceMarker) : Option FenceMarker → Option FenceMarker
  | none => some marker
  | some opened => if marker = opened then none else some opened

/-- The second group of `_HEADING`, stripped: the shortest text before `\s*#*\s*$`. -/
def headingTitle (rest : List Char) : String :=
  strip (String.ofList (((rest.rdropWhile isSpace).rdropWhile (· = '#')).rdropWhile isSpace))

/-- `_HEADING.match`: the depth and the title. -/
def headingMatch (line : List Char) : Option (Nat × String) :=
  let depth := (line.takeWhile (· = '#')).length
  let rest := line.dropWhile (· = '#')
  if 1 ≤ depth && depth ≤ 6 && rest.head?.any isSpace then some (depth,headingTitle (rest.dropWhile isSpace)) else none

def descend (path : List String) (depth : Nat) (title : String) : List String :=
  path.take (depth - 1) ++ List.replicate (depth - 1 - path.length) "" ++ [title]

end Markdown

/-- A `_Section`, and the triples that `chunk_document` carries from stage to stage. -/
structure Piece where
  headingPath : List String
  start : Nat
  stop : Nat
  deriving DecidableEq

def Piece.range (piece : Piece) : Nat × Nat := (piece.start,piece.stop)

section Sections

/-- The loop of `_sections`; `offset` is the offset of the first of the lines. -/
def sectionsFrom (length : Nat) (fence : Option FenceMarker) (path : List String) (sectionStart offset : Nat) :
    List (List Char) → List Piece
  | [] => if sectionStart < length then [⟨path,sectionStart,length⟩] else []
  | line::rest =>
    let next := offset + (line.length + 1)
    match fenceMatch line with
    | some marker => sectionsFrom length (toggle marker fence) path sectionStart next rest
    | none =>
      if fence.isSome then sectionsFrom length fence path sectionStart next rest
      else
        match headingMatch line with
        | none => sectionsFrom length fence path sectionStart next rest
        | some (depth,title) =>
          (if sectionStart < offset then [⟨path,sectionStart,min offset length⟩] else []) ++
            sectionsFrom length fence (descend path depth title) offset next rest

def sections (chars : List Char) : List Piece :=
  (sectionsFrom chars.length none [] 0 0 (chars.splitOn '\n')).filter fun piece =>
    !isBlank (slice chars piece.start piece.stop)

/-- The loop of `_paragraph_spans`. -/
def paragraphsFrom (stop : Nat) (fence : Option FenceMarker) (blockStart cursor : Nat) : List (List Char) → List (Nat × Nat)
  | [] => if blockStart < stop then [(blockStart,stop)] else []
  | line::rest =>
    let next := cursor + (line.length + 1)
    match fenceMatch line with
    | some marker => paragraphsFrom stop (toggle marker fence) blockStart next rest
    | none =>
      if fence.isNone && isBlank line && blockStart < cursor then
        (blockStart,cursor)::paragraphsFrom stop fence next next rest
      else paragraphsFrom stop fence blockStart next rest

def paragraphSpans (chars : List Char) (start stop : Nat) : List (Nat × Nat) :=
  (paragraphsFrom stop none start start ((slice chars start stop).splitOn '\n')).filter fun span =>
    !isBlank (slice chars span.1 span.2)

end Sections

section Stages

/-- The paragraphs after the first, the buffer holding what was not emitted yet. -/
def packFrom (targetChars overlapChars : Int) (bufferStart bufferEnd : Nat) : List (Nat × Nat) → List (Nat × Nat)
  | [] => [(bufferStart,bufferEnd)]
  | (paraStart,paraEnd)::rest =>
    if (paraEnd : Int) - bufferStart ≤ targetChars then packFrom targetChars overlapChars bufferStart paraEnd rest
    else
      let back := max (bufferStart : Int) (bufferEnd - overlapChars)
      (bufferStart,bufferEnd)::packFrom targetChars overlapChars (min back paraStart).toNat paraEnd rest

def pack (targetChars overlapChars : Int) : List (Nat × Nat) → List (Nat × Nat)
  | [] => []
  | (paraStart,paraEnd)::rest => packFrom targetChars overlapChars paraStart paraEnd rest

def rawPieces (targetChars overlapChars : Int) (chars : List Char) : List Piece :=
  (sections chars).flatMap fun part =>
    (pack targetChars overlapChars (paragraphSpans chars part.start part.stop)).map fun span =>
      ⟨part.headingPath,span.1,span.2⟩

/-- The `while` loop over one piece, `none` when it has not ended after so many rounds. A ceiling that is
not positive brings the cursor no closer to the end. -/
def hardSplit (maxChars : Int) (path : List String) : (rounds cursor stop : Nat) → Option (List Piece)
  | 0,_,_ => none
  | rounds + 1,cursor,stop =>
    if maxChars < (stop : Int) - cursor then
      (hardSplit maxChars path rounds (cursor + maxChars.toNat) stop).map
        (⟨path,cursor,cursor + maxChars.toNat⟩::·)
    else some (if cursor < stop then [⟨path,cursor,stop⟩] else [])

def bound (maxChars : Int) : List Piece → Option (List Piece)
  | [] => some []
  | piece::rest => do
    let here ← hardSplit maxChars piece.headingPath (piece.stop - piece.start + 1) piece.start piece.stop
    let later ← bound maxChars rest
    return here ++ later

/-- `last` is `merged[-1]`. -/
def mergeFrom (minChars maxChars : Int) (last : Piece) : List Piece → List Piece
  | [] => [last]
  | piece::rest =>
    if (piece.stop : Int) - piece.start < minChars ∧ last.headingPath = piece.headingPath ∧
        (piece.stop : Int) - last.start ≤ maxChars then
      mergeFrom minChars maxChars ⟨last.headingPath,last.start,piece.stop⟩ rest
    else last::mergeFrom minChars maxChars piece rest

def merge (minChars maxChars : Int) : List Piece → List Piece
  | [] => []
  | piece::rest => mergeFrom minChars maxChars piece rest

end Stages

section Chunks

def pieceContent (chars : List Char) (piece : Piece) : List Char := stripLines (slice chars piece.start piece.stop)

def pieceOffset (chars : List Char) (piece : Piece) : Nat :=
  let content := pieceContent chars piece
  if (index content (slice chars piece.start piece.stop)).isSome then
    piece.start + (index content (chars.drop piece.start)).getD 0
  else piece.start

def Piece.chunk (chars : List Char) (piece : Piece) (ordinal : Nat) : Chunk :=
  let content := pieceContent chars piece
  { ordinal
    content := String.ofList content
    charStart := pieceOffset chars piece
    charEnd := (pieceOffset chars piece + content.length : Nat)
    tokenEstimate := estimateTokens (String.ofList content)
    headingPath := piece.headingPath.filter (· ≠ "") }

/-- The last loop, over the merged pieces; `count` is `len(chunks)`. -/
def chunksFrom (chars : List Char) (count : Nat) : List Piece → List Chunk
  | [] => []
  | piece::rest =>
    if isBlank (pieceContent chars piece) then chunksFrom chars count rest
    else piece.chunk chars count::chunksFrom chars (count + 1) rest

/-- What is returned for a text that has characters to show and no chunk. -/
def wholeChunk (chars : List Char) : Chunk :=
  let body := (strip (String.ofList chars)).toList
  let offset := (index body chars).getD 0
  { ordinal := 0
    content := String.ofList body
    charStart := offset
    charEnd := (offset + body.length : Nat)
    tokenEstimate := estimateTokens (String.ofList body)
    headingPath := [] }

/-- `chunk_document`, `none` where it does not return. -/
def chunkDocument (text : String) (settings : ChunkerParams := {}) : Option (List Chunk) := do
  let chars := text.toList
  let targetChars := settings.targetTokens * charsPerToken
  let maxChars := settings.maxTokens * charsPerToken
  let minChars := settings.minTokens * charsPerToken
  let overlapChars := settings.overlapTokens * charsPerToken
  let bounded ← bound maxChars (rawPieces targetChars overlapChars chars)
  let chunks := chunksFrom chars 0 (merge minChars maxChars bounded)
  return if chunks.isEmpty && !isBlank chars then [wholeChunk chars] else chunks

@[irreducible] def Instruments.chunkDocument (instruments : Instruments) (text : String) : List Chunk :=
  (Knowledge.chunkDocument text instruments.chunkerParams).getD []

end Chunks

end Acop.Knowledge
