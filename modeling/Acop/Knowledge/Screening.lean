import Acop.Knowledge.Vocabulary
import Acop.Text
import Mathlib.Data.List.DropRight

/-! `services/knowledge/chunking.py` and `screening.py`: the normalised text of a
document, and what the detectors find in it. Where the regular expressions match is a
parameter, as are the digests and the chunker. -/
namespace Acop.Knowledge

section Chunking

def chunkerName : String := "heading-recursive"

def chunkerVersion : String := "1"

def parserName : String := "markdown-plain"

def parserVersion : String := "1"

def charsPerToken : Nat := 4

structure ChunkerParams where
  targetTokens : Int := 600
  overlapTokens : Int := 80
  minTokens : Int := 100
  maxTokens : Int := 1024
  deriving DecidableEq

theorem defaultParams_pos : 1 ≤ ({} : ChunkerParams).maxTokens := by decide

structure Chunk where
  ordinal : Int
  content : String
  charStart : Int
  charEnd : Int
  tokenEstimate : Int
  headingPath : List String
  deriving DecidableEq

def Chunk.sectionLabel (chunk : Chunk) : Option String := chunk.headingPath.getLast?

def estimateTokens (text : String) : Int := max 1 ((text.length + charsPerToken - 1) / charsPerToken : Nat)

/-- `\r\n` and then `\r` replaced by a line feed. -/
def unifyLines : List Char → List Char
  | '\r' :: '\n'::rest => '\n'::unifyLines rest
  | '\r'::rest => '\n'::unifyLines rest
  | char::rest => char::unifyLines rest
  | [] => []

def rstrip (line : List Char) : List Char := line.rdropWhile isSpace

/-- `normalise`, over Unicode NFC. -/
def normalise (nfc : String → String) (raw : String) : String :=
  let unmarked := raw.toList.filter (· ≠ '\uFEFF')
  let composed := nfc (String.ofList (unifyLines unmarked))
  let lines := (composed.toList.splitOn '\n').map rstrip
  String.ofList (((List.intercalate ['\n'] lines).dropWhile (· = '\n')).rdropWhile (· = '\n'))

end Chunking

structure Finding where
  findingType : FindingType
  severity : FindingSeverity
  detector : String
  detectorVersion : String
  locator : String
  matchFingerprint : String
  deriving DecidableEq

/-- One `re.Match`. -/
structure Match where
  start : Nat
  stop : Nat
  group : String

structure Detector where
  name : String
  findingType : FindingType
  severity : FindingSeverity
  deriving DecidableEq

def detectorVersion : String := "1"

def maxDocumentBytes : Nat := 8 * 1024 * 1024

def secretDetectors : List Detector :=
  [⟨"pem_private_key",.secretSuspected,.blocking⟩,⟨"openssh_private_key",.secretSuspected,.blocking⟩,
    ⟨"cisco_enable_secret",.secretSuspected,.blocking⟩,⟨"cisco_type7_password",.secretSuspected,.blocking⟩,
    ⟨"aws_access_key_id",.secretSuspected,.blocking⟩,⟨"jwt",.secretSuspected,.blocking⟩,
    ⟨"slack_token",.secretSuspected,.blocking⟩,⟨"credential_assignment",.secretSuspected,.advisory⟩]

def injectionDetectors : List Detector :=
  [⟨"instruction_override",.injectionSuspected,.advisory⟩,⟨"role_assertion",.injectionSuspected,.advisory⟩,
    ⟨"privilege_grant",.injectionSuspected,.advisory⟩,⟨"policy_override",.injectionSuspected,.advisory⟩,
    ⟨"tool_invocation",.injectionSuspected,.advisory⟩]

section Locator

/-- Where the lines that follow a line feed start, the next character being at `index`. -/
def startsFrom : Nat → List Char → List Nat
  | _,[] => []
  | index,char::rest => if char = '\n' then (index + 1)::startsFrom (index + 1) rest else startsFrom (index + 1) rest

def lineStarts (text : String) : List Nat := 0::startsFrom 0 text.toList

/-- The rounds of `_bisect_line`, each of which shrinks the range from `low` to `high`. -/
def bisectLine (lineStarts : List Nat) (offset : Nat) : (rounds low high : Nat) → Nat
  | 0,low,_ => low + 1
  | rounds + 1,low,high =>
    if low < high then
      let mid := (low + high + 1) / 2
      if lineStarts.getD mid 0 ≤ offset then bisectLine lineStarts offset rounds mid high
      else bisectLine lineStarts offset rounds low (mid - 1)
    else low + 1

def locator (lineStarts : List Nat) (start stop : Nat) : String :=
  let line := bisectLine lineStarts start lineStarts.length 0 (lineStarts.length - 1)
  let colStart := start - lineStarts.getD (line - 1) 0 + 1
  let colEnd := colStart + (stop - start)
  s!"line {line}, cols {colStart}-{colEnd}"

end Locator

/-- Python's libraries, and what the service was built with. -/
structure Instruments where
  sha256 : String → String
  /-- The keyed digest of a match, under the salt of the deployment. -/
  fingerprint : String → String
  nfc : String → String
  finditer : Detector → String → List Match
  chunkerParams : ChunkerParams := {}
  /-- Without it the chunker never ends on some texts. -/
  chunkerParams_pos : 1 ≤ chunkerParams.maxTokens

section Screen

variable (instruments : Instruments)

/-- The first match of each fingerprint that was not seen before. -/
def unseen : List String → List Match → List Match
  | _,[] => []
  | seen,found::rest =>
    if instruments.fingerprint found.group ∈ seen then unseen seen rest
    else found::unseen (instruments.fingerprint found.group::seen) rest

def Detector.finding (detector : Detector) (starts : List Nat) (found : Match) : Finding where
  findingType := detector.findingType
  severity := detector.severity
  detector := detector.name
  detectorVersion := detectorVersion
  locator := locator starts found.start found.stop
  matchFingerprint := instruments.fingerprint found.group

def screen (text : String) : List Finding :=
  (secretDetectors ++ injectionDetectors).flatMap fun detector =>
    (unseen instruments [] (instruments.finditer detector text)).map (detector.finding instruments (lineStarts text))

def blocking (findings : List Finding) : List Finding := findings.filter (·.severity = .blocking)

def advisory (findings : List Finding) : List Finding := findings.filter (·.severity = .advisory)

/-- The ranges of the injection detectors' matches; that they are sorted matters to no reader. -/
def injectionRanges (text : String) : List (Nat × Nat) :=
  injectionDetectors.flatMap fun detector => (instruments.finditer detector text).map fun found => (found.start,found.stop)

def overlaps (ranges : List (Nat × Nat)) (start stop : Int) : Bool :=
  ranges.any fun range => (range.1 : Int) < stop && start < (range.2 : Int)

variable {instruments}

theorem unseen_covers (seen : List String) {found : Match} {matches' : List Match} (member : found ∈ matches')
    (new : instruments.fingerprint found.group ∉ seen) :
    ∃ kept ∈ unseen instruments seen matches', instruments.fingerprint kept.group = instruments.fingerprint found.group := by
  induction matches' generalizing seen with
  | nil => cases member
  | cons head rest ih =>
    by_cases known : instruments.fingerprint head.group ∈ seen
    · rw [unseen,if_pos known]
      rcases List.mem_cons.mp member with rfl | later
      · exact absurd known new
      · exact ih _ later new
    · rw [unseen,if_neg known]
      by_cases same : instruments.fingerprint head.group = instruments.fingerprint found.group
      · exact ⟨head,List.mem_cons_self,same⟩
      rcases List.mem_cons.mp member with rfl | later
      · exact absurd rfl same
      · have unseen' : instruments.fingerprint found.group ∉ instruments.fingerprint head.group::seen :=
          fun inSeen => (List.mem_cons.mp inSeen).elim (fun equal => same equal.symm) new
        obtain ⟨kept,inKept,equal⟩ := ih _ later unseen'
        exact ⟨kept,List.mem_cons_of_mem head inKept,equal⟩

theorem screen_covers {detector : Detector} {text : String} {found : Match}
    (listed : detector ∈ secretDetectors ++ injectionDetectors) (member : found ∈ instruments.finditer detector text) :
    ∃ finding ∈ screen instruments text, finding.severity = detector.severity ∧
      finding.matchFingerprint = instruments.fingerprint found.group := by
  obtain ⟨kept,inKept,same⟩ := unseen_covers [] member (by simp)
  exact ⟨detector.finding instruments (lineStarts text) kept,
    List.mem_flatMap.mpr ⟨detector,listed,List.mem_map_of_mem inKept⟩,rfl,same⟩

end Screen

end Acop.Knowledge
