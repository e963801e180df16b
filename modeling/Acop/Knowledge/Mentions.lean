import Acop.Cmdb.Asset
import Acop.Knowledge.Records
import Acop.Selection.Ordered
import Mathlib.Data.List.DropRight

/-! `services/knowledge/mentions.py`: the chunks of a version are scanned for what the inventory
knows under a registered namespace. A value of several assets is recorded with all of them. -/
namespace Acop.Knowledge
open Acop.Store Acop.Selection
open Acop.Cmdb (Python identifierNamespaces)

section Tokens

def tokenChar (char : Char) : Bool := char.isAlphanum || char ∈ ['.','_',':','-','/']

/-- The first alternative of `_TOKEN`, behind its first character. -/
def longTail (rest : List Char) : List Char := ((rest.takeWhile tokenChar).take 127).rdropWhile fun char => !char.isAlphanum

def tokenTail (rest : List Char) : List Char :=
  if 2 ≤ (longTail rest).length then longTail rest else rest.takeWhile Char.isAlphanum

/-- `_TOKEN.finditer`, when as many characters are still those of the last match. -/
def tokensFrom : Nat → List Char → List (List Char)
  | _,[] => []
  | skip + 1,_::rest => tokensFrom skip rest
  | 0,char::rest =>
    if char.isAlphanum then (char::tokenTail rest)::tokensFrom (tokenTail rest).length rest else tokensFrom 0 rest

def tokens (text : String) : List String := (tokensFrom 0 text.toList).map String.ofList

/-- `rstrip(_TRAILING)`. -/
def rstripTrailing (surface : String) : String :=
  String.ofList (surface.toList.rdropWhile fun char => char ∈ ['.',',',':',';',')','/','-'])

def forms (surface : String) : List String :=
  if rstripTrailing surface = surface then [surface] else [surface,rstripTrailing surface]

end Tokens

section Candidates

def mentionableNamespaces : List String :=
  ["serial","smbios:uuid","mac","proxmox:uuid","docker:container-id","hostname","fqdn"]

def minMentionTokenLength : Nat := 3

def maxTokensPerChunk : Nat := 4000

/-- How one process meets the elements of the frozen set. -/
structure Enumeration where
  namespaces : List String
  complete : namespaces.Perm mentionableNamespaces

structure MentionCandidate where
  namespaceName : String
  valueNormalized : String
  surface : String
  deriving DecidableEq

def MentionCandidate.key (candidate : MentionCandidate) : String × String :=
  (candidate.namespaceName,candidate.valueNormalized)

variable (python : Python) (enumeration : Enumeration)

def eligible (token : String) : Bool := minMentionTokenLength ≤ token.length && !token.toList.all Char.isDigit

def candidate (token namespaceName : String) : Option MentionCandidate :=
  match identifierNamespaces.lookup namespaceName with
  | none => none
  | some spec =>
    let normalised := spec.normaliser.apply python token
    if normalised.length < minMentionTokenLength then none else some ⟨namespaceName,normalised,token⟩

def readings (text : String) : List MentionCandidate :=
  (((tokens text).take maxTokensPerChunk).flatMap forms |>.filter eligible).flatMap fun token =>
    enumeration.namespaces.filterMap (candidate python token)

/-- The first candidate of each key that is not in `seen`. -/
def firsts : List (String × String) → List MentionCandidate → List MentionCandidate
  | _,[] => []
  | seen,found::rest => if found.key ∈ seen then firsts seen rest else found::firsts (found.key::seen) rest

def candidates (text : String) : List MentionCandidate := firsts [] (readings python enumeration text)

end Candidates

section Match

variable (identifiers : List Cmdb.AssetIdentifier)

/-- The assets that hold a value live, in the order of their ids' texts. -/
def holders (key : String × String) : List Uuid :=
  ordered BitVec.toNat ((identifiers.filter fun row => row.retiredAt = none && row.key = key).map (·.assetId)).dedup

/-- `_match`. -/
def matched (found : List MentionCandidate) : List (MentionCandidate × List Uuid) :=
  found.filterMap fun candidate => match holders identifiers candidate.key with
    | [] => none
    | first::rest => some (candidate,first::rest)

end Match

section Link

abbrev MentionTable := Table KnowledgeAssetMention.id

def identifierMatch : String := "IDENTIFIER_MATCH"

/-- What tells one scanned mention from another: the chunk, the normalised value and the namespace. -/
abbrev MentionKey := Uuid × String × Option String

variable (python : Python)

def KnowledgeAssetMention.scanKey (row : KnowledgeAssetMention) : MentionKey :=
  let value := match identifierNamespaces.lookup (row.matchedNamespace.getD "") with
    | some spec => spec.normaliser.apply python row.mentionText
    | none => row.mentionText
  (row.chunkId,value,row.matchedNamespace)

def existingKeys (mentions : MentionTable) (chunkIds : List Uuid) : List MentionKey :=
  haveI := Uuid.lawful
  (mentions.rows.filter fun row => row.chunkId ∈ chunkIds && row.mentionSource = identifierMatch).map (·.scanKey python)

structure MentionReport where
  chunksScanned : Nat
  candidatesConsidered : Nat
  mentionsCreated : Nat
  ambiguous : Nat
  deriving DecidableEq

/-- Who scans, when, and the ids that are drawn. -/
structure Scan where
  enumeration : Enumeration
  principal : Principal
  now : Time
  ids : Nat → Uuid

variable (scan : Scan)

def mentionRow (drawn : Nat) (chunkId : Uuid) (candidate : MentionCandidate) (assetIds : List Uuid) : KnowledgeAssetMention where
  id := scan.ids drawn
  chunkId
  assetId := if assetIds.length = 1 then assetIds.head? else none
  mentionText := String.ofList (candidate.surface.toList.take 255)
  mentionSource := identifierMatch
  resolution := if assetIds.length = 1 then "RESOLVED" else "AMBIGUOUS"
  candidateAssetIds := assetIds
  matchedNamespace := some candidate.namespaceName
  createdBySubject := scan.principal.subject
  createdAt := scan.now

structure Progress where
  existing : List MentionKey
  added : List KnowledgeAssetMention := []
  considered : Nat := 0
  ambiguous : Nat := 0

def record (chunkId : Uuid) (progress : Progress) (found : MentionCandidate × List Uuid) : Progress :=
  let key : MentionKey := (chunkId,found.1.valueNormalized,some found.1.namespaceName)
  if key ∈ progress.existing then progress
  else {progress with
    existing := key::progress.existing
    added := progress.added ++ [mentionRow scan progress.added.length chunkId found.1 found.2]
    ambiguous := if found.2.length = 1 then progress.ambiguous else progress.ambiguous + 1}

def scanChunk (identifiers : List Cmdb.AssetIdentifier) (progress : Progress) (chunk : KnowledgeChunk) : Progress :=
  let found := candidates python scan.enumeration chunk.content
  (matched identifiers found).foldl (record scan chunk.id) {progress with considered := progress.considered + found.length}

def KnowledgeAssetMention.checks (row : KnowledgeAssetMention) : List (Constraint × Bool) :=
  [(.columnType,fits 255 row.mentionText && fits 255 row.createdBySubject)]

def versionChunks (chunks : Table KnowledgeChunk.id) (versionId : Uuid) : List KnowledgeChunk :=
  ordered (·.ordinal) (chunks.rows.filter (·.versionId = versionId))

def linkVersion (chunks : Table KnowledgeChunk.id) (identifiers : List Cmdb.AssetIdentifier) (mentions : MentionTable)
    (versionId : Uuid) : Except Refusal (MentionReport × MentionTable) :=
  match versionChunks chunks versionId with
  | [] => .error (.notFound s!"Document version {versionId.text} has no chunks to scan.")
  | first::rest => do
    let scanned := (first::rest).foldl (scanChunk python scan identifiers)
      {existing := existingKeys python mentions ((first::rest).map (·.id))}
    columns (scanned.added.flatMap (·.checks))
    let flushed ← keyed (mentions.insertAll scanned.added)
    return ({
      chunksScanned := (first::rest).length
      candidatesConsidered := scanned.considered
      mentionsCreated := scanned.added.length
      ambiguous := scanned.ambiguous},flushed)

end Link

end Acop.Knowledge
