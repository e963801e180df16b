import Acop.Json
import Acop.Knowledge.Retrieval

/-! `services/knowledge/evidence.py`: what retrieval hands to a generator, and what the
generator may hand back. -/
namespace Acop.Knowledge

inductive StatementKind where
  | sourced | cmdbFact | observation | inference | unresolved
  deriving DecidableEq

def StatementKind.value : StatementKind → String
  | sourced => "SOURCED"
  | cmdbFact => "CMDB_FACT"
  | observation => "OBSERVATION"
  | inference => "INFERENCE"
  | unresolved => "UNRESOLVED"

def citationRequiredKinds : List StatementKind := [.sourced,.cmdbFact]

inductive ConflictKind where
  | docVsDoc | docVsCmdb
  deriving DecidableEq

structure Citation (ν : Type) where
  index : Int
  chunkId : Uuid
  versionId : Uuid
  documentId : Uuid
  sourceId : Uuid
  documentTitle : String
  sourceTitle : String
  externalRef : String
  ordinal : Int
  headingPath : List String
  charStart : Option Int
  charEnd : Option Int
  trustClass : TrustClass
  sensitivity : Sensitivity
  retrievalMethod : RetrievalMethod
  rank : Int
  score : ν
  injectionSuspected : Bool

structure AssetReference where
  assetId : Option Uuid
  mentionText : String
  mentionSource : String
  resolution : String
  candidateAssetIds : List Uuid := []
  matchedNamespace : Option String := none

structure EvidenceBundle (ν : Type) where
  citations : List (Citation ν)
  contents : List String
  mentions : List (Uuid × List AssetReference) := []
  degraded : Bool := false
  degradationReason : Option String := none

structure Statement where
  kind : StatementKind
  text : String
  citationIndexes : List Int := []
  assetId : Option Uuid := none
  factId : Option Uuid := none
  verificationStatus : Option String := none

structure Conflict where
  kind : ConflictKind
  description : String
  citationIndexes : List Int := []
  factIds : List Uuid := []

structure KnowledgeAnswer (ν : Type) where
  statements : List Statement
  citations : List (Citation ν)
  conflicts : List Conflict := []
  unresolved : List String := []
  degraded : Bool := false
  degradationReason : Option String := none
  injectionFlagged : Bool := false

/-- `ValidationError`, with the context that says which statement it is about. -/
structure ValidationError where
  message : String
  context : JsonObject

section Bundle

variable {ν : Type}

def citation (chunk : RetrievedChunk ν) (index : Int) : Citation ν where
  index
  chunkId := chunk.chunkId
  versionId := chunk.versionId
  documentId := chunk.documentId
  sourceId := chunk.sourceId
  documentTitle := chunk.documentTitle
  sourceTitle := chunk.sourceTitle
  externalRef := chunk.externalRef
  ordinal := chunk.ordinal
  headingPath := chunk.headingPath.getD []
  charStart := none
  charEnd := none
  trustClass := chunk.trustClass
  sensitivity := chunk.sensitivity
  retrievalMethod := chunk.method
  rank := chunk.rank
  score := chunk.score
  injectionSuspected := chunk.flags.contains ChunkFlag.injectionSuspected.value

def EvidenceBundle.fromResult (result : RetrievalResult ν) (mentions : List (Uuid × List AssetReference)) :
    EvidenceBundle ν where
  citations := result.results.zipIdx.map fun entry => citation entry.1 (entry.2 + 1)
  contents := result.results.map fun chunk => chunk.content
  mentions
  degraded := result.diagnostics.degraded
  degradationReason := result.diagnostics.degradationReason

def EvidenceBundle.indexes (bundle : EvidenceBundle ν) : List Int := bundle.citations.map Citation.index

end Bundle

/-- `bool(verification_status)`. -/
def Statement.Attested (statement : Statement) : Prop := statement.verificationStatus.getD "" ≠ ""

instance (statement : Statement) : Decidable statement.Attested := inferInstanceAs (Decidable (_ ≠ _))

section Build

variable (valid : List Int)

/-- The body of the loop of `build_answer`. -/
def checkStatement (position : Nat) (statement : Statement) : Except ValidationError Unit :=
  let place : JsonObject := [("statement_index",.int position),("kind",.str statement.kind.value)]
  let unknown := statement.citationIndexes.filter fun index => index ∉ valid
  if unknown ≠ [] then
    .error ⟨"Answer cites evidence that was not retrieved.",place ++ [("unknown_citations",.arr (unknown.map .int))]⟩
  else if statement.kind ∈ citationRequiredKinds ∧ statement.citationIndexes = [] then
    .error ⟨s!"A {statement.kind.value} statement must cite its evidence.",place⟩
  else if statement.kind = .cmdbFact then
    if statement.factId = none then .error ⟨"A CMDB_FACT statement must name the fact it reports.",place⟩
    else if ¬ statement.Attested then .error
      ⟨"A CMDB_FACT statement must carry the fact's verification status, copied from the record rather than asserted.",place⟩
    else .ok ()
  else if statement.kind = .sourced ∧ statement.Attested then .error
    ⟨"A SOURCED statement cannot carry a verification status - a document is evidence, not an attestation.",place⟩
  else .ok ()

def checkStatements : Nat → List Statement → Except ValidationError Unit
  | _,[] => .ok ()
  | position,statement::rest => do
    checkStatement valid position statement
    checkStatements (position + 1) rest

def buildAnswer {ν : Type} (bundle : EvidenceBundle ν) (statements : List Statement) (conflicts : List Conflict)
    (unresolved : List String) : Except ValidationError (KnowledgeAnswer ν) := do
  checkStatements bundle.indexes 0 statements
  let cited := statements.flatMap Statement.citationIndexes
  return {
    statements
    citations := bundle.citations.filter fun citation => citation.index ∈ cited
    conflicts
    unresolved
    degraded := bundle.degraded
    degradationReason := bundle.degradationReason
    injectionFlagged := (bundle.citations.filter fun citation => citation.index ∈ cited).any Citation.injectionSuspected}

end Build

end Acop.Knowledge
