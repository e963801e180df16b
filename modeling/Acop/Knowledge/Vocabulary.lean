import Acop.Vocabulary

/-! `models/knowledge_vocabulary.py`: the enumerated values of the knowledge store
and the role map that a principal's clearance is read from. -/
namespace Acop.Knowledge

inductive SourceKind where
  | document | runbook | policy | standard | procedure | configReference | vendorDocumentation
  | troubleshooting | manualNote | incidentRecord | changeRecord
  deriving DecidableEq

def SourceKind.value : SourceKind → String
  | document => "DOCUMENT"
  | runbook => "RUNBOOK"
  | policy => "POLICY"
  | standard => "STANDARD"
  | procedure => "PROCEDURE"
  | configReference => "CONFIG_REFERENCE"
  | vendorDocumentation => "VENDOR_DOCUMENTATION"
  | troubleshooting => "TROUBLESHOOTING"
  | manualNote => "MANUAL_NOTE"
  | incidentRecord => "INCIDENT_RECORD"
  | changeRecord => "CHANGE_RECORD"

inductive TrustClass where
  | authoritativePolicy | vendor | internalVerified | internalDraft | externalUnverified | quarantined
  deriving DecidableEq

def TrustClass.value : TrustClass → String
  | authoritativePolicy => "AUTHORITATIVE_POLICY"
  | vendor => "VENDOR"
  | internalVerified => "INTERNAL_VERIFIED"
  | internalDraft => "INTERNAL_DRAFT"
  | externalUnverified => "EXTERNAL_UNVERIFIED"
  | quarantined => "QUARANTINED"

def approverOnlyTrust : Finset TrustClass := {.authoritativePolicy}

def neverRetrievedTrust : Finset TrustClass := {.quarantined}

inductive KnowledgeLifecycle where
  | active | retired
  deriving DecidableEq

def KnowledgeLifecycle.value : KnowledgeLifecycle → String
  | active => "ACTIVE"
  | retired => "RETIRED"

section Ingestion

inductive IngestOutcome where
  | pending | created | versioned | unchanged | unchangedText | rejectedInvalid | rejectedSecret | failedEmbedding
  deriving DecidableEq

def IngestOutcome.value : IngestOutcome → String
  | pending => "PENDING"
  | created => "CREATED"
  | versioned => "VERSIONED"
  | unchanged => "UNCHANGED"
  | unchangedText => "UNCHANGED_TEXT"
  | rejectedInvalid => "REJECTED_INVALID"
  | rejectedSecret => "REJECTED_SECRET"
  | failedEmbedding => "FAILED_EMBEDDING"

def canonicalOutcomes : List IngestOutcome := [.created,.versioned]

inductive ScreeningOutcome where
  | clean | flagged
  deriving DecidableEq

inductive FindingType where
  | secretSuspected | injectionSuspected | oversizeInput
  deriving DecidableEq

inductive FindingSeverity where
  | blocking | advisory
  deriving DecidableEq

inductive Disposition where
  | falsePositive | remediatedAtSource
  deriving DecidableEq

def unblockingDispositions : List Disposition := [.falsePositive]

inductive ChunkFlag where
  | injectionSuspected | truncatedForEmbedding
  deriving DecidableEq

def ChunkFlag.value : ChunkFlag → String
  | injectionSuspected => "INJECTION_SUSPECTED"
  | truncatedForEmbedding => "TRUNCATED_FOR_EMBEDDING"

def supportedMediaTypes : List String := ["text/markdown","text/plain"]

end Ingestion

inductive DistanceMetric where
  | cosine
  deriving DecidableEq

def DistanceMetric.value : DistanceMetric → String
  | cosine => "cosine"

inductive TruncationPolicy where
  | rejectOversize | truncateTail
  deriving DecidableEq

def TruncationPolicy.value : TruncationPolicy → String
  | rejectOversize => "REJECT_OVERSIZE"
  | truncateTail => "TRUNCATE_TAIL"

inductive RetrievalMethod where
  | vector | vectorExact | lexical | hybrid
  deriving DecidableEq

def RetrievalMethod.value : RetrievalMethod → String
  | vector => "VECTOR"
  | vectorExact => "VECTOR_EXACT"
  | lexical => "LEXICAL"
  | hybrid => "HYBRID"

inductive RetrievalStrategy where
  | ann | annComplete | exactFallback | annPartialFallbackSkipped | annPartialFallbackTimeout | notRun
  deriving DecidableEq

def RetrievalStrategy.value : RetrievalStrategy → String
  | ann => "ANN"
  | annComplete => "ANN_COMPLETE"
  | exactFallback => "EXACT_FALLBACK"
  | annPartialFallbackSkipped => "ANN_PARTIAL_FALLBACK_SKIPPED"
  | annPartialFallbackTimeout => "ANN_PARTIAL_FALLBACK_TIMEOUT"
  | notRun => "NOT_RUN"

inductive RetrievalMode where
  | vector | lexical | hybrid
  deriving DecidableEq

def RetrievalMode.value : RetrievalMode → String
  | vector => "VECTOR"
  | lexical => "LEXICAL"
  | hybrid => "HYBRID"

def lexemeConfig : String := "english"

def defaultRrfK : Int := 60

def maxIndexableDimensions : Int := 2000

def defaultRoleSensitivity : List (String × Finset Sensitivity) :=
  [("viewer",{.publicBand,.internalBand}),("operator",{.publicBand,.internalBand}),("approver",{.publicBand,.internalBand}),
    ("admin",{.publicBand,.internalBand,.confidentialBand})]

end Acop.Knowledge
