import Acop.Cmdb.Operations

/-! A small inventory to run concrete operations on: two hosts, one of them named by
a serial number. -/
namespace Acop.Cmdb
open Acop.Store

def labPython : Python where
  lower text := String.ofList (text.toList.map Char.toLower)
  upper text := String.ofList (text.toList.map Char.toUpper)
  isDecimal char := '0' ≤ char && char ≤ '9'
  floatRepr value := toString value.num ++ "/" ++ toString value.den

def labHost (id : Uuid) (name : String) : Asset where
  id
  assetType := .host
  displayName := name
  firstSeenAt := 0
  lastSeenAt := 0

def labSerial (id assetId : Uuid) (value : String) : AssetIdentifier where
  id
  assetId
  namespaceName := "serial"
  valueRaw := value
  valueNormalized := value
  uniqueInNamespace := true
  sourceType := .liveDiscovery
  sourceId := "proxmox:pve-01"
  confidence := 1
  firstSeenAt := 0
  lastSeenAt := 0

def labTables : Tables where
  assets := ⟨[labHost 1 "pve-01",labHost 2 "pve-02"],by decide⟩
  identifiers := ⟨[labSerial 11 1 "SN1"],by decide⟩
  facts := ⟨[],by decide⟩
  relationships := ⟨[],by decide⟩
  attestations := ⟨[],by decide⟩

-- What the concrete requests owe to their schemas, shared by those that hold one value.
section Bounds

theorem certain : (0 : Rat) ≤ 1 ∧ (1 : Rat) ≤ 1 := by decide

theorem api_bounds : "acop:api".length ≤ 255 := by decide

theorem cluster_bounds : 1 ≤ "proxmox:pve-01".length ∧ "proxmox:pve-01".length ≤ 255 := by decide

theorem serial_rules : "serial".length ≤ 48 ∧ matchesNamespace "serial" := by decide

theorem hostname_rules : "hostname".length ≤ 48 ∧ matchesNamespace "hostname" := by decide

theorem memory_rules : "memory.total_bytes".length ≤ 128 ∧ matchesPredicate "memory.total_bytes" ∧
    "memory.total_bytes" ∉ reservedRelationshipPredicates := by decide

theorem observed_undesired : FactKind.observedState ≠ .desiredState := by decide

theorem unitless : ∀ unit ∈ (none : Option String), unit.length ≤ 24 := by decide

theorem unexplained : ∀ text ∈ (none : Option String), text.length ≤ 1024 := by decide

end Bounds

def memory (bytes : Rat) (sourceType : SourceType) : FactAssert where
  predicate := "memory.total_bytes"
  sourceType
  sourceId := "proxmox:pve-01"
  confidence := 9/10
  value := .number (.finite bytes)
  unit := some "bytes"
  predicate_rules := memory_rules
  known_shape := by
    have known : knownPredicates.lookup "memory.total_bytes" = some .number := by decide
    simp [known,FactValue.valueType]
  needs_no_human := observed_undesired
  source_bounds := cluster_bounds
  confidence_bounds := by norm_num
  unit_bounds := by decide

def labIntent (bytes : Rat) : DesiredFactCreate where
  predicate := "memory.total_bytes"
  value := .number (.finite bytes)
  predicate_rules := memory_rules
  unit_bounds := unitless
  reason_bounds := unexplained

def labPerson (subject : String) : Principal := ⟨subject,.human,"lab",.apiKey,{"approver"}⟩

/-- The clock reads `now`, and identifiers are drawn from `first` on. -/
def labMoment (now : Time) (first : Nat) : Moment := ⟨now,fun drawn => BitVec.ofNat 128 (first + drawn)⟩

def asserting (now : Time) (first : Nat) (assetId : Uuid) (payload : FactAssert) : Operation :=
  ⟨.claim (.assertFact assetId payload),labMoment now first⟩

def retiring (now : Time) (assetId : Uuid) : Operation := ⟨.asset (.retire assetId),labMoment now 0⟩

def integrityOf {Answer : Type} : Except Refusal Answer → Option Constraint
  | .error (.integrity constraint) => some constraint
  | _ => none

theorem integrityOf_some {Answer : Type} {outcome : Except Refusal Answer} {constraint : Constraint}
    (refused : integrityOf outcome = some constraint) : outcome = .error (.integrity constraint) := by
  unfold integrityOf at refused
  split at refused
  · cases refused
    rfl
  · cases refused

end Acop.Cmdb
