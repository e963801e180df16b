import Acop.Knowledge.Retrieval
import Acop.Serial
import Acop.Store.Table
import Acop.Tables

/-! `services/knowledge/spaces.py`: registering embedding spaces and choosing the default one. A
session keeps the objects it has loaded, with the value of `is_default` it last read or wrote, and
its flush writes that column only where the value assigned is another one. -/
namespace Acop.Knowledge.Spaces
open Acop.Store Acop.Serial

/-- A row of `embedding_space`. -/
structure SpaceRow extends EmbeddingSpace where
  storageRelation : String
  partitionRelation : String
  deriving DecidableEq

def SpaceRow.key (row : SpaceRow) : Uuid := row.id

structure SpaceRegistration where
  spaceKey : String
  provider : String
  model : String
  dimensions : Int
  modelDigest : Option String := none
  distanceMetric : DistanceMetric := .cosine
  normalizeVectors : Bool := true
  documentPrefix : String := ""
  queryPrefix : String := ""
  maxInputTokens : Int := 2048
  truncationPolicy : TruncationPolicy := .rejectOversize
  makeDefault : Bool := false

section Names

def keyChar (char : Char) : Bool := ('a' ≤ char && char ≤ 'z') || ('0' ≤ char && char ≤ '9') || char = '_'

def keyShape : List Char → Bool
  | [] => false
  | first::rest => 'a' ≤ first && first ≤ 'z' && 2 ≤ rest.length && rest.length ≤ 47 && rest.all keyChar

/-- `^[a-z][a-z0-9_]{2,47}$` in the CHECK. -/
def spaceKeyFormat (key : String) : Bool := keyShape key.toList

/-- `SPACE_KEY_PATTERN.match`, whose `$` stands before a last line end as well. -/
def spaceKeyPattern (key : String) : Bool :=
  spaceKeyFormat key || (key.toList.getLast? = some '\n' && keyShape key.toList.dropLast)

def parentRelation (dimensions : Int) : String := s!"knowledge_embedding_d{dimensions}"

def partitionRelation (dimensions : Int) (spaceKey : String) : String := parentRelation dimensions ++ "_" ++ spaceKey

/-- `text[:count]`. -/
def slice (count : Nat) (text : String) : String := String.ofList (text.toList.take count)

def annIndex (partition : String) : String := "ix_" ++ slice 52 partition ++ "_ann"

def eligibleIndex (partition : String) : String := "ix_" ++ slice 47 partition ++ "_eligible"

/-- PostgreSQL keeps 63 bytes of a name; these names are ASCII. -/
def identifier (name : String) : String := slice 63 name

end Names

inductive RelationKind where
  | partition (spaceId : Uuid)
  | annIndex (on : String)
  | eligibleIndex (on : String)
  | other
  deriving DecidableEq

/-- Tables and indexes share one space of names. -/
structure Relation where
  name : String
  kind : RelationKind
  deriving DecidableEq

/-- The names that PostgreSQL gives the indexes it makes with a partition. They begin as the partition's does. -/
structure Server where
  attached : String → List String → List String
  attached_named : ∀ partition taken, partition ≠ "" → ∀ name ∈ attached partition taken,
    name.toList.head? = partition.toList.head?

structure Registry where
  rows : Table SpaceRow.key
  relations : List Relation
  /-- For each session, what it takes `is_default` to be in the objects it holds. -/
  sessions : Nat → Uuid → Option Bool

section Rows

def SpaceRow.fits (row : SpaceRow) : Bool :=
  Acop.fits 48 row.spaceKey && Acop.fits 32 row.provider && Acop.fits 128 row.model && fitsOptional 128 row.modelDigest &&
    Acop.fits 255 row.documentPrefix && Acop.fits 255 row.queryPrefix && Acop.fits 63 row.storageRelation &&
    Acop.fits 63 row.partitionRelation && isInteger row.dimensions && isInteger row.maxInputTokens

structure Identity where
  provider : String
  model : String
  modelDigest : Option String
  dimensions : Int
  distanceMetric : DistanceMetric
  normalizeVectors : Bool
  documentPrefix : String
  queryPrefix : String
  truncationPolicy : TruncationPolicy
  deriving DecidableEq

def SpaceRow.identity (row : SpaceRow) : Identity :=
  ⟨row.provider,row.model,row.modelDigest,row.dimensions,row.distanceMetric,row.normalizeVectors,row.documentPrefix,
    row.queryPrefix,row.truncationPolicy⟩

/-- `uq_embedding_space_identity`, in which NULL equals nothing. -/
def clashes (first second : SpaceRow) : Bool := first.identity = second.identity && first.modelDigest.isSome

def newSpace (id : Uuid) (now : Time) (registration : SpaceRegistration) : SpaceRow where
  id
  spaceKey := registration.spaceKey
  provider := registration.provider
  model := registration.model
  modelDigest := registration.modelDigest
  dimensions := registration.dimensions
  distanceMetric := registration.distanceMetric
  normalizeVectors := registration.normalizeVectors
  documentPrefix := registration.documentPrefix
  queryPrefix := registration.queryPrefix
  prefixVerifiedAt := none
  prefixVerifiedBySubject := none
  maxInputTokens := registration.maxInputTokens
  truncationPolicy := registration.truncationPolicy
  isDefault := false
  createdAt := now
  storageRelation := parentRelation registration.dimensions
  partitionRelation := partitionRelation registration.dimensions registration.spaceKey

def insertSpace (rows : Table SpaceRow.key) (row : SpaceRow) : Except KnowledgeError (Table SpaceRow.key) :=
  if ¬ row.fits then .error (.database "value too long for type character varying")
  else if ¬ spaceKeyFormat row.spaceKey then .error (.integrity "ck_embedding_space_space_key_format")
  else if rows.rows.any (·.spaceKey = row.spaceKey) then .error (.integrity "uq_embedding_space_key")
  else if rows.rows.any (clashes row) then .error (.integrity "uq_embedding_space_identity")
  else match rows.insert row with
    | some rows => .ok rows
    | none => .error (.integrity "pk_embedding_space")

def marking (isDefault : Bool) : Revision SpaceRow.key where
  change row := {row with isDefault}
  keeps _ := rfl

def verifying (subject : String) (now : Time) : Revision SpaceRow.key where
  change row := {row with prefixVerifiedAt := some now,prefixVerifiedBySubject := some subject}
  keeps _ := rfl

end Rows

section Relations

variable (server : Server) (relations : List Relation)

def named (name : String) : Bool := relations.any (·.name = name)

/-- `CREATE TABLE IF NOT EXISTS … PARTITION OF`. -/
def createPartition (name : String) (spaceId : Uuid) : List Relation :=
  if named relations name then relations
  else relations ++ ⟨name,.partition spaceId⟩ :: (server.attached name (relations.map (·.name))).map (⟨·,.other⟩)

def isPartition : RelationKind → Bool
  | .partition _ => true
  | _ => false

/-- `CREATE INDEX IF NOT EXISTS … ON`. -/
def createIndex (name table : String) (kind : RelationKind) : Except KnowledgeError (List Relation) :=
  if ¬ relations.any (fun relation => relation.name = table && isPartition relation.kind) then
    .error (.database s!"{table} is not a table")
  else if named relations name then .ok relations
  else .ok (relations ++ [⟨name,kind⟩])

/-- `_create_partition`. -/
def createPartitionRelations (space : SpaceRow) : Except KnowledgeError (List Relation) := do
  let partition := partitionRelation space.dimensions space.spaceKey
  let table := identifier partition
  let ann ← createIndex (createPartition server relations table space.id) (identifier (annIndex partition)) table (.annIndex table)
  createIndex ann (identifier (eligibleIndex partition)) table (.eligibleIndex table)

end Relations

section Service

variable (server : Server) (registry : Registry) (session : Nat)

/-- What the session takes a space's `is_default` to be. -/
def setView (spaceId : Uuid) (view : Option Bool) : Registry :=
  {registry with sessions := Function.update registry.sessions session (Function.update (registry.sessions session) spaceId view)}

def hold (spaceId : Uuid) (isDefault : Bool) : Registry := setView registry session spaceId (some isDefault)

/-- `get`: the object that the session holds, or the row. -/
def get (spaceId : Uuid) : Option Bool :=
  (registry.sessions session spaceId).or ((registry.rows.find spaceId).map (·.isDefault))

def require (spaceId : Uuid) : Except KnowledgeError Bool :=
  match get registry session spaceId with
  | some isDefault => .ok isDefault
  | none => .error (.notFound s!"Embedding space {spaceId.text} does not exist.")

/-- The rows after the UPDATE that clears every flag, and the flush, which writes nothing where the object
already says `True`. -/
def remarked (spaceId : Uuid) (held : Bool) : Table SpaceRow.key :=
  let cleared := registry.rows.revise (·.isDefault) (marking false)
  if held then cleared else cleared.update spaceId (marking true)

def setDefault (spaceId : Uuid) : Except KnowledgeError Registry := do
  let held ← require registry session spaceId
  return hold {registry with rows := remarked registry spaceId held} session spaceId true

def markPrefixesVerified (spaceId : Uuid) (subject : String) (now : Time) : Except KnowledgeError Registry := do
  let held ← require registry session spaceId
  if ¬ Acop.fits 255 subject then .error (.database "value too long for type character varying")
  else .ok (hold {registry with rows := registry.rows.update spaceId (verifying subject now)} session spaceId held)

/-- The first refusal of `register`, before it reads or writes anything. -/
def guardRegistration (registration : SpaceRegistration) : Except KnowledgeError Unit :=
  if ¬ spaceKeyPattern registration.spaceKey then
    .error (.validation "Embedding space key must match ^[a-z][a-z0-9_]\x7b2,47\x7d$.")
  else if ¬ (1 ≤ registration.dimensions ∧ registration.dimensions ≤ maxIndexableDimensions) then
    .error (.validation s!"Dimensions must be between 1 and {maxIndexableDimensions} to be indexable by HNSW.")
  else if registration.dimensions ≠ d768 then
    .error (.value (s!"No embedding storage family for {registration.dimensions} dimensions. " ++
      "Add a knowledge_embedding_d<N> table by migration and register it in EMBEDDING_MODEL_BY_DIMENSIONS."))
  else .ok ()

/-- `register`, with the identifier that it draws. -/
def register (id : Uuid) (now : Time) (registration : SpaceRegistration) : Except KnowledgeError Registry := do
  guardRegistration registration
  if registry.rows.rows.any (·.spaceKey = registration.spaceKey) then
    .error (.conflict s!"Embedding space '{registration.spaceKey}' already exists.")
  else
    let space := newSpace id now registration
    let rows ← insertSpace registry.rows space
    let relations ← createPartitionRelations server registry.relations space
    let registered := hold {registry with rows,relations} session id false
    if registration.makeDefault then setDefault registered session id else .ok registered

end Service

/-- A call in a session, each committed. A session also reads spaces, and lets go of what it holds. -/
inductive Call where
  | register (session : Nat) (id : Uuid) (now : Time) (registration : SpaceRegistration)
  | setDefault (session : Nat) (spaceId : Uuid)
  | markPrefixesVerified (session : Nat) (spaceId : Uuid) (subject : String) (now : Time)
  | load (session : Nat) (spaceId : Uuid)
  | forget (session : Nat) (spaceId : Uuid)

def Call.session : Call → Nat
  | register session _ _ _ => session
  | setDefault session _ => session
  | markPrefixesVerified session _ _ _ => session
  | load session _ => session
  | forget session _ => session

def attempt (server : Server) (registry : Registry) : Call → Except KnowledgeError Registry
  | .register session id now registration => register server registry session id now registration
  | .setDefault session spaceId => setDefault registry session spaceId
  | .markPrefixesVerified session spaceId subject now => markPrefixesVerified registry session spaceId subject now
  | .load session spaceId => do
    let held ← require registry session spaceId
    return hold registry session spaceId held
  | .forget session spaceId => .ok (setView registry session spaceId none)

/-- A call that fails is rolled back, and what its session held expires. -/
def next (server : Server) (registry : Registry) (call : Call) : Registry :=
  match attempt server registry call with
  | .ok later => later
  | .error _ => {registry with sessions := Function.update registry.sessions call.session fun _ => none}

def after (server : Server) (registry : Registry) (calls : List Call) : Registry := run (next server) registry calls

end Acop.Knowledge.Spaces
