import Acop.Cmdb.Asset
import Acop.Coding.Base64
import Acop.Selection.Keyset
import Mathlib.Data.Prod.Lex

/-! The listing of assets, page by page, and the cursor that names where a page ends. -/
namespace Acop.Cmdb
open Acop.Coding Acop.Selection Acop.Store

section Datetime

def isLeap (year : Nat) : Bool := year % 4 = 0 && (year % 100 ≠ 0 || year % 400 = 0)

def daysIn (year month : Nat) : Nat :=
  if month = 2 then (if isLeap year then 29 else 28)
  else if month = 4 ∨ month = 6 ∨ month = 9 ∨ month = 11 then 30
  else 31

/-- A `datetime` in UTC. -/
@[ext] structure Datetime where
  year : Nat
  month : Nat
  day : Nat
  hour : Nat
  minute : Nat
  second : Nat
  microsecond : Nat
  dated : 1 ≤ year ∧ year < 10000 ∧ 1 ≤ month ∧ month ≤ 12 ∧ 1 ≤ day ∧ day ≤ daysIn year month
  timed : hour < 24 ∧ minute < 60 ∧ second < 60 ∧ microsecond < 1000000

namespace Datetime

theorem day_lt (stamp : Datetime) : stamp.day < 32 := by
  have ends := stamp.dated.2.2.2.2.2
  unfold daysIn at ends
  split_ifs at ends <;> omega

def rank (stamp : Datetime) : Nat :=
  (((((stamp.year * 13 + stamp.month) * 32 + stamp.day) * 24 + stamp.hour) * 60 + stamp.minute) * 60 + stamp.second) * 1000000 +
    stamp.microsecond

theorem place_injective {size high high' low low' : Nat} (small : low < size) (small' : low' < size)
    (same : high * size + low = high' * size + low') : high = high' ∧ low = low' := by
  have quotient := congrArg (· / size) same
  have rest := congrArg (· % size) same
  have positive : 0 < size := by omega
  simp only [Nat.mul_comm _ size,Nat.mul_add_div positive,Nat.div_eq_of_lt small,Nat.div_eq_of_lt small',Nat.add_zero] at quotient
  simp only [Nat.mul_comm _ size,Nat.mul_add_mod,Nat.mod_eq_of_lt small,Nat.mod_eq_of_lt small'] at rest
  exact ⟨quotient,rest⟩

theorem rank_injective : Function.Injective rank := by
  intro first second same
  obtain ⟨same,micros⟩ := place_injective first.timed.2.2.2 second.timed.2.2.2 same
  obtain ⟨same,seconds⟩ := place_injective first.timed.2.2.1 second.timed.2.2.1 same
  obtain ⟨same,minutes⟩ := place_injective first.timed.2.1 second.timed.2.1 same
  obtain ⟨same,hours⟩ := place_injective first.timed.1 second.timed.1 same
  obtain ⟨same,days⟩ := place_injective first.day_lt second.day_lt same
  have months : ∀ stamp : Datetime, stamp.month < 13 := fun stamp => by
    have := stamp.dated.2.2.2.1
    omega
  obtain ⟨years,month⟩ := place_injective (months first) (months second) same
  ext <;> assumption

instance : LinearOrder Datetime := LinearOrder.lift' rank rank_injective

theorem rank_lt (stamp : Datetime) : stamp.rank < 10000 * 13 * 32 * 24 * 60 * 60 * 1000000 := by
  have year := stamp.dated.2.1
  have month := stamp.dated.2.2.2.1
  have day := stamp.day_lt
  obtain ⟨hour,minute,second,micros⟩ := stamp.timed
  unfold rank
  omega

def decimal (digit : Nat) : Char := ['0','1','2','3','4','5','6','7','8','9'].getD digit '0'

def decimalOf (char : Char) : Option Nat := ['0','1','2','3','4','5','6','7','8','9'].idxOf? char

def padded (width n : Nat) : List Char := digits decimal 10 width n

def dateText (stamp : Datetime) : List Char := padded 4 stamp.year ++ '-'::padded 2 stamp.month ++ '-'::padded 2 stamp.day

def timeText (stamp : Datetime) : List Char :=
  padded 2 stamp.hour ++ ':'::padded 2 stamp.minute ++ ':'::padded 2 stamp.second ++
    if stamp.microsecond = 0 then [] else '.'::padded 6 stamp.microsecond

def utcOffset : List Char := ['+','0','0',':','0','0']

/-- `isoformat()`. -/
def isoformat (stamp : Datetime) : List Char := stamp.dateText ++ 'T'::stamp.timeText ++ utcOffset

section Reading

variable (width : Nat) (text : List Char)

def readNumber : Option (Nat × List Char) :=
  if width ≤ text.length then (numeral decimalOf 10 (text.take width)).map fun n => (n,text.drop width) else none

def readChar (char : Char) : Option (List Char) :=
  match text with
  | first::rest => if first = char then some rest else none
  | [] => none

def readMicrosecond : Option (Nat × List Char) :=
  match text with
  | '.'::rest => readNumber 6 rest
  | _ => some (0,text)

def readDate : Option ((Nat × Nat × Nat) × List Char) := do
  let (year,text) ← readNumber 4 text
  let text ← readChar text '-'
  let (month,text) ← readNumber 2 text
  let text ← readChar text '-'
  let (day,text) ← readNumber 2 text
  return ((year,month,day),text)

def readTime : Option ((Nat × Nat × Nat × Nat) × List Char) := do
  let (hour,text) ← readNumber 2 text
  let text ← readChar text ':'
  let (minute,text) ← readNumber 2 text
  let text ← readChar text ':'
  let (second,text) ← readNumber 2 text
  let (microsecond,text) ← readMicrosecond text
  return ((hour,minute,second,microsecond),text)

def checked (year month day hour minute second microsecond : Nat) : Option Datetime :=
  if dated : 1 ≤ year ∧ year < 10000 ∧ 1 ≤ month ∧ month ≤ 12 ∧ 1 ≤ day ∧ day ≤ daysIn year month then
    if timed : hour < 24 ∧ minute < 60 ∧ second < 60 ∧ microsecond < 1000000 then
      some ⟨year,month,day,hour,minute,second,microsecond,dated,timed⟩
    else none
  else none

/-- What `isoformat` writes, read back. -/
def readIso : Option Datetime := do
  let ((year,month,day),text) ← readDate text
  let text ← readChar text 'T'
  let ((hour,minute,second,microsecond),text) ← readTime text
  if text = utcOffset then checked year month day hour minute second microsecond else none

end Reading

end Datetime

end Datetime

section Cursor

/-- What Python and the database do beyond the forms that are spelt out: Base64 with other
characters among it, other ISO 8601 forms, other spellings of a UUID, SQL's `lower`. -/
structure Server extends Python where
  b64decode : String → Option (List UInt8)
  fromisoformat : String → Option Datetime
  uuid : String → Option Uuid
  lowerSql : String → String

def hexValue (char : Char) : Option Nat :=
  (['0','1','2','3','4','5','6','7','8','9','a','b','c','d','e','f'].idxOf? char).or
    (['0','1','2','3','4','5','6','7','8','9','A','B','C','D','E','F'].idxOf? char)

variable (server : Server)

def urlsafeB64decode (text : String) : Option (List UInt8) := (decode text.toList).or (server.b64decode text)

def parseIso (text : String) : Option Datetime := (Datetime.readIso text.toList).or (server.fromisoformat text)

/-- `uuid.UUID(text)`. -/
def parseUuid (text : String) : Option Uuid :=
  let plain := text.toList.filter (· ≠ '-')
  if plain.length = 32 then ((numeral hexValue 16 plain).map (BitVec.ofNat 128)).or (server.uuid text) else server.uuid text

/-- `raw.split("|", 1)`, where there is a bar. -/
def splitBar (raw : List Char) : Option (List Char × List Char) :=
  match raw.dropWhile (· ≠ '|') with
  | [] => none
  | _::rest => some (raw.takeWhile (· ≠ '|'),rest)

def encodeCursor (createdAt : Datetime) (assetId : Uuid) : String :=
  let raw := String.ofList (createdAt.isoformat ++ '|'::assetId.text.toList)
  String.ofList (encode raw.toByteArray.data.toList)

def readCursor (cursor : String) : Option (Datetime × Uuid) := do
  let octets ← urlsafeB64decode server cursor
  let raw ← String.fromUTF8? ⟨octets.toArray⟩
  let (stamp,ident) ← splitBar raw.toList
  let createdAt ← parseIso server (String.ofList stamp)
  let assetId ← parseUuid server (String.ofList ident)
  return (createdAt,assetId)

def decodeCursor (cursor : String) : Except Refusal (Datetime × Uuid) :=
  match readCursor server cursor with
  | some key => .ok key
  | none => .error (.validation "Malformed pagination cursor." [])

end Cursor

structure AssetRow extends Asset where
  createdAt : Datetime

def AssetRow.key (row : AssetRow) : Datetime ×ₗ Nat := toLex (row.createdAt,row.id.toNat)

structure Inventory where
  assets : Table fun row : AssetRow => row.id
  identifiers : Table AssetIdentifier.id

inductive ListingError where
  | refused (refusal : Refusal)
  /-- The validation error of the identifier's own schema, which nothing handles. -/
  | schema

structure Filters where
  assetType : Option String := none
  lifecycleState : Option String := none
  queryText : Option String := none
  identifier : Option String := none

section Filters

/-- SQL's `LIKE`, with the backslash as its escape. -/
def like : List Char → List Char → Bool
  | [],text => text.isEmpty
  | '%'::pattern,text => text.tails.any (like pattern)
  | '_'::pattern,text => match text with
    | _::rest => like pattern rest
    | [] => false
  | '\\'::char::pattern,text => match text with
    | first::rest => first = char && like pattern rest
    | [] => false
  | char::pattern,text => match text with
    | first::rest => first = char && like pattern rest
    | [] => false

/-- `rpartition(":")`, where there is a colon. With a single one it is `partition`. -/
def rpartition (text : List Char) : List Char × List Char :=
  let value := (text.reverse.takeWhile (· ≠ ':')).reverse
  (text.take (text.length - value.length - 1),value)

variable (python : Python)

/-- `IdentifierInput(namespace=..., value=...)`, as its validators leave it. -/
def identifierInput (namespaceName value : String) : Option IdentifierInput :=
  let lowered := python.lower (strip namespaceName)
  if bounds : namespaceName.length ≤ 48 ∧ 1 ≤ value.length ∧ value.length ≤ 255 then
    if rules : lowered.length ≤ 48 ∧ matchesNamespace lowered then some {
      namespaceName := lowered
      value
      namespace_rules := rules
      value_bounds := bounds.2
      source_bounds := by decide
      confidence_bounds := by decide}
    else none
  else none

/-- The namespace and the normalised value that an identifier filter asks for. -/
def identifierFilter (identifier : String) : Except ListingError (String × String) :=
  if ':' ∉ identifier.toList then
    .error (.refused (.validation "identifier filter must be 'namespace:value', e.g. 'serial:ABC123'." []))
  else
    -- A namespace may hold colons of its own, so the last one divides.
    let (namespaceName,value) := rpartition identifier.toList
    match identifierInput python (String.ofList namespaceName) (String.ofList value) with
    | none => .error .schema
    | some input => match normalise python input with
      | .error refusal => .error (.refused refusal)
      | .ok normalised => .ok (String.ofList namespaceName,normalised.valueNormalized)

end Filters

namespace AssetService

def maxPageSize : Int := 200

def clamp (limit : Int) : Nat := (max 1 (min limit maxPageSize)).toNat

variable (server : Server) (inventory : Inventory) (filters : Filters)

def given (filter : Option String) : Option String := filter.filter (· ≠ "")

def wantedIdentifier : Except ListingError (Option (String × String)) :=
  match given filters.identifier with
  | some identifier => (identifierFilter server.toPython identifier).map some
  | none => .ok none

def matchesFilters (wanted : Option (String × String)) (row : AssetRow) : Bool :=
  (given filters.assetType).all (row.assetType.value = ·) &&
  (given filters.lifecycleState).all (row.lifecycleState.value = ·) &&
  (given filters.queryText).all (fun text => like ((server.lower text).toList ++ ['%']) (server.lowerSql row.displayName).toList) &&
  wanted.all fun (namespaceName,value) => inventory.identifiers.rows.any fun identifier =>
    identifier.assetId = row.id && identifier.namespaceName = namespaceName && identifier.valueNormalized = value &&
      identifier.retiredAt = none

def startAfter (cursor : Option String) : Except ListingError (Option (Datetime ×ₗ Nat)) :=
  match given cursor with
  | some cursor => match decodeCursor server cursor with
    | .ok (createdAt,assetId) => .ok (some (toLex (createdAt,assetId.toNat)))
    | .error refusal => .error (.refused refusal)
  | none => .ok none

def listAssets (limit : Int) (cursor : Option String) : Except ListingError (List AssetRow × Option String) := do
  let wanted ← wantedIdentifier server filters
  let after ← startAfter server cursor
  let found := inventory.assets.rows.filter fun row =>
    matchesFilters server inventory filters wanted row && after.all (· < row.key)
  let rows := first AssetRow.key (clamp limit + 1) found
  if clamp limit < rows.length then
    let rows := rows.take (clamp limit)
    return (rows,rows.getLast?.map fun row => encodeCursor row.createdAt row.id)
  else return (rows,none)

end AssetService

end Acop.Cmdb
