import Mathlib.Data.Finset.Sort
import Mathlib.Data.List.Sort
import Mathlib.Data.String.Basic
import Mathlib.Data.Rat.Floor

/-! Values: the JSON the tables store, the Python values an adapter may report,
their canonical rendering and the redaction of secret-bearing keys. Lone
surrogates and negative zero are the only JSON values left out. -/
namespace Acop

abbrev Uuid := BitVec 128

def hexDigit (n : Nat) : Char :=
  ['0','1','2','3','4','5','6','7','8','9','a','b','c','d','e','f'].getD n '0'

/-- `str(uuid)`. -/
def Uuid.text (uuid : Uuid) : String :=
  let digits := (List.range 32).map fun place => hexDigit (uuid.toNat / 16^(31 - place) % 16)
  let group (start size : Nat) := String.ofList ((digits.drop start).take size)
  "-".intercalate [group 0 8,group 8 4,group 12 4,group 16 4,group 20 12]

/-- Microseconds since the epoch: the resolution of a `datetime`. -/
abbrev Time := Int

/-- `timedelta(seconds=...)`, which rounds half to even. -/
def timedelta (seconds : Rat) : Int :=
  let scaled := seconds * 1000000
  let low := scaled.floor
  let rest := scaled - low
  if rest < 1/2 then low
  else if 1/2 < rest then low + 1
  else if low % 2 = 0 then low else low + 1

inductive NonFinite where
  | nan | posInf | negInf
  deriving DecidableEq

/-- The text `json.dumps` has for it. -/
def NonFinite.text : NonFinite → String
  | nan => "NaN"
  | posInf => "Infinity"
  | negInf => "-Infinity"

inductive Json where
  | null
  | bool (value : Bool)
  | int (value : Int)
  | float (value : Rat)
  | nonFinite (value : NonFinite)
  | str (value : String)
  | arr (items : List Json)
  | obj (fields : List (String × Json))

abbrev JsonObject := List (String × Json)

/-- What a Python call may hand back. `other` is a value of a type that JSON does
not cover, by the type's name. -/
inductive PyValue where
  | none
  | bool (value : Bool)
  | int (value : Int)
  | float (value : Rat)
  | nonFinite (value : NonFinite)
  | str (value : String)
  | list (items : List PyValue)
  | tuple (items : List PyValue)
  | dict (entries : List (PyValue × PyValue))
  | other (typeName : String)

/-- The parts of the Python runtime that no statement here depends on in detail.
A hexadecimal digest has 64 characters, none of them NUL; `sorted` raises on keys
it cannot compare, never on strings. -/
structure Runtime where
  sha256 : String → String
  floatRepr : Rat → String
  isoformat : Time → String
  isDecimal : Char → Bool
  sortable : List PyValue → Bool
  sha256_length : ∀ text, (sha256 text).length = 64
  sha256_plain : ∀ text, ∀ char ∈ (sha256 text).toList, char ≠ '\x00'
  sortable_strings : ∀ names : List String, sortable (names.map .str)

/-- `sorted` over a `frozenset` of strings. -/
def sorted (names : Finset String) : List String :=
  Quot.liftOn names.val (List.insertionSort (· ≤ ·)) fun first second same =>
    ((List.perm_insertionSort _ first).trans (same.trans (List.perm_insertionSort _ second).symm)).eq_of_pairwise'
      (List.pairwise_insertionSort _ first) (List.pairwise_insertionSort _ second)

namespace Json

def strings (names : List String) : Json := .arr (names.map .str)

def optional (value : Option String) : Json := value.elim .null .str

/-- `mapping.get(key)`. -/
def get (fields : JsonObject) (key : String) : Option Json := fields.lookup key

/-- One character of `json.dumps(..., ensure_ascii=False)`. -/
def escape (char : Char) : String :=
  if char = '"' then "\\\""
  else if char = '\\' then "\\\\"
  else if char = '\n' then "\\n"
  else if char = '\r' then "\\r"
  else if char = '\t' then "\\t"
  else if char = '\x08' then "\\b"
  else if char = '\x0c' then "\\f"
  else if char.toNat < 32 then String.ofList ['\\','u','0','0',hexDigit (char.toNat / 16),hexDigit (char.toNat % 16)]
  else String.ofList [char]

def quote (text : String) : String := "\"" ++ String.join (text.toList.map escape) ++ "\""

def joinFields (fields : List (String × String)) : String :=
  ",".intercalate ((fields.insertionSort fun a b => a.1 ≤ b.1).map fun field => quote field.1 ++ ":" ++ field.2)

mutual
def render (floatRepr : Rat → String) : Json → String
  | .null => "null"
  | .bool value => if value then "true" else "false"
  | .int value => toString value
  | .float value => floatRepr value
  | .nonFinite value => value.text
  | .str value => quote value
  | .arr items => "[" ++ ",".intercalate (renderItems floatRepr items) ++ "]"
  | .obj fields => "\x7b" ++ joinFields (renderFields floatRepr fields) ++ "\x7d"
def renderItems (floatRepr : Rat → String) : List Json → List String
  | [] => []
  | item::items => render floatRepr item :: renderItems floatRepr items
def renderFields (floatRepr : Rat → String) : List (String × Json) → List (String × String)
  | [] => []
  | (key,value)::fields => (key,render floatRepr value) :: renderFields floatRepr fields
end

/-- Text PostgreSQL can hold. -/
def plainText (text : String) : Bool := text.toList.all (· ≠ '\x00')

mutual
/-- Whether a `jsonb` column takes the value. -/
def storable : Json → Bool
  | .nonFinite _ => false
  | .str value => plainText value
  | .arr items => storableItems items
  | .obj fields => storableFields fields
  | _ => true
def storableItems : List Json → Bool
  | [] => true
  | item::items => storable item && storableItems items
def storableFields : List (String × Json) → Bool
  | [] => true
  | (key,value)::fields => plainText key && storable value && storableFields fields
end

end Json

/-- `canonical_json`: `json.dumps` with sorted keys and tight separators. -/
def canonicalJson (runtime : Runtime) (value : Json) : String := value.render runtime.floatRepr

def digestOf (runtime : Runtime) (value : Json) : String := runtime.sha256 (canonicalJson runtime value)

namespace PyValue

/-- The key `json.dumps` writes; `none` where it raises `TypeError`. -/
def keyText (runtime : Runtime) : PyValue → Option String
  | .str value => some value
  | .int value => some (toString value)
  | .bool value => some (if value then "true" else "false")
  | .none => some "null"
  | .float value => some (runtime.floatRepr value)
  | .nonFinite value => some value.text
  | _ => Option.none

/-- `jsonb` and `dict` keep the last of several equal keys. -/
def lastWins {Value : Type} (fields : List (String × Value)) : List (String × Value) :=
  fields.foldr (fun field rest => if rest.any (·.1 = field.1) then rest else field::rest) []

mutual
/-- What a `jsonb` column holds once the value is bound to it; `none` where
serialising or storing it raises. -/
def toJsonb (runtime : Runtime) : PyValue → Option Json
  | .none => some .null
  | .bool value => some (.bool value)
  | .int value => some (.int value)
  | .float value => some (.float value)
  | .nonFinite _ => Option.none
  | .str value => if Json.plainText value then some (.str value) else Option.none
  | .list items => (toJsonbItems runtime items).map .arr
  | .tuple items => (toJsonbItems runtime items).map .arr
  | .dict entries => (toJsonbFields runtime entries).map (.obj <| lastWins ·)
  | .other _ => Option.none
def toJsonbItems (runtime : Runtime) : List PyValue → Option (List Json)
  | [] => some []
  | item::items => do return (← toJsonb runtime item) :: (← toJsonbItems runtime items)
def toJsonbFields (runtime : Runtime) : List (PyValue × PyValue) → Option JsonObject
  | [] => some []
  | (key,value)::entries => do
    let text ← keyText runtime key
    if Json.plainText text then
      return (text,← toJsonb runtime value) :: (← toJsonbFields runtime entries)
    else Option.none
end

end PyValue

def redacted : String := "***REDACTED***"

def sensitiveKeyFragments : List String :=
  ["password","passwd","secret","token","api_key","apikey","authorization","auth_header","credential",
    "private_key","privatekey","ssh_key","community","enable_secret","session_key","cookie"]

/-- `str.lower()` as far as ASCII patterns can see it: two characters outside
ASCII, the kelvin sign and the dotted capital I, have a lower case that reaches into it. -/
def lower (text : String) : String :=
  String.ofList (text.toList.flatMap fun char =>
    if char = '\u212a' then ['k'] else if char = '\u0130' then ['i','\u0307'] else [char.toLower])

/-- `fragment in text`. -/
def containsText (text fragment : String) : Bool :=
  text.toList.tails.any fun tail => fragment.toList.isPrefixOf tail

def isSensitiveKey (key : String) : Bool :=
  sensitiveKeyFragments.any (containsText (lower key))

example : isSensitiveKey "to\u212aen" = true ∧ isSensitiveKey "Coo\u212aIE" = true := by decide

def maxDepth : Nat := 12

mutual
/-- `redact(value, depth)`, by the levels left before `MAX_DEPTH`. -/
def redactWithin : Nat → Json → Json
  | 0, _ => .str "***TRUNCATED***"
  | left + 1, .arr items => .arr (redactItems left items)
  | left + 1, .obj fields => .obj (redactFields left fields)
  | _ + 1, value => value
def redactItems : Nat → List Json → List Json
  | _, [] => []
  | left, item::items => redactWithin left item :: redactItems left items
def redactFields : Nat → List (String × Json) → List (String × Json)
  | _, [] => []
  | left, (key,value)::fields =>
    (key,if isSensitiveKey key then .str redacted else redactWithin left value) :: redactFields left fields
end

def redact (value : Json) : Json := redactWithin maxDepth value

/-- `redact` of a mapping is a mapping. -/
def redactObject (fields : JsonObject) : JsonObject := redactFields (maxDepth - 1) fields

end Acop
