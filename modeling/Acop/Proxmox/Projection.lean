import Acop.Proxmox.Adapter

/-! `tools/adapters/proxmox/projection.py`: the coercions, and what the two listings that
the adapter's own routing depends on report of a response. -/
namespace Acop.Proxmox

/-- Python's floats, as far as `Text` has nothing of them. -/
structure Floats where
  /-- `float(text)`, `none` where it raises `ValueError`. -/
  read : String → Option Json
  /-- `float(n)`, `none` where it raises `OverflowError`. -/
  ofInt : Int → Option Json

section Coercion

variable (text : Text) (floats : Floats)

def asStr : Json → Option String
  | .str value => if strip value = "" then none else some (strip value)
  | .int value => some (text.str (.int value))
  | .float value => some (text.str (.float value))
  | .nonFinite value => some (text.str (.nonFinite value))
  | _ => none

/-- `int` of a float, towards zero. -/
def truncate (value : Rat) : Int := value.num.tdiv value.den

def asInt : Json → Except Refusal (Option Int)
  | .bool value => .ok (some (if value then 1 else 0))
  | .int value => .ok (some value)
  | .float value => .ok (some (truncate value))
  | .nonFinite .nan => .error .valueError
  | .nonFinite _ => .error .overflowError
  | .str value => .ok (text.int (strip value))
  | _ => .ok none

def asFloat : Json → Except Refusal (Option Json)
  | .bool value => .ok (some (.float (if value then 1 else 0)))
  | .int value =>
    match floats.ofInt value with
    | some float => .ok (some float)
    | none => .error .overflowError
  | .float value => .ok (some (.float value))
  | .nonFinite value => .ok (some (.nonFinite value))
  | .str value => .ok (floats.read (strip value))
  | _ => .ok none

def asBool : Json → Option Bool
  | .bool value => some value
  | .int value => some (value ≠ 0)
  | .str value =>
    if text.lower (strip value) ∈ ["1","true","yes","on"] then some true
    else if text.lower (strip value) ∈ ["0","false","no","off"] then some false
    else none
  | _ => none

def optionalInt (value : Option Int) : Json := value.elim .null .int

def optionalBool (value : Option Bool) : Json := value.elim .null .bool

def optionalFloat (value : Option Json) : Json := value.getD .null

/-- `record.get(key)`. -/
def field (record : JsonObject) (key : String) : Json := (Json.get record key).getD .null

/-- `_record`. -/
def recordOf (endpoint : String) : Json → Except Refusal JsonObject
  | .obj fields => .ok fields
  | entry => .error (.proxmox .protocol s!"Proxmox returned a {typeName entry} where {endpoint} must be an object."
      [("endpoint",.str endpoint)])

/-- `_entries`. -/
def entriesOf (endpoint : String) : Json → Except Refusal (List JsonObject)
  | .arr entries => entries.mapM (recordOf endpoint)
  | data => .error (.proxmox .protocol s!"Proxmox returned a {typeName data} where {endpoint} must be a list."
      [("endpoint",.str endpoint)])

end Coercion

section Listings

variable (text : Text) (floats : Floats)

def storageEndpoint : String := "/nodes/\x7bnode\x7d/storage"

/-- The body of the loop of `storage_entries`. -/
def storageEntry (node : String) (entry : JsonObject) : Except Refusal JsonObject :=
  match asStr text (field entry "storage") with
  | none => .error (.proxmox .protocol "A storage record carried no storage id."
      [("endpoint",.str storageEndpoint),("node",.str node)])
  | some storage => do
    let total ← asInt text (field entry "total")
    let used ← asInt text (field entry "used")
    let available ← asInt text (field entry "avail")
    let fraction ← asFloat floats (field entry "used_fraction")
    return [("node",.str node),("storage",.str storage),("storage_type",.optional (asStr text (field entry "type"))),
      ("content",.optional (asStr text (field entry "content"))),("active",optionalBool (asBool text (field entry "active"))),
      ("enabled",optionalBool (asBool text (field entry "enabled"))),
      ("shared",optionalBool (asBool text (field entry "shared"))),("total_bytes",optionalInt total),
      ("used_bytes",optionalInt used),("available_bytes",optionalInt available),("used_fraction",optionalFloat fraction)]

/-- `storage_entries`: one node's rows, tagged with that node. -/
def storageEntries (node : String) (data : Json) : Except Refusal (List JsonObject) := do
  (← entriesOf storageEndpoint data).mapM (storageEntry text floats node)

/-- `storage_list`, at a time of the clock. -/
def storageList (observedAt instanceId : String) (nodesQueried : List String) (rows : List JsonObject) : Except Refusal JsonObject :=
  .ok [("instance_id",.str instanceId),("observed_at",.str observedAt),("nodes_queried",.strings nodesQueried),
    ("storages",.arr (rows.map .obj))]

def Projection.ofStorage (others : Projection) (observedAt : String) : Projection where
  instance_ := others.instance_
  node := others.node
  guest := others.guest
  storageEntries := Proxmox.storageEntries text floats
  storageList := Proxmox.storageList observedAt

end Listings

end Acop.Proxmox
