import Acop.Service.Dispatcher
import Acop.Text

/-! `tools/adapters/proxmox/identity.py`: from a resolved target to the Proxmox
object that the adapter addresses. The inventory is Proxmox's own response. -/
namespace Acop

namespace Proxmox

inductive ErrorClass where
  | identifier | instanceMismatch | objectNotFound | ambiguousObject | protocol
  deriving DecidableEq

inductive Refusal where
  | proxmox (kind : ErrorClass) (message : String) (context : JsonObject)
  | valueError
  | overflowError

def nsInstance : String := "proxmox:instance"
def nsNode : String := "proxmox:node"
def nsGuest : String := "proxmox:guest"
def guestTypeQemu : String := "qemu"
def guestTypeLxc : String := "lxc"

structure GuestLocation where
  vmid : Int
  guestType : String
  node : String
  record : JsonObject

section

variable (text : Text) (target : ResolvedTarget)

/-- `_identifier`: one registered identifier, or a refusal. -/
def identifier (namespaceName : String) : Except Refusal String :=
  let value := strip ((target.identifiers.lookup namespaceName).getD "")
  if value = "" then
    .error (.proxmox .identifier
      s!"The target carries no {namespaceName} identifier, so ACOP cannot address it without guessing."
      [("namespace",.str namespaceName),("asset_id",.optional (target.assetId.map Uuid.text)),
        ("namespaces_present",.strings (sorted (target.identifiers.map (·.1)).toFinset))])
  else .ok value

/-- `_scoped`: the object half of `<instance>/<object>`, once the instance half is this one. -/
def scopedObject (namespaceName instanceId : String) : Except Refusal String := do
  let value ← identifier target namespaceName
  let instancePart := String.ofList (value.toList.takeWhile (· ≠ '/'))
  let obj := String.ofList ((value.toList.dropWhile (· ≠ '/')).drop 1)
  if '/' ∉ value.toList ∨ strip instancePart = "" ∨ obj = "" ∨ '/' ∈ obj.toList then
    throw (.proxmox .identifier s!"A {namespaceName} identifier must be '<instance>/<object>'."
      [("namespace",.str namespaceName)])
  if text.lower (strip instancePart) ≠ text.lower (strip instanceId) then
    throw (.proxmox .instanceMismatch
      s!"The target's {namespaceName} identifier belongs to a different Proxmox instance than this adapter is configured for."
      [("namespace",.str namespaceName),("identifier_instance",.str instancePart),("configured_instance",.str instanceId)])
  return obj

def requireInstance (instanceId : String) : Except Refusal String := do
  let value ← identifier target nsInstance
  if text.lower (strip value) ≠ text.lower (strip instanceId) then
    throw (.proxmox .instanceMismatch
      "The target names a different Proxmox instance than this adapter is configured for."
      [("identifier_instance",.str value),("configured_instance",.str instanceId)])
  return instanceId

def parseVmid (instanceId : String) : Except Refusal Int := do
  let raw ← scopedObject text target nsGuest instanceId
  if !text.isDigit raw || raw.toList.head? = some '0' then
    throw (.proxmox .identifier "A proxmox:guest identifier must end in a VMID." [("namespace",.str nsGuest)])
  match text.int raw with
  | some vmid => return vmid
  | none => throw .valueError

def typeName : Json → String
  | .null => "NoneType"
  | .bool _ => "bool"
  | .int _ => "int"
  | .float _ => "float"
  | .nonFinite _ => "float"
  | .str _ => "str"
  | .arr _ => "list"
  | .obj _ => "dict"

/-- `_records`: a collection response as a list of mappings, or a refusal. -/
def records (data : Json) (endpoint : String) : Except Refusal (List JsonObject) :=
  match data with
  | .arr entries => entries.mapM fun entry => match entry with
    | .obj fields => .ok fields
    | _ => .error (.proxmox .protocol s!"A {endpoint} entry was not an object." [("endpoint",.str endpoint)])
  | _ => .error (.proxmox .protocol s!"Proxmox returned a {typeName data} where {endpoint} must be a list."
      [("endpoint",.str endpoint)])

/-- `str(record.get(key) or "").strip()`. -/
def textOf (record : JsonObject) (key : String) : String :=
  match Json.get record key with
  | none | some .null | some (.bool false) | some (.int 0) | some (.arr []) | some (.obj []) => ""
  | some (.float seconds) => if seconds = 0 then "" else strip (text.str (.float seconds))
  | some (.str value) => strip value
  | some value => strip (text.str value)

def nodeInventory : String := "proxmox.node.list"
def guestInventory : String := "proxmox.guest.list"

/-- The registered identifier selects the node, the live listing spells it. -/
def resolveNode (instanceId : String) (data : Except Refusal Json) : Except Refusal String := do
  let obj ← scopedObject text target nsNode instanceId
  let wanted := text.lower (strip obj)
  let listing ← records (← data) nodeInventory
  match (listing.map (textOf text · "node")).filter fun name => text.lower name = wanted with
  | [] => throw (.proxmox .objectNotFound "Proxmox reports no node matching this target's identifier."
      [("namespace",.str nsNode)])
  | [name] => return name
  | names => throw (.proxmox .ambiguousObject "Proxmox reported more than one node with the same name."
      [("namespace",.str nsNode),("matches",.int names.length)])

def recordVmid (record : JsonObject) : Option Int :=
  match Json.get record "vmid" with
  | some (.int vmid) => some vmid
  | some (.str value) => text.int value
  | some value => text.int (text.str value)
  | none => text.int (text.str .null)

def resolveGuest (instanceId guestType : String) (data : Except Refusal Json) : Except Refusal GuestLocation := do
  let vmid ← parseVmid text target instanceId
  let listing ← records (← data) guestInventory
  match listing.filter fun record => text.lower (textOf text record "type") = guestType ∧ recordVmid text record = some vmid with
  | [] => throw (.proxmox .objectNotFound "Proxmox live inventory contains no guest with this VMID and type."
      [("vmid",.int vmid),("guest_type",.str guestType)])
  | [record] =>
    let node := textOf text record "node"
    if node = "" then
      throw (.proxmox .protocol "The guest inventory record carried no node, so ACOP cannot route the read."
        [("vmid",.int vmid),("guest_type",.str guestType)])
    return ⟨vmid,guestType,node,record⟩
  | several => throw (.proxmox .ambiguousObject
      "Proxmox reported more than one guest with the same VMID and type. ACOP will not choose between them."
      [("vmid",.int vmid),("guest_type",.str guestType),("matches",.int several.length)])

end

/-- What a supported tool acts on; the guest technology is a constant of the tool. -/
inductive Scope where
  | cluster
  | node
  | guest (guestType : String)
  deriving DecidableEq

def Scope.namespaceName : Scope → String
  | cluster => nsInstance
  | node => nsNode
  | guest _ => nsGuest

/-- The routing of `_observe` and `_guest`. -/
def scopeOf (toolName : String) : Scope :=
  if toolName ∈ ["proxmox.cluster.status","proxmox.node.list","proxmox.guest.list","proxmox.storage.list"] then .cluster
  else if toolName ∈ ["proxmox.node.status","proxmox.node.network"] then .node
  else if "proxmox.vm.".toList.isPrefixOf toolName.toList then .guest guestTypeQemu
  else .guest guestTypeLxc

inductive Address where
  | instance (instanceId : String)
  | node (instanceId name : String)
  | guest (instanceId : String) (vmid : Int) (guestType node : String)
  deriving DecidableEq

def address (text : Text) (toolName instanceId : String) (data : Except Refusal Json) (target : ResolvedTarget) :
    Except Refusal Address :=
  match scopeOf toolName with
  | .cluster => do return .instance (← requireInstance text target instanceId)
  | .node => do return .node instanceId (← resolveNode text target instanceId data)
  | .guest guestType => do
    let location ← resolveGuest text target instanceId guestType data
    return .guest instanceId location.vmid location.guestType location.node

end Proxmox

end Acop
