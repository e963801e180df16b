import Acop.Proxmox.Endpoints
import Acop.Transaction.Remote

/-! `client.py`, `identity.py` and `adapter.py` of the Proxmox adapter: one invocation as a
conversation with the upstream and the clock. -/
namespace Acop.Proxmox
open Acop.Transaction

inductive AdapterFault where
  | refused (refusal : Refusal)
  | timeout (message : String) (context : JsonObject)
  | adapterUnavailable (message : String) (context : JsonObject)
  | notConfigured (message : String) (context : JsonObject)
  | upstream (message : String) (context : JsonObject)

inductive Call where
  /-- `deadline - time.monotonic()`. -/
  | remaining
  | get (path : String) (query : List (String × String))

/-- The answer to a GET is what was under `data`, or the refusal that `_send` and `_envelope` end in. -/
def Answer : Call → Type
  | .remaining => Rat
  | .get _ _ => Except AdapterFault Json

abbrev Client := Program Answer AdapterFault

abbrev Exchanges := List (Exchange Answer)

def lift {α : Type} (result : Except Refusal α) : Client α :=
  match result with
  | .ok value => .done value
  | .error refusal => .fail (.refused refusal)

def ask (call : Call) : Client (Answer call) := Program.query call

/-- The `projection` module: what a tool reports of the data it read. -/
structure Projection where
  instance_ : (tool instanceId : String) → Json → Except Refusal JsonObject
  node : (tool instanceId node : String) → Json → Except Refusal JsonObject
  guest : (tool instanceId : String) → GuestLocation → Json → Except Refusal JsonObject
  storageEntries : (node : String) → Json → Except Refusal (List JsonObject)
  storageList : (instanceId : String) → (nodesQueried : List String) → List JsonObject → Except Refusal JsonObject

def getData (endpointKey : String) (segments : List (String × String)) : Client Json :=
  match toolEndpoints.lookup endpointKey with
  | none => throw (.refused (.proxmox .protocol s!"'{endpointKey}' is not an allow-listed Proxmox endpoint."
      [("endpoint_key",.str endpointKey)]))
  | some endpoint => do
    let (path,query) ← lift (endpoint.build segments)
    let remaining : Rat ← ask .remaining
    if remaining ≤ 0 then
      throw (.timeout "The invocation's time budget was exhausted before this request." [("path",.str path)])
    let answer : Except AdapterFault Json ← ask (.get path query)
    match answer with
    | .ok data => return data
    | .error fault => throw fault

section Resolution

variable (text : Text)

/-- The names that `online_nodes` keeps of the listing. -/
def onlineNames (listing : List JsonObject) : Except Refusal (List String) :=
  match listing with
  | [] => .ok []
  | record::rest =>
    let name := textOf text record "node"
    if name = "" then
      .error (.proxmox .protocol "A node inventory record carried no node name." [("endpoint",.str nodeInventory)])
    else do
      let names ← onlineNames rest
      return if text.lower (textOf text record "status") = "online" then name::names else names

def onlineNodes : Client (List String) := do
  let data ← getData nodeInventory []
  lift (do onlineNames text (← records data nodeInventory))

variable (target : ResolvedTarget) (instanceId : String)

/-- `resolve_node`, whose identifier is read before the listing is asked for. -/
def findNode : Client String := do
  let _ ← lift (scopedObject text target nsNode instanceId)
  let data ← getData nodeInventory []
  lift (resolveNode text target instanceId (.ok data))

/-- `resolve_guest`. -/
def findGuest (guestType : String) : Client GuestLocation := do
  let _ ← lift (parseVmid text target instanceId)
  let data ← getData guestInventory []
  lift (resolveGuest text target instanceId guestType (.ok data))

end Resolution

section Adapter

variable (text : Text) (projection : Projection) (target : ResolvedTarget) (instanceId toolName : String)

def guest : Client JsonObject := do
  let guestType := if "proxmox.vm.".toList.isPrefixOf toolName.toList then guestTypeQemu else guestTypeLxc
  let location ← findGuest text target instanceId guestType
  let data ← getData toolName [("node",location.node),("vmid",toString location.vmid)]
  if toolName ∈ ["proxmox.vm.status","proxmox.vm.config","proxmox.container.status","proxmox.container.config"] then
    lift (projection.guest toolName instanceId location data)
  else throw (.refused (.proxmox .protocol s!"{toolName} is supported but unrouted, which is a defect in this adapter."
    [("tool_name",.str toolName)]))

/-- The loop of `_storage`. -/
def storageRows : List String → Client (List JsonObject)
  | [] => return []
  | node::rest => do
    let data ← getData "proxmox.storage.list" [("node",node)]
    let rows ← lift (projection.storageEntries node data)
    return rows ++ (← storageRows rest)

def storage : Client JsonObject := do
  let named ← lift (requireInstance text target instanceId)
  let nodes ← onlineNodes text
  let rows ← storageRows projection nodes
  lift (projection.storageList named nodes rows)

def observe : Client JsonObject :=
  if toolName ∈ ["proxmox.cluster.status","proxmox.node.list","proxmox.guest.list"] then do
    let _ ← lift (requireInstance text target instanceId)
    let data ← getData toolName []
    lift (projection.instance_ toolName instanceId data)
  else if toolName = "proxmox.storage.list" then storage text projection target instanceId
  else if toolName ∈ ["proxmox.node.status","proxmox.node.network"] then do
    let node ← findNode text target instanceId
    let data ← getData toolName [("node",node)]
    lift (projection.node toolName instanceId node data)
  else guest text projection target instanceId toolName

def supportedTools : List String :=
  ["proxmox.cluster.status","proxmox.node.list","proxmox.node.status","proxmox.node.network","proxmox.guest.list",
    "proxmox.vm.status","proxmox.vm.config","proxmox.container.status","proxmox.container.config","proxmox.storage.list"]

/-- `execute`, with the client that the factory builds of the settings, or its refusal. -/
def execute (client : Except AdapterFault String) (toolName toolVersion : String) : Client JsonObject :=
  if toolName ∉ supportedTools then
    throw (.adapterUnavailable
      s!"proxmox implements no tool named {toolName}. Only the ten declared read-only capabilities are reachable."
      [("adapter_id",.str "proxmox"),("tool_name",.str toolName),("tool_version",.str toolVersion)])
  else match client with
    | .error fault => throw fault
    | .ok instanceId => observe text projection target instanceId toolName

end Adapter

end Acop.Proxmox
