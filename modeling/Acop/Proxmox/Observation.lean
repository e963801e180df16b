import Acop.Proxmox.Projection

/-! `tools/adapters/proxmox/projection.py`: what each tool reports of the data it read. -/
namespace Acop.Proxmox

abbrev Reading := Except Refusal Json

/-- The parts of Python that the projections use. -/
structure Observer where
  text : Text
  floats : Floats
  /-- `uuid.UUID(text)`, `none` where it raises. -/
  uuid : String → Option Uuid
  isoformat : Time → String

section Reading

/-- `bool(value)`. -/
def truthy : Json → Bool
  | .null => false
  | .bool value => value
  | .int value => value ≠ 0
  | .float value => value ≠ 0
  | .nonFinite _ => true
  | .str value => value ≠ ""
  | .arr items => !items.isEmpty
  | .obj fields => !fields.isEmpty

/-- `first or second`. -/
def orElse (first second : Json) : Json := if truthy first then first else second

/-- A mapping whose values are read in their order, the first that raises ending it. -/
def document (fields : List (String × Reading)) : Except Refusal JsonObject :=
  fields.mapM fun field => do return (field.1,← field.2)

def listed (rows : List JsonObject) : Reading := .ok (.arr (rows.map .obj))

def nested (record : JsonObject) (key : String) : JsonObject :=
  match field record key with
  | .obj fields => fields
  | _ => []

end Reading

namespace Observer

variable (observer : Observer)

def str (value : Json) : Reading := .ok (.optional (asStr observer.text value))

def int (value : Json) : Reading := do return optionalInt (← asInt observer.text value)

def float (value : Json) : Reading := do return optionalFloat (← asFloat observer.floats value)

def bool (value : Json) : Reading := .ok (optionalBool (asBool observer.text value))

/-- One assignment of `_key_values`, whose later assignments come first. -/
def keyValue (parsed : List (String × String)) (fragment : List Char) : List (String × String) :=
  let key := strip (String.ofList (fragment.takeWhile (· ≠ '=')))
  if '=' ∈ fragment ∧ key ≠ "" then
    (observer.text.lower key,strip (String.ofList ((fragment.dropWhile (· ≠ '=')).drop 1)))::parsed
  else parsed

def keyValues (line : Json) : List (String × String) :=
  match asStr observer.text line with
  | none => []
  | some text => (text.toList.splitOn ',').foldl observer.keyValue []

def uuidOrNone (value : Option String) : Option String :=
  match value with
  | none => none
  | some text => if text = "" then none else (observer.uuid text).map Uuid.text

/-- The last second that a `datetime` has. -/
def lastSecond : Int := 253402300799

def epochOrNone (value : Option String) : Except Refusal (Option Time) := do
  match ← asInt observer.text (Json.optional value) with
  | none => return none
  | some seconds => return if seconds ≤ 0 ∨ lastSecond < seconds then none else some (seconds * 1000000)

def datetime (value : Option Time) : Json := Json.optional (value.map observer.isoformat)

variable (now : Time) (instanceId : String)

def headed (fields : List (String × Reading)) : Except Refusal JsonObject :=
  document (("instance_id",.ok (.str instanceId))::("observed_at",.ok (.str (observer.isoformat now)))::fields)

section Inventories

/-- What `cluster_status` has found so far. -/
structure ClusterView where
  standalone : Bool := true
  clusterName : Option String := none
  quorate : Option Bool := none
  members : List JsonObject := []

/-- The body of the loop of `cluster_status`. -/
def clusterMember (view : ClusterView) (entry : JsonObject) : Except Refusal ClusterView := do
  let memberType := (asStr observer.text (field entry "type")).getD "unknown"
  let view := if memberType = "cluster" then {view with
      standalone := false
      clusterName := asStr observer.text (field entry "name")
      quorate := asBool observer.text (field entry "quorate")}
    else view
  let member ← document
    [("id",.ok (.str ((asStr observer.text (field entry "id")).getD (memberType ++ "/unknown")))),
      ("type",.ok (.str memberType)),
      ("name",observer.str (field entry "name")),
      ("node",if memberType = "node" then observer.str (field entry "name") else .ok .null),
      ("ip",observer.str (field entry "ip")),
      ("node_id",observer.int (field entry "nodeid")),
      ("online",observer.bool (field entry "online")),
      ("local",observer.bool (field entry "local")),
      ("quorate",observer.bool (field entry "quorate")),
      ("member_count",observer.int (field entry "nodes"))]
  return {view with members := view.members ++ [member]}

def clusterStatus (data : Json) : Except Refusal JsonObject := do
  let entries ← entriesOf "/cluster/status" data
  let view ← entries.foldlM observer.clusterMember {}
  observer.headed now instanceId
    [("standalone",.ok (.bool view.standalone)),
      ("cluster_name",.ok (.optional view.clusterName)),
      ("quorate",.ok (optionalBool view.quorate)),
      ("members",listed view.members)]

/-- The body of the loop of `node_list`. -/
def nodeEntry (entry : JsonObject) : Except Refusal JsonObject :=
  match asStr observer.text (field entry "node") with
  | none => .error (.proxmox .protocol "A node inventory record carried no node name." [("endpoint",.str "/nodes")])
  | some name => document
    [("node",.ok (.str name)),
      ("status",observer.str (field entry "status")),
      ("type",observer.str (field entry "type")),
      ("uptime_seconds",observer.int (field entry "uptime")),
      ("cpu_usage",observer.float (field entry "cpu")),
      ("cpu_count",observer.int (field entry "maxcpu")),
      ("memory_used_bytes",observer.int (field entry "mem")),
      ("memory_total_bytes",observer.int (field entry "maxmem")),
      ("disk_used_bytes",observer.int (field entry "disk")),
      ("disk_total_bytes",observer.int (field entry "maxdisk")),
      ("ssl_fingerprint",observer.str (orElse (field entry "ssl_fingerprint") (field entry "fingerprint")))]

def nodeList (data : Json) : Except Refusal JsonObject := do
  let nodes ← (← entriesOf "/nodes" data).mapM observer.nodeEntry
  observer.headed now instanceId [("nodes",listed nodes)]

/-- The body of the loop of `guest_list`. -/
def guestEntry (entry : JsonObject) : Except Refusal JsonObject := do
  let vmid ← asInt observer.text (field entry "vmid")
  let guestType := asStr observer.text (field entry "type")
  let node := asStr observer.text (field entry "node")
  match vmid,guestType,node with
  | some vmid,some guestType,some node =>
    document
      [("vmid",.ok (.int vmid)),
        ("guest_type",.ok (.str guestType)),
        ("node",.ok (.str node)),
        ("name",observer.str (field entry "name")),
        ("status",observer.str (field entry "status")),
        ("uptime_seconds",observer.int (field entry "uptime")),
        ("template",observer.bool (field entry "template")),
        ("cpu_usage",observer.float (field entry "cpu")),
        ("cpu_count",observer.int (field entry "maxcpu")),
        ("memory_used_bytes",observer.int (field entry "mem")),
        ("memory_total_bytes",observer.int (field entry "maxmem")),
        ("disk_used_bytes",observer.int (field entry "disk")),
        ("disk_total_bytes",observer.int (field entry "maxdisk")),
        ("pool",observer.str (field entry "pool")),
        ("tags",observer.str (field entry "tags"))]
  | _,_,_ => .error (.proxmox .protocol "A guest inventory record was missing its vmid, type or node."
      [("endpoint",.str "/cluster/resources"),("vmid_present",.bool vmid.isSome),("type_present",.bool guestType.isSome),
        ("node_present",.bool node.isSome)])

def guestList (data : Json) : Except Refusal JsonObject := do
  let guests ← (← entriesOf "/cluster/resources" data).mapM observer.guestEntry
  observer.headed now instanceId [("guests",listed guests)]

end Inventories

section Nodes

variable (node : String)

/-- `load` of `node_status`. -/
def loadAverage (record : JsonObject) : Reading :=
  match field record "loadavg" with
  | .arr items => do
    let parsed ← items.mapM (asFloat observer.floats)
    return if parsed.reduceOption = [] then .null else .arr parsed.reduceOption
  | _ => .ok .null

def nodeStatus (data : Json) : Except Refusal JsonObject := do
  let record ← recordOf "/nodes/\x7bnode\x7d/status" data
  let cpuinfo := nested record "cpuinfo"
  let memory := nested record "memory"
  let swap := nested record "swap"
  let rootfs := nested record "rootfs"
  let load ← observer.loadAverage record
  observer.headed now instanceId
    [("node",.ok (.str node)),
      ("uptime_seconds",observer.int (field record "uptime")),
      ("cpu_usage",observer.float (field record "cpu")),
      ("cpu_count",observer.int (field cpuinfo "cpus")),
      ("cpu_sockets",observer.int (field cpuinfo "sockets")),
      ("cpu_model",observer.str (field cpuinfo "model")),
      ("load_average",.ok load),
      ("memory_total_bytes",observer.int (field memory "total")),
      ("memory_used_bytes",observer.int (field memory "used")),
      ("memory_free_bytes",observer.int (field memory "free")),
      ("swap_total_bytes",observer.int (field swap "total")),
      ("swap_used_bytes",observer.int (field swap "used")),
      ("rootfs_total_bytes",observer.int (field rootfs "total")),
      ("rootfs_used_bytes",observer.int (field rootfs "used")),
      ("rootfs_available_bytes",observer.int (field rootfs "avail")),
      ("pve_version",observer.str (field record "pveversion")),
      ("kernel_version",observer.str (orElse (field record "current-kernel") (field record "kversion")))]

/-- The body of the loop of `node_network`. -/
def interfaceEntry (entry : JsonObject) : Except Refusal JsonObject :=
  match asStr observer.text (field entry "iface") with
  | none => .error (.proxmox .protocol "A network record carried no interface name."
      [("endpoint",.str "/nodes/\x7bnode\x7d/network")])
  | some iface => document
    [("iface",.ok (.str iface)),
      ("type",observer.str (field entry "type")),
      ("method",observer.str (field entry "method")),
      ("active",observer.bool (field entry "active")),
      ("autostart",observer.bool (field entry "autostart")),
      ("address",observer.str (field entry "address")),
      ("netmask",observer.str (field entry "netmask")),
      ("cidr",observer.str (field entry "cidr")),
      ("gateway",observer.str (field entry "gateway")),
      ("bridge_ports",observer.str (field entry "bridge_ports"))]

def nodeNetwork (data : Json) : Except Refusal JsonObject := do
  let interfaces ← (← entriesOf "/nodes/\x7bnode\x7d/network" data).mapM observer.interfaceEntry
  observer.headed now instanceId [("node",.ok (.str node)),("interfaces",listed interfaces)]

end Nodes

section Guests

variable (node : String) (vmid : Int)

def vmStatus (data : Json) : Except Refusal JsonObject := do
  let record ← recordOf "/nodes/\x7bnode\x7d/qemu/\x7bvmid\x7d/status/current" data
  observer.headed now instanceId
    [("node",.ok (.str node)),
      ("vmid",.ok (.int vmid)),
      ("name",observer.str (field record "name")),
      ("status",observer.str (field record "status")),
      ("qmp_status",observer.str (field record "qmpstatus")),
      ("uptime_seconds",observer.int (field record "uptime")),
      ("cpu_usage",observer.float (field record "cpu")),
      ("cpu_count",observer.int (field record "cpus")),
      ("memory_used_bytes",observer.int (field record "mem")),
      ("memory_total_bytes",observer.int (field record "maxmem")),
      ("disk_total_bytes",observer.int (field record "maxdisk")),
      ("running_machine",observer.str (field record "running-machine")),
      ("running_qemu",observer.str (field record "running-qemu")),
      ("agent_enabled",observer.bool (field record "agent")),
      ("template",observer.bool (field record "template")),
      ("tags",observer.str (field record "tags"))]

def vmConfig (data : Json) : Except Refusal JsonObject := do
  let record ← recordOf "/nodes/\x7bnode\x7d/qemu/\x7bvmid\x7d/config" data
  let smbios := observer.keyValues (field record "smbios1")
  let meta_ := observer.keyValues (field record "meta")
  observer.headed now instanceId
    [("node",.ok (.str node)),
      ("vmid",.ok (.int vmid)),
      ("name",observer.str (field record "name")),
      ("config_digest",observer.str (field record "digest")),
      ("smbios_uuid",.ok (.optional (observer.uuidOrNone (smbios.lookup "uuid")))),
      ("vmgenid",observer.str (field record "vmgenid")),
      ("creation_qemu_version",.ok (.optional ((meta_.lookup "creation-qemu").filter (· ≠ "")))),
      ("created_at",do return observer.datetime (← observer.epochOrNone (meta_.lookup "ctime"))),
      ("machine",observer.str (field record "machine")),
      ("bios",observer.str (field record "bios")),
      ("os_type",observer.str (field record "ostype")),
      ("cpu_type",observer.str (field record "cpu")),
      ("cores",observer.int (field record "cores")),
      ("sockets",observer.int (field record "sockets")),
      ("memory_mb",observer.int (field record "memory")),
      ("boot_order",observer.str (field record "boot")),
      ("agent",observer.str (field record "agent")),
      ("protection",observer.bool (field record "protection")),
      ("template",observer.bool (field record "template")),
      ("tags",observer.str (field record "tags"))]

def containerStatus (data : Json) : Except Refusal JsonObject := do
  let record ← recordOf "/nodes/\x7bnode\x7d/lxc/\x7bvmid\x7d/status/current" data
  observer.headed now instanceId
    [("node",.ok (.str node)),
      ("vmid",.ok (.int vmid)),
      ("name",observer.str (field record "name")),
      ("status",observer.str (field record "status")),
      ("uptime_seconds",observer.int (field record "uptime")),
      ("cpu_usage",observer.float (field record "cpu")),
      ("cpu_count",observer.int (field record "cpus")),
      ("memory_used_bytes",observer.int (field record "mem")),
      ("memory_total_bytes",observer.int (field record "maxmem")),
      ("swap_used_bytes",observer.int (field record "swap")),
      ("swap_total_bytes",observer.int (field record "maxswap")),
      ("disk_used_bytes",observer.int (field record "disk")),
      ("disk_total_bytes",observer.int (field record "maxdisk")),
      ("template",observer.bool (field record "template")),
      ("tags",observer.str (field record "tags"))]

def containerConfig (data : Json) : Except Refusal JsonObject := do
  let record ← recordOf "/nodes/\x7bnode\x7d/lxc/\x7bvmid\x7d/config" data
  observer.headed now instanceId
    [("node",.ok (.str node)),
      ("vmid",.ok (.int vmid)),
      ("hostname",observer.str (field record "hostname")),
      ("config_digest",observer.str (field record "digest")),
      ("os_type",observer.str (field record "ostype")),
      ("architecture",observer.str (field record "arch")),
      ("cores",observer.int (field record "cores")),
      ("memory_mb",observer.int (field record "memory")),
      ("swap_mb",observer.int (field record "swap")),
      ("unprivileged",observer.bool (field record "unprivileged")),
      ("protection",observer.bool (field record "protection")),
      ("start_on_boot",observer.bool (field record "onboot")),
      ("tags",observer.str (field record "tags"))]

end Guests

/-- The projections, as `_observe` and `_guest` choose among them. -/
def projection : Projection where
  instance_ toolName instanceId data :=
    if toolName = "proxmox.cluster.status" then observer.clusterStatus now instanceId data
    else if toolName = "proxmox.node.list" then observer.nodeList now instanceId data
    else observer.guestList now instanceId data
  node toolName instanceId node data :=
    if toolName = "proxmox.node.status" then observer.nodeStatus now instanceId node data
    else observer.nodeNetwork now instanceId node data
  guest toolName instanceId location data :=
    if toolName = "proxmox.vm.status" then observer.vmStatus now instanceId location.node location.vmid data
    else if toolName = "proxmox.vm.config" then observer.vmConfig now instanceId location.node location.vmid data
    else if toolName = "proxmox.container.status" then observer.containerStatus now instanceId location.node location.vmid data
    else observer.containerConfig now instanceId location.node location.vmid data
  storageEntries := Proxmox.storageEntries observer.text observer.floats
  storageList := Proxmox.storageList (observer.isoformat now)

end Observer

end Acop.Proxmox
