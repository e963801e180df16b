import Acop.Json

/-! `tools/catalog/proxmox_schemas.py`: the output models of the ten tools, and what conforms to them. -/
namespace Acop.Proxmox

/-- What a field of an output model is declared as. -/
inductive Annotation where
  | str | int | float | bool | datetime
  /-- `of | None = None`. -/
  | optional (of : Annotation)
  | list (of : Annotation)
  /-- A model that forbids extra fields. -/
  | model (fields : List (String × Annotation))

abbrev OutputModel := List (String × Annotation)

section Models

/-- `_ProxmoxOut`, with the fields of a model that inherits it. -/
def proxmoxOut (fields : OutputModel) : OutputModel := ("instance_id",.str)::("observed_at",.datetime)::fields

def clusterMemberOut : OutputModel :=
  [("id",.str),("type",.str),("name",.optional .str),("node",.optional .str),("ip",.optional .str),("node_id",.optional .int),
    ("online",.optional .bool),("local",.optional .bool),("quorate",.optional .bool),("member_count",.optional .int)]

def clusterStatusOut : OutputModel := proxmoxOut
  [("standalone",.bool),("cluster_name",.optional .str),("quorate",.optional .bool),("members",.list (.model clusterMemberOut))]

def nodeSummaryOut : OutputModel :=
  [("node",.str),("status",.optional .str),("type",.optional .str),("uptime_seconds",.optional .int),
    ("cpu_usage",.optional .float),("cpu_count",.optional .int),("memory_used_bytes",.optional .int),
    ("memory_total_bytes",.optional .int),("disk_used_bytes",.optional .int),("disk_total_bytes",.optional .int),
    ("ssl_fingerprint",.optional .str)]

def nodeListOut : OutputModel := proxmoxOut [("nodes",.list (.model nodeSummaryOut))]

def nodeStatusOut : OutputModel := proxmoxOut
  [("node",.str),("uptime_seconds",.optional .int),("cpu_usage",.optional .float),("cpu_count",.optional .int),
    ("cpu_sockets",.optional .int),("cpu_model",.optional .str),("load_average",.optional (.list .float)),
    ("memory_total_bytes",.optional .int),("memory_used_bytes",.optional .int),("memory_free_bytes",.optional .int),
    ("swap_total_bytes",.optional .int),("swap_used_bytes",.optional .int),("rootfs_total_bytes",.optional .int),
    ("rootfs_used_bytes",.optional .int),("rootfs_available_bytes",.optional .int),("pve_version",.optional .str),
    ("kernel_version",.optional .str)]

def networkInterfaceOut : OutputModel :=
  [("iface",.str),("type",.optional .str),("method",.optional .str),("active",.optional .bool),("autostart",.optional .bool),
    ("address",.optional .str),("netmask",.optional .str),("cidr",.optional .str),("gateway",.optional .str),
    ("bridge_ports",.optional .str)]

def nodeNetworkOut : OutputModel := proxmoxOut [("node",.str),("interfaces",.list (.model networkInterfaceOut))]

def guestSummaryOut : OutputModel :=
  [("vmid",.int),("guest_type",.str),("node",.str),("name",.optional .str),("status",.optional .str),
    ("uptime_seconds",.optional .int),("template",.optional .bool),("cpu_usage",.optional .float),("cpu_count",.optional .int),
    ("memory_used_bytes",.optional .int),("memory_total_bytes",.optional .int),("disk_used_bytes",.optional .int),
    ("disk_total_bytes",.optional .int),("pool",.optional .str),("tags",.optional .str)]

def guestListOut : OutputModel := proxmoxOut [("guests",.list (.model guestSummaryOut))]

def vmStatusOut : OutputModel := proxmoxOut
  [("node",.str),("vmid",.int),("name",.optional .str),("status",.optional .str),("qmp_status",.optional .str),
    ("uptime_seconds",.optional .int),("cpu_usage",.optional .float),("cpu_count",.optional .int),
    ("memory_used_bytes",.optional .int),("memory_total_bytes",.optional .int),("disk_total_bytes",.optional .int),
    ("running_machine",.optional .str),("running_qemu",.optional .str),("agent_enabled",.optional .bool),
    ("template",.optional .bool),("tags",.optional .str)]

def vmConfigOut : OutputModel := proxmoxOut
  [("node",.str),("vmid",.int),("name",.optional .str),("config_digest",.optional .str),("smbios_uuid",.optional .str),
    ("vmgenid",.optional .str),("creation_qemu_version",.optional .str),("created_at",.optional .datetime),
    ("machine",.optional .str),("bios",.optional .str),("os_type",.optional .str),("cpu_type",.optional .str),
    ("cores",.optional .int),("sockets",.optional .int),("memory_mb",.optional .int),("boot_order",.optional .str),
    ("agent",.optional .str),("protection",.optional .bool),("template",.optional .bool),("tags",.optional .str)]

def containerStatusOut : OutputModel := proxmoxOut
  [("node",.str),("vmid",.int),("name",.optional .str),("status",.optional .str),("uptime_seconds",.optional .int),
    ("cpu_usage",.optional .float),("cpu_count",.optional .int),("memory_used_bytes",.optional .int),
    ("memory_total_bytes",.optional .int),("swap_used_bytes",.optional .int),("swap_total_bytes",.optional .int),
    ("disk_used_bytes",.optional .int),("disk_total_bytes",.optional .int),("template",.optional .bool),("tags",.optional .str)]

def containerConfigOut : OutputModel := proxmoxOut
  [("node",.str),("vmid",.int),("hostname",.optional .str),("config_digest",.optional .str),("os_type",.optional .str),
    ("architecture",.optional .str),("cores",.optional .int),("memory_mb",.optional .int),("swap_mb",.optional .int),
    ("unprivileged",.optional .bool),("protection",.optional .bool),("start_on_boot",.optional .bool),("tags",.optional .str)]

def storageSummaryOut : OutputModel :=
  [("node",.str),("storage",.str),("storage_type",.optional .str),("content",.optional .str),("active",.optional .bool),
    ("enabled",.optional .bool),("shared",.optional .bool),("total_bytes",.optional .int),("used_bytes",.optional .int),
    ("available_bytes",.optional .int),("used_fraction",.optional .float)]

def storageListOut : OutputModel := proxmoxOut [("nodes_queried",.list .str),("storages",.list (.model storageSummaryOut))]

/-- The `output_model` that `tools/catalog/proxmox.py` declares for each tool. -/
def outputModels : List (String × OutputModel) :=
  [("proxmox.cluster.status",clusterStatusOut),("proxmox.node.list",nodeListOut),("proxmox.guest.list",guestListOut),
    ("proxmox.storage.list",storageListOut),("proxmox.node.status",nodeStatusOut),("proxmox.node.network",nodeNetworkOut),
    ("proxmox.vm.status",vmStatusOut),("proxmox.vm.config",vmConfigOut),("proxmox.container.status",containerStatusOut),
    ("proxmox.container.config",containerConfigOut)]

end Models

section Conformity

-- A datetime is told by the text that JSON has for it.
variable (isoformat : Time → String)

mutual
/-- The value is of the declared type as it stands, with no coercion and no default left to the model. -/
inductive Conforms : Annotation → Json → Prop
  | str (value : String) : Conforms .str (.str value)
  | int (value : Int) : Conforms .int (.int value)
  | float (value : Rat) : Conforms .float (.float value)
  | nonFinite (value : NonFinite) : Conforms .float (.nonFinite value)
  | bool (value : Bool) : Conforms .bool (.bool value)
  | datetime (value : Time) : Conforms .datetime (.str (isoformat value))
  | none {of : Annotation} : Conforms (.optional of) .null
  | some {of : Annotation} {value : Json} (conforms : Conforms of value) : Conforms (.optional of) value
  | list {of : Annotation} {items : List Json} (each : ∀ item ∈ items, Conforms of item) : Conforms (.list of) (.arr items)
  | model {fields : OutputModel} {report : JsonObject} (each : Reports fields report) : Conforms (.model fields) (.obj report)
/-- A report has the declared fields and no others. -/
inductive Reports : OutputModel → JsonObject → Prop
  | nil : Reports [] []
  | cons {name : String} {of : Annotation} {value : Json} {fields : OutputModel} {report : JsonObject}
    (first : Conforms of value) (rest : Reports fields report) : Reports ((name,of)::fields) ((name,value)::report)
end

end Conformity

end Acop.Proxmox
