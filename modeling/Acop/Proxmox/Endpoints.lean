import Acop.Proxmox

/-! `tools/adapters/proxmox/endpoints.py`: the endpoint allow-list. -/
namespace Acop.Proxmox

section Pattern

def isNodeStart (char : Char) : Bool := char.isAlphanum

def isNodeChar (char : Char) : Bool := char.isAlphanum || char ∈ ['.','_','-']

/-- `_NODE_PATTERN`. `$` also matches before one final newline. -/
def matchesNode (value : String) : Bool :=
  match withoutFinalNewline value.toList with
  | [] => false
  | first::rest => isNodeStart first && rest.all isNodeChar && rest.length ≤ 62

/-- `_VMID_PATTERN`. -/
def matchesVmid (value : String) : Bool :=
  match withoutFinalNewline value.toList with
  | [] => false
  | first::rest => ('1' ≤ first && first ≤ '9') && rest.all Char.isDigit && rest.length ≤ 8

def segmentPatterns : List (String × (String → Bool)) := [("node",matchesNode),("vmid",matchesVmid)]

end Pattern

section Quote

def unreserved (char : Char) : Bool := char.isAlphanum || char ∈ ['_','.','-','~']

def escapeDigit (digit : Nat) : Char := (Nat.digitChar digit).toUpper

/-- A character as `quote` leaves it, or its UTF-8 bytes escaped. -/
def quoteChar (char : Char) : List Char :=
  if unreserved char then [char]
  else (String.utf8EncodeChar char).flatMap fun byte => ['%',escapeDigit (byte.toNat / 16),escapeDigit (byte.toNat % 16)]

/-- `quote(value, safe="")`. -/
def quote (value : String) : String := String.ofList (value.toList.flatMap quoteChar)

end Quote

structure EndpointTemplate where
  template : String
  segments : List String := []
  query : List (String × String) := []

/-- `str.format` with the rendered segments: literal text, or the name of a placeholder so far. -/
def formatFrom (rendered : List (String × String)) : Option (List Char) → List Char → List Char
  | none,[] => []
  | none,char::rest => if char = '\x7b' then formatFrom rendered (some []) rest else char::formatFrom rendered none rest
  | some _,[] => []
  | some name,char::rest =>
    if char = '\x7d' then ((rendered.lookup (String.ofList name)).getD "").toList ++ formatFrom rendered none rest
    else formatFrom rendered (some (name ++ [char])) rest

namespace EndpointTemplate

variable (endpoint : EndpointTemplate)

/-- The body of the loop of `build`. -/
def render (values : List (String × String)) (name : String) : Except Refusal (String × String) :=
  let value := (values.lookup name).getD ""
  if ¬ (segmentPatterns.lookup name).any (fun pattern => pattern value) then
    .error (.proxmox .protocol s!"Proxmox reported a {name} that ACOP will not put in a URL."
      [("template",.str endpoint.template),("segment",.str name)])
  else .ok (name,quote value)

def build (values : List (String × String)) : Except Refusal (String × List (String × String)) := do
  let missing := endpoint.segments.filter fun name => (values.lookup name).getD "" = ""
  if missing ≠ [] then
    let names := missing.insertionSort (· ≤ ·)
    throw (.proxmox .protocol
      s!"Endpoint {endpoint.template} needs {reprNames names} and none was derived from a trusted source."
      [("template",.str endpoint.template),("missing",.strings names)])
  let rendered ← endpoint.segments.mapM (endpoint.render values)
  return (String.ofList (formatFrom rendered none endpoint.template.toList),endpoint.query)

end EndpointTemplate

def toolEndpoints : List (String × EndpointTemplate) :=
  [("proxmox.cluster.status",{template := "/api2/json/cluster/status"}),
    ("proxmox.node.list",{template := "/api2/json/nodes"}),
    ("proxmox.node.status",{template := "/api2/json/nodes/\x7bnode\x7d/status",segments := ["node"]}),
    ("proxmox.node.network",{template := "/api2/json/nodes/\x7bnode\x7d/network",segments := ["node"]}),
    ("proxmox.guest.list",{template := "/api2/json/cluster/resources",query := [("type","vm")]}),
    ("proxmox.vm.status",{
      template := "/api2/json/nodes/\x7bnode\x7d/qemu/\x7bvmid\x7d/status/current",segments := ["node","vmid"]}),
    ("proxmox.vm.config",{
      template := "/api2/json/nodes/\x7bnode\x7d/qemu/\x7bvmid\x7d/config",segments := ["node","vmid"]}),
    ("proxmox.container.status",{
      template := "/api2/json/nodes/\x7bnode\x7d/lxc/\x7bvmid\x7d/status/current",segments := ["node","vmid"]}),
    ("proxmox.container.config",{
      template := "/api2/json/nodes/\x7bnode\x7d/lxc/\x7bvmid\x7d/config",segments := ["node","vmid"]}),
    ("proxmox.storage.list",{template := "/api2/json/nodes/\x7bnode\x7d/storage",segments := ["node"]})]

end Acop.Proxmox
