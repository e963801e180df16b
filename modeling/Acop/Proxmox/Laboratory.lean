import Acop.Proxmox.Projection

/-! Data to run concrete conversations on: guests on two nodes, a target of each kind, and
text as Python has it on ASCII. -/
namespace Acop.Proxmox

def labText : Text where
  lower := fun value => String.ofList (value.toList.map Char.toLower)
  isDigit := fun value => value ≠ "" && value.toList.all Char.isDigit
  int := fun value => if value ≠ "" && value.toList.all Char.isDigit then
      some (value.toList.foldl (fun n digit => 10 * n + (digit.toNat - 48)) 0)
    else none
  str := fun _ => ""

def labFloats : Floats := ⟨fun _ => none,fun _ => none⟩

def labProjection : Projection where
  instance_ := fun _ _ _ => .ok []
  node := fun _ _ _ _ => .ok []
  guest := fun _ _ _ _ => .ok []
  storageEntries := fun _ _ => .ok []
  storageList := fun _ _ _ => .ok []

def labInventory : Json := .arr
  [.obj [("type",.str "qemu"),("vmid",.int 100),("node",.str "one")],
    .obj [("type",.str "qemu"),("vmid",.int 200),("node",.str "two")]]

def labelled (value : String) : ResolvedTarget where
  kind := .asset
  identifiers := [(nsGuest,value)]

def labMachine : ResolvedTarget := labelled "lab/100"

def labCluster : ResolvedTarget where
  kind := .asset
  identifiers := [(nsInstance,"lab")]

end Acop.Proxmox
