import Acop.Guarantee.Inventories
import Acop.Guarantee.Canonicity

/-! The guest listing and the routing of guest-scoped reads take the same answer apart by different
coercions: where they agree on a guest, and where they part. -/
namespace Acop.Proxmox

section Rules

def IsNumber : Json → Prop
  | .int _ | .float _ | .nonFinite _ => True
  | _ => False

/-- The text contains one of the four information separators, which `strip` takes off and `int` does not. -/
def Separated (value : String) : Prop := ∃ char ∈ value.toList, '\u001c' ≤ char ∧ char ≤ '\u001f'

/-- Python's texts of numbers and its reading of integers, as far as the two coercions rest on them. -/
structure Literals (text : Text) : Prop where
  /-- `int` takes the other blanks round a literal. -/
  int_strip : ∀ value, ¬ Separated value → text.int (strip value) = text.int value
  int_separated : ∀ value, Separated value → text.int value = none
  /-- The text of a truth value or of a float is no integer literal. -/
  int_bool : ∀ value, text.int (text.str (.bool value)) = none
  int_float : ∀ value, text.int (text.str (.float value)) = none
  lower_empty : text.lower "" = ""
  /-- The text of a number has no blanks round it and is no technology's name. -/
  str_number : ∀ value, IsNumber value → strip (text.str value) = text.str value ∧ text.str value ≠ "" ∧
    text.lower (text.str value) ∉ [guestTypeQemu,guestTypeLxc]

variable (text : Text) (record row : JsonObject)

structure ShowsGuest (vmid : Int) (guestType node : String) : Prop where
  vmid : Json.get row "vmid" = some (.int vmid)
  guestType : ∃ written, Json.get row "guest_type" = some (.str written) ∧ text.lower written = guestType
  node : Json.get row "node" = some (.str node)

/-- The VMID is an integer, or a text without separators. -/
def Written : Prop := (∃ vmid, field record "vmid" = .int vmid) ∨ ∃ vmid, field record "vmid" = .str vmid ∧ ¬ Separated vmid

/-- The node is not the number zero, which the routing takes for no node. -/
def Homed : Prop := field record "node" ≠ .int 0 ∧ field record "node" ≠ .float 0

/-- The listing has the guest once, of the records whose VMID is so written, and its row names the node. -/
def ListedOnce (pairs : List (JsonObject × JsonObject)) (vmid : Int) (guestType node : String) (record : JsonObject) : Prop :=
  ∃ before row after, pairs = before ++ (record,row)::after ∧ ShowsGuest text row vmid guestType node ∧ Written record ∧ Homed record ∧
    ∀ other ∈ before ++ after, Written other.1 → ∀ node, ¬ ShowsGuest text other.2 vmid guestType node

end Rules

section Entry

variable {text : Text} {observer : Observer} {entry row : JsonObject} {key : String}

theorem textOf_field (literals : Literals text) {value : String} (read : asStr text (field entry key) = some value) :
    textOf text entry key = value ∨ textOf text entry key = "" ∧ (field entry key = .int 0 ∨ field entry key = .float 0) := by
  unfold textOf
  unfold field at read ⊢
  cases found : Json.get entry key with
  | none => rw [found] at read; cases read
  | some json =>
    rw [found,Option.getD_some] at read
    cases json with
    | null => cases read
    | bool _ => cases read
    | arr _ => cases read
    | obj _ => cases read
    | nonFinite kind =>
      cases read
      exact .inl (literals.str_number (.nonFinite kind) trivial).1
    | int number =>
      cases read
      by_cases zero : number = 0
      · rw [zero]
        exact .inr ⟨rfl,.inl rfl⟩
      · have trimmed := (literals.str_number (.int number) trivial).1
        left
        split <;> simp_all
    | float number =>
      cases read
      dsimp only
      split
      · rename_i zero
        rw [zero]
        exact .inr ⟨rfl,.inr rfl⟩
      · exact .inl (literals.str_number (.float number) trivial).1
    | str written =>
      simp only [asStr] at read
      split at read
      · cases read
      · cases read
        exact .inl rfl

theorem textOf_type (literals : Literals text) {written guestType : String} (kind : guestType ∈ [guestTypeQemu,guestTypeLxc])
    (read : asStr text (field entry key) = some written) : text.lower (textOf text entry key) = guestType ↔ text.lower written = guestType := by
  rcases textOf_field literals read with same | ⟨empty,zero⟩
  · rw [same]
  · have named : IsNumber (field entry key) ∧ written = text.str (field entry key) := by
      rcases zero with zero | zero <;> rw [zero] at read ⊢ <;> exact ⟨trivial,(Option.some.inj read).symm⟩
    constructor
    · intro same
      rw [empty,literals.lower_empty] at same
      rw [← same] at kind
      exact absurd kind (by decide)
    · intro same
      rw [named.2] at same
      exact absurd (same ▸ kind) (literals.str_number _ named.1).2.2

/-- The routing has the listing's VMID of a record where the record writes an integer, or a text without separators. -/
theorem recordVmid_listed (literals : Literals text) {listed vmid : Int} (read : asInt text (field entry "vmid") = .ok (some listed)) :
    recordVmid text entry = some vmid ↔ Written entry ∧ listed = vmid := by
  unfold recordVmid Written
  unfold field at read ⊢
  cases found : Json.get entry "vmid" with
  | none =>
    rw [found] at read
    cases read
  | some json =>
    rw [found,Option.getD_some] at read
    simp only [Option.getD_some]
    cases json with
    | null => cases read
    | arr _ => cases read
    | obj _ => cases read
    | nonFinite kind => cases kind <;> cases read
    | bool _ => simp [literals.int_bool]
    | float _ => simp [literals.int_float]
    | int number =>
      cases read
      simp
    | str written =>
      by_cases separated : Separated written
      · simp [literals.int_separated written separated,separated]
      · have same : text.int written = some listed := (literals.int_strip written separated).symm.trans (Except.ok.inj read)
        simp [same,separated]

/-- The routing takes a record for the guest where the record's row is of the guest and its VMID is so written. -/
theorem matches_lists (literals : Literals observer.text) {vmid : Int} {guestType : String}
    (kind : guestType ∈ [guestTypeQemu,guestTypeLxc]) (made : GuestRow observer entry row) :
    Matches observer.text vmid guestType entry ↔ Written entry ∧ ∃ node, ShowsGuest observer.text row vmid guestType node := by
  obtain ⟨⟨listed,read,shown⟩,⟨technology,named,column⟩,⟨node,_,home⟩⟩ := made
  unfold Matches
  rw [textOf_type literals kind named,recordVmid_listed literals read]
  constructor
  · rintro ⟨same,written,rfl⟩
    exact ⟨written,node,shown,⟨technology,column,same⟩,home⟩
  · rintro ⟨written,_,shown',⟨technology',column',same⟩,_⟩
    rw [shown] at shown'
    rw [column] at column'
    cases shown'
    cases column'
    exact ⟨same,written,rfl⟩

theorem asStr_present (literals : Literals text) {value : Json} {name : String} (read : asStr text value = some name) : name ≠ "" := by
  cases value with
  | int number =>
    cases read
    exact (literals.str_number (.int number) trivial).2.1
  | float number =>
    cases read
    exact (literals.str_number (.float number) trivial).2.1
  | nonFinite kind =>
    cases read
    exact (literals.str_number (.nonFinite kind) trivial).2.1
  | str written =>
    simp only [asStr] at read
    split at read
    · cases read
    · cases read
      assumption
  | _ => cases read

theorem textOf_zero (zero : field entry key = .int 0 ∨ field entry key = .float 0) : textOf text entry key = "" := by
  unfold textOf
  unfold field at zero
  cases found : Json.get entry key with
  | none => rfl
  | some value =>
    rw [found,Option.getD_some] at zero
    rcases zero with rfl | rfl <;> rfl

theorem textOf_node (literals : Literals observer.text) {node : String} (made : GuestRow observer entry row) :
    textOf observer.text entry "node" = node ∧ node ≠ "" ↔ Homed entry ∧ Json.get row "node" = some (.str node) := by
  obtain ⟨_,_,name,read,home⟩ := made
  rw [home]
  constructor
  · rintro ⟨rfl,present⟩
    have homed : Homed entry := by
      refine ⟨fun zero => present (textOf_zero (.inl zero)),fun zero => present (textOf_zero (.inr zero))⟩
    rcases textOf_field literals read with same | ⟨empty,_⟩
    · exact ⟨homed,by rw [same]⟩
    · exact absurd empty present
  · rintro ⟨homed,same⟩
    obtain rfl : name = node := Json.str.inj (Option.some.inj same)
    rcases textOf_field literals read with same | ⟨_,zero⟩
    · exact ⟨same,asStr_present literals read⟩
    · exact (zero.elim homed.1 homed.2).elim

end Entry

section Resolution

theorem sole_fst {pairs : List (JsonObject × JsonObject)} {meant : JsonObject → Prop} {record : JsonObject} :
    Sole meant (pairs.map Prod.fst) record ↔ ∃ before row after, pairs = before ++ (record,row)::after ∧ meant record ∧
      ∀ other ∈ before ++ after, ¬ meant other.1 := by
  constructor
  · rintro ⟨firsts,lasts,split,one,alone⟩
    obtain ⟨before,rest,rfl,rfl,tail⟩ := List.map_eq_append_iff.mp split
    obtain ⟨⟨_,row⟩,after,rfl,rfl,rfl⟩ := List.map_eq_cons_iff.mp tail
    refine ⟨before,row,after,rfl,one,?_⟩
    intro other member
    exact alone other.1 (by rw [← List.map_append]; exact List.mem_map_of_mem member)
  · rintro ⟨before,row,after,rfl,one,alone⟩
    refine ⟨before.map Prod.fst,after.map Prod.fst,List.map_append,one,?_⟩
    intro other member
    rw [← List.map_append] at member
    obtain ⟨pair,present,rfl⟩ := List.mem_map.mp member
    exact alone pair present

theorem mem_beside {Item : Type} {before after : List Item} {one other : Item} (member : other ∈ before ++ after) :
    other ∈ before ++ one::after := by
  rcases List.mem_append.mp member with early | late
  · exact List.mem_append_left _ early
  · exact List.mem_append_right _ (.tail _ late)

end Resolution

/-- The routing finds a guest where the listing of the same answer has it once, and then on the node that the listing
names: of the records whose VMID is an integer or a text without separators, unless the node is the number zero. -/
theorem listing_routes (observer : Observer) (literals : Literals observer.text) (now : Time) (instanceId : String)
    (target : ResolvedTarget) (guestType : String) (kind : guestType ∈ [guestTypeQemu,guestTypeLxc]) (vmid : Int)
    (parsed : parseVmid observer.text target instanceId = .ok vmid) (data : Json) (report : JsonObject)
    (reported : observer.guestList now instanceId data = .ok report) :
    ∃ pairs : List (JsonObject × JsonObject), data = .arr ((pairs.map Prod.fst).map .obj) ∧
      Json.get report "guests" = some (.arr ((pairs.map Prod.snd).map .obj)) ∧
      ∀ node record, resolveGuest observer.text target instanceId guestType (.ok data) = .ok ⟨vmid,guestType,node,record⟩ ↔
        ListedOnce observer.text pairs vmid guestType node record := by
  obtain ⟨entries,read,made⟩ := bind_ok reported
  obtain ⟨rows,each,headed⟩ := bind_ok made
  obtain ⟨_,rfl,last⟩ := headed_ok headed
  obtain ⟨_,rfl,_⟩ := document_cons last
  obtain ⟨same,related⟩ := List.forall₂_iff_zip.mp ((mapM_forall each).imp fun _ _ => guestEntry_row)
  obtain rfl := entriesOf_ok read
  have firsts : (entries.zip rows).map Prod.fst = entries := List.map_fst_zip same.le
  have seconds : (entries.zip rows).map Prod.snd = rows := List.map_snd_zip same.ge
  refine ⟨entries.zip rows,by rw [firsts],by rw [seconds]; rfl,?_⟩
  intro node record
  have kept : ∀ entry row, (entry,row) ∈ entries.zip rows → (Matches observer.text vmid guestType entry ↔
      Written entry ∧ ∃ node, ShowsGuest observer.text row vmid guestType node) :=
    fun entry row member => matches_lists literals kind (related member)
  have lists : Inventoried (.ok (.arr (entries.map .obj))) ((entries.zip rows).map Prod.fst) := by rw [firsts]; rfl
  rw [resolveGuest_iff parsed lists,sole_fst]
  constructor
  · rintro ⟨_,_,⟨before,row,after,split,one,alone⟩,routed⟩
    have member : (record,row) ∈ entries.zip rows := split ▸ List.mem_append_right _ (.head _)
    obtain ⟨written,_,shown⟩ := (kept record row member).mp one
    obtain ⟨homed,home⟩ := (textOf_node literals (related member)).mp routed
    refine ⟨before,row,after,split,⟨shown.vmid,shown.guestType,home⟩,written,homed,?_⟩
    intro other listed written node shown
    exact alone other listed ((kept other.1 other.2 (split ▸ mem_beside listed)).mpr ⟨written,node,shown⟩)
  · rintro ⟨before,row,after,split,shown,written,homed,alone⟩
    have member : (record,row) ∈ entries.zip rows := split ▸ List.mem_append_right _ (.head _)
    refine ⟨rfl,rfl,⟨before,row,after,split,(kept record row member).mpr ⟨written,node,shown⟩,?_⟩,
      (textOf_node literals (related member)).mpr ⟨homed,shown.node⟩⟩
    intro other listed one
    obtain ⟨written,node,shown⟩ := (kept other.1 other.2 (split ▸ mem_beside listed)).mp one
    exact alone other listed written node shown

section Laboratory

def separated (value : String) : Bool := value.toList.any fun char => '\u001c' ≤ char ∧ char ≤ '\u001f'

theorem strip_mem {value : String} {char : Char} (member : char ∈ (strip value).toList) : char ∈ value.toList := by
  rw [strip,String.toList_ofList,List.mem_reverse] at member
  have later := (List.dropWhile_sublist _).mem member
  exact (List.dropWhile_sublist _).mem (List.mem_reverse.mp later)

theorem separated_iff {value : String} : separated value = true ↔ Separated value := by
  simp [separated,Separated]

/-- The laboratory's text, with what Python reads round a literal and writes for a truth value and for a float. -/
def literalText : Text := {labText with
  int := fun value => if separated value then none else labText.int (strip value)
  str := fun value => match value with
    | .bool true => "True"
    | .bool false => "False"
    | _ => "1.5"}

theorem floatText_plain : literalText.int "1.5" = none ∧ strip "1.5" = "1.5" ∧ "1.5" ≠ "" ∧
    literalText.lower "1.5" ∉ [guestTypeQemu,guestTypeLxc] := by
  decide +kernel

theorem literalText_literals : Literals literalText where
  int_strip := by
    intro value plain
    have stripped : ¬ Separated (strip value) := fun ⟨char,member,range⟩ => plain ⟨char,strip_mem member,range⟩
    unfold literalText
    dsimp only
    rw [if_neg (separated_iff.not.mpr plain),if_neg (separated_iff.not.mpr stripped),Cmdb.strip_strip]
  int_separated := fun value member => if_pos (separated_iff.mpr member)
  int_bool := by decide +kernel
  int_float := fun _ => floatText_plain.1
  lower_empty := by decide
  str_number := by
    intro value number
    cases value with
    | int _ => exact floatText_plain.2
    | float _ => exact floatText_plain.2
    | nonFinite _ => exact floatText_plain.2
    | _ => exact number.elim

/-- The guest in blanks, and another record of it behind a separator. -/
def labDirectory : Json := .arr
  [.obj [("type",.str "qemu"),("vmid",.str " 100\n"),("node",.str "one")],
    .obj [("type",.str "qemu"),("vmid",.str "\u001c100"),("node",.str "two")]]

theorem listing_routes_lab : ∃ report,
    ({labObserver with text := literalText} : Observer).guestList 0 "lab" labDirectory = .ok report ∧
    ∃ pairs : List (JsonObject × JsonObject), labDirectory = .arr ((pairs.map Prod.fst).map .obj) ∧
      Json.get report "guests" = some (.arr ((pairs.map Prod.snd).map .obj)) ∧
      ∀ node record, resolveGuest literalText labMachine "lab" "qemu" (.ok labDirectory) = .ok ⟨100,"qemu",node,record⟩ ↔
        ListedOnce literalText pairs 100 "qemu" node record :=
  ⟨_,rfl,listing_routes {labObserver with text := literalText} literalText_literals 0 "lab" labMachine "qemu" (by decide) 100
    rfl labDirectory _ rfl⟩

example : resolveGuest literalText labMachine "lab" "qemu" (.ok labDirectory) =
    .ok ⟨100,"qemu","one",[("type",.str "qemu"),("vmid",.str " 100\n"),("node",.str "one")]⟩ := rfl

end Laboratory

end Acop.Proxmox
