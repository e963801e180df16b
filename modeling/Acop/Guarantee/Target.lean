import Acop.Proxmox.Identity
import Acop.Proxmox.Laboratory

/-! Which Proxmox object an asset stands for: its live identifiers are folded by
namespace before the adapter sees them, in whatever order the query returned them. -/
namespace Acop

open Acop.Transaction

theorem lastWins_cons {Value : Type} (field : String × Value) (rest : List (String × Value)) :
    PyValue.lastWins (field::rest) =
      if (PyValue.lastWins rest).any (·.1 = field.1) then PyValue.lastWins rest else field::PyValue.lastWins rest := rfl

theorem any_lastWins {Value : Type} (fields : List (String × Value)) (key : String) :
    (PyValue.lastWins fields).any (·.1 = key) = fields.any (·.1 = key) := by
  induction fields with
  | nil => rfl
  | cons field rest ih =>
    rw [lastWins_cons]
    split
    · rename_i later
      by_cases same : field.1 = key
      · subst same
        simp [later]
      · simp [ih,same]
    · simp [ih]

theorem lookup_lastWins {Value : Type} (fields : List (String × Value)) (key : String) :
    (PyValue.lastWins fields).lookup key = ((fields.filter (·.1 = key)).getLast?).map (·.2) := by
  induction fields with
  | nil => rfl
  | cons field rest ih =>
    rw [lastWins_cons,any_lastWins]
    by_cases same : field.1 = key
    · subst same
      rw [List.filter_cons_of_pos (by simp)]
      split
      · rename_i later
        have some_later : rest.filter (·.1 = field.1) ≠ [] := by
          obtain ⟨other,member,matching⟩ := List.any_eq_true.mp later
          exact List.ne_nil_of_mem (List.mem_filter.mpr ⟨member,matching⟩)
        rw [ih,List.getLast?_cons_of_ne_nil some_later]
      · rename_i never
        have none_later : rest.filter (·.1 = field.1) = [] := by
          apply List.filter_eq_nil_iff.mpr
          intro other member matching
          exact never (List.any_eq_true.mpr ⟨other,member,matching⟩)
        rw [none_later]
        exact List.lookup_cons_self
    · rw [List.filter_cons_of_neg (by simpa using same),← ih]
      split
      · rfl
      · rw [List.lookup_cons,beq_eq_false_iff_ne.mpr (Ne.symm same)]

namespace Proxmox

section Rules

variable (text : Text) (db : Db) (asset : Asset) (toolName instanceId : String) (data : Except Refusal Json)
  (rows : List AssetIdentifier)

/-- The object that the tool reads, `none` where the adapter refuses. -/
def reached : Option Address :=
  (address text toolName instanceId data (ExecutionDispatcher.assetTarget asset rows)).toOption

/-- What the query for an asset's live identifiers may return. -/
def Returned : Prop := ∃ input, exec (.selectIdentifiers asset.id) db input = some (rows,[])

/-- The asset carries two live identifiers in a namespace. -/
def Several (namespaceName : String) : Prop :=
  2 ≤ ((db.liveIdentifiers asset.id).filter (·.namespaceName = namespaceName)).length

/-- A namespace of Proxmox identifiers, of whatever object. -/
def OfProxmox (namespaceName : String) : Prop := "proxmox:".toList <+: namespaceName.toList

def SameObject : Prop := ∀ first second, Returned db asset first → Returned db asset second →
  reached text asset toolName instanceId data first = reached text asset toolName instanceId data second

def pertinent (toolName : String) (rows : List AssetIdentifier) : List AssetIdentifier :=
  rows.filter fun row => row.namespaceName = (scopeOf toolName).namespaceName

end Rules

variable {text : Text} {db : Db} {asset : Asset} {toolName instanceId : String} {data : Except Refusal Json}
  {rows : List AssetIdentifier} {place : Address}

theorem returned_iff : Returned db asset rows ↔ rows.Perm (db.liveIdentifiers asset.id) := by
  constructor
  · intro ⟨input,answered⟩
    simp only [exec] at answered
    split at answered
    · rename_i permuted
      cases answered
      exact permuted
    · cases answered
  · intro permuted
    exact ⟨{identifiers := rows},if_pos permuted⟩

theorem registered_asset (asset : Asset) (rows : List AssetIdentifier) (toolName : String) :
    registered (ExecutionDispatcher.assetTarget asset rows) (scopeOf toolName).namespaceName =
      ((pertinent toolName rows).getLast?.map (·.valueNormalized)).getD "" := by
  simp only [registered,ExecutionDispatcher.assetTarget,lookup_lastWins,List.filter_map,List.getLast?_map,Option.map_map]
  rfl

theorem reached_iff : reached text asset toolName instanceId data rows = some place ↔
    Leads text instanceId data (((pertinent toolName rows).getLast?.map (·.valueNormalized)).getD "") (scopeOf toolName) place := by
  rw [← registered_asset asset rows toolName,← address_iff]
  unfold reached
  cases address text toolName instanceId data (ExecutionDispatcher.assetTarget asset rows) with
  | ok value => simp [Except.toOption]
  | error refusal => simp [Except.toOption]

theorem not_leads_blank {scope : Scope} : ¬ Leads text instanceId data "" scope place := by
  have blank : strip "" = "" := by decide
  have whole : ∀ {instancePart obj : String}, ¬ Scoped text instanceId "" instancePart obj := by
    intro instancePart obj parts
    have written := parts.written
    rw [blank] at written
    simp at written
  intro leads
  cases leads with
  | cluster present same => exact present blank
  | node parts lists sole => exact whole parts
  | guest parts form read lists sole routed => exact whole parts

theorem reached_none (empty : pertinent toolName rows = []) : reached text asset toolName instanceId data rows = none := by
  rw [Option.eq_none_iff_forall_ne_some]
  intro place there
  rw [reached_iff,empty] at there
  exact not_leads_blank there

theorem mem_pertinent {row : AssetIdentifier} :
    row ∈ pertinent toolName rows ↔ row ∈ rows ∧ row.namespaceName = (scopeOf toolName).namespaceName := by
  simp [pertinent]

theorem returned_ending {row : AssetIdentifier} (live : row ∈ pertinent toolName (db.liveIdentifiers asset.id)) :
    ∃ rows, Returned db asset rows ∧ ∀ place, reached text asset toolName instanceId data rows = some place ↔
      Leads text instanceId data row.valueNormalized (scopeOf toolName) place := by
  obtain ⟨listed,matching⟩ := mem_pertinent.mp live
  refine ⟨(db.liveIdentifiers asset.id).erase row ++ [row],?_,?_⟩
  · apply returned_iff.mpr
    exact List.perm_append_comm.trans (List.perm_cons_erase listed).symm
  · intro place
    rw [reached_iff]
    simp [pertinent,matching]

theorem reached_cases {rows : List AssetIdentifier} (returned : Returned db asset rows) :
    (pertinent toolName (db.liveIdentifiers asset.id) = [] ∧ reached text asset toolName instanceId data rows = none) ∨
      ∃ row ∈ pertinent toolName (db.liveIdentifiers asset.id), ∀ place,
        reached text asset toolName instanceId data rows = some place ↔
          Leads text instanceId data row.valueNormalized (scopeOf toolName) place := by
  have permuted : (pertinent toolName rows).Perm (pertinent toolName (db.liveIdentifiers asset.id)) :=
    (returned_iff.mp returned).filter _
  cases last : (pertinent toolName rows).getLast? with
  | none =>
    have empty := List.getLast?_eq_none_iff.mp last
    rw [empty] at permuted
    exact .inl ⟨permuted.nil_eq.symm,reached_none empty⟩
  | some row =>
    refine .inr ⟨row,permuted.mem_iff.mp (List.mem_of_getLast? last),?_⟩
    intro place
    rw [reached_iff,last]
    rfl

theorem sameObject_iff : SameObject text db asset toolName instanceId data ↔
    ∀ row ∈ pertinent toolName (db.liveIdentifiers asset.id), ∀ other ∈ pertinent toolName (db.liveIdentifiers asset.id),
      ∀ place, Leads text instanceId data row.valueNormalized (scopeOf toolName) place ↔
        Leads text instanceId data other.valueNormalized (scopeOf toolName) place := by
  constructor
  · intro same row member other member' place
    obtain ⟨first,returned,ends⟩ := @returned_ending text _ _ _ instanceId data _ member
    obtain ⟨second,returned',ends'⟩ := @returned_ending text _ _ _ instanceId data _ member'
    rw [← ends,← ends',same first second returned returned']
  · intro same first second returned returned'
    rcases reached_cases returned with ⟨empty,refused⟩ | ⟨row,member,leads⟩
    · rcases reached_cases returned' with ⟨_,refused'⟩ | ⟨row',member',_⟩
      · exact refused.trans refused'.symm
      · rw [empty] at member'
        cases member'
    · rcases reached_cases returned' with ⟨empty,_⟩ | ⟨row',member',leads'⟩
      · rw [empty] at member
        cases member
      · exact Option.ext fun place => (leads place).trans ((same row member row' member' place).trans (leads' place).symm)

theorem ofProxmox_scope (scope : Scope) : OfProxmox scope.namespaceName := by
  cases scope with
  | cluster => exact (by decide : "proxmox:".toList <+: nsInstance.toList)
  | node => exact (by decide : "proxmox:".toList <+: nsNode.toList)
  | guest guestType => exact (by decide : "proxmox:".toList <+: nsGuest.toList)

theorem pertinent_unique (single : ¬ Several db asset (scopeOf toolName).namespaceName) {row other : AssetIdentifier}
    (member : row ∈ pertinent toolName (db.liveIdentifiers asset.id))
    (member' : other ∈ pertinent toolName (db.liveIdentifiers asset.id)) : row = other := by
  have short : (pertinent toolName (db.liveIdentifiers asset.id)).length < 2 := Nat.lt_of_not_le single
  match found : pertinent toolName (db.liveIdentifiers asset.id) with
  | [] =>
    rw [found] at member
    cases member
  | [only] =>
    rw [found,List.mem_singleton] at member member'
    exact member.trans member'.symm
  | _::_::_ =>
    rw [found] at short
    simp only [List.length_cons] at short
    omega

/-- One object for one target: exactly where no two live identifiers share a Proxmox
namespace, or none in the tool's own namespace leads anywhere. -/
theorem one_target (text : Text) (db : Db) (asset : Asset) (toolName instanceId : String) (data : Except Refusal Json) :
    (SameObject text db asset toolName instanceId data ↔
      ∀ row ∈ pertinent toolName (db.liveIdentifiers asset.id), ∀ other ∈ pertinent toolName (db.liveIdentifiers asset.id),
        ∀ place, Leads text instanceId data row.valueNormalized (scopeOf toolName) place ↔
          Leads text instanceId data other.valueNormalized (scopeOf toolName) place) ∧
    ((SameObject text db asset toolName instanceId data ∧
      ((∃ namespaceName, OfProxmox namespaceName ∧ Several db asset namespaceName) →
        ∀ rows, Returned db asset rows → reached text asset toolName instanceId data rows = none)) ↔
      (∀ namespaceName, OfProxmox namespaceName → ¬ Several db asset namespaceName) ∨
        ∀ row ∈ pertinent toolName (db.liveIdentifiers asset.id), ∀ place,
          ¬ Leads text instanceId data row.valueNormalized (scopeOf toolName) place) := by
  refine ⟨sameObject_iff,?_⟩
  constructor
  · intro ⟨_,refused⟩
    by_cases several : ∃ namespaceName, OfProxmox namespaceName ∧ Several db asset namespaceName
    · apply Or.inr
      intro row member place leads
      obtain ⟨rows,returned,ends⟩ := @returned_ending text _ _ _ instanceId data _ member
      cases (refused several rows returned).symm.trans ((ends place).mpr leads)
    · apply Or.inl
      intro namespaceName listed shared
      exact several ⟨namespaceName,listed,shared⟩
  · rintro (single | nowhere)
    · refine ⟨sameObject_iff.mpr ?_,?_⟩
      · intro row member other member' place
        rw [pertinent_unique (single _ (ofProxmox_scope _)) member member']
      · intro ⟨namespaceName,listed,shared⟩
        exact absurd shared (single namespaceName listed)
    · have refused : ∀ rows, Returned db asset rows → reached text asset toolName instanceId data rows = none := by
        intro rows returned
        rcases reached_cases returned with ⟨_,none⟩ | ⟨row,member,leads⟩
        · exact none
        · exact Option.eq_none_iff_forall_ne_some.mpr fun place there => nowhere row member place ((leads place).mp there)
      refine ⟨?_,fun _ => refused⟩
      intro first second returned returned'
      rw [refused first returned,refused second returned']

def labBox : Asset where
  displayName := "box"
  id := 9
  assetType := "VIRTUAL_MACHINE"

def labGuest (valueNormalized : String) : AssetIdentifier where
  assetId := 9
  namespaceName := nsGuest
  valueNormalized

def twoGuests : Db where
  invocations := ∅
  registrations := ∅
  assets := (∅ : AList fun _ : Uuid => Asset).insert 9 labBox
  identifiers := [labGuest "lab/100",labGuest "lab/200"]
  approvals := []
  events := []
  reconciliations := []

/-- One asset, two guests: the row that comes last decides which machine is read. -/
theorem one_asset_two_guests :
    Returned twoGuests labBox [labGuest "lab/100",labGuest "lab/200"] ∧
      Returned twoGuests labBox [labGuest "lab/200",labGuest "lab/100"] ∧
      reached labText labBox "proxmox.vm.status" "lab" (.ok labInventory) [labGuest "lab/100",labGuest "lab/200"] =
        some (.guest "lab" 200 "qemu" "two") ∧
      reached labText labBox "proxmox.vm.status" "lab" (.ok labInventory) [labGuest "lab/200",labGuest "lab/100"] =
        some (.guest "lab" 100 "qemu" "one") := by
  refine ⟨returned_iff.mpr ?_,returned_iff.mpr ?_,?_⟩
  · decide +kernel
  · decide +kernel
  · decide +kernel

end Proxmox

end Acop
