import Acop.Guarantee.Paths

/-! To which guest a guest-scoped read is routed, by the registered identifier and the live
inventory, and what becomes of an identifier that does not end in a VMID. -/
namespace Acop.Proxmox
open Acop.Transaction

section Rules

variable (text : Text) (target : ResolvedTarget) (instanceId : String)

/-- The registered identifier is `<instance>/<vmid>`, of this instance, with a positive integer for the VMID. -/
def Names (vmid : Int) : Prop :=
  ∃ instancePart obj, Scoped text instanceId (registered target nsGuest) instancePart obj ∧ VmidForm text obj ∧
    text.int obj = some vmid ∧ 0 < vmid

/-- What the records of an inventory say of a guest. -/
inductive Located (vmid : Int) (guestType : String) (listing : List JsonObject) : Except Refusal GuestLocation → Prop
  | missing {message : String} {context : JsonObject} (none : ∀ record ∈ listing, ¬ Matches text vmid guestType record) :
    Located vmid guestType listing (.error (.proxmox .objectNotFound message context))
  | several {message : String} {context : JsonObject} {before middle after : List JsonObject} {first second : JsonObject}
    (listed : listing = before ++ first::(middle ++ second::after)) (one : Matches text vmid guestType first)
    (other : Matches text vmid guestType second) :
    Located vmid guestType listing (.error (.proxmox .ambiguousObject message context))
  | found {before after : List JsonObject} {record : JsonObject} (listed : listing = before ++ record::after)
    (one : Matches text vmid guestType record) (alone : ∀ other ∈ before ++ after, ¬ Matches text vmid guestType other)
    (routed : textOf text record "node" ≠ "") :
    Located vmid guestType listing (.ok ⟨vmid,guestType,textOf text record "node",record⟩)
  | nodeless {message : String} {context : JsonObject} {before after : List JsonObject} {record : JsonObject}
    (listed : listing = before ++ record::after) (one : Matches text vmid guestType record)
    (alone : ∀ other ∈ before ++ after, ¬ Matches text vmid guestType other) (unrouted : textOf text record "node" = "") :
    Located vmid guestType listing (.error (.proxmox .protocol message context))

def Refusal.Classified (refusal : Refusal) : Prop := ∃ kind message context, refusal = .proxmox kind message context

def guestTools : List String :=
  ["proxmox.vm.status","proxmox.vm.config","proxmox.container.status","proxmox.container.config"]

structure Routed : Prop where
  /-- A request is sent only for an identifier of this instance that ends in a VMID. -/
  asked : ∀ (projection : Projection) (toolName toolVersion : String) (remote : Remote Answer) (before after : Exchanges)
    (path : String) (query : List (String × String)) (answer : Except AdapterFault Json), toolName ∈ guestTools →
    ((execute text projection target (.ok instanceId) toolName toolVersion).converse remote []).1 =
      before ++ ⟨.get path query,answer⟩::after → ∃ vmid, Names text target instanceId vmid
  located : ∀ (vmid : Int) (guestType : String) (data : Json) (listing : List JsonObject), Names text target instanceId vmid →
    records data guestInventory = .ok listing →
      Located text vmid guestType listing (resolveGuest text target instanceId guestType (.ok data))
  classified : ∀ refusal, parseVmid text target instanceId = .error refusal → refusal.Classified
  resolution : ∀ (guestType : String) (data : Json) (refusal : Refusal),
    resolveGuest text target instanceId guestType (.ok data) = .error refusal → refusal.Classified

end Rules

section Identifier

variable {text : Text} {target : ResolvedTarget} {instanceId namespaceName obj : String} {refusal : Refusal}

theorem identifier_error (failed : identifier target namespaceName = .error refusal) : refusal.Classified := by
  unfold identifier at failed
  dsimp only at failed
  split at failed
  · cases failed
    exact ⟨_,_,_,rfl⟩
  · cases failed

theorem scopedObject_error (failed : scopedObject text target namespaceName instanceId = .error refusal) : refusal.Classified := by
  unfold scopedObject at failed
  cases read : identifier target namespaceName with
  | error other =>
    rw [read] at failed
    obtain rfl := Except.error.inj failed
    exact identifier_error read
  | ok value =>
    rw [read,ok_bind] at failed
    dsimp only at failed
    split at failed
    · exact ⟨_,_,_,(Except.error.inj failed).symm⟩
    · split at failed
      · exact ⟨_,_,_,(Except.error.inj failed).symm⟩
      · cases failed

/-- A parse fails with one of the adapter's classes, unless Python cannot read the number. -/
theorem parseVmid_classified : (∀ refusal, parseVmid text target instanceId = .error refusal → refusal.Classified) ↔
    ∀ instancePart obj, Scoped text instanceId (registered target nsGuest) instancePart obj → VmidForm text obj →
      ∃ vmid, text.int obj = some vmid := by
  constructor
  · intro classified instancePart obj parts form
    by_contra unread
    have unread : text.int obj = none := Option.eq_none_iff_forall_ne_some.mpr fun vmid read => unread ⟨vmid,read⟩
    have failed : parseVmid text target instanceId = .error .valueError := by
      unfold parseVmid
      rw [scopedObject_ok.mpr ⟨instancePart,parts⟩,ok_bind]
      dsimp only
      rw [if_neg (vmidForm_iff.mpr form),unread]
      rfl
    obtain ⟨_,_,_,same⟩ := classified _ failed
    cases same
  · intro readable refusal failed
    unfold parseVmid at failed
    cases read : scopedObject text target nsGuest instanceId with
    | error other =>
      rw [read] at failed
      obtain rfl := Except.error.inj failed
      exact scopedObject_error read
    | ok raw =>
      obtain ⟨instancePart,parts⟩ := scopedObject_ok.mp read
      rw [read,ok_bind] at failed
      dsimp only at failed
      split at failed
      · exact ⟨_,_,_,(Except.error.inj failed).symm⟩
      · rename_i form
        obtain ⟨vmid,number⟩ := readable instancePart raw parts (vmidForm_iff.mp form)
        rw [number] at failed
        cases failed

end Identifier

section Inventory

variable {text : Text} {target : ResolvedTarget} {instanceId guestType : String} {data : Json} {vmid : Int}
  {listing : List JsonObject} {refusal : Refusal}

theorem mapM_error {Item Value Fault : Type} {change : Item → Except Fault Value} {items : List Item} {fault : Fault}
    (failed : items.mapM change = .error fault) : ∃ item ∈ items, change item = .error fault := by
  induction items with
  | nil => cases failed
  | cons item rest ih =>
    rw [List.mapM_cons] at failed
    cases first : change item with
    | error other =>
      rw [first] at failed
      obtain rfl := Except.error.inj failed
      exact ⟨item,.head _,first⟩
    | ok value =>
      rw [first,ok_bind] at failed
      cases later : rest.mapM change with
      | ok values =>
        rw [later] at failed
        cases failed
      | error other =>
        rw [later] at failed
        obtain rfl := Except.error.inj failed
        obtain ⟨found,member,at_⟩ := ih later
        exact ⟨found,.tail _ member,at_⟩

theorem records_error {endpoint : String} (failed : records data endpoint = .error refusal) : refusal.Classified := by
  cases data with
  | arr entries =>
    obtain ⟨entry,_,rejected⟩ := mapM_error failed
    cases entry with
    | obj fields => cases rejected
    | _ => exact ⟨_,_,_,(Except.error.inj rejected).symm⟩
  | _ => exact ⟨_,_,_,(Except.error.inj failed).symm⟩

theorem resolveGuest_located (parsed : parseVmid text target instanceId = .ok vmid)
    (listed : records data guestInventory = .ok listing) :
    Located text vmid guestType listing (resolveGuest text target instanceId guestType (.ok data)) := by
  unfold resolveGuest
  rw [parsed,ok_bind,ok_bind,listed,ok_bind]
  split
  · rename_i none
    exact .missing fun record member same => List.filter_eq_nil_iff.mp none record member (matches_iff.mpr same)
  · rename_i record found
    obtain ⟨before,after,rfl,early,one,late⟩ := List.filter_eq_cons_iff.mp found
    have alone : ∀ other ∈ before ++ after, ¬ Matches text vmid guestType other := by
      intro other member same
      rcases List.mem_append.mp member with first | last
      · exact early other first (matches_iff.mpr same)
      · exact List.filter_eq_nil_iff.mp late other last (matches_iff.mpr same)
    dsimp only
    split
    · exact .nodeless rfl (matches_iff.mp one) alone ‹_›
    · exact .found rfl (matches_iff.mp one) alone ‹_›
  · rename_i several none single
    cases found : listing.filter fun record => text.lower (textOf text record "type") = guestType ∧
        recordVmid text record = some vmid with
    | nil => exact absurd found none
    | cons first rest =>
      cases rest with
      | nil => exact absurd found (single first)
      | cons second rest =>
        obtain ⟨before,behind,rfl,_,one,later⟩ := List.filter_eq_cons_iff.mp found
        obtain ⟨middle,after,rfl,_,other,_⟩ := List.filter_eq_cons_iff.mp later
        exact .several rfl (matches_iff.mp one) (matches_iff.mp other)

theorem Located.classified {located : Except Refusal GuestLocation} (by_ : Located text vmid guestType listing located)
    (failed : located = .error refusal) : refusal.Classified := by
  cases by_ with
  | found => cases failed
  | _ => exact ⟨_,_,_,(Except.error.inj failed).symm⟩

theorem resolveGuest_classified (classified : ∀ refusal, parseVmid text target instanceId = .error refusal → refusal.Classified)
    (failed : resolveGuest text target instanceId guestType (.ok data) = .error refusal) : refusal.Classified := by
  cases parsed : parseVmid text target instanceId with
  | error other =>
    unfold resolveGuest at failed
    rw [parsed] at failed
    obtain rfl := Except.error.inj failed
    exact classified _ parsed
  | ok vmid =>
    cases listed : records data guestInventory with
    | error other =>
      unfold resolveGuest at failed
      rw [parsed,ok_bind,ok_bind,listed] at failed
      obtain rfl := Except.error.inj failed
      exact records_error listed
    | ok listing => exact (resolveGuest_located parsed listed).classified failed

end Inventory

section Conversation

variable {text : Text} {target : ResolvedTarget} {instanceId toolName toolVersion : String} {projection : Projection}

theorem guestTools_observed : ∀ toolName ∈ guestTools, toolName ∈ supportedTools ∧
    toolName ∉ ["proxmox.cluster.status","proxmox.node.list","proxmox.guest.list"] ∧ toolName ≠ "proxmox.storage.list" ∧
      toolName ∉ ["proxmox.node.status","proxmox.node.network"] := by
  decide

theorem execute_unnamed (guestScoped : toolName ∈ guestTools) {refusal : Refusal}
    (failed : parseVmid text target instanceId = .error refusal) :
    execute text projection target (.ok instanceId) toolName toolVersion = .fail (.refused refusal) := by
  obtain ⟨supported,whole,fanned,routed⟩ := guestTools_observed toolName guestScoped
  unfold execute
  rw [if_neg (not_not_intro supported)]
  dsimp only
  unfold observe
  rw [if_neg whole,if_neg fanned,if_neg routed]
  unfold guest findGuest
  rw [failed]
  rfl

theorem asked_parsed {remote : Remote Answer} {before after : Exchanges} {path : String} {query : List (String × String)}
    {answer : Except AdapterFault Json} (guestScoped : toolName ∈ guestTools)
    (sent : ((execute text projection target (.ok instanceId) toolName toolVersion).converse remote []).1 =
      before ++ ⟨.get path query,answer⟩::after) : ∃ vmid, parseVmid text target instanceId = .ok vmid := by
  cases parsed : parseVmid text target instanceId with
  | ok vmid => exact ⟨vmid,rfl⟩
  | error refusal =>
    rw [execute_unnamed guestScoped parsed] at sent
    exact absurd (congrArg List.length sent) (by simp [Program.converse])

theorem inventory_asked {vmid : Int} (parsed : parseVmid text target instanceId = .ok vmid) : ∃ after,
    ((execute text labProjection target (.ok instanceId) "proxmox.vm.status" "1.0").converse labUpstream []).1 =
      [⟨.remaining,(10 : Rat)⟩] ++ ⟨.get "/api2/json/cluster/resources" [("type","vm")],.ok labListing⟩::after := by
  obtain ⟨routing,resumed⟩ := Program.converse_bind_extends labUpstream [] (getData guestInventory [])
    fun data => lift (resolveGuest text target instanceId guestTypeQemu (.ok data))
  have found : ∃ routing, ((findGuest text target instanceId guestTypeQemu).converse labUpstream []).1 =
      ((getData guestInventory []).converse labUpstream []).1 ++ routing := by
    refine ⟨routing,?_⟩
    rw [← resumed,findGuest,parsed]
    rfl
  obtain ⟨routing,found⟩ := found
  obtain ⟨reading,resumed⟩ := Program.converse_bind_extends labUpstream [] (findGuest text target instanceId guestTypeQemu)
    fun location => do
      let data ← getData "proxmox.vm.status" [("node",location.node),("vmid",toString location.vmid)]
      lift (labProjection.guest "proxmox.vm.status" instanceId location data)
  refine ⟨routing ++ reading,resumed.trans ?_⟩
  rw [found,List.append_assoc]
  rfl

end Conversation

theorem scoped_unique {text : Text} {target : ResolvedTarget} {instanceId namespaceName first second obj other : String}
    (parts : Scoped text instanceId (registered target namespaceName) first obj)
    (parts' : Scoped text instanceId (registered target namespaceName) second other) : other = obj :=
  Except.ok.inj ((scopedObject_ok.mpr ⟨second,parts'⟩).symm.trans (scopedObject_ok.mpr ⟨first,parts⟩))

/-- Guest-scoped reads are routed as they should be exactly if Python reads a positive integer in an
identifier of this instance whose object half passes for digits. -/
theorem guest_routing (text : Text) (target : ResolvedTarget) (instanceId : String) : Routed text target instanceId ↔
    ∀ instancePart obj, Scoped text instanceId (registered target nsGuest) instancePart obj → VmidForm text obj →
      ∃ vmid, text.int obj = some vmid ∧ 0 < vmid := by
  constructor
  · intro routed instancePart obj parts form
    obtain ⟨vmid,read⟩ := parseVmid_classified.mp routed.classified instancePart obj parts form
    obtain ⟨_,sent⟩ := inventory_asked (parseVmid_ok.mpr ⟨instancePart,obj,parts,form,read⟩)
    obtain ⟨vmid',_,other,parts',_,read',positive⟩ := routed.asked _ "proxmox.vm.status" _ _ _ _ _ _ _ (by decide) sent
    rw [scoped_unique parts parts'] at read'
    exact ⟨vmid',read',positive⟩
  · intro readable
    have classified := parseVmid_classified.mpr fun instancePart obj parts form =>
      (readable instancePart obj parts form).imp fun _ => And.left
    constructor
    · intro projection toolName toolVersion remote before after path query answer guestScoped sent
      obtain ⟨vmid,parsed⟩ := asked_parsed guestScoped sent
      obtain ⟨instancePart,obj,parts,form,_⟩ := parseVmid_ok.mp parsed
      obtain ⟨vmid,read,positive⟩ := readable instancePart obj parts form
      exact ⟨vmid,instancePart,obj,parts,form,read,positive⟩
    · rintro vmid guestType data listing ⟨instancePart,obj,parts,form,read,_⟩ listed
      exact resolveGuest_located (parseVmid_ok.mpr ⟨instancePart,obj,parts,form,read⟩) listed
    · exact classified
    · intro guestType data refusal failed
      exact resolveGuest_classified classified failed

section Laboratory

/-- Python's superscript two: a digit that is no decimal one. -/
def superscriptTwo : Char := '\u00b2'

/-- Python's digit zero of another script, which is a decimal one and reads as 0. -/
def arabicZero : Char := '\u0660'

/-- Digits as Python has them, of the ASCII ones and those two. -/
def digitText : Text := {labText with
  isDigit := fun value => value ≠ "" && value.toList.all fun char => char.isDigit || char = superscriptTwo || char = arabicZero
  int := fun value => labText.int (String.ofList (value.toList.map fun char => if char = arabicZero then '0' else char))}

/-- A VMID of one digit that is no decimal one ends in an exception of no class of the adapter's. -/
theorem superscript_unclassified : parseVmid digitText (labelled "lab/\u00b2") "lab" = .error .valueError ∧
    ¬ Routed digitText (labelled "lab/\u00b2") "lab" := by
  have parsed : parseVmid digitText (labelled "lab/\u00b2") "lab" = .error .valueError := by rfl
  refine ⟨parsed,fun routed => ?_⟩
  obtain ⟨_,_,_,same⟩ := routed.classified _ parsed
  cases same

/-- The zero of another script passes the look at the first digit, and the inventory is asked for guest 0. -/
theorem zero_asked : parseVmid digitText (labelled "lab/\u0660") "lab" = .ok 0 ∧
    ((execute digitText labProjection (labelled "lab/\u0660") (.ok "lab") "proxmox.vm.status" "1.0").converse labUpstream []).1 =
      [⟨.remaining,(10 : Rat)⟩,⟨.get "/api2/json/cluster/resources" [("type","vm")],.ok labListing⟩] := by
  constructor <;> rfl

end Laboratory

end Acop.Proxmox
