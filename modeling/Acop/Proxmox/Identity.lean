import Acop.Fallible
import Acop.Proxmox
import Mathlib.Data.List.TakeWhile
import Mathlib.Data.List.Forall2

/-! What an identifier says and where it leads, by its text and by the records that the
upstream lists. -/
namespace Acop.Proxmox

section Rules

variable (text : Text) (instanceId : String)

def registered (target : ResolvedTarget) (namespaceName : String) : String :=
  (target.identifiers.lookup namespaceName).getD ""

/-- The value is `<instance>/<object>`, of this instance. -/
structure Scoped (value instancePart obj : String) : Prop where
  written : (strip value).toList = instancePart.toList ++ '/'::obj.toList
  flat : '/' ∉ instancePart.toList
  flatObject : '/' ∉ obj.toList
  present : obj ≠ ""
  named : strip instancePart ≠ ""
  same : text.lower (strip instancePart) = text.lower (strip instanceId)

/-- The object half passes for digits that a VMID is read from. -/
def VmidForm (obj : String) : Prop := text.isDigit obj ∧ obj.toList.head? ≠ some '0'

def Matches (vmid : Int) (guestType : String) (record : JsonObject) : Prop :=
  text.lower (textOf text record "type") = guestType ∧ recordVmid text record = some vmid

def Inventoried (data : Except Refusal Json) (listing : List JsonObject) : Prop := data = .ok (.arr (listing.map .obj))

/-- The record is the only one of the listing that is meant. -/
def Sole (meant : JsonObject → Prop) (listing : List JsonObject) (record : JsonObject) : Prop :=
  ∃ before after, listing = before ++ record::after ∧ meant record ∧ ∀ other ∈ before ++ after, ¬ meant other

/-- Where the value of an identifier leads a tool of this scope. -/
inductive Leads (data : Except Refusal Json) (value : String) : Scope → Address → Prop
  | cluster (present : strip value ≠ "") (same : text.lower (strip (strip value)) = text.lower (strip instanceId)) :
    Leads data value .cluster (.instance instanceId)
  | node {instancePart obj : String} {listing : List JsonObject} {record : JsonObject}
    (parts : Scoped text instanceId value instancePart obj) (lists : Inventoried data listing)
    (sole : Sole (fun record => text.lower (textOf text record "node") = text.lower (strip obj)) listing record) :
    Leads data value .node (.node instanceId (textOf text record "node"))
  | guest {instancePart obj guestType : String} {vmid : Int} {listing : List JsonObject} {record : JsonObject}
    (parts : Scoped text instanceId value instancePart obj) (form : VmidForm text obj) (read : text.int obj = some vmid)
    (lists : Inventoried data listing) (sole : Sole (Matches text vmid guestType) listing record)
    (routed : textOf text record "node" ≠ "") :
    Leads data value (.guest guestType) (.guest instanceId vmid guestType (textOf text record "node"))

end Rules

section Identifier

variable {text : Text} {target : ResolvedTarget} {instanceId namespaceName obj : String}

theorem split_slash {symbols : List Char} (member : '/' ∈ symbols) :
    symbols = symbols.takeWhile (· ≠ '/') ++ '/'::(symbols.dropWhile (· ≠ '/')).drop 1 := by
  induction symbols with
  | nil => cases member
  | cons first rest ih =>
    by_cases slash : first = '/'
    · subst slash
      simp
    · have later : '/' ∈ rest := (List.mem_cons.mp member).resolve_left (Ne.symm slash)
      rw [List.takeWhile_cons_of_pos (by simpa using slash),List.dropWhile_cons_of_pos (by simpa using slash),List.cons_append,
        ← ih later]

theorem flat_takeWhile (symbols : List Char) : '/' ∉ symbols.takeWhile (· ≠ '/') := by
  intro member
  have plain := List.mem_takeWhile_imp member
  simp at plain

theorem halves {first second : List Char} (flat : '/' ∉ first) :
    (first ++ '/'::second).takeWhile (· ≠ '/') = first ∧ ((first ++ '/'::second).dropWhile (· ≠ '/')).drop 1 = second := by
  have plain : ∀ char ∈ first, decide (char ≠ '/') = true := by
    intro char member
    exact decide_eq_true fun same => flat (same ▸ member)
  constructor
  · rw [List.takeWhile_append_of_pos plain,List.takeWhile_cons_of_neg (by simp),List.append_nil]
  · rw [List.dropWhile_append_of_pos plain,List.dropWhile_cons_of_neg (by simp),List.drop_one,List.tail_cons]

theorem identifier_ok {value : String} : identifier target namespaceName = .ok value ↔
    value = strip (registered target namespaceName) ∧ value ≠ "" := by
  unfold identifier registered
  dsimp only
  split
  · rename_i none
    constructor
    · intro done
      cases done
    · rintro ⟨rfl,some⟩
      exact absurd none some
  · rename_i some
    constructor
    · intro done
      cases done
      exact ⟨rfl,some⟩
    · rintro ⟨rfl,_⟩
      rfl

theorem scopedObject_ok : scopedObject text target namespaceName instanceId = .ok obj ↔
    ∃ instancePart, Scoped text instanceId (registered target namespaceName) instancePart obj := by
  constructor
  · intro done
    obtain ⟨value,read,done⟩ := bind_ok done
    obtain ⟨rfl,_⟩ := identifier_ok.mp read
    obtain ⟨shaped,done⟩ := ok_of_guard done
    obtain ⟨same,done⟩ := ok_of_guard done
    obtain rfl := Except.ok.inj done
    push Not at shaped same
    obtain ⟨slash,named,present,flat⟩ := shaped
    refine ⟨_,?_,?_,flat,present,named,same⟩
    · rw [String.toList_ofList,String.toList_ofList]
      exact split_slash slash
    · rw [String.toList_ofList]
      exact flat_takeWhile _
  · rintro ⟨instancePart,written,flat,flatObject,present,named,same⟩
    have nonempty : strip (registered target namespaceName) ≠ "" := by
      intro empty
      rw [empty] at written
      simp at written
    obtain ⟨first,second⟩ := @halves _ obj.toList flat
    have slash : '/' ∈ instancePart.toList ++ '/'::obj.toList := by simp
    unfold scopedObject
    rw [identifier_ok.mpr ⟨rfl,nonempty⟩,ok_bind]
    simp only [written,first,second,String.ofList_toList]
    rw [if_neg (by simp [named,present,flatObject]),if_neg (not_not_intro same)]
    rfl

theorem vmidForm_iff : ¬ (!text.isDigit obj || decide (obj.toList.head? = some '0')) = true ↔ VmidForm text obj := by
  unfold VmidForm
  simp

/-- A VMID is read where Python reads one in digits behind the instance. -/
theorem parseVmid_ok {vmid : Int} : parseVmid text target instanceId = .ok vmid ↔
    ∃ instancePart obj, Scoped text instanceId (registered target nsGuest) instancePart obj ∧ VmidForm text obj ∧
      text.int obj = some vmid := by
  constructor
  · intro done
    obtain ⟨raw,read,done⟩ := bind_ok done
    obtain ⟨instancePart,parts⟩ := scopedObject_ok.mp read
    obtain ⟨form,done⟩ := ok_of_guard done
    refine ⟨instancePart,raw,parts,vmidForm_iff.mp form,?_⟩
    split at done
    · rename_i read
      obtain rfl := Except.ok.inj done
      exact read
    · cases done
  · rintro ⟨instancePart,obj,parts,form,read⟩
    unfold parseVmid
    rw [scopedObject_ok.mpr ⟨instancePart,parts⟩,ok_bind]
    dsimp only
    rw [if_neg (vmidForm_iff.mpr form),read]
    rfl

theorem requireInstance_ok {named : String} : requireInstance text target instanceId = .ok named ↔
    named = instanceId ∧ strip (registered target nsInstance) ≠ "" ∧
      text.lower (strip (strip (registered target nsInstance))) = text.lower (strip instanceId) := by
  constructor
  · intro done
    obtain ⟨value,read,done⟩ := bind_ok done
    obtain ⟨rfl,present⟩ := identifier_ok.mp read
    obtain ⟨same,done⟩ := ok_of_guard done
    obtain rfl := Except.ok.inj done
    exact ⟨rfl,present,not_not.mp same⟩
  · rintro ⟨rfl,present,same⟩
    unfold requireInstance
    rw [identifier_ok.mpr ⟨rfl,present⟩,ok_bind]
    dsimp only
    rw [if_neg (not_not_intro same)]
    rfl

end Identifier

section Listing

variable {text : Text} {target : ResolvedTarget} {instanceId guestType : String} {data : Except Refusal Json}
  {vmid : Int} {listing : List JsonObject}

theorem records_map (entries : List JsonObject) (endpoint : String) : records (.arr (entries.map .obj)) endpoint = .ok entries := by
  unfold records
  induction entries with
  | nil => rfl
  | cons entry rest ih =>
    dsimp only at ih ⊢
    rw [List.map_cons,List.mapM_cons,ih]
    rfl

theorem records_ok {body : Json} {endpoint : String} (read : records body endpoint = .ok listing) :
    body = .arr (listing.map .obj) := by
  cases body with
  | arr entries =>
    refine congrArg Json.arr ?_
    unfold records at read
    induction entries generalizing listing with
    | nil =>
      cases read
      rfl
    | cons entry rest ih =>
      dsimp only at ih read
      rw [List.mapM_cons] at read
      obtain ⟨fields,one,read⟩ := bind_ok read
      obtain ⟨others,later,read⟩ := bind_ok read
      cases read
      cases entry with
      | obj record =>
        cases one
        exact congrArg _ (ih later)
      | _ => cases one
  | _ => cases read

theorem inventoried_iff {endpoint : String} :
    (∃ body, data = .ok body ∧ records body endpoint = .ok listing) ↔ Inventoried data listing := by
  constructor
  · rintro ⟨body,rfl,read⟩
    exact congrArg Except.ok (records_ok read)
  · intro lists
    exact ⟨_,lists,records_map listing endpoint⟩

theorem filter_sole {meant : JsonObject → Prop} [DecidablePred meant] {record : JsonObject} :
    listing.filter (fun record => meant record) = [record] ↔ Sole meant listing record := by
  constructor
  · intro kept
    obtain ⟨before,after,rfl,early,one,late⟩ := List.filter_eq_cons_iff.mp kept
    refine ⟨before,after,rfl,of_decide_eq_true one,?_⟩
    intro other member same
    rcases List.mem_append.mp member with first | last
    · exact early other first (decide_eq_true same)
    · exact List.filter_eq_nil_iff.mp late other last (decide_eq_true same)
  · rintro ⟨before,after,rfl,one,alone⟩
    refine List.filter_eq_cons_iff.mpr ⟨before,after,rfl,?_,decide_eq_true one,?_⟩
    · exact fun other member kept => alone other (List.mem_append_left _ member) (of_decide_eq_true kept)
    · exact List.filter_eq_nil_iff.mpr fun other member kept => alone other (List.mem_append_right _ member) (of_decide_eq_true kept)

theorem matches_iff {record : JsonObject} :
    decide (text.lower (textOf text record "type") = guestType ∧ recordVmid text record = some vmid) = true ↔
      Matches text vmid guestType record := decide_eq_true_iff

theorem resolveGuest_iff (parsed : parseVmid text target instanceId = .ok vmid) (lists : Inventoried data listing)
    {location : GuestLocation} : resolveGuest text target instanceId guestType data = .ok location ↔
      location.vmid = vmid ∧ location.guestType = guestType ∧ Sole (Matches text vmid guestType) listing location.record ∧
        textOf text location.record "node" = location.node ∧ location.node ≠ "" := by
  obtain ⟨vmid',guestType',node,record⟩ := location
  rw [Inventoried] at lists
  unfold Matches
  rw [← filter_sole]
  unfold resolveGuest
  rw [parsed,ok_bind,lists,ok_bind,records_map,ok_bind]
  split
  · rename_i none
    rw [none]
    simp [throw,throwThe,MonadExceptOf.throw]
  · rename_i only found
    dsimp only
    rw [found]
    split
    · rename_i nodeless
      simp only [throw,throwThe,MonadExceptOf.throw,error_bind,reduceCtorEq,List.cons.injEq,and_true,false_iff]
      rintro ⟨_,_,rfl,rfl,present⟩
      exact present nodeless
    · rename_i routed
      constructor
      · intro done
        cases done
        exact ⟨rfl,rfl,rfl,rfl,routed⟩
      · rintro ⟨rfl,rfl,same,rfl,_⟩
        cases same
        rfl
  · rename_i several none single
    simp only [throw,throwThe,MonadExceptOf.throw,reduceCtorEq,false_iff]
    rintro ⟨_,_,one,_⟩
    exact single record one

theorem names_sole {wanted name : String} :
    (listing.map (textOf text · "node")).filter (fun name => text.lower name = wanted) = [name] ↔
      ∃ record, Sole (fun record => text.lower (textOf text record "node") = wanted) listing record ∧
        textOf text record "node" = name := by
  rw [List.filter_map,List.map_eq_singleton_iff]
  constructor
  · rintro ⟨record,kept,named⟩
    exact ⟨record,filter_sole.mp kept,named⟩
  · rintro ⟨record,sole,named⟩
    exact ⟨record,filter_sole.mpr sole,named⟩

theorem resolveNode_iff {name : String} : resolveNode text target instanceId data = .ok name ↔
    ∃ obj listing record, scopedObject text target nsNode instanceId = .ok obj ∧ Inventoried data listing ∧
      Sole (fun record => text.lower (textOf text record "node") = text.lower (strip obj)) listing record ∧
      textOf text record "node" = name := by
  constructor
  · intro done
    obtain ⟨obj,owned,done⟩ := bind_ok done
    obtain ⟨body,loaded,done⟩ := bind_ok done
    obtain ⟨listing,read,done⟩ := bind_ok done
    split at done
    · cases done
    · rename_i only found
      obtain rfl := Except.ok.inj done
      obtain ⟨record,sole,named⟩ := names_sole.mp found
      exact ⟨obj,listing,record,owned,inventoried_iff.mp ⟨body,loaded,read⟩,sole,named⟩
    · cases done
  · rintro ⟨obj,listing,record,owned,lists,sole,named⟩
    rw [Inventoried] at lists
    unfold resolveNode
    rw [owned,ok_bind]
    dsimp only
    rw [lists,ok_bind,records_map,ok_bind,names_sole.mpr ⟨record,sole,named⟩]
    rfl

theorem address_iff {toolName : String} {place : Address} : address text toolName instanceId data target = .ok place ↔
    Leads text instanceId data (registered target (scopeOf toolName).namespaceName) (scopeOf toolName) place := by
  unfold address
  cases scopeOf toolName with
  | cluster =>
    constructor
    · intro done
      obtain ⟨named,required,rfl⟩ := map_ok done
      obtain ⟨rfl,present,same⟩ := requireInstance_ok.mp required
      exact .cluster present same
    · intro leads
      cases leads with
      | cluster present same => exact map_eq (requireInstance_ok.mpr ⟨rfl,present,same⟩) _
  | node =>
    constructor
    · intro done
      obtain ⟨name,resolved,rfl⟩ := map_ok done
      obtain ⟨obj,listing,record,owned,lists,sole,rfl⟩ := resolveNode_iff.mp resolved
      obtain ⟨instancePart,parts⟩ := scopedObject_ok.mp owned
      exact .node parts lists sole
    · intro leads
      cases leads with
      | node parts lists sole =>
        exact map_eq (resolveNode_iff.mpr ⟨_,_,_,scopedObject_ok.mpr ⟨_,parts⟩,lists,sole,rfl⟩) _
  | guest guestType =>
    constructor
    · intro done
      obtain ⟨location,resolved,rfl⟩ := map_ok done
      obtain ⟨vmid,parsed⟩ : ∃ vmid, parseVmid text target instanceId = .ok vmid := by
        obtain ⟨vmid,parsed,_⟩ := bind_ok resolved
        exact ⟨vmid,parsed⟩
      obtain ⟨listing,lists⟩ : ∃ listing, Inventoried data listing := by
        obtain ⟨_,_,rest⟩ := bind_ok resolved
        obtain ⟨body,loaded,rest⟩ := bind_ok rest
        obtain ⟨listing,read,_⟩ := bind_ok rest
        exact ⟨listing,inventoried_iff.mp ⟨body,loaded,read⟩⟩
      obtain ⟨number,kind,sole,home,routed⟩ := (resolveGuest_iff parsed lists).mp resolved
      obtain ⟨instancePart,obj,parts,form,read⟩ := parseVmid_ok.mp parsed
      rw [number,kind,← home]
      exact .guest parts form read lists sole (home ▸ routed)
    · intro leads
      cases leads with
      | @guest instancePart obj _ vmid listing record parts form read lists sole routed =>
        have parsed := parseVmid_ok.mpr ⟨instancePart,obj,parts,form,read⟩
        have located : resolveGuest text target instanceId guestType data =
            .ok ⟨vmid,guestType,textOf text record "node",record⟩ :=
          (resolveGuest_iff parsed lists).mpr ⟨rfl,rfl,sole,rfl,routed⟩
        exact map_eq located _

end Listing

end Acop.Proxmox
