import Acop.Guarantee.Union
import Acop.Proxmox.Observation
import Acop.Proxmox.Outputs
import Mathlib.Data.List.ReduceOption

/-! Whatever the upstream answers, what a tool reports is what its output model declares, and is labelled
with the object that the request was sent for. -/
namespace Acop.Proxmox
open Acop.Transaction

/-- The value is a float, of the three that are no number too. -/
def IsFloat (value : Json) : Prop := (∃ number, value = .float number) ∨ ∃ other, value = .nonFinite other

/-- What Python's `float` returns is a float. -/
structure Floats.Sound (floats : Floats) : Prop where
  read : ∀ text value, floats.read text = some value → IsFloat value
  ofInt : ∀ number value, floats.ofInt number = some value → IsFloat value

section Declared

variable (isoformat : Time → String)

/-- Whatever the reading yields is of the declared type. -/
def Reads (of : Annotation) (reading : Reading) : Prop := ∀ value, reading = .ok value → Conforms isoformat of value

/-- The readings are those of the declared fields, in their order. -/
def Declares (fields : OutputModel) (readings : List (String × Reading)) : Prop :=
  List.Forall₂ (fun field reading => field.1 = reading.1 ∧ Reads isoformat field.2 reading.2) fields readings

variable {isoformat} {of : Annotation} {observer : Observer}

@[simp] theorem reads_ok {value : Json} : Reads isoformat of (.ok value) ↔ Conforms isoformat of value := by
  constructor
  · exact fun reads => reads value rfl
  · rintro conforms _ ⟨⟩
    exact conforms

@[simp] theorem conforms_str {value : String} : Conforms isoformat .str (.str value) := .str value

@[simp] theorem conforms_int {value : Int} : Conforms isoformat .int (.int value) := .int value

@[simp] theorem conforms_bool {value : Bool} : Conforms isoformat .bool (.bool value) := .bool value

@[simp] theorem conforms_datetime {value : Time} : Conforms isoformat .datetime (.str (isoformat value)) := .datetime value

@[simp] theorem conforms_null : Conforms isoformat (.optional of) .null := .none

@[simp] theorem conforms_optional {value : Option String} : Conforms isoformat (.optional .str) (.optional value) := by
  cases value with
  | none => exact .none
  | some text => exact .some (.str text)

@[simp] theorem conforms_optionalInt {value : Option Int} : Conforms isoformat (.optional .int) (optionalInt value) := by
  cases value with
  | none => exact .none
  | some number => exact .some (.int number)

@[simp] theorem conforms_optionalBool {value : Option Bool} : Conforms isoformat (.optional .bool) (optionalBool value) := by
  cases value with
  | none => exact .none
  | some flag => exact .some (.bool flag)

@[simp] theorem reads_str (value : Json) : Reads isoformat (.optional .str) (observer.str value) := by
  rw [Observer.str,reads_ok]
  exact conforms_optional

@[simp] theorem reads_bool (value : Json) : Reads isoformat (.optional .bool) (observer.bool value) := by
  rw [Observer.bool,reads_ok]
  exact conforms_optionalBool

@[simp] theorem reads_int (value : Json) : Reads isoformat (.optional .int) (observer.int value) := by
  intro read ok
  obtain ⟨number,_,rfl⟩ := map_ok ok
  exact conforms_optionalInt

theorem IsFloat.conforms {value : Json} (float : IsFloat value) : Conforms isoformat .float value := by
  rcases float with ⟨number,rfl⟩ | ⟨other,rfl⟩
  · exact .float number
  · exact .nonFinite other

theorem asFloat_float {floats : Floats} (sound : floats.Sound) {value read : Json} (ok : asFloat floats value = .ok (some read)) :
    IsFloat read := by
  cases value with
  | bool flag =>
    cases ok
    exact .inl ⟨_,rfl⟩
  | int number =>
    dsimp only [asFloat] at ok
    split at ok
    · rename_i converted
      cases ok
      exact sound.ofInt number _ converted
    · cases ok
  | float number =>
    cases ok
    exact .inl ⟨_,rfl⟩
  | nonFinite other =>
    cases ok
    exact .inr ⟨_,rfl⟩
  | str text => exact sound.read _ _ (Except.ok.inj ok)
  | null => cases ok
  | arr items => cases ok
  | obj fields => cases ok

theorem conforms_float {floats : Floats} (sound : floats.Sound) {value : Json} {read : Option Json}
    (ok : asFloat floats value = .ok read) : Conforms isoformat (.optional .float) (optionalFloat read) := by
  cases read with
  | none => exact .none
  | some float => exact .some (asFloat_float sound ok).conforms

@[simp] theorem reports_nil : Reports isoformat [] [] := .nil

@[simp] theorem reports_cons {name name' : String} {value : Json} {fields : OutputModel} {report : JsonObject} :
    Reports isoformat ((name,of)::fields) ((name',value)::report) ↔
      name = name' ∧ Conforms isoformat of value ∧ Reports isoformat fields report := by
  constructor
  · rintro (_ | ⟨first,rest⟩)
    exact ⟨rfl,first,rest⟩
  · rintro ⟨rfl,first,rest⟩
    exact .cons first rest

theorem document_cons_reads {name : String} {reading : Reading} {readings : List (String × Reading)} {report : JsonObject}
    (ok : document ((name,reading)::readings) = .ok report) :
    ∃ value others, reading = .ok value ∧ report = (name,value)::others ∧ document readings = .ok others := by
  unfold document at ok ⊢
  rw [List.mapM_cons] at ok
  obtain ⟨_,made,ok⟩ := bind_ok ok
  obtain ⟨value,read,rfl⟩ := map_ok made
  obtain ⟨others,later,rfl⟩ := map_ok ok
  exact ⟨value,others,read,rfl,later⟩

theorem document_reports {fields : OutputModel} {readings : List (String × Reading)} {report : JsonObject}
    (declares : Declares isoformat fields readings) (ok : document readings = .ok report) : Reports isoformat fields report := by
  induction declares generalizing report with
  | nil =>
    cases ok
    exact .nil
  | @cons declared reading _ _ first _ ih =>
    obtain ⟨name,of⟩ := declared
    obtain ⟨rfl,reads⟩ := first
    obtain ⟨value,others,read,rfl,later⟩ := document_cons_reads ok
    exact .cons (reads value read) (ih later)

end Declared

section Tools

variable {observer : Observer} {now : Time} {instanceId node : String} {vmid : Int} {data : Json} {entry report : JsonObject}

theorem reads_float (sound : observer.floats.Sound) (value : Json) :
    Reads observer.isoformat (.optional .float) (observer.float value) := by
  intro read ok
  obtain ⟨number,converted,rfl⟩ := map_ok ok
  exact conforms_float sound converted

theorem conforms_listed {fields : OutputModel} {rows : List JsonObject} (each : ∀ row ∈ rows, Reports observer.isoformat fields row) :
    Reads observer.isoformat (.list (.model fields)) (listed rows) := by
  rw [listed,reads_ok]
  refine .list fun item member => ?_
  obtain ⟨row,inRows,rfl⟩ := List.mem_map.mp member
  exact .model (each row inRows)

theorem headed_reports {fields : OutputModel} {readings : List (String × Reading)}
    (declares : Declares observer.isoformat fields readings) (ok : observer.headed now instanceId readings = .ok report) :
    Reports observer.isoformat (proxmoxOut fields) report :=
  document_reports (.cons ⟨rfl,by simp⟩ (.cons ⟨rfl,by simp⟩ declares)) ok

theorem document_cons {name : String} {value : Json} {readings : List (String × Reading)}
    (ok : document ((name,.ok value)::readings) = .ok report) :
    ∃ others, report = (name,value)::others ∧ document readings = .ok others := by
  obtain ⟨_,others,read,rfl,later⟩ := document_cons_reads ok
  cases read
  exact ⟨others,rfl,later⟩

theorem headed_ok {readings : List (String × Reading)} (ok : observer.headed now instanceId readings = .ok report) :
    ∃ others, report = ("instance_id",.str instanceId)::("observed_at",.str (observer.isoformat now))::others ∧
      document readings = .ok others := by
  obtain ⟨_,same,later⟩ := document_cons ok
  obtain ⟨others,rfl,last⟩ := document_cons later
  exact ⟨others,same,last⟩

section Rows

variable (sound : observer.floats.Sound)

include sound

theorem nodeEntry_reports (ok : observer.nodeEntry entry = .ok report) : Reports observer.isoformat nodeSummaryOut report := by
  unfold Observer.nodeEntry at ok
  split at ok
  · cases ok
  · refine document_reports ?_ ok
    simp [Declares,nodeSummaryOut,reads_float sound]

theorem guestEntry_reports (ok : observer.guestEntry entry = .ok report) : Reports observer.isoformat guestSummaryOut report := by
  obtain ⟨vmid,_,ok⟩ := bind_ok ok
  dsimp only at ok
  split at ok
  · refine document_reports ?_ ok
    simp [Declares,guestSummaryOut,reads_float sound]
  · cases ok

theorem storageEntry_reports (ok : storageEntry observer.text observer.floats node entry = .ok report) :
    Reports observer.isoformat storageSummaryOut report := by
  unfold storageEntry at ok
  split at ok
  · cases ok
  · obtain ⟨total,_,ok⟩ := bind_ok ok
    obtain ⟨used,_,ok⟩ := bind_ok ok
    obtain ⟨available,_,ok⟩ := bind_ok ok
    obtain ⟨fraction,converted,ok⟩ := bind_ok ok
    obtain rfl := Except.ok.inj ok
    simp [storageSummaryOut,conforms_float sound converted]

end Rows

theorem interfaceEntry_reports (ok : observer.interfaceEntry entry = .ok report) :
    Reports observer.isoformat networkInterfaceOut report := by
  unfold Observer.interfaceEntry at ok
  split at ok
  · cases ok
  · refine document_reports ?_ ok
    simp [Declares,networkInterfaceOut]

theorem clusterMember_reports {view next : Observer.ClusterView} (ok : observer.clusterMember view entry = .ok next) :
    ∃ member, next.members = view.members ++ [member] ∧ Reports observer.isoformat clusterMemberOut member := by
  obtain ⟨member,made,rfl⟩ := map_ok ok
  refine ⟨member,?_,document_reports ?_ made⟩
  · split
    · rfl
    · rfl
  · have node : Reads observer.isoformat (.optional .str)
        (if (asStr observer.text (field entry "type")).getD "unknown" = "node" then observer.str (field entry "name") else .ok .null) := by
      split
      · exact reads_str _
      · exact reads_ok.mpr .none
    simp [Declares,clusterMemberOut,node]

theorem forall_right {Item Value : Type} {related : Item → Value → Prop} {items : List Item} {values : List Value}
    {good : Value → Prop} (all : List.Forall₂ related items values) (each : ∀ item value, related item value → good value) :
    ∀ value ∈ values, good value := by
  induction all with
  | nil => exact fun _ member => absurd member List.not_mem_nil
  | cons first _ ih => exact List.forall_mem_cons.mpr ⟨each _ _ first,ih⟩

theorem forall_mapM {Item Value : Type} {change : Item → Except Refusal Value} {items : List Item} {values : List Value}
    {good : Value → Prop} (ok : items.mapM change = .ok values) (each : ∀ item value, change item = .ok value → good value) :
    ∀ value ∈ values, good value :=
  forall_right (mapM_forall ok) each

theorem clusterMembers_report {entries : List JsonObject} {view next : Observer.ClusterView}
    (before : ∀ row ∈ view.members, Reports observer.isoformat clusterMemberOut row)
    (ok : entries.foldlM observer.clusterMember view = .ok next) :
    ∀ row ∈ next.members, Reports observer.isoformat clusterMemberOut row := by
  induction entries generalizing view with
  | nil =>
    cases ok
    exact before
  | cons entry rest ih =>
    rw [List.foldlM_cons] at ok
    obtain ⟨middle,made,ok⟩ := bind_ok ok
    obtain ⟨member,same,reports⟩ := clusterMember_reports made
    refine ih ?_ ok
    rw [same]
    exact List.forall_mem_append.mpr ⟨before,List.forall_mem_singleton.mpr reports⟩

theorem clusterStatus_reports (ok : observer.clusterStatus now instanceId data = .ok report) :
    Reports observer.isoformat clusterStatusOut report := by
  obtain ⟨entries,_,ok⟩ := bind_ok ok
  obtain ⟨view,seen,ok⟩ := bind_ok ok
  have members := conforms_listed (clusterMembers_report (fun _ member => absurd member List.not_mem_nil) seen)
  refine headed_reports ?_ ok
  simp [Declares,members]

theorem nodeNetwork_reports (ok : observer.nodeNetwork now instanceId node data = .ok report) :
    Reports observer.isoformat nodeNetworkOut report := by
  obtain ⟨entries,_,ok⟩ := bind_ok ok
  obtain ⟨rows,made,ok⟩ := bind_ok ok
  have interfaces := conforms_listed (forall_mapM made fun _ _ => interfaceEntry_reports)
  refine headed_reports ?_ ok
  simp [Declares,interfaces]

theorem containerConfig_reports (ok : observer.containerConfig now instanceId node vmid data = .ok report) :
    Reports observer.isoformat containerConfigOut report := by
  obtain ⟨record,_,ok⟩ := bind_ok ok
  refine headed_reports ?_ ok
  simp [Declares]

theorem reads_created {value : Option String} :
    Reads observer.isoformat (.optional .datetime) (observer.datetime <$> observer.epochOrNone value) := by
  cases observer.epochOrNone value with
  | error refusal =>
    rintro read ⟨⟩
  | ok time =>
    rintro read ⟨⟩
    cases time with
    | none => exact .none
    | some time => exact .some (.datetime time)

section Floating

variable (sound : observer.floats.Sound)

include sound

theorem nodeList_reports (ok : observer.nodeList now instanceId data = .ok report) :
    Reports observer.isoformat nodeListOut report := by
  obtain ⟨entries,_,ok⟩ := bind_ok ok
  obtain ⟨rows,made,ok⟩ := bind_ok ok
  have nodes := conforms_listed (forall_mapM made fun _ _ => nodeEntry_reports sound)
  refine headed_reports ?_ ok
  simp [Declares,nodes]

theorem guestList_reports (ok : observer.guestList now instanceId data = .ok report) :
    Reports observer.isoformat guestListOut report := by
  obtain ⟨entries,_,ok⟩ := bind_ok ok
  obtain ⟨rows,made,ok⟩ := bind_ok ok
  have guests := conforms_listed (forall_mapM made fun _ _ => guestEntry_reports sound)
  refine headed_reports ?_ ok
  simp [Declares,guests]

theorem reads_load {record : JsonObject} :
    Reads observer.isoformat (.optional (.list .float)) (observer.loadAverage record) := by
  intro read ok
  unfold Observer.loadAverage at ok
  split at ok
  · obtain ⟨parsed,made,rfl⟩ := map_ok ok
    have floats : ∀ item ∈ parsed, ∀ value, item = some value → IsFloat value := by
      refine forall_mapM made fun entry item converted value present => ?_
      rw [present] at converted
      exact asFloat_float sound converted
    split
    · exact .none
    · exact .some (.list fun item member => (floats _ (List.reduceOption_mem_iff.mp member) item rfl).conforms)
  · cases ok
    exact .none

theorem nodeStatus_reports (ok : observer.nodeStatus now instanceId node data = .ok report) :
    Reports observer.isoformat nodeStatusOut report := by
  obtain ⟨record,_,ok⟩ := bind_ok ok
  obtain ⟨load,read,ok⟩ := bind_ok ok
  have average := reads_load sound _ read
  refine headed_reports ?_ ok
  simp [Declares,average,reads_float sound]

theorem vmStatus_reports (ok : observer.vmStatus now instanceId node vmid data = .ok report) :
    Reports observer.isoformat vmStatusOut report := by
  obtain ⟨record,_,ok⟩ := bind_ok ok
  refine headed_reports ?_ ok
  simp [Declares,reads_float sound]

theorem containerStatus_reports (ok : observer.containerStatus now instanceId node vmid data = .ok report) :
    Reports observer.isoformat containerStatusOut report := by
  obtain ⟨record,_,ok⟩ := bind_ok ok
  refine headed_reports ?_ ok
  simp [Declares,reads_float sound]

end Floating

theorem vmConfig_reports (ok : observer.vmConfig now instanceId node vmid data = .ok report) :
    Reports observer.isoformat vmConfigOut report := by
  obtain ⟨record,_,ok⟩ := bind_ok ok
  refine headed_reports ?_ ok
  simp [Declares,reads_created]

end Tools

section Obtained

variable {text : Text} {projection : Projection} {target : ResolvedTarget} {instanceId toolName toolVersion : String}
  {client : Except AdapterFault String} {remote : Remote Answer} {said : Exchanges} {report : JsonObject}

def guestTypeOf (toolName : String) : String :=
  if "proxmox.vm.".toList.isPrefixOf toolName.toList then guestTypeQemu else guestTypeLxc

variable (text projection target instanceId toolName said report) in
inductive Obtained : Prop
  | whole {data : Json} (routed : toolName ∈ ["proxmox.cluster.status","proxmox.node.list","proxmox.guest.list"])
    (answered : Answered said toolName [] data) (projected : projection.instance_ toolName instanceId data = .ok report)
  | storage {remote : Remote Answer} (named : toolName = "proxmox.storage.list")
    (done : (storage text projection target instanceId).converse remote [] = (said,.ok report))
  | node {inventory data : Json} {node : String} (routed : toolName ∈ ["proxmox.node.status","proxmox.node.network"])
    (listed : Answered said nodeInventory [] inventory) (resolved : resolveNode text target instanceId (.ok inventory) = .ok node)
    (answered : Answered said toolName [("node",node)] data)
    (projected : projection.node toolName instanceId node data = .ok report)
  | guest {inventory data : Json} {location : GuestLocation}
    (routed : toolName ∈ ["proxmox.vm.status","proxmox.vm.config","proxmox.container.status","proxmox.container.config"])
    (listed : Answered said guestInventory [] inventory)
    (resolved : resolveGuest text target instanceId (guestTypeOf toolName) (.ok inventory) = .ok location)
    (answered : Answered said toolName [("node",location.node),("vmid",toString location.vmid)] data)
    (projected : projection.guest toolName instanceId location data = .ok report)

theorem execute_returns
    (done : (execute text projection target client toolName toolVersion).converse remote [] = (said,.ok report)) :
    ∃ instanceId, client = .ok instanceId ∧ Obtained text projection target instanceId toolName said report := by
  unfold execute at done
  split at done
  · cases done
  · cases client with
    | error fault => cases done
    | ok instanceId =>
      refine ⟨instanceId,rfl,?_⟩
      dsimp only at done
      unfold observe at done
      split at done
      · rename_i routed
        obtain ⟨_,_,_,done⟩ := bind_returns done
        obtain ⟨_,data,read,done⟩ := bind_returns done
        obtain ⟨projected,rfl⟩ := lift_returns done
        exact .whole routed (getData_answered read) projected
      · split at done
        · exact .storage ‹_› done
        · split at done
          · rename_i routed
            obtain ⟨_,node,found,done⟩ := bind_returns done
            obtain ⟨_,data,read,done⟩ := bind_returns done
            obtain ⟨projected,rfl⟩ := lift_returns done
            obtain ⟨_,_,_,found⟩ := bind_returns found
            obtain ⟨_,inventory,listed,found⟩ := bind_returns found
            obtain ⟨resolved,rfl⟩ := lift_returns found
            obtain ⟨more,rfl⟩ := converse_grows read
            exact .node routed ((getData_answered listed).append more) resolved (getData_answered read) projected
          · obtain ⟨_,location,found,done⟩ := bind_returns done
            obtain ⟨_,data,read,done⟩ := bind_returns done
            split at done
            · rename_i routed
              obtain ⟨projected,rfl⟩ := lift_returns done
              obtain ⟨_,_,_,found⟩ := bind_returns found
              obtain ⟨_,inventory,listed,found⟩ := bind_returns found
              obtain ⟨resolved,rfl⟩ := lift_returns found
              obtain ⟨more,rfl⟩ := converse_grows read
              exact .guest routed ((getData_answered listed).append more) resolved (getData_answered read) projected
            · cases done

end Obtained

section Told

variable (observer : Observer) (now : Time) (target : ResolvedTarget) (instanceId toolName : String)

/-- The tool's report is the projection of an answer that it was sent for: of the whole instance, or of the
one node or guest that the inventory has for the target. -/
def Traced (said : Exchanges) (report : JsonObject) : Scope → Prop
  | .cluster => ∃ data, Answered said toolName [] data ∧ (observer.projection now).instance_ toolName instanceId data = .ok report
  | .node => ∃ inventory node data, Answered said nodeInventory [] inventory ∧
      resolveNode observer.text target instanceId (.ok inventory) = .ok node ∧ Answered said toolName [("node",node)] data ∧
      (observer.projection now).node toolName instanceId node data = .ok report ∧ Json.get report "node" = some (.str node)
  | .guest guestType => ∃ inventory location data, Answered said guestInventory [] inventory ∧
      resolveGuest observer.text target instanceId guestType (.ok inventory) = .ok location ∧
      Answered said toolName [("node",location.node),("vmid",toString location.vmid)] data ∧
      (observer.projection now).guest toolName instanceId location data = .ok report ∧
      Json.get report "node" = some (.str location.node) ∧ Json.get report "vmid" = some (.int location.vmid)

/-- What is reported is what the tool declares, of the instance that is configured and of what was read of it. -/
structure Told (said : Exchanges) (report : JsonObject) : Prop where
  declared : ∃ fields, outputModels.lookup toolName = some fields ∧ Reports observer.isoformat fields report
  labelled : Json.get report "instance_id" = some (.str instanceId)
  traced : if toolName = "proxmox.storage.list" then IsUnion observer.text observer.floats said report
    else Traced observer now target instanceId toolName said report (scopeOf toolName)

variable {observer now target instanceId toolName} {remote : Remote Answer} {said past : Exchanges} {report : JsonObject}
  {node : String} {vmid : Int} {data : Json}

theorem headed_instance {readings : List (String × Reading)} (ok : observer.headed now instanceId readings = .ok report) :
    Json.get report "instance_id" = some (.str instanceId) := by
  obtain ⟨others,rfl,_⟩ := headed_ok ok
  rfl

theorem headed_node {readings : List (String × Reading)}
    (ok : observer.headed now instanceId (("node",.ok (.str node))::readings) = .ok report) :
    Json.get report "node" = some (.str node) := by
  obtain ⟨_,rfl,later⟩ := headed_ok ok
  obtain ⟨_,rfl,_⟩ := document_cons later
  rfl

theorem headed_guest {readings : List (String × Reading)}
    (ok : observer.headed now instanceId (("node",.ok (.str node))::("vmid",.ok (.int vmid))::readings) = .ok report) :
    Json.get report "instance_id" = some (.str instanceId) ∧ Json.get report "node" = some (.str node) ∧
      Json.get report "vmid" = some (.int vmid) := by
  obtain ⟨_,rfl,later⟩ := headed_ok ok
  obtain ⟨_,rfl,last⟩ := document_cons later
  obtain ⟨_,rfl,_⟩ := document_cons last
  exact ⟨rfl,rfl,rfl⟩

theorem whole_told (sound : observer.floats.Sound)
    (whole : toolName ∈ ["proxmox.cluster.status","proxmox.node.list","proxmox.guest.list"])
    (answered : Answered said toolName [] data)
    (ok : (observer.projection now).instance_ toolName instanceId data = .ok report) :
    Told observer now target instanceId toolName said report := by
  have traced : Traced observer now target instanceId toolName said report .cluster := ⟨data,answered,ok⟩
  simp only [List.mem_cons,List.not_mem_nil,or_false] at whole
  rcases whole with rfl | rfl | rfl
  · have made : observer.clusterStatus now instanceId data = .ok report := ok
    obtain ⟨_,_,ok⟩ := bind_ok made
    obtain ⟨_,_,ok⟩ := bind_ok ok
    exact ⟨⟨_,rfl,clusterStatus_reports made⟩,headed_instance ok,traced⟩
  · have made : observer.nodeList now instanceId data = .ok report := ok
    obtain ⟨_,_,ok⟩ := bind_ok made
    obtain ⟨_,_,ok⟩ := bind_ok ok
    exact ⟨⟨_,rfl,nodeList_reports sound made⟩,headed_instance ok,traced⟩
  · have made : observer.guestList now instanceId data = .ok report := ok
    obtain ⟨_,_,ok⟩ := bind_ok made
    obtain ⟨_,_,ok⟩ := bind_ok ok
    exact ⟨⟨_,rfl,guestList_reports sound made⟩,headed_instance ok,traced⟩

theorem node_told (sound : observer.floats.Sound) (routed : toolName ∈ ["proxmox.node.status","proxmox.node.network"])
    {inventory : Json} (listed : Answered said nodeInventory [] inventory)
    (resolved : resolveNode observer.text target instanceId (.ok inventory) = .ok node)
    (answered : Answered said toolName [("node",node)] data)
    (ok : (observer.projection now).node toolName instanceId node data = .ok report) :
    Told observer now target instanceId toolName said report := by
  simp only [List.mem_cons,List.not_mem_nil,or_false] at routed
  rcases routed with rfl | rfl
  · have made : observer.nodeStatus now instanceId node data = .ok report := ok
    obtain ⟨_,_,head⟩ := bind_ok made
    obtain ⟨_,_,head⟩ := bind_ok head
    exact ⟨⟨_,rfl,nodeStatus_reports sound made⟩,headed_instance head,_,_,_,listed,resolved,answered,ok,headed_node head⟩
  · have made : observer.nodeNetwork now instanceId node data = .ok report := ok
    obtain ⟨_,_,head⟩ := bind_ok made
    obtain ⟨_,_,head⟩ := bind_ok head
    exact ⟨⟨_,rfl,nodeNetwork_reports made⟩,headed_instance head,_,_,_,listed,resolved,answered,ok,headed_node head⟩

theorem scopeOf_guest
    (routed : toolName ∈ ["proxmox.vm.status","proxmox.vm.config","proxmox.container.status","proxmox.container.config"]) :
    scopeOf toolName = .guest (guestTypeOf toolName) := by
  simp only [List.mem_cons,List.not_mem_nil,or_false] at routed
  rcases routed with rfl | rfl | rfl | rfl <;> rfl

theorem guest_told (sound : observer.floats.Sound) {guestType : String} {location : GuestLocation}
    (routed : toolName ∈ ["proxmox.vm.status","proxmox.vm.config","proxmox.container.status","proxmox.container.config"])
    (scope : scopeOf toolName = .guest guestType) {inventory : Json} (listed : Answered said guestInventory [] inventory)
    (resolved : resolveGuest observer.text target instanceId guestType (.ok inventory) = .ok location)
    (answered : Answered said toolName [("node",location.node),("vmid",toString location.vmid)] data)
    (ok : (observer.projection now).guest toolName instanceId location data = .ok report) :
    Told observer now target instanceId toolName said report := by
  have apart : toolName ≠ "proxmox.storage.list" := by
    rintro rfl
    revert routed
    decide
  have told (declared : ∃ fields, outputModels.lookup toolName = some fields ∧ Reports observer.isoformat fields report)
      (labels : Json.get report "instance_id" = some (.str instanceId) ∧ Json.get report "node" = some (.str location.node) ∧
        Json.get report "vmid" = some (.int location.vmid)) : Told observer now target instanceId toolName said report := by
    refine ⟨declared,labels.1,?_⟩
    rw [if_neg apart,scope]
    exact ⟨_,_,_,listed,resolved,answered,ok,labels.2⟩
  simp only [List.mem_cons,List.not_mem_nil,or_false] at routed
  rcases routed with rfl | rfl | rfl | rfl
  · have made : observer.vmStatus now instanceId location.node location.vmid data = .ok report := ok
    obtain ⟨_,_,head⟩ := bind_ok made
    exact told ⟨_,rfl,vmStatus_reports sound made⟩ (headed_guest head)
  · have made : observer.vmConfig now instanceId location.node location.vmid data = .ok report := ok
    obtain ⟨_,_,head⟩ := bind_ok made
    exact told ⟨_,rfl,vmConfig_reports made⟩ (headed_guest head)
  · have made : observer.containerStatus now instanceId location.node location.vmid data = .ok report := ok
    obtain ⟨_,_,head⟩ := bind_ok made
    exact told ⟨_,rfl,containerStatus_reports sound made⟩ (headed_guest head)
  · have made : observer.containerConfig now instanceId location.node location.vmid data = .ok report := ok
    obtain ⟨_,_,head⟩ := bind_ok made
    exact told ⟨_,rfl,containerConfig_reports made⟩ (headed_guest head)

theorem storageRows_report (sound : observer.floats.Sound) {nodes : List String} {rows : List JsonObject}
    (done : (storageRows (observer.projection now) nodes).converse remote past = (said,.ok rows)) :
    ∀ row ∈ rows, Reports observer.isoformat storageSummaryOut row := by
  have asked : (storageRows (.ofStorage observer.text observer.floats (observer.projection now) (observer.isoformat now))
    nodes).converse remote past = (said,.ok rows) := done
  obtain ⟨readings,rfl,read⟩ := storageRows_returns asked
  clear done asked
  induction read with
  | nil => exact fun _ member => absurd member List.not_mem_nil
  | cons first _ ih =>
    obtain ⟨_,_,entries,_,each⟩ := first
    rw [List.flatten_cons]
    exact List.forall_mem_append.mpr ⟨forall_right each fun _ _ made => storageEntry_reports sound made.1,ih⟩

theorem storage_told (sound : observer.floats.Sound)
    (done : (storage observer.text (observer.projection now) target instanceId).converse remote [] = (said,.ok report)) :
    Told observer now target instanceId "proxmox.storage.list" said report := by
  have asked : (storage observer.text (.ofStorage observer.text observer.floats (observer.projection now) (observer.isoformat now))
    target instanceId).converse remote [] = (said,.ok report) := done
  have union := storage_returns asked
  clear asked
  obtain ⟨_,named,instance_,done⟩ := bind_returns done
  obtain ⟨_,names,_,done⟩ := bind_returns done
  obtain ⟨_,rows,looped,done⟩ := bind_returns done
  obtain ⟨listed,rfl⟩ := lift_returns done
  obtain ⟨required,_⟩ := lift_returns instance_
  obtain ⟨rfl,_,_⟩ := requireInstance_ok.mp required
  obtain rfl := Except.ok.inj listed
  have queried : Conforms observer.isoformat (.list .str) (.strings names) := by
    refine .list fun item member => ?_
    obtain ⟨name,_,rfl⟩ := List.mem_map.mp member
    exact .str name
  have storages := conforms_listed (storageRows_report sound looped)
  rw [Proxmox.listed,reads_ok] at storages
  exact ⟨⟨_,rfl,by simp [storageListOut,proxmoxOut,queried,storages]⟩,rfl,union⟩

end Told

/-- In every conversation of every tool, whatever the upstream and the clock answer, what is returned has exactly the fields
that the tool's output model declares, each of the declared type, is of the configured instance, and is what the projection
makes of an answer that was given for the node or guest that it names. -/
theorem conversation_conforms (observer : Observer) (sound : observer.floats.Sound) (now : Time) (target : ResolvedTarget)
    (client : Except AdapterFault String) (toolName toolVersion : String) (remote : Remote Answer) (report : JsonObject)
    (returned : ((execute observer.text (observer.projection now) target client toolName toolVersion).converse remote []).2 =
      .ok report) :
    ∃ instanceId, client = .ok instanceId ∧ Told observer now target instanceId toolName
      ((execute observer.text (observer.projection now) target client toolName toolVersion).converse remote []).1 report := by
  obtain ⟨instanceId,configured,obtained⟩ := execute_returns (converse_eq returned)
  refine ⟨instanceId,configured,?_⟩
  cases obtained with
  | whole routed answered projected => exact whole_told sound routed answered projected
  | storage named done =>
    subst named
    exact storage_told sound done
  | node routed listed resolved answered projected => exact node_told sound routed listed resolved answered projected
  | guest routed listed resolved answered projected =>
    exact guest_told sound routed (scopeOf_guest routed) listed resolved answered projected

section Laboratory

def labObserver : Observer where
  text := labText
  floats := labFloats
  uuid := fun _ => none
  isoformat := fun _ => "1970-01-01T00:00:00Z"

theorem labFloats_sound : labFloats.Sound := ⟨nofun,nofun⟩

/-- Two guests, and one's answer that says it is of another node. -/
def mislabelled : Remote Answer := fun _ call => match call with
  | .remaining => (10 : Rat)
  | .get path _ => if path = "/api2/json/cluster/resources" then .ok labInventory
    else .ok (.obj [("node",.str "two"),("status",.str "running"),("cpu",.float (1/2)),("template",.str "no")])

theorem conversation_conforms_lab : ∃ report,
    ((execute labText (labObserver.projection 0) labMachine (.ok "lab") "proxmox.vm.status" "1.0.0").converse mislabelled []).2 =
      .ok report ∧ Json.get report "node" = some (.str "one") ∧ Json.get report "agent_enabled" = some .null ∧
    ∃ instanceId, (.ok "lab" : Except AdapterFault String) = .ok instanceId ∧
      Told labObserver 0 labMachine instanceId "proxmox.vm.status"
        ((execute labText (labObserver.projection 0) labMachine (.ok "lab") "proxmox.vm.status" "1.0.0").converse mislabelled []).1
        report :=
  ⟨_,rfl,rfl,rfl,conversation_conforms labObserver labFloats_sound 0 labMachine (.ok "lab") "proxmox.vm.status" "1.0.0" mislabelled
    _ rfl⟩

end Laboratory

end Acop.Proxmox
