import Acop.Guarantee.Degradation

/-! An inventory is never short: it has one row for each record of the answer, in the answer's order, and
what it says of the cluster is what the last record of a cluster says. -/
namespace Acop.Proxmox
open Acop.Transaction

section Complete

variable (observer : Observer) (entries : List JsonObject) (data : Json) (report : JsonObject)

def Keyed (key column : String) (entry row : JsonObject) : Prop :=
  ∃ value, asStr observer.text (field entry key) = some value ∧ Json.get row column = some (.str value)

/-- The row has the three fields that a guest is addressed by. -/
def GuestRow (entry row : JsonObject) : Prop :=
  (∃ vmid, asInt observer.text (field entry "vmid") = .ok (some vmid) ∧ Json.get row "vmid" = some (.int vmid)) ∧
    Keyed observer "type" "guest_type" entry row ∧ Keyed observer "node" "node" entry row

def memberType (entry : JsonObject) : String := (asStr observer.text (field entry "type")).getD "unknown"

def MemberRow (entry row : JsonObject) : Prop :=
  Json.get row "type" = some (.str (memberType observer entry)) ∧
    Json.get row "name" = some (.optional (asStr observer.text (field entry "name")))

def lastCluster : Option JsonObject := (entries.filter (memberType observer · = "cluster")).getLast?

/-- What the report says of the cluster as a whole. -/
structure ClusterFields : Prop where
  standalone : Json.get report "standalone" = some (.bool (lastCluster observer entries).isNone)
  clusterName : Json.get report "cluster_name" =
    some (.optional ((lastCluster observer entries).bind fun entry => asStr observer.text (field entry "name")))
  quorate : Json.get report "quorate" =
    some (optionalBool ((lastCluster observer entries).bind fun entry => asBool observer.text (field entry "quorate")))

/-- The column has one row for each record of the answer, in the answer's order. -/
structure Inventory (related : JsonObject → JsonObject → Prop) (column : String) : Prop where
  answer : data = .arr (entries.map .obj)
  rows : ∃ rows, Json.get report column = some (.arr (rows.map .obj)) ∧ List.Forall₂ related entries rows

inductive Complete : String → Prop
  | cluster {entries : List JsonObject} (inventory : Inventory entries data report (MemberRow observer) "members")
    (whole : ClusterFields observer entries report) : Complete "proxmox.cluster.status"
  | nodes {entries : List JsonObject} (inventory : Inventory entries data report (Keyed observer "node" "node") "nodes") :
    Complete "proxmox.node.list"
  | guests {entries : List JsonObject} (inventory : Inventory entries data report (GuestRow observer) "guests") :
    Complete "proxmox.guest.list"
  | interfaces {entries : List JsonObject} (inventory : Inventory entries data report (Keyed observer "iface" "iface") "interfaces") :
    Complete "proxmox.node.network"

end Complete

section Rows

variable {observer : Observer} {now : Time} {instanceId node : String} {data : Json} {entry row report : JsonObject}

theorem nodeEntry_keyed (ok : observer.nodeEntry entry = .ok row) : Keyed observer "node" "node" entry row := by
  unfold Observer.nodeEntry at ok
  split at ok
  · cases ok
  · obtain ⟨_,rfl,_⟩ := document_cons ok
    exact ⟨_,‹_›,rfl⟩

theorem interfaceEntry_keyed (ok : observer.interfaceEntry entry = .ok row) : Keyed observer "iface" "iface" entry row := by
  unfold Observer.interfaceEntry at ok
  split at ok
  · cases ok
  · obtain ⟨_,rfl,_⟩ := document_cons ok
    exact ⟨_,‹_›,rfl⟩

theorem guestEntry_row (ok : observer.guestEntry entry = .ok row) : GuestRow observer entry row := by
  obtain ⟨_,read,ok⟩ := bind_ok ok
  dsimp only at ok
  split at ok
  · obtain ⟨_,rfl,later⟩ := document_cons ok
    obtain ⟨_,rfl,last⟩ := document_cons later
    obtain ⟨_,rfl,_⟩ := document_cons last
    exact ⟨⟨_,read,rfl⟩,⟨_,‹_›,rfl⟩,⟨_,‹_›,rfl⟩⟩
  · cases ok

theorem inventory_of {endpoint : String} (column : String) {change : JsonObject → Except Refusal JsonObject}
    {related : JsonObject → JsonObject → Prop} (each : ∀ entry row, change entry = .ok row → related entry row)
    {finish : List JsonObject → Except Refusal JsonObject}
    (found : ∀ rows report, finish rows = .ok report → Json.get report column = some (.arr (rows.map .obj)))
    (ok : (do finish (← (← entriesOf endpoint data).mapM change)) = .ok report) :
    ∃ entries, Inventory entries data report related column := by
  obtain ⟨entries,read,ok⟩ := bind_ok ok
  obtain ⟨rows,made,ok⟩ := bind_ok ok
  exact ⟨entries,entriesOf_ok read,rows,found rows report ok,(mapM_forall made).imp each⟩

theorem nodeList_complete (ok : observer.nodeList now instanceId data = .ok report) :
    Complete observer data report "proxmox.node.list" := by
  obtain ⟨_,inventory⟩ := inventory_of "nodes" (fun _ _ => nodeEntry_keyed) (fun rows report ok => by
    obtain ⟨_,rfl,last⟩ := headed_ok ok
    obtain ⟨_,rfl,_⟩ := document_cons last
    rfl) ok
  exact .nodes inventory

theorem guestList_complete (ok : observer.guestList now instanceId data = .ok report) :
    Complete observer data report "proxmox.guest.list" := by
  obtain ⟨_,inventory⟩ := inventory_of "guests" (fun _ _ => guestEntry_row) (fun rows report ok => by
    obtain ⟨_,rfl,last⟩ := headed_ok ok
    obtain ⟨_,rfl,_⟩ := document_cons last
    rfl) ok
  exact .guests inventory

theorem nodeNetwork_complete (ok : observer.nodeNetwork now instanceId node data = .ok report) :
    Complete observer data report "proxmox.node.network" := by
  obtain ⟨_,inventory⟩ := inventory_of "interfaces" (fun _ _ => interfaceEntry_keyed) (fun rows report ok => by
    obtain ⟨_,rfl,later⟩ := headed_ok ok
    obtain ⟨_,rfl,last⟩ := document_cons later
    obtain ⟨_,rfl,_⟩ := document_cons last
    rfl) ok
  exact .interfaces inventory

end Rows

section Cluster

variable {observer : Observer} {now : Time} {instanceId : String} {data : Json} {entry report : JsonObject}
  {entries : List JsonObject} {view next : Observer.ClusterView}

theorem clusterMember_view (ok : observer.clusterMember view entry = .ok next) :
    (∃ row, next.members = view.members ++ [row] ∧ MemberRow observer entry row) ∧
      if memberType observer entry = "cluster" then next.standalone = false ∧
        next.clusterName = asStr observer.text (field entry "name") ∧ next.quorate = asBool observer.text (field entry "quorate")
      else next.standalone = view.standalone ∧ next.clusterName = view.clusterName ∧ next.quorate = view.quorate := by
  obtain ⟨row,made,rfl⟩ := map_ok ok
  constructor
  · refine ⟨row,?_,?_⟩
    · split
      · rfl
      · rfl
    · obtain ⟨_,rfl,later⟩ := document_cons made
      obtain ⟨_,rfl,last⟩ := document_cons later
      obtain ⟨_,_,named,rfl,_⟩ := document_cons_reads last
      cases named
      exact ⟨rfl,rfl⟩
  · unfold memberType
    split
    · exact ⟨rfl,rfl,rfl⟩
    · exact ⟨rfl,rfl,rfl⟩

/-- What the loop has found after some records. -/
structure Viewed (observer : Observer) (entries : List JsonObject) (view next : Observer.ClusterView) : Prop where
  members : ∃ rows, next.members = view.members ++ rows ∧ List.Forall₂ (MemberRow observer) entries rows
  standalone : next.standalone = (view.standalone && (lastCluster observer entries).isNone)
  clusterName : next.clusterName =
    (lastCluster observer entries).elim view.clusterName fun entry => asStr observer.text (field entry "name")
  quorate : next.quorate = (lastCluster observer entries).elim view.quorate fun entry => asBool observer.text (field entry "quorate")

theorem lastCluster_cons {rest : List JsonObject} : lastCluster observer (entry::rest) =
    (lastCluster observer rest).or (if memberType observer entry = "cluster" then some entry else none) := by
  unfold lastCluster
  by_cases cluster : memberType observer entry = "cluster"
  · rw [List.filter_cons_of_pos (by simpa using cluster),List.getLast?_cons,if_pos cluster]
    cases (rest.filter (memberType observer · = "cluster")).getLast? <;> rfl
  · rw [List.filter_cons_of_neg (by simpa using cluster),if_neg cluster,Option.or_none]

theorem clusterMembers_view (ok : entries.foldlM observer.clusterMember view = .ok next) : Viewed observer entries view next := by
  induction entries generalizing view with
  | nil =>
    cases ok
    exact ⟨⟨[],(List.append_nil _).symm,.nil⟩,(Bool.and_true _).symm,rfl,rfl⟩
  | cons entry rest ih =>
    rw [List.foldlM_cons] at ok
    obtain ⟨middle,made,ok⟩ := bind_ok ok
    obtain ⟨⟨rows,appended,all⟩,standalone,clusterName,quorate⟩ := ih ok
    obtain ⟨⟨row,first,related⟩,taken⟩ := clusterMember_view made
    refine ⟨⟨row::rows,by rw [appended,first,List.append_assoc,List.singleton_append],.cons related all⟩,?_,?_,?_⟩
    all_goals
      rw [lastCluster_cons]
      cases found : lastCluster observer rest with
      | some last => simp_all
      | none =>
        rw [found] at standalone clusterName quorate
        split at taken <;> simp_all

theorem clusterStatus_complete (ok : observer.clusterStatus now instanceId data = .ok report) :
    Complete observer data report "proxmox.cluster.status" := by
  obtain ⟨entries,read,ok⟩ := bind_ok ok
  obtain ⟨view,seen,ok⟩ := bind_ok ok
  obtain ⟨⟨rows,members,all⟩,standalone,clusterName,quorate⟩ := clusterMembers_view seen
  obtain ⟨_,rfl,fields⟩ := headed_ok ok
  obtain ⟨_,rfl,named⟩ := document_cons fields
  obtain ⟨_,rfl,voted⟩ := document_cons named
  obtain ⟨_,rfl,last⟩ := document_cons voted
  obtain ⟨_,rfl,_⟩ := document_cons last
  refine .cluster ⟨entriesOf_ok read,rows,?_,all⟩ ⟨?_,?_,?_⟩
  · rw [members]
    rfl
  · rw [standalone]
    rfl
  · rw [clusterName]
    cases lastCluster observer entries <;> rfl
  · rw [quorate]
    cases lastCluster observer entries <;> rfl

end Cluster

/-- In every conversation in which the cluster's status or a listing of nodes, guests or interfaces is returned, it has one
row for each record of what the upstream answered, in that order and under the record's own name, and says of the cluster
what the last record of a cluster says. -/
theorem inventory_complete (observer : Observer) (now : Time) (target : ResolvedTarget) (client : Except AdapterFault String)
    (toolName toolVersion : String) (remote : Remote Answer) (report : JsonObject)
    (listing : toolName ∈ ["proxmox.cluster.status","proxmox.node.list","proxmox.guest.list","proxmox.node.network"])
    (returned : ((execute observer.text (observer.projection now) target client toolName toolVersion).converse remote []).2 =
      .ok report) :
    ∃ values data, Answered ((execute observer.text (observer.projection now) target client toolName toolVersion).converse remote []).1
      toolName values data ∧ Complete observer data report toolName := by
  obtain ⟨instanceId,_,obtained⟩ := execute_returns (converse_eq returned)
  simp only [List.mem_cons,List.not_mem_nil,or_false] at listing
  cases obtained with
  | whole routed answered projected =>
    refine ⟨_,_,answered,?_⟩
    rcases listing with rfl | rfl | rfl | rfl
    · exact clusterStatus_complete projected
    · exact nodeList_complete projected
    · exact guestList_complete projected
    · exact absurd routed (by decide)
  | node routed _ _ answered projected =>
    refine ⟨_,_,answered,?_⟩
    rcases listing with rfl | rfl | rfl | rfl
    · exact absurd routed (by decide)
    · exact absurd routed (by decide)
    · exact absurd routed (by decide)
    · exact nodeNetwork_complete projected
  | storage named _ => rcases listing with rfl | rfl | rfl | rfl <;> exact absurd named (by decide)
  | guest routed _ _ _ _ => rcases listing with rfl | rfl | rfl | rfl <;> exact absurd routed (by decide)

section Laboratory

def clusteredUpstream : Remote Answer := fun _ call => match call with
  | .remaining => (10 : Rat)
  | .get _ _ => .ok (.arr [.obj [("type",.str "cluster"),("name",.str "home"),("quorate",.str "1")],
      .obj [("type",.str "node"),("name",.str "pve-01"),("online",.bool true)]])

theorem inventory_complete_lab : ∃ report,
    ((execute labText (labObserver.projection 0) labCluster (.ok "lab") "proxmox.cluster.status" "1.0.0").converse
      clusteredUpstream []).2 = .ok report ∧ Json.get report "cluster_name" = some (.str "home") ∧
    ∃ values data, Answered ((execute labText (labObserver.projection 0) labCluster (.ok "lab") "proxmox.cluster.status"
      "1.0.0").converse clusteredUpstream []).1 "proxmox.cluster.status" values data ∧
        Complete labObserver data report "proxmox.cluster.status" :=
  ⟨_,rfl,rfl,inventory_complete labObserver 0 labCluster (.ok "lab") "proxmox.cluster.status" "1.0.0" clusteredUpstream _ (by decide)
    rfl⟩

end Laboratory

end Acop.Proxmox
