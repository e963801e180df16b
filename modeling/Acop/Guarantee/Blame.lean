import Acop.Guarantee.Inventories

/-! Whom a failure is to be put down to: every fault that ends a conversation is of a class of the adapter's,
was the upstream's or the settings' own, or is a number that Python cannot read. -/
namespace Acop.Proxmox
open Acop.Transaction

section Blame

/-- The fault is one that the adapter raises by design. -/
def AdapterFault.Classified : AdapterFault → Prop
  | .refused refusal => refusal.Classified
  | _ => True

variable (floats : Floats) (text : Text) (target : ResolvedTarget) (client : Except AdapterFault String) (said : Exchanges)

inductive Blamed : AdapterFault → Prop
  | classified {fault : AdapterFault} (classified : fault.Classified) : Blamed fault
  | settings {fault : AdapterFault} (failed : client = .error fault) : Blamed fault
  | upstream {fault : AdapterFault} {before : Exchanges} {path : String} {query : List (String × String)}
    (last : said = before ++ [⟨.get path query,.error fault⟩]) : Blamed fault
  | vmid {instanceId : String} (configured : client = .ok instanceId)
    (unread : parseVmid text target instanceId = .error .valueError) : Blamed (.refused .valueError)
  | number {key : String} {values : List (String × String)} {data : Json} {refusal : Refusal} (answered : Answered said key values data)
    (escapes : Escapes floats data refusal) : Blamed (.refused refusal)

end Blame

section Failing

variable {α β : Type} {remote : Remote Answer} {past said : Exchanges} {fault : AdapterFault}

theorem bind_fails {program : Client α} {rest : α → Client β}
    (failed : (program >>= rest).converse remote past = (said,.error fault)) :
    program.converse remote past = (said,.error fault) ∨
      ∃ middle result, program.converse remote past = (middle,.ok result) ∧ (rest result).converse remote middle = (said,.error fault) := by
  rw [Program.converse_bind] at failed
  split at failed
  · rename_i middle result first
    exact .inr ⟨middle,result,first,failed⟩
  · rename_i middle other first
    cases failed
    exact .inl first

theorem lift_fails {result : Except Refusal α} (failed : (lift result).converse remote past = (said,.error fault)) :
    ∃ refusal, result = .error refusal ∧ fault = .refused refusal ∧ past = said := by
  cases result with
  | ok value => cases failed
  | error refusal =>
    cases failed
    exact ⟨refusal,rfl,rfl,rfl⟩

theorem render_error {endpoint : EndpointTemplate} {values : List (String × String)} {name : String} {refusal : Refusal}
    (failed : endpoint.render values name = .error refusal) : refusal.Classified := by
  unfold EndpointTemplate.render at failed
  dsimp only at failed
  split at failed
  · exact ⟨_,_,_,(Except.error.inj failed).symm⟩
  · cases failed

theorem build_error {endpoint : EndpointTemplate} {values : List (String × String)} {refusal : Refusal}
    (failed : endpoint.build values = .error refusal) : refusal.Classified := by
  unfold EndpointTemplate.build at failed
  dsimp only at failed
  split at failed
  · exact ⟨_,_,_,(Except.error.inj failed).symm⟩
  · rcases bind_error failed with rendered | ⟨_,_,failed⟩
    · obtain ⟨name,_,rejected⟩ := mapM_error rendered
      exact render_error rejected
    · cases failed

/-- A read that fails is refused by the adapter, or it is the upstream's failure and the last thing said. -/
theorem getData_fails {key : String} {values : List (String × String)}
    (failed : (getData key values).converse remote past = (said,.error fault)) :
    fault.Classified ∨ ∃ before path query, said = before ++ [⟨.get path query,.error fault⟩] := by
  unfold getData at failed
  split at failed
  · cases failed
    exact .inl ⟨_,_,_,rfl⟩
  · rcases bind_fails failed with built | ⟨_,⟨path,query⟩,_,failed⟩
    · obtain ⟨refusal,rejected,rfl,_⟩ := lift_fails built
      exact .inl (build_error rejected)
    · rcases bind_fails failed with asked | ⟨middle,left,_,failed⟩
      · cases asked
      · split at failed
        · cases failed
          exact .inl trivial
        · rcases bind_fails failed with asked | ⟨_,_,asked,failed⟩
          · cases asked
          · cases asked
            obtain ⟨reply,answered⟩ : ∃ reply : Except AdapterFault Json, remote middle (.get path query) = reply := ⟨_,rfl⟩
            rw [answered] at failed
            cases reply with
            | ok data => cases failed
            | error other =>
              cases failed
              exact .inr ⟨middle,path,query,rfl⟩

theorem onlineNames_error {text : Text} {listing : List JsonObject} {refusal : Refusal}
    (failed : onlineNames text listing = .error refusal) : refusal.Classified := by
  induction listing with
  | nil => cases failed
  | cons record rest ih =>
    dsimp only [onlineNames] at failed
    split at failed
    · exact ⟨_,_,_,(Except.error.inj failed).symm⟩
    · rcases bind_error failed with later | ⟨_,_,failed⟩
      · exact ih later
      · cases failed

theorem requireInstance_error {text : Text} {target : ResolvedTarget} {instanceId : String} {refusal : Refusal}
    (failed : requireInstance text target instanceId = .error refusal) : refusal.Classified := by
  rcases bind_error failed with read | ⟨_,_,failed⟩
  · exact identifier_error read
  · split at failed
    · exact ⟨_,_,_,(Except.error.inj failed).symm⟩
    · cases failed

theorem resolveNode_error {text : Text} {target : ResolvedTarget} {instanceId : String} {inventory : Json} {refusal : Refusal}
    (failed : resolveNode text target instanceId (.ok inventory) = .error refusal) : refusal.Classified := by
  rcases bind_error failed with read | ⟨_,_,failed⟩
  · exact scopedObject_error read
  · rcases bind_error failed with given | ⟨_,_,failed⟩
    · cases given
    · rcases bind_error failed with listed | ⟨_,_,failed⟩
      · exact records_error listed
      · split at failed
        · exact ⟨_,_,_,(Except.error.inj failed).symm⟩
        · cases failed
        · exact ⟨_,_,_,(Except.error.inj failed).symm⟩

theorem parseVmid_error {text : Text} {target : ResolvedTarget} {instanceId : String} {refusal : Refusal}
    (failed : parseVmid text target instanceId = .error refusal) : refusal.Classified ∨ refusal = .valueError := by
  rcases bind_error failed with read | ⟨_,_,failed⟩
  · exact .inl (scopedObject_error read)
  · dsimp only at failed
    split at failed
    · exact .inl ⟨_,_,_,(Except.error.inj failed).symm⟩
    · split at failed
      · cases failed
      · exact .inr (Except.error.inj failed).symm

end Failing

section Tools

variable {observer : Observer} {now : Time} {target : ResolvedTarget} {instanceId toolName toolVersion node : String}
  {client : Except AdapterFault String} {remote : Remote Answer} {past said : Exchanges} {fault : AdapterFault}

theorem Blamed.of_getData {floats : Floats} {text : Text} {key : String} {values : List (String × String)}
    (failed : (getData key values).converse remote past = (said,.error fault)) : Blamed floats text target client said fault := by
  rcases getData_fails failed with classified | ⟨before,path,query,last⟩
  · exact .classified classified
  · exact .upstream last

theorem Blamed.of_classified {floats : Floats} {text : Text} {refusal : Refusal} (classified : refusal.Classified) :
    Blamed floats text target client said (.refused refusal) := .classified classified

theorem Blamed.of_projection {α : Type} {text : Text} {endpoint key : String} {shape : Json → Prop} {project : Json → Except Refusal α}
    {values : List (String × String)} {data : Json} (degrades : Degrades observer.floats endpoint shape project)
    (answered : Answered past key values data) (failed : (lift (project data)).converse remote past = (said,.error fault)) :
    Blamed observer.floats text target client said fault := by
  obtain ⟨refusal,rejected,rfl,rfl⟩ := lift_fails failed
  rcases degrades.refused data refusal rejected with ⟨_,message,context,rfl,_⟩ | escapes
  · exact .of_classified ⟨_,_,_,rfl⟩
  · exact .number answered escapes

theorem instance_degrades (routed : toolName ∈ ["proxmox.cluster.status","proxmox.node.list","proxmox.guest.list"]) :
    ∃ endpoint shape, Degrades observer.floats endpoint shape ((observer.projection now).instance_ toolName instanceId) := by
  simp only [List.mem_cons,List.not_mem_nil,or_false] at routed
  rcases routed with rfl | rfl | rfl
  · exact ⟨_,_,clusterStatus_degrades observer now instanceId⟩
  · exact ⟨_,_,nodeList_degrades observer now instanceId⟩
  · exact ⟨_,_,guestList_degrades observer now instanceId⟩

theorem node_degrades (routed : toolName ∈ ["proxmox.node.status","proxmox.node.network"]) :
    ∃ endpoint shape, Degrades observer.floats endpoint shape ((observer.projection now).node toolName instanceId node) := by
  simp only [List.mem_cons,List.not_mem_nil,or_false] at routed
  rcases routed with rfl | rfl
  · exact ⟨_,_,nodeStatus_degrades observer now instanceId node⟩
  · exact ⟨_,_,nodeNetwork_degrades observer now instanceId node⟩

theorem guest_degrades {location : GuestLocation}
    (routed : toolName ∈ ["proxmox.vm.status","proxmox.vm.config","proxmox.container.status","proxmox.container.config"]) :
    ∃ endpoint shape, Degrades observer.floats endpoint shape ((observer.projection now).guest toolName instanceId location) := by
  simp only [List.mem_cons,List.not_mem_nil,or_false] at routed
  rcases routed with rfl | rfl | rfl | rfl
  · exact ⟨_,_,vmStatus_degrades observer now instanceId location.node location.vmid⟩
  · exact ⟨_,_,vmConfig_degrades observer now instanceId location.node location.vmid⟩
  · exact ⟨_,_,containerStatus_degrades observer now instanceId location.node location.vmid⟩
  · exact ⟨_,_,containerConfig_degrades observer now instanceId location.node location.vmid⟩

theorem storageRows_fails {text : Text} {nodes : List String}
    (failed : (storageRows (observer.projection now) nodes).converse remote past = (said,.error fault)) :
    Blamed observer.floats text target client said fault := by
  induction nodes generalizing past with
  | nil => cases failed
  | cons node rest ih =>
    rcases bind_fails failed with read | ⟨_,data,read,failed⟩
    · exact .of_getData read
    · rcases bind_fails failed with projected | ⟨_,_,_,failed⟩
      · exact .of_projection (storageEntries_degrades observer node) (getData_answered read) projected
      · rcases bind_fails failed with later | ⟨_,_,_,failed⟩
        · exact ih later
        · cases failed

theorem storage_fails {text : Text} (failed : (storage text (observer.projection now) target instanceId).converse remote past =
    (said,.error fault)) : Blamed observer.floats text target client said fault := by
  rcases bind_fails failed with required | ⟨_,_,_,failed⟩
  · obtain ⟨refusal,rejected,rfl,_⟩ := lift_fails required
    exact .of_classified (requireInstance_error rejected)
  · rcases bind_fails failed with asked | ⟨_,_,_,failed⟩
    · rcases bind_fails asked with read | ⟨_,data,_,online⟩
      · exact .of_getData read
      · obtain ⟨refusal,rejected,rfl,_⟩ := lift_fails online
        rcases bind_error rejected with listed | ⟨_,_,named⟩
        · exact .of_classified (records_error listed)
        · exact .of_classified (onlineNames_error named)
    · rcases bind_fails failed with looped | ⟨_,_,_,listed⟩
      · exact storageRows_fails looped
      · obtain ⟨refusal,rejected,_,_⟩ := lift_fails listed
        cases rejected

theorem findNode_fails {text : Text} {floats : Floats}
    (failed : (findNode text target instanceId).converse remote past = (said,.error fault)) :
    Blamed floats text target client said fault := by
  rcases bind_fails failed with scoped_ | ⟨_,_,_,failed⟩
  · obtain ⟨refusal,rejected,rfl,_⟩ := lift_fails scoped_
    exact .of_classified (scopedObject_error rejected)
  · rcases bind_fails failed with read | ⟨_,data,_,resolved⟩
    · exact .of_getData read
    · obtain ⟨refusal,rejected,rfl,_⟩ := lift_fails resolved
      exact .of_classified (resolveNode_error rejected)

theorem findGuest_fails {text : Text} {floats : Floats} {guestType : String} (configured : client = .ok instanceId)
    (failed : (findGuest text target instanceId guestType).converse remote past = (said,.error fault)) :
    Blamed floats text target client said fault := by
  rcases bind_fails failed with parsed | ⟨_,vmid,parsed,failed⟩
  · obtain ⟨refusal,unread,rfl,_⟩ := lift_fails parsed
    rcases parseVmid_error unread with classified | rfl
    · exact .of_classified classified
    · exact .vmid configured unread
  · obtain ⟨named,_⟩ := lift_returns parsed
    rcases bind_fails failed with read | ⟨_,data,_,resolved⟩
    · exact .of_getData read
    · obtain ⟨refusal,rejected,rfl,_⟩ := lift_fails resolved
      refine .of_classified (resolveGuest_classified (fun other unread => ?_) rejected)
      cases named.symm.trans unread

theorem guest_fails (configured : client = .ok instanceId)
    (failed : (guest observer.text (observer.projection now) target instanceId toolName).converse remote past = (said,.error fault)) :
    Blamed observer.floats observer.text target client said fault := by
  rcases bind_fails failed with found | ⟨_,location,_,failed⟩
  · exact findGuest_fails configured found
  · rcases bind_fails failed with read | ⟨_,data,read,failed⟩
    · exact .of_getData read
    · split at failed
      · rename_i routed
        obtain ⟨_,_,degrades⟩ := guest_degrades routed
        exact .of_projection degrades (getData_answered read) failed
      · cases failed
        exact .of_classified ⟨_,_,_,rfl⟩

end Tools

/-- In every conversation of every tool that fails, the fault is of a class of the adapter's, or the settings' own, or the
upstream's failure and the last thing said; but for these it is over a number: of an answer, or of the target's identifier. -/
theorem failure_blamed (observer : Observer) (now : Time) (target : ResolvedTarget) (client : Except AdapterFault String)
    (toolName toolVersion : String) (remote : Remote Answer) (fault : AdapterFault)
    (failed : ((execute observer.text (observer.projection now) target client toolName toolVersion).converse remote []).2 =
      .error fault) :
    Blamed observer.floats observer.text target client
      ((execute observer.text (observer.projection now) target client toolName toolVersion).converse remote []).1 fault := by
  have ended : (execute observer.text (observer.projection now) target client toolName toolVersion).converse remote [] =
    (((execute observer.text (observer.projection now) target client toolName toolVersion).converse remote []).1,.error fault) := by
    rw [← failed]
  generalize ((execute observer.text (observer.projection now) target client toolName toolVersion).converse remote []).1 = said
    at ended ⊢
  unfold execute at ended
  split at ended
  · cases ended
    exact .classified trivial
  · cases configured : client with
    | error other =>
      rw [configured] at ended
      cases ended
      exact .settings rfl
    | ok instanceId =>
      rw [configured] at ended
      dsimp only at ended
      unfold observe at ended
      split at ended
      · rename_i routed
        rcases bind_fails ended with required | ⟨_,_,_,ended⟩
        · obtain ⟨refusal,rejected,rfl,_⟩ := lift_fails required
          exact .of_classified (requireInstance_error rejected)
        · rcases bind_fails ended with read | ⟨_,data,read,projected⟩
          · exact .of_getData read
          · obtain ⟨_,_,degrades⟩ := instance_degrades routed
            exact .of_projection degrades (getData_answered read) projected
      · split at ended
        · exact storage_fails ended
        · split at ended
          · rename_i routed
            rcases bind_fails ended with found | ⟨_,node,_,ended⟩
            · exact findNode_fails found
            · rcases bind_fails ended with read | ⟨_,data,read,projected⟩
              · exact .of_getData read
              · obtain ⟨_,_,degrades⟩ := node_degrades routed
                exact .of_projection degrades (getData_answered read) projected
          · exact guest_fails rfl ended

section Laboratory

def unnumbered : Remote Answer := fun _ call => match call with
  | .remaining => (10 : Rat)
  | .get _ _ => .ok (.arr [.obj [("node",.str "pve-01"),("uptime",.nonFinite .nan)]])

theorem failure_blamed_lab :
    ((execute labText (labObserver.projection 0) labCluster (.ok "lab") "proxmox.node.list" "1.0.0").converse unnumbered []).2 =
      .error (.refused .valueError) ∧
    Blamed labFloats labText labCluster (.ok "lab")
      ((execute labText (labObserver.projection 0) labCluster (.ok "lab") "proxmox.node.list" "1.0.0").converse unnumbered []).1
      (.refused .valueError) :=
  ⟨rfl,failure_blamed labObserver 0 labCluster (.ok "lab") "proxmox.node.list" "1.0.0" unnumbered _ rfl⟩

end Laboratory

end Acop.Proxmox
