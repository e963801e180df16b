import Acop.Guarantee.Routing
import Acop.Proxmox.Projection

/-! What every conversation of the adapter keeps to: no request without time left, none after a
failure; and the storage listing as the union of the listings of the online nodes. -/
namespace Acop.Proxmox
open Acop.Transaction

section Rules

variable (text : Text) (floats : Floats)

/-- The name that the inventory has for a node, for each that is online. -/
def onlineOf (listing : List JsonObject) : List String :=
  (listing.filter fun record => text.lower (textOf text record "status") = "online").map (textOf text · "node")

/-- One row for each record that was read, tagged with the node. -/
def Lists (node : String) (data : Json) (rows : List JsonObject) : Prop :=
  ∃ entries, data = .arr (entries.map .obj) ∧
    List.Forall₂ (fun entry row => storageEntry text floats node entry = .ok row ∧ Json.get row "node" = some (.str node)) entries rows

/-- What an endpoint answered when it was asked, while time was left. -/
def Answered (said : Exchanges) (key : String) (values : List (String × String)) (data : Json) : Prop :=
  ∃ endpoint path query before left after, toolEndpoints.lookup key = some endpoint ∧
    endpoint.build values = .ok (path,query) ∧ (0 : Rat) < left ∧
    said = before ++ ⟨.remaining,left⟩::⟨.get path query,.ok data⟩::after

/-- The node's own listing, as it was answered, has these rows. -/
def ReadRows (said : Exchanges) (node : String) (rows : List JsonObject) : Prop :=
  ∃ data, Answered said "proxmox.storage.list" [("node",node)] data ∧ Lists text floats node data rows

/-- The result is the union over the online nodes of the inventory that was answered, in its order. -/
def IsUnion (said : Exchanges) (result : JsonObject) : Prop :=
  ∃ inventory listing readings, Answered said nodeInventory [] inventory ∧ records inventory nodeInventory = .ok listing ∧
    Json.get result "nodes_queried" = some (.strings (onlineOf text listing)) ∧
    List.Forall₂ (ReadRows text floats said) (onlineOf text listing) readings ∧
    Json.get result "storages" = some (.arr (readings.flatten.map .obj))

/-- A read that fails is the last, and the invocation fails with it. -/
def FailsFirst (said : Exchanges) (outcome : Except AdapterFault JsonObject) : Prop :=
  ∀ before after path query fault, said = before ++ ⟨.get path query,.error fault⟩::after →
    after = [] ∧ outcome = .error fault

/-- Each request was sent just after the clock had time left. -/
def WithinBudget (said : Exchanges) : Prop :=
  ∀ before after path query answer, said = before ++ ⟨.get path query,answer⟩::after →
    ∃ earlier left, before = earlier ++ [⟨.remaining,left⟩] ∧ (0 : Rat) < left

end Rules

section Conversation

variable {α β : Type} {remote : Remote Answer} {past said : Exchanges}

/-- Every read that fails ends the program with its fault. -/
inductive Strict : Client α → Prop
  | done {value : α} : Strict (.done value)
  | fail {fault : AdapterFault} : Strict (.fail fault)
  | remaining {next : Answer .remaining → Client α} (rest : ∀ left, Strict (next left)) : Strict (.call .remaining next)
  | get {path : String} {query : List (String × String)} {next : Answer (.get path query) → Client α}
    (failed : ∀ fault : AdapterFault, next (Except.error fault : Except AdapterFault Json) = .fail fault)
    (rest : ∀ data : Json, Strict (next (Except.ok data : Except AdapterFault Json))) : Strict (.call (.get path query) next)

theorem strict_bind {program : Client α} {rest : α → Client β} (first : Strict program) (later : ∀ value, Strict (rest value)) :
    Strict (program >>= rest) := by
  induction first with
  | done => exact later _
  | fail => exact .fail
  | remaining _ ih => exact .remaining ih
  | get failed _ ih => exact .get (fun fault => by rw [failed fault]; rfl) ih

theorem strict_lift (result : Except Refusal α) : Strict (lift result) := by
  cases result with
  | ok value => exact .done
  | error refusal => exact .fail

theorem strict_getData (key : String) (values : List (String × String)) : Strict (getData key values) := by
  unfold getData
  split
  · exact .fail
  · refine strict_bind (strict_lift _) ?_
    rintro ⟨path,query⟩
    refine .remaining fun (left : Rat) => ?_
    change Strict (ite (left ≤ 0) _ _)
    split
    · exact .fail
    · exact .get (fun fault => rfl) fun data => .done

theorem converse_call {call : Call} {next : Answer call → Client α} : (Program.call call next : Client α).converse remote past =
    (next (remote past call)).converse remote (past ++ [⟨call,remote past call⟩]) := rfl

theorem first_exchange {call : Call} {next : Answer call → Client α} {before after : Exchanges} {exchange : Exchange Answer}
    (here : before.length = past.length)
    (sent : ((Program.call call next : Client α).converse remote past).1 = before ++ exchange::after) :
    exchange = ⟨call,remote past call⟩ ∧ ∃ rest, after = rest ∧
      ((next (remote past call)).converse remote (past ++ [⟨call,remote past call⟩])).1 =
        past ++ [⟨call,remote past call⟩] ++ rest := by
  obtain ⟨rest,same⟩ := Program.converse_extends remote (past ++ [⟨call,remote past call⟩]) (next (remote past call))
  have split : past ++ ⟨call,remote past call⟩::rest = before ++ exchange::after := by
    rw [← sent,converse_call,same,List.append_assoc,List.singleton_append]
  obtain ⟨_,tail⟩ := List.append_inj split here.symm
  obtain ⟨first,rfl⟩ := List.cons.inj tail
  exact ⟨first.symm,_,rfl,same⟩

theorem longer {before : Exchanges} (exchange : Exchange Answer) (later : past.length < before.length) :
    (past ++ [exchange]).length ≤ before.length := by
  rw [List.length_append,List.length_singleton]
  exact later

theorem strict_converse {program : Client α} (strict : Strict program) {before after : Exchanges} {path : String}
    {query : List (String × String)} {fault : AdapterFault} (new : past.length ≤ before.length)
    (sent : (program.converse remote past).1 = before ++ ⟨.get path query,.error fault⟩::after) :
    after = [] ∧ (program.converse remote past).2 = .error fault := by
  induction strict generalizing past with
  | done =>
    have equal := congrArg List.length sent
    simp only [Program.converse,List.length_append,List.length_cons] at equal
    omega
  | fail =>
    have equal := congrArg List.length sent
    simp only [Program.converse,List.length_append,List.length_cons] at equal
    omega
  | @remaining next _ ih =>
    rcases Nat.lt_or_ge past.length before.length with later | here
    · rw [converse_call] at sent ⊢
      exact ih _ (longer _ later) sent
    · cases (first_exchange (by omega) sent).1
  | @get path' query' next failed _ ih =>
    rcases Nat.lt_or_ge past.length before.length with later | here
    · rw [converse_call] at sent ⊢
      obtain ⟨reply,answered⟩ : ∃ reply : Except AdapterFault Json, remote past (.get path' query') = reply := ⟨_,rfl⟩
      rw [answered] at sent ⊢
      cases reply with
      | ok data => exact ih data (longer _ later) sent
      | error other =>
        rw [failed other] at sent
        have equal := congrArg List.length sent
        simp only [Program.converse,List.length_append,List.length_cons,List.length_nil] at equal
        omega
    · obtain ⟨first,rest,rfl,said⟩ := first_exchange (by omega) sent
      obtain ⟨reply,answered⟩ : ∃ reply : Except AdapterFault Json, remote past (.get path' query') = reply := ⟨_,rfl⟩
      rw [answered] at first said
      cases first
      rw [failed fault] at said
      rw [converse_call,answered,failed fault]
      refine ⟨?_,rfl⟩
      have equal := congrArg List.length said
      simp only [Program.converse,List.length_append,List.length_cons,List.length_nil] at equal
      exact List.eq_nil_of_length_eq_zero (by omega)

variable {text : Text} {floats : Floats} {target : ResolvedTarget} {instanceId : String} {projection : Projection}

theorem bind_returns {program : Client α} {rest : α → Client β} {value : β}
    (done : (program >>= rest).converse remote past = (said,.ok value)) :
    ∃ middle result, program.converse remote past = (middle,.ok result) ∧ (rest result).converse remote middle = (said,.ok value) := by
  rw [Program.converse_bind] at done
  split at done
  · rename_i middle result first
    exact ⟨middle,result,first,done⟩
  · cases done

theorem converse_eq {program : Client α} {value : α} (returned : (program.converse remote past).2 = .ok value) :
    program.converse remote past = ((program.converse remote past).1,.ok value) := by rw [← returned]

theorem lift_returns {result : Except Refusal α} {value : α} (done : (lift result).converse remote past = (said,.ok value)) :
    result = .ok value ∧ past = said := by
  cases result with
  | ok value => cases done; exact ⟨rfl,rfl⟩
  | error refusal => cases done

theorem getData_returns {key : String} {values : List (String × String)} {data : Json}
    (done : (getData key values).converse remote past = (said,.ok data)) :
    ∃ endpoint path query, toolEndpoints.lookup key = some endpoint ∧ endpoint.build values = .ok (path,query) ∧
      (0 : Rat) < remote past .remaining ∧
      remote (past ++ [⟨.remaining,remote past .remaining⟩]) (.get path query) = .ok data ∧
      said = past ++ [⟨.remaining,remote past .remaining⟩,⟨.get path query,.ok data⟩] := by
  unfold getData at done
  split at done
  · cases done
  · rename_i endpoint found
    obtain ⟨_,⟨path,query⟩,built,done⟩ := bind_returns done
    obtain ⟨ready,rfl⟩ := lift_returns built
    refine ⟨endpoint,path,query,found,ready,?_⟩
    obtain ⟨left,clock⟩ : ∃ left : Rat, remote past .remaining = left := ⟨_,rfl⟩
    obtain ⟨_,_,asked,done⟩ := bind_returns done
    cases asked
    rw [clock] at done ⊢
    split at done
    · cases done
    · rename_i early
      obtain ⟨_,_,asked,done⟩ := bind_returns done
      cases asked
      obtain ⟨reply,answered⟩ : ∃ reply : Except AdapterFault Json,
        remote (past ++ [⟨.remaining,left⟩]) (.get path query) = reply := ⟨_,rfl⟩
      rw [answered] at done ⊢
      cases reply with
      | error fault => cases done
      | ok other =>
        cases done
        exact ⟨lt_of_not_ge early,rfl,List.append_assoc _ _ _⟩

theorem mapM_forall {Item Value Fault : Type} {change : Item → Except Fault Value} {items : List Item} {values : List Value}
    (ok : items.mapM change = .ok values) : List.Forall₂ (fun item value => change item = .ok value) items values := by
  induction items generalizing values with
  | nil =>
    cases ok
    exact .nil
  | cons item rest ih =>
    rw [List.mapM_cons] at ok
    obtain ⟨value,first,ok⟩ := bind_ok ok
    obtain ⟨others,later,ok⟩ := bind_ok ok
    cases ok
    exact .cons first (ih later)

theorem storageEntry_tagged {node : String} {entry row : JsonObject} (ok : storageEntry text floats node entry = .ok row) :
    Json.get row "node" = some (.str node) := by
  unfold storageEntry at ok
  split at ok
  · cases ok
  · obtain ⟨total,_,ok⟩ := bind_ok ok
    obtain ⟨used,_,ok⟩ := bind_ok ok
    obtain ⟨available,_,ok⟩ := bind_ok ok
    obtain ⟨fraction,_,ok⟩ := bind_ok ok
    obtain rfl := Except.ok.inj ok
    rfl

theorem recordOf_ok {endpoint : String} {entry : Json} {fields : JsonObject} (ok : recordOf endpoint entry = .ok fields) :
    entry = .obj fields := by
  cases entry with
  | obj other =>
    cases ok
    rfl
  | _ => cases ok

theorem entriesOf_ok {endpoint : String} {data : Json} {entries : List JsonObject} (ok : entriesOf endpoint data = .ok entries) :
    data = .arr (entries.map .obj) := by
  cases data with
  | arr items =>
    have each : items.mapM (recordOf endpoint) = .ok entries := ok
    have same := (mapM_forall each).imp fun _ _ read => recordOf_ok read
    rw [← List.forall₂_map_right_iff,List.forall₂_eq_eq_eq] at same
    rw [same]
  | _ => cases ok

theorem lists_of_ok {node : String} {data : Json} {rows : List JsonObject} (ok : storageEntries text floats node data = .ok rows) :
    Lists text floats node data rows := by
  obtain ⟨entries,read,ok⟩ := bind_ok ok
  exact ⟨entries,entriesOf_ok read,(mapM_forall ok).imp fun _ _ made => ⟨made,storageEntry_tagged made⟩⟩

variable {observedAt : String}

theorem Answered.append {key : String} {values : List (String × String)} {data : Json} (answered : Answered said key values data)
    (later : Exchanges) : Answered (said ++ later) key values data := by
  obtain ⟨endpoint,path,query,before,left,after,found,built,early,rfl⟩ := answered
  exact ⟨endpoint,path,query,before,left,after ++ later,found,built,early,by simp⟩

theorem getData_answered {key : String} {values : List (String × String)} {data : Json}
    (done : (getData key values).converse remote past = (said,.ok data)) : Answered said key values data := by
  obtain ⟨endpoint,path,query,found,built,early,_,rfl⟩ := getData_returns done
  exact ⟨endpoint,path,query,past,_,[],found,built,early,rfl⟩

theorem converse_grows {program : Client α} {outcome : Except AdapterFault α}
    (done : program.converse remote past = (said,outcome)) : ∃ later, said = past ++ later := by
  obtain ⟨later,grown⟩ := Program.converse_extends remote past program
  rw [done] at grown
  exact ⟨later,grown⟩

theorem storageRows_returns {nodes : List String} {rows : List JsonObject}
    (done : (storageRows (.ofStorage text floats projection observedAt) nodes).converse remote past = (said,.ok rows)) :
    ∃ readings, rows = readings.flatten ∧ List.Forall₂ (ReadRows text floats said) nodes readings := by
  induction nodes generalizing past rows with
  | nil =>
    cases done
    exact ⟨[],rfl,.nil⟩
  | cons node rest ih =>
    obtain ⟨_,data,read,done⟩ := bind_returns done
    obtain ⟨_,first,listed,done⟩ := bind_returns done
    obtain ⟨entries,rfl⟩ := lift_returns listed
    obtain ⟨_,others,later,done⟩ := bind_returns done
    cases done
    obtain ⟨readings,rfl,all⟩ := ih later
    obtain ⟨more,rfl⟩ := converse_grows later
    exact ⟨first::readings,rfl,.cons ⟨data,(getData_answered read).append more,lists_of_ok entries⟩ all⟩

theorem onlineNames_eq {listing : List JsonObject} {names : List String} (ok : onlineNames text listing = .ok names) :
    names = onlineOf text listing := by
  induction listing generalizing names with
  | nil =>
    cases ok
    rfl
  | cons record rest ih =>
    obtain ⟨_,ok⟩ := ok_of_guard ok
    obtain ⟨others,found,ok⟩ := bind_ok ok
    obtain rfl := ih found
    obtain rfl := Except.ok.inj ok
    unfold onlineOf
    by_cases online : text.lower (textOf text record "status") = "online"
    · simp [online]
    · simp [online]

theorem storage_returns {result : JsonObject}
    (done : (storage text (.ofStorage text floats projection observedAt) target instanceId).converse remote [] = (said,.ok result)) :
    IsUnion text floats said result := by
  obtain ⟨_,named,_,done⟩ := bind_returns done
  obtain ⟨_,names,asked,done⟩ := bind_returns done
  obtain ⟨_,rows,looped,done⟩ := bind_returns done
  obtain ⟨listed,rfl⟩ := lift_returns done
  obtain ⟨_,data,read,online⟩ := bind_returns asked
  obtain ⟨kept,rfl⟩ := lift_returns online
  obtain ⟨listing,recorded,kept⟩ := bind_ok kept
  obtain rfl := onlineNames_eq kept
  obtain ⟨readings,rfl,all⟩ := storageRows_returns looped
  obtain ⟨more,rfl⟩ := converse_grows looped
  obtain rfl := Except.ok.inj listed
  exact ⟨data,listing,readings,(getData_answered read).append more,recorded,rfl,all,rfl⟩

end Conversation

section Budget

variable {α β : Type} {past : Exchanges} {text : Text} {target : ResolvedTarget} {instanceId toolName toolVersion : String}
  {projection : Projection}

/-- A request may follow a reading of the clock that has time left. -/
def Timely (past : Exchanges) : Call → Prop
  | .remaining => True
  | .get _ _ => ∃ earlier left, past = earlier ++ [⟨.remaining,left⟩] ∧ (0 : Rat) < left

abbrev Budgeted (program : Client α) : Prop := ∀ past, Program.Issues Timely (fun _ _ => True) past program

theorem budgeted_bind {program : Client α} {rest : α → Client β} (first : Budgeted program) (later : ∀ value, Budgeted (rest value)) :
    Budgeted (program >>= rest) := by
  intro past
  exact Program.issues_bind (Program.issues_weaken (first past) fun middle value _ => later value middle)

theorem budgeted_lift (result : Except Refusal α) : Budgeted (lift result) := by
  intro past
  cases result with
  | ok value => exact .done trivial
  | error refusal => exact .fail

theorem budgeted_getData (key : String) (values : List (String × String)) : Budgeted (getData key values) := by
  unfold getData
  split
  · exact fun _ => .fail
  · refine budgeted_bind (budgeted_lift _) ?_
    rintro ⟨path,query⟩ past
    refine .call trivial fun (left : Rat) => ?_
    change Program.Issues _ _ _ (ite (left ≤ 0) _ _)
    split
    · exact .fail
    · rename_i early
      refine .call ⟨past,left,rfl,lt_of_not_ge early⟩ fun (reply : Except AdapterFault Json) => ?_
      cases reply with
      | ok data => exact .done trivial
      | error fault => exact .fail

/-- A property of programs that the adapter's parts have, and that binding keeps. -/
structure Kept (good : ∀ {α : Type}, Client α → Prop) : Prop where
  bind : ∀ {α β : Type} {program : Client α} {rest : α → Client β}, good program → (∀ value, good (rest value)) →
    good (program >>= rest)
  done : ∀ {α : Type} (value : α), good (.done value)
  fail : ∀ {α : Type} (fault : AdapterFault), good (.fail fault : Client α)
  read : ∀ key values, good (getData key values)

theorem kept_strict : Kept @Strict := ⟨strict_bind,fun _ => .done,fun _ => .fail,strict_getData⟩

theorem kept_budgeted : Kept @Budgeted := ⟨budgeted_bind,fun _ _ => .done trivial,fun _ _ => .fail,budgeted_getData⟩

variable {good : ∀ {α : Type}, Client α → Prop}

theorem Kept.lift (kept : Kept @good) (result : Except Refusal α) : good (lift result) := by
  cases result with
  | ok value => exact kept.done value
  | error refusal => exact kept.fail _

theorem Kept.storageRows (kept : Kept @good) (nodes : List String) : good (storageRows projection nodes) := by
  induction nodes with
  | nil => exact kept.done _
  | cons node rest ih =>
    refine kept.bind (kept.read _ _) fun data => kept.bind (kept.lift _) fun rows => kept.bind ih fun _ => ?_
    exact kept.done _

theorem Kept.storage (kept : Kept @good) : good (storage text projection target instanceId) := by
  refine kept.bind (kept.lift _) fun _ => kept.bind ?_ fun _ => kept.bind (kept.storageRows _) fun _ => kept.lift _
  exact kept.bind (kept.read _ _) fun _ => kept.lift _

theorem Kept.guest (kept : Kept @good) : good (guest text projection target instanceId toolName) := by
  refine kept.bind ?_ fun location => kept.bind (kept.read _ _) fun data => ?_
  · exact kept.bind (kept.lift _) fun _ => kept.bind (kept.read _ _) fun _ => kept.lift _
  · split
    · exact kept.lift _
    · exact kept.fail _

theorem Kept.execute (kept : Kept @good) (client : Except AdapterFault String) :
    good (execute text projection target client toolName toolVersion) := by
  unfold Proxmox.execute
  split
  · exact kept.fail _
  · cases client with
    | error fault => exact kept.fail _
    | ok instanceId =>
      dsimp only
      unfold observe
      split
      · exact kept.bind (kept.lift _) fun _ => kept.bind (kept.read _ _) fun _ => kept.lift _
      · split
        · exact kept.storage
        · split
          · refine kept.bind ?_ fun _ => kept.bind (kept.read _ _) fun _ => kept.lift _
            exact kept.bind (kept.lift _) fun _ => kept.bind (kept.read _ _) fun _ => kept.lift _
          · exact kept.guest

end Budget

/-- In every conversation of every tool, whatever the upstream and the clock answer, a request is sent only
just after the clock had time left, and a read that fails is the last and what the invocation fails with. -/
theorem conversation_disciplined (text : Text) (projection : Projection) (target : ResolvedTarget)
    (client : Except AdapterFault String) (toolName toolVersion : String) (remote : Remote Answer) :
    WithinBudget ((execute text projection target client toolName toolVersion).converse remote []).1 ∧
      FailsFirst ((execute text projection target client toolName toolVersion).converse remote []).1
        ((execute text projection target client toolName toolVersion).converse remote []).2 := by
  constructor
  · intro before after path query answer sent
    exact Program.issues_converse remote (kept_budgeted.execute client []) sent (Nat.zero_le _)
  · intro before after path query fault sent
    exact strict_converse (kept_strict.execute client) (Nat.zero_le _) sent

theorem execute_storage (text : Text) (projection : Projection) (target : ResolvedTarget) (instanceId toolVersion : String) :
    execute text projection target (.ok instanceId) "proxmox.storage.list" toolVersion = storage text projection target instanceId := by
  unfold execute
  rw [if_neg (by decide)]
  dsimp only [observe]
  rw [if_neg (by decide),if_pos rfl]

/-- In every conversation, a storage listing that is returned has exactly the rows of the listings that were read of the
online nodes of the inventory, in its order and each tagged with its node. -/
theorem storage_union (text : Text) (floats : Floats) (projection : Projection) (target : ResolvedTarget)
    (client : Except AdapterFault String) (toolVersion observedAt : String) (remote : Remote Answer) (result : JsonObject)
    (returned : ((execute text (.ofStorage text floats projection observedAt) target client "proxmox.storage.list" toolVersion).converse
      remote []).2 = .ok result) :
    IsUnion text floats ((execute text (.ofStorage text floats projection observedAt) target client "proxmox.storage.list"
      toolVersion).converse remote []).1 result := by
  cases client with
  | error fault => cases returned
  | ok instanceId =>
    rw [execute_storage] at returned ⊢
    exact storage_returns (converse_eq returned)

/-- Two nodes online, each with one volume under the same name, and one node that is not. -/
def fannedUpstream : Remote Answer := fun _ call => match call with
  | .remaining => (10 : Rat)
  | .get path _ => if path = "/api2/json/nodes" then
      .ok (.arr [.obj [("node",.str "pve-01"),("status",.str "online")],.obj [("node",.str "pve-02"),("status",.str "offline")],
        .obj [("node",.str "pve-03"),("status",.str "Online")]])
    else .ok (.arr [.obj [("storage",.str "local"),("total",.int 100)]])

theorem storage_union_lab : ∃ result,
    ((execute labText (.ofStorage labText labFloats labProjection "now") labCluster (.ok "lab") "proxmox.storage.list" "1.0").converse
      fannedUpstream []).2 = .ok result ∧
    IsUnion labText labFloats ((execute labText (.ofStorage labText labFloats labProjection "now") labCluster (.ok "lab")
      "proxmox.storage.list" "1.0").converse fannedUpstream []).1 result :=
  ⟨_,rfl,storage_union labText labFloats labProjection labCluster (.ok "lab") "1.0" "now" fannedUpstream _ rfl⟩

end Acop.Proxmox
