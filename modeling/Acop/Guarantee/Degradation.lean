import Acop.Guarantee.Conformity

/-! A read degrades: a field that cannot be read is left out, and a projection ends without a report only
over the shape of the answer or over a number that Python cannot convert. -/
namespace Acop.Proxmox

section Judgement

variable (floats : Floats) (data : Json)

inductive Within (leaf : Json) : Json → Prop
  | here : Within leaf leaf
  | item {items : List Json} {item : Json} (member : item ∈ items) (within : Within leaf item) : Within leaf (.arr items)
  | value {fields : JsonObject} {key : String} {value : Json} (member : (key,value) ∈ fields) (within : Within leaf value) :
    Within leaf (.obj fields)

def Inconvertible : Json → Prop
  | .nonFinite _ => True
  | .int number => floats.ofInt number = none
  | _ => False

/-- An exception of no class of the adapter's, over a number that the answer has. -/
def Escapes (refusal : Refusal) : Prop :=
  (refusal = .valueError ∨ refusal = .overflowError) ∧ ∃ leaf, Within leaf data ∧ Inconvertible floats leaf

/-- Where the reading fails, it is over a number of the answer. -/
def Degraded {α : Type} (reading : Except Refusal α) : Prop := ∀ refusal, reading = .error refusal → Escapes floats data refusal

/-- The refusal of an answer that is not what the endpoint returns. -/
def Misshapen (endpoint : String) (refusal : Refusal) : Prop :=
  ∃ message context, refusal = .proxmox .protocol message context ∧ Json.get context "endpoint" = some (.str endpoint)

/-- The projection takes the answers of one shape, and of these fails only those with a number that cannot be converted. -/
structure Degrades {α : Type} (endpoint : String) (shape : Json → Prop) (project : Json → Except Refusal α) : Prop where
  shaped : ∀ data report, project data = .ok report → shape data
  returns : ∀ data, shape data → (∀ leaf, Within leaf data → ¬ Inconvertible floats leaf) → ∃ report, project data = .ok report
  refused : ∀ data refusal, project data = .error refusal →
    ¬ shape data ∧ Misshapen endpoint refusal ∨ Escapes floats data refusal

def IsRecord (data : Json) : Prop := ∃ fields, data = .obj fields

/-- A list of objects that have what the row is known by. -/
def IsListing (keyed : JsonObject → Prop) (data : Json) : Prop :=
  ∃ entries : List JsonObject, data = .arr (entries.map .obj) ∧ ∀ entry ∈ entries, keyed entry

end Judgement

section Readings

variable {observer : Observer} {floats : Floats} {data : Json} {record : JsonObject} {key : String} {α β : Type}

theorem within_trans {leaf middle whole : Json} (inner : Within leaf middle) (outer : Within middle whole) : Within leaf whole := by
  induction outer with
  | here => exact inner
  | item member _ ih => exact .item member ih
  | value member _ ih => exact .value member ih

theorem within_lookup {value : Json} (found : Json.get record key = some value) : Within value (.obj record) := by
  obtain ⟨before,after,rfl,_⟩ := List.lookup_eq_some_iff.mp found
  exact .value (List.mem_append_right _ (.head _)) .here

theorem within_field (inside : Within (.obj record) data) (raises : Inconvertible floats (field record key)) :
    Within (field record key) data := by
  unfold field at raises ⊢
  cases found : Json.get record key with
  | none =>
    rw [found] at raises
    cases raises
  | some value => exact within_trans (within_lookup found) inside

theorem within_nested {outer : String} (inside : Within (.obj record) data)
    (raises : Inconvertible floats (field (nested record outer) key)) : Within (field (nested record outer) key) data := by
  unfold nested field at raises ⊢
  cases found : Json.get record outer with
  | none =>
    rw [found] at raises
    cases raises
  | some value =>
    rw [found] at raises
    cases value with
    | obj fields => exact within_field (within_trans (within_lookup found) inside) raises
    | _ => cases raises

@[simp] theorem degraded_ok {value : α} : Degraded floats data (.ok value) := by
  rintro refusal ⟨⟩

@[simp] theorem degraded_str {value : Json} : Degraded floats data (observer.str value) := degraded_ok

@[simp] theorem degraded_bool {value : Json} : Degraded floats data (observer.bool value) := degraded_ok

theorem degraded_bind {first : Except Refusal α} {rest : α → Except Refusal β} (before : Degraded floats data first)
    (later : ∀ value, first = .ok value → Degraded floats data (rest value)) : Degraded floats data (first >>= rest) := by
  intro refusal failed
  rcases bind_error failed with made | ⟨value,made,failed⟩
  · exact before refusal made
  · exact later value made refusal failed

theorem asInt_error {text : Text} {value : Json} {refusal : Refusal} (failed : asInt text value = .error refusal) :
    (refusal = .valueError ∨ refusal = .overflowError) ∧ Inconvertible floats value := by
  cases value with
  | nonFinite other =>
    cases other with
    | nan =>
      cases failed
      exact ⟨.inl rfl,trivial⟩
    | posInf =>
      cases failed
      exact ⟨.inr rfl,trivial⟩
    | negInf =>
      cases failed
      exact ⟨.inr rfl,trivial⟩
  | _ => cases failed

theorem asFloat_error {value : Json} {refusal : Refusal} (failed : asFloat floats value = .error refusal) :
    (refusal = .valueError ∨ refusal = .overflowError) ∧ Inconvertible floats value := by
  cases value with
  | int number =>
    dsimp only [asFloat] at failed
    split at failed
    · cases failed
    · cases failed
      exact ⟨.inr rfl,‹_›⟩
  | _ => cases failed

theorem degraded_asInt {text : Text} {value : Json} (inside : Inconvertible floats value → Within value data) :
    Degraded floats data (asInt text value) := by
  intro refusal failed
  obtain ⟨kind,raises⟩ := asInt_error failed
  exact ⟨kind,value,inside raises,raises⟩

theorem degraded_asFloat {value : Json} (inside : Inconvertible floats value → Within value data) :
    Degraded floats data (asFloat floats value) := by
  intro refusal failed
  obtain ⟨kind,raises⟩ := asFloat_error failed
  exact ⟨kind,value,inside raises,raises⟩

theorem degraded_int {value : Json} (inside : Inconvertible floats value → Within value data) :
    Degraded floats data (observer.int value) :=
  degraded_bind (degraded_asInt inside) fun _ _ => degraded_ok

theorem degraded_float {value : Json} (inside : Inconvertible observer.floats value → Within value data) :
    Degraded observer.floats data (observer.float value) :=
  degraded_bind (degraded_asFloat inside) fun _ _ => degraded_ok

theorem degraded_mapM {change : α → Except Refusal β} {items : List α} (each : ∀ item ∈ items, Degraded floats data (change item)) :
    Degraded floats data (items.mapM change) := by
  intro refusal failed
  obtain ⟨item,member,at_⟩ := mapM_error failed
  exact each item member refusal at_

theorem degraded_document {readings : List (String × Reading)} (each : ∀ reading ∈ readings, Degraded floats data reading.2) :
    Degraded floats data (document readings) :=
  degraded_mapM fun reading member => degraded_bind (each reading member) fun _ _ => degraded_ok

theorem degraded_headed {now : Time} {instanceId : String} {readings : List (String × Reading)}
    (each : ∀ reading ∈ readings, Degraded floats data reading.2) : Degraded floats data (observer.headed now instanceId readings) :=
  degraded_document (List.forall_mem_cons.mpr ⟨degraded_ok,List.forall_mem_cons.mpr ⟨degraded_ok,each⟩⟩)

end Readings

section Shapes

variable {floats : Floats} {data : Json} {record : JsonObject} {endpoint : String} {α β : Type}

theorem recordOf_error {refusal : Refusal} (failed : recordOf endpoint data = .error refusal) :
    ¬ IsRecord data ∧ Misshapen endpoint refusal := by
  cases data with
  | obj fields => cases failed
  | _ =>
    cases failed
    exact ⟨nofun,_,_,rfl,rfl⟩

theorem entriesOf_map (entries : List JsonObject) : entriesOf endpoint (.arr (entries.map .obj)) = .ok entries := by
  change (entries.map Json.obj).mapM (recordOf endpoint) = .ok entries
  induction entries with
  | nil => rfl
  | cons entry rest ih =>
    rw [List.map_cons,List.mapM_cons,ih]
    rfl

theorem entriesOf_error {keyed : JsonObject → Prop} {refusal : Refusal} (failed : entriesOf endpoint data = .error refusal) :
    ¬ IsListing keyed data ∧ Misshapen endpoint refusal := by
  constructor
  · rintro ⟨entries,rfl,_⟩
    rw [entriesOf_map] at failed
    cases failed
  · cases data with
    | arr items =>
      obtain ⟨item,_,rejected⟩ := mapM_error failed
      exact (recordOf_error rejected).2
    | _ =>
      cases failed
      exact ⟨_,_,rfl,rfl⟩

theorem degrades_of {shape : Json → Prop} {project : Json → Except Refusal α}
    (shaped : ∀ data report, project data = .ok report → shape data)
    (refused : ∀ data refusal, project data = .error refusal →
      ¬ shape data ∧ Misshapen endpoint refusal ∨ Escapes floats data refusal) : Degrades floats endpoint shape project := by
  refine ⟨shaped,fun data fits convertible => ?_,refused⟩
  cases made : project data with
  | ok report => exact ⟨report,rfl⟩
  | error refusal =>
    rcases refused data refusal made with ⟨unfit,_⟩ | ⟨_,leaf,within,raises⟩
    · exact absurd fits unfit
    · exact absurd raises (convertible leaf within)

theorem degrades_record {finish : JsonObject → Except Refusal α} (each : ∀ record, Degraded floats (.obj record) (finish record)) :
    Degrades floats endpoint IsRecord (fun data => recordOf endpoint data >>= finish) := by
  apply degrades_of
  · intro data report ok
    obtain ⟨record,read,_⟩ := bind_ok ok
    exact ⟨record,recordOf_ok read⟩
  · intro data refusal failed
    rcases bind_error failed with read | ⟨record,read,rejected⟩
    · exact .inl (recordOf_error read)
    · obtain rfl := recordOf_ok read
      exact .inr (each record refusal rejected)

theorem degrades_entries {keyed : JsonObject → Prop} {finish : List JsonObject → Except Refusal α}
    (shaped : ∀ entries report, finish entries = .ok report → ∀ entry ∈ entries, keyed entry)
    (refused : ∀ entries refusal, finish entries = .error refusal →
      ∃ entry ∈ entries, ¬ keyed entry ∧ Misshapen endpoint refusal ∨ Escapes floats (.obj entry) refusal) :
    Degrades floats endpoint (IsListing keyed) (fun data => entriesOf endpoint data >>= finish) := by
  apply degrades_of
  · intro data report ok
    obtain ⟨entries,read,ok⟩ := bind_ok ok
    exact ⟨entries,entriesOf_ok read,shaped entries report ok⟩
  · intro data refusal failed
    rcases bind_error failed with read | ⟨entries,read,rejected⟩
    · exact .inl (entriesOf_error read)
    · obtain rfl := entriesOf_ok read
      obtain ⟨entry,member,⟨unkeyed,misshapen⟩ | ⟨kind,leaf,within,raises⟩⟩ := refused entries refusal rejected
      · refine .inl ⟨?_,misshapen⟩
        rintro ⟨others,same,keyed⟩
        obtain rfl := (List.map_injective_iff.mpr fun _ _ => Json.obj.inj) (Json.arr.inj same)
        exact unkeyed (keyed entry member)
      · exact .inr ⟨kind,leaf,.item (List.mem_map_of_mem member) within,raises⟩

theorem degrades_listing {keyed : JsonObject → Prop} {row : JsonObject → Except Refusal β}
    (shaped : ∀ entry value, row entry = .ok value → keyed entry)
    (refused : ∀ entry refusal, row entry = .error refusal →
      ¬ keyed entry ∧ Misshapen endpoint refusal ∨ Escapes floats (.obj entry) refusal) :
    Degrades floats endpoint (IsListing keyed) (fun data => entriesOf endpoint data >>= (·.mapM row)) := by
  apply degrades_entries
  · intro entries rows ok
    exact forall_right (mapM_forall ok).flip fun value entry made => shaped entry value made
  · intro entries refusal failed
    obtain ⟨entry,member,rejected⟩ := mapM_error failed
    exact ⟨entry,member,refused entry refusal rejected⟩

theorem Degrades.bind {shape : Json → Prop} {project : Json → Except Refusal α}
    (degrades : Degrades floats endpoint shape project) (finish : α → Except Refusal β) (each : ∀ data value, Degraded floats data (finish value)) :
    Degrades floats endpoint shape (fun data => project data >>= finish) := by
  apply degrades_of
  · intro data report ok
    obtain ⟨rows,made,_⟩ := bind_ok ok
    exact degrades.shaped data rows made
  · intro data refusal failed
    rcases bind_error failed with made | ⟨rows,made,failed⟩
    · exact degrades.refused data refusal made
    · exact .inr (each data rows refusal failed)

end Shapes

section Tools

variable {observer : Observer} {record entry : JsonObject} {data : Json} {key outer : String}

@[simp] theorem degraded_intField : Degraded observer.floats (.obj record) (observer.int (field record key)) :=
  degraded_int (within_field .here)

@[simp] theorem degraded_floatField : Degraded observer.floats (.obj record) (observer.float (field record key)) :=
  degraded_float (within_field .here)

@[simp] theorem degraded_intNested : Degraded observer.floats (.obj record) (observer.int (field (nested record outer) key)) :=
  degraded_int (within_nested .here)

def Addressed (text : Text) (entry : JsonObject) : Prop :=
  (∃ vmid, asInt text (field entry "vmid") = .ok (some vmid)) ∧ asStr text (field entry "type") ≠ none ∧
    asStr text (field entry "node") ≠ none

theorem nodeEntry_ok {row : JsonObject} (ok : observer.nodeEntry entry = .ok row) : asStr observer.text (field entry "node") ≠ none := by
  unfold Observer.nodeEntry at ok
  split at ok
  · cases ok
  · rename_i named
    simp [named]

theorem nodeEntry_refused {refusal : Refusal} (failed : observer.nodeEntry entry = .error refusal) :
    ¬ asStr observer.text (field entry "node") ≠ none ∧ Misshapen "/nodes" refusal ∨
      Escapes observer.floats (.obj entry) refusal := by
  unfold Observer.nodeEntry at failed
  split at failed
  · cases failed
    exact .inl ⟨not_not_intro ‹_›,_,_,rfl,rfl⟩
  · exact .inr (degraded_document (by simp) refusal failed)

theorem interfaceEntry_ok {row : JsonObject} (ok : observer.interfaceEntry entry = .ok row) :
    asStr observer.text (field entry "iface") ≠ none := by
  unfold Observer.interfaceEntry at ok
  split at ok
  · cases ok
  · rename_i named
    simp [named]

theorem interfaceEntry_refused {refusal : Refusal} (failed : observer.interfaceEntry entry = .error refusal) :
    ¬ asStr observer.text (field entry "iface") ≠ none ∧ Misshapen "/nodes/\x7bnode\x7d/network" refusal ∨
      Escapes observer.floats (.obj entry) refusal := by
  unfold Observer.interfaceEntry at failed
  split at failed
  · cases failed
    exact .inl ⟨not_not_intro ‹_›,_,_,rfl,rfl⟩
  · exact .inr (degraded_document (by simp) refusal failed)

theorem storageEntry_ok {node : String} {row : JsonObject} (ok : storageEntry observer.text observer.floats node entry = .ok row) :
    asStr observer.text (field entry "storage") ≠ none := by
  unfold storageEntry at ok
  split at ok
  · cases ok
  · rename_i named
    simp [named]

theorem storageEntry_refused {node : String} {refusal : Refusal}
    (failed : storageEntry observer.text observer.floats node entry = .error refusal) :
    ¬ asStr observer.text (field entry "storage") ≠ none ∧ Misshapen storageEndpoint refusal ∨
      Escapes observer.floats (.obj entry) refusal := by
  unfold storageEntry at failed
  split at failed
  · cases failed
    exact .inl ⟨not_not_intro ‹_›,_,_,rfl,rfl⟩
  · right
    refine degraded_bind (degraded_asInt (within_field .here)) (fun _ _ => ?_) refusal failed
    refine degraded_bind (degraded_asInt (within_field .here)) fun _ _ => ?_
    refine degraded_bind (degraded_asInt (within_field .here)) fun _ _ => ?_
    exact degraded_bind (degraded_asFloat (within_field .here)) fun _ _ => degraded_ok

theorem guestEntry_ok {row : JsonObject} (ok : observer.guestEntry entry = .ok row) : Addressed observer.text entry := by
  obtain ⟨vmid,read,ok⟩ := bind_ok ok
  dsimp only at ok
  split at ok
  · rename_i typed named
    exact ⟨⟨_,read⟩,by simp [typed],by simp [named]⟩
  · cases ok

theorem guestEntry_refused {refusal : Refusal} (failed : observer.guestEntry entry = .error refusal) :
    ¬ Addressed observer.text entry ∧ Misshapen "/cluster/resources" refusal ∨ Escapes observer.floats (.obj entry) refusal := by
  rcases bind_error failed with read | ⟨vmid,read,failed⟩
  · exact .inr (degraded_asInt (within_field .here) refusal read)
  · dsimp only at failed
    split at failed
    · exact .inr (degraded_document (by simp) refusal failed)
    · rename_i unaddressed
      cases failed
      refine .inl ⟨?_,_,_,rfl,rfl⟩
      rintro ⟨⟨number,same⟩,typed,named⟩
      obtain ⟨type_,typed⟩ := Option.ne_none_iff_exists'.mp typed
      obtain ⟨node,named⟩ := Option.ne_none_iff_exists'.mp named
      exact unaddressed number type_ node (Except.ok.inj (read.symm.trans same)) typed named

theorem clusterMember_refused {view : Observer.ClusterView} : Degraded observer.floats (.obj entry) (observer.clusterMember view entry) := by
  refine degraded_bind (degraded_document ?_) fun _ _ => degraded_ok
  have node : Degraded observer.floats (.obj entry) (if (asStr observer.text (field entry "type")).getD "unknown" = "node" then
      observer.str (field entry "name") else .ok .null) := by
    split
    · exact degraded_str
    · exact degraded_ok
  simp [node]

theorem foldlM_error {State Item : Type} {step : State → Item → Except Refusal State} {items : List Item} {start : State}
    {refusal : Refusal} (failed : items.foldlM step start = .error refusal) :
    ∃ item ∈ items, ∃ state, step state item = .error refusal := by
  induction items generalizing start with
  | nil => cases failed
  | cons item rest ih =>
    rw [List.foldlM_cons] at failed
    rcases bind_error failed with made | ⟨next,_,failed⟩
    · exact ⟨item,.head _,start,made⟩
    · obtain ⟨found,member,state,at_⟩ := ih failed
      exact ⟨found,.tail _ member,state,at_⟩

variable (observer) (now : Time) (instanceId : String)

theorem clusterStatus_degrades :
    Degrades observer.floats "/cluster/status" (IsListing fun _ => True) (observer.clusterStatus now instanceId) := by
  have seen : Degrades observer.floats "/cluster/status" (IsListing fun _ => True)
      (fun data => entriesOf "/cluster/status" data >>= (·.foldlM observer.clusterMember {})) := by
    refine degrades_entries (fun _ _ _ _ _ => trivial) fun entries refusal failed => ?_
    obtain ⟨entry,member,_,rejected⟩ := foldlM_error failed
    exact ⟨entry,member,.inr (clusterMember_refused refusal rejected)⟩
  have whole := seen.bind (fun view => observer.headed now instanceId [("standalone",.ok (.bool view.standalone)),
    ("cluster_name",.ok (.optional view.clusterName)),("quorate",.ok (optionalBool view.quorate)),("members",listed view.members)])
    fun _ _ => degraded_headed (by simp [listed])
  simp only [bind_assoc] at whole
  exact whole

theorem headed_rows {endpoint name : String} {keyed : JsonObject → Prop} {row : JsonObject → Except Refusal JsonObject}
    (before : List (String × Json)) (shaped : ∀ entry value, row entry = .ok value → keyed entry)
    (refused : ∀ entry refusal, row entry = .error refusal →
      ¬ keyed entry ∧ Misshapen endpoint refusal ∨ Escapes observer.floats (.obj entry) refusal) :
    Degrades observer.floats endpoint (IsListing keyed) (fun data => do
      let rows ← (← entriesOf endpoint data).mapM row
      observer.headed now instanceId (before.map (fun field => (field.1,.ok field.2)) ++ [(name,listed rows)])) := by
  have whole := (degrades_listing shaped refused).bind
    (fun rows => observer.headed now instanceId (before.map (fun field => (field.1,.ok field.2)) ++ [(name,listed rows)]))
    fun data rows => degraded_headed (List.forall_mem_append.mpr
      ⟨by simp only [List.forall_mem_map,degraded_ok,implies_true],by simp [listed]⟩)
  simp only [bind_assoc] at whole
  exact whole

theorem nodeList_degrades : Degrades observer.floats "/nodes" (IsListing fun entry => asStr observer.text (field entry "node") ≠ none)
    (observer.nodeList now instanceId) :=
  headed_rows observer now instanceId [] (fun _ _ => nodeEntry_ok) fun _ _ => nodeEntry_refused

theorem guestList_degrades : Degrades observer.floats "/cluster/resources" (IsListing (Addressed observer.text))
    (observer.guestList now instanceId) :=
  headed_rows observer now instanceId [] (fun _ _ => guestEntry_ok) fun _ _ => guestEntry_refused

variable (node : String) (vmid : Int)

theorem nodeNetwork_degrades : Degrades observer.floats "/nodes/\x7bnode\x7d/network"
    (IsListing fun entry => asStr observer.text (field entry "iface") ≠ none) (observer.nodeNetwork now instanceId node) :=
  headed_rows observer now instanceId [("node",.str node)] (fun _ _ => interfaceEntry_ok) fun _ _ => interfaceEntry_refused

theorem storageEntries_degrades : Degrades observer.floats storageEndpoint
    (IsListing fun entry => asStr observer.text (field entry "storage") ≠ none) (storageEntries observer.text observer.floats node) :=
  degrades_listing (fun _ _ => storageEntry_ok) fun _ _ => storageEntry_refused

theorem loadAverage_degraded : Degraded observer.floats (.obj record) (observer.loadAverage record) := by
  unfold Observer.loadAverage
  split
  · rename_i items found
    refine degraded_bind (degraded_mapM fun item member => degraded_asFloat fun raises => ?_) fun _ _ => degraded_ok
    unfold field at found
    cases loads : Json.get record "loadavg" with
    | none =>
      rw [loads] at found
      cases found
    | some value =>
      rw [loads] at found
      obtain rfl : value = .arr items := found
      exact within_trans (.item member .here) (within_lookup loads)
  · exact degraded_ok

theorem nodeStatus_degrades : Degrades observer.floats "/nodes/\x7bnode\x7d/status" IsRecord
    (observer.nodeStatus now instanceId node) :=
  degrades_record fun _ => degraded_bind (loadAverage_degraded observer) fun _ _ => degraded_headed (by simp)

theorem vmStatus_degrades : Degrades observer.floats "/nodes/\x7bnode\x7d/qemu/\x7bvmid\x7d/status/current" IsRecord
    (observer.vmStatus now instanceId node vmid) :=
  degrades_record fun _ => degraded_headed (by simp)

theorem containerStatus_degrades : Degrades observer.floats "/nodes/\x7bnode\x7d/lxc/\x7bvmid\x7d/status/current" IsRecord
    (observer.containerStatus now instanceId node vmid) :=
  degrades_record fun _ => degraded_headed (by simp)

theorem containerConfig_degrades : Degrades observer.floats "/nodes/\x7bnode\x7d/lxc/\x7bvmid\x7d/config" IsRecord
    (observer.containerConfig now instanceId node vmid) :=
  degrades_record fun _ => degraded_headed (by simp)

theorem epochOrNone_ok (value : Option String) : ∃ time, observer.epochOrNone value = .ok time := by
  cases value with
  | none => exact ⟨none,rfl⟩
  | some text =>
    change ∃ time, (Except.ok (observer.text.int (strip text)) >>= _) = .ok time
    rw [ok_bind]
    cases observer.text.int (strip text) with
    | none => exact ⟨none,rfl⟩
    | some seconds => exact ⟨_,rfl⟩

theorem vmConfig_degrades : Degrades observer.floats "/nodes/\x7bnode\x7d/qemu/\x7bvmid\x7d/config" IsRecord
    (observer.vmConfig now instanceId node vmid) := by
  refine degrades_record fun record => degraded_headed ?_
  have created {value : Option String} :
      Degraded observer.floats (.obj record) (observer.datetime <$> observer.epochOrNone value) := by
    obtain ⟨time,read⟩ := epochOrNone_ok observer value
    rw [read]
    exact degraded_ok
  simp [created]

structure Degrading : Prop where
  clusterStatus : Degrades observer.floats "/cluster/status" (IsListing fun _ => True) (observer.clusterStatus now instanceId)
  nodeList : Degrades observer.floats "/nodes" (IsListing fun entry => asStr observer.text (field entry "node") ≠ none)
    (observer.nodeList now instanceId)
  guestList : Degrades observer.floats "/cluster/resources" (IsListing (Addressed observer.text)) (observer.guestList now instanceId)
  storageEntries : Degrades observer.floats storageEndpoint
    (IsListing fun entry => asStr observer.text (field entry "storage") ≠ none) (storageEntries observer.text observer.floats node)
  nodeStatus : Degrades observer.floats "/nodes/\x7bnode\x7d/status" IsRecord (observer.nodeStatus now instanceId node)
  nodeNetwork : Degrades observer.floats "/nodes/\x7bnode\x7d/network"
    (IsListing fun entry => asStr observer.text (field entry "iface") ≠ none) (observer.nodeNetwork now instanceId node)
  vmStatus : Degrades observer.floats "/nodes/\x7bnode\x7d/qemu/\x7bvmid\x7d/status/current" IsRecord
    (observer.vmStatus now instanceId node vmid)
  vmConfig : Degrades observer.floats "/nodes/\x7bnode\x7d/qemu/\x7bvmid\x7d/config" IsRecord
    (observer.vmConfig now instanceId node vmid)
  containerStatus : Degrades observer.floats "/nodes/\x7bnode\x7d/lxc/\x7bvmid\x7d/status/current" IsRecord
    (observer.containerStatus now instanceId node vmid)
  containerConfig : Degrades observer.floats "/nodes/\x7bnode\x7d/lxc/\x7bvmid\x7d/config" IsRecord
    (observer.containerConfig now instanceId node vmid)

end Tools

/-- Whatever the upstream answered, each projection returns exactly on the answers of its endpoint's shape, as long as
the numbers can be converted, and refuses the others in the endpoint's name. -/
theorem reads_degrade (observer : Observer) (now : Time) (instanceId node : String) (vmid : Int) :
    Degrading observer now instanceId node vmid where
  clusterStatus := clusterStatus_degrades observer now instanceId
  nodeList := nodeList_degrades observer now instanceId
  guestList := guestList_degrades observer now instanceId
  storageEntries := storageEntries_degrades observer node
  nodeStatus := nodeStatus_degrades observer now instanceId node
  nodeNetwork := nodeNetwork_degrades observer now instanceId node
  vmStatus := vmStatus_degrades observer now instanceId node vmid
  vmConfig := vmConfig_degrades observer now instanceId node vmid
  containerStatus := containerStatus_degrades observer now instanceId node vmid
  containerConfig := containerConfig_degrades observer now instanceId node vmid

/-- A load that is no number ends the read: the one kind of answer that does not degrade. -/
example : labObserver.vmStatus 0 "lab" "one" 100 (.obj [("uptime",.nonFinite .nan)]) = .error .valueError := rfl

end Acop.Proxmox
