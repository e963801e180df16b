import Acop.Catalogue
import Acop.Guarantee.Decision
import Acop.Guarantee.Lifecycle
import Acop.Store.Table

/-! What the catalogue shows against what the policy engine would decide. -/
namespace Acop.Catalogue
open Acop.PolicyEngine Acop.Store

section Rules

variable {runtime : Runtime} (process : Process runtime) (table : RegistrationTable) (principal : Principal)
  (environment : String)

/-- The refusals that are about the tool and who asks, not about one request. -/
def barring : List PolicyReason :=
  [.capabilityNotBound,.toolRetired,.toolDisabled,.prohibitedCapability,.environmentRestricted,.roleInsufficient]

/-- What one request adds to the tool and the caller. -/
structure Inquiry where
  rawInput : List (PyValue × PyValue)
  target : TargetFacts
  requestTime : Time

def asked (row : ToolRegistration) (inquiry : Inquiry) : PolicyContext where
  principal
  definition := process.getDefinition row.toolName row.toolVersion
  lifecycleState := row.lifecycleState
  rawInput := inquiry.rawInput
  target := inquiry.target
  environment
  requestTime := inquiry.requestTime

/-- The request itself is in order: its arguments and its target are the tool's. -/
def Admits (definition : ToolDefinition) (inquiry : Inquiry) : Prop :=
  (∃ canonical, definition.inputModel.modelValidate inquiry.rawInput = .valid canonical) ∧
    checkTarget definition inquiry.target = none

def Presented (key : String × String) : Prop :=
  (∃ tools, listTools process table principal = .ok tools ∧ ∃ tool ∈ tools, tool.key = key) ∨
    ∃ tool, getTool process table principal key.1 = .ok tool ∧ tool.key = key

/-- The catalogue and the engine tell the caller the same of one tool. -/
structure Agrees (key : String × String) : Prop where
  presented : Presented process table principal key → ∃ row ∈ table.rows, row.key = key ∧
    ∀ inquiry, (evaluate runtime (asked process principal environment row inquiry)).reason ∉ barring
  hidden : ¬ Presented process table principal key → ∀ row ∈ table.rows, row.key = key → ∀ inquiry,
    (evaluate runtime (asked process principal environment row inquiry)).allowed = false ∧
      ((∀ definition, process.getDefinition key.1 key.2 = some definition → Admits definition inquiry) →
        (evaluate runtime (asked process principal environment row inquiry)).reason ∈ barring)

/-- The declaration is flagged free, its row is in service, and the caller holds its roles. -/
structure InService (key : String × String) (definition : ToolDefinition) : Prop where
  declared : process.getDefinition key.1 key.2 = some definition
  active : ∃ row ∈ table.rows, row.key = key ∧ row.lifecycleState = .active
  unflagged : definition.prohibited = false
  held : HoldsRoles definition principal

end Rules

variable {runtime : Runtime} {process : Process runtime} {table : RegistrationTable} {principal : Principal}
  {environment : String}

theorem registered_eq_some {key : String × String} {row : ToolRegistration} :
    registered table key = some row ↔ row ∈ table.rows ∧ row.key = key :=
  @Table.find_eq_some _ _ ToolRegistration.key _ ⟨table.rows,table.distinct⟩ key row

theorem getDefinition_eq_some {key : String × String} {definition : ToolDefinition} :
    process.getDefinition key.1 key.2 = some definition ↔ definition ∈ process.definitions ∧ definition.key = key :=
  @Table.find_eq_some _ _ ToolDefinition.key _ ⟨process.definitions,process.distinct⟩ key definition

theorem mem_live {definition : ToolDefinition} :
    definition ∈ live process table principal ↔ InService process table principal definition.key definition := by
  unfold live
  rw [List.mem_filter,Registry.mem_allDefinitions,decide_eq_true_eq]
  constructor
  · rintro ⟨member,active,unflagged,held⟩
    obtain ⟨row,found,serving⟩ := (Option.any_eq_true _ _).mp active
    obtain ⟨present,same⟩ := registered_eq_some.mp found
    exact ⟨getDefinition_eq_some.mpr ⟨member,rfl⟩,⟨row,present,same,of_decide_eq_true serving⟩,unflagged,held⟩
  · rintro ⟨declared,⟨row,present,same,serving⟩,unflagged,held⟩
    refine ⟨(getDefinition_eq_some.mp declared).1,?_,unflagged,held⟩
    rw [registered_eq_some.mpr ⟨present,same⟩]
    exact decide_eq_true serving

theorem minimum_required {definition : ToolDefinition} (declared : definition ∈ process.definitions) :
    (classMinimumRoles definition.permissionClass).image Role.value ⊆ definition.requiredRoles := by
  obtain ⟨_,_,accepted⟩ := bind_ok (process.declared definition declared)
  obtain ⟨_,checked,_⟩ := bind_ok accepted
  by_contra outside
  have missing : (classMinimumRoles definition.permissionClass).image Role.value \ definition.requiredRoles ≠ ∅ :=
    fun none => outside (Finset.sdiff_eq_empty_iff_subset.mp none)
  unfold checkClassAgreement at checked
  dsimp only at checked
  split at checked
  · cases checked
  split at checked
  · cases checked
  cases checked

theorem admitted_of_held {definition : ToolDefinition} (declared : definition ∈ process.definitions)
    (held : HoldsRoles definition principal) : requireRoles viewerRoles principal = .ok () := by
  obtain ⟨role,minimum⟩ : (classMinimumRoles definition.permissionClass).Nonempty := by
    cases definition.permissionClass <;> decide
  have needed := held (minimum_required declared (Finset.mem_image_of_mem _ minimum))
  obtain ⟨implied,effective,_⟩ := Finset.mem_image.mp needed
  obtain ⟨name,named,granted⟩ := Finset.mem_biUnion.mp effective
  cases known : Role.ofValue name with
  | none =>
    rw [known] at granted
    cases granted
  | some own =>
    have same : own.value = name := by simpa using List.find?_some known
    have holds : principal.HasRole own := by
      unfold Principal.HasRole
      rwa [same]
    apply if_neg
    rintro ⟨_,lacking⟩
    apply lacking own _ holds
    cases own <;> decide

theorem listTools_ok {tools : List ToolDescriptor} : listTools process table principal = .ok tools ↔
    requireRoles viewerRoles principal = .ok () ∧
      (live process table principal).map (fun definition => descriptor definition .active) = tools := by
  unfold listTools
  cases requireRoles viewerRoles principal with
  | error fault => simp
  | ok _ =>
    rw [ok_bind]
    exact ⟨fun listed => ⟨rfl,Except.ok.inj listed⟩,fun listed => congrArg Except.ok listed.2⟩

theorem getTool_live {toolName : String} {tool : ToolDescriptor} (found : getTool process table principal toolName = .ok tool) :
    ∃ definition ∈ live process table principal, tool = descriptor definition .active := by
  unfold getTool at found
  obtain ⟨_,_,found⟩ := bind_ok found
  split at found
  · cases found
  rename_i definition highest
  have member := List.mem_filter.mp (List.argmax_mem highest)
  exact ⟨definition,member.1,(Except.ok.inj found).symm⟩

theorem presented_iff {key : String × String} :
    Presented process table principal key ↔ ∃ definition, InService process table principal key definition := by
  constructor
  · intro shown
    obtain ⟨definition,alive,rfl⟩ : ∃ definition ∈ live process table principal, definition.key = key := by
      rcases shown with ⟨tools,listed,tool,member,rfl⟩ | ⟨tool,found,rfl⟩
      · obtain ⟨_,rfl⟩ := listTools_ok.mp listed
        obtain ⟨definition,alive,rfl⟩ := List.mem_map.mp member
        exact ⟨definition,alive,rfl⟩
      · obtain ⟨definition,alive,rfl⟩ := getTool_live found
        exact ⟨definition,alive,rfl⟩
    exact ⟨definition,mem_live.mp alive⟩
  · rintro ⟨definition,serving⟩
    obtain ⟨declared,rfl⟩ := getDefinition_eq_some.mp serving.declared
    left
    refine ⟨_,listTools_ok.mpr ⟨admitted_of_held declared serving.held,rfl⟩,descriptor definition .active,?_,rfl⟩
    exact List.mem_map_of_mem (mem_live.mpr serving)

section Engine

variable {context : PolicyContext} {definition : ToolDefinition}

theorem evaluate_unbound (unbound : context.definition = none) :
    evaluate runtime context = deny runtime context .capabilityNotBound := by
  unfold evaluate gatesOneToFour
  rw [unbound]

theorem evaluate_retired (bound : context.definition = some definition) (retired : context.lifecycleState = .retired) :
    evaluate runtime context = deny runtime context .toolRetired := by
  unfold evaluate gatesOneToFour
  simp only [bound,retired]

theorem evaluate_disabled (bound : context.definition = some definition) (disabled : context.lifecycleState = .disabled) :
    evaluate runtime context = deny runtime context .toolDisabled := by
  unfold evaluate gatesOneToFour
  simp only [bound,disabled]

theorem evaluate_prohibited (bound : context.definition = some definition) (active : context.lifecycleState = .active)
    (prohibited : Prohibited definition) : evaluate runtime context = deny runtime context .prohibitedCapability := by
  unfold Prohibited at prohibited
  unfold evaluate gatesOneToFour
  simp only [bound,active,if_pos prohibited]

theorem checkTarget_reason {target : TargetFacts} {reason : PolicyReason}
    (refused : checkTarget definition target = some reason) : reason ∉ barring := by
  unfold checkTarget at refused
  split at refused
  · cases refused
    decide
  split at refused
  · cases refused
  · split at refused
    · cases refused
      decide
    · cases refused
  · split at refused
    · cases refused
      decide
    split at refused
    · cases refused
      decide
    split at refused
    · cases refused
      decide
    · cases refused

theorem gatesOneToFour_validated (runtime : Runtime) (bound : context.definition = some definition)
    (active : context.lifecycleState = .active) (permitted : ¬ Prohibited definition) :
    gatesOneToFour runtime context = match definition.inputModel.modelValidate context.rawInput with
      | .valid canonical => some (.ok canonical)
      | .invalid => some (.error (deny runtime context .schemaInvalid))
      | .raised => none := by
  unfold Prohibited at permitted
  cases validated : definition.inputModel.modelValidate context.rawInput <;>
    simp [gatesOneToFour,bound,active,if_neg permitted,validated]

/-- Of a tool that is no obstacle itself, a request comes to the role gate or is refused for what it is. -/
theorem reaches_or_refused (bound : context.definition = some definition) (active : context.lifecycleState = .active)
    (permitted : ¬ Prohibited definition) : (∃ canonical, PolicyEngine.Reaches context definition canonical) ∨
      ((evaluate runtime context).allowed = false ∧ (evaluate runtime context).reason ∉ barring ∧
        ¬ ((∃ canonical, definition.inputModel.modelValidate context.rawInput = .valid canonical) ∧
          checkTarget definition context.target = none)) := by
  have gates := gatesOneToFour_validated runtime bound active permitted
  cases validated : definition.inputModel.modelValidate context.rawInput with
  | valid canonical =>
    cases target : checkTarget definition context.target with
    | none => exact .inl ⟨canonical,bound,active,permitted,validated,target⟩
    | some reason =>
      right
      rw [validated] at gates
      have denied : evaluate runtime context = deny runtime context reason := by
        rw [evaluate_passed gates bound]
        unfold gatesFiveToEight
        rw [target]
      rw [denied,deny_reason]
      refine ⟨deny_refuses reason,checkTarget_reason target,?_⟩
      rintro ⟨_,fitting⟩
      cases fitting
  | invalid =>
    right
    rw [validated] at gates
    have denied : evaluate runtime context = deny runtime context .schemaInvalid := by
      unfold evaluate
      rw [gates]
    rw [denied,deny_reason]
    refine ⟨deny_refuses _,by decide,?_⟩
    rintro ⟨⟨_,valid⟩,_⟩
    cases valid
  | raised =>
    right
    rw [validated] at gates
    have denied : evaluate runtime context = deny runtime context .internalError := by
      unfold evaluate
      rw [gates]
    rw [denied,deny_reason]
    refine ⟨deny_refuses _,by decide,?_⟩
    rintro ⟨⟨_,valid⟩,_⟩
    cases valid

end Engine

section Agreement

variable {key : String × String} {definition : ToolDefinition}

theorem asked_definition {row : ToolRegistration} (same : row.key = key) (inquiry : Inquiry) :
    (asked process principal environment row inquiry).definition = process.getDefinition key.1 key.2 := by
  subst same
  rfl

theorem row_unique {row other : ToolRegistration} (member : row ∈ table.rows) (other_member : other ∈ table.rows)
    (same : row.key = other.key) : row = other :=
  List.inj_on_of_nodup_map table.distinct member other_member same

/-- What keeps the engine from denying a tool in service for the tool's own sake. -/
def Unbarred (definition : ToolDefinition) (environment : String) : Prop :=
  definition.capabilityTags ∩ prohibitedCapabilities = ∅ ∧
    (InEnvironment definition environment ∨ ∀ inquiry, ¬ Admits definition inquiry)

theorem spared_iff (serving : InService process table principal key definition) {row : ToolRegistration}
    (member : row ∈ table.rows) (same : row.key = key) (inquiry : Inquiry) :
    (evaluate runtime (asked process principal environment row inquiry)).reason ∉ barring ↔
      definition.capabilityTags ∩ prohibitedCapabilities = ∅ ∧
        (InEnvironment definition environment ∨ ¬ Admits definition inquiry) := by
  have bound : (asked process principal environment row inquiry).definition = some definition :=
    (asked_definition same inquiry).trans serving.declared
  have active : row.lifecycleState = .active := by
    obtain ⟨other,present,otherSame,serves⟩ := serving.active
    rwa [row_unique member present (same.trans otherSame.symm)]
  by_cases prohibited : Prohibited definition
  · have tagged : definition.capabilityTags ∩ prohibitedCapabilities ≠ ∅ := by
      rcases prohibited with flagged | tagged
      · cases serving.unflagged.symm.trans flagged
      · exact tagged
    rw [evaluate_prohibited bound active prohibited,deny_reason]
    exact ⟨fun spared => absurd (by decide) spared,fun untagged => absurd untagged.1 tagged⟩
  have untagged : definition.capabilityTags ∩ prohibitedCapabilities = ∅ := by
    by_contra tagged
    exact prohibited (.inr tagged)
  rcases @reaches_or_refused runtime _ _ bound active prohibited with ⟨canonical,reaches⟩ | ⟨_,spared,refused⟩
  · have admits : Admits definition inquiry := ⟨⟨canonical,reaches.schema⟩,reaches.target⟩
    rw [evaluate_held reaches serving.held]
    by_cases inside : InEnvironment definition (asked process principal environment row inquiry).environment
    · rw [if_neg (inEnvironment_iff.mp inside)]
      have spared : PolicyReason.allowed ∉ barring := by decide
      exact ⟨fun _ => ⟨untagged,.inl inside⟩,fun _ => spared⟩
    · rw [if_pos (not_not.mp fun outside => inside (inEnvironment_iff.mpr outside)),deny_reason]
      exact ⟨fun spared => absurd (by decide) spared,
        fun unbarred => absurd admits (unbarred.2.resolve_left inside)⟩
  · exact ⟨fun _ => ⟨untagged,.inr refused⟩,fun _ => spared⟩

theorem spared_always_iff (serving : InService process table principal key definition) {row : ToolRegistration}
    (member : row ∈ table.rows) (same : row.key = key) :
    (∀ inquiry, (evaluate runtime (asked process principal environment row inquiry)).reason ∉ barring) ↔
      Unbarred definition environment := by
  constructor
  · intro spared
    have each (inquiry : Inquiry) := (spared_iff serving member same inquiry).mp (spared inquiry)
    refine ⟨(each ⟨[],{kind := .none},0⟩).1,?_⟩
    by_cases inside : InEnvironment definition environment
    · exact .inl inside
    · exact .inr fun inquiry => (each inquiry).2.resolve_left inside
  · intro unbarred inquiry
    exact (spared_iff serving member same inquiry).mpr
      ⟨unbarred.1,unbarred.2.imp id fun refused => refused inquiry⟩

theorem hidden_denied (hidden : ¬ ∃ definition, InService process table principal key definition) {row : ToolRegistration}
    (member : row ∈ table.rows) (same : row.key = key) (inquiry : Inquiry) :
    (evaluate runtime (asked process principal environment row inquiry)).allowed = false ∧
      ((∀ definition, process.getDefinition key.1 key.2 = some definition → Admits definition inquiry) →
        (evaluate runtime (asked process principal environment row inquiry)).reason ∈ barring) := by
  have bound : (asked process principal environment row inquiry).definition = process.getDefinition key.1 key.2 :=
    asked_definition same inquiry
  cases declared : process.getDefinition key.1 key.2 with
  | none =>
    rw [evaluate_unbound (bound.trans declared),deny_reason]
    exact ⟨deny_refuses _,fun _ => by decide⟩
  | some definition =>
    rw [declared] at bound
    cases standing : row.lifecycleState with
    | retired =>
      rw [evaluate_retired bound standing,deny_reason]
      exact ⟨deny_refuses _,fun _ => by decide⟩
    | disabled =>
      rw [evaluate_disabled bound standing,deny_reason]
      exact ⟨deny_refuses _,fun _ => by decide⟩
    | active =>
      by_cases prohibited : Prohibited definition
      · rw [evaluate_prohibited bound standing prohibited,deny_reason]
        exact ⟨deny_refuses _,fun _ => by decide⟩
      have lacks : ¬ HoldsRoles definition principal := by
        intro held
        apply hidden
        exact ⟨definition,declared,⟨row,member,same,standing⟩,Bool.eq_false_iff.mpr fun flagged => prohibited (.inl flagged),
          held⟩
      rcases @reaches_or_refused runtime _ _ bound standing prohibited with ⟨_,reaches⟩ | ⟨denied,_,refused⟩
      · rw [evaluate_unheld reaches lacks,deny_reason]
        exact ⟨deny_refuses _,fun _ => by decide⟩
      · exact ⟨denied,fun admits => absurd (admits definition rfl) refused⟩

/-- The catalogue agrees with the engine on a tool exactly if the tool, once it is in service
for the caller, bears no prohibited tag and is confined to no other environment. -/
theorem agrees_iff : Agrees process table principal environment key ↔
    ∀ definition, InService process table principal key definition → Unbarred definition environment := by
  constructor
  · intro agrees definition serving
    obtain ⟨row,member,same,spared⟩ := agrees.presented (presented_iff.mpr ⟨definition,serving⟩)
    exact (spared_always_iff serving member same).mp spared
  · intro unbarred
    constructor
    · intro presented
      obtain ⟨definition,serving⟩ := presented_iff.mp presented
      obtain ⟨row,member,same,_⟩ := serving.active
      exact ⟨row,member,same,(spared_always_iff serving member same).mpr (unbarred definition serving)⟩
    · intro hidden row member same inquiry
      exact hidden_denied (fun serving => hidden (presented_iff.mpr serving)) member same inquiry

end Agreement

/-- A tool that is meant for another environment than the laboratory. -/
def awayBox : ToolDefinition := {probeBox with approvalPolicy := {allowedEnvironments := {"production"}}}

def awayProcess : Process labRuntime where
  adapters := {"lab"}
  definitions := [awayBox]
  declared := by
    intro definition member
    rw [List.mem_singleton] at member
    subst member
    exact accepted_of_toBool _ (by decide +kernel)
  distinct := by decide +kernel

def awayTable : RegistrationTable where
  rows := [labRegistration 8 "lab.box.probe"]
  distinct := by decide +kernel
  checked := by
    intro row member
    rw [List.mem_singleton] at member
    subst member
    decide +kernel

/-- The catalogue against the policy engine: of every tool, under any registry and table and
for any caller, the routes and the engine agree exactly if the tool is not in service for
the caller, or is barred for no reason of its own. -/
theorem catalogue_agrees (process : Process runtime) (table : RegistrationTable) (principal : Principal)
    (environment : String) (key : String × String) : Agrees process table principal environment key ↔
      ∀ definition, InService process table principal key definition → Unbarred definition environment :=
  agrees_iff

/-- A viewer is shown a tool that is denied in the only environment there is. -/
theorem catalogue_shows_denied :
    Presented awayProcess awayTable (person "eve" {"viewer"}) ("lab.box.probe","1.0") ∧
      (evaluate labRuntime (asked awayProcess (person "eve" {"viewer"}) "lab" (labRegistration 8 "lab.box.probe")
        ⟨[],{kind := .externalRef,externalRef := [("name",.str "box")]},0⟩)).reason = .environmentRestricted ∧
      ¬ Agrees awayProcess awayTable (person "eve" {"viewer"}) "lab" ("lab.box.probe","1.0") := by
  have serving : InService awayProcess awayTable (person "eve" {"viewer"}) ("lab.box.probe","1.0") awayBox := by
    refine ⟨getDefinition_eq_some.mpr ⟨.head _,rfl⟩,⟨_,.head _,rfl,rfl⟩,rfl,?_⟩
    unfold HoldsRoles
    decide +kernel
  have denied : (evaluate labRuntime (asked awayProcess (person "eve" {"viewer"}) "lab" (labRegistration 8 "lab.box.probe")
      ⟨[],{kind := .externalRef,externalRef := [("name",.str "box")]},0⟩)).reason = .environmentRestricted := by
    decide +kernel
  refine ⟨presented_iff.mpr ⟨_,serving⟩,denied,?_⟩
  intro agrees
  obtain ⟨row,member,_,spared⟩ := agrees.presented (presented_iff.mpr ⟨_,serving⟩)
  cases List.mem_singleton.mp member
  apply spared ⟨[],{kind := .externalRef,externalRef := [("name",.str "box")]},0⟩
  rw [denied]
  decide

end Acop.Catalogue
