import Acop.Policy

/-! What a decision depends on: who asks matters at the role gate and nowhere else. -/
namespace Acop.PolicyEngine

section Gates

def Prohibited (definition : ToolDefinition) : Prop :=
  definition.prohibited ∨ definition.capabilityTags ∩ prohibitedCapabilities ≠ ∅

instance (definition : ToolDefinition) : Decidable (Prohibited definition) := inferInstanceAs (Decidable (_ ∨ _))

structure Reaches (context : PolicyContext) (definition : ToolDefinition) (canonical : JsonObject) : Prop where
  bound : context.definition = some definition
  active : context.lifecycleState = .active
  permitted : ¬ Prohibited definition
  schema : definition.inputModel.modelValidate context.rawInput = .valid canonical
  target : checkTarget definition context.target = none

def HoldsRoles (definition : ToolDefinition) (principal : Principal) : Prop :=
  definition.requiredRoles ⊆ heldRoles principal.roles

def InEnvironment (definition : ToolDefinition) (environment : String) : Prop :=
  definition.approvalPolicy.allowedEnvironments = ∅ ∨ environment ∈ definition.approvalPolicy.allowedEnvironments

structure Opens (context : PolicyContext) (definition : ToolDefinition) (canonical : JsonObject) : Prop
    extends Reaches context definition canonical where
  role : HoldsRoles definition context.principal
  environment : InEnvironment definition context.environment

end Gates

variable {runtime : Runtime} {context : PolicyContext} {definition : ToolDefinition} {canonical : JsonObject}

/-- What the gates after the fifth can say of a request that they refuse. -/
def lateReasons : List PolicyReason := [.roleInsufficient,.environmentRestricted]

theorem deny_reason (reason : PolicyReason) : (deny runtime context reason).reason = reason := by
  unfold deny
  split
  · rfl
  · rfl

theorem deny_refuses (reason : PolicyReason) : (deny runtime context reason).allowed = false := by
  unfold deny
  split
  · rfl
  · rfl

theorem checkTarget_early {target : TargetFacts} {reason : PolicyReason} (refused : checkTarget definition target = some reason) :
    reason ∉ lateReasons := by
  unfold checkTarget at refused
  split at refused
  · cases refused
    decide
  split at refused
  · cases refused
  · split at refused
    · cases refused
      decide
    · cases refused
  · split at refused
    · cases refused
      decide
    split at refused
    · cases refused
      decide
    split at refused
    · cases refused
      decide
    · cases refused

theorem gatesOneToFour_early {denial : PolicyDecision} (refused : gatesOneToFour runtime context = some (.error denial)) :
    ∃ reason ∉ lateReasons, denial = deny runtime context reason := by
  unfold gatesOneToFour at refused
  split at refused
  · cases refused
    exact ⟨_,by decide,rfl⟩
  split at refused
  · cases refused
    exact ⟨_,by decide,rfl⟩
  · cases refused
    exact ⟨_,by decide,rfl⟩
  split at refused
  · cases refused
    exact ⟨_,by decide,rfl⟩
  split at refused
  · cases refused
  · cases refused
    exact ⟨_,by decide,rfl⟩
  · cases refused

theorem gatesOneToFour_ok : gatesOneToFour runtime context = some (.ok canonical) ↔ ∃ definition,
    context.definition = some definition ∧ context.lifecycleState = .active ∧ ¬ Prohibited definition ∧
      definition.inputModel.modelValidate context.rawInput = .valid canonical := by
  constructor
  · intro passed
    unfold gatesOneToFour at passed
    split at passed
    · cases passed
    rename_i definition bound
    split at passed
    · cases passed
    · cases passed
    rename_i active
    split at passed
    · cases passed
    rename_i permitted
    split at passed
    · rename_i validated
      cases passed
      exact ⟨definition,bound,active,permitted,validated⟩
    · cases passed
    · cases passed
  · rintro ⟨definition,bound,active,permitted,validated⟩
    unfold Prohibited at permitted
    unfold gatesOneToFour
    simp only [bound,active,if_neg permitted,validated]

theorem evaluate_passed (gates : gatesOneToFour runtime context = some (.ok canonical))
    (bound : context.definition = some definition) :
    evaluate runtime context = gatesFiveToEight runtime context definition canonical := by
  unfold evaluate
  rw [gates,bound]

theorem Reaches.passes (reaches : Reaches context definition canonical) :
    evaluate runtime context = gatesFiveToEight runtime context definition canonical :=
  evaluate_passed
    (gatesOneToFour_ok.mpr ⟨definition,reaches.bound,reaches.active,reaches.permitted,reaches.schema⟩) reaches.bound

theorem evaluate_early (blocked : ∀ definition canonical, ¬ Reaches context definition canonical) :
    ∃ reason ∉ lateReasons, ∀ principal, evaluate runtime {context with principal} = deny runtime context reason := by
  cases gates : gatesOneToFour runtime context with
  | none =>
    refine ⟨.internalError,by decide,fun principal => ?_⟩
    have same : gatesOneToFour runtime {context with principal} = none := gates
    unfold evaluate
    rw [same]
    rfl
  | some verdict => cases verdict with
    | error denial =>
      obtain ⟨reason,early,rfl⟩ := gatesOneToFour_early gates
      refine ⟨reason,early,fun principal => ?_⟩
      have same : gatesOneToFour runtime {context with principal} = some (.error (deny runtime context reason)) := gates
      unfold evaluate
      rw [same]
    | ok canonical =>
      obtain ⟨definition,bound,active,permitted,validated⟩ := gatesOneToFour_ok.mp gates
      cases target : checkTarget definition context.target with
      | none => exact absurd ⟨bound,active,permitted,validated,target⟩ (blocked definition canonical)
      | some reason =>
        refine ⟨reason,checkTarget_early target,fun principal => ?_⟩
        have same : gatesOneToFour runtime {context with principal} = some (.ok canonical) := gates
        rw [evaluate_passed same bound]
        unfold gatesFiveToEight
        rw [target]
        rfl

section Late

variable (reaches : Reaches context definition canonical)
include reaches

theorem evaluate_unheld (lacks : ¬ HoldsRoles definition context.principal) :
    evaluate runtime context = deny runtime context .roleInsufficient := by
  rw [reaches.passes]
  unfold gatesFiveToEight
  rw [reaches.target]
  exact if_pos lacks

theorem evaluate_held (holds : HoldsRoles definition context.principal) : evaluate runtime context =
    if definition.approvalPolicy.allowedEnvironments ≠ ∅ ∧
      context.environment ∉ definition.approvalPolicy.allowedEnvironments then deny runtime context .environmentRestricted
    else {
      allowed := true
      reason := .allowed
      permissionClass := definition.permissionClass
      approvalPolicy := definition.approvalPolicy
      validationRequired := definition.validationRequired
      requiredRoles := definition.requiredRoles
      executionParameters := definition.executionParameters
      prohibited := false
      registryContractHash := definition.contractHash runtime
      evaluatedAt := context.requestTime
      canonicalInput := canonical} := by
  rw [reaches.passes]
  unfold gatesFiveToEight
  rw [reaches.target]
  exact if_neg (not_not.mpr holds)

end Late

theorem inEnvironment_iff {environment : String} : InEnvironment definition environment ↔
    ¬ (definition.approvalPolicy.allowedEnvironments ≠ ∅ ∧ environment ∉ definition.approvalPolicy.allowedEnvironments) := by
  unfold InEnvironment
  tauto

theorem evaluate_allowed_iff : (evaluate runtime context).allowed = true ↔ ∃ definition canonical, Opens context definition canonical := by
  constructor
  · intro allowed
    by_contra none
    push Not at none
    by_cases reached : ∃ definition canonical, Reaches context definition canonical
    · obtain ⟨definition,canonical,reaches⟩ := reached
      by_cases holds : HoldsRoles definition context.principal
      · rw [evaluate_held reaches holds] at allowed
        split at allowed
        · rw [deny_refuses] at allowed
          cases allowed
        · rename_i inside
          exact none definition canonical ⟨reaches,holds,inEnvironment_iff.mpr inside⟩
      · rw [evaluate_unheld reaches holds,deny_refuses] at allowed
        cases allowed
    · push Not at reached
      obtain ⟨reason,_,denied⟩ := evaluate_early reached
      have same : evaluate runtime context = deny runtime context reason := denied context.principal
      rw [same,deny_refuses] at allowed
      cases allowed
  · rintro ⟨definition,canonical,opens⟩
    rw [evaluate_held opens.toReaches opens.role,if_neg (inEnvironment_iff.mp opens.environment)]

theorem evaluate_of_prerequisites {denial : PolicyDecision} (refused : evaluatePrerequisites runtime context = some denial)
    (target : TargetFacts) : evaluate runtime {context with target} = denial := by
  unfold evaluatePrerequisites at refused
  have same : gatesOneToFour runtime {context with target} = gatesOneToFour runtime context := rfl
  unfold evaluate
  rw [same]
  cases gates : gatesOneToFour runtime context with
  | none =>
    rw [gates] at refused
    cases refused
    rfl
  | some verdict =>
    rw [gates] at refused
    cases verdict with
    | error denial =>
      cases refused
      rfl
    | ok canonical => cases refused

theorem Reaches.principal (reaches : Reaches context definition canonical) (principal : Principal) :
    Reaches {context with principal} definition canonical :=
  ⟨reaches.bound,reaches.active,reaches.permitted,reaches.schema,reaches.target⟩

theorem reached_of_ne {first second : Principal}
    (apart : ¬ evaluate runtime {context with principal := second} = evaluate runtime {context with principal := first}) :
    ∃ definition canonical, Reaches context definition canonical := by
  by_contra blocked
  push Not at blocked
  obtain ⟨reason,_,denied⟩ := evaluate_early blocked
  exact apart ((denied second).trans (denied first).symm)

theorem late_of_reaches (reaches : Reaches context definition canonical) (refused : (evaluate runtime context).allowed = false) :
    (evaluate runtime context).reason ∈ lateReasons := by
  by_cases holds : HoldsRoles definition context.principal
  · rw [evaluate_held reaches holds] at refused ⊢
    split at refused
    · rename_i outside
      rw [if_pos outside,deny_reason]
      decide
    · cases refused
  · rw [evaluate_unheld reaches holds,deny_reason]
    decide

/-- The decisions on one request that two principals make: the gates before the role gate
refuse both alike, and a prohibited tool is refused to both for one reason; past them the
decisions differ only where a principal lacks a required role, who is refused for that. The
engine allows exactly what every gate lets through, and what the early check refuses, whatever
the target is found to be, is refused alike by the whole engine. -/
theorem policy_decision (runtime : Runtime) (context : PolicyContext) (first second : Principal) :
    ((evaluate runtime {context with principal := first}).allowed = false →
      (evaluate runtime {context with principal := first}).reason ∉ lateReasons →
        evaluate runtime {context with principal := second} = evaluate runtime {context with principal := first}) ∧
    (∀ definition, context.definition = some definition → Prohibited definition →
      (evaluate runtime {context with principal := first}).allowed = false ∧
        (evaluate runtime {context with principal := second}).reason =
          (evaluate runtime {context with principal := first}).reason) ∧
    ((∀ definition, context.definition = some definition → HoldsRoles definition first ∧ HoldsRoles definition second) →
      evaluate runtime {context with principal := first} = evaluate runtime {context with principal := second}) ∧
    (∀ definition, context.definition = some definition → ¬ HoldsRoles definition first →
      evaluate runtime {context with principal := first} = deny runtime context .roleInsufficient ∨
        (evaluate runtime {context with principal := first} = evaluate runtime {context with principal := second} ∧
          (evaluate runtime {context with principal := first}).allowed = false)) ∧
    ((evaluate runtime {context with principal := first}).allowed = true ↔
      ∃ definition canonical, Opens {context with principal := first} definition canonical) ∧
    ∀ denial target, evaluatePrerequisites runtime {context with principal := first} = some denial →
      evaluate runtime {context with principal := first,target} = denial := by
  refine ⟨?_,?_,?_,?_,evaluate_allowed_iff,fun denial target refused => evaluate_of_prerequisites refused target⟩
  · intro refused early
    by_contra apart
    have reached := reached_of_ne apart
    obtain ⟨definition,canonical,reaches⟩ := reached
    exact early (late_of_reaches (reaches.principal first) refused)
  · intro definition bound prohibited
    obtain ⟨reason,_,denied⟩ := evaluate_early fun other canonical (reaches : Reaches context other canonical) => by
      cases Option.some.inj (bound.symm.trans reaches.bound)
      exact reaches.permitted prohibited
    rw [denied first,denied second]
    exact ⟨deny_refuses reason,rfl⟩
  · intro hold
    by_contra apart
    obtain ⟨definition,canonical,reaches⟩ := reached_of_ne fun same => apart same.symm
    obtain ⟨firstHolds,secondHolds⟩ := hold definition reaches.bound
    apply apart
    rw [evaluate_held (reaches.principal first) firstHolds,evaluate_held (reaches.principal second) secondHolds]
    rfl
  · intro definition bound lacks
    by_cases reached : ∃ definition canonical, Reaches context definition canonical
    · obtain ⟨other,canonical,reaches⟩ := reached
      cases Option.some.inj (bound.symm.trans reaches.bound)
      left
      exact evaluate_unheld (reaches.principal first) lacks
    · push Not at reached
      obtain ⟨reason,_,denied⟩ := evaluate_early reached
      right
      rw [denied first,denied second]
      exact ⟨rfl,deny_refuses reason⟩

end Acop.PolicyEngine
