import Acop.Guarantee.Visibility

/-! Which version of a tool the catalogue takes for the highest: the order of the texts
against the order of the numbers in them. -/
namespace Acop.Catalogue
open Acop.PolicyEngine

section Numbers

variable (digit : Char → Nat)

/-- `int` of a text of decimal digits, whatever the value of each. -/
def number (segment : List Char) : Nat := segment.foldl (fun read char => read * 10 + digit char) 0

/-- `MAJOR.MINOR` as two numbers. -/
def versionNumber (version : String) : Nat ×ₗ Nat :=
  let segments := (withoutFinalNewline version.toList).splitOn '.'
  toLex (number digit (segments.getD 0 []),number digit (segments.getD 1 []))

end Numbers

section Choice

variable {runtime : Runtime} (process : Process runtime) (table : RegistrationTable) (principal : Principal)

/-- The versions of one tool that are active and that the caller may invoke. -/
def versions (toolName : String) : List ToolDefinition :=
  (live process table principal).filter fun definition => definition.toolName = toolName

/-- The lookup shows a version that no other exceeds in number, and fails where there is none. -/
def ShowsHighest (digit : Char → Nat) (toolName : String) : Prop :=
  match getTool process table principal toolName with
  | .ok tool => ∃ definition ∈ versions process table principal toolName, tool = descriptor definition .active ∧
      ∀ other ∈ versions process table principal toolName,
        versionNumber digit other.toolVersion ≤ versionNumber digit definition.toolVersion
  | .error _ => versions process table principal toolName = []

variable {process : Process runtime} {table : RegistrationTable} {principal : Principal} {toolName : String}

theorem getTool_none (none : versions process table principal toolName = []) :
    ∃ fault, getTool process table principal toolName = .error fault := by
  unfold versions at none
  unfold getTool
  rw [none]
  cases requireRoles viewerRoles principal with
  | error fault => exact ⟨fault,rfl⟩
  | ok _ => exact ⟨_,rfl⟩

theorem getTool_last (some : versions process table principal toolName ≠ []) :
    ∃ last ∈ versions process table principal toolName,
      getTool process table principal toolName = .ok (descriptor last .active) ∧
        ∀ other ∈ versions process table principal toolName, other.toolVersion ≤ last.toolVersion := by
  obtain ⟨definition,member⟩ := List.exists_mem_of_ne_nil _ some
  have serving := mem_live.mp (List.mem_filter.mp member).1
  have admitted := admitted_of_held (getDefinition_eq_some.mp serving.declared).1 serving.held
  cases chosen : (versions process table principal toolName).argmax ToolDefinition.toolVersion with
  | none => exact absurd (List.argmax_eq_none.mp chosen) some
  | some last =>
    refine ⟨last,List.argmax_mem chosen,?_,fun other there => List.le_of_mem_argmax there chosen⟩
    unfold versions at chosen
    unfold getTool
    rw [admitted,ok_bind,chosen]
    rfl

/-- The lookup by name shows the highest version exactly if one version is last both as a text
and as a number, or there is none to show. -/
theorem highest_version (digit : Char → Nat) (process : Process runtime) (table : RegistrationTable) (principal : Principal)
    (toolName : String) : ShowsHighest process table principal digit toolName ↔
      versions process table principal toolName = [] ∨
        ∃ definition ∈ versions process table principal toolName,
          ∀ other ∈ versions process table principal toolName, other.toolVersion ≤ definition.toolVersion ∧
            versionNumber digit other.toolVersion ≤ versionNumber digit definition.toolVersion := by
  by_cases some : versions process table principal toolName = []
  · obtain ⟨fault,failed⟩ := getTool_none some
    unfold ShowsHighest
    rw [failed]
    exact ⟨fun _ => .inl some,fun _ => some⟩
  obtain ⟨last,there,shown,lastText⟩ := getTool_last some
  unfold ShowsHighest
  rw [shown]
  constructor
  · rintro ⟨definition,_,same,highest⟩
    have version : last.toolVersion = definition.toolVersion := congrArg ToolDescriptor.toolVersion same
    refine .inr ⟨last,there,fun other member => ⟨lastText other member,?_⟩⟩
    rw [version]
    exact highest other member
  · rintro (none | ⟨definition,member,both⟩)
    · exact absurd none some
    refine ⟨last,there,rfl,fun other present => ?_⟩
    have version : last.toolVersion = definition.toolVersion := le_antisymm (both last there).1 (lastText definition member)
    rw [version]
    exact (both other present).2

end Choice

section Laboratory

def ninth : ToolDefinition := {probeBox with toolVersion := "9.0"}

def tenth : ToolDefinition := {probeBox with toolVersion := "10.0"}

def releasedProcess : Process labRuntime where
  adapters := {"lab"}
  definitions := [ninth,tenth]
  declared := by
    intro definition member
    rcases List.mem_pair.mp member with rfl | rfl
    · exact accepted_of_toBool _ (by decide +kernel)
    · exact accepted_of_toBool _ (by decide +kernel)
  distinct := by decide +kernel

def releasedTable : RegistrationTable where
  rows := [{labRegistration 8 "lab.box.probe" with toolVersion := "9.0"},
    {labRegistration 9 "lab.box.probe" with toolVersion := "10.0"}]
  distinct := by decide +kernel
  checked := by
    intro row member
    rcases List.mem_pair.mp member with rfl | rfl <;> decide +kernel

theorem released {definition : ToolDefinition} (member : definition ∈ releasedProcess.definitions) :
    definition ∈ versions releasedProcess releasedTable (person "eve" {"viewer"}) "lab.box.probe" := by
  have declared : releasedProcess.getDefinition definition.key.1 definition.key.2 = some definition :=
    getDefinition_eq_some.mpr ⟨member,rfl⟩
  rcases List.mem_pair.mp member with rfl | rfl
  · refine List.mem_filter.mpr ⟨mem_live.mpr ⟨declared,⟨_,.head _,rfl,rfl⟩,rfl,?_⟩,rfl⟩
    unfold HoldsRoles
    decide +kernel
  · refine List.mem_filter.mpr ⟨mem_live.mpr ⟨declared,⟨_,.tail _ (.head _),rfl,rfl⟩,rfl,?_⟩,rfl⟩
    unfold HoldsRoles
    decide +kernel

end Laboratory

/-- Of two releases the older is shown. -/
theorem tenth_hidden : ∃ tool, getTool releasedProcess releasedTable (person "eve" {"viewer"}) "lab.box.probe" = .ok tool ∧
    tool.toolVersion = "9.0" ∧
    tenth ∈ versions releasedProcess releasedTable (person "eve" {"viewer"}) "lab.box.probe" ∧
    ¬ ShowsHighest releasedProcess releasedTable (person "eve" {"viewer"}) (fun char => char.toNat - 48) "lab.box.probe" := by
  have newer : tenth ∈ versions releasedProcess releasedTable (person "eve" {"viewer"}) "lab.box.probe" :=
    released (.tail _ (.head _))
  obtain ⟨last,there,shown,lastText⟩ := getTool_last (List.ne_nil_of_mem newer)
  have known := (getDefinition_eq_some.mp (mem_live.mp (List.mem_filter.mp there).1).declared).1
  have old : last.toolVersion = "9.0" := by
    rcases List.mem_pair.mp known with rfl | rfl
    · rfl
    · exact absurd (lastText ninth (released (.head _))) (by decide)
  refine ⟨_,shown,old,newer,?_⟩
  unfold ShowsHighest
  rw [shown]
  rintro ⟨definition,_,same,highest⟩
  have version : last.toolVersion = definition.toolVersion := congrArg ToolDescriptor.toolVersion same
  have number := highest tenth newer
  rw [← version,old] at number
  exact absurd number (by decide)

end Acop.Catalogue
