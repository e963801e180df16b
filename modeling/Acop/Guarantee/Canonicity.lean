import Acop.Coding.Lines
import Acop.Guarantee.IdentifierFilter
import Acop.Knowledge.Mentions

/-! Which stored identifiers their own normaliser leaves as they are, so that the resolver, the
list filter and the mention scan find again what they stored. -/
namespace Acop.Cmdb
open Acop.Store Acop.Coding
open Acop.Knowledge (KnowledgeAssetMention candidate minMentionTokenLength)

/-- What `str.lower` and `str.upper` do about spaces, dots, colons and hyphens: they have no case and end words. -/
structure Casing (change : String → String) : Prop where
  again text : change (change text) = change text
  strip text : strip (change text) = change (strip text)
  undot text : rstripDots (change text) = change (rstripDots text)
  push text char : isSpace char ∨ char = '.' → change (text.push char) = (change text).push char
  sign text char : isSpace char ∨ char ∈ [':','.','-'] → (char ∈ (change text).toList ↔ char ∈ text.toList)

/-- What the normalisers of a namespace rely on. -/
structure Lettering (python : Python) : Prop where
  lower : Casing python.lower
  upper : Casing python.upper
  namespaces text : matchesNamespace text → python.lower text = text
  digits : python.isDecimal ':' = false

/-- An identifier as it is stored is found by itself. -/
structure FindsItself (python : Python) (spec : NamespaceSpec) (item : NormalisedIdentifier) : Prop where
  unchanged : spec.normaliser.apply python item.valueNormalized = item.valueNormalized
  resolved (again : IdentifierInput) : again.namespaceName = item.namespaceName → again.value = item.valueNormalized →
    ∃ same, normalise python again = .ok same ∧ same.key = item.key ∧ (spec.unique = true → ∀ tables : Tables,
      ∀ row ∈ tables.identifiers.rows, row.key = item.key → row.retiredAt = none →
        row.assetId ∈ IdentityResolver.matchedAssets tables [same])
  filtered : identifierFilter python (item.namespaceName ++ ":" ++ item.valueNormalized) = .ok item.key
  scanned : minMentionTokenLength ≤ item.valueNormalized.length →
    candidate python item.valueNormalized item.namespaceName = some ⟨item.namespaceName,item.valueNormalized,item.valueNormalized⟩
  linked (mention : KnowledgeAssetMention) : mention.matchedNamespace = some item.namespaceName →
    mention.mentionText = item.valueNormalized →
    mention.scanKey python = (mention.chunkId,item.valueNormalized,some item.namespaceName)

/-- The text without dots behind ends in a space. -/
def EndsInSpace (text : String) : Prop := ∃ char, text.toList.getLast? = some char ∧ isSpace char

/-- The value keeps no space in front of the dots that a host name loses, and no colon where colons are kept. -/
structure Tame (spec : NamespaceSpec) (value : String) : Prop where
  unspaced : spec.normaliser = .hostname → ¬ EndsInSpace (rstripDots (strip value))
  uncoloned : spec.normaliser ∈ [.lower,.upper,.hostname] → ':' ∉ value.toList

section Texts

variable {text value : String} {chars : List Char} {char : Char}

theorem strip_eq (text : String) : strip text = String.ofList (trim isSpace text.toList) := rfl

theorem rstripDots_eq (text : String) : rstripDots text = String.ofList (text.toList.rdropWhile (· = '.')) := rfl

theorem strip_strip (text : String) : strip (strip text) = strip text := by
  rw [strip_eq (strip text),strip_eq text,String.toList_ofList,trim_trim]

theorem rstripDots_rstripDots (text : String) : rstripDots (rstripDots text) = rstripDots text := by
  rw [rstripDots_eq (rstripDots text),rstripDots_eq text,String.toList_ofList,List.rdropWhile_idempotent]

theorem dropChars_dropChars (dropped : Char → Bool) (text : String) :
    dropChars dropped (dropChars dropped text) = dropChars dropped text := by
  unfold dropChars
  rw [String.toList_ofList,List.filter_filter]
  simp only [Bool.and_self]

theorem dropChars_eq_self {dropped : Char → Bool} (kept : ∀ char ∈ text.toList, dropped char = false) :
    dropChars dropped text = text := by
  have all : text.toList.filter (fun char => !dropped char) = text.toList :=
    List.filter_eq_self.mpr fun char member => by rw [kept char member]; rfl
  unfold dropChars
  rw [all,String.ofList_toList]

theorem mem_dropChars {dropped : Char → Bool} : char ∈ (dropChars dropped text).toList ↔ char ∈ text.toList ∧ dropped char = false := by
  simp [dropChars]

theorem mem_strip (shown : isSpace char = false) : char ∈ (strip text).toList ↔ char ∈ text.toList := by
  rw [strip_eq,String.toList_ofList]
  constructor
  · exact fun member => (List.dropWhile_suffix _).subset ((List.rdropWhile_prefix _ _).subset member)
  · intro member
    refine mem_rdropWhile ?_ shown
    rw [← List.takeWhile_append_dropWhile (p := isSpace) (l := text.toList)] at member
    refine (List.mem_append.mp member).resolve_left fun dropped => ?_
    exact absurd (List.mem_takeWhile_imp dropped) (by simp [shown])

theorem mem_rstripDots (other : char ≠ '.') : char ∈ (rstripDots text).toList ↔ char ∈ text.toList := by
  rw [rstripDots_eq,String.toList_ofList]
  exact ⟨fun member => (List.rdropWhile_prefix _ _).subset member,fun member => mem_rdropWhile member (by simpa using other)⟩

theorem dropWhile_undotted (text : String) : (rstripDots (strip text)).toList.dropWhile isSpace = (rstripDots (strip text)).toList := by
  rw [List.dropWhile_eq_self_iff]
  intro long
  have part : (rstripDots (strip text)).toList <+: (strip text).toList := by
    rw [rstripDots_eq,String.toList_ofList]
    exact List.rdropWhile_prefix _ _
  have longer : 0 < (strip text).toList.length := Nat.lt_of_lt_of_le long part.length_le
  have kept : (strip text).toList.dropWhile isSpace = (strip text).toList := by
    rw [strip_eq,String.toList_ofList]
    exact dropWhile_trim
  rw [part.getElem long]
  exact List.dropWhile_eq_self_iff.mp kept longer

theorem strip_undotted (text : String) : strip (rstripDots (strip text)) =
    String.ofList ((rstripDots (strip text)).toList.rdropWhile isSpace) := by
  rw [strip_eq (rstripDots (strip text)),trim,dropWhile_undotted]

theorem strip_of_unspaced (unspaced : ¬ EndsInSpace (rstripDots (strip text))) :
    strip (rstripDots (strip text)) = rstripDots (strip text) := by
  have kept : (rstripDots (strip text)).toList.rdropWhile isSpace = (rstripDots (strip text)).toList := by
    rw [List.rdropWhile_eq_self_iff]
    intro some space
    exact unspaced ⟨_,List.getLast?_eq_some_getLast some,space⟩
  rw [strip_undotted,kept,String.ofList_toList]

theorem split_of_spaced (spaced : EndsInSpace (rstripDots (strip text))) :
    ∃ lost, lost ≠ [] ∧ (∀ char ∈ lost, isSpace char ∨ char = '.') ∧
      (rstripDots (strip text)).toList = (rstripDots (strip (rstripDots (strip text)))).toList ++ lost := by
  obtain ⟨last,there,space⟩ := spaced
  rw [strip_undotted,rstripDots_eq (String.ofList _),String.toList_ofList,String.toList_ofList]
  generalize (rstripDots (strip text)).toList = chars at there
  refine ⟨(chars.rdropWhile isSpace).rtakeWhile (· = '.') ++ chars.rtakeWhile isSpace,?_,?_,?_⟩
  · refine List.append_ne_nil_of_right_ne_nil _ fun none => ?_
    have some : chars ≠ [] := by
      rintro rfl
      cases there
    rw [List.getLast?_eq_some_getLast some] at there
    refine List.rtakeWhile_eq_nil_iff.mp none some ?_
    rw [Option.some.inj there]
    exact space
  · intro char member
    rcases List.mem_append.mp member with dot | blank
    · exact .inr (by simpa using List.mem_rtakeWhile_imp dot)
    · exact .inl (List.mem_rtakeWhile_imp blank)
  · rw [← List.append_assoc,List.rdropWhile_append_rtakeWhile,List.rdropWhile_append_rtakeWhile]

end Texts

section Casings

variable {change : String → String} (casing : Casing change)
include casing

theorem change_append (early lost : List Char) (signs : ∀ char ∈ lost, isSpace char ∨ char = '.') :
    change (String.ofList (early ++ lost)) = String.ofList ((change (String.ofList early)).toList ++ lost) := by
  induction lost using List.reverseRecOn with
  | nil => simp
  | append_singleton lost char ih =>
    have whole : String.ofList (early ++ (lost ++ [char])) = (String.ofList (early ++ lost)).push char := by
      rw [← String.toList_inj]
      simp
    rw [whole,casing.push _ char (signs char (by simp)),ih fun other member => signs other (List.mem_append_left _ member)]
    rw [← String.toList_inj]
    simp

theorem stripped_fixed (value : String) : change (strip (change (strip value))) = change (strip value) := by
  rw [casing.strip,casing.again,strip_strip]

theorem undotted_iff (value : String) : change (rstripDots (strip (change (rstripDots (strip value))))) =
    change (rstripDots (strip value)) ↔ ¬ EndsInSpace (rstripDots (strip value)) := by
  have inner : change (rstripDots (strip (change (rstripDots (strip value))))) =
      change (rstripDots (strip (rstripDots (strip value)))) := by
    rw [casing.strip,casing.undot,casing.again]
  rw [inner]
  constructor
  · intro same spaced
    obtain ⟨lost,some,signs,whole⟩ := split_of_spaced spaced
    have longer := change_append casing (rstripDots (strip (rstripDots (strip value)))).toList lost signs
    rw [← whole,String.ofList_toList,String.ofList_toList,← same,← String.toList_inj,String.toList_ofList] at longer
    have lengths := congrArg List.length longer
    rw [List.length_append] at lengths
    exact some (List.eq_nil_of_length_eq_zero (by omega))
  · intro unspaced
    rw [strip_of_unspaced unspaced,rstripDots_rstripDots]

theorem colon_change (text : String) : ':' ∈ (change text).toList ↔ ':' ∈ text.toList := casing.sign text ':' (.inr (by simp))

end Casings

section Normalisers

variable {python : Python} (letters : Lettering python)
include letters

theorem mac_fixed (value : String) : Normaliser.mac.apply python (Normaliser.mac.apply python value) = Normaliser.mac.apply python value := by
  unfold Normaliser.apply
  dsimp only
  rw [dropChars_eq_self,letters.lower.again]
  intro char member
  cases separator : (decide (char ∈ [':','.','-']) || isSpace char) with
  | false => rfl
  | true =>
    have sign : isSpace char ∨ char ∈ [':','.','-'] := by
      simpa [or_comm] using separator
    have dropped := (mem_dropChars.mp ((letters.lower.sign _ char sign).mp member)).2
    exact dropped.symm.trans separator |>.symm

/-- A normaliser leaves its own result as it is, unless a host name keeps a space in front of the dots that it loses. -/
theorem fixed_iff (normaliser : Normaliser) (value : String) :
    normaliser.apply python (normaliser.apply python value) = normaliser.apply python value ↔
      (normaliser = .hostname → ¬ EndsInSpace (rstripDots (strip value))) := by
  cases normaliser with
  | lower => exact iff_of_true (stripped_fixed letters.lower value) nofun
  | upper => exact iff_of_true (stripped_fixed letters.upper value) nofun
  | mac => exact iff_of_true (mac_fixed letters value) nofun
  | digits => exact iff_of_true (dropChars_dropChars _ value) nofun
  | hostname => exact (undotted_iff letters.lower value).trans ⟨fun unspaced _ => unspaced,fun unspaced => unspaced rfl⟩

theorem colon_iff (normaliser : Normaliser) (value : String) : ':' ∈ (normaliser.apply python value).toList ↔
    normaliser ∈ [.lower,.upper,.hostname] ∧ ':' ∈ value.toList := by
  have shown : isSpace ':' = false := by decide
  cases normaliser with
  | lower =>
    refine ((colon_change letters.lower _).trans (mem_strip shown)).trans ?_
    simp
  | upper =>
    refine ((colon_change letters.upper _).trans (mem_strip shown)).trans ?_
    simp
  | mac =>
    refine ((colon_change letters.lower _).trans mem_dropChars).trans ?_
    simp
  | digits =>
    refine mem_dropChars.trans ?_
    simp [letters.digits]
  | hostname =>
    refine ((colon_change letters.lower _).trans ((mem_rstripDots (by decide)).trans (mem_strip shown))).trans ?_
    simp

end Normalisers

section Identifiers

variable {python : Python} {spec : NamespaceSpec} {input again : IdentifierInput} {item : NormalisedIdentifier}

theorem normalise_registered (registered : identifierNamespaces.lookup input.namespaceName = some spec) :
    normalise python input = .ok item ↔ spec.normaliser.apply python input.value ≠ "" ∧ item = {
      namespaceName := input.namespaceName
      valueRaw := input.value
      valueNormalized := spec.normaliser.apply python input.value
      uniqueInNamespace := spec.unique
      sourceType := input.sourceType
      sourceId := input.sourceId
      confidence := input.confidence} := by
  unfold normalise
  rw [registered]
  simp only [Option.getD_some]
  constructor
  · intro done
    obtain ⟨filled,done⟩ := ok_of_guard done
    cases done
    exact ⟨filled,rfl⟩
  · rintro ⟨filled,rfl⟩
    rw [if_neg filled]

def represented (input : IdentifierInput) (value : String) (bounds : 1 ≤ value.length ∧ value.length ≤ 255) : IdentifierInput :=
  {input with value,value_bounds := bounds}

theorem length_pos_of_filled {text : String} (filled : text ≠ "") : 1 ≤ text.length := by
  rw [← String.length_toList]
  refine List.length_pos_iff.mpr fun none => filled ?_
  rw [← String.toList_inj,none]
  rfl

theorem found_again (registered : identifierNamespaces.lookup input.namespaceName = some spec)
    (ready : normalise python input = .ok item) (same : spec.normaliser.apply python item.valueNormalized = item.valueNormalized)
    (namespaceName : again.namespaceName = item.namespaceName) (value : again.value = item.valueNormalized) :
    ∃ other, normalise python again = .ok other ∧ other.key = item.key ∧ (spec.unique = true → ∀ tables : Tables,
      ∀ row ∈ tables.identifiers.rows, row.key = item.key → row.retiredAt = none →
        row.assetId ∈ IdentityResolver.matchedAssets tables [other]) := by
  obtain ⟨filled,rfl⟩ := (normalise_registered registered).mp ready
  have registeredAgain : identifierNamespaces.lookup again.namespaceName = some spec := by
    rw [namespaceName]
    exact registered
  have fixed : spec.normaliser.apply python again.value = spec.normaliser.apply python input.value := by
    rw [value]
    exact same
  refine ⟨_,(normalise_registered registeredAgain).mpr ⟨fixed ▸ filled,rfl⟩,?_,?_⟩
  · rw [NormalisedIdentifier.key,NormalisedIdentifier.key,fixed,namespaceName]
  · intro unique tables row member key live
    refine List.mem_dedup.mpr (List.mem_map.mpr ⟨row,List.mem_filter.mpr ⟨member,?_⟩,rfl⟩)
    have carried : row.key = (again.namespaceName,spec.normaliser.apply python again.value) := by
      rw [key,fixed,namespaceName]
      rfl
    simp [live,unique,carried,NormalisedIdentifier.key]

variable (letters : Lettering python)
include letters

/-- A stored identifier that fits its column finds itself exactly if its own normaliser leaves it as it is and it has no
colon. -/
theorem findsItself_iff (registered : identifierNamespaces.lookup input.namespaceName = some spec)
    (ready : normalise python input = .ok item) (stored : fits 255 item.valueNormalized) : FindsItself python spec item ↔
      spec.normaliser.apply python item.valueNormalized = item.valueNormalized ∧ ':' ∉ item.valueNormalized.toList := by
  obtain ⟨filled,shape⟩ := (normalise_registered registered).mp ready
  have namespaceName : item.namespaceName = input.namespaceName := by rw [shape]
  have value : item.valueNormalized = spec.normaliser.apply python input.value := by rw [shape]
  have bounds : 1 ≤ item.valueNormalized.length ∧ item.valueNormalized.length ≤ 255 := by
    refine ⟨length_pos_of_filled (value ▸ filled),?_⟩
    simp only [fits,Bool.and_eq_true,decide_eq_true_eq] at stored
    exact stored.1
  constructor
  · intro finds
    refine ⟨finds.unchanged,fun broken => ?_⟩
    obtain ⟨front,back,split,plain⟩ := split_last broken
    have whole : (item.namespaceName ++ ":" ++ item.valueNormalized).toList =
        (item.namespaceName.toList ++ ':'::front) ++ ':'::back := by
      rw [String.toList_append,String.toList_append,split]
      simp
    have asked := identifierFilter_namespace finds.filtered
    rw [whole,rpartition_eq plain] at asked
    have texts := congrArg String.toList asked
    rw [String.toList_ofList] at texts
    have lengths := congrArg List.length texts
    simp [NormalisedIdentifier.key] at lengths
  · rintro ⟨same,plain⟩
    have found : ∀ again : IdentifierInput, again.namespaceName = item.namespaceName → again.value = item.valueNormalized → _ :=
      fun _ named text => found_again registered ready same named text
    have registeredName : identifierNamespaces.lookup item.namespaceName = some spec := namespaceName ▸ registered
    refine {unchanged := same,resolved := found,filtered := ?_,scanned := ?_,linked := ?_}
    · obtain ⟨other,normal,key,_⟩ := found (represented input item.valueNormalized bounds) namespaceName.symm rfl
      have listed := identifierFilter_plain letters.namespaces normal plain
      have named : (represented input item.valueNormalized bounds).namespaceName = item.namespaceName := namespaceName.symm
      rw [key,named] at listed
      exact listed
    · intro long
      unfold candidate
      rw [registeredName]
      dsimp only
      rw [same,if_neg (Nat.not_lt.mpr long)]
    · intro mention matched text
      unfold KnowledgeAssetMention.scanKey
      rw [matched,text,Option.getD_some,registeredName]
      dsimp only
      rw [same]

end Identifiers

/-- A stored identifier is found by itself in the resolver, the list filter and the mention scan exactly if its value,
as it was handed in, keeps no space in front of the dots that a host name loses and no colon. -/
theorem finds_itself {python : Python} (letters : Lettering python) (spec : NamespaceSpec) (input : IdentifierInput)
    (item : NormalisedIdentifier) (registered : identifierNamespaces.lookup input.namespaceName = some spec)
    (ready : normalise python input = .ok item) (stored : fits 255 item.valueNormalized) :
    FindsItself python spec item ↔ Tame spec input.value := by
  have value : item.valueNormalized = spec.normaliser.apply python input.value := by
    rw [((normalise_registered registered).mp ready).2]
  rw [findsItself_iff letters registered ready stored,value,fixed_iff letters,colon_iff letters,not_and]
  exact ⟨fun both => ⟨both.1,both.2⟩,fun tame => ⟨tame.unspaced,tame.uncoloned⟩⟩

section Laboratory

/-- Texts without capitals, which `lower` leaves as they are. -/
def smallPython : Python := {labPython with lower := id,upper := id}

theorem smallPython_lettering : Lettering smallPython where
  lower := ⟨fun _ => rfl,fun _ => rfl,fun _ => rfl,fun _ _ _ => rfl,fun _ _ _ => Iff.rfl⟩
  upper := ⟨fun _ => rfl,fun _ => rfl,fun _ => rfl,fun _ _ _ => rfl,fun _ _ _ => Iff.rfl⟩
  namespaces _ _ := rfl
  digits := by decide

def hostInput (value : String) (bounds : 1 ≤ value.length ∧ value.length ≤ 255) : IdentifierInput where
  namespaceName := "hostname"
  value
  namespace_rules := hostname_rules
  value_bounds := bounds
  source_bounds := api_bounds
  confidence_bounds := certain

def hostSpec : NamespaceSpec where
  unique := false
  normaliser := .hostname

theorem host_found : ∃ item, normalise smallPython (hostInput "sw1.lab." (by decide)) = .ok item ∧
    (FindsItself smallPython hostSpec item ↔ Tame hostSpec "sw1.lab.") := by
  obtain ⟨item,ready⟩ := ok_of_isOk (show (normalise smallPython (hostInput "sw1.lab." (by decide))).isOk = true by decide +kernel)
  have stored : fits 255 item.valueNormalized = true := by
    have registered : identifierNamespaces.lookup (hostInput "sw1.lab." (by decide)).namespaceName = some hostSpec := rfl
    rw [((normalise_registered registered).mp ready).2]
    decide +kernel
  exact ⟨item,ready,finds_itself smallPython_lettering hostSpec (hostInput "sw1.lab." (by decide)) item rfl ready stored⟩

/-- A host name is stored as a text that its normaliser takes for another. -/
theorem host_renamed : Lettering smallPython ∧ identifierNamespaces.lookup "hostname" = some hostSpec ∧
    hostSpec.normaliser.apply smallPython "sw1 ." = "sw1 " ∧ hostSpec.normaliser.apply smallPython "sw1 " = "sw1" := by
  refine ⟨smallPython_lettering,rfl,?_,?_⟩ <;> decide +kernel

end Laboratory

end Acop.Cmdb
