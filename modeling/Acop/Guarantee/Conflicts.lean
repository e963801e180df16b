import Acop.Cmdb.Conflicts
import Acop.Cmdb.Laboratory

/-! Conflict reporting against the equality that decides a re-assertion. -/
namespace Acop.Cmdb
open Acop.Selection

def Differ (facts : List AssetFact) : Prop :=
  ∃ first ∈ facts, ∃ second ∈ facts, first.id ≠ second.id ∧ ¬ valuesEqual first.value second.value

def Alike (writing : Writing) (facts : List AssetFact) : Prop :=
  ∀ first ∈ facts, ∀ second ∈ facts, FactService.summarise writing first = FactService.summarise writing second

/-- A report does not tell the texts apart: they are one, both are cut and begin alike, or the one is what
the other is cut to. -/
inductive Blurs : String → String → Prop
  | same {text : String} : Blurs text text
  | long {first second : String} (long : 120 < first.length) (long' : 120 < second.length)
    (begun : first.toList.take 117 = second.toList.take 117) : Blurs first second
  | cut {first second : String} (long : 120 < first.length)
    (rest : second.toList = first.toList.take 117 ++ "...".toList) : Blurs first second
  | cut' {first second : String} (long : 120 < second.length)
    (rest : first.toList = second.toList.take 117 ++ "...".toList) : Blurs first second

/-- Two values that differ, by type or by value, and print to texts that are not told apart. -/
def Confused (writing : Writing) (first second : FactValue) : Prop :=
  ¬ valuesEqual first second ∧ Blurs (first.str writing) (second.str writing)

/-- Two values that are equal and print to texts that are told apart. -/
def Doubled (writing : Writing) (first second : FactValue) : Prop :=
  valuesEqual first second ∧ ¬ Blurs (first.str writing) (second.str writing)

/-- Some claim among them prints to a text that is told apart from this value's. -/
def Stands (writing : Writing) (facts : List AssetFact) (value : FactValue) : Prop :=
  ∃ other ∈ facts, ¬ Blurs (value.str writing) (other.value.str writing)

namespace FactService

variable (writing : Writing) (tables : Tables) (assetId : Uuid)

def liveClaims (predicate : String) (factKind : FactKind) : List AssetFact :=
  tables.facts.rows.filter fun fact => fact.assetId = assetId && fact.validTo = none && fact.predicate = predicate &&
    fact.factKind = factKind

def votes (facts : List AssetFact) : List AssetFact := facts.filter fun fact => fact.statementClass ≠ .inference

def Unled (facts : List AssetFact) : Prop := (facts.filter fun fact => isAuthoritative fact.verificationStatus).length ≠ 1

/-- Every disagreement of values is reported, no other is, and unanimity is agreement of values. -/
structure ConflictsKnown : Prop where
  reported : ∀ predicate factKind, (∃ report ∈ conflicts writing tables assetId,
      report.predicate = predicate ∧ report.factKind = factKind) ↔ Differ (liveClaims tables assetId predicate factKind)
  unanimous : ∀ predicate factKind view, predicate ≠ "" → effective writing tables assetId predicate factKind = .ok view →
    view.basis = .unanimous → ¬ Differ (votes (liveClaims tables assetId predicate factKind))

/-- Where values are confused something else shows that the claims differ, and where one is doubled they do differ. -/
structure Legible : Prop where
  shown : ∀ predicate factKind, ∀ first ∈ liveClaims tables assetId predicate factKind,
    ∀ second ∈ liveClaims tables assetId predicate factKind, first.id ≠ second.id →
      Confused writing first.value second.value → Stands writing (liveClaims tables assetId predicate factKind) first.value
  meant : ∀ predicate factKind, ∀ first ∈ liveClaims tables assetId predicate factKind,
    ∀ second ∈ liveClaims tables assetId predicate factKind, Doubled writing first.value second.value →
      Differ (liveClaims tables assetId predicate factKind)
  voted : ∀ predicate factKind, predicate ≠ "" → Unled (liveClaims tables assetId predicate factKind) →
    ∀ first ∈ votes (liveClaims tables assetId predicate factKind),
    ∀ second ∈ votes (liveClaims tables assetId predicate factKind), first.id ≠ second.id →
      Confused writing first.value second.value →
        Stands writing (votes (liveClaims tables assetId predicate factKind)) first.value

variable {writing tables assetId}

theorem shorten_long {text : String} (long : 120 < text.length) : shorten text = String.ofList (text.toList.take 117) ++ "..." :=
  if_neg (not_le_of_gt long)

theorem shorten_long_toList {text : String} (long : 120 < text.length) :
    (shorten text).toList = text.toList.take 117 ++ "...".toList := by
  rw [shorten_long long,String.toList_append,String.toList_ofList]

theorem shorten_cut {first second : String} (long : 120 < first.length)
    (rest : second.toList = first.toList.take 117 ++ "...".toList) : shorten first = shorten second := by
  have taken : (first.toList.take 117).length = 117 := by
    rw [List.length_take,String.length_toList]
    omega
  have short : second.length ≤ 120 := by
    rw [← String.length_toList,rest,List.length_append,taken]
    decide
  apply String.toList_injective
  rw [shorten_long_toList long,shorten,if_pos short,rest]

theorem shorten_eq_iff {first second : String} : shorten first = shorten second ↔ Blurs first second := by
  constructor
  · intro same
    have chars := congrArg String.toList same
    rcases Nat.lt_or_ge 120 first.length with long | short <;> rcases Nat.lt_or_ge 120 second.length with long' | short'
    · rw [shorten_long_toList long,shorten_long_toList long'] at chars
      exact .long long long' (List.append_cancel_right chars)
    · rw [shorten_long_toList long,shorten,if_pos short'] at chars
      exact .cut long chars.symm
    · rw [shorten_long_toList long',shorten,if_pos short] at chars
      exact .cut' long' chars
    · rw [shorten,shorten,if_pos short,if_pos short'] at same
      subst same
      exact .same
  · intro blurs
    cases blurs with
    | same => rfl
    | long long long' begun => rw [shorten_long long,shorten_long long',begun]
    | cut long rest => exact shorten_cut long rest
    | cut' long rest => exact (shorten_cut long rest).symm

/-- Claims that differ print apart exactly where, if two of them are confused, another one stands out. -/
theorem shown_iff {facts : List AssetFact} : (Differ facts → ¬ Alike writing facts) ↔ ∀ first ∈ facts, ∀ second ∈ facts,
    first.id ≠ second.id → Confused writing first.value second.value → Stands writing facts first.value := by
  constructor
  · intro told first inFacts second inFacts' apart confused
    have unlike := told ⟨first,inFacts,second,inFacts',apart,confused.1⟩
    by_contra none
    unfold Stands at none
    push Not at none
    have same : ∀ other ∈ facts, summarise writing first = summarise writing other :=
      fun other member => shorten_eq_iff.mpr (none other member)
    exact unlike fun one inOne other inOther => (same one inOne).symm.trans (same other inOther)
  · intro stands ⟨first,inFacts,second,inFacts',apart,unequal⟩ alike
    have blurs := shorten_eq_iff.mp (alike first inFacts second inFacts')
    obtain ⟨other,member,told⟩ := stands first inFacts second inFacts' apart ⟨unequal,blurs⟩
    exact told (shorten_eq_iff.mp (alike first inFacts other member))

theorem meant_iff {facts : List AssetFact} (single : ∀ first ∈ facts, ∀ second ∈ facts, first.id = second.id → first = second) :
    (¬ Alike writing facts → Differ facts) ↔ ∀ first ∈ facts, ∀ second ∈ facts,
      Doubled writing first.value second.value → Differ facts := by
  constructor
  · intro differ first inFacts second inFacts' doubled
    exact differ fun alike => doubled.2 (shorten_eq_iff.mp (alike first inFacts second inFacts'))
  · intro doubled unlike
    unfold Alike at unlike
    push Not at unlike
    obtain ⟨first,inFacts,second,inFacts',apart⟩ := unlike
    by_cases equal : valuesEqual first.value second.value
    · exact doubled first inFacts second inFacts' ⟨equal,fun blurs => apart (shorten_eq_iff.mpr blurs)⟩
    · refine ⟨first,inFacts,second,inFacts',fun same => apart ?_,equal⟩
      rw [single first inFacts second inFacts' same]

theorem several_iff {facts : List AssetFact} : 1 < (distinctSummaries writing facts).card ↔ ¬ Alike writing facts := by
  rw [Finset.one_lt_card]
  simp only [distinctSummaries,List.mem_toFinset,List.mem_map,Alike]
  constructor
  · intro ⟨_,⟨first,inFacts,same⟩,_,⟨second,inFacts',same'⟩,apart⟩ alike
    apply apart
    rw [← same,← same']
    exact alike first inFacts second inFacts'
  · intro unlike
    push Not at unlike
    obtain ⟨first,inFacts,second,inFacts',apart⟩ := unlike
    exact ⟨_,⟨first,inFacts,rfl⟩,_,⟨second,inFacts',rfl⟩,apart⟩

theorem card_eq_one_iff {facts : List AssetFact} : (distinctSummaries writing facts).card = 1 ↔
    facts ≠ [] ∧ Alike writing facts := by
  have some' : (distinctSummaries writing facts).card = 0 ↔ facts = [] := by
    simp [distinctSummaries,List.toFinset_eq_empty_iff]
  have several : 1 < (distinctSummaries writing facts).card ↔ ¬ Alike writing facts := several_iff
  constructor
  · intro one
    refine ⟨fun none => ?_,?_⟩
    · have zero := some'.mpr none
      omega
    · by_contra unlike
      have more := several.mpr unlike
      omega
  · intro ⟨nonempty,alike⟩
    have nonzero := mt some'.mp nonempty
    have single := mt several.mp (not_not.mpr alike)
    omega

theorem Alike.congr {facts facts' : List AssetFact} (same : facts.Perm facts') : Alike writing facts ↔ Alike writing facts' := by
  simp only [Alike,same.mem_iff]

theorem Differ.congr {facts facts' : List AssetFact} (same : facts.Perm facts') : Differ facts ↔ Differ facts' := by
  simp only [Differ,same.mem_iff]

theorem mem_liveClaims {predicate : String} {factKind : FactKind} {fact : AssetFact} :
    fact ∈ liveClaims tables assetId predicate factKind ↔ fact ∈ tables.facts.rows ∧ fact.assetId = assetId ∧
      fact.validTo = none ∧ fact.predicate = predicate ∧ fact.factKind = factKind := by
  simp only [liveClaims,List.mem_filter,Bool.and_eq_true,decide_eq_true_eq]
  tauto

theorem group_perm (predicate : String) (factKind : FactKind) :
    ((liveFacts tables assetId none none).filter fun fact => (fact.predicate,fact.factKind) = (predicate,factKind)).Perm
      (liveClaims tables assetId predicate factKind) := by
  apply ((ordered_perm _ _).filter _).trans
  rw [List.filter_filter]
  apply List.Perm.of_eq
  apply List.filter_congr
  intro fact _
  simp only [Prod.mk.injEq,Bool.decide_and,Option.all_none,Bool.and_true]
  ac_rfl

theorem liveFacts_perm {predicate : String} (factKind : FactKind) (named : predicate ≠ "") :
    (liveFacts tables assetId (some factKind) (some predicate)).Perm (liveClaims tables assetId predicate factKind) := by
  apply (ordered_perm _ _).trans
  apply List.Perm.of_eq
  apply List.filter_congr
  intro fact _
  simp only [Option.all_some,named,decide_false,Bool.false_or]
  ac_rfl

theorem reported_iff {predicate : String} {factKind : FactKind} : (∃ report ∈ conflicts writing tables assetId,
    report.predicate = predicate ∧ report.factKind = factKind) ↔ ¬ Alike writing (liveClaims tables assetId predicate factKind) := by
  rw [← Alike.congr (group_perm predicate factKind)]
  constructor
  · intro ⟨report,member,named,kinded⟩
    obtain ⟨⟨⟨name,kind⟩,facts⟩,inGroups,made⟩ := List.mem_filterMap.mp member
    have group := (mem_grouped.mp ((mem_ordered _).mp inGroups)).1
    by_cases several : 1 < (distinctSummaries writing facts).card
    · simp only [several,if_true,Option.some.injEq] at made
      subst made
      cases named
      cases kinded
      rw [← group]
      exact several_iff.mp several
    · simp only [several,if_false,reduceCtorEq] at made
  · intro unlike
    have several := several_iff.mpr unlike
    have nonempty : (liveFacts tables assetId none none).filter
        (fun fact => (fact.predicate,fact.factKind) = (predicate,factKind)) ≠ [] := by
      intro none
      rw [none] at unlike
      exact unlike fun _ absent => absurd absent List.not_mem_nil
    have inGroups := (mem_ordered fun group : (String × FactKind) × List AssetFact => toLex (group.1.1,group.1.2.value)).mpr
      (mem_grouped.mpr ⟨rfl,nonempty⟩)
    exact ⟨_,List.mem_filterMap.mpr ⟨_,inGroups,if_pos several⟩,rfl,rfl⟩

theorem unanimous_iff_read {predicate : String} {factKind : FactKind} {facts : List AssetFact}
    (read : liveFacts tables assetId (some factKind) (some predicate) = facts) :
    (∃ view, effective writing tables assetId predicate factKind = .ok view ∧ view.basis = .unanimous) ↔
      Unled facts ∧ (distinctSummaries writing (votes facts)).card = 1 := by
  rw [effective,read]
  by_cases none : facts.isEmpty
  · have empty : facts = [] := List.isEmpty_iff.mp none
    have nobody : (distinctSummaries writing (votes facts)).card ≠ 1 := by
      rw [empty]
      exact Nat.zero_ne_one
    simp only [if_pos none,reduceCtorEq,false_and,exists_false,nobody,and_false]
  · simp only [if_neg none]
    split
    · rename_i winner one
      have led : ¬ Unled facts := by
        rw [Unled,one]
        simp
      simp [led]
    · rename_i several
      have unled : Unled facts := by
        intro one
        obtain ⟨winner,single⟩ := List.length_eq_one_iff.mp one
        exact several winner single
      by_cases agreed : (distinctSummaries writing (facts.filter fun fact => fact.statementClass ≠ .inference)).card = 1
      · rw [if_pos agreed]
        exact ⟨fun _ => ⟨unled,agreed⟩,fun _ => ⟨_,rfl,rfl⟩⟩
      · rw [if_neg agreed]
        constructor
        · intro ⟨view,shown,basis⟩
          cases shown
          cases basis
        · intro ⟨_,one⟩
          exact absurd one agreed

theorem unanimous_iff {predicate : String} {factKind : FactKind} (named : predicate ≠ "") :
    (∃ view, effective writing tables assetId predicate factKind = .ok view ∧ view.basis = .unanimous) ↔
      Unled (liveClaims tables assetId predicate factKind) ∧ votes (liveClaims tables assetId predicate factKind) ≠ [] ∧
      Alike writing (votes (liveClaims tables assetId predicate factKind)) := by
  have perm : (liveFacts tables assetId (some factKind) (some predicate)).Perm (liveClaims tables assetId predicate factKind) :=
    liveFacts_perm factKind named
  have voters : (votes (liveFacts tables assetId (some factKind) (some predicate))).Perm
      (votes (liveClaims tables assetId predicate factKind)) := perm.filter _
  have led : Unled (liveFacts tables assetId (some factKind) (some predicate)) ↔
      Unled (liveClaims tables assetId predicate factKind) := by
    rw [Unled,Unled,(perm.filter _).length_eq]
  have voted : votes (liveFacts tables assetId (some factKind) (some predicate)) = [] ↔
      votes (liveClaims tables assetId predicate factKind) = [] := by
    rw [← List.length_eq_zero_iff,voters.length_eq,List.length_eq_zero_iff]
  rw [unanimous_iff_read rfl,card_eq_one_iff,led,ne_eq,voted,Alike.congr voters]

variable (writing tables assetId)

theorem live_single {predicate : String} {factKind : FactKind} :
    ∀ first ∈ liveClaims tables assetId predicate factKind, ∀ second ∈ liveClaims tables assetId predicate factKind,
      first.id = second.id → first = second := by
  intro first inFacts second inFacts' same
  exact List.inj_on_of_nodup_map tables.facts.distinct (List.mem_filter.mp inFacts).1 (List.mem_filter.mp inFacts').1 same

/-- Conflicts are known as they are exactly where no confused values hide that the claims differ and no doubled value
makes equal claims seem to. -/
theorem conflicts_known : ConflictsKnown writing tables assetId ↔ Legible writing tables assetId := by
  constructor
  · intro known
    refine ⟨?_,?_,?_⟩
    · intro predicate factKind
      exact shown_iff.mp fun differ => reported_iff.mp ((known.reported predicate factKind).mpr differ)
    · intro predicate factKind
      exact (meant_iff (live_single tables assetId)).mp fun unlike => (known.reported predicate factKind).mp (reported_iff.mpr unlike)
    · intro predicate factKind named unled
      refine shown_iff.mp fun differ alike => ?_
      have some_vote : votes (liveClaims tables assetId predicate factKind) ≠ [] := by
        obtain ⟨first,member,_⟩ := differ
        exact List.ne_nil_of_mem member
      obtain ⟨view,shown,basis⟩ := (unanimous_iff named).mpr ⟨unled,some_vote,alike⟩
      exact known.unanimous predicate factKind view named shown basis differ
  · intro legible
    constructor
    · intro predicate factKind
      rw [reported_iff]
      exact ⟨(meant_iff (live_single tables assetId)).mpr (legible.meant predicate factKind),
        shown_iff.mpr (legible.shown predicate factKind)⟩
    · intro predicate factKind view named shown basis differ
      obtain ⟨unled,_,alike⟩ := (unanimous_iff named).mp ⟨view,shown,basis⟩
      exact shown_iff.mpr (legible.voted predicate factKind named unled) differ alike

end FactService

def labWriting : Writing where
  decimal value := match value with
    | .finite value => toString value.num
    | .nonFinite value => value.text
  datetime := toString
  dict _ := "\x7b\x7d"

/-- A banner that ends after its hundred and twentieth character. -/
def banner (ending : Char) : String := String.ofList (List.replicate 120 'a' ++ [ending])

def labBanner (id : Uuid) (sourceId : String) (ending : Char) : AssetFact where
  id
  assetId := 1
  predicate := "ssh.banner"
  factKind := .observedState
  statementClass := .observation
  sourceType := .liveDiscovery
  sourceId
  confidence := 1
  verificationStatus := .discovered
  value := .text (banner ending)
  unit := none
  supersedesFactId := none
  validFrom := 0
  firstSeenAt := 0
  lastSeenAt := 0

def bannerTables : Tables := {labTables with facts := ⟨[labBanner 21 "probe:a" 'x',labBanner 22 "probe:b" 'y'],by decide⟩}

theorem banner_long (ending : Char) : 120 < (banner ending).length := by
  rw [banner,String.length_ofList,List.length_append,List.length_replicate]
  exact Nat.lt_succ_self 120

theorem banner_begun (first second : Char) : (banner first).toList.take 117 = (banner second).toList.take 117 := by
  rw [banner,banner,String.toList_ofList,String.toList_ofList]
  rfl

theorem banners_alike : Alike labWriting (FactService.liveClaims bannerTables 1 "ssh.banner" .observedState) := by
  have printed : ∀ fact ∈ bannerTables.facts.rows, FactService.summarise labWriting fact = shorten (banner 'x') := by
    intro fact member
    rcases List.mem_pair.mp member with rfl | rfl
    · rfl
    · exact FactService.shorten_eq_iff.mpr (.long (banner_long _) (banner_long _) (banner_begun _ _))
  intro first inFirst second inSecond
  rw [printed first (FactService.mem_liveClaims.mp inFirst).1,printed second (FactService.mem_liveClaims.mp inSecond).1]

theorem banners_differ : Differ (FactService.liveClaims bannerTables 1 "ssh.banner" .observedState) := by
  refine ⟨labBanner 21 "probe:a" 'x',?_,labBanner 22 "probe:b" 'y',?_,by decide,?_⟩
  · exact FactService.mem_liveClaims.mpr ⟨.head _,rfl,rfl,rfl,rfl⟩
  · exact FactService.mem_liveClaims.mpr ⟨.tail _ (.head _),rfl,rfl,rfl,rfl⟩
  · decide +kernel

/-- Two banners that differ at their end are no conflict. -/
theorem conflict_unknown : ¬ FactService.ConflictsKnown labWriting bannerTables 1 := by
  intro known
  have reported := (known.reported "ssh.banner" .observedState).mpr banners_differ
  exact FactService.reported_iff.mp reported banners_alike

end Acop.Cmdb
