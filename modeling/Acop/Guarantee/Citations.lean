import Acop.Knowledge.Evidence
import Acop.Fallible
import Mathlib.Data.List.Nodup

/-! Which answers cite only what was retrieved. -/
namespace Acop.Knowledge

section Rules

structure Statement.Grounded (valid : List Int) (statement : Statement) : Prop where
  retrieved : ∀ index ∈ statement.citationIndexes, index ∈ valid
  cites : statement.kind ∈ citationRequiredKinds → statement.citationIndexes ≠ []
  reports : statement.kind = .cmdbFact → statement.factId.isSome ∧ statement.Attested
  unattested : statement.kind = .sourced → ¬ statement.Attested

variable {ν : Type}

def KnowledgeAnswer.Cites (answer : KnowledgeAnswer ν) (index : Int) : Prop :=
  (∃ statement ∈ answer.statements, index ∈ statement.citationIndexes) ∨
    ∃ conflict ∈ answer.conflicts, index ∈ conflict.citationIndexes

/-- Every citation of the answer resolves, in what was retrieved. -/
structure Resolves (bundle : EvidenceBundle ν) (answer : KnowledgeAnswer ν) : Prop where
  one : ∀ index, answer.Cites index → ((answer.citations.filter fun citation => citation.index = index).length = 1)
  retrieved : ∀ citation ∈ answer.citations, citation ∈ bundle.citations
  required : ∀ statement ∈ answer.statements, statement.kind ∈ citationRequiredKinds → statement.citationIndexes ≠ []
  flagged : ∀ citation ∈ bundle.citations, answer.Cites citation.index → citation.injectionSuspected = true →
    answer.injectionFlagged = true

end Rules

variable {ν : Type} {valid : List Int}

theorem checkStatement_ok {position : Nat} {statement : Statement} :
    checkStatement valid position statement = .ok () ↔ statement.Grounded valid := by
  unfold checkStatement
  dsimp only
  constructor
  · intro passed
    obtain ⟨known,passed⟩ := ok_of_guard passed
    obtain ⟨cites,passed⟩ := ok_of_guard passed
    have retrieved : ∀ index ∈ statement.citationIndexes, index ∈ valid := by
      have none := List.filter_eq_nil_iff.mp (not_not.mp known)
      intro index member
      exact not_not.mp fun unknown => none index member (decide_eq_true unknown)
    have required : statement.kind ∈ citationRequiredKinds → statement.citationIndexes ≠ [] :=
      fun kind empty => cites ⟨kind,empty⟩
    split at passed
    · rename_i fact
      obtain ⟨named,passed⟩ := ok_of_guard passed
      obtain ⟨attested,_⟩ := ok_of_guard passed
      refine ⟨retrieved,required,fun _ => ⟨Option.isSome_iff_ne_none.mpr named,not_not.mp attested⟩,?_⟩
      intro sourced
      cases sourced.symm.trans fact
    · rename_i other
      obtain ⟨unattested,_⟩ := ok_of_guard passed
      exact ⟨retrieved,required,fun fact => absurd fact other,fun sourced attested => unattested ⟨sourced,attested⟩⟩
  · intro grounded
    have known : statement.citationIndexes.filter (fun index => index ∉ valid) = [] := by
      apply List.filter_eq_nil_iff.mpr
      intro index member unknown
      exact of_decide_eq_true unknown (grounded.retrieved index member)
    rw [if_neg (not_not.mpr known),if_neg fun uncited => grounded.cites uncited.1 uncited.2]
    split
    · rename_i fact
      obtain ⟨named,attested⟩ := grounded.reports fact
      rw [if_neg (Option.isSome_iff_ne_none.mp named),if_neg (not_not.mpr attested)]
    · rw [if_neg fun attested => grounded.unattested attested.1 attested.2]

theorem checkStatements_ok {position : Nat} {statements : List Statement} :
    checkStatements valid position statements = .ok () ↔ ∀ statement ∈ statements, statement.Grounded valid := by
  induction statements generalizing position with
  | nil => simp [checkStatements]
  | cons statement rest ih =>
    rw [checkStatements,List.forall_mem_cons,← @checkStatement_ok valid position]
    cases checkStatement valid position statement with
    | error refusal => simp
    | ok _ => simpa using ih

theorem indexes_distinct (result : RetrievalResult ν) (mentions : List (Uuid × List AssetReference)) :
    (EvidenceBundle.fromResult result mentions).indexes.Nodup := by
  have numbered : (EvidenceBundle.fromResult result mentions).indexes =
      (List.range' 0 result.results.length).map fun position : Nat => (position : Int) + 1 := by
    rw [← List.zipIdx_map_snd 0 result.results,List.map_map]
    unfold EvidenceBundle.indexes EvidenceBundle.fromResult
    rw [List.map_map]
    rfl
  rw [numbered]
  apply List.Nodup.map _ List.nodup_range'
  intro first second same
  simpa using same

section Answer

variable {bundle : EvidenceBundle ν} {statements : List Statement} {conflicts : List Conflict} {unresolved : List String}
  {answer : KnowledgeAnswer ν}

def Cited (statements : List Statement) (index : Int) : Prop := ∃ statement ∈ statements, index ∈ statement.citationIndexes

theorem buildAnswer_ok (built : buildAnswer bundle statements conflicts unresolved = .ok answer) :
    (∀ statement ∈ statements, statement.Grounded bundle.indexes) ∧ answer.statements = statements ∧
      answer.conflicts = conflicts ∧
      answer.citations = bundle.citations.filter
        (fun citation => citation.index ∈ statements.flatMap Statement.citationIndexes) ∧
      answer.injectionFlagged = answer.citations.any Citation.injectionSuspected := by
  obtain ⟨_,checked,done⟩ := bind_ok built
  cases done
  exact ⟨checkStatements_ok.mp checked,rfl,rfl,rfl,rfl⟩

theorem buildAnswer_grounded (grounded : ∀ statement ∈ statements, statement.Grounded bundle.indexes) :
    ∃ answer, buildAnswer bundle statements conflicts unresolved = .ok answer := by
  unfold buildAnswer
  rw [checkStatements_ok.mpr grounded,ok_bind]
  exact ⟨_,rfl⟩

theorem mem_cited {index : Int} : index ∈ statements.flatMap Statement.citationIndexes ↔ Cited statements index :=
  List.mem_flatMap

/-- Of the entries that the answer keeps, exactly one has an index that a statement cites, and none another. -/
theorem kept_once (distinct : bundle.indexes.Nodup) (grounded : ∀ statement ∈ statements, statement.Grounded bundle.indexes)
    (index : Int) : ((bundle.citations.filter fun citation =>
        citation.index ∈ statements.flatMap Statement.citationIndexes).filter fun citation =>
          citation.index = index).length = 1 ↔ Cited statements index := by
  rw [List.filter_filter]
  by_cases cited : Cited statements index
  · have same : (bundle.citations.filter fun citation => decide (citation.index = index) &&
        decide (citation.index ∈ statements.flatMap Statement.citationIndexes)) =
          bundle.citations.filter fun citation => citation.index = index := by
      apply List.filter_congr
      intro citation _
      by_cases equal : citation.index = index
      · simp [equal,mem_cited.mpr cited]
      · simp [equal]
    obtain ⟨statement,member,cites⟩ := cited
    have present : index ∈ bundle.indexes := (grounded statement member).retrieved index cites
    have counted : (bundle.citations.filter fun citation => citation.index = index).length = bundle.indexes.count index := by
      rw [EvidenceBundle.indexes,List.count,List.countP_map,← List.countP_eq_length_filter]
      exact List.countP_congr fun citation _ => by simp
    rw [same,counted,List.count_eq_one_of_mem distinct present]
    exact iff_of_true rfl ⟨statement,member,cites⟩
  · have none : (bundle.citations.filter fun citation => decide (citation.index = index) &&
        decide (citation.index ∈ statements.flatMap Statement.citationIndexes)) = [] := by
      apply List.filter_eq_nil_iff.mpr
      intro citation _ kept
      obtain ⟨equal,member⟩ := Bool.and_eq_true_iff.mp kept
      apply cited
      rw [← of_decide_eq_true equal]
      exact mem_cited.mp (of_decide_eq_true member)
    rw [none]
    exact iff_of_false (by simp) cited

/-- What a generator may hand back as it stands: each index of a reported conflict is one that a statement cites. -/
def Backed (statements : List Statement) (conflicts : List Conflict) : Prop :=
  ∀ conflict ∈ conflicts, ∀ index ∈ conflict.citationIndexes, Cited statements index

theorem resolves_iff (distinct : bundle.indexes.Nodup)
    (built : buildAnswer bundle statements conflicts unresolved = .ok answer) :
    Resolves bundle answer ↔ Backed statements conflicts := by
  obtain ⟨grounded,rfl,rfl,kept,flag⟩ := buildAnswer_ok built
  constructor
  · intro resolves conflict member index cites
    rw [← kept_once distinct grounded index,← kept]
    exact resolves.one index (.inr ⟨conflict,member,cites⟩)
  · intro backed
    have cited (index : Int) (cites : answer.Cites index) : Cited answer.statements index := by
      rcases cites with stated | ⟨conflict,member,cites⟩
      · exact stated
      · exact backed conflict member index cites
    constructor
    · intro index cites
      rw [kept]
      exact (kept_once distinct grounded index).mpr (cited index cites)
    · intro citation member
      rw [kept] at member
      exact (List.mem_filter.mp member).1
    · intro statement member
      exact (grounded statement member).cites
    · intro citation member cites suspected
      rw [flag,kept]
      apply List.any_eq_true.mpr
      exact ⟨citation,List.mem_filter.mpr ⟨member,decide_eq_true (mem_cited.mpr (cited _ cites))⟩,suspected⟩

theorem answered_iff (distinct : bundle.indexes.Nodup) :
    ((∀ answer, buildAnswer bundle statements conflicts unresolved = .ok answer → Resolves bundle answer) ∧
      ((∃ statement ∈ statements, ¬ statement.Grounded bundle.indexes) →
        ∃ refusal, buildAnswer bundle statements conflicts unresolved = .error refusal)) ↔
    ((∀ statement ∈ statements, statement.Grounded bundle.indexes) → Backed statements conflicts) := by
  constructor
  · intro sound grounded
    obtain ⟨answer,built⟩ := @buildAnswer_grounded _ _ _ conflicts unresolved grounded
    exact (resolves_iff distinct built).mp (sound.1 answer built)
  · intro backed
    constructor
    · intro answer built
      exact (resolves_iff distinct built).mpr (backed (buildAnswer_ok built).1)
    · rintro ⟨statement,member,loose⟩
      cases built : buildAnswer bundle statements conflicts unresolved with
      | error refusal => exact ⟨refusal,rfl⟩
      | ok answer => exact absurd ((buildAnswer_ok built).1 statement member) loose

end Answer

/-- Over every retrieval and every output of a generator: the answer's citations all resolve,
and an output that breaks a rule of a statement is refused whole, exactly if an output whose
statements break none has no conflict that cites what no statement cites. -/
theorem citations_resolve (result : RetrievalResult ν) (mentions : List (Uuid × List AssetReference))
    (statements : List Statement) (conflicts : List Conflict) (unresolved : List String) :
    ((∀ answer, buildAnswer (.fromResult result mentions) statements conflicts unresolved = .ok answer →
        Resolves (.fromResult result mentions) answer) ∧
      ((∃ statement ∈ statements, ¬ statement.Grounded (EvidenceBundle.fromResult result mentions).indexes) →
        ∃ refusal, buildAnswer (.fromResult result mentions) statements conflicts unresolved = .error refusal)) ↔
    ((∀ statement ∈ statements, statement.Grounded (EvidenceBundle.fromResult result mentions).indexes) →
      Backed statements conflicts) :=
  answered_iff (indexes_distinct result mentions)

def nothingFound : RetrievalResult Int where
  results := []
  diagnostics := {
    strategy := .ann
    embeddingSpaceId := 1
    requestedK := 10
    annCandidateLimit := 80
    annCandidatesReturned := 0
    annEligibleCount := 0
    eligiblePopulation := some 0
    eligiblePopulationCapped := false
    exactRowsRanked := none
    returnedCount := 0
    degraded := false
    degradationReason := none}
  policy := ⟨∅,∅⟩

/-- A conflict that cites the seventh block of no evidence at all is accepted. -/
theorem conflict_cites_nothing : ∃ answer,
    buildAnswer (.fromResult nothingFound []) [] [⟨.docVsDoc,"two runbooks disagree",[7],[]⟩] [] = .ok answer ∧
      answer.Cites 7 ∧ answer.citations.length = 0 ∧ ¬ Resolves (.fromResult nothingFound []) answer := by
  refine ⟨_,rfl,.inr ⟨_,.head _,.head _⟩,rfl,?_⟩
  intro resolves
  cases resolves.one 7 (.inr ⟨_,.head _,.head _⟩)

end Acop.Knowledge
