import Acop.Identifiers
import Acop.Knowledge.Laboratory
import Acop.Selection.Position
import Mathlib.Data.Rat.Lemmas
import Mathlib.Tactic.Positivity

/-! Reciprocal rank fusion: one order over the union of two result lists, by the exact sum
of what each list gives to a chunk. -/
namespace Acop.Knowledge
open Acop.Selection

/-- The arithmetic of the scores without rounding. -/
structure ExactScores {φ : Type} (engine : Engine φ ℚ) : Prop where
  zero : engine.zero = 0
  add : ∀ first second, engine.add first second = first + second
  inverse : ∀ n, engine.inverse n = 1 / (n : ℚ)

def ids {ν : Type} (chunks : List (RetrievedChunk ν)) : List Uuid := chunks.map (·.chunkId)

/-- Distinct chunks that are ranked from one on. -/
structure Ranked {ν : Type} (chunks : List (RetrievedChunk ν)) : Prop where
  distinct : (ids chunks).Nodup
  ranks : ∀ (place : Nat) (chunk : RetrievedChunk ν), chunks[place]? = some chunk → chunk.rank = place + 1

section Scores

def share (rrfK : Int) (leg : List Uuid) (id : Uuid) : ℚ :=
  if id ∈ leg then 1 / ((rrfK : ℚ) + (leg.idxOf id + 1)) else 0

def fusedScore (rrfK : Int) (dense lexical : List Uuid) (id : Uuid) : ℚ := share rrfK dense id + share rrfK lexical id

def precedence (rrfK : Int) (dense lexical : List Uuid) (id : Uuid) : ℚᵒᵈ ×ₗ String :=
  toLex (OrderDual.toDual (fusedScore rrfK dense lexical id),id.text)

variable {rrfK : Int} {dense lexical leg leg' : List Uuid} {id other : Uuid}

theorem share_pos (positive : 1 ≤ rrfK) (member : id ∈ leg) : 0 < share rrfK leg id := by
  have k : (1 : ℚ) ≤ rrfK := by exact_mod_cast positive
  rw [share,if_pos member]
  positivity

theorem share_le (positive : 1 ≤ rrfK) (same : id ∈ leg ↔ other ∈ leg') (earlier : leg'.idxOf other ≤ leg.idxOf id) :
    share rrfK leg id ≤ share rrfK leg' other := by
  unfold share
  by_cases member : id ∈ leg
  · rw [if_pos member,if_pos (same.mp member)]
    have k : (1 : ℚ) ≤ rrfK := by exact_mod_cast positive
    have places : (leg'.idxOf other : ℚ) ≤ leg.idxOf id := by exact_mod_cast earlier
    exact one_div_le_one_div_of_le (by positivity) (by linarith)
  · rw [if_neg member,if_neg fun there => member (same.mpr there)]

theorem fusedScore_comm : fusedScore rrfK dense lexical id = fusedScore rrfK lexical dense id := add_comm _ _

theorem precedence_injective : Function.Injective (precedence rrfK dense lexical) := by
  intro first second same
  have pair := toLex.injective same
  exact Uuid.text_injective (Prod.ext_iff.mp pair).2

theorem precedence_lt : precedence rrfK dense lexical id < precedence rrfK dense lexical other ↔
    fusedScore rrfK dense lexical other < fusedScore rrfK dense lexical id ∨
      fusedScore rrfK dense lexical other = fusedScore rrfK dense lexical id ∧ id.text < other.text := by
  unfold precedence
  rw [Prod.Lex.toLex_lt_toLex]
  constructor
  · rintro (higher | ⟨same,before⟩)
    · exact .inl higher
    · exact .inr ⟨(OrderDual.toDual_inj.mp same).symm,before⟩
  · rintro (higher | ⟨same,before⟩)
    · exact .inl higher
    · exact .inr ⟨congrArg OrderDual.toDual same.symm,before⟩

theorem precedence_lt_of_rise {dense' lexical' : List Uuid}
    (rises : fusedScore rrfK dense lexical id ≤ fusedScore rrfK dense' lexical' id)
    (falls : fusedScore rrfK dense' lexical' other ≤ fusedScore rrfK dense lexical other)
    (before : precedence rrfK dense' lexical' other < precedence rrfK dense' lexical' id) :
    precedence rrfK dense lexical other < precedence rrfK dense lexical id := by
  rw [precedence_lt] at before ⊢
  rcases before with higher | ⟨same,text⟩
  · exact .inl (by linarith)
  · rcases (show fusedScore rrfK dense lexical id ≤ fusedScore rrfK dense lexical other by linarith).lt_or_eq with higher | equal
    · exact .inl higher
    · exact .inr ⟨equal,text⟩

end Scores

section Entries

variable {φ : Type} {engine : Engine φ ℚ} {rrfK : Int}

def Contribution.leg (entry : Contribution ℚ) (isDense : Bool) : Option (RetrievedChunk ℚ) :=
  if isDense then entry.dense else entry.lexical

/-- What the chunks of a leg give to an id, by the rank they bear. -/
def part (rrfK : Int) (chunks : List (RetrievedChunk ℚ)) (id : Uuid) : ℚ :=
  ((chunks.find? (·.chunkId = id)).map fun chunk => 1 / ((rrfK : ℚ) + chunk.rank)).getD 0

/-- An entry accounts for its id in the legs merged so far. -/
structure Accounts (rrfK : Int) (legs : Bool → List (RetrievedChunk ℚ)) (entry : Contribution ℚ) : Prop where
  found : ∀ isDense, entry.leg isDense = (legs isDense).find? (·.chunkId = entry.chunkId)
  score : entry.score = part rrfK (legs true) entry.chunkId + part rrfK (legs false) entry.chunkId

/-- The entries are those of the ids of both legs, each once. -/
structure Merged (rrfK : Int) (legs : Bool → List (RetrievedChunk ℚ)) (entries : List (Contribution ℚ)) : Prop where
  distinct : (entries.map (·.chunkId)).Nodup
  covers : ∀ id, id ∈ entries.map (·.chunkId) ↔ ∃ isDense, id ∈ ids (legs isDense)
  accounts : ∀ entry ∈ entries, Accounts rrfK legs entry

variable {legs : Bool → List (RetrievedChunk ℚ)} {entries : List (Contribution ℚ)} {chunk : RetrievedChunk ℚ} {isDense : Bool}

theorem find_none {chunks : List (RetrievedChunk ℚ)} {id : Uuid} (absent : id ∉ ids chunks) :
    chunks.find? (·.chunkId = id) = none := by
  refine List.find?_eq_none.mpr fun chunk member same => absent ?_
  rw [← of_decide_eq_true same]
  exact List.mem_map_of_mem member

def extended (legs : Bool → List (RetrievedChunk ℚ)) (isDense : Bool) (chunks : List (RetrievedChunk ℚ)) :
    Bool → List (RetrievedChunk ℚ) :=
  Function.update legs isDense (legs isDense ++ chunks)

theorem find_extended {id : Uuid} (other : id ≠ chunk.chunkId) (which : Bool) :
    (extended legs isDense [chunk] which).find? (·.chunkId = id) = (legs which).find? (·.chunkId = id) := by
  by_cases same : which = isDense
  · subst same
    simp [extended,List.find?_append,other.symm]
  · simp [extended,Function.update_of_ne same]

theorem merged_present (exact : ExactScores engine) (merged : Merged rrfK legs entries) :
    let present := if entries.any (·.chunkId = chunk.chunkId) then entries
      else entries ++ [⟨chunk.chunkId,engine.zero,none,none⟩]
    (present.map (·.chunkId)).Nodup ∧
      (∀ id, id ∈ present.map (·.chunkId) ↔ id = chunk.chunkId ∨ ∃ isDense, id ∈ ids (legs isDense)) ∧
      ∀ entry ∈ present, Accounts rrfK legs entry := by
  intro present
  by_cases known : chunk.chunkId ∈ entries.map (·.chunkId)
  · have same : present = entries := by
      obtain ⟨entry,member,equal⟩ := List.mem_map.mp known
      exact if_pos (List.any_eq_true.mpr ⟨entry,member,decide_eq_true equal⟩)
    rw [same]
    refine ⟨merged.distinct,fun id => ?_,merged.accounts⟩
    rw [← merged.covers id]
    exact ⟨.inr,fun either => either.elim (fun equal => equal ▸ known) fun there => there⟩
  · have grown : present = entries ++ [⟨chunk.chunkId,engine.zero,none,none⟩] := by
      refine if_neg fun held => known ?_
      obtain ⟨entry,member,equal⟩ := List.any_eq_true.mp held
      exact List.mem_map.mpr ⟨entry,member,of_decide_eq_true equal⟩
    have nowhere : ∀ which, chunk.chunkId ∉ ids (legs which) := fun which there =>
      known ((merged.covers _).mpr ⟨which,there⟩)
    rw [grown]
    refine ⟨?_,fun id => ?_,fun entry member => ?_⟩
    · rw [List.map_append,List.map_singleton]
      refine List.nodup_append.mpr ⟨merged.distinct,List.nodup_singleton _,fun id there other only same => known ?_⟩
      have equal : id = chunk.chunkId := same.trans (List.mem_singleton.mp only)
      rwa [← equal]
    · rw [List.map_append,List.mem_append,merged.covers,List.map_singleton,List.mem_singleton,or_comm]
    · rcases List.mem_append.mp member with old | new
      · exact merged.accounts entry old
      · cases List.mem_singleton.mp new
        constructor
        · intro which
          rw [find_none (nowhere which)]
          cases which <;> rfl
        · simp [part,find_none (nowhere true),find_none (nowhere false),exact.zero]

theorem mem_extended {which : Bool} {id : Uuid} : id ∈ ids (extended legs isDense [chunk] which) ↔
    id ∈ ids (legs which) ∨ which = isDense ∧ id = chunk.chunkId := by
  by_cases same : which = isDense
  · subst same
    simp [extended,ids]
  · simp [extended,same]

theorem find_extended_self (fresh : chunk.chunkId ∉ ids (legs isDense)) (which : Bool) :
    (extended legs isDense [chunk] which).find? (·.chunkId = chunk.chunkId) =
      if which = isDense then some chunk else (legs which).find? (·.chunkId = chunk.chunkId) := by
  by_cases same : which = isDense
  · subst same
    simp [extended,List.find?_append,find_none fresh]
  · simp [extended,same]

theorem contribute_merged (exact : ExactScores engine) (merged : Merged rrfK legs entries)
    (fresh : chunk.chunkId ∉ ids (legs isDense)) :
    Merged rrfK (extended legs isDense [chunk]) (contribute engine rrfK isDense entries chunk) := by
  obtain ⟨distinct,covers,accounts⟩ := merged_present exact merged
  have names : (contribute engine rrfK isDense entries chunk).map (·.chunkId) =
      (if entries.any (·.chunkId = chunk.chunkId) then entries
        else entries ++ [⟨chunk.chunkId,engine.zero,none,none⟩]).map (·.chunkId) := by
    unfold contribute
    dsimp only
    rw [List.map_map]
    refine List.map_congr_left fun entry _ => ?_
    dsimp only [Function.comp]
    split <;> rfl
  constructor
  · rwa [names]
  · intro id
    rw [names,covers]
    simp only [mem_extended]
    constructor
    · rintro (same | ⟨which,there⟩)
      · exact ⟨isDense,.inr ⟨rfl,same⟩⟩
      · exact ⟨which,.inl there⟩
    · rintro ⟨which,there | ⟨_,same⟩⟩
      · exact .inr ⟨which,there⟩
      · exact .inl same
  · intro entry member
    obtain ⟨old,there,rfl⟩ := List.mem_map.mp member
    obtain ⟨found,score⟩ := accounts old there
    by_cases same : old.chunkId = chunk.chunkId
    · rw [if_pos same]
      constructor
      · intro which
        change Contribution.leg _ which = (extended legs isDense [chunk] which).find? (·.chunkId = old.chunkId)
        rw [same,find_extended_self fresh]
        rw [same] at found
        have own := found which
        cases which <;> cases isDense <;> simp_all [Contribution.leg]
      · change engine.add old.score (engine.inverse (rrfK + chunk.rank)) =
          part rrfK _ old.chunkId + part rrfK _ old.chunkId
        rw [exact.add,exact.inverse,score,same,part,part,part,part,find_extended_self fresh,find_extended_self fresh]
        cases isDense
        · simp only [Bool.true_eq_false,if_false,if_true,find_none fresh,Option.map_none,Option.getD_none,Option.map_some,
            Option.getD_some,Int.cast_add]
          ring
        · simp only [Bool.false_eq_true,if_false,if_true,find_none fresh,Option.map_none,Option.getD_none,Option.map_some,
            Option.getD_some,Int.cast_add]
          ring
    · rw [if_neg same]
      constructor
      · intro which
        rw [find_extended same,found]
      · rw [score,part,part,part,part,find_extended same,find_extended same]

theorem extended_append (first second : List (RetrievedChunk ℚ)) :
    extended (extended legs isDense first) isDense second = extended legs isDense (first ++ second) := by
  simp [extended]

theorem merged_fold (exact : ExactScores engine) (chunks : List (RetrievedChunk ℚ)) (merged : Merged rrfK legs entries)
    (distinct : (ids (legs isDense ++ chunks)).Nodup) :
    Merged rrfK (extended legs isDense chunks) (chunks.foldl (contribute engine rrfK isDense) entries) := by
  induction chunks generalizing legs entries with
  | nil => simpa [extended] using merged
  | cons chunk chunks ih =>
    have fresh : chunk.chunkId ∉ ids (legs isDense) := by
      intro there
      rw [ids,List.map_append,List.map_cons] at distinct
      exact (List.nodup_append.mp distinct).2.2 _ there _ List.mem_cons_self rfl
    have step := ih (contribute_merged exact merged fresh) (by simpa [extended] using distinct)
    rwa [extended_append] at step

theorem fused_entry {entry : Contribution ℚ} (accounts : Accounts rrfK legs entry)
    (held : ∃ which, entry.chunkId ∈ ids (legs which)) : ∃ out, entry.fused = some out ∧ out.chunkId = entry.chunkId ∧
      out.fusedScore = some entry.score ∧ out.score = entry.score := by
  have named : ∀ which base, entry.leg which = some base → base.chunkId = entry.chunkId := by
    intro which base there
    rw [accounts.found] at there
    simpa using List.find?_some there
  have some : ∃ base, entry.dense.or entry.lexical = some base ∧ base.chunkId = entry.chunkId := by
    cases dense : entry.dense with
    | some base => exact ⟨base,rfl,named true base dense⟩
    | none =>
      cases lexical : entry.lexical with
      | some base => exact ⟨base,rfl,named false base lexical⟩
      | none =>
        obtain ⟨which,member⟩ := held
        obtain ⟨chunk,there,same⟩ := List.mem_map.mp member
        have absent : entry.leg which = none := by cases which <;> assumption
        rw [accounts.found,List.find?_eq_none] at absent
        exact absurd (decide_eq_true same) (absent chunk there)
  obtain ⟨base,carrier,same⟩ := some
  unfold Contribution.fused
  rw [carrier]
  exact ⟨_,rfl,same,rfl,rfl⟩

end Entries

section Fusion

variable {φ : Type} {engine : Engine φ ℚ} {rrfK : Int} {dense lexical : List (RetrievedChunk ℚ)}

theorem part_ranked {chunks : List (RetrievedChunk ℚ)} (ranked : Ranked chunks) (id : Uuid) :
    part rrfK chunks id = share rrfK (ids chunks) id := by
  unfold part share
  by_cases member : id ∈ ids chunks
  · rw [if_pos member]
    obtain ⟨place,short,there⟩ := List.getElem_of_mem member
    have bound : place < chunks.length := by simpa [ids] using short
    have same : chunks[place].chunkId = id := by simpa [ids] using there
    have position : (ids chunks).idxOf id = place := by
      rw [← there]
      exact ranked.distinct.idxOf_getElem place short
    have found : chunks.find? (·.chunkId = id) = some chunks[place] := by
      cases search : chunks.find? (·.chunkId = id) with
      | none => exact absurd (decide_eq_true same) (List.find?_eq_none.mp search _ (List.getElem_mem bound))
      | some chunk =>
        have named : chunk.chunkId = id := by simpa using List.find?_some search
        exact congrArg some (List.inj_on_of_nodup_map ranked.distinct (List.mem_of_find?_eq_some search)
          (List.getElem_mem bound) (named.trans same.symm))
    rw [found,position,Option.map_some,Option.getD_some,ranked.ranks place _ (List.getElem?_eq_getElem bound)]
    push_cast
    rfl
  · rw [if_neg member,find_none member]
    rfl

def entriesOf (engine : Engine φ ℚ) (rrfK : Int) (dense lexical : List (RetrievedChunk ℚ)) : List (Contribution ℚ) :=
  lexical.foldl (contribute engine rrfK false) (dense.foldl (contribute engine rrfK true) [])

theorem entriesOf_merged (exact : ExactScores engine) (first : (ids dense).Nodup) (second : (ids lexical).Nodup) :
    Merged rrfK (fun which => if which then dense else lexical) (entriesOf engine rrfK dense lexical) := by
  have none : Merged rrfK (fun _ => []) [] := by
    refine ⟨List.nodup_nil,fun _ => ?_,fun entry member => ?_⟩
    · simp [ids]
    · cases member
  have one : Merged rrfK (extended (fun _ => []) true dense) _ := merged_fold exact dense none first
  have behind : extended (fun _ => []) true dense false = [] := rfl
  have both : Merged rrfK (extended (extended (fun _ => []) true dense) false lexical) _ :=
    merged_fold exact lexical one (by rwa [behind])
  have legs : extended (extended (fun _ => []) true dense) false lexical = fun which => if which then dense else lexical := by
    funext which
    cases which <;> rfl
  rwa [legs] at both

/-- What the fusion is to return: the union in one order, whoever came from which leg, with
what follows for a chunk that moves up and for one that both legs hold. -/
structure Fuses (engine : Engine φ ℚ) (rrfK : Int) (dense lexical : List (RetrievedChunk ℚ)) : Prop where
  ranked : Ranked (fuse engine rrfK dense lexical)
  union : ∀ id, id ∈ ids (fuse engine rrfK dense lexical) ↔ id ∈ ids dense ∨ id ∈ ids lexical
  scored : ∀ chunk ∈ fuse engine rrfK dense lexical,
    chunk.fusedScore = some (fusedScore rrfK (ids dense) (ids lexical) chunk.chunkId)
  sorted : (ids (fuse engine rrfK dense lexical)).Pairwise fun first second =>
    fusedScore rrfK (ids dense) (ids lexical) second < fusedScore rrfK (ids dense) (ids lexical) first ∨
      fusedScore rrfK (ids dense) (ids lexical) second = fusedScore rrfK (ids dense) (ids lexical) first ∧
        first.text < second.text
  symmetric : ids (fuse engine rrfK lexical dense) = ids (fuse engine rrfK dense lexical)
  dense_up : ∀ dense' id, Ranked dense' → MovedUp id (ids dense) (ids dense') →
    (ids (fuse engine rrfK dense' lexical)).idxOf id ≤ (ids (fuse engine rrfK dense lexical)).idxOf id
  lexical_up : ∀ lexical' id, Ranked lexical' → MovedUp id (ids lexical) (ids lexical') →
    (ids (fuse engine rrfK dense lexical')).idxOf id ≤ (ids (fuse engine rrfK dense lexical)).idxOf id
  outranks : ∀ both single, both ∈ ids dense → both ∈ ids lexical →
    (single ∈ ids dense ∧ single ∉ ids lexical ∧ (ids lexical).idxOf both = (ids dense).idxOf single ∨
      single ∈ ids lexical ∧ single ∉ ids dense ∧ (ids dense).idxOf both = (ids lexical).idxOf single) →
    (ids (fuse engine rrfK dense lexical)).idxOf both < (ids (fuse engine rrfK dense lexical)).idxOf single

section Legs

variable (exact : ExactScores engine) (first : Ranked dense) (second : Ranked lexical)
include exact first second

theorem entry_out {entry : Contribution ℚ} (member : entry ∈ entriesOf engine rrfK dense lexical) :
    ∃ out, entry.fused = some out ∧ out.chunkId = entry.chunkId ∧
      out.fusedScore = some (fusedScore rrfK (ids dense) (ids lexical) entry.chunkId) := by
  have merged : Merged rrfK _ _ := entriesOf_merged exact first.distinct second.distinct
  have accounts := merged.accounts entry member
  obtain ⟨out,made,named,score,_⟩ := fused_entry accounts ((merged.covers _).mp (List.mem_map_of_mem member))
  refine ⟨out,made,named,score.trans (congrArg some ?_)⟩
  rw [accounts.score,fusedScore,← part_ranked first,← part_ranked second]
  rfl

theorem fused_score {chunk : RetrievedChunk ℚ}
    (member : chunk ∈ (entriesOf engine rrfK dense lexical).filterMap Contribution.fused) :
    chunk.fusedScore = some (fusedScore rrfK (ids dense) (ids lexical) chunk.chunkId) := by
  obtain ⟨entry,there,made⟩ := List.mem_filterMap.mp member
  obtain ⟨other,same,named,score⟩ := entry_out exact first second there
  cases made.symm.trans same
  rw [score,named]

omit exact first second in
theorem ids_ranked (chunks : List (RetrievedChunk ℚ)) :
    ids (chunks.mapIdx fun index chunk => {chunk with rank := index + 1}) = ids chunks := by
  apply List.ext_getElem
  · simp [ids]
  · intro place _ _
    simp [ids]

theorem fuse_ids : ids (fuse engine rrfK dense lexical) = ordered (precedence rrfK (ids dense) (ids lexical))
    ((entriesOf engine rrfK dense lexical).map (·.chunkId)) := by
  have names : ids ((entriesOf engine rrfK dense lexical).filterMap Contribution.fused) =
      (entriesOf engine rrfK dense lexical).map (·.chunkId) := by
    rw [ids,List.map_filterMap,← List.filterMap_eq_map]
    refine List.filterMap_congr fun entry member => ?_
    obtain ⟨chunk,made,named,_⟩ := entry_out exact first second member
    rw [made,Option.map_some,named]
    rfl
  have keyed : ∀ chunk ∈ (entriesOf engine rrfK dense lexical).filterMap Contribution.fused,
      toLex (OrderDual.toDual (chunk.fusedScore.getD engine.zero),chunk.chunkId.text) =
        precedence rrfK (ids dense) (ids lexical) chunk.chunkId := by
    intro chunk member
    rw [fused_score exact first second member]
    rfl
  change ids (List.mapIdx _ (ordered _ ((entriesOf engine rrfK dense lexical).filterMap Contribution.fused))) = _
  rw [ids_ranked,← names]
  refine List.map_insertionSort _ _ _ _ fun chunk there other present => ?_
  dsimp only
  rw [keyed chunk there,keyed other present]

theorem mem_entries {id : Uuid} : id ∈ (entriesOf engine rrfK dense lexical).map (·.chunkId) ↔ id ∈ ids dense ∨ id ∈ ids lexical := by
  rw [(entriesOf_merged exact first.distinct second.distinct).covers,Bool.exists_bool,or_comm]
  rfl

theorem mem_fuse {id : Uuid} : id ∈ ids (fuse engine rrfK dense lexical) ↔ id ∈ ids dense ∨ id ∈ ids lexical := by
  rw [fuse_ids exact first second,mem_ordered,mem_entries exact first second]

theorem entries_distinct : ((entriesOf engine rrfK dense lexical).map (·.chunkId)).Nodup :=
  (entriesOf_merged exact first.distinct second.distinct).distinct

theorem fuse_distinct : (ids (fuse engine rrfK dense lexical)).Nodup := by
  rw [fuse_ids exact first second]
  exact (ordered_perm _ _).nodup_iff.mpr (entries_distinct exact first second)

theorem fuse_ranked : Ranked (fuse engine rrfK dense lexical) where
  distinct := fuse_distinct exact first second
  ranks := by
    intro place chunk there
    obtain ⟨unranked,_,rfl⟩ := Option.map_eq_some_iff.mp (List.getElem?_mapIdx.symm.trans there)
    rfl

theorem fuse_scored {chunk : RetrievedChunk ℚ} (member : chunk ∈ fuse engine rrfK dense lexical) :
    chunk.fusedScore = some (fusedScore rrfK (ids dense) (ids lexical) chunk.chunkId) := by
  obtain ⟨place,short,rfl⟩ := List.mem_mapIdx.mp member
  have unranked := fused_score exact first second ((mem_ordered _).mp (List.getElem_mem short))
  exact unranked

theorem fuse_sorted : (ids (fuse engine rrfK dense lexical)).Pairwise fun id other =>
    precedence rrfK (ids dense) (ids lexical) id < precedence rrfK (ids dense) (ids lexical) other := by
  have distinct : (ids (fuse engine rrfK dense lexical)).Nodup := fuse_distinct exact first second
  rw [fuse_ids exact first second] at distinct ⊢
  refine ((ordered_pairwise _ _).and distinct).imp fun both => ?_
  exact lt_of_le_of_ne both.1 fun same => both.2 (precedence_injective same)

theorem fuse_comm : ids (fuse engine rrfK lexical dense) = ids (fuse engine rrfK dense lexical) := by
  have keys : precedence rrfK (ids lexical) (ids dense) = precedence rrfK (ids dense) (ids lexical) := by
    funext id
    rw [precedence,precedence,fusedScore_comm]
  rw [fuse_ids exact second first,fuse_ids exact first second,keys]
  refine ordered_congr _ ?_ fun _ _ _ _ same => precedence_injective same
  refine (List.perm_ext_iff_of_nodup (entries_distinct exact second first) (entries_distinct exact first second)).mpr fun id => ?_
  rw [mem_entries exact second first,mem_entries exact first second,or_comm]

theorem fuse_up (positive : 1 ≤ rrfK) {dense' : List (RetrievedChunk ℚ)} {id : Uuid} (first' : Ranked dense')
    (moved : MovedUp id (ids dense) (ids dense')) :
    (ids (fuse engine rrfK dense' lexical)).idxOf id ≤ (ids (fuse engine rrfK dense lexical)).idxOf id := by
  have same : ∀ other, other ∈ ids dense' ↔ other ∈ ids dense := fun _ => moved.perm.mem_iff
  have listed : id ∈ ids dense := by
    obtain ⟨front,passed,back,old,_⟩ := moved
    simp [old]
  rw [fuse_ids exact first' second,fuse_ids exact first second]
  refine idxOf_ordered_le ?_ (entries_distinct exact first second) (fun _ _ _ _ same => precedence_injective same)
    (fun _ _ _ _ same => precedence_injective same) ((mem_entries exact first second).mpr (.inl listed)) ?_
  · refine (List.perm_ext_iff_of_nodup (entries_distinct exact first' second) (entries_distinct exact first second)).mpr fun other => ?_
    rw [mem_entries exact first' second,mem_entries exact first second,same]
  · intro other _ before
    by_cases own : other = id
    · subst own
      exact absurd before (lt_irrefl _)
    apply precedence_lt_of_rise _ _ before
    · exact add_le_add_left (share_le positive (same id).symm (moved.idxOf_self first.distinct)) _
    · exact add_le_add_left (share_le positive (same other) (moved.idxOf_other own)) _

theorem fuse_outranks (positive : 1 ≤ rrfK) {both single : Uuid} (inDense : both ∈ ids dense) (inLexical : both ∈ ids lexical)
    (listed : single ∈ ids dense) (only : single ∉ ids lexical) (rank : (ids lexical).idxOf both = (ids dense).idxOf single) :
    (ids (fuse engine rrfK dense lexical)).idxOf both < (ids (fuse engine rrfK dense lexical)).idxOf single := by
  have own := share_pos positive inDense
  have equal : share rrfK (ids dense) single ≤ share rrfK (ids lexical) both :=
    share_le positive ⟨fun _ => inLexical,fun _ => listed⟩ rank.le
  have nothing : share rrfK (ids lexical) single = 0 := if_neg only
  rw [fuse_ids exact first second]
  apply idxOf_ordered_lt
  · exact (mem_entries exact first second).mpr (.inl inDense)
  · exact (mem_entries exact first second).mpr (.inl listed)
  · refine precedence_lt.mpr (.inl ?_)
    unfold fusedScore
    linarith

end Legs

/-- Rank fusion: for any two lists of distinct chunks that are ranked from one on, and any
constant from one on, in exact arithmetic. -/
theorem rank_fusion (exact : ExactScores engine) (positive : 1 ≤ rrfK) (first : Ranked dense) (second : Ranked lexical) :
    Fuses engine rrfK dense lexical where
  ranked := fuse_ranked exact first second
  union _ := mem_fuse exact first second
  scored _ := fuse_scored exact first second
  sorted := (fuse_sorted exact first second).imp precedence_lt.mp
  symmetric := fuse_comm exact first second
  dense_up _ _ first' moved := fuse_up exact first second positive first' moved
  lexical_up lexical' id second' moved := by
    rw [← fuse_comm exact first second',← fuse_comm exact first second]
    exact fuse_up exact second first positive second' moved
  outranks both single inDense inLexical alone := by
    rcases alone with ⟨listed,only,rank⟩ | ⟨listed,only,rank⟩
    · exact fuse_outranks exact first second positive inDense inLexical listed only rank
    · rw [← fuse_comm exact first second]
      exact fuse_outranks exact second first positive inLexical inDense listed only rank

end Fusion

section Laboratory

def hit (id : Uuid) (rank : Int) : RetrievedChunk ℚ where
  chunkId := id
  documentId := 3
  sourceId := 2
  versionId := 4
  ordinal := 0
  content := "vlan"
  headingPath := none
  sectionLabel := none
  flags := []
  tokenEstimate := 1
  sensitivity := .internalBand
  trustClass := .internalVerified
  sourceKind := .runbook
  sourceTitle := "runbook"
  documentTitle := "uplinks"
  externalRef := "runbook.md"
  distance := none
  score := 1
  rank := rank
  method := .vector
  embeddingSpaceId := 1
  vectorRank := some rank
  lexicalRank := none
  lexicalScore := none
  fusedScore := none

theorem hits_ranked {first second : Uuid} (distinct : first ≠ second) : Ranked [hit first 1,hit second 2] where
  distinct := by simpa [ids,hit] using distinct
  ranks place chunk there := by
    match place with
    | 0 => cases there; rfl
    | 1 => cases there; rfl
    | _ + 2 => cases there

theorem engine_exact : ExactScores Laboratory.engine := ⟨rfl,fun _ _ => rfl,fun _ => rfl⟩

end Laboratory

/-- Two lists that share one chunk. -/
theorem rank_fusion_overlap : Fuses Laboratory.engine 60 [hit 1 1,hit 2 2] [hit 2 1,hit 3 2] :=
  rank_fusion engine_exact (by decide) (hits_ranked (by decide)) (hits_ranked (by decide))

end Acop.Knowledge
