import Acop.Selection.Ordered
import Mathlib.Data.Finset.Card

/-! Pages of rows in the order of a key, each asked for from the key that the page before
ended at. The rows may be others at every page. -/
namespace Acop.Selection

variable {α κ : Type} [LinearOrder κ] (key : α → κ)

def beyond (after : Option κ) (rows : List α) : List α := rows.filter fun row => after.all (· < key row)

/-- A page, and where the next one begins. One row more than it holds shows whether there is one. -/
def page (limit : Nat) (after : Option κ) (rows : List α) : List α × Option κ :=
  let found := first key (limit + 1) (beyond key after rows)
  if limit < found.length then (found.take limit,(found.take limit).getLast?.map key) else (found,none)

section Page

variable {key} {limit : Nat} {after next : Option κ} {rows shown : List α} {row : α}

theorem mem_beyond : row ∈ beyond key after rows ↔ row ∈ rows ∧ ∀ k ∈ after, k < key row := by
  simp only [beyond,List.mem_filter,Option.all_eq_true,decide_eq_true_eq,Option.mem_def]

/-- What a page is of the rows that it was read from. -/
structure PageOf (key : α → κ) (after : Option κ) (rows shown : List α) (next : Option κ) : Prop where
  sorted : shown.Pairwise fun first second => key first ≤ key second
  taken : shown.Subperm (beyond key after rows)
  final : next = none → ∀ row ∈ beyond key after rows, row ∈ shown
  ended : ∀ k ∈ next, (∃ row ∈ shown, key row = k) ∧ ∀ row ∈ shown, key row ≤ k
  passed : ∀ k ∈ next, ∀ row ∈ beyond key after rows, key row ≤ k → ∃ other ∈ shown, key other = key row

theorem first_sorted (key : α → κ) (count : Nat) (rows : List α) :
    (first key count rows).Pairwise fun first second => key first ≤ key second :=
  (ordered_pairwise key rows).sublist (List.take_sublist count _)

theorem take_first (rows : List α) : (first key (limit + 1) rows).take limit = first key limit rows := by
  rw [first,first,List.take_take,Nat.min_eq_left (Nat.le_succ limit)]

theorem le_getLast {rows : List α} (sorted : rows.Pairwise fun first second => key first ≤ key second) {last : α}
    (ends : rows.getLast? = some last) : last ∈ rows ∧ ∀ row ∈ rows, key row ≤ key last := by
  obtain ⟨init,rfl⟩ := List.getLast?_eq_some_iff.mp ends
  refine ⟨List.mem_append_right _ (.head _),?_⟩
  intro row member
  rcases List.mem_append.mp member with earlier | same
  · exact (List.pairwise_append.mp sorted).2.2 row earlier last (.head _)
  · rw [List.mem_singleton.mp same]

theorem page_spec (positive : 0 < limit) :
    PageOf key after rows (page key limit after rows).1 (page key limit after rows).2 := by
  unfold page
  by_cases more : limit < (first key (limit + 1) (beyond key after rows)).length
  · simp only [more,if_true,take_first]
    have sorted := first_sorted key limit (beyond key after rows)
    refine ⟨sorted,first_subperm key limit _,?_,?_,?_⟩
    · intro none'
      rw [Option.map_eq_none_iff,List.getLast?_eq_none_iff] at none'
      rw [length_first] at more
      have length := length_first key limit (beyond key after rows)
      rw [none',List.length_nil] at length
      omega
    · intro k named
      obtain ⟨last,ends,rfl⟩ := Option.map_eq_some_iff.mp named
      exact ⟨⟨last,(le_getLast sorted ends).1,rfl⟩,(le_getLast sorted ends).2⟩
    · intro k named row member upTo
      obtain ⟨last,ends,rfl⟩ := Option.map_eq_some_iff.mp named
      have inPage := (le_getLast sorted ends).1
      by_cases shown : row ∈ first key limit (beyond key after rows)
      · exact ⟨row,shown,rfl⟩
      · exact ⟨last,inPage,le_antisymm (first_least key inPage member shown) upTo⟩
  · simp only [more,if_false]
    have all : (first key (limit + 1) (beyond key after rows)).Perm (beyond key after rows) := by
      apply first_all
      rw [length_first] at more
      omega
    refine ⟨first_sorted key _ _,first_subperm key _ _,?_,?_,?_⟩
    · intro _ row member
      exact all.mem_iff.mpr member
    · intro _ named
      cases named
    · intro _ named
      cases named

end Page

theorem countP_increasing {rows : List α} {row : α} (increasing : rows.Pairwise fun first second => key first < key second)
    (member : row ∈ rows) {which : α → Bool} (named : ∀ other, which other = true ↔ key other = key row) :
    rows.countP which = 1 := by
  induction rows with
  | nil => cases member
  | cons head rows ih =>
    obtain ⟨later,rest⟩ := List.pairwise_cons.mp increasing
    rcases List.mem_cons.mp member with rfl | member
    · have none' : rows.countP which = 0 := by
        apply List.countP_eq_zero.mpr
        intro other inRows chosen
        exact absurd ((named other).mp chosen) (later other inRows).ne'
      rw [List.countP_cons_of_pos ((named row).mpr rfl),none']
    · have passed : ¬ which head = true := fun chosen => absurd ((named head).mp chosen) (later row member).ne
      rw [List.countP_cons_of_neg passed]
      exact ih rest member

variable (rows : Nat → List α) (limits : Nat → Nat)

def request : Nat → Option (Option κ)
  | 0 => some none
  | n + 1 => (request n).bind fun after => (page key (limits n) after (rows n)).2.map some

def shown (n : Nat) : List α :=
  match request key rows limits n with
  | some after => (page key (limits n) after (rows n)).1
  | none => []

def seen (n : Nat) : List α := (List.range n).flatMap (shown key rows limits)

def EndsAt (n : Nat) : Prop :=
  ∃ after, request key rows limits n = some after ∧ (page key (limits n) after (rows n)).2 = none

section Walk

variable {key rows limits} {n : Nat} {after : Option κ} {wanted : κ} {row : α}

theorem asked_spec (positive : ∀ n, 0 < limits n) (_ : request key rows limits n = some after) :
    PageOf key after (rows n) (page key (limits n) after (rows n)).1 (page key (limits n) after (rows n)).2 :=
  page_spec (positive n)

theorem request_succ {next : Option κ} (asked : request key rows limits (n + 1) = some next) :
    ∃ after k, request key rows limits n = some after ∧ (page key (limits n) after (rows n)).2 = some k ∧ next = some k := by
  obtain ⟨after,asked',named⟩ := Option.bind_eq_some_iff.mp asked
  obtain ⟨k,ended,same⟩ := Option.map_eq_some_iff.mp named
  exact ⟨after,k,asked',ended,same.symm⟩

theorem shown_eq (asked : request key rows limits n = some after) :
    shown key rows limits n = (page key (limits n) after (rows n)).1 := by
  rw [shown,asked]

theorem seen_succ : seen key rows limits (n + 1) = seen key rows limits n ++ shown key rows limits n := by
  simp [seen,List.range_succ]

theorem mem_seen : row ∈ seen key rows limits n ↔ ∃ i < n, row ∈ shown key rows limits i := by
  simp [seen]

theorem shown_mem (positive : ∀ n, 0 < limits n) (member : row ∈ shown key rows limits n) : row ∈ rows n := by
  unfold shown at member
  split at member
  · exact (mem_beyond.mp ((page_spec (positive n)).taken.subset member)).1
  · cases member

theorem seen_behind (positive : ∀ n, 0 < limits n) (asked : request key rows limits n = some after)
    (member : row ∈ seen key rows limits n) : ∃ k ∈ after, key row ≤ k := by
  induction n generalizing after with
  | zero => cases member
  | succ n ih =>
    obtain ⟨before,k,asked',named,rfl⟩ := request_succ asked
    have spec := asked_spec positive asked'
    obtain ⟨⟨last,inPage,same⟩,greatest⟩ := spec.ended k named
    refine ⟨k,rfl,?_⟩
    rw [seen_succ,shown_eq asked'] at member
    rcases List.mem_append.mp member with earlier | here
    · obtain ⟨c,inAfter,le⟩ := ih asked' earlier
      have later := (mem_beyond.mp (spec.taken.subset inPage)).2 c inAfter
      rw [same] at later
      exact le.trans later.le
    · exact greatest row here

theorem seen_increasing (positive : ∀ n, 0 < limits n) (distinct : ∀ n, ((rows n).map key).Nodup) :
    (seen key rows limits n).Pairwise fun first second => key first < key second := by
  induction n with
  | zero => exact .nil
  | succ n ih =>
    rw [seen_succ,List.pairwise_append]
    refine ⟨ih,?_,?_⟩
    · unfold shown
      split
      · rename_i after asked
        have spec := asked_spec positive asked
        have apart : ((page key (limits n) after (rows n)).1.map key).Nodup := by
          obtain ⟨chosen,same,sub⟩ := spec.taken.trans (List.filter_sublist).subperm
          exact (same.map key).nodup_iff.mp ((distinct n).sublist (sub.map key))
        have pairs := spec.sorted.and (List.pairwise_map.mp apart)
        exact pairs.imp fun both => lt_of_le_of_ne both.1 both.2
      · exact .nil
    · intro first earlier second here
      unfold shown at here
      split at here
      · rename_i after asked
        obtain ⟨k,inAfter,le⟩ := seen_behind positive asked earlier
        have later := (mem_beyond.mp ((page_spec (positive n)).taken.subset here)).2 k inAfter
        exact lt_of_le_of_lt le later
      · cases here

theorem seen_passed (positive : ∀ n, 0 < limits n) (asked : request key rows limits n = some after)
    (present : ∀ i < n, ∃ row ∈ rows i, key row = wanted) (passed : ∃ k ∈ after, wanted ≤ k) :
    ∃ row ∈ seen key rows limits n, key row = wanted := by
  induction n generalizing after with
  | zero =>
    cases asked
    obtain ⟨_,absent,_⟩ := passed
    cases absent
  | succ n ih =>
    obtain ⟨before,k,asked',named,rfl⟩ := request_succ asked
    have spec := asked_spec positive asked'
    rw [seen_succ,shown_eq asked']
    by_cases already : ∃ c ∈ before, wanted ≤ c
    · obtain ⟨row,member,same⟩ := ih asked' (fun i below => present i (by omega)) already
      exact ⟨row,List.mem_append_left _ member,same⟩
    · push Not at already
      obtain ⟨row,inRows,rfl⟩ := present n (Nat.lt_succ_self n)
      obtain ⟨_,same,upTo⟩ := passed
      cases same
      obtain ⟨other,inPage,same⟩ := spec.passed k named row (mem_beyond.mpr ⟨inRows,already⟩) upTo
      exact ⟨other,List.mem_append_right _ inPage,same⟩

theorem seen_complete (positive : ∀ n, 0 < limits n) (ends : EndsAt key rows limits n)
    (present : ∀ i ≤ n, ∃ row ∈ rows i, key row = wanted) : ∃ row ∈ seen key rows limits (n + 1), key row = wanted := by
  obtain ⟨after,asked,final⟩ := ends
  rw [seen_succ,shown_eq asked]
  by_cases passed : ∃ k ∈ after, wanted ≤ k
  · obtain ⟨row,member,same⟩ := seen_passed positive asked (fun i below => present i below.le) passed
    exact ⟨row,List.mem_append_left _ member,same⟩
  · push Not at passed
    obtain ⟨row,inRows,rfl⟩ := present n le_rfl
    exact ⟨row,List.mem_append_right _ ((page_spec (positive n)).final final row (mem_beyond.mpr ⟨inRows,passed⟩)),rfl⟩

theorem le_card (positive : ∀ n, 0 < limits n) {keys : Finset κ} (asked : request key rows limits n = some after)
    (within : ∀ k ∈ after, ∀ i, ∀ row ∈ rows i, key row ≤ k → key row ∈ keys) :
    n ≤ (keys.filter fun name => ∃ k ∈ after, name ≤ k).card := by
  induction n generalizing after with
  | zero => exact Nat.zero_le _
  | succ n ih =>
    obtain ⟨before,k,asked',named,rfl⟩ := request_succ asked
    have spec := asked_spec positive asked'
    obtain ⟨⟨last,inPage,rfl⟩,_⟩ := spec.ended k named
    obtain ⟨inRows,later⟩ := mem_beyond.mp (spec.taken.subset inPage)
    have earlier := ih asked' fun c inBefore i row inRow le =>
      within _ rfl i row inRow (le.trans (later c inBefore).le)
    apply lt_of_le_of_lt earlier
    apply Finset.card_lt_card
    refine ⟨?_,?_⟩
    · intro name member
      obtain ⟨inKeys,c,inBefore,le⟩ := Finset.mem_filter.mp member
      exact Finset.mem_filter.mpr ⟨inKeys,_,rfl,le.trans (later c inBefore).le⟩
    · intro all
      have new : key last ∈ keys.filter fun name => ∃ k ∈ some (key last), name ≤ k :=
        Finset.mem_filter.mpr ⟨within _ rfl n last inRows le_rfl,_,rfl,le_rfl⟩
      obtain ⟨_,c,inBefore,le⟩ := Finset.mem_filter.mp (all new)
      exact absurd (later c inBefore) (not_lt_of_ge le)

theorem endsAt_of_request (ended : request key rows limits n = none) : ∃ m < n, EndsAt key rows limits m := by
  induction n with
  | zero => cases ended
  | succ n ih =>
    cases asked : request key rows limits n with
    | none =>
      obtain ⟨m,below,ends⟩ := ih asked
      exact ⟨m,by omega,ends⟩
    | some after =>
      rw [request,asked,Option.bind_some,Option.map_eq_none_iff] at ended
      exact ⟨n,Nat.lt_succ_self n,after,asked,ended⟩

theorem exists_endsAt (positive : ∀ n, 0 < limits n) {keys : Finset κ} (within : ∀ i, ∀ row ∈ rows i, key row ∈ keys) :
    ∃ n ≤ keys.card, EndsAt key rows limits n := by
  have ended : request key rows limits (keys.card + 1) = none := by
    cases asked : request key rows limits (keys.card + 1) with
    | none => rfl
    | some after =>
      have many := le_card positive asked fun _ _ i row member _ => within i row member
      have few := Finset.card_filter_le keys fun name => ∃ k ∈ after, name ≤ k
      omega
  obtain ⟨n,below,ends⟩ := endsAt_of_request ended
  exact ⟨n,by omega,ends⟩

theorem seen_reached (positive : ∀ n, 0 < limits n) {keys : Finset κ} (present : ∀ i, ∃ row ∈ rows i, key row = wanted)
    (within : ∀ i, ∀ row ∈ rows i, key row ≤ wanted → key row ∈ keys) :
    ∃ row ∈ seen key rows limits (keys.card + 1), key row = wanted := by
  cases asked : request key rows limits (keys.card + 1) with
  | none =>
    obtain ⟨m,below,ends⟩ := endsAt_of_request asked
    obtain ⟨row,member,same⟩ := seen_complete positive ends fun i _ => present i
    obtain ⟨i,lt,inPage⟩ := mem_seen.mp member
    exact ⟨row,mem_seen.mpr ⟨i,by omega,inPage⟩,same⟩
  | some after =>
    apply seen_passed positive asked fun i _ => present i
    by_contra ahead
    push Not at ahead
    have many := le_card positive asked fun k inAfter i row member le => within i row member (le.trans (ahead k inAfter).le)
    have few := Finset.card_filter_le keys fun name => ∃ k ∈ after, name ≤ k
    omega

end Walk

end Acop.Selection
