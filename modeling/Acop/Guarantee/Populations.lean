import Acop.Guarantee.Defaults

/-! Registered embedding spaces side by side. Two of them are told apart by their identity, and each has
a partition and two indexes of its own, as long as no key begins with the twenty-two characters that
another begins with and no identity without a digest is registered twice. -/
namespace Acop.Knowledge.Spaces
open Acop.Store Acop.Serial

section Names

def stem : List Char := "knowledge_embedding_d768_".toList

theorem stem_length : stem.length = 25 := by decide +kernel

theorem partition_chars (key : String) : (partitionRelation d768 key).toList = stem ++ key.toList := by
  have parent : parentRelation d768 ++ "_" = "knowledge_embedding_d768_" := by decide +kernel
  rw [partitionRelation,parent,String.toList_append]
  rfl

theorem ann_chars (key : String) :
    (annIndex (partitionRelation d768 key)).toList = "ix_".toList ++ (stem ++ key.toList.take 27) ++ "_ann".toList := by
  have taken : (stem ++ key.toList).take 52 = stem ++ key.toList.take 27 := by
    rw [List.take_append,stem_length,List.take_of_length_le (by rw [stem_length]; omega)]
  simp only [annIndex,slice,String.toList_append,partition_chars,taken,String.toList_ofList]

theorem eligible_chars (key : String) :
    (eligibleIndex (partitionRelation d768 key)).toList = "ix_".toList ++ (stem ++ key.toList.take 22) ++ "_eligible".toList := by
  have taken : (stem ++ key.toList).take 47 = stem ++ key.toList.take 22 := by
    rw [List.take_append,stem_length,List.take_of_length_le (by rw [stem_length]; omega)]
  simp only [eligibleIndex,slice,String.toList_append,partition_chars,taken,String.toList_ofList]

theorem identifier_eq {name : String} (short : name.toList.length ≤ 63) : identifier name = name := by
  rw [identifier,slice,List.take_of_length_le short,String.ofList_toList]

theorem identifier_ann (key : String) : identifier (annIndex (partitionRelation d768 key)) = annIndex (partitionRelation d768 key) := by
  apply identifier_eq
  have shorter := List.length_take_le 27 key.toList
  have outer : ("ix_".toList).length = 3 ∧ ("_ann".toList).length = 4 := by decide
  rw [ann_chars]
  simp only [List.length_append,stem_length]
  omega

theorem identifier_eligible (key : String) :
    identifier (eligibleIndex (partitionRelation d768 key)) = eligibleIndex (partitionRelation d768 key) := by
  apply identifier_eq
  have shorter := List.length_take_le 22 key.toList
  have outer : ("ix_".toList).length = 3 ∧ ("_eligible".toList).length = 9 := by decide
  rw [eligible_chars]
  simp only [List.length_append,stem_length]
  omega

theorem identifier_partition {key : String} (short : key.length ≤ 38) :
    identifier (partitionRelation d768 key) = partitionRelation d768 key := by
  apply identifier_eq
  rw [partition_chars,List.length_append,stem_length,String.length_toList]
  omega

variable {first second : String}

theorem partition_injective (same : partitionRelation d768 first = partitionRelation d768 second) : first = second := by
  have chars := congrArg String.toList same
  rw [partition_chars,partition_chars] at chars
  exact String.toList_injective (List.append_cancel_left chars)

theorem ann_begins (same : annIndex (partitionRelation d768 first) = annIndex (partitionRelation d768 second)) :
    first.toList.take 22 = second.toList.take 22 := by
  have chars := congrArg String.toList same
  rw [ann_chars,ann_chars] at chars
  have taken := List.append_cancel_left (List.append_cancel_left (List.append_cancel_right chars))
  have shorter := congrArg (List.take 22) taken
  rwa [List.take_take,List.take_take] at shorter

theorem eligible_begins (same : eligibleIndex (partitionRelation d768 first) = eligibleIndex (partitionRelation d768 second)) :
    first.toList.take 22 = second.toList.take 22 := by
  have chars := congrArg String.toList same
  rw [eligible_chars,eligible_chars] at chars
  exact List.append_cancel_left (List.append_cancel_left (List.append_cancel_right chars))

theorem ann_ne_eligible : annIndex (partitionRelation d768 first) ≠ eligibleIndex (partitionRelation d768 second) := by
  intro same
  have chars := congrArg (fun name : String => name.toList.getLast?) same
  simp only [ann_chars,eligible_chars] at chars
  rw [List.getLast?_append_of_ne_nil _ (by decide),List.getLast?_append_of_ne_nil _ (by decide)] at chars
  exact absurd chars (by decide)

theorem head_partition (key : String) : (partitionRelation d768 key).toList.head? = some 'k' := by
  rw [partition_chars]
  rfl

theorem head_ann (key : String) : (annIndex (partitionRelation d768 key)).toList.head? = some 'i' := by
  rw [ann_chars]
  rfl

theorem head_eligible (key : String) : (eligibleIndex (partitionRelation d768 key)).toList.head? = some 'i' := by
  rw [eligible_chars]
  rfl

end Names

section Distinct

/-- The names of a space's relations, as PostgreSQL keeps them. -/
def SpaceRow.names (row : SpaceRow) : List String :=
  let partition := Spaces.partitionRelation row.dimensions row.spaceKey
  [identifier partition,identifier (annIndex partition),identifier (eligibleIndex partition)]

/-- The space has a partition and both of its indexes, and these are on that partition. -/
structure Equipped (relations : List Relation) (row : SpaceRow) : Prop where
  partition : ⟨identifier (partitionRelation row.dimensions row.spaceKey),.partition row.id⟩ ∈ relations
  ann : ⟨identifier (annIndex (partitionRelation row.dimensions row.spaceKey)),
    .annIndex (identifier (partitionRelation row.dimensions row.spaceKey))⟩ ∈ relations
  eligible : ⟨identifier (eligibleIndex (partitionRelation row.dimensions row.spaceKey)),
    .eligibleIndex (identifier (partitionRelation row.dimensions row.spaceKey))⟩ ∈ relations

/-- Registered spaces differ in their identity and in the names of their relations, and each has its own. -/
structure Distinct (rows : List SpaceRow) (relations : List Relation) : Prop where
  told : rows.Pairwise fun first second => first.identity ≠ second.identity
  named : (rows.flatMap SpaceRow.names).Nodup
  equipped : ∀ row ∈ rows, Equipped relations row

/-- The invariant: no two keys begin alike, and what could take the name of a space's relation is one of a
registered space. -/
structure Orderly (rows : List SpaceRow) (relations : List Relation) : Prop where
  told : rows.Pairwise fun first second => first.identity ≠ second.identity
  begun : rows.Pairwise fun first second => first.spaceKey.toList.take 22 ≠ second.spaceKey.toList.take 22
  shaped : ∀ row ∈ rows, row.dimensions = d768 ∧ row.spaceKey.length ≤ 38
  equipped : ∀ row ∈ rows, Equipped relations row
  tables : ∀ relation ∈ relations, isPartition relation.kind →
    ∃ row ∈ rows, relation.name = partitionRelation d768 row.spaceKey
  indexes : ∀ relation ∈ relations, ("ix_".toList ++ stem) <+: relation.name.toList → ∃ row ∈ rows,
    relation.name = annIndex (partitionRelation d768 row.spaceKey) ∨
      relation.name = eligibleIndex (partitionRelation d768 row.spaceKey)

/-- A registration that keeps the spaces apart: where its identity is registered under another key it comes with a
digest, and its key begins with other characters than every other one. -/
structure Separate (rows : List SpaceRow) (registration : SpaceRegistration) : Prop where
  digested : ∀ row ∈ rows, row.spaceKey ≠ registration.spaceKey →
    row.identity = (newSpace row.id 0 registration).identity → registration.modelDigest.isSome
  begun : ∀ row ∈ rows, row.spaceKey ≠ registration.spaceKey →
    row.spaceKey.toList.take 22 ≠ registration.spaceKey.toList.take 22

instance (rows : List SpaceRow) (registration : SpaceRegistration) : Decidable (Separate rows registration) :=
  decidable_of_iff (_ ∧ _) ⟨fun both => Separate.mk both.1 both.2,fun separate => And.intro separate.digested separate.begun⟩

/-- What a call of `register` under a new key takes to succeed. -/
structure Admitted (registry : Registry) (id : Uuid) (registration : SpaceRegistration) : Prop where
  family : registration.dimensions = d768
  format : spaceKeyFormat registration.spaceKey
  fits : (newSpace id 0 registration).fits
  untaken : ∀ row ∈ registry.rows.rows, clashes (newSpace id 0 registration) row = false
  fresh : ∀ row ∈ registry.rows.rows, row.id ≠ id
  unnamed : ∀ relation ∈ registry.relations, relation.name ≠ partitionRelation d768 registration.spaceKey

variable {rows : List SpaceRow} {relations : List Relation}

theorem names_eq {row : SpaceRow} (family : row.dimensions = d768) (short : row.spaceKey.length ≤ 38) :
    row.names = [partitionRelation d768 row.spaceKey,annIndex (partitionRelation d768 row.spaceKey),
      eligibleIndex (partitionRelation d768 row.spaceKey)] := by
  simp only [SpaceRow.names,family,identifier_partition short,identifier_ann,identifier_eligible]

theorem partition_ne_index (key other : String) :
    partitionRelation d768 key ≠ annIndex (partitionRelation d768 other) ∧
      partitionRelation d768 key ≠ eligibleIndex (partitionRelation d768 other) := by
  constructor
  · intro same
    have heads := congrArg (fun name : String => name.toList.head?) same
    simp [head_partition,head_ann] at heads
  · intro same
    have heads := congrArg (fun name : String => name.toList.head?) same
    simp [head_partition,head_eligible] at heads

theorem names_disjoint {first second : SpaceRow} (family : first.dimensions = d768) (short : first.spaceKey.length ≤ 38)
    (family' : second.dimensions = d768) (short' : second.spaceKey.length ≤ 38)
    (begun : first.spaceKey.toList.take 22 ≠ second.spaceKey.toList.take 22) : List.Disjoint first.names second.names := by
  rw [names_eq family short,names_eq family' short']
  intro name inFirst inSecond
  simp only [List.mem_cons,List.not_mem_nil,or_false] at inFirst inSecond
  rcases inFirst with rfl | rfl | rfl <;> rcases inSecond with same | same | same
  · exact begun (by rw [partition_injective same])
  · exact (partition_ne_index _ _).1 same
  · exact (partition_ne_index _ _).2 same
  · exact (partition_ne_index _ _).1 same.symm
  · exact begun (ann_begins same)
  · exact ann_ne_eligible same
  · exact (partition_ne_index _ _).2 same.symm
  · exact ann_ne_eligible same.symm
  · exact begun (eligible_begins same)

theorem Orderly.distinct (orderly : Orderly rows relations) : Distinct rows relations where
  told := orderly.told
  named := by
    refine List.nodup_flatMap.mpr ⟨?_,?_⟩
    · intro row member
      obtain ⟨family,short⟩ := orderly.shaped row member
      rw [names_eq family short]
      simp only [List.nodup_cons,List.mem_cons,List.not_mem_nil,or_false,not_or,not_false_eq_true,List.nodup_nil,and_true]
      exact ⟨partition_ne_index _ _,ann_ne_eligible⟩
    · refine orderly.begun.imp_of_mem fun {first second} inFirst inSecond begun => ?_
      obtain ⟨family,short⟩ := orderly.shaped first inFirst
      obtain ⟨family',short'⟩ := orderly.shaped second inSecond
      exact names_disjoint family short family' short' begun
  equipped := orderly.equipped

theorem Orderly.map (orderly : Orderly rows relations) {change : SpaceRow → SpaceRow}
    (kept : ∀ row, (change row).identity = row.identity ∧ (change row).spaceKey = row.spaceKey ∧ (change row).id = row.id) :
    Orderly (rows.map change) relations := by
  have dimensions : ∀ row, (change row).dimensions = row.dimensions := fun row => congrArg Identity.dimensions (kept row).1
  constructor
  · refine List.pairwise_map.mpr (orderly.told.imp fun {first second} told => ?_)
    rwa [(kept first).1,(kept second).1]
  · refine List.pairwise_map.mpr (orderly.begun.imp fun {first second} begun => ?_)
    rwa [(kept first).2.1,(kept second).2.1]
  · intro row member
    obtain ⟨old,inOld,rfl⟩ := List.mem_map.mp member
    rw [dimensions,(kept old).2.1]
    exact orderly.shaped old inOld
  · intro row member
    obtain ⟨old,inOld,rfl⟩ := List.mem_map.mp member
    have same : partitionRelation (change old).dimensions (change old).spaceKey = partitionRelation old.dimensions old.spaceKey := by
      rw [dimensions,(kept old).2.1]
    obtain ⟨partition,ann,eligible⟩ := orderly.equipped old inOld
    refine ⟨?_,?_,?_⟩
    · rw [same,(kept old).2.2]
      exact partition
    · rw [same]
      exact ann
    · rw [same]
      exact eligible
  · intro relation member isTable
    obtain ⟨row,inRows,same⟩ := orderly.tables relation member isTable
    exact ⟨change row,List.mem_map_of_mem inRows,by rwa [(kept row).2.1]⟩
  · intro relation member begins
    obtain ⟨row,inRows,same⟩ := orderly.indexes relation member begins
    exact ⟨change row,List.mem_map_of_mem inRows,by rwa [(kept row).2.1]⟩

end Distinct

section Creation

variable {server : Server} {rows : List SpaceRow} {relations later : List Relation} {row : SpaceRow}

theorem named_iff {name : String} : named relations name ↔ ∃ relation ∈ relations, relation.name = name := by
  simp [named]

theorem createIndex_ok {name table : String} {kind : RelationKind} (done : createIndex relations name table kind = .ok later) :
    (∃ relation ∈ relations, relation.name = table ∧ isPartition relation.kind) ∧
      ((named relations name ∧ later = relations) ∨ (¬ named relations name ∧ later = relations ++ [⟨name,kind⟩])) := by
  unfold createIndex at done
  obtain ⟨isTable,done⟩ := ok_of_guard done
  refine ⟨by simpa using isTable,?_⟩
  split at done
  · exact .inl ⟨‹_›,(Except.ok.inj done).symm⟩
  · exact .inr ⟨‹_›,(Except.ok.inj done).symm⟩

theorem createIndex_returns {name table : String} {kind : RelationKind}
    (isTable : ∃ relation ∈ relations, relation.name = table ∧ isPartition relation.kind) :
    ∃ later, createIndex relations name table kind = .ok later ∧ ∀ relation ∈ relations, relation ∈ later := by
  unfold createIndex
  rw [if_neg (by simpa using isTable)]
  split
  · exact ⟨relations,rfl,fun _ member => member⟩
  · exact ⟨_,rfl,fun _ member => List.mem_append_left _ member⟩

/-- The relations of a space, with the indexes that PostgreSQL makes itself. -/
def created (server : Server) (relations : List Relation) (row : SpaceRow) : List Relation :=
  let partition := Spaces.partitionRelation d768 row.spaceKey
  ⟨partition,.partition row.id⟩ ::
    (server.attached partition (relations.map (·.name))).map (fun name => ⟨name,.other⟩) ++
    [⟨annIndex partition,.annIndex partition⟩,⟨eligibleIndex partition,.eligibleIndex partition⟩]

theorem head_attached {key name : String} {taken : List String} (among : name ∈ server.attached (partitionRelation d768 key) taken) :
    name.toList.head? = some 'k' := by
  have nonempty : partitionRelation d768 key ≠ "" := by
    intro empty
    have head := head_partition key
    rw [empty] at head
    cases head
  rw [server.attached_named _ _ nonempty name among]
  exact head_partition key

theorem mem_created {relation : Relation} : relation ∈ created server relations row ↔
    relation = ⟨partitionRelation d768 row.spaceKey,.partition row.id⟩ ∨
    (∃ name ∈ server.attached (partitionRelation d768 row.spaceKey) (relations.map (·.name)), relation = ⟨name,.other⟩) ∨
    relation = ⟨annIndex (partitionRelation d768 row.spaceKey),.annIndex (partitionRelation d768 row.spaceKey)⟩ ∨
    relation = ⟨eligibleIndex (partitionRelation d768 row.spaceKey),.eligibleIndex (partitionRelation d768 row.spaceKey)⟩ := by
  simp only [created,List.mem_append,List.mem_cons,List.mem_map,List.not_mem_nil,or_false,or_assoc,eq_comm]

theorem index_unnamed (orderly : Orderly rows relations) {key : String}
    (begun : ∀ row ∈ rows, row.spaceKey.toList.take 22 ≠ key.toList.take 22) {relation : Relation} (member : relation ∈ relations) :
    relation.name ≠ annIndex (partitionRelation d768 key) ∧ relation.name ≠ eligibleIndex (partitionRelation d768 key) := by
  constructor
  · intro same
    have begins : ("ix_".toList ++ stem) <+: relation.name.toList := by
      rw [same,ann_chars]
      exact ⟨key.toList.take 27 ++ "_ann".toList,by simp⟩
    obtain ⟨row,inRows,taken | taken⟩ := orderly.indexes relation member begins
    · exact begun row inRows (ann_begins (taken.symm.trans same))
    · exact ann_ne_eligible (same.symm.trans taken)
  · intro same
    have begins : ("ix_".toList ++ stem) <+: relation.name.toList := by
      rw [same,eligible_chars]
      exact ⟨key.toList.take 22 ++ "_eligible".toList,by simp⟩
    obtain ⟨row,inRows,taken | taken⟩ := orderly.indexes relation member begins
    · exact ann_ne_eligible (taken.symm.trans same)
    · exact begun row inRows (eligible_begins (taken.symm.trans same))

theorem partition_unnamed (orderly : Orderly rows relations) (family : row.dimensions = d768) (short : row.spaceKey.length ≤ 38)
    (keyed : ∀ old ∈ rows, old.spaceKey ≠ row.spaceKey) (done : createPartitionRelations server relations row = .ok later) :
    ∀ relation ∈ relations, relation.name ≠ partitionRelation d768 row.spaceKey := by
  intro relation member same
  unfold createPartitionRelations at done
  simp only [family,identifier_partition short] at done
  obtain ⟨ann,first,_⟩ := bind_ok done
  have taken : named relations (partitionRelation d768 row.spaceKey) := named_iff.mpr ⟨relation,member,same⟩
  rw [createPartition,if_pos taken] at first
  obtain ⟨⟨table,inTables,named',isTable⟩,_⟩ := createIndex_ok first
  obtain ⟨old,inRows,of⟩ := orderly.tables table inTables isTable
  exact keyed old inRows (partition_injective (of.symm.trans named'))

theorem created_ok (orderly : Orderly rows relations) (family : row.dimensions = d768) (short : row.spaceKey.length ≤ 38)
    (keyed : ∀ old ∈ rows, old.spaceKey ≠ row.spaceKey)
    (begun : ∀ old ∈ rows, old.spaceKey.toList.take 22 ≠ row.spaceKey.toList.take 22)
    (done : createPartitionRelations server relations row = .ok later) : later = relations ++ created server relations row := by
  have free := partition_unnamed orderly family short keyed done
  unfold createPartitionRelations at done
  simp only [family,identifier_partition short,identifier_ann,identifier_eligible] at done
  obtain ⟨ann,first,second⟩ := bind_ok done
  rw [createPartition,if_neg fun taken => by obtain ⟨relation,member,same⟩ := named_iff.mp taken; exact free relation member same]
    at first
  have others : ∀ name, name.toList.head? = some 'i' → (∀ relation ∈ relations, relation.name ≠ name) →
      ∀ relation ∈ relations ++ ⟨partitionRelation d768 row.spaceKey,.partition row.id⟩ ::
        (server.attached (partitionRelation d768 row.spaceKey) (relations.map (·.name))).map (fun name => ⟨name,.other⟩),
        relation.name ≠ name := by
    intro name head unnamed relation member
    rcases List.mem_append.mp member with old | new
    · exact unnamed relation old
    rcases List.mem_cons.mp new with rfl | attached
    · intro same
      rw [← same,head_partition] at head
      cases head
    · obtain ⟨given,among,rfl⟩ := List.mem_map.mp attached
      intro same
      rw [← same,head_attached among] at head
      cases head
  have annFree := others _ (head_ann row.spaceKey) fun relation member => (index_unnamed orderly begun member).1
  have eligibleFree := others _ (head_eligible row.spaceKey) fun relation member => (index_unnamed orderly begun member).2
  obtain ⟨_,⟨taken,_⟩ | ⟨_,rfl⟩⟩ := createIndex_ok first
  · obtain ⟨relation,member,same⟩ := named_iff.mp taken
    exact absurd same (annFree relation member)
  obtain ⟨_,⟨taken,_⟩ | ⟨_,rfl⟩⟩ := createIndex_ok second
  · obtain ⟨relation,member,same⟩ := named_iff.mp taken
    rcases List.mem_append.mp member with before | last
    · exact absurd same (eligibleFree relation before)
    · rw [List.mem_singleton.mp last] at same
      exact absurd same ann_ne_eligible
  · simp [created]

theorem created_returns (family : row.dimensions = d768) (short : row.spaceKey.length ≤ 38)
    (unnamed : ∀ relation ∈ relations, relation.name ≠ partitionRelation d768 row.spaceKey) :
    ∃ later, createPartitionRelations server relations row = .ok later := by
  unfold createPartitionRelations
  simp only [family,identifier_partition short]
  have free : ¬ named relations (partitionRelation d768 row.spaceKey) := by
    intro taken
    obtain ⟨relation,member,same⟩ := named_iff.mp taken
    exact unnamed relation member same
  rw [createPartition,if_neg free]
  generalize made : relations ++ ⟨partitionRelation d768 row.spaceKey,.partition row.id⟩ ::
    (server.attached (partitionRelation d768 row.spaceKey) (relations.map (·.name))).map (fun name => ⟨name,.other⟩) = base
  have isTable : ∃ relation ∈ base, relation.name = partitionRelation d768 row.spaceKey ∧ isPartition relation.kind := by
    rw [← made]
    exact ⟨⟨_,.partition row.id⟩,List.mem_append_right _ List.mem_cons_self,rfl,rfl⟩
  have ann : ∃ ann, createIndex base (identifier (annIndex (partitionRelation d768 row.spaceKey))) (partitionRelation d768 row.spaceKey)
      (.annIndex (partitionRelation d768 row.spaceKey)) = .ok ann ∧ ∀ relation ∈ base, relation ∈ ann := createIndex_returns isTable
  obtain ⟨ann,first,kept⟩ := ann
  rw [first,ok_bind]
  obtain ⟨relation,member,both⟩ := isTable
  obtain ⟨later,second,_⟩ := createIndex_returns ⟨relation,kept relation member,both⟩
  exact ⟨later,second⟩

end Creation

section Steps

variable {server : Server} {registry later : Registry} {session : Nat} {id : Uuid} {now : Time} {registration : SpaceRegistration}

def Registry.Orderly (registry : Registry) : Prop := Spaces.Orderly registry.rows.rows registry.relations

def Registry.Distinct (registry : Registry) : Prop := Spaces.Distinct registry.rows.rows registry.relations

theorem guard_ok (done : guardRegistration registration = .ok ()) :
    spaceKeyPattern registration.spaceKey ∧ registration.dimensions = d768 := by
  unfold guardRegistration at done
  obtain ⟨pattern,done⟩ := ok_of_guard done
  obtain ⟨_,done⟩ := ok_of_guard done
  obtain ⟨family,_⟩ := ok_of_guard done
  exact ⟨by simpa using pattern,by simpa using family⟩

theorem short_of_fits (row : SpaceRow) (family : row.dimensions = d768)
    (stored : row.partitionRelation = partitionRelation row.dimensions row.spaceKey) (fits : row.fits) : row.spaceKey.length ≤ 38 := by
  simp only [SpaceRow.fits,Acop.fits,Bool.and_eq_true,decide_eq_true_eq] at fits
  have length : row.partitionRelation.length ≤ 63 := fits.1.1.2.1
  rw [stored,family,← String.length_toList,partition_chars,List.length_append,stem_length,String.length_toList] at length
  omega

/-- The step lemma: a registration that keeps the spaces apart leaves them so. -/
theorem orderly_insert (orderly : registry.Orderly) (separate : Separate registry.rows.rows registration)
    {rows : Table SpaceRow.key} {relations : List Relation} (family : registration.dimensions = d768)
    (inserted : insertSpace registry.rows (newSpace id now registration) = .ok rows)
    (created : createPartitionRelations server registry.relations (newSpace id now registration) = .ok relations) :
    Orderly rows.rows relations := by
  obtain ⟨fits,_,keyed,untaken,added⟩ := insertSpace_ok inserted
  have short : registration.spaceKey.length ≤ 38 := short_of_fits (newSpace id now registration) family rfl fits
  have begun : ∀ old ∈ registry.rows.rows, old.spaceKey.toList.take 22 ≠ registration.spaceKey.toList.take 22 :=
    fun old member => separate.begun old member (keyed old member)
  have made := created_ok orderly family short keyed begun created
  have places : rows.rows = registry.rows.rows ++ [newSpace id now registration] := (Table.insert_eq_some added).2
  rw [places,made]
  constructor
  · refine List.pairwise_append.mpr ⟨orderly.told,List.pairwise_singleton _ _,?_⟩
    intro old member new single same
    rw [List.mem_singleton.mp single] at same
    have digested := separate.digested old member (keyed old member) same
    have told := untaken old member
    simp only [clashes,same,decide_true,Bool.true_and] at told
    exact absurd told (by simp [newSpace,digested])
  · refine List.pairwise_append.mpr ⟨orderly.begun,List.pairwise_singleton _ _,?_⟩
    intro old member new single
    rw [List.mem_singleton.mp single]
    exact begun old member
  · intro row member
    rcases List.mem_append.mp member with old | new
    · exact orderly.shaped row old
    · rw [List.mem_singleton.mp new]
      exact ⟨family,short⟩
  · intro row member
    rcases List.mem_append.mp member with old | new
    · obtain ⟨partition,ann,eligible⟩ := orderly.equipped row old
      exact ⟨List.mem_append_left _ partition,List.mem_append_left _ ann,List.mem_append_left _ eligible⟩
    · rw [List.mem_singleton.mp new]
      have family' : (newSpace id now registration).dimensions = d768 := family
      have short' : (newSpace id now registration).spaceKey.length ≤ 38 := short
      constructor <;> rw [family',identifier_partition short'] <;> refine List.mem_append_right _ ?_
      · exact List.mem_cons_self
      · rw [identifier_ann]
        exact List.mem_append_right _ (List.mem_cons_self)
      · rw [identifier_eligible]
        exact List.mem_append_right _ (List.mem_cons_of_mem _ List.mem_cons_self)
  · intro relation member isTable
    rcases List.mem_append.mp member with old | new
    · obtain ⟨row,inRows,same⟩ := orderly.tables relation old isTable
      exact ⟨row,List.mem_append_left _ inRows,same⟩
    · refine ⟨newSpace id now registration,List.mem_append_right _ List.mem_cons_self,?_⟩
      rcases mem_created.mp new with rfl | ⟨name,_,rfl⟩ | rfl | rfl
      · rfl
      all_goals cases isTable
  · intro relation member begins
    rcases List.mem_append.mp member with old | new
    · obtain ⟨row,inRows,same⟩ := orderly.indexes relation old begins
      exact ⟨row,List.mem_append_left _ inRows,same⟩
    · have head : relation.name.toList.head? = some 'i' := by
        obtain ⟨rest,same⟩ := begins
        rw [← same]
        rfl
      refine ⟨newSpace id now registration,List.mem_append_right _ List.mem_cons_self,?_⟩
      rcases mem_created.mp new with rfl | ⟨name,among,rfl⟩ | rfl | rfl
      · rw [head_partition] at head
        cases head
      · rw [head_attached among] at head
        cases head
      · exact .inl rfl
      · exact .inr rfl

theorem orderly_revise (orderly : registry.Orderly) {which : SpaceRow → Bool} {revision : Revision SpaceRow.key}
    (kept : ∀ row, (revision.change row).identity = row.identity ∧ (revision.change row).spaceKey = row.spaceKey) :
    Orderly (registry.rows.revise which revision).rows registry.relations := by
  rw [Table.rows_revise]
  refine Orderly.map orderly fun row => ?_
  split
  · exact ⟨(kept row).1,(kept row).2,revision.keeps row⟩
  · exact ⟨rfl,rfl,rfl⟩

theorem orderly_setDefault (orderly : registry.Orderly) {spaceId : Uuid}
    (done : setDefault registry session spaceId = .ok later) : later.Orderly := by
  obtain ⟨held,_,rfl⟩ := setDefault_ok done
  have cleared : ({registry with rows := registry.rows.revise (·.isDefault) (marking false)} : Registry).Orderly :=
    orderly_revise orderly fun _ => ⟨rfl,rfl⟩
  cases held with
  | true => exact cleared
  | false => exact orderly_revise cleared fun _ => ⟨rfl,rfl⟩

/-- The registrations of a run keep the spaces apart. -/
def Call.Separate (registry : Registry) : Call → Prop
  | .register _ _ _ registration => Spaces.Separate registry.rows.rows registration
  | _ => True

instance (registry : Registry) (call : Call) : Decidable (call.Separate registry) := by
  unfold Call.Separate
  split <;> infer_instance

theorem orderly_attempt {call : Call} (orderly : registry.Orderly) (separate : call.Separate registry)
    (done : attempt server registry call = .ok later) : later.Orderly := by
  cases call with
  | register session id now registration =>
    obtain ⟨rows,relations,guarded,inserted,created,outcome⟩ := register_ok done
    have made : (hold {registry with rows,relations} session id false).Orderly :=
      orderly_insert orderly separate (guard_ok guarded).2 inserted created
    rcases outcome with rfl | marked
    · exact made
    · exact orderly_setDefault made marked
  | setDefault session spaceId => exact orderly_setDefault orderly done
  | markPrefixesVerified session spaceId subject now =>
    obtain ⟨held,_,rfl⟩ := markPrefixesVerified_ok done
    exact orderly_revise orderly fun _ => ⟨rfl,rfl⟩
  | load session spaceId =>
    obtain ⟨held,_,done⟩ := bind_ok done
    cases done
    exact orderly
  | forget session spaceId =>
    cases done
    exact orderly

theorem orderly_after {start : Registry} (orderly : start.Orderly) {calls : List Call}
    (separate : Along (next server) (fun registry call => call.Separate registry) start calls) :
    (after server start calls).Orderly := by
  refine run_preserves (fun registry call separate orderly => ?_) separate orderly
  unfold next
  split
  · exact orderly_attempt orderly separate ‹_›
  · exact orderly

/-- Under a key that no space has, a call succeeds exactly when its row is admitted and no relation has its
partition's name. -/
theorem register_iff (orderly : registry.Orderly) (pattern : spaceKeyPattern registration.spaceKey)
    (unregistered : ∀ row ∈ registry.rows.rows, row.spaceKey ≠ registration.spaceKey) :
    (∃ later, register server registry session id now registration = .ok later) ↔ Admitted registry id registration := by
  constructor
  · rintro ⟨later,done⟩
    obtain ⟨rows,relations,guarded,inserted,created,_⟩ := register_ok done
    obtain ⟨fits,format,_,untaken,added⟩ := insertSpace_ok inserted
    have family := (guard_ok guarded).2
    have short : registration.spaceKey.length ≤ 38 := short_of_fits (newSpace id now registration) family rfl fits
    exact ⟨family,format,fits,untaken,(Table.insert_eq_some added).1,
      partition_unnamed orderly family short unregistered created⟩
  · intro admitted
    obtain ⟨family,format,fits,untaken,fresh,unnamed⟩ := admitted
    have short : registration.spaceKey.length ≤ 38 := short_of_fits (newSpace id now registration) family rfl fits
    have guarded : guardRegistration registration = .ok () := by
      have within : 1 ≤ d768 ∧ d768 ≤ maxIndexableDimensions := by decide
      simp [guardRegistration,pattern,within,family]
    have keyed : ¬ registry.rows.rows.any (·.spaceKey = registration.spaceKey) := by simpa using unregistered
    have added : ∃ rows, registry.rows.insert (newSpace id now registration) = some rows := by
      have fresh' : SpaceRow.key (newSpace id now registration) ∉ registry.rows.rows.map SpaceRow.key := by
        intro taken
        obtain ⟨row,member,same⟩ := List.mem_map.mp taken
        exact fresh row member same
      exact ⟨_,dif_pos fresh'⟩
    obtain ⟨rows,added⟩ := added
    have inserted : insertSpace registry.rows (newSpace id now registration) = .ok rows := by
      have fits' : (newSpace id now registration).fits := fits
      have format' : spaceKeyFormat (newSpace id now registration).spaceKey := format
      have keyed' : ¬ registry.rows.rows.any (·.spaceKey = (newSpace id now registration).spaceKey) := keyed
      have untaken' : ¬ registry.rows.rows.any (clashes (newSpace id now registration)) := by
        have told : ∀ row ∈ registry.rows.rows, clashes (newSpace id now registration) row = false := untaken
        simpa using told
      unfold insertSpace
      rw [if_neg (not_not_intro fits'),if_neg (not_not_intro format'),if_neg keyed',if_neg untaken',added]
    have made : ∃ relations, createPartitionRelations server registry.relations (newSpace id now registration) = .ok relations :=
      created_returns family short unnamed
    obtain ⟨relations,made⟩ := made
    unfold register
    rw [guarded,ok_bind,if_neg keyed]
    dsimp only
    rw [inserted,ok_bind,made,ok_bind]
    split
    · have got : require (hold {registry with rows,relations} session id false) session id = .ok false := by
        simp [require,get,hold,sessions_setView]
      exact ⟨_,by rw [setDefault,got]; rfl⟩
    · exact ⟨_,rfl⟩

/-- In every run whose registrations keep the spaces apart, registered spaces differ in their identity and in the names of their
relations, each has its own, and under a key that no space has a call succeeds exactly when its row is admitted. -/
theorem spaces_distinct {start : Registry} (orderly : start.Orderly) {calls : List Call}
    (separate : Along (next server) (fun registry call => call.Separate registry) start calls) :
    (after server start calls).Distinct ∧ ∀ session id now registration, spaceKeyPattern registration.spaceKey →
      (∀ row ∈ (after server start calls).rows.rows, row.spaceKey ≠ registration.spaceKey) →
        ((∃ later, register server (after server start calls) session id now registration = .ok later) ↔
          Admitted (after server start calls) id registration) := by
  have reached := orderly_after orderly separate
  exact ⟨reached.distinct,fun _ _ _ _ => register_iff reached⟩

end Steps

section Laboratory

theorem migrated_orderly : migrated.Orderly where
  told := List.Pairwise.nil
  begun := List.Pairwise.nil
  shaped _ member := absurd member List.not_mem_nil
  equipped _ member := absurd member List.not_mem_nil
  tables := by
    intro relation member isTable
    rw [List.mem_singleton.mp member] at isTable
    cases isTable
  indexes := by
    intro relation member begins
    rw [List.mem_singleton.mp member] at begins
    exact absurd begins (by decide +kernel)

/-- Two spaces; the second once more under another key, which its digest refuses; and the first once more. -/
def several : List Call :=
  [.register 0 1 0 gemma,.register 0 2 0 reserve,.register 0 3 0 {reserve with spaceKey := "other"},.register 0 4 0 gemma]

theorem several_distinct : (after labServer migrated several).rows.rows.map (·.spaceKey) = ["gemma","nomic"] ∧
    (after labServer migrated several).Distinct := by
  have separate : Along (next labServer) (fun registry call => call.Separate registry) migrated several := by decide +kernel
  exact ⟨by decide +kernel,(spaces_distinct migrated_orderly separate).1⟩

def gemmaAgain : SpaceRegistration := {gemma with spaceKey := "gemma2",makeDefault := false}

def gemmaTwice : List Call := [.register 0 1 0 gemma,.register 0 2 0 gemmaAgain]

theorem gemmaTwice_alike : ¬ ((after labServer migrated gemmaTwice).rows.rows.map SpaceRow.identity).Nodup := by decide +kernel

/-- A second registration of one identity is taken for another population. -/
theorem identity_twice : ¬ ∀ (server : Server) (start : Registry) (calls : List Call), start.Orderly →
    (after server start calls).Distinct := by
  intro claimed
  have distinct : Distinct (after labServer migrated gemmaTwice).rows.rows (after labServer migrated gemmaTwice).relations :=
    claimed labServer migrated gemmaTwice migrated_orderly
  exact gemmaTwice_alike (List.pairwise_map.mpr distinct.told)

end Laboratory

end Acop.Knowledge.Spaces
