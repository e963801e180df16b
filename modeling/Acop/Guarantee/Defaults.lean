import Acop.Fallible
import Acop.Knowledge.Catalog
import Acop.Knowledge.Laboratory
import Acop.Knowledge.Spaces

/-! The default embedding space. Every flag is cleared in the table while the session keeps the value
that it holds, so that the flush marks the space exactly where the session takes it not to be marked. -/
namespace Acop.Knowledge.Spaces
open Acop.Store Acop.Serial

section Views

def Registry.Has (registry : Registry) (spaceId : Uuid) : Prop := ∃ row ∈ registry.rows.rows, row.id = spaceId

def Registry.Known (registry : Registry) : Prop :=
  ∀ session spaceId view, registry.sessions session spaceId = some view → registry.Has spaceId

/-- The space is there, and is the only default one. -/
structure OnlyDefault (registry : Registry) (spaceId : Uuid) : Prop where
  there : registry.Has spaceId
  marked : ∀ row ∈ registry.rows.rows, row.isDefault ↔ row.id = spaceId

variable {registry later : Registry} {session : Nat} {spaceId : Uuid} {held : Bool}

theorem require_ok (ok : require registry session spaceId = .ok held) : get registry session spaceId = some held := by
  unfold require at ok
  split at ok
  · cases ok
    assumption
  · cases ok

theorem has_of_get (known : registry.Known) (got : get registry session spaceId = some held) : registry.Has spaceId := by
  unfold get at got
  cases view : registry.sessions session spaceId with
  | some value => exact known session spaceId value view
  | none =>
    rw [view,Option.none_or] at got
    obtain ⟨row,found,_⟩ := Option.map_eq_some_iff.mp got
    obtain ⟨member,named⟩ := Table.find_eq_some.mp found
    exact ⟨row,member,named⟩

theorem sessions_setView (view : Option Bool) (other : Nat) (id : Uuid) :
    (setView registry session spaceId view).sessions other id =
      if other = session ∧ id = spaceId then view else registry.sessions other id := by
  simp only [setView,Function.update_apply]
  by_cases same : other = session
  · subst same
    simp [Function.update_apply]
  · simp [same]

theorem known_setView (known : registry.Known) {view : Option Bool} (there : view.isSome → registry.Has spaceId) :
    (setView registry session spaceId view).Known := by
  intro other id value held
  rw [sessions_setView] at held
  split at held
  · rename_i same
    rw [same.2]
    exact there (by simp [held])
  · exact known other id value held

theorem known_of_rows (known : registry.Known) (same : later.sessions = registry.sessions)
    (kept : ∀ id, registry.Has id → later.Has id) : later.Known := by
  intro session spaceId view held
  rw [same] at held
  exact kept spaceId (known session spaceId view held)

theorem known_hold (known : registry.Known) (there : registry.Has spaceId) : (hold registry session spaceId held).Known :=
  known_setView known fun _ => there

theorem has_revise {which : SpaceRow → Bool} {revision : Revision SpaceRow.key} (id : Uuid) (there : registry.Has id) :
    ∃ row ∈ (registry.rows.revise which revision).rows, row.id = id := by
  obtain ⟨row,member,rfl⟩ := there
  by_cases chosen : which row
  · exact ⟨_,Table.change_mem_revise member chosen,revision.keeps row⟩
  · exact ⟨row,Table.mem_revise_of_not member chosen,rfl⟩

end Views

section Steps

variable {server : Server} {registry later : Registry} {session : Nat} {spaceId : Uuid}

theorem setDefault_ok (done : setDefault registry session spaceId = .ok later) :
    ∃ held, get registry session spaceId = some held ∧
      later = hold {registry with rows := remarked registry spaceId held} session spaceId true := by
  obtain ⟨held,got,done⟩ := bind_ok done
  cases done
  exact ⟨held,require_ok got,rfl⟩

theorem markPrefixesVerified_ok {subject : String} {now : Time}
    (done : markPrefixesVerified registry session spaceId subject now = .ok later) :
    ∃ held, get registry session spaceId = some held ∧
      later = hold {registry with rows := registry.rows.update spaceId (verifying subject now)} session spaceId held := by
  obtain ⟨held,got,done⟩ := bind_ok done
  obtain ⟨_,done⟩ := ok_of_guard done
  cases done
  exact ⟨held,require_ok got,rfl⟩

theorem cleared_unmarked {row : SpaceRow} (member : row ∈ (registry.rows.revise (·.isDefault) (marking false)).rows) :
    row.isDefault = false := by
  obtain ⟨old,_,⟨_,rfl⟩ | ⟨unmarked,rfl⟩⟩ := Table.mem_revise.mp member
  · rfl
  · simpa using unmarked

theorem setDefault_exact (known : registry.Known) (done : setDefault registry session spaceId = .ok later) :
    OnlyDefault later spaceId ↔ get registry session spaceId = some false := by
  obtain ⟨held,got,rfl⟩ := setDefault_ok done
  have there := has_of_get known got
  rw [got]
  cases held with
  | true =>
    refine ⟨fun only => ?_,fun same => nomatch same⟩
    obtain ⟨row,member,named⟩ := only.there
    have marked := (only.marked row member).mpr named
    rw [cleared_unmarked member] at marked
    cases marked
  | false =>
    refine ⟨fun _ => rfl,fun _ => ⟨?_,?_⟩⟩
    · have cleared : ∃ row ∈ (registry.rows.revise (·.isDefault) (marking false)).rows, row.id = spaceId := has_revise spaceId there
      obtain ⟨row,member,named⟩ := cleared
      exact ⟨_,Table.mem_update.mpr ⟨row,member,.inl ⟨named,rfl⟩⟩,named⟩
    · intro row member
      obtain ⟨old,inOld,⟨named,rfl⟩ | ⟨other,rfl⟩⟩ := Table.mem_update.mp member
      · exact ⟨fun _ => named,fun _ => rfl⟩
      · rw [cleared_unmarked inOld]
        exact ⟨nofun,fun same => absurd same other⟩

theorem has_setDefault (done : setDefault registry session spaceId = .ok later) (id : Uuid) (there : registry.Has id) :
    later.Has id := by
  obtain ⟨held,got,rfl⟩ := setDefault_ok done
  have cleared : ∃ row ∈ (registry.rows.revise (·.isDefault) (marking false)).rows, row.id = id := has_revise id there
  cases held with
  | true => exact cleared
  | false =>
    obtain ⟨row,member,rfl⟩ := cleared
    by_cases chosen : row.id = spaceId
    · exact ⟨_,Table.mem_update.mpr ⟨row,member,.inl ⟨chosen,rfl⟩⟩,rfl⟩
    · exact ⟨row,Table.mem_update.mpr ⟨row,member,.inr ⟨chosen,rfl⟩⟩,rfl⟩

theorem known_setDefault (known : registry.Known) (done : setDefault registry session spaceId = .ok later) : later.Known := by
  have kept := has_setDefault done
  obtain ⟨held,got,rfl⟩ := setDefault_ok done
  have known' : ({registry with rows := remarked registry spaceId held} : Registry).Known := known_of_rows known rfl kept
  exact known_hold known' (kept spaceId (has_of_get known got))

theorem insertSpace_ok {rows later : Table SpaceRow.key} {row : SpaceRow} (done : insertSpace rows row = .ok later) :
    row.fits ∧ spaceKeyFormat row.spaceKey ∧ (∀ old ∈ rows.rows, old.spaceKey ≠ row.spaceKey) ∧
      (∀ old ∈ rows.rows, clashes row old = false) ∧ rows.insert row = some later := by
  unfold insertSpace at done
  obtain ⟨fits,done⟩ := ok_of_guard done
  obtain ⟨format,done⟩ := ok_of_guard done
  obtain ⟨keyed,done⟩ := ok_of_guard done
  obtain ⟨told,done⟩ := ok_of_guard done
  refine ⟨by simpa using fits,by simpa using format,by simpa using keyed,by simpa using told,?_⟩
  split at done
  · cases done
    assumption
  · cases done

theorem register_ok {id : Uuid} {now : Time} {registration : SpaceRegistration}
    (done : register server registry session id now registration = .ok later) :
    ∃ rows relations, guardRegistration registration = .ok () ∧
      insertSpace registry.rows (newSpace id now registration) = .ok rows ∧
      createPartitionRelations server registry.relations (newSpace id now registration) = .ok relations ∧
      (later = hold {registry with rows,relations} session id false ∨
        setDefault (hold {registry with rows,relations} session id false) session id = .ok later) := by
  obtain ⟨⟨⟩,guarded,done⟩ := bind_ok done
  obtain ⟨_,done⟩ := ok_of_guard done
  obtain ⟨rows,inserted,done⟩ := bind_ok done
  obtain ⟨relations,created,done⟩ := bind_ok done
  refine ⟨rows,relations,guarded,inserted,created,?_⟩
  split at done
  · exact .inr done
  · exact .inl (Except.ok.inj done).symm

theorem known_register {id : Uuid} {now : Time} {registration : SpaceRegistration} (known : registry.Known)
    (done : register server registry session id now registration = .ok later) : later.Known := by
  obtain ⟨rows,relations,_,inserted,_,outcome⟩ := register_ok done
  obtain ⟨_,_,_,_,added⟩ := insertSpace_ok inserted
  have kept : ∀ other, registry.Has other → ({registry with rows,relations} : Registry).Has other := by
    rintro other ⟨row,member,rfl⟩
    exact ⟨row,(Table.mem_insert added).mpr (.inl member),rfl⟩
  have there : ({registry with rows,relations} : Registry).Has id :=
    ⟨newSpace id now registration,(Table.mem_insert added).mpr (.inr rfl),rfl⟩
  have known' : ({registry with rows,relations} : Registry).Known := known_of_rows known rfl kept
  have holding : (hold {registry with rows,relations} session id false).Known := known_hold known' there
  rcases outcome with rfl | marked
  · exact holding
  · exact known_setDefault holding marked

theorem known_attempt {call : Call} (known : registry.Known) (done : attempt server registry call = .ok later) : later.Known := by
  cases call with
  | register session id now registration => exact known_register known done
  | setDefault session spaceId => exact known_setDefault known done
  | markPrefixesVerified session spaceId subject now =>
    obtain ⟨held,got,rfl⟩ := markPrefixesVerified_ok done
    have kept : ∀ id, registry.Has id →
        ({registry with rows := registry.rows.update spaceId (verifying subject now)} : Registry).Has id := by
      rintro id there
      exact has_revise id there
    exact known_hold (known_of_rows known rfl kept) (kept spaceId (has_of_get known got))
  | load session spaceId =>
    obtain ⟨held,got,done⟩ := bind_ok done
    cases done
    exact known_hold known (has_of_get known (require_ok got))
  | forget session spaceId =>
    cases done
    exact known_setView known nofun

theorem known_next {call : Call} (known : registry.Known) : (next server registry call).Known := by
  unfold next
  split
  · exact known_attempt known ‹_›
  · intro session spaceId view held
    by_cases same : session = call.session
    · simp [same] at held
    · exact known session spaceId view (by simpa [same] using held)

theorem known_after {start : Registry} (known : start.Known) (calls : List Call) : (after server start calls).Known :=
  run_preserves (fun _ _ _ known => known_next known) (along_of_forall (fun _ _ => trivial) start calls) known

/-- In every state that calls reach, setting a space as the default leaves it the only default one if and only
if the object that the session gets says that it is not. -/
theorem set_default_exact {start : Registry} (known : start.Known) (calls : List Call)
    (done : setDefault (after server start calls) session spaceId = .ok later) :
    OnlyDefault later spaceId ↔ get (after server start calls) session spaceId = some false :=
  setDefault_exact (known_after known calls) done

end Steps

section Catalogue

variable {φ : Type} {records : Records φ} {registry : Registry} {session : Nat} {spaceId : Uuid}

theorem keyed_space (row : SpaceRow) : EmbeddingSpace.id row.toEmbeddingSpace = SpaceRow.key row := rfl

/-- The spaces, without where their vectors are stored. -/
def Registry.spaces (registry : Registry) : Table EmbeddingSpace.id := registry.rows.view SpaceRow.toEmbeddingSpace keyed_space

/-- The session takes the flag to be what the table says. Its calls are then those of the ingestion store's catalogue,
which keeps no sessions. -/
def Registry.Current (registry : Registry) (session : Nat) (spaceId : Uuid) : Prop :=
  get registry session spaceId = (registry.rows.find spaceId).map (·.isDefault)

theorem current_of_fresh (fresh : registry.sessions session spaceId = none) : registry.Current session spaceId := by
  rw [Registry.Current,get,fresh,Option.none_or]

theorem spaces_remarked {row : SpaceRow} : ({registry with rows := remarked registry spaceId row.isDefault} : Registry).spaces =
    if row.isDefault then registry.spaces.revise (·.isDefault) (flagDefault false)
    else (registry.spaces.revise (·.isDefault) (flagDefault false)).update spaceId (flagDefault true) := by
  have marks : ∀ flag (space : SpaceRow), ((marking flag).change space).toEmbeddingSpace = (flagDefault flag).change space.toEmbeddingSpace :=
    fun _ _ => rfl
  unfold Registry.spaces remarked
  dsimp only
  split
  · exact view_revise _ _ _ (fun _ => rfl) (marks false)
  · exact (view_update _ _ _ _ (marks true)).trans (congrArg (Table.update · spaceId (flagDefault true))
      (view_revise _ keyed_space _ (fun _ => rfl) (marks false)))

theorem resolveSpace_catalogued (same : records.spaces = registry.spaces) : (resolveSpace records (some spaceId)).toOption =
    (registry.rows.find spaceId).map SpaceRow.toEmbeddingSpace := by
  have looked : records.spaces.find spaceId = (registry.rows.find spaceId).map SpaceRow.toEmbeddingSpace := by
    rw [same]
    exact find_view _ _ _ _
  unfold resolveSpace
  dsimp only
  rw [looked]
  cases registry.rows.find spaceId <;> rfl

theorem require_current (current : registry.Current session spaceId) : (require registry session spaceId).toOption =
    (registry.rows.find spaceId).map (·.isDefault) := by
  unfold require
  rw [current]
  cases registry.rows.find spaceId <;> rfl

theorem setDefault_catalogued (same : records.spaces = registry.spaces) (current : registry.Current session spaceId) :
    (Knowledge.setDefault records spaceId).toOption =
      (setDefault registry session spaceId).toOption.map fun later => {records with spaces := later.spaces} := by
  unfold Knowledge.setDefault setDefault
  rw [toOption_bind,toOption_bind,resolveSpace_catalogued same,require_current current]
  cases registry.rows.find spaceId with
  | none => rfl
  | some row =>
    have remarked := @spaces_remarked registry spaceId row
    rw [← same] at remarked
    exact congrArg (fun spaces => some {records with spaces}) remarked.symm

theorem markPrefixesVerified_catalogued (same : records.spaces = registry.spaces) (current : registry.Current session spaceId)
    (subject : String) (now : Time) :
    (Knowledge.markPrefixesVerified records spaceId subject now).toOption =
      (markPrefixesVerified registry session spaceId subject now).toOption.map fun later =>
        {records with spaces := later.spaces} := by
  have verifies : ∀ space : SpaceRow, ((verifying subject now).change space).toEmbeddingSpace =
      (Knowledge.verifying subject now).change space.toEmbeddingSpace := fun _ => rfl
  have verified : registry.spaces.update spaceId (Knowledge.verifying subject now) =
      (registry.rows.update spaceId (verifying subject now)).view SpaceRow.toEmbeddingSpace keyed_space :=
    (view_update _ _ _ _ verifies).symm
  have required := require_current current
  unfold Knowledge.markPrefixesVerified markPrefixesVerified
  rw [toOption_bind,resolveSpace_catalogued same,toOption_bind (require registry session spaceId),required]
  cases registry.rows.find spaceId with
  | none => rfl
  | some row =>
    by_cases short : Acop.fits 255 subject
    · simp only [Option.map_some,Option.bind_some,short,columns]
      rw [same,verified]
      rfl
    · simp only [Option.map_some,Option.bind_some,short,columns]
      rfl

end Catalogue

section Laboratory

def labServer : Server where
  attached partition _ := [slice 58 partition ++ "_pkey"]
  attached_named := by
    intro partition taken named name among
    rw [List.mem_singleton.mp among,String.toList_append,slice,String.toList_ofList]
    cases chars : partition.toList with
    | nil => exact absurd (String.toList_eq_nil_iff.mp chars) named
    | cons first rest => rfl

def migrated : Registry where
  rows := ⟨[],List.nodup_nil⟩
  relations := [⟨"knowledge_embedding_d768",.other⟩]
  sessions _ _ := none

def gemma : SpaceRegistration where
  spaceKey := "gemma"
  provider := "ollama"
  model := "embeddinggemma:latest"
  dimensions := 768
  makeDefault := true

theorem migrated_known : migrated.Known := nofun

def reserve : SpaceRegistration where
  spaceKey := "nomic"
  provider := "ollama"
  model := "nomic-embed-text:latest"
  dimensions := 768
  modelDigest := some "0a109f42"

def reserved : List Call := [.register 0 1 0 gemma,.register 0 2 0 reserve]

/-- The flag passes from one space to the other. -/
theorem reserve_set : (after labServer migrated reserved).rows.rows.map (·.isDefault) = [true,false] ∧
    ∃ later, setDefault (after labServer migrated reserved) 1 2 = .ok later ∧ OnlyDefault later 2 := by
  have set : ∃ later, setDefault (after labServer migrated reserved) 1 2 = .ok later := ok_of_isOk (by decide +kernel)
  obtain ⟨later,done⟩ := set
  exact ⟨by decide +kernel,later,done,(set_default_exact migrated_known reserved done).mpr (by decide +kernel)⟩

/-- Setting the default space as the default leaves none. -/
theorem default_unset : ¬ ∀ (server : Server) (start : Registry) (calls : List Call) (session : Nat) (spaceId : Uuid) (later : Registry),
    start.Known → setDefault (after server start calls) session spaceId = .ok later → OnlyDefault later spaceId := by
  intro claimed
  have set : ∃ later, setDefault (after labServer migrated [.register 0 1 0 gemma]) 1 1 = .ok later :=
    ok_of_isOk (by decide +kernel)
  obtain ⟨later,done⟩ := set
  have known : (after labServer migrated [.register 0 1 0 gemma]).Known := known_after migrated_known _
  have refused := (setDefault_exact known done).mp (claimed _ _ _ _ _ _ migrated_known done)
  exact absurd refused (by decide +kernel)

end Laboratory

end Acop.Knowledge.Spaces
