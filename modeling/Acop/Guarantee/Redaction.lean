import Acop.Cmdb.Laboratory
import Acop.Identifiers

/-! What the screening of a value changes: the keys it lists account for all of it,
except where the value is nested down to the depth limit of the redaction. -/
namespace Acop.Cmdb

section Values

mutual
/-- Two values that differ at most under the given keys. -/
def AgreeOff (keys : List String) : Json → Json → Prop
  | .arr items,.arr others => AgreeItems keys items others
  | .obj fields,.obj others => AgreeFields keys fields others
  | value,other => value = other
def AgreeItems (keys : List String) : List Json → List Json → Prop
  | [],[] => True
  | item::items,other::others => AgreeOff keys item other ∧ AgreeItems keys items others
  | _,_ => False
def AgreeFields (keys : List String) : List (String × Json) → List (String × Json) → Prop
  | [],[] => True
  | (key,value)::fields,(key',other)::others =>
    key = key' ∧ (key ∈ keys ∨ AgreeOff keys value other) ∧ AgreeFields keys fields others
  | _,_ => False
end

mutual
/-- The values under no sensitive key that lie `left` levels down. -/
def nestedAt : Nat → Json → List Json
  | 0,value => [value]
  | left + 1,.arr items => nestedAtItems left items
  | left + 1,.obj fields => nestedAtFields left fields
  | _ + 1,_ => []
def nestedAtItems : Nat → List Json → List Json
  | _,[] => []
  | left,item::items => nestedAt left item ++ nestedAtItems left items
def nestedAtFields : Nat → List (String × Json) → List Json
  | _,[] => []
  | left,(key,value)::fields => (if isSensitiveKey key then [] else nestedAt left value) ++ nestedAtFields left fields
end

def truncated : Json := .str "***TRUNCATED***"

theorem agreeOff_truncated {keys : List String} {value : Json} : AgreeOff keys value truncated ↔ value = truncated := by
  cases value <;> simp [AgreeOff,truncated]

seal isSensitiveKey

mutual
theorem collected_sensitive {key : String} : (left : Nat) → (value : Json) → key ∈ collectRedactedKeys left value →
    isSensitiveKey key = true
  | 0,_,member => by simp [collectRedactedKeys] at member
  | left + 1,.arr items,member => collected_items left items (by simpa only [collectRedactedKeys] using member)
  | left + 1,.obj fields,member => collected_fields left fields (by simpa only [collectRedactedKeys] using member)
  | _ + 1,.null,member | _ + 1,.bool _,member | _ + 1,.int _,member | _ + 1,.float _,member | _ + 1,.nonFinite _,member
  | _ + 1,.str _,member => by simp [collectRedactedKeys] at member
theorem collected_items {key : String} (left : Nat) : (items : List Json) → key ∈ collectFromItems left items →
    isSensitiveKey key = true
  | [],member => by simp [collectFromItems] at member
  | item::items,member => by
    rw [collectFromItems,List.mem_append] at member
    exact member.elim (collected_sensitive left item) (collected_items left items)
theorem collected_fields {key : String} (left : Nat) : (fields : List (String × Json)) → key ∈ collectFromFields left fields →
    isSensitiveKey key = true
  | [],member => by simp [collectFromFields] at member
  | (name,value)::fields,member => by
    rw [collectFromFields,List.mem_append] at member
    rcases member with here | later
    · split at here
      · rename_i sensitive
        exact List.mem_singleton.mp here ▸ sensitive
      · exact collected_sensitive left value here
    · exact collected_fields left fields later
end

-- The collection goes one level deeper than the redaction.
mutual
theorem agreeOff_redact {keys : List String} (sensitive : ∀ key ∈ keys, isSensitiveKey key = true) :
    (left : Nat) → (value : Json) → (∀ key ∈ collectRedactedKeys (left + 1) value, key ∈ keys) →
    (AgreeOff keys value (redactWithin left value) ↔ ∀ nested ∈ nestedAt left value, nested = truncated)
  | 0,value,_ => by
    have agree : AgreeOff keys value (redactWithin 0 value) ↔ value = truncated := by
      rw [redactWithin]
      exact agreeOff_truncated
    simpa [nestedAt] using agree
  | left + 1,.arr items,listed => by
    rw [redactWithin,nestedAt,AgreeOff]
    exact agreeItems_redact sensitive left items (by simpa only [collectRedactedKeys] using listed)
  | left + 1,.obj fields,listed => by
    rw [redactWithin,nestedAt,AgreeOff]
    exact agreeFields_redact sensitive left fields (by simpa only [collectRedactedKeys] using listed)
  | _ + 1,.null,_ | _ + 1,.bool _,_ | _ + 1,.int _,_ | _ + 1,.float _,_ | _ + 1,.nonFinite _,_ | _ + 1,.str _,_ => by
    simp [redactWithin,nestedAt,AgreeOff]
theorem agreeItems_redact {keys : List String} (sensitive : ∀ key ∈ keys, isSensitiveKey key = true)
    (left : Nat) : (items : List Json) → (∀ key ∈ collectFromItems (left + 1) items, key ∈ keys) →
    (AgreeItems keys items (redactItems left items) ↔ ∀ nested ∈ nestedAtItems left items, nested = truncated)
  | [],_ => by simp [redactItems,nestedAtItems,AgreeItems]
  | item::items,listed => by
    simp only [collectFromItems,List.mem_append] at listed
    rw [redactItems,nestedAtItems,AgreeItems,agreeOff_redact sensitive left item fun key member => listed key (.inl member),
      agreeItems_redact sensitive left items fun key member => listed key (.inr member),List.forall_mem_append]
theorem agreeFields_redact {keys : List String} (sensitive : ∀ key ∈ keys, isSensitiveKey key = true)
    (left : Nat) : (fields : List (String × Json)) →
    (∀ key ∈ collectFromFields (left + 1) fields, key ∈ keys) →
    (AgreeFields keys fields (redactFields left fields) ↔ ∀ nested ∈ nestedAtFields left fields, nested = truncated)
  | [],_ => by simp [redactFields,nestedAtFields,AgreeFields]
  | (key,value)::fields,listed => by
    simp only [collectFromFields,List.mem_append] at listed
    have rest := agreeFields_redact sensitive left fields fun name member => listed name (.inr member)
    rw [redactFields,nestedAtFields,AgreeFields,rest,List.forall_mem_append]
    by_cases secret : isSensitiveKey key = true
    · have there : key ∈ keys := listed key (.inl (by simp [secret]))
      simp [secret,there]
    · have absent : key ∉ keys := fun there => secret (sensitive key there)
      have inner := agreeOff_redact sensitive left value fun name member => listed name (.inl ((if_neg secret).symm ▸ member))
      simp [secret,absent,inner]
end

end Values

/-- What the screening returns is the value, except under the keys that it lists. -/
def ScreenResult.Accounts (result : ScreenResult) : FactValue → Prop
  | .json fields => ∃ kept, result.value = .json kept ∧ AgreeOff result.redactedJsonKeys (.obj fields) (.obj kept)
  | value => result.value = value

theorem screen_json {python : Python} {predicate : String} {fields : JsonObject} {result : ScreenResult}
    (screened : screen python predicate (.json fields) = .ok result) : result =
      ⟨.json (redactObject fields),sorted (collectRedactedKeys (maxDepth + 1) (.obj fields)).toFinset⟩ := by
  unfold screen at screened
  split at screened
  · cases screened
  dsimp only at screened
  split at screened
  · cases screened
  · exact (Except.ok.inj screened).symm

theorem screen_other {python : Python} {predicate : String} {value : FactValue} {result : ScreenResult}
    (screened : screen python predicate value = .ok result) (other : ∀ fields, value ≠ .json fields) : result = {value} := by
  unfold screen at screened
  split at screened
  · cases screened
  split at screened
  · split at screened
    · cases screened
    · exact (Except.ok.inj screened).symm
  · exact absurd rfl (other _)
  · exact (Except.ok.inj screened).symm

theorem accounts_redacted (fields : JsonObject) :
    ScreenResult.Accounts ⟨.json (redactObject fields),sorted (collectRedactedKeys (maxDepth + 1) (.obj fields)).toFinset⟩
      (.json fields) ↔ ∀ nested ∈ nestedAt maxDepth (.obj fields), nested = truncated := by
  have listed : ∀ key, key ∈ sorted (collectRedactedKeys (maxDepth + 1) (.obj fields)).toFinset ↔
      key ∈ collectRedactedKeys (maxDepth + 1) (.obj fields) := by
    intro key
    rw [mem_sorted,List.mem_toFinset]
  have agree := agreeOff_redact (fun key member => collected_sensitive _ _ ((listed key).mp member)) maxDepth
    (.obj fields) fun key member => (listed key).mpr member
  simpa [ScreenResult.Accounts,redactObject,maxDepth,redactWithin] using agree

/-- The screening accounts for what it changes exactly if nothing is nested down to the depth
limit of the redaction, save under a sensitive key. -/
theorem screen_accounts {python : Python} {predicate : String} {value : FactValue} {result : ScreenResult}
    (screened : screen python predicate value = .ok result) : result.Accounts value ↔
      ∀ fields, value = .json fields → ∀ nested ∈ nestedAt maxDepth (.obj fields), nested = truncated := by
  cases value with
  | json fields =>
    rw [screen_json screened,accounts_redacted]
    exact ⟨fun spared _ same => FactValue.json.inj same ▸ spared,fun spared => spared fields rfl⟩
  | text _ | number _ | bool _ | timestamp _ | assetRef _ =>
    rw [screen_other screened fun _ => nofun]
    exact ⟨fun _ _ => nofun,fun _ => rfl⟩

/-- A key is redacted and listed. -/
theorem screen_accounts_keyed : ∃ result, screen labPython "inventory.tree" (.json [("name",.str "sw1"),("api_key",.str "k")]) =
    .ok result ∧ (result.Accounts (.json [("name",.str "sw1"),("api_key",.str "k")]) ↔
      ∀ fields, FactValue.json [("name",.str "sw1"),("api_key",.str "k")] = .json fields →
        ∀ nested ∈ nestedAt maxDepth (.obj fields), nested = truncated) := by
  obtain ⟨result,screened⟩ := ok_of_isOk (show (screen labPython "inventory.tree"
    (.json [("name",.str "sw1"),("api_key",.str "k")])).isOk = true by decide +kernel)
  exact ⟨result,screened,screen_accounts screened⟩

/-- `height` objects around a number. -/
def tower : (height : Nat) → Json
  | 0 => .int 1
  | height + 1 => .obj [("child",tower height)]

/-- A number below twelve objects is replaced, and no key is listed. -/
theorem tower_truncated : ∃ result, screen labPython "inventory.tree" (.json [("child",tower 11)]) = .ok result ∧
    result.redactedJsonKeys = [] ∧ ¬ result.Accounts (.json [("child",tower 11)]) := by
  obtain ⟨result,screened⟩ := ok_of_isOk (show (screen labPython "inventory.tree" (.json [("child",tower 11)])).isOk = true by
    decide +kernel)
  have plain : isSensitiveKey "child" = false := by decide +kernel
  refine ⟨result,screened,?_,?_⟩
  · have none : collectRedactedKeys (maxDepth + 1) (.obj [("child",tower 11)]) = [] := by
      simp [tower,maxDepth,collectRedactedKeys,collectFromFields,plain]
    rw [screen_json screened,none]
    rfl
  · rw [screen_json screened,accounts_redacted]
    simp [tower,maxDepth,nestedAt,nestedAtFields,plain,truncated]

end Acop.Cmdb
