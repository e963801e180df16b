import Acop.Json
import Acop.Fallible

/-! `core/redaction.py` over Python values of any shape: the containers that `redact` tells
apart, and what it makes of each. -/
namespace Acop.Redaction

/-- What a set may hold. A `frozenset` is a scalar: nothing walks it. -/
inductive Hashable (Scalar : Type) where
  | str (text : String)
  | scalar (value : Scalar)
  | tuple (items : List (Hashable Scalar))
  | named (items : List (Hashable Scalar))

/-- A value. `tuple` is of a class that is built from one iterable, `named` of a named tuple's, whose fields are
filled one argument each and from `defaults` at the end; a `mapping` is no `dict`. -/
inductive Nested (Key Scalar : Type) where
  | str (text : String)
  | scalar (value : Scalar)
  | dict (entries : List (Key × Nested Key Scalar))
  | mapping (entries : List (Key × Nested Key Scalar))
  | list (items : List (Nested Key Scalar))
  | tuple (items : List (Nested Key Scalar))
  | named (defaults items : List (Nested Key Scalar))
  | set (items : List (Hashable Scalar))

def truncated : String := "***TRUNCATED***"

section Redact

variable {Key Scalar : Type}

/-- The call of a named tuple's class with one argument; `none` is a `TypeError`. -/
def construct (defaults items : List (Nested Key Scalar)) (argument : Nested Key Scalar) : Option (Nested Key Scalar) :=
  if 0 < items.length ∧ items.length ≤ defaults.length + 1 then
    some (.named defaults (argument::defaults.drop (defaults.length + 1 - items.length)))
  else none

/-- What becomes of an item of a set. A named tuple does not survive: where its class takes a list, what is built
holds that list, and no set holds it. -/
def redactHashable : Nat → Hashable Scalar → Option (Hashable Scalar)
  | 0,_ => some (.str truncated)
  | left + 1,.tuple items => (items.mapM (redactHashable left)).map .tuple
  | _ + 1,.named _ => none
  | _ + 1,value => some value

/-- `redact(value, depth)`, by the levels left before `MAX_DEPTH`, for `str` of a key; `none` is a `TypeError`. -/
def redact (name : Key → String) : Nat → Nested Key Scalar → Option (Nested Key Scalar)
  | 0,_ => some (.str truncated)
  | left + 1,.dict entries => (entries.mapM fun entry =>
      if isSensitiveKey (name entry.1) then some (entry.1,.str redacted)
      else (redact name left entry.2).map fun item => (entry.1,item)).map .dict
  | left + 1,.list items => (items.mapM (redact name left)).map .list
  | left + 1,.tuple items => (items.mapM (redact name left)).map .tuple
  | left + 1,.named defaults items => do construct defaults items (.list (← items.mapM (redact name left)))
  | left + 1,.set items => (items.mapM (redactHashable left)).map .set
  | _ + 1,value => some value

end Redact

section Json

/-- A JSON value as Python holds it. -/
abbrev JsonValue := Nested String Json

mutual
def ofJson : Json → JsonValue
  | .str text => .str text
  | .arr items => .list (ofItems items)
  | .obj fields => .dict (ofFields fields)
  | value => .scalar value
def ofItems : List Json → List JsonValue
  | [] => []
  | item::items => ofJson item::ofItems items
def ofFields : List (String × Json) → List (String × JsonValue)
  | [] => []
  | (key,value)::fields => (key,ofJson value)::ofFields fields
end

-- On JSON values the walk is the one that the tool service runs.
mutual
theorem redact_ofJson : (left : Nat) → (value : Json) →
    redact id left (ofJson value) = some (ofJson (redactWithin left value))
  | 0,_ => by rw [redact,redactWithin,ofJson]; rfl
  | left + 1,.arr items => by
    rw [ofJson,redact,redact_ofItems left items,redactWithin,ofJson]
    rfl
  | left + 1,.obj fields => by
    rw [ofJson,redact,redact_ofFields left fields,redactWithin,ofJson]
    rfl
  | _ + 1,.str text => by rw [ofJson,redact,redactWithin,ofJson] <;> simp
  | _ + 1,.null | _ + 1,.bool _ | _ + 1,.int _ | _ + 1,.float _ | _ + 1,.nonFinite _ => by
    simp [ofJson,redact,redactWithin]
theorem redact_ofItems (left : Nat) : (items : List Json) →
    (ofItems items).mapM (redact id left) = some (ofItems (redactItems left items))
  | [] => by simp [ofItems,redactItems]
  | item::items => by
    rw [ofItems,List.mapM_cons,redact_ofJson left item,redact_ofItems left items,redactItems,ofItems]
    rfl
theorem redact_ofFields (left : Nat) : (fields : List (String × Json)) →
    ((ofFields fields).mapM fun entry =>
      if isSensitiveKey (id entry.1) then some (entry.1,.str redacted)
      else (redact id left entry.2).map fun item => (entry.1,item)) = some (ofFields (redactFields left fields))
  | [] => by simp [ofFields,redactFields]
  | (key,value)::fields => by
    rw [ofFields,List.mapM_cons,redact_ofFields left fields,redactFields,ofFields]
    by_cases secret : isSensitiveKey key = true
    · simp [secret,ofJson]
    · simp [secret,redact_ofJson left value]
end

end Json

end Acop.Redaction
