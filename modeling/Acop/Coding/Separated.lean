import Mathlib.Data.List.Forall2

/-! Texts that can be taken apart again. A text is separated by what may follow it
where no other text of the same coding, continued likewise, gives the same symbols;
sequences of separated texts between a comma and a closing symbol are separated. -/
namespace Acop.Coding

variable {Symbol Value : Type}

/-- What follows an item: nothing, or a symbol that stops it. -/
def Ends (stops : Symbol → Prop) (rest : List Symbol) : Prop := ∀ symbol ∈ rest.head?, stops symbol

theorem ends_nil {stops : Symbol → Prop} : Ends stops [] := by
  intro symbol member
  cases member

theorem ends_cons {stops : Symbol → Prop} {symbol : Symbol} {rest : List Symbol} :
    Ends stops (symbol::rest) ↔ stops symbol := by
  simp [Ends]

/-- `value` is told from every value of the coding, up to `same`. -/
def Separated (stops : Symbol → Prop) (encode : Value → List Symbol)
    (same : Value → Value → Prop) (value : Value) : Prop :=
  ∀ other rest rest', Ends stops rest → Ends stops rest' →
    encode value ++ rest = encode other ++ rest' → same value other ∧ rest = rest'

/-- An item of a sequence begins with a symbol that neither stops an item nor closes. -/
def Begun (stops : Symbol → Prop) (text : List Symbol) : Prop := ∃ symbol rest, text = symbol::rest ∧ ¬ stops symbol

theorem atom {stops : Symbol → Prop} {first second rest rest' : List Symbol}
    (free : ∀ symbol ∈ first, ¬ stops symbol) (free' : ∀ symbol ∈ second, ¬ stops symbol)
    (ends : Ends stops rest) (ends' : Ends stops rest') (equal : first ++ rest = second ++ rest') :
    first = second ∧ rest = rest' := by
  induction first generalizing second with
  | nil =>
    cases second with
    | nil => exact ⟨rfl,equal⟩
    | cons symbol second =>
      subst equal
      exact absurd (ends_cons.mp ends) (free' symbol (.head _))
  | cons symbol first ih =>
    cases second with
    | nil =>
      subst equal
      exact absurd (ends_cons.mp ends') (free symbol (.head _))
    | cons symbol' second =>
      obtain ⟨head,tails⟩ := List.cons.inj equal
      obtain ⟨same,ends⟩ := ih (fun symbol member => free symbol (.tail _ member))
        (fun symbol member => free' symbol (.tail _ member)) tails
      exact ⟨by rw [head,same],ends⟩

section Sequence

variable {stops : Symbol → Prop} {encode : Value → List Symbol}
  {same : Value → Value → Prop} {comma close : Symbol}

def behind (encode : Value → List Symbol) (comma close : Symbol) (values : List Value) (rest : List Symbol) : List Symbol :=
  match values with
  | [] => close::rest
  | value::values => comma::(List.intercalate [comma] ((value::values).map encode) ++ close::rest)

theorem intercalate_behind (value : Value) (values : List Value) (rest : List Symbol) :
    List.intercalate [comma] ((value::values).map encode) ++ close::rest =
      encode value ++ behind encode comma close values rest := by
  cases values with
  | nil => simp [behind]
  | cons next values => simp [behind,List.intercalate_cons_cons,List.append_assoc]

theorem behind_ends (commaStops : stops comma) (closeStops : stops close) (values : List Value) (rest : List Symbol) :
    Ends stops (behind encode comma close values rest) := by
  cases values with
  | nil => exact ends_cons.mpr closeStops
  | cons value values => exact ends_cons.mpr commaStops

theorem sequence (commaStops : stops comma) (closeStops : stops close) (distinct : comma ≠ close)
    {values others : List Value} (separated : ∀ value ∈ values, Separated stops encode same value)
    (begun : ∀ value, Begun stops (encode value)) {rest rest' : List Symbol}
    (equal : List.intercalate [comma] (values.map encode) ++ close::rest =
      List.intercalate [comma] (others.map encode) ++ close::rest') :
    List.Forall₂ same values others ∧ rest = rest' := by
  induction values generalizing others with
  | nil =>
    cases others with
    | nil => exact ⟨.nil,(List.cons.inj equal).2⟩
    | cons other others =>
      obtain ⟨symbol,text,shape,runs⟩ := begun other
      rw [intercalate_behind,shape] at equal
      exact absurd ((List.cons.inj equal).1 ▸ closeStops) runs
  | cons value values ih =>
    cases others with
    | nil =>
      obtain ⟨symbol,text,shape,runs⟩ := begun value
      rw [intercalate_behind,shape] at equal
      exact absurd ((List.cons.inj equal).1 ▸ closeStops) runs
    | cons other others =>
      rw [intercalate_behind,intercalate_behind] at equal
      obtain ⟨head,tail⟩ := separated value (.head _) other _ _
        (behind_ends commaStops closeStops values rest) (behind_ends commaStops closeStops others rest') equal
      cases values with
      | nil =>
        cases others with
        | nil => exact ⟨.cons head .nil,(List.cons.inj tail).2⟩
        | cons next others => exact absurd (List.cons.inj tail).1.symm distinct
      | cons next values =>
        cases others with
        | nil => exact absurd (List.cons.inj tail).1 distinct
        | cons next' others =>
          obtain ⟨rest_same,ends⟩ := ih (fun value member => separated value (.tail _ member)) (List.cons.inj tail).2
          exact ⟨.cons head rest_same,ends⟩

end Sequence

end Acop.Coding
