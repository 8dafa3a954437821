import Swell.Fault
import Swell.Json.Value

/-!
# Values between stages

A value that travels between stages has the tag of its kind, or none if its kind was never
established. A slot holds a value, a fault from further up, or nothing. Main statement: a type of
values is told by its tag.
-/
namespace Swell

inductive Value where
  | vessel (v : Vessel)
  | wave (w : Series Float)
  | constraints (l : Limits)
  | coarseSignal (s : CoarseSignal)
  | sentence (s : Sentence)
  | parser (g : Grammar)
  | parsed (r : Reading)
  | untagged (data : Json)

namespace Value

def tag? : Value → Option Tag
  | .vessel _ => some .vessel
  | .wave _ => some .wave
  | .constraints _ => some .constraints
  | .coarseSignal _ => some .coarseSignal
  | .sentence _ => some .sentence
  | .parser _ => some .parser
  | .parsed _ => some .parsed
  | .untagged _ => none

end Value

/-- An argument of a stage, or its result. -/
abbrev Slot := Option (Except Fault Value)

/-- Checks that a slot holds a value with the expected tag. A fault from further up is passed on
as it is. -/
def Slot.validate (slot : Slot) (expected : Tag) : Except Fault Value :=
  match slot with
  | none => .error (.contract (.missingInput expected))
  | some (.error fault) => .error fault
  | some (.ok value) =>
    match value.tag? with
    | none => .error (.contract (.missingTag expected))
    | some actual =>
      if actual = expected then .ok value else .error (.contract (.wrongTag expected actual))

class Tagged (α : Type) where
  tag : Tag
  toValue : α → Value
  ofValue? : Value → Option α
  tag?_toValue : ∀ a, (toValue a).tag? = some tag
  ofValue?_toValue : ∀ a, ofValue? (toValue a) = some a
  ofValue?_isSome : ∀ v : Value, v.tag? = some tag → (ofValue? v).isSome = true

instance : Tagged Vessel where
  tag := .vessel
  toValue := .vessel
  ofValue? | .vessel v => some v | _ => none
  tag?_toValue _ := rfl
  ofValue?_toValue _ := rfl
  ofValue?_isSome v h := by cases v <;> simp_all [Value.tag?]

instance : Tagged (Series Float) where
  tag := .wave
  toValue := .wave
  ofValue? | .wave w => some w | _ => none
  tag?_toValue _ := rfl
  ofValue?_toValue _ := rfl
  ofValue?_isSome v h := by cases v <;> simp_all [Value.tag?]

instance : Tagged Limits where
  tag := .constraints
  toValue := .constraints
  ofValue? | .constraints l => some l | _ => none
  tag?_toValue _ := rfl
  ofValue?_toValue _ := rfl
  ofValue?_isSome v h := by cases v <;> simp_all [Value.tag?]

instance : Tagged CoarseSignal where
  tag := .coarseSignal
  toValue := .coarseSignal
  ofValue? | .coarseSignal s => some s | _ => none
  tag?_toValue _ := rfl
  ofValue?_toValue _ := rfl
  ofValue?_isSome v h := by cases v <;> simp_all [Value.tag?]

instance : Tagged Sentence where
  tag := .sentence
  toValue := .sentence
  ofValue? | .sentence s => some s | _ => none
  tag?_toValue _ := rfl
  ofValue?_toValue _ := rfl
  ofValue?_isSome v h := by cases v <;> simp_all [Value.tag?]

instance : Tagged Grammar where
  tag := .parser
  toValue := .parser
  ofValue? | .parser g => some g | _ => none
  tag?_toValue _ := rfl
  ofValue?_toValue _ := rfl
  ofValue?_isSome v h := by cases v <;> simp_all [Value.tag?]

instance : Tagged Reading where
  tag := .parsed
  toValue := .parsed
  ofValue? | .parsed r => some r | _ => none
  tag?_toValue _ := rfl
  ofValue?_toValue _ := rfl
  ofValue?_isSome v h := by cases v <;> simp_all [Value.tag?]

def Slot.present {α : Type} [Tagged α] (a : α) : Slot :=
  some (.ok (Tagged.toValue a))

/-- The typed value of a value, if it has the tag of the type. -/
def Value.extract (α : Type) [Tagged α] (v : Value) : Except Fault α := do
  let v ← Slot.validate (some (.ok v)) (Tagged.tag α)
  match Tagged.ofValue? v with
  | some a => .ok a
  | none => .error (.contract (.missingTag (Tagged.tag α)))

/-- Validation lets a slot through exactly if it holds a value with the expected tag. -/
theorem Slot.validate_eq_ok_iff (slot : Slot) (expected : Tag) (v : Value) :
    slot.validate expected = .ok v ↔ slot = some (.ok v) ∧ v.tag? = some expected := by
  match slot with
  | none => simp [validate]
  | some (.error fault) => simp [validate]
  | some (.ok w) =>
    cases h : w.tag? with
    | none =>
      simp only [validate, h]
      constructor
      · intro e
        cases e
      · rintro ⟨e, hv⟩
        cases e
        simp [h] at hv
    | some actual =>
      by_cases ha : actual = expected
      · subst ha
        simp only [validate, h, if_true]
        constructor
        · intro e
          cases e
          exact ⟨rfl, h⟩
        · rintro ⟨e, -⟩
          cases e
          rfl
      · simp only [validate, h, ha, if_false]
        constructor
        · intro e
          cases e
        · rintro ⟨e, hv⟩
          cases e
          simp_all

end Swell
