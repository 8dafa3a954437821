import Swell.Pipeline.Value

/-!
# Stages

A stage is a collaborator between two contracts: it runs only when each of its arguments has the
tag that is declared for its position, and what it gives has to have the declared tag. What else
happens when it runs is up to the monad. Main statement: a stage whose arguments are refused does
not run.
-/
namespace Swell

variable {m : Type → Type}

structure Stage (m : Type → Type) where
  name : String
  inputs : List Tag
  output : Tag
  /-- The collaborator. -/
  run : List Value → m Slot

namespace Stage

/-- The values of the slots at the expected positions, or the fault of the first bad slot. Slots
that are not there count as empty, and further ones are not looked at. -/
def arguments : List Tag → List Slot → Except Fault (List Value)
  | [], _ => .ok []
  | expected :: tags, slots =>
    match (slots.head?.getD none).validate expected with
    | .error fault => .error fault
    | .ok value =>
      match arguments tags slots.tail with
      | .error fault => .error fault
      | .ok values => .ok (value :: values)

/-- Checks the arguments, runs the collaborator and checks what it gives. -/
def call [Monad m] (s : Stage m) (slots : List Slot) : m (Except Fault Value) :=
  match arguments s.inputs slots with
  | .error fault => pure (.error fault)
  | .ok values => do
    let slot ← s.run values
    pure (slot.validate s.output)

private def give {α : Type} [Tagged α] (result : Except Fault α) : Slot :=
  some (result.map Tagged.toValue)

def unary [Monad m] {α β : Type} [Tagged α] [Tagged β] (name : String)
    (f : α → m (Except Fault β)) : Stage m where
  name := name
  inputs := [Tagged.tag α]
  output := Tagged.tag β
  run values :=
    match values.head?.bind Tagged.ofValue? with
    | none => pure (some (.error (.contract (.missingInput (Tagged.tag α)))))
    | some a => give <$> f a

def binary [Monad m] {α β γ : Type} [Tagged α] [Tagged β] [Tagged γ] (name : String)
    (f : α → β → m (Except Fault γ)) : Stage m where
  name := name
  inputs := [Tagged.tag α, Tagged.tag β]
  output := Tagged.tag γ
  run values :=
    match values.head?.bind Tagged.ofValue? with
    | none => pure (some (.error (.contract (.missingInput (Tagged.tag α)))))
    | some a =>
      match values.tail.head?.bind Tagged.ofValue? with
      | none => pure (some (.error (.contract (.missingInput (Tagged.tag β)))))
      | some b => give <$> f a b

def describe (s : Stage m) : String :=
  "Stage \x7b name: " ++ Text.quoted s.name ++ ", inputs: ["
    ++ ", ".intercalate (s.inputs.map Tag.name) ++ "], output: " ++ s.output.name ++ ", .. \x7d"

theorem call_of_refused [Monad m] (s : Stage m) (slots : List Slot) (fault : Fault)
    (h : arguments s.inputs slots = .error fault) : s.call slots = pure (.error fault) := by
  simp [call, h]

end Stage
end Swell
