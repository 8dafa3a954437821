import Swell.Descriptor
import Swell.Sentence

/-!
# Faults of a reading

A reading fails structurally, when there is nothing to read, or because the next atom is not what
was expected.
-/
namespace Swell

/-- There is nothing that could be read. -/
inductive StructuralFault where
  | emptyHistory
  | nothingRemaining
  | emptySentence
  deriving Repr, DecidableEq

inductive ParseFault where
  | structural (fault : StructuralFault)
  /-- The atom at a position is none of what was expected there. -/
  | mismatch (position : Nat) (expected : List Descriptor) (actual : Atom)
  deriving Repr

namespace StructuralFault

def message : StructuralFault → String
  | .emptyHistory => "the state chain is empty"
  | .nothingRemaining => "the last state has no remaining atoms"
  | .emptySentence => "the sentence contains no atoms"

end StructuralFault

namespace ParseFault

def isStructural : ParseFault → Bool
  | .structural _ => true
  | .mismatch .. => false

def message : ParseFault → String
  | .structural fault => "Structural error: " ++ fault.message
  | .mismatch position expected actual =>
    "Index " ++ toString position ++ ". Expected " ++ Descriptor.listing expected
      ++ ", but got " ++ actual ++ "."

end ParseFault
end Swell
