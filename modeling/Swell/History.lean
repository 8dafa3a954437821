import Swell.Sentence

/-!
# Histories of a reading

A reading of a sentence leaves one state behind for every atom it took. A history is the list of
these states; it only ever grows at its end. Main statement: what `push` does to the list.
-/
namespace Swell

/-- What is still unread, the atom taken last, and how many were taken. -/
structure State where
  remaining : List Atom
  taken : Option Atom
  position : Nat
  deriving Repr, DecidableEq

namespace State

def start (atoms : List Atom) : State :=
  ⟨atoms, none, 0⟩

def head? (s : State) : Option Atom :=
  s.remaining.head?

def advance? (s : State) : Option State :=
  match s.remaining with
  | [] => none
  | atom :: rest => some ⟨rest, some atom, s.position + 1⟩

theorem head?_eq_none_iff (s : State) : s.head? = none ↔ s.remaining = [] := by
  simp [head?]

theorem advance?_eq_none_iff (s : State) : s.advance? = none ↔ s.remaining = [] := by
  unfold advance?
  split <;> simp_all

end State

/-- The states of one reading. The newest stands first, so that a history and all its extensions
share what they have in common. -/
structure History where
  newestFirst : List State
  deriving Repr, DecidableEq

namespace History

def ofStates (states : List State) : History :=
  ⟨states.reverse⟩

def ofAtoms (atoms : List Atom) : History :=
  ⟨[State.start atoms]⟩

def ofSentence (s : Sentence) : History :=
  ofAtoms s.atoms

def toList (h : History) : List State :=
  h.newestFirst.reverse

def length (h : History) : Nat :=
  h.newestFirst.length

def isEmpty (h : History) : Bool :=
  h.newestFirst.isEmpty

def first? (h : History) : Option State :=
  h.newestFirst.getLast?

def last? (h : History) : Option State :=
  h.newestFirst.head?

def get? (h : History) (i : Nat) : Option State :=
  h.toList[i]?

def push (h : History) (s : State) : History :=
  ⟨s :: h.newestFirst⟩

def consumed (h : History) : List Atom :=
  h.toList.filterMap State.taken

/-- Nothing is left to read. The empty history has no state that could say so. -/
def isComplete (h : History) : Bool :=
  h.last?.any fun s => s.remaining.isEmpty

@[simp] theorem toList_ofStates (states : List State) : (ofStates states).toList = states := by
  simp [ofStates, toList]

@[simp] theorem toList_push (h : History) (s : State) : (h.push s).toList = h.toList ++ [s] := by
  simp [push, toList]

@[simp] theorem length_toList (h : History) : h.toList.length = h.length := by
  simp [toList, length]

@[simp] theorem last?_push (h : History) (s : State) : (h.push s).last? = some s := rfl

theorem toList_injective {g h : History} (e : g.toList = h.toList) : g = h := by
  cases g
  cases h
  simpa [toList] using e

end History
end Swell
