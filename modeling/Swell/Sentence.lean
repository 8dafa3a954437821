import Swell.Text.Blank

/-!
# Sentences and their atoms

A sentence is a text of symbols with blanks between them. What a recogniser reads are its atoms:
the words, with one separator between each two. Main statement: how many atoms `n` words give.
-/
namespace Swell

/-- One indivisible piece of a sentence. -/
abbrev Atom := String

def separator : Atom := " "

structure Sentence where
  text : String
  deriving Repr, DecidableEq

namespace Sentence

def ofSymbols (symbols : List String) : Sentence :=
  ⟨separator.intercalate symbols⟩

def words (s : Sentence) : List String :=
  Text.words s.text

def wordCount (s : Sentence) : Nat :=
  s.words.length

def isEmpty (s : Sentence) : Bool :=
  s.wordCount == 0

/-- The words in order, with a separator between neighbours. -/
def atoms (s : Sentence) : List Atom :=
  s.words.intersperse separator

/-- The number of atoms that a given number of words gives. -/
def atomCount (words : Nat) : Nat :=
  2 * words - 1

theorem length_atoms (s : Sentence) : s.atoms.length = atomCount s.wordCount :=
  List.length_intersperse

end Sentence
end Swell
