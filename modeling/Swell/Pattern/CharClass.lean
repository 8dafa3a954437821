import Swell.Pattern.Engine

/-!
# Character classes

The sets of characters that a pattern can name, as syntax, and the characters that each accepts.
Main statement: the class of a character holds nothing else.
-/
namespace Swell.Pattern

/-- A set of characters. -/
inductive CharClass where
  | none
  | any
  /-- The characters from `first` to `last`. -/
  | interval (first last : Char)
  | property (p : Property)
  | union (a b : CharClass)
  | inter (a b : CharClass)
  | minus (a b : CharClass)
  /-- What lies in one of the two, but not in both. -/
  | symmetric (a b : CharClass)
  | negated (a : CharClass)
  /-- All characters that differ from a member at most in case. -/
  | anyCase (a : CharClass)
  /-- The same for the letters of ASCII alone. -/
  | anyAsciiCase (a : CharClass)
  deriving DecidableEq

/-- The letter of ASCII with the other case; any other character stays. -/
def otherAsciiCase (c : Char) : Char :=
  if c.isLower then c.toUpper else c.toLower

namespace CharClass

def accepts [Engine] : CharClass → Char → Bool
  | .none, _ => false
  | .any, _ => true
  | .interval first last, c => first.toNat ≤ c.toNat && c.toNat ≤ last.toNat
  | .property p, c => Engine.holds p c
  | .union a b, c => a.accepts c || b.accepts c
  | .inter a b, c => a.accepts c && b.accepts c
  | .minus a b, c => a.accepts c && !b.accepts c
  | .symmetric a b, c => a.accepts c != b.accepts c
  | .negated a, c => !a.accepts c
  | .anyCase a, c => (Engine.caseVariants c).any a.accepts
  | .anyAsciiCase a, c => a.accepts c || a.accepts (otherAsciiCase c)

def single (c : Char) : CharClass :=
  .interval c c

def unionOf (classes : List CharClass) : CharClass :=
  classes.foldr .union .none

def ofIntervals (intervals : List (Char × Char)) : CharClass :=
  unionOf (intervals.map fun r => .interval r.1 r.2)

@[simp] theorem accepts_single [Engine] (c d : Char) : (single c).accepts d = true ↔ d = c := by
  simp only [single, accepts, Bool.and_eq_true, decide_eq_true_eq]
  constructor
  · rintro ⟨h, k⟩
    exact Char.toNat_inj.1 (Nat.le_antisymm k h)
  · rintro rfl
    simp

def asciiDigit : CharClass :=
  .interval '0' '9'

def asciiLetter : CharClass :=
  ofIntervals [('A', 'Z'), ('a', 'z')]

def asciiBlank : CharClass :=
  ofIntervals [('\t', '\r'), (' ', ' ')]

def asciiWord : CharClass :=
  ofIntervals [('0', '9'), ('A', 'Z'), ('a', 'z'), ('_', '_')]

/-- The classes that a bracket may name between colons. -/
def ofAsciiName? : String → Option CharClass
  | "alnum" => some (ofIntervals [('0', '9'), ('A', 'Z'), ('a', 'z')])
  | "alpha" => some asciiLetter
  | "ascii" => some (.interval '\x00' '\x7f')
  | "blank" => some (ofIntervals [('\t', '\t'), (' ', ' ')])
  | "cntrl" => some (ofIntervals [('\x00', '\x1f'), ('\x7f', '\x7f')])
  | "digit" => some asciiDigit
  | "graph" => some (.interval '!' '~')
  | "lower" => some (.interval 'a' 'z')
  | "print" => some (.interval ' ' '~')
  | "punct" => some (ofIntervals [('!', '/'), (':', '@'), ('[', '\x60'), ('\x7b', '~')])
  | "space" => some asciiBlank
  | "upper" => some (.interval 'A' 'Z')
  | "word" => some asciiWord
  | "xdigit" => some (ofIntervals [('0', '9'), ('A', 'F'), ('a', 'f')])
  | _ => Option.none

end CharClass

end Swell.Pattern
