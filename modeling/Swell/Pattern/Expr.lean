import Swell.Pattern.CharClass

/-!
# Pattern expressions and where they match

A pattern expression matches stretches of a text. A set of places of the text is a number: its
bit `i` stands for the place in front of character `i`. `reach` moves a set of places across an
expression. Main statement: what the text offers at a place is what `marks` says there.
-/
namespace Swell.Pattern

inductive Look where
  | textStart
  | textEnd
  /-- The start of a line; with `crlf`, a carriage return ends lines too. -/
  | lineStart (crlf : Bool)
  | lineEnd (crlf : Bool)
  /-- A word character on exactly one side; without `ascii`, words are those of all scripts. -/
  | wordEdge (ascii : Bool)
  | noWordEdge (ascii : Bool)
  | wordStart (ascii : Bool)
  | wordEnd (ascii : Bool)
  | wordStartHalf (ascii : Bool)
  | wordEndHalf (ascii : Bool)
  deriving DecidableEq

namespace Look

private def wordClass (ascii : Bool) : CharClass :=
  if ascii then .asciiWord else .property .word

private def isWordAt [Engine] (ascii : Bool) (c : Option Char) : Bool :=
  c.any (wordClass ascii).accepts

/-- The condition holds between the two characters; `none` is the end of the text. -/
def holds [Engine] : Look → Option Char → Option Char → Bool
  | .textStart, before, _ => before.isNone
  | .textEnd, _, after => after.isNone
  | .lineStart crlf, before, after =>
    before.isNone || before == some '\n' || (crlf && before == some '\r' && after != some '\n')
  | .lineEnd false, _, after => after.isNone || after == some '\n'
  | .lineEnd true, before, after =>
    after.isNone || after == some '\r' || (after == some '\n' && before != some '\r')
  | .wordEdge ascii, before, after => isWordAt ascii before != isWordAt ascii after
  | .noWordEdge ascii, before, after => isWordAt ascii before == isWordAt ascii after
  | .wordStart ascii, before, after => !isWordAt ascii before && isWordAt ascii after
  | .wordEnd ascii, before, after => isWordAt ascii before && !isWordAt ascii after
  | .wordStartHalf ascii, before, _ => !isWordAt ascii before
  | .wordEndHalf ascii, _, after => !isWordAt ascii after

end Look

/-- What a pattern says about a stretch of text. -/
inductive Expr where
  | empty
  /-- One character of a class. -/
  | one (members : CharClass)
  | look (condition : Look)
  /-- The first, and then the second where it ended. -/
  | next (first second : Expr)
  | either (left right : Expr)
  /-- At least `least` times, and at most `most` times if there is a bound. -/
  | repeated (inner : Expr) (least : Nat) (most : Option Nat)
  deriving DecidableEq

abbrev Places := Nat

def marks (p : Option Char → Option Char → Bool) (before : Option Char) : List Char → Places
  | [] => (p before none).toNat
  | c :: cs => (p before (some c)).toNat + 2 * marks p (some c) cs

def allPlaces (text : List Char) : Places :=
  Nat.pow 2 (text.length + 1) - 1

/-- Applies a move a number of times, and stops early where it changes nothing. -/
def moveTimes (move : Places → Places) : Nat → Places → Places
  | 0, s => s
  | n + 1, s =>
    let t := move s
    if t = s then s else moveTimes move n t

/-- All places within a number of moves, and stops early where no place is new. -/
def moveUpTo (move : Places → Places) : Nat → Places → Places
  | 0, s => s
  | n + 1, s =>
    let t := s ||| move s
    if t = s then s else moveUpTo move n t

namespace Expr

/-- The places where a match ends that starts in one of the given places. -/
def reach [Engine] (text : List Char) : Expr → Places → Places
  | .empty, s => s
  | .one members, s => 2 * (s &&& marks (fun _ c => c.any members.accepts) none text)
  | .look condition, s => s &&& marks condition.holds none text
  | .next first second, s => second.reach text (first.reach text s)
  | .either left right, s => left.reach text s ||| right.reach text s
  | .repeated inner least most, s =>
    let more := match most with
      | some most => most - least
      | none => text.length + 1
    moveUpTo (inner.reach text) more (moveTimes (inner.reach text) least s)

def found [Engine] (e : Expr) (text : List Char) : Bool :=
  e.reach text (allPlaces text) != 0

end Expr

theorem testBit_marks_zero (p : Option Char → Option Char → Bool) (before : Option Char)
    (cs : List Char) : (marks p before cs).testBit 0 = p before cs.head? := by
  cases cs with
  | nil => cases h : p before none <;> simp [marks, h]
  | cons c cs => cases h : p before (some c) <;> simp [marks, h, Nat.testBit_zero]

theorem testBit_marks_succ (p : Option Char → Option Char → Bool) (before : Option Char)
    (c : Char) (cs : List Char) (i : Nat) :
    (marks p before (c :: cs)).testBit (i + 1) = (marks p (some c) cs).testBit i := by
  have h : ∀ b : Bool, (b.toNat + 2 * marks p (some c) cs) / 2 = marks p (some c) cs := by
    intro b
    cases b with
    | false => simp
    | true =>
      simp
      omega
  simp only [marks, Nat.testBit_succ, h]

end Swell.Pattern
