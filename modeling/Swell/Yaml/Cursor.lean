/-!
# Places in a document

A cursor is a place in a document: the characters from there on, with line, column and distance
from the start, all counted in characters.
-/
namespace Swell.Yaml

structure Cursor where
  rest : List Char
  /-- The number of characters in the whole document. -/
  length : Nat
  index : Nat
  line : Nat
  column : Nat

def isSpacing (c : Char) : Bool :=
  c == ' ' || c == '\t'

def isLineEnd (c : Char) : Bool :=
  c == '\n' || c == '\r' || c == '\u0085' || c == '\u2028' || c == '\u2029'

def isNameChar (c : Char) : Bool :=
  c.isAlphanum || c == '_' || c == '-'

/-- No word goes on here: a space, a tab, the end of a line, or of the document. -/
def endsWord (cs : List Char) : Bool :=
  match cs with
  | [] => true
  | c :: _ => isSpacing c || isLineEnd c

def endsLine (cs : List Char) : Bool :=
  match cs with
  | [] => true
  | c :: _ => isLineEnd c

namespace Cursor

def start (text : List Char) : Cursor :=
  ⟨text, text.length, 0, 0, 0⟩

def left (c : Cursor) : Nat :=
  c.length - c.index

def head? (c : Cursor) : Option Char :=
  c.rest.head?

def sees (c : Cursor) (x : Char) : Bool :=
  c.rest.head? == some x

def skip (c : Cursor) (count : Nat) : Cursor :=
  { c with
    rest := c.rest.drop count
    index := c.index + count
    column := c.column + count }

def skipWhile (c : Cursor) (p : Char → Bool) : Cursor :=
  c.skip (c.rest.takeWhile p).length

def span (c : Cursor) (p : Char → Bool) : List Char × Cursor :=
  (c.rest.takeWhile p, c.skipWhile p)

private def newLine (c : Cursor) (width : Nat) : Cursor :=
  ⟨c.rest.drop width, c.length, c.index + width, c.line + 1, 0⟩

/-- The end of a line, if it is here, and the place behind it. All ends count as line feeds but the
separators of lines and paragraphs, which keep their character. -/
def lineEnd? (c : Cursor) : Option (Char × Cursor) :=
  match c.rest with
  | '\r' :: '\n' :: _ => some ('\n', c.newLine 2)
  | x :: _ =>
    if isLineEnd x then
      some (if x == '\u2028' || x == '\u2029' then x else '\n', c.newLine 1)
    else none
  | [] => none

def skipLineEnd (c : Cursor) : Cursor :=
  match c.lineEnd? with
  | some (_, next) => next
  | none => c

def skipLine (c : Cursor) : Cursor :=
  c.skipWhile fun x => !isLineEnd x

/-- Passes over spacing and a comment, up to the end of the line. Nothing else may stand there. -/
def toLineEnd? (c : Cursor) : Option Cursor :=
  let c := c.skipWhile isSpacing
  let c := if c.sees '#' then c.skipLine else c
  if endsLine c.rest then some c else none

/-- Three of a character stand alone at the start of a line. -/
def marksDocument (c : Cursor) (x : Char) : Bool :=
  c.column == 0 && c.rest.take 3 == [x, x, x] && endsWord (c.rest.drop 3)

def atDocumentMark (c : Cursor) : Bool :=
  c.marksDocument '-' || c.marksDocument '.'

end Cursor
end Swell.Yaml
