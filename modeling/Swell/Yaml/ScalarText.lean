import Swell.Text.Digit
import Swell.Yaml.Cursor

/-!
# Texts of scalars

How the text of a scalar is read: plain, between quotes, or as a block of lines. Where a scalar
goes on in another line, one line end becomes a space, and of several all but the first are kept.
-/
namespace Swell.Yaml

/-- What stands between two words of a scalar. -/
structure Gap where
  /-- The spaces and tabs before the first line end, the last first. -/
  spacing : List Char
  broken : Bool
  /-- The first line end. A line that was ended by a backslash has none. -/
  first : Option Char
  /-- The further line ends, the last first. -/
  more : List Char

namespace Gap

def empty : Gap :=
  ⟨[], false, none, []⟩

def afterBackslash : Gap :=
  ⟨[], true, none, []⟩

def endLine (g : Gap) (lineEnd : Char) : Gap :=
  if g.broken then { g with more := lineEnd :: g.more } else ⟨[], true, some lineEnd, []⟩

def text (g : Gap) : List Char :=
  if !g.broken then g.spacing.reverse
  else
    match g.first with
    | some '\n' => if g.more.isEmpty then [' '] else g.more.reverse
    | first => first.toList ++ g.more.reverse

/-- Reads on over spaces, tabs and line ends. In a new line no tab may stand in front of the column
`margin`. -/
def read? (margin : Nat) : Nat → Gap → Cursor → Option (Gap × Cursor)
  | 0, _, _ => none
  | fuel + 1, g, c =>
    match c.head? with
    | none => some (g, c)
    | some x =>
      if isSpacing x then
        if !g.broken then read? margin fuel { g with spacing := x :: g.spacing } (c.skip 1)
        else if x == '\t' && c.column < margin then none
        else read? margin fuel g (c.skip 1)
      else
        match c.lineEnd? with
        | some (lineEnd, next) => read? margin fuel (g.endLine lineEnd) next
        | none => some (g, c)

end Gap

def isFlowMark (c : Char) : Bool :=
  c == ',' || c == '[' || c == ']' || c == '\x7b' || c == '\x7d'

private def readPlainWord? (inFlow : Bool) :
    Nat → List Char → Cursor → Option (List Char × Cursor)
  | 0, _, _ => none
  | fuel + 1, word, c =>
    match c.rest with
    | [] => some (word, c)
    | x :: after =>
      if endsWord c.rest then some (word, c)
      else if inFlow && x == ':' && after.head?.any (fun y => isFlowMark y || y == '?') then none
      else if (x == ':' && endsWord after) || (inFlow && isFlowMark x) then some (word, c)
      else readPlainWord? inFlow fuel (x :: word) (c.skip 1)

/-- The words of a plain scalar from one on, after those already found, the last character first.
Also gives whether the scalar ended behind the end of a line. -/
private def readPlainWords? (inFlow : Bool) (margin : Nat) :
    Nat → List Char → Gap → Cursor → Option (List Char × Bool × Cursor)
  | 0, _, _, _ => none
  | fuel + 1, found, gap, c =>
    if c.atDocumentMark || c.sees '#' then some (found, gap.broken, c)
    else do
      let (word, c) ← readPlainWord? inFlow (c.left + 1) [] c
      let (found, gap) :=
        if word.isEmpty then (found, gap) else (word ++ gap.text.reverse ++ found, Gap.empty)
      if c.rest.isEmpty || !endsWord c.rest then some (found, gap.broken, c)
      else
        let (gap, c) ← Gap.read? margin (c.left + 1) gap c
        if !inFlow && c.column < margin then some (found, gap.broken, c)
        else readPlainWords? inFlow margin fuel found gap c

/-- A plain scalar. In a block its further lines start at the column `margin` or behind it. -/
def readPlain? (inFlow : Bool) (margin : Nat) (c : Cursor) : Option (String × Bool × Cursor) :=
  (readPlainWords? inFlow margin (c.left + 1) [] Gap.empty c).map fun (text, broken, c) =>
    (String.ofList text.reverse, broken, c)

def escaped? : Char → Option Char
  | '0' => some '\x00'
  | 'a' => some '\x07'
  | 'b' => some '\x08'
  | 't' => some '\t'
  | '\t' => some '\t'
  | 'n' => some '\n'
  | 'v' => some '\x0b'
  | 'f' => some '\x0c'
  | 'r' => some '\r'
  | 'e' => some '\x1b'
  | ' ' => some ' '
  | '"' => some '"'
  | '/' => some '/'
  | '\\' => some '\\'
  | 'N' => some '\u0085'
  | '_' => some '\u00a0'
  | 'L' => some '\u2028'
  | 'P' => some '\u2029'
  | _ => none

def escapeDigits? : Char → Option Nat
  | 'x' => some 2
  | 'u' => some 4
  | 'U' => some 8
  | _ => none

private def readEscape? (c : Cursor) : Option (Char × Cursor) :=
  match c.rest with
  | _ :: letter :: after =>
    match escapeDigits? letter with
    | none => (escaped? letter).map (·, c.skip 2)
    | some count =>
      if after.length < count then none
      else
        ((Text.hexadecimalValue? (after.take count)).bind Text.charOf?).map
          (·, c.skip (2 + count))
  | _ => none

private def readQuotedWord? (quote : Char) :
    Nat → List Char → Cursor → Option (List Char × Gap × Cursor)
  | 0, _, _ => none
  | fuel + 1, found, c =>
    match c.rest with
    | [] => some (found, Gap.empty, c)
    | x :: after =>
      if endsWord c.rest then some (found, Gap.empty, c)
      else if quote == '\'' && x == '\'' && after.head? == some '\'' then
        readQuotedWord? quote fuel ('\'' :: found) (c.skip 2)
      else if x == quote then some (found, Gap.empty, c)
      else if quote == '"' && x == '\\' then
        if after.head?.any isLineEnd then
          some (found, Gap.afterBackslash, (c.skip 1).skipLineEnd)
        else do
          let (x, c) ← readEscape? c
          readQuotedWord? quote fuel (x :: found) c
      else readQuotedWord? quote fuel (x :: found) (c.skip 1)

private def readQuotedWords? (quote : Char) :
    Nat → List Char → Cursor → Option (List Char × Cursor)
  | 0, _, _ => none
  | fuel + 1, found, c =>
    if c.atDocumentMark || c.rest.isEmpty then none
    else do
      let (found, gap, c) ← readQuotedWord? quote (c.left + 1) found c
      if c.sees quote then some (found, c.skip 1)
      else
        let (gap, c) ← Gap.read? 0 (c.left + 1) gap c
        readQuotedWords? quote fuel (gap.text.reverse ++ found) c

def readQuoted? (quote : Char) (c : Cursor) : Option (String × Cursor) :=
  (readQuotedWords? quote (c.left + 1) [] (c.skip 1)).map fun (text, c) =>
    (String.ofList text.reverse, c)

/-- What becomes of the line ends behind the last line of a block. -/
inductive Chomping where
  | strip
  /-- One is kept. -/
  | clip
  | keep
  deriving Repr, DecidableEq

private def chomping? : Char → Option Chomping
  | '+' => some .keep
  | '-' => some .strip
  | _ => none

private def indentation? (c : Char) : Option Nat :=
  if c.isDigit && c != '0' then some (Text.digitValue c) else none

/-- The marks behind the indicator of a block, in either order: what becomes of the line ends at
its end, and how far it is indented. -/
private def readBlockMarks? (c : Cursor) : Option (Chomping × Option Nat × Cursor) :=
  match c.head?.bind chomping? with
  | some chomping =>
    let c := c.skip 1
    if !c.head?.any Char.isDigit then some (chomping, none, c)
    else (c.head?.bind indentation?).map fun n => (chomping, some n, c.skip 1)
  | none =>
    if !c.head?.any Char.isDigit then some (.clip, none, c)
    else do
      let n ← c.head?.bind indentation?
      let c := c.skip 1
      match c.head?.bind chomping? with
      | some chomping => some (chomping, some n, c.skip 1)
      | none => some (.clip, some n, c)

/-- The indentation of the next line and the lines without text before it. `indent` is the block's
indentation, if it is known. Gives the greatest indentation, and the line ends, the last first. -/
private def readBlankLines? (indent : Option Nat) :
    Nat → Nat → List Char → Cursor → Option (Nat × List Char × Cursor)
  | 0, _, _, _ => none
  | fuel + 1, deepest, ends, c =>
    let spaces := (c.rest.takeWhile (· == ' ')).length
    let c := c.skip (match indent with
      | some indent => min spaces (indent - c.column)
      | none => spaces)
    if c.sees '\t' && indent.all (c.column < ·) then none
    else
      match c.lineEnd? with
      | some (lineEnd, next) =>
        readBlankLines? indent fuel (max deepest c.column) (lineEnd :: ends) next
      | none => some (max deepest c.column, ends, c)

/-- The lines of a block. In a folded block a line end becomes a space between two lines of which
neither starts with spacing. -/
private structure BlockLines where
  /-- The text, the last character first. -/
  found : List Char
  /-- The end of the last line. -/
  lastEnd : Option Char
  /-- The last line started with spacing. -/
  spaced : Bool
  /-- The ends of the lines without text behind it, the last first. -/
  ends : List Char

private def readBlockLines? (folds : Bool) (indent : Nat) :
    Nat → BlockLines → Cursor → Option (BlockLines × Cursor)
  | 0, _, _ => none
  | fuel + 1, b, c =>
    if c.column = indent && !c.rest.isEmpty then do
      let spaced := c.head?.any isSpacing
      let joint :=
        if folds && b.lastEnd == some '\n' && !b.spaced && !spaced then
          if b.ends.isEmpty then [' '] else []
        else b.lastEnd.toList
      let (line, c) := c.span fun x => !isLineEnd x
      let found := line.reverse ++ b.ends ++ joint ++ b.found
      let lastEnd := c.lineEnd?.map (·.1)
      let c := c.skipLineEnd
      let (_, ends, c) ← readBlankLines? (some indent) (c.left + 1) 0 [] c
      readBlockLines? folds indent fuel ⟨found, lastEnd, spaced, ends⟩ c
    else some (b, c)

/-- A block of lines; the cursor stands on its indicator. `outer` is the column of the block
around it, if there is one. -/
def readBlock? (folds : Bool) (outer : Option Nat) (c : Cursor) : Option (String × Cursor) := do
  let (chomping, given, c) ← readBlockMarks? (c.skip 1)
  let c ← c.toLineEnd?
  let c := c.skipLineEnd
  let given := given.map (outer.getD 0 + ·)
  let (deepest, ends, c) ← readBlankLines? given (c.left + 1) 0 [] c
  let least := match outer with
    | some column => column + 1
    | none => 0
  let indent := given.getD (max deepest (max least 1))
  let (lines, c) ← readBlockLines? folds indent (c.left + 1) ⟨[], none, false, ends⟩ c
  let tail := match chomping with
    | .strip => []
    | .clip => lines.lastEnd.toList
    | .keep => lines.lastEnd.toList ++ lines.ends.reverse
  return (String.ofList (lines.found.reverse ++ tail), c)

end Swell.Yaml
