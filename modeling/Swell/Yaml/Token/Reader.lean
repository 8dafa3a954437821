import Swell.Yaml.ScalarText
import Swell.Yaml.Token

/-!
# Reading tokens

The tokens of a document are read from its start to its end. Blocks are opened and closed by the
columns in which things stand. That something is a key shows only at the colon behind it: in front
of everything that may turn out to be one, a place is kept free for the tokens that a key takes.
-/
namespace Swell.Yaml

private def readName? (c : Cursor) : Option (String × Cursor) :=
  let (name, c) := (c.skip 1).span isNameChar
  let ends := endsWord c.rest || c.head?.any fun x => "?:,]\x7d%@\u0060".toList.contains x
  if name.isEmpty || !ends then none else some (String.ofList name, c)

private def isUriChar (verbatim : Bool) (c : Char) : Bool :=
  isNameChar c || ";/?:@&=+$.!~*'()%".toList.contains c
    || (verbatim && (c == ',' || c == '[' || c == ']'))

private def readByte? (c : Cursor) : Option (Nat × Cursor) :=
  match c.rest with
  | '%' :: high :: low :: _ => do
    some (16 * (← Text.hexValue? high) + (← Text.hexValue? low), c.skip 3)
  | _ => none

private def readBytes? : Nat → Nat → Cursor → Option (Nat × Cursor)
  | 0, code, c => some (code, c)
  | count + 1, code, c => do
    let (byte, c) ← readByte? c
    if byte / 64 = 2 then readBytes? count (code * 64 + byte % 64) c else none

private def readEncoded? (c : Cursor) : Option (Char × Cursor) := do
  let (byte, c) ← readByte? c
  let (code, c) ←
    if byte < 128 then some (byte, c)
    else if byte / 32 = 6 then readBytes? 1 (byte % 32) c
    else if byte / 16 = 14 then readBytes? 2 (byte % 16) c
    else if byte / 8 = 30 then readBytes? 3 (byte % 8) c
    else none
  some ((Text.charOf? code).getD '\ufffd', c)

private def readUri? (verbatim : Bool) : Nat → List Char → Cursor → Option (List Char × Cursor)
  | 0, _, _ => none
  | fuel + 1, found, c =>
    match c.head? with
    | none => some (found, c)
    | some x =>
      if x == '%' then do
        let (x, c) ← readEncoded? c
        readUri? verbatim fuel (x :: found) c
      else if isUriChar verbatim x then readUri? verbatim fuel (x :: found) (c.skip 1)
      else some (found, c)

/-- The rest of a tag. One that has nothing in front of it must not be empty. -/
private def readSuffix? (verbatim : Bool) (front : Option (List Char)) (c : Cursor) :
    Option (String × Cursor) := do
  let (found, c) ← readUri? verbatim (c.left + 1) [] c
  if front.isNone && found.isEmpty then none
  else some (String.ofList (front.getD [] ++ found.reverse), c)

/-- What may be the handle of a tag: an exclamation mark, a name, and another one. -/
private def readHandle (c : Cursor) : List Char × Cursor :=
  let (name, c) := (c.skip 1).span isNameChar
  if c.sees '!' then ('!' :: name ++ ['!'], c.skip 1) else ('!' :: name, c)

private def readTag? (inFlow : Bool) (c : Cursor) : Option (Token × Cursor) := do
  let (token, c) ←
    if (c.skip 1).sees '<' then do
      let (uri, c) ← readSuffix? true none (c.skip 2)
      if c.sees '>' then some (Token.tag "" uri, c.skip 1) else none
    else
      let (handle, c) := readHandle c
      if 1 < handle.length && handle.getLast? == some '!' then do
        let (suffix, c) ← readSuffix? false none c
        some (Token.tag (String.ofList handle) suffix, c)
      else do
        let (suffix, c) ← readSuffix? false (some (handle.drop 1)) c
        some (if suffix.isEmpty then Token.tag "" "!" else Token.tag "!" suffix, c)
  if endsWord c.rest || (inFlow && c.sees ',') then some (token, c) else none

private def versionDigits : Nat := 9

private def readVersionNumber? (c : Cursor) : Option (Nat × Cursor) :=
  let (digits, c) := c.span Char.isDigit
  if digits.isEmpty || versionDigits < digits.length then none
  else some (Text.decimalValue digits, c)

private def readDirective? (c : Cursor) : Option (Token × Cursor) := do
  let (name, c) := (c.skip 1).span isNameChar
  if !endsWord c.rest then none
  let (token, c) ←
    match String.ofList name with
    | "YAML" => do
      let (major, c) ← readVersionNumber? (c.skipWhile isSpacing)
      if !c.sees '.' then none
      let (minor, c) ← readVersionNumber? (c.skip 1)
      some (Token.version major minor, c)
    | "TAG" => do
      let c := c.skipWhile isSpacing
      if !c.sees '!' then none
      let (handle, c) := readHandle c
      if handle.length ≠ 1 && handle.getLast? ≠ some '!' then none
      if !c.head?.any isSpacing then none
      let (beginning, c) ← readSuffix? true none (c.skipWhile isSpacing)
      if !endsWord c.rest then none
      some (Token.tagHandle (String.ofList handle) beginning, c)
    | _ => none
  let c ← c.toLineEnd?
  some (token, c.skipLineEnd)

/-- Something that may turn out to be a key. -/
private structure KeyCandidate where
  /-- The place that is kept free in front of it. -/
  place : Nat
  /-- It must be a key. -/
  required : Bool
  start : Cursor

/-- A part of the output: a token, or a place that was kept free. -/
private inductive Piece where
  | token (t : Token)
  | place (n : Nat)

private structure Scanner where
  cursor : Cursor
  /-- The output, the newest piece first. -/
  pieces : List Piece
  /-- What stands at each place that was kept free. -/
  places : Array (List Token)
  /-- A key may start here. -/
  keyAllowed : Bool
  /-- What may be a key on the present level of flow collections. -/
  candidate : Option KeyCandidate
  /-- The same on the levels around it, the innermost first. -/
  outer : List (Option KeyCandidate)
  /-- The columns of the open blocks, the innermost first. -/
  indents : List Nat

namespace Scanner

private def start (text : List Char) : Scanner :=
  { cursor := Cursor.start text
    pieces := []
    places := #[]
    keyAllowed := true
    candidate := none
    outer := []
    indents := [] }

private def inFlow (s : Scanner) : Bool :=
  !s.outer.isEmpty

private def emit (s : Scanner) (t : Token) : Scanner :=
  { s with pieces := .token t :: s.pieces }

private def tokens (s : Scanner) : List Token :=
  s.pieces.reverse.flatMap fun
    | .token t => [t]
    | .place n => s.places[n]?.getD []

/-- Opens a block in a column, if it is further in than the innermost one. Says if it did. -/
private def indent (s : Scanner) (column : Nat) : Scanner × Bool :=
  if !s.inFlow && s.indents.head?.all (· < column) then
    ({ s with indents := column :: s.indents }, true)
  else (s, false)

private def openBlock (s : Scanner) (opening : Token) : Scanner :=
  match s.indent s.cursor.column with
  | (s, true) => s.emit opening
  | (s, false) => s

/-- Closes all blocks that satisfy a condition on their column, from the innermost one on. -/
private def closeBlocks (s : Scanner) (p : Nat → Bool) : Scanner :=
  if s.inFlow then s
  else
    let closed := s.indents.takeWhile p
    { s with
      indents := s.indents.drop closed.length
      pieces := closed.map (fun _ => Piece.token .blockEnd) ++ s.pieces }

private def dropCandidate? (s : Scanner) : Option Scanner :=
  if s.candidate.any (·.required) then none else some { s with candidate := none }

/-- Takes what starts here for something that may be a key, where one is allowed. In a block it
must be one if it stands in the column of the block. -/
private def markCandidate? (s : Scanner) : Option Scanner :=
  if !s.keyAllowed then some s
  else do
    let s ← s.dropCandidate?
    let required := !s.inFlow && s.indents.head? == some s.cursor.column
    return { s with
      candidate := some ⟨s.places.size, required, s.cursor⟩
      pieces := .place s.places.size :: s.pieces
      places := s.places.push [] }

private def keyLimit : Nat := 1024

/-- A key ends in the line in which it starts. -/
private def isStale (c : Cursor) (k : KeyCandidate) : Bool :=
  k.start.line < c.line || k.start.index + keyLimit < c.index

private def dropStale? (s : Scanner) : Option Scanner :=
  let stale := fun (k : Option KeyCandidate) => k.any (isStale s.cursor)
  let drop := fun k => if stale k then none else k
  if (s.candidate :: s.outer).any fun k => stale k && k.any (·.required) then none
  else some { s with candidate := drop s.candidate, outer := s.outer.map drop }

/-- Passes over blanks, comments and line ends. Where a key may start in a block, tabs are none. -/
private def toNextToken : Nat → Scanner → Scanner
  | 0, s => s
  | fuel + 1, s =>
    let c := s.cursor.skipWhile fun x =>
      x == ' ' || ((s.inFlow || !s.keyAllowed) && x == '\t')
    let c := if c.sees '#' then c.skipLine else c
    match c.lineEnd? with
    | some (_, next) =>
      toNextToken fuel { s with cursor := next, keyAllowed := s.keyAllowed || !s.inFlow }
    | none => { s with cursor := c }

private def take (s : Scanner) (count : Nat) (t : Token) : Scanner :=
  { s with cursor := s.cursor.skip count }.emit t

private def takeTo (s : Scanner) (next : Cursor) (t : Token) : Scanner :=
  { s with cursor := next }.emit t

/-- The scanner with all blocks closed and no key possible. -/
private def endDocument? (s : Scanner) : Option Scanner := do
  let s ← (s.closeBlocks fun _ => true).dropCandidate?
  return { s with keyAllowed := false }

private def openFlow? (s : Scanner) (t : Token) : Option Scanner := do
  let s ← s.markCandidate?
  return { s with
    keyAllowed := true
    outer := s.candidate :: s.outer
    candidate := none }.take 1 t

private def closeFlow? (s : Scanner) (t : Token) : Option Scanner := do
  let s ← s.dropCandidate?
  let s := match s.outer with
    | candidate :: outer => { s with candidate := candidate, outer := outer }
    | [] => s
  return { s with keyAllowed := false }.take 1 t

private def blockItem? (s : Scanner) : Option Scanner := do
  if !s.inFlow && !s.keyAllowed then none
  let s ← (s.openBlock .blockSequenceStart).dropCandidate?
  return { s with keyAllowed := true }.take 1 .blockEntry

private def explicitKey? (s : Scanner) : Option Scanner := do
  if !s.inFlow && !s.keyAllowed then none
  let s ← (s.openBlock .blockMappingStart).dropCandidate?
  return { s with keyAllowed := !s.inFlow }.take 1 .key

/-- A colon. If there is something in front of it that may be a key, it is one. -/
private def value? (s : Scanner) : Option Scanner :=
  match s.candidate with
  | some k =>
    let (s, opened) := s.indent k.start.column
    let found := if opened then [Token.blockMappingStart, Token.key] else [Token.key]
    some ({ s with
      places := s.places.setIfInBounds k.place found
      candidate := none
      keyAllowed := false }.take 1 .value)
  | none =>
    if !s.inFlow && !s.keyAllowed then none
    else
      some ({ s.openBlock .blockMappingStart with keyAllowed := !s.inFlow }.take 1 .value)

/-- A token behind which no key may start, and which may itself start one. -/
private def inLine? (s : Scanner) (read : Cursor → Option (Token × Cursor)) : Option Scanner := do
  let s ← s.markCandidate?
  let (t, next) ← read s.cursor
  return { s with keyAllowed := false }.takeTo next t

private def block? (s : Scanner) (folds : Bool) : Option Scanner := do
  let s ← s.dropCandidate?
  let (text, next) ← readBlock? folds s.indents.head? s.cursor
  return { s with keyAllowed := true }.takeTo next
    (.scalar text (if folds then .folded else .literal))

private def plain? (s : Scanner) : Option Scanner := do
  let s ← s.markCandidate?
  let margin := match s.indents with
    | [] => 0
    | column :: _ => column + 1
  let (text, broken, next) ← readPlain? s.inFlow margin s.cursor
  return { s with keyAllowed := broken }.takeTo next (.scalar text .plain)

private def isIndicator (c : Char) : Bool :=
  "-?:,[]\x7b\x7d#&*!|>'\"%@\u0060".toList.contains c

/-- A plain scalar starts here. A hyphen, and in a block a question mark or a colon, start one if
they do not stand alone. -/
private def startsPlain (inFlow : Bool) (x : Char) (after : List Char) : Bool :=
  !(isSpacing x || isLineEnd x || isIndicator x)
    || (x == '-' && !after.head?.any isSpacing)
    || (!inFlow && (x == '?' || x == ':') && !endsWord after)

private def readToken? (s : Scanner) (x : Char) (after : List Char) : Option Scanner :=
  let c := s.cursor
  if c.column == 0 && x == '%' then do
    let s ← s.endDocument?
    let (t, next) ← readDirective? c
    return s.takeTo next t
  else if c.marksDocument '-' then s.endDocument?.map (·.take 3 .documentStart)
  else if c.marksDocument '.' then s.endDocument?.map (·.take 3 .documentEnd)
  else if x == '[' then s.openFlow? .flowSequenceStart
  else if x == '\x7b' then s.openFlow? .flowMappingStart
  else if x == ']' then s.closeFlow? .flowSequenceEnd
  else if x == '\x7d' then s.closeFlow? .flowMappingEnd
  else if x == ',' then
    s.dropCandidate?.map fun s => { s with keyAllowed := true }.take 1 .flowEntry
  else if x == '-' && endsWord after then s.blockItem?
  else if x == '?' && (s.inFlow || endsWord after) then s.explicitKey?
  else if x == ':' && (s.inFlow || endsWord after) then s.value?
  else if x == '*' then s.inLine? fun c => (readName? c).map fun (name, c) => (.alias name, c)
  else if x == '&' then s.inLine? fun c => (readName? c).map fun (name, c) => (.anchor name, c)
  else if x == '!' then s.inLine? (readTag? s.inFlow)
  else if x == '|' && !s.inFlow then s.block? false
  else if x == '>' && !s.inFlow then s.block? true
  else if x == '\'' || x == '"' then
    s.inLine? fun c => (readQuoted? x c).map fun (text, c) => (.scalar text .quoted, c)
  else if startsPlain s.inFlow x after then s.plain?
  else none

private def run? : Nat → Scanner → Option Scanner
  | 0, _ => none
  | fuel + 1, s => do
    let s ← (toNextToken (s.cursor.left + 1) s).dropStale?
    let column := s.cursor.column
    let s := s.closeBlocks fun indent => column < indent
    match s.cursor.rest with
    | [] => s.endDocument?
    | x :: after => run? fuel (← s.readToken? x after)

end Scanner

def isDocumentChar (c : Char) : Bool :=
  let n := c.toNat
  n == 0x9 || n == 0xA || n == 0xD || (0x20 ≤ n && n ≤ 0x7E) || n == 0x85
    || (0xA0 ≤ n && n ≤ 0xFFFD) || 0x10000 ≤ n

/-- Passes over a byte order mark at the start of a text. It takes up a column. -/
private def Cursor.skipOrderMark (c : Cursor) : Cursor :=
  if c.sees '\ufeff' then c.skip 1 else c

def tokens? (text : String) : Option (List Token) :=
  let cs := text.toList
  if !cs.all isDocumentChar then none
  else
    let s := Scanner.start cs
    (Scanner.run? (cs.length + 2) { s with cursor := s.cursor.skipOrderMark }).map Scanner.tokens

end Swell.Yaml
