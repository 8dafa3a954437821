import Swell.Pattern.Expr
import Swell.Text.Blank
import Swell.Text.Digit

/-!
# Reading pattern expressions

The notation of patterns: branches between bars, groups in parentheses, classes in brackets,
counts after what they repeat, and escapes. A flag holds up to the end of the group in which it
is set. Back references and conditions on what lies further ahead or behind are not part of the
notation. The reader goes through the text once, from left to right. It takes every name of a
property or a group; which names there are is up to the engine.
-/
namespace Swell.Pattern
open Swell.Text

structure Flags where
  ignoreCase : Bool := false
  multiLine : Bool := false
  /-- The dot also takes line ends. -/
  dotAll : Bool := false
  /-- A carriage return ends lines too. -/
  crlf : Bool := false
  /-- Classes are those of all scripts, not of ASCII alone. -/
  unicode : Bool := true
  /-- Blanks and comments between the signs of the pattern count for nothing. -/
  verbose : Bool := false

namespace Flags

/-- Turns the flag of a letter on or off. Which repetition is tried first makes no difference to
what is matched, so the flag for that is read and has no effect. -/
def set (flags : Flags) (letter : Char) (value : Bool) : Flags :=
  match letter with
  | 'i' => { flags with ignoreCase := value }
  | 'm' => { flags with multiLine := value }
  | 's' => { flags with dotAll := value }
  | 'R' => { flags with crlf := value }
  | 'u' => { flags with unicode := value }
  | 'x' => { flags with verbose := value }
  | _ => flags

def letters : List Char :=
  ['i', 'm', 's', 'R', 'U', 'u', 'x']

def folded (flags : Flags) (c : CharClass) : CharClass :=
  if !flags.ignoreCase then c else if flags.unicode then .anyCase c else .anyAsciiCase c

/-- The complement of a class, where it is asked for. A class of ASCII has none, since it would
hold bytes that are no characters. -/
def complemented? (flags : Flags) (negated : Bool) (c : CharClass) : Option CharClass :=
  if !negated then some c else if flags.unicode then some (.negated c) else none

end Flags

def skipVerbose (inComment : Bool) : List Char → List Char
  | [] => []
  | c :: cs =>
    if inComment then skipVerbose (c != '\n') cs
    else if isBlank c then skipVerbose false cs
    else if c == '#' then skipVerbose true cs
    else c :: cs

def skip (flags : Flags) (cs : List Char) : List Char :=
  if flags.verbose then skipVerbose false cs else cs

def readDigits (flags : Flags) :
    Nat → List Nat → List Char → List Nat × List Char
  | 0, digits, cs => (digits, cs)
  | fuel + 1, digits, cs =>
    match cs with
    | [] => (digits, [])
    | c :: rest =>
      if c.isDigit then readDigits flags fuel (digitValue c :: digits) (skip flags rest)
      else (digits, cs)

/-- A number of at most 32 bits between blanks. -/
def readNumber? (flags : Flags) (cs : List Char) : Option (Nat × List Char) :=
  let cs := cs.dropWhile isBlank
  let (digits, rest) := readDigits flags cs.length [] cs
  let value := valueOf 10 digits.reverse
  if digits.isEmpty || Nat.pow 2 32 ≤ value then none
  else some (value, skip flags (rest.dropWhile isBlank))

def readHexDigits? (flags : Flags) :
    Nat → List Nat → List Char → Option (List Nat × List Char)
  | 0, digits, cs => some (digits, cs)
  | n + 1, digits, cs =>
    match cs with
    | [] => none
    | c :: rest =>
      (hexValue? c).bind fun d => readHexDigits? flags n (d :: digits) (skip flags rest)

def readHexBraced? (flags : Flags) :
    Nat → List Nat → List Char → Option (List Nat × List Char)
  | 0, _, _ => none
  | fuel + 1, digits, cs =>
    match cs with
    | [] => none
    | '\x7d' :: rest => some (digits, skip flags rest)
    | c :: rest =>
      (hexValue? c).bind fun d => readHexBraced? flags fuel (d :: digits) (skip flags rest)

/-- One sign of a pattern: a character, a condition or a class. `byte` marks a character that is
given as a byte. -/
inductive Sign where
  | char (c : Char) (byte : Bool)
  | look (condition : Look)
  | oneOf (members : CharClass)

def readHex? (flags : Flags) (width : Nat) (cs : List Char) : Option (Sign × List Char) :=
  match skip flags cs with
  | '\x7b' :: rest => do
    let (digits, rest) ← readHexBraced? flags (rest.length + 1) [] (skip flags rest)
    if digits.isEmpty then none
    else (charOf? (valueOf 16 digits.reverse)).map fun c => (.char c false, rest)
  | cs => do
    let (digits, rest) ← readHexDigits? flags width [] cs
    (charOf? (valueOf 16 digits.reverse)).map fun c => (.char c (width == 2), rest)

def readBraced? (flags : Flags) :
    Nat → List Char → List Char → Option (List Char × List Char)
  | 0, _, _ => none
  | fuel + 1, name, cs =>
    match cs with
    | [] => none
    | '\x7d' :: rest => some (name.reverse, rest)
    | c :: rest => readBraced? flags fuel (c :: name) (skip flags rest)

def cutAt? (mark : List Char) : List Char → Option (List Char × List Char)
  | [] => none
  | c :: cs =>
    if mark.isPrefixOf (c :: cs) then some ([], (c :: cs).drop mark.length)
    else (cutAt? mark cs).map fun (before, after) => (c :: before, after)

/-- The property that a name in braces stands for, and whether the name negates it. -/
def propertyOf (name : List Char) : Property × Bool :=
  let valued (cut : List Char × List Char) : Property :=
    .valued (String.ofList cut.1) (String.ofList cut.2)
  match cutAt? ['!', '='] name with
  | some cut => (valued cut, true)
  | none =>
    match (cutAt? [':'] name).or (cutAt? ['='] name) with
    | some cut => (valued cut, false)
    | none => (.named (String.ofList name), false)

def readProperty? (flags : Flags) (negated : Bool) (cs : List Char) :
    Option (Sign × List Char) := do
  let (name, rest) ← match skip flags cs with
    | [] => none
    | '\\' :: _ => none
    | '\x7b' :: rest => readBraced? flags (rest.length + 1) [] (skip flags rest)
    | c :: rest => some ([c], skip flags rest)
  let (property, otherwise) := propertyOf name
  if flags.unicode then
    let members ← flags.complemented? (negated != otherwise) (flags.folded (.property property))
    some (.oneOf members, rest)
  else none

def readPerl? (flags : Flags) (negated : Bool) (everywhere ascii : CharClass)
    (rest : List Char) : Option (Sign × List Char) :=
  (flags.complemented? negated (if flags.unicode then everywhere else ascii)).map
    fun members => (.oneOf members, rest)

def isEdgeNameSign (c : Char) : Bool :=
  c.isAlpha || c == '-'

def readEdgeName (flags : Flags) : Nat → List Char → List Char → List Char × List Char
  | 0, name, cs => (name.reverse, cs)
  | fuel + 1, name, cs =>
    match cs with
    | [] => (name.reverse, [])
    | c :: rest =>
      if isEdgeNameSign c then readEdgeName flags fuel (c :: name) (skip flags rest)
      else (name.reverse, cs)

/-- What stands behind `\b`: the name of one kind of word edge in braces, or nothing. Braces that
do not start with a name count repetitions. -/
def readEdge? (flags : Flags) (cs : List Char) : Option (Sign × List Char) :=
  let ascii := !flags.unicode
  match cs with
  | '\x7b' :: rest =>
    match skip flags rest with
    | [] => none
    | c :: rest =>
      if isEdgeNameSign c then
        match readEdgeName flags (rest.length + 1) [] (c :: rest) with
        | (name, '\x7d' :: rest) =>
          match String.ofList name with
          | "start" => some (.look (.wordStart ascii), rest)
          | "end" => some (.look (.wordEnd ascii), rest)
          | "start-half" => some (.look (.wordStartHalf ascii), rest)
          | "end-half" => some (.look (.wordEndHalf ascii), rest)
          | _ => none
        | _ => none
      else some (.look (.wordEdge ascii), cs)
  | _ => some (.look (.wordEdge ascii), cs)

def readEscape? (flags : Flags) : List Char → Option (Sign × List Char)
  | [] => none
  | c :: rest =>
    let ascii := !flags.unicode
    match c with
    | 'x' => readHex? flags 2 rest
    | 'u' => readHex? flags 4 rest
    | 'U' => readHex? flags 8 rest
    | 'p' => readProperty? flags false rest
    | 'P' => readProperty? flags true rest
    | 'd' => readPerl? flags false (.property .digit) .asciiDigit rest
    | 'D' => readPerl? flags true (.property .digit) .asciiDigit rest
    | 's' => readPerl? flags false (.property .blank) .asciiBlank rest
    | 'S' => readPerl? flags true (.property .blank) .asciiBlank rest
    | 'w' => readPerl? flags false (.property .word) .asciiWord rest
    | 'W' => readPerl? flags true (.property .word) .asciiWord rest
    | 'a' => some (.char '\x07' false, rest)
    | 'f' => some (.char '\x0c' false, rest)
    | 't' => some (.char '\t' false, rest)
    | 'n' => some (.char '\n' false, rest)
    | 'r' => some (.char '\r' false, rest)
    | 'v' => some (.char '\x0b' false, rest)
    | 'A' => some (.look .textStart, rest)
    | 'z' => some (.look .textEnd, rest)
    | 'b' => readEdge? flags rest
    | 'B' => some (.look (.noWordEdge ascii), rest)
    | '<' => some (.look (.wordStart ascii), rest)
    | '>' => some (.look (.wordEnd ascii), rest)
    | c => if c.toNat < 128 && !c.isAlphanum then some (.char c false, rest) else none

/-- A class as far as it is read, with the depth of brackets and operators in it. -/
structure ClassPart where
  members : CharClass
  nesting : Nat

def classUnion : List ClassPart → ClassPart
  | [] => ⟨.none, 0⟩
  | [part] => part
  | parts =>
    ⟨.unionOf (parts.map (·.members)), 1 + parts.foldl (fun n part => max n part.nesting) 0⟩

inductive ClassOp where
  | inter
  | minus
  | symmetric

def ClassOp.apply : ClassOp → CharClass → CharClass → CharClass
  | .inter => .inter
  | .minus => .minus
  | .symmetric => .symmetric

def joinClass (flags : Flags) (left : Option (ClassPart × ClassOp)) (right : ClassPart) :
    ClassPart :=
  match left with
  | none => right
  | some (left, op) =>
    ⟨op.apply (flags.folded left.members) (flags.folded right.members),
      1 + max left.nesting right.nesting⟩

def readAsciiName? (flags : Flags) (cs : List Char) :
    Option (Option CharClass × List Char) :=
  match cs with
  | '[' :: ':' :: rest =>
    let (negated, rest) := match rest with
      | '^' :: rest => (true, rest)
      | rest => (false, rest)
    match rest.dropWhile (· != ':') with
    | ':' :: ']' :: after =>
      (CharClass.ofAsciiName? (String.ofList (rest.takeWhile (· != ':')))).map fun c =>
        (flags.complemented? negated (flags.folded c), after)
    | _ => none
  | _ => none

def memberOf? (flags : Flags) : Sign → Option Char
  | .char c _ => if flags.unicode || c.toNat < 128 then some c else none
  | _ => none

def readClassSign? (flags : Flags) : List Char → Option (Sign × List Char)
  | [] => none
  | '\\' :: rest => readEscape? flags rest
  | c :: rest => some (.char c false, rest)

def readClassItem? (flags : Flags) (cs : List Char) : Option (CharClass × List Char) := do
  let (sign, rest) ← readClassSign? flags cs
  let alone : Option (CharClass × List Char) := match sign with
    | .oneOf members => some (members, skip flags rest)
    | sign => (memberOf? flags sign).map fun c => (.single c, skip flags rest)
  match skip flags rest with
  | [] => none
  | '-' :: after =>
    match skip flags after with
    | [] => none
    | ']' :: _ => alone
    | '-' :: _ => alone
    | after => do
      let (last, rest) ← readClassSign? flags after
      let first ← memberOf? flags sign
      let last ← memberOf? flags last
      if first.toNat ≤ last.toNat then some (.interval first last, rest) else none
  | _ => alone

/-- The hyphens at the front of a class stand for themselves. -/
def readHyphens (flags : Flags) :
    Nat → List ClassPart → List Char → List ClassPart × List Char
  | 0, parts, cs => (parts, cs)
  | fuel + 1, parts, cs =>
    match cs with
    | '-' :: rest => readHyphens flags fuel (⟨.single '-', 0⟩ :: parts) (skip flags rest)
    | cs => (parts, cs)

/-- The front of a class, behind its bracket: the mark of a complement, then hyphens or a closing
bracket that stand for themselves. -/
def readClassFront (flags : Flags) (cs : List Char) :
    Bool × List ClassPart × List Char :=
  let cs := skip flags cs
  let (negated, cs) := match cs with
    | '^' :: rest => (true, skip flags rest)
    | cs => (false, cs)
  match readHyphens flags cs.length [] cs with
  | ([], ']' :: rest) => (negated, [⟨.single ']', 0⟩], skip flags rest)
  | (parts, cs) => (negated, parts, cs)

mutual

/-- A class, behind its opening bracket. -/
def readClass? (flags : Flags) : Nat → List Char → Option (ClassPart × List Char)
  | 0, _ => none
  | fuel + 1, cs => do
    let (negated, parts, cs) := readClassFront flags cs
    let (part, rest) ← readClassParts? flags fuel none parts cs
    let members ← flags.complemented? negated (flags.folded part.members)
    some (⟨members, part.nesting + 1⟩, rest)

def readClassParts? (flags : Flags) :
    Nat → Option (ClassPart × ClassOp) → List ClassPart → List Char →
      Option (ClassPart × List Char)
  | 0, _, _, _ => none
  | fuel + 1, left, parts, cs =>
    let operator (op : ClassOp) (rest : List Char) :=
      readClassParts? flags fuel (some (joinClass flags left (classUnion parts), op)) [] rest
    match skip flags cs with
    | [] => none
    | ']' :: rest => some (joinClass flags left (classUnion parts), rest)
    | '&' :: '&' :: rest => operator .inter rest
    | '-' :: '-' :: rest => operator .minus rest
    | '~' :: '~' :: rest => operator .symmetric rest
    | '[' :: rest =>
      match readAsciiName? flags ('[' :: rest) with
      | some (members, rest) => do
        readClassParts? flags fuel left (⟨← members, 0⟩ :: parts) rest
      | none => do
        let (part, rest) ← readClass? flags fuel rest
        readClassParts? flags fuel left (part :: parts) rest
    | cs => do
      let (members, rest) ← readClassItem? flags cs
      readClassParts? flags fuel left (⟨members, 0⟩ :: parts) rest

end

/-- An expression as far as it is read, with the depth of what it is made of. -/
structure Piece where
  expr : Expr
  nesting : Nat

/-- What a branch holds so far, the last first. A change of flags is no expression. -/
abbrev Branch := List (Option Piece)

def nestingOf (pieces : List Piece) : Nat :=
  1 + pieces.foldl (fun n piece => max n piece.nesting) 0

def Branch.close (branch : Branch) : Piece :=
  match branch with
  | [] => ⟨.empty, 0⟩
  | [piece] => piece.getD ⟨.empty, 0⟩
  | branch =>
    let pieces := branch.filterMap id
    match pieces with
    | [] => ⟨.empty, 1⟩
    | last :: before =>
      ⟨before.foldl (fun e piece => .next piece.expr e) last.expr, nestingOf pieces⟩

/-- The choice between the branches read before, the last first, and the branch read now. -/
def closeBranches (done : List Piece) (branch : Branch) : Piece :=
  match done with
  | [] => branch.close
  | done =>
    let last := branch.close
    ⟨done.foldl (fun e piece => .either piece.expr e) last.expr, nestingOf (last :: done)⟩

def Branch.repeat? (branch : Branch) (least : Nat) (most : Option Nat) : Option Branch :=
  match branch with
  | some piece :: before =>
    some (some ⟨.repeated piece.expr least most, piece.nesting + 1⟩ :: before)
  | _ => none

def dropLazyMark : List Char → List Char
  | '?' :: rest => rest
  | rest => rest

/-- The bounds of a count, behind its opening brace. -/
def readBounds? (flags : Flags) (cs : List Char) :
    Option ((Nat × Option Nat) × List Char) := do
  let (least, rest) ← readNumber? flags (skip flags cs)
  match rest with
  | '\x7d' :: rest => some ((least, some least), rest)
  | ',' :: rest =>
    match skip flags rest with
    | '\x7d' :: rest => some ((least, none), rest)
    | rest => do
      let (most, rest) ← readNumber? flags rest
      match rest with
      | '\x7d' :: rest => if least ≤ most then some ((least, some most), rest) else none
      | _ => none
  | _ => none

def readGroupName? : List Char → Option (List Char × List Char)
  | [] => none
  | c :: rest =>
    if c == '>' then some ([], rest)
    else (readGroupName? rest).map fun (name, rest) => (c :: name, rest)

/-- Letters of flags, those behind a hyphen turned off, up to a colon or a closing parenthesis.
No letter and no hyphen stands twice, and no hyphen last. -/
def readFlags? (seen : List Char) (negated dangling : Bool) :
    List Char → Option (List (Char × Bool) × Char × List Char)
  | [] => none
  | c :: rest =>
    if c == ':' || c == ')' then if dangling then none else some ([], c, rest)
    else if c == '-' then if negated then none else readFlags? seen true true rest
    else if Flags.letters.contains c && !seen.contains c then
      (readFlags? (c :: seen) negated false rest).map fun (settings, close, rest) =>
        ((c, !negated) :: settings, close, rest)
    else none

inductive Opening where
  /-- New flags for the rest of the group around. -/
  | settings (flags : Flags)
  | group (flags : Flags) (names : List (List Char))

/-- Reads on behind an opening parenthesis. Groups with a name need a new one. -/
def readOpening? (flags : Flags) (names : List (List Char)) (cs : List Char) :
    Option (Opening × List Char) :=
  let named (rest : List Char) : Option (Opening × List Char) := do
    let (name, rest) ← readGroupName? rest
    if name.isEmpty || names.contains name then none else some (.group flags (name :: names), rest)
  match cs with
  | '?' :: 'P' :: '<' :: rest => named rest
  | '?' :: '<' :: rest => named rest
  | '?' :: rest => do
    let (settings, close, rest) ← readFlags? [] false false rest
    let changed := settings.foldl (fun flags s => flags.set s.1 s.2) flags
    if close == ':' then some (.group changed names, rest)
    else if settings.isEmpty then none
    else some (.settings changed, rest)
  | rest => some (.group flags names, rest)

def Sign.expr? (flags : Flags) : Sign → Option Expr
  | .char c byte =>
    if byte && !flags.unicode && 128 ≤ c.toNat then none
    else if flags.unicode || c.toNat < 128 then some (.one (flags.folded (.single c)))
    else some (.one (.single c))
  | .look condition => some (.look condition)
  | .oneOf members => some (.one members)

def dot? (flags : Flags) : Option Expr :=
  if !flags.unicode then none
  else if flags.dotAll then some (.one .any)
  else if flags.crlf then some (.one (.negated (.union (.single '\r') (.single '\n'))))
  else some (.one (.negated (.single '\n')))

def lineEdge (flags : Flags) (text line : Look) : Expr :=
  .look (if flags.multiLine then line else text)

def readSign? (flags : Flags) : List Char → Option (Expr × List Char)
  | [] => none
  | '\\' :: rest => do
    let (sign, rest) ← readEscape? flags rest
    (sign.expr? flags).map (·, rest)
  | '.' :: rest => (dot? flags).map (·, rest)
  | '^' :: rest => some (lineEdge flags .textStart (.lineStart flags.crlf), rest)
  | '$' :: rest => some (lineEdge flags .textEnd (.lineEnd flags.crlf), rest)
  | c :: rest => ((Sign.char c false).expr? flags).map (·, rest)

/-- Branches up to the end of the text or a closing parenthesis, which stays. `done` holds the
branches already read and `branch` the pieces of the one being read. -/
def readBranches? (flags : Flags) (names : List (List Char)) (done : List Piece)
    (branch : Branch) : Nat → List Char → Option (Piece × List (List Char) × List Char)
  | 0, _ => none
  | fuel + 1, cs =>
    let repeated (least : Nat) (most : Option Nat) (rest : List Char) := do
      readBranches? flags names done (← branch.repeat? least most) fuel (dropLazyMark rest)
    match skip flags cs with
    | [] => some (closeBranches done branch, names, [])
    | ')' :: rest => some (closeBranches done branch, names, ')' :: rest)
    | '|' :: rest => readBranches? flags names (branch.close :: done) [] fuel rest
    | '?' :: rest => repeated 0 (some 1) rest
    | '*' :: rest => repeated 0 none rest
    | '+' :: rest => repeated 1 none rest
    | '\x7b' :: rest => do
      let ((least, most), rest) ← readBounds? flags rest
      repeated least most (skip flags rest)
    | '[' :: rest => do
      let (part, rest) ← readClass? flags (rest.length + 1) rest
      readBranches? flags names done (some ⟨.one part.members, part.nesting⟩ :: branch) fuel rest
    | '(' :: rest => do
      match ← readOpening? flags names (skip flags rest) with
      | (.settings changed, rest) => readBranches? changed names done (none :: branch) fuel rest
      | (.group changed names, rest) =>
        match ← readBranches? changed names [] [] fuel rest with
        | (piece, names, ')' :: rest) =>
          readBranches? flags names done (some ⟨piece.expr, piece.nesting + 1⟩ :: branch) fuel rest
        | _ => none
    | cs => do
      let (e, rest) ← readSign? flags cs
      readBranches? flags names done (some ⟨e, 0⟩ :: branch) fuel rest

def readWhole? (cs : List Char) : Option (Piece × List (List Char)) :=
  match readBranches? {} [] [] [] (cs.length + 1) cs with
  | some (piece, names, []) => some (piece, names)
  | _ => none

def nestingLimit : Nat := 250

def Expr.read? (cs : List Char) : Option Expr :=
  match readWhole? cs with
  | some (piece, _) => if piece.nesting ≤ nestingLimit then some piece.expr else none
  | none => none

end Swell.Pattern
