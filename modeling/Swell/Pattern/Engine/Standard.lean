import Swell.Pattern.Reader
import Swell.Text.CaseFold
import Swell.Text.Property
import Swell.Text.Script

/-!
# The standard engine

The engine that knows the general categories, the scripts and a few more properties of characters.
How great an expression is when its counted repetitions are written out is estimated.
-/
namespace Swell.Pattern
open Swell.Text

namespace Engine

/-- A set of characters that the tables hold, and about how many bytes it takes in an expression. -/
structure Known where
  holds : Char → Bool
  bulk : Nat

private def isAssigned (c : Char) : Bool :=
  Category.holdsAny Category.all c

/-- A name without case, blanks, hyphens, underscores and a leading `is`. -/
def normalName (name : String) : String :=
  let keep (cs : List Char) :=
    (cs.filter fun c => c.toNat < 128 && !(c == ' ' || c == '_' || c == '-')).map Char.toLower
  match name.toList with
  | i :: s :: rest =>
    if i.toLower == 'i' && s.toLower == 's' then
      let kept := keep rest
      if kept == ['c'] then "isc" else String.ofList kept
    else String.ofList (keep name.toList)
  | cs => String.ofList (keep cs)

def category? (name : String) : Option Known :=
  let of (gs : List Category) : Option Known := some ⟨Category.holdsAny gs, 20000⟩
  match name with
  | "any" => some ⟨fun _ => true, 500⟩
  | "assigned" => some ⟨isAssigned, 40000⟩
  | "ascii" => some ⟨fun c => c.toNat < 128, 32⟩
  | "lu" | "uppercaseletter" => of [.uppercaseLetter]
  | "ll" | "lowercaseletter" => of [.lowercaseLetter]
  | "lt" | "titlecaseletter" => of [.titlecaseLetter]
  | "lc" | "casedletter" => of Category.casedLetters
  | "lm" | "modifierletter" => of [.modifierLetter]
  | "lo" | "otherletter" => of [.otherLetter]
  | "l" | "letter" => of Category.letters
  | "mn" | "nonspacingmark" => of [.nonspacingMark]
  | "mc" | "spacingmark" => of [.spacingMark]
  | "me" | "enclosingmark" => of [.enclosingMark]
  | "m" | "mark" | "combiningmark" => of Category.marks
  | "nd" | "decimalnumber" | "digit" => of [.decimalNumber]
  | "nl" | "letternumber" => of [.letterNumber]
  | "no" | "othernumber" => of [.otherNumber]
  | "n" | "number" => of Category.numbers
  | "pc" | "connectorpunctuation" => of [.connectorPunctuation]
  | "pd" | "dashpunctuation" => of [.dashPunctuation]
  | "ps" | "openpunctuation" => of [.openPunctuation]
  | "pe" | "closepunctuation" => of [.closePunctuation]
  | "pi" | "initialpunctuation" => of [.initialPunctuation]
  | "pf" | "finalpunctuation" => of [.finalPunctuation]
  | "po" | "otherpunctuation" => of [.otherPunctuation]
  | "p" | "punctuation" | "punct" => of Category.punctuation
  | "sm" | "mathsymbol" => of [.mathSymbol]
  | "sc" | "currencysymbol" => of [.currencySymbol]
  | "sk" | "modifiersymbol" => of [.modifierSymbol]
  | "so" | "othersymbol" => of [.otherSymbol]
  | "s" | "symbol" => of Category.symbols
  | "zs" | "spaceseparator" => of [.spaceSeparator]
  | "zl" | "lineseparator" => of [.lineSeparator]
  | "zp" | "paragraphseparator" => of [.paragraphSeparator]
  | "z" | "separator" => of Category.separators
  | "cc" | "control" | "cntrl" => of [.control]
  | "cf" | "format" => of [.format]
  | "co" | "privateuse" => of [.privateUse]
  | "cn" | "unassigned" => some ⟨fun c => !isAssigned c, 40500⟩
  | "c" | "other" =>
    some ⟨fun c => Category.holdsAny [.control, .format, .privateUse] c || !isAssigned c, 40500⟩
  | _ => none

def script? (name : String) : Option Known :=
  (Script.named? name).map fun s => ⟨s.holds, 40000⟩

def known? : Property → Option Known
  | .digit => some ⟨Category.holdsAny [.decimalNumber], 20000⟩
  | .blank => some ⟨isBlank, 1000⟩
  | .word => some ⟨isWordCharacter, 40000⟩
  | .named name =>
    match normalName name with
    | "alphabetic" | "alpha" => some ⟨isAlphabetic, 40000⟩
    | "lowercase" | "lower" => some ⟨isLowercase, 40000⟩
    | "uppercase" | "upper" => some ⟨isUppercase, 40000⟩
    | "whitespace" | "wspace" | "space" => some ⟨isBlank, 1000⟩
    | name => (category? name).or (script? name)
  | .valued name value =>
    match normalName name with
    | "gc" | "generalcategory" => category? (normalName value)
    | "sc" | "script" | "scx" | "scriptextensions" => script? (normalName value)
    | _ => none

end Engine

def CharClass.bulk? : CharClass → Option Nat
  | .none => some 32
  | .any => some 500
  | .interval _ last => some (if last.toNat < 128 then 32 else 32 * last.utf8Size)
  | .property p => (Engine.known? p).map (·.bulk)
  | .union a b | .inter a b | .minus a b | .symmetric a b => do return max (← a.bulk?) (← b.bulk?)
  | .negated a => a.bulk?.map (· + 500)
  | .anyCase a | .anyAsciiCase a => a.bulk?

/-- About how many bytes an expression takes when every counted repetition is written out, if all
its names are known. -/
def Expr.bulk? : Expr → Option Nat
  | .empty => some 0
  | .one members => members.bulk?
  | .look _ => some 32
  | .next first second => do return (← first.bulk?) + (← second.bulk?)
  | .either left right => do return 32 + (← left.bulk?) + (← right.bulk?)
  | .repeated inner least most => inner.bulk?.map fun n => 32 + n * max 1 (most.getD least)

namespace Engine

def sizeLimit : Nat := 10 * Nat.pow 2 20

def isNameSign (c : Char) : Bool :=
  c == '_' || isAlphabetic c || isNumeric c || c == '.' || c == '[' || c == ']'

def isGroupName (name : List Char) : Bool :=
  name.head?.any (fun c => c == '_' || isAlphabetic c) && name.all isNameSign

/-- All names in a source are known, and what it reads as stays within the size limit. -/
def fits (source : String) : Bool :=
  match readWhole? source.toList with
  | some (piece, names) => names.all isGroupName && piece.expr.bulk?.any (· ≤ sizeLimit)
  | none => false

instance standard : Engine where
  holds p c := (known? p).any (·.holds c)
  caseVariants := Text.caseVariants
  takes := fits

end Engine
end Swell.Pattern
