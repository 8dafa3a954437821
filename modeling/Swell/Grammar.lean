import Swell.Recogniser
import Swell.Settings
import Swell.Text.Quoted
import Swell.Verdict
import Swell.Vessel

/-!
# Grammars of waves

The words of a wave are a flat marker, or a marker for peaks or troughs with the digit of a
level. A grammar tries peaks first, then troughs, both from level one on, then the separator and
the flat marker. It reads sentences and judges them.
-/
namespace Swell

namespace Token

private def ofParts (sources : List String) : Except UnreadablePattern Token := do
  compound (← sources.mapM Pattern.read)

def ofLevel (marker : String) (level : Nat) : Except UnreadablePattern Token :=
  ofParts [marker, "[" ++ toString level ++ "]"]

end Token

/-- Peaks from this level on count as high waves. -/
def highLevel : Level := 2

namespace GrammarRules

/-- The vessel takes the level up to a limit. A level without a height is above every limit. -/
def fits (r : GrammarRules) (limit : Float) (level : Nat) : Bool :=
  !decide (limit < (r.heightOf? level).getD Decimal.infinity)

def keeps (r : GrammarRules) (limit : Float) (level : Nat) : Bool :=
  r.enforcement != .strict || r.fits limit level

def keptLevels (r : GrammarRules) (limit : Float) : List Nat :=
  (List.range' 1 r.levels).filter (r.keeps limit)

/-- The level is higher than a limit. A level without a height is not. -/
def exceeds (r : GrammarRules) (limit : Float) (level : Level) : Bool :=
  (r.heightOf? level.toInt.natAbs).any fun height => limit < height

end GrammarRules

/-- Some part of a list with a given number of neighbouring members satisfies a condition; `count`
is the number of such parts that are looked at. -/
def anyWindow {α : Type} (p : List α → Bool) (width : Nat) : (count : Nat) → List α → Bool
  | 0, _ => false
  | count + 1, xs => p (xs.take width) || anyWindow p width count xs.tail

namespace Chop

/-- Too many high waves stand within one window. A sentence shorter than the window is one. -/
def exceededBy (c : Chop) (levels : List Level) : Bool :=
  if c.isUnlimited || levels.isEmpty then false
  else
    let width := min (max c.window.toNat 1) levels.length
    anyWindow (fun part => decide (c.tolerated.toNat < part.countP fun l => highLevel ≤ l)) width
      (levels.length + 1 - width) levels

end Chop

structure Grammar where
  collection : Collection
  any : Recogniser
  limits : Limits
  rules : GrammarRules

namespace Grammar

def tokens (rules : GrammarRules) (limits : Limits) : Except UnreadablePattern (List Token) := do
  let peaks ← (rules.keptLevels limits.peak).mapM (Token.ofLevel "[P]")
  let troughs ← (rules.keptLevels limits.trough).mapM (Token.ofLevel "[T]")
  let blank ← Token.read "[\\s]"
  let flat ← Token.read "[F]"
  return peaks ++ troughs ++ [blank, flat]

def generate (collection : Collection) (rules : GrammarRules) (limits : Limits) :
    Except UnreadablePattern Grammar := do
  let tokens ← tokens rules limits
  return ⟨collection, .choice (tokens.map .token), limits, rules⟩

def levelsOf (s : Sentence) : List Level :=
  s.words.filterMap Level.ofSymbol?

/-- What is said about a sentence, whether the grammar can read it or not. -/
def judge (g : Grammar) (s : Sentence) : Verdict :=
  let levels := levelsOf s
  if g.rules.semantics = .shape then .correct
  else if levels.any fun l => 0 < l && g.rules.exceeds g.limits.peak l then .peaksTooHigh
  else if levels.any fun l => l < 0 && g.rules.exceeds g.limits.trough l then .troughsTooLow
  else if g.limits.chop.exceededBy levels then .tooMuchChop
  else .correct

def run (g : Grammar) (s : Sentence) : Except ParseFault Reading :=
  (Recogniser.drive g.any s).map fun history => ⟨history, g.judge s⟩

def describe (g : Grammar) : String :=
  let name := match g.collection with
    | .alpha => "Alpha"
    | .beta => "Beta"
  let limit (x : Float) := "Limit \x7b max: " ++ Decimal.listed x ++ " \x7d"
  "GrammarParser \x7b collection: " ++ name ++ ", any: "
    ++ Text.quoted g.any.descriptor.render ++ ", constraints: Constraints \x7b peak: "
    ++ limit g.limits.peak ++ ", trough: " ++ limit g.limits.trough
    ++ ", period: Period \x7b size: " ++ toString g.limits.chop.tolerated ++ ", count: "
    ++ toString g.limits.chop.window ++ " \x7d \x7d \x7d"

end Grammar
end Swell
