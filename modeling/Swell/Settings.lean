import Swell.Signal.Classifier

/-!
# Settings

How waves are sampled and which symbols a grammar has. Settings start from one of two presets.
-/
namespace Swell

inductive Collection where
  /-- One level, and no judgement of heights. -/
  | alpha
  /-- Three levels, judged against the vessel. -/
  | beta
  deriving Repr, DecidableEq

namespace Collection

def name : Collection → String
  | .alpha => "alpha"
  | .beta => "beta"

def named? : String → Option Collection
  | "alpha" => some .alpha
  | "beta" => some .beta
  | _ => none

end Collection

inductive Semantics where
  /-- Every sentence that can be read is correct. -/
  | shape
  /-- Heights and chop are held against the limits of the vessel. -/
  | vessel
  deriving Repr, DecidableEq

namespace Semantics

def name : Semantics → String
  | .shape => "shape"
  | .vessel => "vessel"

def named? : String → Option Semantics
  | "shape" => some .shape
  | "vessel" => some .vessel
  | _ => none

end Semantics

inductive Enforcement where
  /-- The grammar has no symbol for them. -/
  | strict
  /-- They can be read, and the verdict names them. -/
  | advisory
  deriving Repr, DecidableEq

namespace Enforcement

def name : Enforcement → String
  | .strict => "strict"
  | .advisory => "advisory"

def named? : String → Option Enforcement
  | "strict" => some .strict
  | "advisory" => some .advisory
  | _ => none

end Enforcement

/-- Which symbols a grammar has and how its sentences are judged. -/
structure GrammarRules where
  levels : Nat
  semantics : Semantics
  enforcement : Enforcement
  /-- The heights of the levels, from level one on. -/
  heights : List Float

namespace GrammarRules

/-- The height of a level, if it has one. Level zero has none. -/
def heightOf? (r : GrammarRules) : Nat → Option Float
  | 0 => none
  | level + 1 => r.heights[level]?

end GrammarRules

structure Settings where
  collection : Collection
  sampling : Sampling Float
  rules : GrammarRules

/-- The greatest number of levels that single digits can name. -/
def levelLimit : Nat := 9

inductive SettingsFault where
  | badStep (step : Float)
  | badClassifier (fault : ClassifierFault Float)
  | badLevels (levels : Nat)
  | unnamedLevels (produced named : Nat)
  | missingHeights (needed given : Nat)
  | badHeight (height : Float)

namespace SettingsFault

def message : SettingsFault → String
  | .badStep step => "resample_step must be a positive number, got " ++ Decimal.prose step
  | .badClassifier fault => fault.message
  | .badLevels levels =>
    "grammar.levels must be between 1 and " ++ toString levelLimit ++ ", got " ++ toString levels
  | .unnamedLevels produced named =>
    "the classifier produces " ++ toString produced ++ " levels but the grammar only names "
      ++ toString named
  | .missingHeights needed given =>
    "grammar.level_heights needs " ++ toString needed ++ " entries, got " ++ toString given
  | .badHeight height => "level heights must be positive, got " ++ Decimal.prose height

end SettingsFault

def require (condition : Bool) (fault : SettingsFault) : Except SettingsFault Unit :=
  if condition then .ok () else .error fault

namespace Settings

def check (s : Settings) : Except SettingsFault Unit := do
  let levels := s.rules.levels
  let heights := s.rules.heights
  require (Scalar.isPositive s.sampling.step) (.badStep s.sampling.step)
  match s.sampling.classifier.check with
  | .error fault => .error (.badClassifier fault)
  | .ok () => .ok ()
  require (1 ≤ levels && levels ≤ levelLimit) (.badLevels levels)
  require (s.sampling.classifier.levels ≤ levels)
    (.unnamedLevels s.sampling.classifier.levels levels)
  require (levels ≤ heights.length) (.missingHeights levels heights.length)
  match heights.find? fun h => !Scalar.isPositive h with
  | some bad => .error (.badHeight bad)
  | none => .ok ()

def preset : Collection → Settings
  | .alpha =>
    { collection := .alpha
      sampling := ⟨16.0, .neighbour 0.1⟩
      rules := ⟨1, .shape, .advisory, [1.0]⟩ }
  | .beta =>
    { collection := .beta
      sampling := ⟨16.0, .breakpoints [0.0, 5.0, 8.0, 12.0, 15.0, 20.0]⟩
      rules := ⟨3, .vessel, .advisory, [3.5, 7.5, 15.0]⟩ }

end Settings

/-- The part of the settings that a document sets. -/
structure Overlay where
  collection : Option Collection := none
  step : Option Float := none
  classifier : Option (Classifier Float) := none
  levels : Option Nat := none
  semantics : Option Semantics := none
  enforcement : Option Enforcement := none
  heights : Option (List Float) := none

namespace Overlay

/-- Lays what the overlay sets over settings. The preset they came from stays their own. -/
def apply (o : Overlay) (s : Settings) : Settings :=
  { collection := s.collection
    sampling :=
      { step := o.step.getD s.sampling.step
        classifier := o.classifier.getD s.sampling.classifier }
    rules :=
      { levels := o.levels.getD s.rules.levels
        semantics := o.semantics.getD s.rules.semantics
        enforcement := o.enforcement.getD s.rules.enforcement
        heights := o.heights.getD s.rules.heights } }

/-- The settings for an overlay, checked. A chosen collection comes before the overlay's. -/
def resolve (o : Overlay) (chosen : Option Collection) : Except SettingsFault Settings := do
  let settings := o.apply (Settings.preset ((chosen.or o.collection).getD .alpha))
  settings.check
  .ok settings

end Overlay
end Swell
