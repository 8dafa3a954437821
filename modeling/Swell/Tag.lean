/-!
# Tags

The kinds of values that travel between the stages of a pipeline.
-/
namespace Swell

inductive Tag where
  | vessel
  | wave
  | constraints
  | coarseSignal
  | sentence
  | parser
  | parsed
  deriving Repr, DecidableEq

namespace Tag

def name : Tag → String
  | .vessel => "Vessel"
  | .wave => "Wave"
  | .constraints => "Constraints"
  | .coarseSignal => "CoarseSignal"
  | .sentence => "Sentence"
  | .parser => "Parser"
  | .parsed => "Parsed"

end Tag
end Swell
