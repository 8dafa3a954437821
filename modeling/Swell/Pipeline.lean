import Swell.Pipeline.Stage

/-!
# The pipeline

A vessel gives limits and these a grammar; a wave gives a signal and this a sentence; the grammar
reads the sentence. The four stages in front of the reading can be replaced. The first stage that
fails ends the run with its fault.
-/
namespace Swell

variable {m : Type → Type}

/-- The stages in front of the reading, in the order in which they run. -/
structure Stages (m : Type → Type) where
  limits : Stage m
  grammar : Stage m
  signal : Stage m
  sentence : Stage m

namespace Stages

variable [Monad m]

def ofSettings (s : Settings) : Stages m where
  limits := Stage.unary "DeriveConstraints" fun v : Vessel =>
    pure (v.limits.mapError BadDimension.toFault)
  grammar := Stage.unary "GenerateParser" fun l : Limits =>
    pure ((Grammar.generate s.collection s.rules l).mapError UnreadablePattern.toFault)
  signal := Stage.unary "Preprocess" fun w : Series Float =>
    pure ((s.sampling.signal w).mapError SignalFault.toFault)
  sentence := Stage.unary "Tokenise" fun c : CoarseSignal => pure (.ok c.sentence)

def toList (s : Stages m) : List (Stage m) :=
  [s.limits, s.grammar, s.signal, s.sentence]

/-- The last stage, which cannot be replaced. -/
def reading : Stage m :=
  Stage.binary "Parse" fun (g : Grammar) (s : Sentence) => pure ((g.run s).mapError Fault.parse)

/-- Runs all stages, up to the first that fails. -/
def run (s : Stages m) (vessel wave : Slot) : ExceptT Fault m Reading := do
  let limits ← ExceptT.mk (s.limits.call [vessel])
  let grammar ← ExceptT.mk (s.grammar.call [some (.ok limits)])
  let signal ← ExceptT.mk (s.signal.call [wave])
  let sentence ← ExceptT.mk (s.sentence.call [some (.ok signal)])
  let parsed ← ExceptT.mk (reading.call [some (.ok grammar), some (.ok sentence)])
  ExceptT.mk (pure (parsed.extract Reading))

def runInputs (s : Stages m) (vessel : Vessel) (wave : Series Float) : ExceptT Fault m Reading :=
  s.run (Slot.present vessel) (Slot.present wave)

end Stages
end Swell
