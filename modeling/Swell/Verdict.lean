import Swell.History

/-!
# Verdicts

What is said about a sentence that could be read.
-/
namespace Swell

inductive Verdict where
  | correct
  | peaksTooHigh
  | troughsTooLow
  | tooMuchChop
  deriving Repr, DecidableEq

namespace Verdict

def text : Verdict → String
  | .correct => "The waveform looks correct."
  | .peaksTooHigh => "The peaks are currently too high for this vessel"
  | .troughsTooLow => "The troughs are currently too low for this vessel"
  | .tooMuchChop => "The vessel cannot handle so much chop, vessel stall imminent"

end Verdict

/-- A sentence that was read to its end, and what is said about it. -/
structure Reading where
  history : History
  verdict : Verdict
  deriving Repr, DecidableEq

end Swell
