/-!
# Phases of an acquisition

How often a source is polled, and what it may spend, depends on how far the deadline is away.
-/

namespace LetletmeData

/-- `AcquisitionPhase`. -/
inductive AcquisitionPhase where
  | normal
  | approaching
  | final90
  deriving DecidableEq

end LetletmeData
