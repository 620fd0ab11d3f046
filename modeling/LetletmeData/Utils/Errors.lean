import Mathlib.Data.Nat.Notation

/-!
# Errors of a sync

A sync that could not bring all its units up to date says how many it needed, reused, wrote and
missed.
-/

namespace LetletmeData

/-- `IncompleteDataSyncError`. -/
structure IncompleteDataSyncError where
  message : String
  requiredUnits : ℕ
  reusedUnits : ℕ
  succeededUnits : ℕ
  failedUnits : ℕ
  deriving DecidableEq

end LetletmeData
