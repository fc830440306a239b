/-!
# Settings of an engine
-/

namespace TripleRules

structure EngineSettings where
  /-- Report the size of the graph after rounds and strata. -/
  trace : Bool := false
  /-- The most rounds that a stratum may take; zero sets no limit. -/
  maxRounds : Nat := 0
  deriving DecidableEq, Repr

end TripleRules
