/-!
# Configuration

What a user chooses about an engine before it runs.
-/

namespace DialogueEngine

structure Config where
  /-- Whether executed instructions are recorded. -/
  traceEnabled : Bool := false
  traceCapacity : Nat := 1000
  /-- The greatest number of instructions in a step; `none` is no limit. -/
  maxBurst : Option Nat := none
deriving DecidableEq, Inhabited

namespace Config

/-- Tracing, and steps of bounded length. -/
def debug : Config := ⟨true, 10000, some 100000⟩

/-- The limit that a step has reached after some instructions. -/
def reachedLimit? (config : Config) (executed : Nat) : Option Nat :=
  config.maxBurst.filter fun limit => limit ≤ executed

end Config

end DialogueEngine
