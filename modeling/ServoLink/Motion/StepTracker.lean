/-!
# Step tracker — where a sequence stands, and for how long

A sequence counts the cycles it spends in its current step.  The count stops at the largest 32-bit
number.  A timeout of zero never expires.
-/

namespace ServoLink
namespace Motion

structure StepTracker where
  step : Nat := 0
  cycles : Nat := 0
  deriving DecidableEq, Repr, Inhabited

namespace StepTracker

def maxCycles : Nat := UInt32.size - 1

/-- One more cycle in this step. -/
def tick (t : StepTracker) : StepTracker := { t with cycles := min (t.cycles + 1) maxCycles }

def advance (t : StepTracker) : StepTracker := ⟨t.step + 1, 0⟩

def timedOut (t : StepTracker) (timeout : Nat) : Bool := 0 < timeout && timeout ≤ t.cycles

end StepTracker

end Motion
end ServoLink
