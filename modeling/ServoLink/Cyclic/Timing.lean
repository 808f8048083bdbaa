/-!
# Cycle timing — running statistics of the cyclic loop

Durations and latencies are signed 64-bit nanoseconds; the sum stops at the ends of that range.
Counts are natural numbers, here and in the statistics of the channels; a program keeps them in 64
bits, which no run fills.
-/

namespace ServoLink
namespace Cyclic

def maxNs : Int := Int64.maxValue.toInt
def minNs : Int := Int64.minValue.toInt

structure Timing where
  cycles : Nat := 0
  last : Int := 0
  /-- Shortest cycle; the largest number before any cycle. -/
  shortest : Int := maxNs
  longest : Int := 0
  sum : Int := 0
  /-- Cycles that took longer than the period. -/
  overruns : Nat := 0
  /-- Latest wake-up. -/
  maxLatency : Int := 0
  /-- Cycles without a valid status. -/
  misses : Nat := 0
  /-- Cycles whose wake-up was later than the tolerance. -/
  jitterViolations : Nat := 0
  deriving DecidableEq, Repr, Inhabited

namespace Timing

def record (t : Timing) (duration latency : Int) : Timing :=
  { t with
    cycles := t.cycles + 1
    last := duration
    shortest := min t.shortest duration
    longest := max t.longest duration
    sum := max minNs (min maxNs (t.sum + duration))
    maxLatency := max t.maxLatency latency }

/-- Mean duration, rounded toward zero; zero before any cycle. -/
def average (t : Timing) : Int := if t.cycles = 0 then 0 else t.sum.tdiv t.cycles

end Timing

end Cyclic
end ServoLink
