/-!
# Round trip — the smoothed time a request takes

The estimate moves an eighth of the way to each sample and stays between two bounds.  All times are
nanoseconds, and divisions round down.
-/

namespace ServoLink
namespace Register

structure RoundTrip where
  estimate : Nat
  min : Nat
  max : Nat
  deriving DecidableEq, Repr, Inhabited

namespace RoundTrip

def clamp (low high n : Nat) : Nat := Nat.max low (Nat.min n high)

/-- An estimator, if the bounds are in order; the initial value is moved between them.  Bounds out of
order have no value between them, so there is none; a program that asks for it stops. -/
def new? (initial min max : Nat) : Option RoundTrip :=
  if min ≤ max then some ⟨clamp min max initial, min, max⟩ else none

def sample (r : RoundTrip) (rtt : Nat) : RoundTrip :=
  { r with estimate := clamp r.min r.max ((r.estimate * 7 + rtt) / 8) }

/-- Doubled for each retry, as far as a 32-bit factor goes. -/
def factor (retries : Nat) : Nat := if retries < 32 then 1 <<< retries else UInt32.size - 1

/-- How long to wait for an answer after so many retries. -/
def backoff (r : RoundTrip) (retries : Nat) : Nat := Nat.min (r.estimate * factor retries) r.max

end RoundTrip

end Register
end ServoLink
