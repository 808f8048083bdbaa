import ServoLink.Firmware
import ServoLink.States

/-!
# Events — what a link reports to its observers
-/

namespace ServoLink

inductive Event where
  /-- No valid status arrived within the cycle. -/
  | cycleMissed (cycle consecutive : Nat)
  /-- A cycle began later than the tolerance allows. -/
  | jitterExceeded (cycle latencyUs toleranceUs : Nat)
  /-- The misses reached the threshold; raised once per link. -/
  | linkFaulted (consecutive : Nat)
  | faultEntered (reason : FaultReason)
  | faultCleared
  | motionStateChanged (source target : MotionState)
  | sessionStateChanged (source target : ConnectionState)
  | handshakeSucceeded (firmware : Firmware) (deviceId : String) (cycleTimeUs : UInt32)
  | handshakeFailed (attempt : Nat) (reason : String)
  /-- An operator command did not apply to the state of the axis. -/
  | commandRejected (command : String) (state : MotionState)
  deriving DecidableEq, Repr, Inhabited

namespace Event

/-- The event tells of a fault, not of ordinary progress. -/
def isFault : Event → Bool
  | linkFaulted _ | faultEntered _ | handshakeFailed .. => true
  | _ => false

/-- Events of the session's life, as opposed to those of its cycles. -/
def isOfSession : Event → Bool
  | sessionStateChanged .. | handshakeSucceeded .. | handshakeFailed .. => true
  | _ => false

end Event
end ServoLink
