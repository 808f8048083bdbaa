import ServoLink.Drive.ErrorCode

/-!
# States — of the connection and of the axis, and the reasons of a fault
-/

namespace ServoLink

/-! ## Connection -/

/-- State of a session.  `faulted` is left only by a reset. -/
inductive ConnectionState where
  | disconnected | handshaking | connected | faulted
  deriving DecidableEq, Repr, Inhabited

namespace ConnectionState

def number : ConnectionState → Nat
  | disconnected => 0
  | handshaking => 1
  | connected => 2
  | faulted => 3

def all : List ConnectionState := [disconnected, handshaking, connected, faulted]

def ofNumber? (n : Nat) : Option ConnectionState := all.find? fun s => s.number == n

def name : ConnectionState → String
  | disconnected => "Disconnected"
  | handshaking => "Handshaking"
  | connected => "Connected"
  | faulted => "Faulted"

/-- The name in capitals, as shown to an operator. -/
def title : ConnectionState → String
  | disconnected => "DISCONNECTED"
  | handshaking => "HANDSHAKING"
  | connected => "CONNECTED"
  | faulted => "FAULTED"

end ConnectionState

/-! ## Axis -/

/-- State of the axis as an operator sees it. -/
inductive MotionState where
  /-- Power stage off. -/
  | disabled
  /-- Switched on, waiting for Operation Enabled. -/
  | enabling
  | homing
  /-- Enabled and idle; accepts motion commands. -/
  | ready
  | moving
  | faulted
  /-- Acknowledging; waiting for the drive to clear its fault. -/
  | faultAcknowledge
  deriving DecidableEq, Repr, Inhabited

namespace MotionState

def number : MotionState → Nat
  | disabled => 0
  | enabling => 1
  | homing => 2
  | ready => 3
  | moving => 4
  | faulted => 5
  | faultAcknowledge => 6

def all : List MotionState :=
  [disabled, enabling, homing, ready, moving, faulted, faultAcknowledge]

def ofNumber? (n : Nat) : Option MotionState := all.find? fun s => s.number == n

def name : MotionState → String
  | disabled => "Disabled"
  | enabling => "Enabling"
  | homing => "Homing"
  | ready => "Ready"
  | moving => "Moving"
  | faulted => "Faulted"
  | faultAcknowledge => "FaultAcknowledge"

def title : MotionState → String
  | disabled => "DISABLED"
  | enabling => "ENABLING"
  | homing => "HOMING"
  | ready => "READY"
  | moving => "MOVING"
  | faulted => "FAULTED"
  | faultAcknowledge => "FAULT_ACKNOWLEDGE"

/-- The power stage is, or is becoming, enabled. -/
def isEnabled : MotionState → Bool
  | enabling | homing | ready | moving => true
  | disabled | faulted | faultAcknowledge => false

def isFaulted : MotionState → Bool
  | faulted | faultAcknowledge => true
  | disabled | enabling | homing | ready | moving => false

end MotionState

/-! ## Faults -/

/-- Why the axis is faulted. -/
inductive FaultReason where
  /-- The drive reported an error. -/
  | drive (code : Drive.ErrorCode)
  /-- The drive reported an error that no acknowledge clears. -/
  | driveFatal (code : Drive.ErrorCode)
  | linkLost
  | enableTimeout
  | homingTimeout
  deriving DecidableEq, Repr, Inhabited

def FaultReason.text : FaultReason → String
  | drive code => "drive error " ++ code.name
  | driveFatal code => "fatal drive error " ++ code.name
  | linkLost => "cyclic link lost"
  | enableTimeout => "enable timeout"
  | homingTimeout => "homing timeout"

def FaultReason.isFatal : FaultReason → Bool
  | driveFatal _ => true
  | _ => false

end ServoLink
