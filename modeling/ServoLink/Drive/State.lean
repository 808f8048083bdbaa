import ServoLink.Drive.ErrorCode
import ServoLink.Wire.Field

/-!
# Drive state — the main state a drive reports, with its sub state

On the wire a state is two bytes, sub state first.  `State.ofRaw` decodes every pair; `State.raw`
gives the bytes back, with those bits of the sub state cleared that the main state does not use.
-/

namespace ServoLink
namespace Drive

inductive State where
  | notReadyToSwitchOn
  | switchOnDisabled
  | readyToSwitchOn
  | setupError (errorCode : ErrorCode)
  | error (errorCode : ErrorCode)
  | hardwareTests
  | readyToOperate
  | operationEnabled (motionCommandCount : UInt8)
      (eventHandler motionActive inTargetPosition homed : Bool)
  | homing (finished : Bool)
  | clearanceCheck (finished : Bool)
  | goingToInitialPosition (finished : Bool)
  | aborting
  | freezing
  | quickStop
  | goingToPosition (finished : Bool)
  | joggingPositive (finished : Bool)
  | joggingNegative (finished : Bool)
  | linearizing
  | phaseSearch
  | specialMode
  | brakeDelay
  | unknown (mainState subState : UInt8)
  deriving DecidableEq, Repr, Inhabited

namespace State

/-- The sub state that marks a finished special motion. -/
def finishedMark : UInt8 := 0x0F

def ofRaw (main sub : UInt8) : State :=
  let finished := sub == finishedMark
  match main with
  | 0 => notReadyToSwitchOn
  | 1 => switchOnDisabled
  | 2 => readyToSwitchOn
  | 3 => setupError (.ofCode sub.toUInt16)
  | 4 => error (.ofCode sub.toUInt16)
  | 5 => hardwareTests
  | 6 => readyToOperate
  | 8 => operationEnabled (sub &&& 0x0F) (sub &&& 0x10 != 0) (sub &&& 0x20 != 0)
      (sub &&& 0x40 != 0) (sub &&& 0x80 != 0)
  | 9 => homing finished
  | 10 => clearanceCheck finished
  | 11 => goingToInitialPosition finished
  | 12 => aborting
  | 13 => freezing
  | 14 => quickStop
  | 15 => goingToPosition finished
  | 16 => joggingPositive finished
  | 17 => joggingNegative finished
  | 18 => linearizing
  | 19 => phaseSearch
  | 20 => specialMode
  | 21 => brakeDelay
  | _ => unknown main sub

def bit (b : Bool) (mask : UInt8) : UInt8 := if b then mask else 0

def done (finished : Bool) : UInt8 := if finished then finishedMark else 0

/-- Main state and sub state as a drive reports them. -/
def raw : State → UInt8 × UInt8
  | notReadyToSwitchOn => (0, 0)
  | switchOnDisabled => (1, 0)
  | readyToSwitchOn => (2, 0)
  | setupError e => (3, e.code.toUInt8)
  | error e => (4, e.code.toUInt8)
  | hardwareTests => (5, 0)
  | readyToOperate => (6, 0)
  | operationEnabled count events active inTarget isHomed =>
      (8, (count &&& 0x0F) ||| bit events 0x10 ||| bit active 0x20 ||| bit inTarget 0x40
            ||| bit isHomed 0x80)
  | homing finished => (9, done finished)
  | clearanceCheck finished => (10, done finished)
  | goingToInitialPosition finished => (11, done finished)
  | aborting => (12, 0)
  | freezing => (13, 0)
  | quickStop => (14, 0)
  | goingToPosition finished => (15, done finished)
  | joggingPositive finished => (16, done finished)
  | joggingNegative finished => (17, done finished)
  | linearizing => (18, 0)
  | phaseSearch => (19, 0)
  | specialMode => (20, 0)
  | brakeDelay => (21, 0)
  | unknown main sub => (main, sub)

/-- The bytes on the wire, sub state first. -/
def write (s : State) : List UInt8 := [s.raw.2, s.raw.1]

def read : Wire.Reader State
  | sub :: main :: rest => .ok (ofRaw main sub) rest
  | bytes => .error (.truncated .driveState) bytes

end State

end Drive
end ServoLink
