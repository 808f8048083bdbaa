import ServoLink.ProcessData.Status
import ServoLink.States

/-!
# Axis status — a status response reduced to what the axis acts on

The error bits and an error state both count as a fault; the fatal bit does too.  The code comes
from the error section, or from the error state when that section is absent or says nothing.
-/

namespace ServoLink
namespace Motion

open ProcessData

structure AxisStatus where
  fault : Bool := false
  fatal : Bool := false
  /-- The drive may be switched on. -/
  ready : Bool := false
  enabled : Bool := false
  homed : Bool := false
  inTarget : Bool := false
  motionActive : Bool := false
  /-- The count the drive echoes in Operation Enabled. -/
  motionCount : Option UInt8 := none
  /-- Present while the drive is homing: whether it has finished. -/
  homing : Option Bool := none
  errorCode : Drive.ErrorCode := .noError
  deriving DecidableEq, Repr, Inhabited

namespace AxisStatus

def stateError? : Option Drive.State → Option Drive.ErrorCode
  | some (.error code) => some code
  | _ => none

def echoedCount? : Option Drive.State → Option UInt8
  | some (.operationEnabled count ..) => some count
  | _ => none

def homing? : Option Drive.State → Option Bool
  | some (.homing finished) => some finished
  | _ => none

def ofResponse (s : StatusResponse) : AxisStatus :=
  let word := s.status.getD Word.empty
  let stateError := stateError? s.state
  let fatal := word.contains StatusWord.fatalError
  let fault := fatal || word.contains StatusWord.error || stateError.isSome
  let reported := s.errorCode.filter (· != .noError)
  { fault, fatal
    ready := !fault && !word.contains StatusWord.switchOnLocked
    enabled := word.contains StatusWord.operationEnabled
    homed := word.contains StatusWord.homed
    inTarget := word.contains StatusWord.inTargetPosition
    motionActive := word.contains StatusWord.motionActive
    motionCount := echoedCount? s.state
    homing := homing? s.state
    errorCode := (reported.or stateError).getD .noError }

/-- The fault a status reports. -/
def faultReason (s : AxisStatus) : FaultReason :=
  if s.fatal then .driveFatal s.errorCode else .drive s.errorCode

end AxisStatus

end Motion
end ServoLink
