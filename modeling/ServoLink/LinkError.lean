import ServoLink.Firmware
import ServoLink.Register.Message
import ServoLink.Wire.Frame

/-!
# Link errors — everything a caller of the link can see fail

Each error is a cause; `message` words it and `recovery` says what the caller can do about it.
-/

namespace ServoLink

/-- Why no configuration could be had. -/
inductive SettingsError where
  | fileNotFound
  /-- The document cannot be read as a configuration. -/
  | unreadable (detail : String)
  /-- A value is not allowed. -/
  | invalid (detail : String)
  deriving DecidableEq, Repr, Inhabited

def SettingsError.message : SettingsError → String
  | fileNotFound => "Configuration file not found"
  | unreadable detail => "Failed to parse configuration: " ++ detail
  | invalid detail => "Configuration validation failed: " ++ detail

/-- Register content that a handshake cannot accept. -/
inductive HandshakeProblem where
  | deviceIdType (type : Register.DataType)
  | cycleWindow (min max : UInt32)
  | notWord (address : Register.Address) (value : Register.Value)
  | zeroCycleTime
  /-- A problem worded by the caller. -/
  | stated (detail : String)
  deriving DecidableEq, Repr, Inhabited

def HandshakeProblem.message : HandshakeProblem → String
  | deviceIdType type => "device id has type " ++ type.name
  | cycleWindow min max =>
      "drive reports invalid cycle window [" ++ toString min.toNat ++ ", " ++ toString max.toNat
        ++ "] µs"
  | notWord address value =>
      "register " ++ address.text ++ " holds " ++ value.text ++ ", expected u32"
  | zeroCycleTime => "drive reports zero cycle time"
  | stated detail => detail

inductive LinkError where
  | frame (cause : Wire.FrameError)
  /-- Nothing arrived before the receive deadline. -/
  | receiveTimeout
  | socket (detail : String)
  /-- A register request stayed unanswered after every transmission. -/
  | requestTimeout (attempts : Nat)
  /-- A register access was refused. -/
  | register (address : Register.Address) (status : Register.Status)
  | cycleMissed
  | linkFaulted
  | incompatibleFirmware (found required : Firmware)
  | handshake (problem : HandshakeProblem)
  | cancelled
  | notConnected
  | sessionFaulted
  | settings (cause : SettingsError)
  | realtimeSetup (detail : String)
  deriving DecidableEq, Repr, Inhabited

/-- What a caller should do about an error. -/
inductive Recovery where
  /-- The same call may succeed when made again. -/
  | retry
  /-- The link is gone; reset the session. -/
  | reconnect
  /-- A condition of the drive; acknowledge it or ask for something else. -/
  | acknowledge
  | fatal
  deriving DecidableEq, Repr, Inhabited

namespace LinkError

def message : LinkError → String
  | frame cause => "frame error: " ++ cause.message
  | receiveTimeout => "transport error: receive timed out"
  | socket detail => "transport error: socket error: " ++ detail
  | requestTimeout attempts => "request timed out after " ++ toString attempts ++ " attempts"
  | register address status => "register " ++ address.text ++ " rejected: " ++ status.text
  | cycleMissed => "no status frame within the cycle"
  | linkFaulted => "cyclic link faulted"
  | incompatibleFirmware found required =>
      "firmware " ++ found.text ++ " below required " ++ required.text
  | handshake problem => "handshake failed: " ++ problem.message
  | cancelled => "request cancelled"
  | notConnected => "session not connected"
  | sessionFaulted => "session faulted, reset required"
  | settings cause => "configuration error: " ++ cause.message
  | realtimeSetup detail => "RT setup error: RT setup error: " ++ detail

def recovery : LinkError → Recovery
  | frame _ | requestTimeout _ | cycleMissed | cancelled | receiveTimeout => .retry
  | socket _ | linkFaulted | notConnected | sessionFaulted => .reconnect
  | register .. | handshake _ => .acknowledge
  | incompatibleFirmware .. | settings _ | realtimeSetup _ => .fatal

/-- The status of the drive's refusal, if this is one. -/
def registerStatus? : LinkError → Option Register.Status
  | register _ status => some status
  | _ => none

def isTimeout : LinkError → Bool
  | receiveTimeout => true
  | _ => false

def isSocket : LinkError → Bool
  | socket _ => true
  | _ => false

end LinkError
end ServoLink
