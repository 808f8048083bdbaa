/-!
# Error codes — what a drive reports in its error word

A code is known by name, or kept as a number.  Every 16-bit number denotes one code (`ofCode`);
`unknown n` can also be written for a number that has a name, and is then a different value with
the same `code`.
-/

namespace ServoLink
namespace Drive

inductive ErrorCode where
  | noError
  | logicSupplyTooLow
  | logicSupplyTooHigh
  | motorSupplyTooLow
  | motorSupplyTooHigh
  | minPositionUndershot
  | maxPositionOvershot
  | positionLagAlwaysTooBig
  | motorHotSensor
  | motorSliderMissing
  | motorShortTimeOverload
  | motorCommunicationLost
  | notHomed
  | unknownMotionCommand
  | pvtBufferOverflow
  | pvtBufferUnderflow
  | pvtMasterTooFast
  | pvtMasterTooSlow
  | motionCommandInWrongState
  | unknown (code : UInt16)
  deriving DecidableEq, Repr, Inhabited

namespace ErrorCode

/-- The named codes with their numbers and printed names. -/
def named : List (ErrorCode × UInt16 × String) :=
  [(noError, 0x00, "NoError"),
   (logicSupplyTooLow, 0x01, "LogicSupplyTooLow"),
   (logicSupplyTooHigh, 0x02, "LogicSupplyTooHigh"),
   (motorSupplyTooLow, 0x03, "MotorSupplyTooLow"),
   (motorSupplyTooHigh, 0x04, "MotorSupplyTooHigh"),
   (minPositionUndershot, 0x07, "MinPositionUndershot"),
   (maxPositionOvershot, 0x08, "MaxPositionOvershot"),
   (positionLagAlwaysTooBig, 0x0B, "PositionLagAlwaysTooBig"),
   (motorHotSensor, 0x20, "MotorHotSensor"),
   (motorSliderMissing, 0x22, "MotorSliderMissing"),
   (motorShortTimeOverload, 0x23, "MotorShortTimeOverload"),
   (motorCommunicationLost, 0x45, "MotorCommunicationLost"),
   (notHomed, 0x80, "NotHomed"),
   (unknownMotionCommand, 0x81, "UnknownMotionCommand"),
   (pvtBufferOverflow, 0x82, "PvtBufferOverflow"),
   (pvtBufferUnderflow, 0x83, "PvtBufferUnderflow"),
   (pvtMasterTooFast, 0x84, "PvtMasterTooFast"),
   (pvtMasterTooSlow, 0x85, "PvtMasterTooSlow"),
   (motionCommandInWrongState, 0x86, "MotionCommandInWrongState")]

/-- The number on the wire. -/
def code : ErrorCode → UInt16
  | noError => 0x00
  | logicSupplyTooLow => 0x01
  | logicSupplyTooHigh => 0x02
  | motorSupplyTooLow => 0x03
  | motorSupplyTooHigh => 0x04
  | minPositionUndershot => 0x07
  | maxPositionOvershot => 0x08
  | positionLagAlwaysTooBig => 0x0B
  | motorHotSensor => 0x20
  | motorSliderMissing => 0x22
  | motorShortTimeOverload => 0x23
  | motorCommunicationLost => 0x45
  | notHomed => 0x80
  | unknownMotionCommand => 0x81
  | pvtBufferOverflow => 0x82
  | pvtBufferUnderflow => 0x83
  | pvtMasterTooFast => 0x84
  | pvtMasterTooSlow => 0x85
  | motionCommandInWrongState => 0x86
  | unknown n => n

/-- The code a number denotes. -/
def ofCode (n : UInt16) : ErrorCode :=
  match named.find? fun entry => entry.2.1 == n with
  | some (e, _, _) => e
  | none => unknown n

/-- The name of a code; an unnamed one shows its number. -/
def name (e : ErrorCode) : String :=
  match e with
  | unknown n => "Unknown(" ++ toString n.toNat ++ ")"
  | _ => (named.find? fun entry => entry.1 == e).elim "" (·.2.2)

/-- The named code of that name. -/
def ofName? (text : String) : Option ErrorCode :=
  (named.find? fun entry => entry.2.2 == text).map (·.1)

end ErrorCode

end Drive
end ServoLink
