import ServoLink.LinkError
import ServoLink.Net.Address
import ServoLink.ProcessData.Flags
import ServoLink.Units

/-!
# Settings — the configuration of a link, section by section

Every value has a default, so that no document at all is a configuration.  `Settings.validate`
checks the values in the order of the sections and reports the first that is not allowed.
-/

namespace ServoLink

/-! ## Limits and defaults -/

namespace Limits

def cyclicDrivePort : UInt16 := 0xC0D0
def cyclicLocalPort : UInt16 := 0xA0B0
def registerPort : UInt16 := 20000
def driveAddress : String := "192.168.1.100"
def cycleTimeUs : UInt32 := 2000
def cycleTimeUsMin : UInt32 := 250
def cycleTimeUsMax : UInt32 := 100000
def missThreshold : UInt32 := 3
def missThresholdMax : UInt32 := 1000
def jitterTolerancePercent : UInt8 := 20
def requestAttempts : UInt32 := 3
def requestAttemptsMax : UInt32 := 10
def initialRttMs : UInt64 := 20
def minRttMs : UInt64 := 2
def maxBackoffMs : UInt64 := 1000
def handshakeAttempts : UInt32 := 2
def handshakeAttemptsMax : UInt32 := 10
def minFirmware : String := "6.0.0"
def enableTimeoutCycles : UInt32 := 1000
def homingTimeoutCycles : UInt32 := 30000
def stepTimeoutCyclesMax : UInt32 := 1000000

end Limits

/-! ## Sections -/

inductive LogLevel where
  | trace | debug | info | warn | error
  deriving DecidableEq, Repr, Inhabited

namespace LogLevel

def name : LogLevel → String
  | trace => "trace"
  | debug => "debug"
  | info => "info"
  | warn => "warn"
  | error => "error"

def all : List LogLevel := [trace, debug, info, warn, error]

def ofName? (text : String) : Option LogLevel := all.find? fun level => level.name == text

/-- Larger is graver. -/
def severity : LogLevel → Nat
  | trace => 0
  | debug => 1
  | info => 2
  | warn => 3
  | error => 4

/-- A record of level `record` is shown when `self` is the threshold. -/
def admits (self record : LogLevel) : Bool := self.severity ≤ record.severity

end LogLevel

structure SharedSettings where
  logLevel : LogLevel := .info
  serviceName : String := "linmot-drive"
  deriving DecidableEq, Repr, Inhabited

/-- Where the drive is. -/
structure DriveSettings where
  address : String := Limits.driveAddress
  cyclicPort : UInt16 := Limits.cyclicDrivePort
  /-- Zero lets the system choose. -/
  localCyclicPort : UInt16 := Limits.cyclicLocalPort
  registerPort : UInt16 := Limits.registerPort
  localRegisterPort : UInt16 := 0
  deriving DecidableEq, Repr, Inhabited

structure CyclicSettings where
  /-- Requested period; the drive's window narrows it. -/
  cycleTimeUs : UInt32 := Limits.cycleTimeUs
  missThreshold : UInt32 := Limits.missThreshold
  jitterTolerancePercent : UInt8 := Limits.jitterTolerancePercent
  checksum : Bool := false
  deriving DecidableEq, Repr, Inhabited

structure RegisterChannelSettings where
  /-- Transmissions of a request, the first included. -/
  attempts : UInt32 := Limits.requestAttempts
  initialRttMs : UInt64 := Limits.initialRttMs
  minRttMs : UInt64 := Limits.minRttMs
  maxBackoffMs : UInt64 := Limits.maxBackoffMs
  checksum : Bool := false
  deriving DecidableEq, Repr, Inhabited

structure HandshakeSettings where
  attempts : UInt32 := Limits.handshakeAttempts
  minFirmware : String := Limits.minFirmware
  deriving DecidableEq, Repr, Inhabited

structure MotionSettings where
  enableTimeoutCycles : UInt32 := Limits.enableTimeoutCycles
  homingTimeoutCycles : UInt32 := Limits.homingTimeoutCycles
  /-- Metres per second. -/
  velocity : Float := 0.5
  /-- Metres per second squared. -/
  acceleration : Float := 5.0
  deceleration : Float := 5.0
  deriving Repr, Inhabited

/-- Scheduling of the cyclic thread. -/
structure RealtimeSettings where
  cpuCore : Option UInt64 := none
  priority : Int32 := 80
  lockMemory : Bool := true
  deriving DecidableEq, Repr, Inhabited

structure Settings where
  shared : SharedSettings := {}
  drive : DriveSettings := {}
  cyclic : CyclicSettings := {}
  registerChannel : RegisterChannelSettings := {}
  handshake : HandshakeSettings := {}
  motion : MotionSettings := {}
  realtime : RealtimeSettings := {}
  deriving Repr, Inhabited

/-! ## Derived values -/

def DriveSettings.ip (s : DriveSettings) : Except SettingsError Net.Ip :=
  match Net.Ip.parse? s.address with
  | some ip => .ok ip
  | none => .error (.invalid ("invalid drive address " ++ Text.quoted s.address))

def DriveSettings.cyclicEndpoint (s : DriveSettings) : Except SettingsError Net.Endpoint := do
  pure ⟨← s.ip, s.cyclicPort⟩

def DriveSettings.registerEndpoint (s : DriveSettings) : Except SettingsError Net.Endpoint := do
  pure ⟨← s.ip, s.registerPort⟩

/-- The requested period in nanoseconds. -/
def CyclicSettings.cycleTimeNs (s : CyclicSettings) : Nat := s.cycleTimeUs.toNat * 1000

def HandshakeSettings.oldestFirmware (s : HandshakeSettings) : Except SettingsError Firmware :=
  match Firmware.parse s.minFirmware with
  | .ok v => .ok v
  | .error e => .error (.invalid e.message)

def MotionSettings.velocitySteps (s : MotionSettings) : Velocity := .ofMetersPerSecond s.velocity

def MotionSettings.accelerationSteps (s : MotionSettings) : Acceleration :=
  .ofMetersPerSecondSquared s.acceleration

def MotionSettings.decelerationSteps (s : MotionSettings) : Acceleration :=
  .ofMetersPerSecondSquared s.deceleration

/-! ## Validation -/

/-- `value` has to lie between `low` and `high`. -/
def checkRange (name : String) (value low high : Int) : Except SettingsError Unit :=
  if low ≤ value ∧ value ≤ high then .ok ()
  else .error (.invalid (name ++ " " ++ toString value ++ " out of range [" ++ toString low ++ ", "
    ++ toString high ++ "]"))

def require (condition : Bool) (detail : String) : Except SettingsError Unit :=
  if condition then .ok () else .error (.invalid detail)

theorem checkRange_eq_ok_iff {name : String} {value low high : Int} :
    checkRange name value low high = .ok () ↔ low ≤ value ∧ value ≤ high := by
  unfold checkRange
  split <;> simp_all

theorem require_eq_ok_iff {condition : Bool} {detail : String} :
    require condition detail = .ok () ↔ condition = true := by
  unfold require
  split <;> simp_all

/-- Checks in turn pass if each of them does. -/
theorem checks_eq_ok_iff {first rest : Except SettingsError Unit} :
    (first >>= fun _ => rest) = .ok () ↔ first = .ok () ∧ rest = .ok () := by
  cases first with
  | ok => exact (and_iff_right rfl).symm
  | error =>
      constructor
      · intro h
        cases h
      · intro h
        cases h.1

/-- A motion value has to be positive and at most 1000, so that its steps fit the word. -/
def checkMotionValue (name : String) (value : Float) : Except SettingsError Unit :=
  require (value > 0.0 && value ≤ 1000.0)
    ("motion " ++ name ++ " " ++ Decimal.floatText value ++ " out of range (0, 1000]")

def SharedSettings.validate (s : SharedSettings) : Except SettingsError Unit :=
  require (!s.serviceName.isEmpty) "service_name cannot be empty"

def DriveSettings.validate (s : DriveSettings) : Except SettingsError Unit := do
  let _ ← s.ip
  require (s.cyclicPort != 0 && s.registerPort != 0) "drive ports must be non-zero"

def CyclicSettings.validate (s : CyclicSettings) : Except SettingsError Unit := do
  checkRange "cycle_time_us" s.cycleTimeUs.toNat Limits.cycleTimeUsMin.toNat
    Limits.cycleTimeUsMax.toNat
  checkRange "miss_threshold" s.missThreshold.toNat 1 Limits.missThresholdMax.toNat
  checkRange "jitter_tolerance_percent" s.jitterTolerancePercent.toNat 1 100

def RegisterChannelSettings.validate (s : RegisterChannelSettings) : Except SettingsError Unit := do
  checkRange "attempts" s.attempts.toNat 1 Limits.requestAttemptsMax.toNat
  require (s.minRttMs != 0) "min_rtt_ms must be greater than 0"
  require (s.minRttMs ≤ s.maxBackoffMs)
    ("min_rtt_ms " ++ toString s.minRttMs.toNat ++ " exceeds max_backoff_ms "
      ++ toString s.maxBackoffMs.toNat)
  checkRange "initial_rtt_ms" s.initialRttMs.toNat s.minRttMs.toNat s.maxBackoffMs.toNat

def HandshakeSettings.validate (s : HandshakeSettings) : Except SettingsError Unit := do
  checkRange "handshake attempts" s.attempts.toNat 1 Limits.handshakeAttemptsMax.toNat
  let _ ← s.oldestFirmware
  pure ()

def MotionSettings.validate (s : MotionSettings) : Except SettingsError Unit := do
  checkRange "enable_timeout_cycles" s.enableTimeoutCycles.toNat 1
    Limits.stepTimeoutCyclesMax.toNat
  checkRange "homing_timeout_cycles" s.homingTimeoutCycles.toNat 1
    Limits.stepTimeoutCyclesMax.toNat
  checkMotionValue "velocity" s.velocity
  checkMotionValue "acceleration" s.acceleration
  checkMotionValue "deceleration" s.deceleration

def RealtimeSettings.validate (s : RealtimeSettings) : Except SettingsError Unit :=
  checkRange "rt priority" s.priority.toInt 1 99

/-- Checks every section in turn. -/
def Settings.validate (s : Settings) : Except SettingsError Unit := do
  s.shared.validate
  s.drive.validate
  s.cyclic.validate
  s.registerChannel.validate
  s.handshake.validate
  s.motion.validate
  s.realtime.validate

/-! ## Overrides -/

/-- Values that take precedence over those of the document. -/
structure Overrides where
  address : Option String := none
  cpuCore : Option UInt64 := none
  priority : Option Int32 := none
  deriving DecidableEq, Repr, Inhabited

def Overrides.apply (o : Overrides) (s : Settings) : Settings :=
  { s with
    drive := { s.drive with address := o.address.getD s.drive.address }
    realtime :=
      { s.realtime with
        cpuCore := o.cpuCore.or s.realtime.cpuCore
        priority := o.priority.getD s.realtime.priority } }

end ServoLink
