import ServoLink.Firmware
import ServoLink.ProcessData.Status

/-!
# Drive model — a small simulated drive

The model knows switch-on and enable, a homing run of fixed length, moves at constant speed, a stop
that coasts for a few frames, and injected faults cleared by a rising acknowledge bit.  It advances
once per control frame.
-/

namespace ServoLink
namespace Drive

open ProcessData

/-- Properties of a simulated drive. -/
structure Options where
  firmware : Firmware := ⟨6, 2, 0⟩
  deviceId : String := "LinMot C1250-SIM"
  cycleTimeUs : UInt32 := 2000
  cycleTimeMinUs : UInt32 := 250
  cycleTimeMaxUs : UInt32 := 10000
  /-- Travel per control frame, in position steps. -/
  speed : Int32 := 20000
  /-- Control frames a homing run takes. -/
  homingFrames : UInt32 := 20
  /-- Control frames a stop keeps moving. -/
  stopFrames : UInt32 := 0
  checksum : Bool := false
  deriving DecidableEq, Repr, Inhabited

structure Model where
  fault : Option ErrorCode := none
  fatal : Bool := false
  enabled : Bool := false
  homed : Bool := false
  /-- Frames left of the homing run; zero holds until the home bit drops. -/
  homingRemaining : Option Nat := none
  position : Int32 := 0
  target : Int32 := 0
  motionCount : UInt8 := 0
  lastControl : ControlWord := Word.empty
  speed : Int32
  homingFrames : Nat
  stopFrames : Nat
  deriving DecidableEq, Repr, Inhabited

/-- `x` moved between the bounds. -/
def clampInt (low high x : Int) : Int := max low (min high x)

namespace Model

def new (o : Options) : Model :=
  { speed := if o.speed < 1 then 1 else o.speed
    homingFrames := o.homingFrames.toNat
    stopFrames := o.stopFrames.toNat }

/-- How far a stop coasts: some frames at speed, as far as the word goes. -/
def coast (m : Model) : Int :=
  (Saturating.mul32 m.speed (.ofIntClamp m.stopFrames)).toInt

/-- The way from the position to the target, as far as the word goes. -/
def remaining (m : Model) : Int := (Saturating.sub32 m.target m.position).toInt

/-- The position, moved by a distance. -/
def moved (m : Model) (distance : Int) : Int32 := .ofInt (m.position.toInt + distance)

/-- One frame of the homing run, which a rising home bit starts. -/
def stepHoming (m : Model) (control rising : ControlWord) : Model :=
  if !control.contains ControlWord.home then { m with homingRemaining := none }
  else
    let m := if rising.contains ControlWord.home then
        { m with homed := false, homingRemaining := some m.homingFrames }
      else m
    match m.homingRemaining with
    | none => m
    | some frames =>
        let left := frames - 1
        if left = 0 && !m.homed then
          { m with homingRemaining := some left, homed := true, position := 0, target := 0 }
        else { m with homingRemaining := some left }

/-- Takes a motion command if its count is new. -/
def stepCommand (m : Model) : Option MotionCommand → Model
  | none => m
  | some motion =>
      if motion.count = m.motionCount then m
      else
        let m := { m with motionCount := motion.count }
        match motion.command with
        | .goTo target _ _ _ => { m with target := target.steps }
        | .stop _ => { m with target := m.moved (clampInt (-m.coast) m.coast m.remaining) }
        | .noOperation | .raw .. => m

/-- Travels toward the target, at most one frame's way. -/
def travel (m : Model) : Model :=
  { m with position := m.moved (clampInt (-m.speed.toInt) m.speed.toInt m.remaining) }

/-- The bits that switch the drive on and enable it. -/
def operateBits : ControlWord := ControlWord.switchOn ||| ControlWord.enableOperation

/-- A rising acknowledge bit clears a fault that is not fatal. -/
def acknowledge (m : Model) (rising : ControlWord) : Model :=
  if m.fault.isSome && !m.fatal && rising.contains ControlWord.errorAcknowledge then
    { m with fault := none }
  else m

/-- The state after a control request. -/
def advance (m : Model) (request : ControlRequest) : Model :=
  -- A request without a control word repeats the last one, so it has no rising bits.
  let control := request.control.getD m.lastControl
  let rising := control.difference m.lastControl
  let m := { m with lastControl := control }.acknowledge rising
  let m := { m with enabled := m.fault.isNone && control.contains operateBits }
  if m.enabled then ((m.stepHoming control rising).stepCommand request.motion).travel
  -- Without power the axis stands still and forgets its run.
  else { m with homingRemaining := none, target := m.position }

/-! ## Status -/

def motionActive (m : Model) : Bool := m.enabled && m.position != m.target

def inTarget (m : Model) : Bool := m.enabled && !m.motionActive

def statusWord (m : Model) (control : ControlWord) : StatusWord :=
  Word.onlyIf m.fault.isSome (StatusWord.error ||| StatusWord.switchOnLocked)
    ||| Word.onlyIf (m.fault.isSome && m.fatal) StatusWord.fatalError
    ||| Word.onlyIf m.enabled
          (StatusWord.operationEnabled ||| StatusWord.switchOnActive ||| StatusWord.enableOperation)
    ||| Word.onlyIf (control.contains ControlWord.voltageEnable) StatusWord.voltageEnable
    ||| Word.onlyIf m.homed StatusWord.homed
    ||| Word.onlyIf m.motionActive StatusWord.motionActive
    ||| Word.onlyIf m.inTarget StatusWord.inTargetPosition

def state (m : Model) (control : ControlWord) : State :=
  match m.fault with
  | some code => .error code
  | none =>
      if m.enabled then
        match m.homingRemaining with
        | some left => .homing (left == 0)
        | none => .operationEnabled m.motionCount false m.motionActive m.inTarget m.homed
      else if control.contains ControlWord.switchOn then .readyToOperate
      else .readyToSwitchOn

/-- Motor current while moving and at rest. -/
def current (m : Model) : Current := ⟨if m.motionActive then 1200 else 150⟩

/-- A section of the answer, if it was asked for. -/
def asked {α : Type} (request : ControlRequest) (which : ResponseSections) (value : α) :
    Option α :=
  if request.response.contains which then some value else none

/-- The answer to a request, in the state after it. -/
def status (m : Model) (request : ControlRequest) : StatusResponse :=
  { echoed := request.sections
    status := asked request ResponseSections.statusWord (m.statusWord m.lastControl)
    state := asked request ResponseSections.state (m.state m.lastControl)
    actualPosition := asked request ResponseSections.actualPosition ⟨m.position⟩
    demandPosition := asked request ResponseSections.demandPosition ⟨m.target⟩
    current := asked request ResponseSections.current m.current
    warning := asked request ResponseSections.warningWord
      (Word.onlyIf (!m.homed) WarningWord.motorNotHomed)
    errorCode := asked request ResponseSections.errorCode (m.fault.getD .noError)
    monitoring := asked request ResponseSections.monitoringChannel ⟨0, 0, 0, 0⟩
    configuration := none }

/-- One control frame. -/
def step (m : Model) (request : ControlRequest) : StatusResponse × Model :=
  let m := m.advance request
  (m.status request, m)

def inject (m : Model) (code : ErrorCode) (fatal : Bool) : Model :=
  { m with fault := some code, fatal }

end Model

end Drive
end ServoLink
