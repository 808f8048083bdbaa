import ServoLink.Event
import ServoLink.Motion.Status
import ServoLink.Motion.StepTracker
import ServoLink.Settings.Basic

/-!
# Axis machine — operator commands and statuses in, control words out

Transitions come only from the latest status and the single pending operator command.  The output of
a state is sent every cycle until the drive confirms the transition.

* `Machine.submit` — offers a command; one that does not apply is refused, never queued;
* `Machine.update` — advances on a status;
* `Machine.forceFault` — enters the fault state for a reason outside the drive;
* `Machine.output` — what to send next; a function of the machine alone.

    disabled ── enable, drive ready ──▶ enabling ── enabled ──▶ ready
    ready ── home ──▶ homing ── homed ──▶ ready
    ready ── move ──▶ moving ── settled ──▶ ready
    any ── fault ──▶ faulted ── acknowledge ──▶ faultAcknowledge ── cleared ──▶ disabled
-/

namespace ServoLink
namespace Motion

open ProcessData

/-! ## Operator commands -/

inductive OperatorCommand where
  | enable
  | disable
  | home
  | moveTo (target : Position)
  | stop
  | faultAcknowledge
  deriving DecidableEq, Repr, Inhabited

def OperatorCommand.name : OperatorCommand → String
  | enable => "enable"
  | disable => "disable"
  | home => "home"
  | moveTo _ => "move_to"
  | stop => "stop"
  | faultAcknowledge => "fault_acknowledge"

/-- Why a command does not apply. -/
inductive Refusal where
  | enableRequiresDisabled
  | alreadyDisabled
  | homeRequiresReady
  | moveRequiresReady
  | stopRequiresMoving
  | fatalCannotBeAcknowledged
  | noFault
  deriving DecidableEq, Repr, Inhabited

def Refusal.message : Refusal → String
  | enableRequiresDisabled => "enable requires Disabled"
  | alreadyDisabled => "already disabled"
  | homeRequiresReady => "home requires Ready"
  | moveRequiresReady => "move requires Ready"
  | stopRequiresMoving => "stop requires Moving"
  | fatalCannotBeAcknowledged => "fatal drive error cannot be acknowledged"
  | noFault => "no fault to acknowledge"

/-! ## Output -/

/-- What the next control frame carries. -/
structure Output where
  control : ControlWord
  motion : Option MotionCommand
  deriving DecidableEq, Repr, Inhabited

def Output.request (o : Output) (response : ResponseSections) : ControlRequest :=
  { control := some o.control, motion := o.motion, configuration := none, response }

/-! ## Machine -/

/-- Limits of the moves an operator commands. -/
structure Profile where
  velocity : Velocity
  acceleration : Acceleration
  deceleration : Acceleration
  deriving DecidableEq, Repr, Inhabited

structure Machine where
  state : MotionState := .disabled
  pending : Option OperatorCommand := none
  sequence : StepTracker := {}
  fault : Option FaultReason := none
  /-- Count of the last command issued. -/
  motionCount : UInt8 := 0
  /-- Count the drive echoed last. -/
  echoedCount : Option UInt8 := none
  /-- The command being sent. -/
  active : Option Command := none
  /-- A stop was issued in this move; standstill completes it, not the target. -/
  stopping : Bool := false
  profile : Profile
  enableTimeout : Nat
  homingTimeout : Nat
  /-- Events raised since they were taken last, oldest first. -/
  events : List Event := []
  deriving DecidableEq, Repr

namespace Machine

def new (s : MotionSettings) : Machine :=
  { profile := ⟨s.velocitySteps, s.accelerationSteps, s.decelerationSteps⟩
    enableTimeout := s.enableTimeoutCycles.toNat
    homingTimeout := s.homingTimeoutCycles.toNat }

/-- How many events are held; later ones are lost. -/
def eventCapacity : Nat := 8

def push (m : Machine) (event : Event) : Machine :=
  if m.events.length < eventCapacity then { m with events := m.events ++ [event] } else m

def takeEvents (m : Machine) : List Event × Machine := (m.events, { m with events := [] })

/-- Changes the state and starts its sequence afresh; nothing happens without a change. -/
def transition (m : Machine) (target : MotionState) : Machine :=
  if m.state = target then m
  else
    { m with state := target, stopping := false, sequence := {} }.push
      (.motionStateChanged m.state target)

def enterFault (m : Machine) (reason : FaultReason) : Machine :=
  ({ m with fault := some reason, pending := none, active := none }.push
    (.faultEntered reason)).transition .faulted

/-- The successor of a 4-bit count. -/
def nextCount (count : UInt8) : UInt8 := (count + 1) &&& 0x0F

/-- Issues a command under a new count.  The drive acts on a count that differs from the one it
holds, so without an outstanding command the count continues from the drive's echo. -/
def issue (m : Machine) (command : Command) : Machine :=
  let base := match m.active, m.echoedCount with
    | none, some echoed => echoed
    | _, _ => m.motionCount
  { m with motionCount := nextCount base, active := some command }

/-! ### Submitting -/

/-- Whether a command applies to the state, and why not. -/
def verdict (m : Machine) (command : OperatorCommand) : Except Refusal Unit :=
  match command with
  | .enable => if m.state = .disabled then .ok () else .error .enableRequiresDisabled
  | .disable => if m.state.isEnabled then .ok () else .error .alreadyDisabled
  | .home => if m.state = .ready then .ok () else .error .homeRequiresReady
  | .moveTo _ => if m.state = .ready then .ok () else .error .moveRequiresReady
  | .stop => if m.state = .moving then .ok () else .error .stopRequiresMoving
  | .faultAcknowledge =>
      if m.state = .faulted then
        if m.fault.any FaultReason.isFatal then .error .fatalCannotBeAcknowledged else .ok ()
      else .error .noFault

/-- Offers a command; an accepted one takes effect on the next status. -/
def submit (m : Machine) (command : OperatorCommand) : Except Refusal Unit × Machine :=
  match m.verdict command with
  | .ok () => (.ok (), { m with pending := some command })
  | .error refusal => (.error refusal, m.push (.commandRejected command.name m.state))

/-! ### Updating -/

/-- The drive has taken our command and come to rest: it echoes our count, and it is in target or
was stopped. -/
def settled (m : Machine) (s : AxisStatus) : Bool :=
  s.motionCount == some m.motionCount && !s.motionActive && (m.stopping || s.inTarget)

/-- Homing waits for the homed bit to drop, then for it to come back; the finished flag of the
homing state, where the drive reports it, ends either wait. -/
def updateHoming (m : Machine) (s : AxisStatus) : Machine :=
  if s.homing = some true then m.transition .ready
  else
    match m.sequence.step with
    | 0 =>
        if s.homing.isSome || !s.homed then { m with sequence := m.sequence.advance }
        else if m.sequence.timedOut m.homingTimeout then m.enterFault .homingTimeout
        else m
    | 1 =>
        if s.homing.isNone && s.homed then m.transition .ready
        else if m.sequence.timedOut m.homingTimeout then m.enterFault .homingTimeout
        else m
    | _ => m

def updateDisabled (m : Machine) (s : AxisStatus) : Machine :=
  if m.pending = some .enable then
    let m := { m with pending := none }
    -- A drive that is not ready refuses now; the command is not kept for later.
    if s.ready then m.transition .enabling
    else m.push (.commandRejected OperatorCommand.enable.name m.state)
  else m

def updateEnabling (m : Machine) (s : AxisStatus) : Machine :=
  if s.enabled then m.transition .ready
  else if m.sequence.timedOut m.enableTimeout then m.enterFault .enableTimeout
  else m

def updateReady (m : Machine) : Machine :=
  let idle := { m with pending := none }
  match m.pending with
  | some .home => idle.transition .homing
  | some (.moveTo target) =>
      let p := m.profile
      (idle.issue (.goTo target p.velocity p.acceleration p.deceleration)).transition .moving
  -- No other command is accepted in this state.
  | _ => idle

def updateMoving (m : Machine) (s : AxisStatus) : Machine :=
  if m.pending = some .stop then
    let m := { m with pending := none }
    -- A second stop in one move changes nothing.
    if m.stopping then m else { m.issue (.stop m.profile.deceleration) with stopping := true }
  else if m.settled s then m.transition .ready
  else m

def updateFaulted (m : Machine) : Machine :=
  if m.pending = some .faultAcknowledge then
    { m with pending := none }.transition .faultAcknowledge
  else m

def updateAcknowledge (m : Machine) (s : AxisStatus) : Machine :=
  if s.fault then m
  else ({ m with fault := none }.push .faultCleared).transition .disabled

/-- What a status means in the current state. -/
def advance (m : Machine) (s : AxisStatus) : Machine :=
  match m.state with
  | .disabled => m.updateDisabled s
  | .enabling => m.updateEnabling s
  | .ready => m.updateReady
  | .homing => m.updateHoming s
  | .moving => m.updateMoving s
  | .faulted => m.updateFaulted
  | .faultAcknowledge => m.updateAcknowledge s

/-- Counts the cycle and notes the echoed count. -/
def observe (m : Machine) (s : AxisStatus) : Machine :=
  { m with sequence := m.sequence.tick, echoedCount := s.motionCount.or m.echoedCount }

/-- A drive fault that turns out to be fatal is recorded as such. -/
def escalate (m : Machine) (s : AxisStatus) : Machine :=
  match m.fault with
  | some (.drive _) => if s.fatal then { m with fault := some (.driveFatal s.errorCode) } else m
  | _ => m

/-- Advances on a status.  A fault comes first, then a pending disable, then the state's own
rule. -/
def update (m : Machine) (s : AxisStatus) : Machine :=
  let m := m.observe s
  -- A fault drops whatever command was pending.
  if s.fault && !m.state.isFaulted then m.enterFault s.faultReason
  else
    let m := m.escalate s
    if m.pending = some .disable then
      { m with pending := none, active := none }.transition .disabled
    else m.advance s

/-- Enters the fault state, whatever the state; an unacknowledged fault is kept. -/
def forceFault (m : Machine) (reason : FaultReason) : Machine :=
  if m.state = .faulted then m else m.enterFault reason

/-! ### Output -/

def controlWord : MotionState → ControlWord
  | .disabled | .faulted => ControlWord.idle
  | .faultAcknowledge => ControlWord.idle ||| ControlWord.errorAcknowledge
  | .enabling | .ready | .moving => ControlWord.operate
  | .homing => ControlWord.operate ||| ControlWord.home

def output (m : Machine) : Output :=
  ⟨controlWord m.state, m.active.map fun command => ⟨m.motionCount, command⟩⟩

end Machine

end Motion
end ServoLink
