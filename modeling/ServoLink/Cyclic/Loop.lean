import ServoLink.Cyclic.Channel
import ServoLink.Cyclic.Timing
import ServoLink.Motion.Machine

/-!
# Cyclic loop — exchange, motion update, publication, once per period

A cycle takes the latest operator command, exchanges the control frame of the axis machine, feeds
the status to the machine and publishes a snapshot.  A missed status leaves the output as it is.
The loop then sleeps until the next wake; a late cycle moves the schedule instead of catching up.

* `Cycle.body` — one cycle's work;
* `Cycle.finish` — its accounting;
* `Cycle.turn` — both, timed against the schedule, and the sleep after them;
* `Cycle.run` — turns until the loop is stopped or the transport fails.

A program shares the snapshot with its readers under a lock and never waits for it: a cycle that finds
a reader there leaves the snapshot of an earlier cycle in place.  Here readers take no time, so every
cycle publishes (`Cycle.publish`).  Log records and the set-up of a real-time thread are left out.
-/

namespace ServoLink
namespace Cyclic

open Wire ProcessData Motion Net

/-! ## What the loop publishes -/

/-- View of the cyclic state, published every cycle. -/
structure Snapshot where
  cycle : Nat := 0
  motionState : MotionState := .disabled
  fault : Option FaultReason := none
  statusWord : UInt16 := 0
  warningWord : UInt16 := 0
  driveState : Option Drive.State := none
  actualPosition : Option Position := none
  demandPosition : Option Position := none
  current : Option Current := none
  errorCode : Option Drive.ErrorCode := none
  consecutiveMisses : Nat := 0
  linkFaulted : Bool := false
  link : Stats := {}
  timing : Timing := {}
  deriving DecidableEq, Repr, Inhabited

/-- Takes over the sections of a status. -/
def Snapshot.apply (s : Snapshot) (status : StatusResponse) : Snapshot :=
  { s with
    statusWord := (status.status.map (·.bits)).getD 0
    warningWord := (status.warning.map (·.bits)).getD 0
    driveState := status.state
    actualPosition := status.actualPosition
    demandPosition := status.demandPosition
    current := status.current
    errorCode := status.errorCode }

structure FaultRecord where
  cycle : Nat
  reason : FaultReason
  deriving DecidableEq, Repr, Inhabited

/-- How many faults the history keeps. -/
def historyLength : Nat := 32

/-- State shared with the session: its connection, the last snapshot, the events in order. -/
structure Shared where
  connection : ConnectionState := .disconnected
  snapshot : Snapshot := {}
  events : List Event := []
  deriving DecidableEq, Repr, Inhabited

namespace Shared

def emit (s : Shared) (event : Event) : Shared := { s with events := s.events ++ [event] }

/-- Stores the state; the event of the change, if it is one. -/
def swapConnection (s : Shared) (target : ConnectionState) : Option Event × Shared :=
  (if s.connection = target then none else some (.sessionStateChanged s.connection target),
   { s with connection := target })

/-- Stores the state and emits the event of the change, if it is one. -/
def setConnection (s : Shared) (target : ConnectionState) : Shared :=
  match s.swapConnection target with
  | (some event, s) => s.emit event
  | (none, s) => s

end Shared

/-! ## The loop's own state -/

structure Runner where
  machine : Machine
  /-- Commands not taken yet, oldest first. -/
  commands : List OperatorCommand := []
  /-- What the next control frame carries. -/
  output : Output
  timing : Timing := {}
  /-- The latest faults, oldest first. -/
  faults : List FaultRecord := []
  /-- Nanoseconds. -/
  period : Int
  /-- Largest wake-up latency that is not reported; zero reports none. -/
  tolerance : Int
  deriving DecidableEq, Repr

def Runner.new (machine : Machine) (period : Nat) (jitterPercent : Nat) : Runner :=
  { machine, output := machine.output, period
    tolerance := (period : Int) * jitterPercent / 100 }

/-- The loop with everything it works on. -/
structure Cycle (σ : Type) where
  runner : Runner
  shared : Shared
  link : Link σ
  deriving Repr

/-- Adds a fault to the history, dropping the oldest over the limit. -/
def remember (history : List FaultRecord) (entry : FaultRecord) : List FaultRecord :=
  (history ++ [entry]).drop (history.length + 1 - historyLength)

namespace Cycle

variable {σ : Type}

def emit (c : Cycle σ) (event : Event) : Cycle σ := { c with shared := c.shared.emit event }

/-- Submits the latest of the waiting commands; the others are dropped. -/
def takeCommand (c : Cycle σ) : Cycle σ :=
  match c.runner.commands.getLast? with
  | none => c
  | some command =>
      -- A refusal is an event of the machine, so the verdict is not needed here.
      let machine := (c.runner.machine.submit command).2
      { c with runner := { c.runner with machine, commands := [], output := machine.output } }

/-- Passes on one event of the axis machine. -/
def pass (cycle : Nat) (c : Cycle σ) (event : Event) : Cycle σ :=
  let c := match event with
    | .faultEntered reason =>
        { c with runner := { c.runner with faults := remember c.runner.faults ⟨cycle, reason⟩ } }
    | _ => c
  c.emit event

/-- Passes on the events of the axis machine, in order. -/
def drain (cycle : Nat) (c : Cycle σ) : Cycle σ :=
  let (events, machine) := c.runner.machine.takeEvents
  events.foldl (pass cycle) { c with runner := { c.runner with machine } }

/-- Publishes the state of the cycle, in place of that of the cycle before. -/
def publish (cycle : Nat) (c : Cycle σ) : Cycle σ :=
  let snapshot :=
    { c.shared.snapshot with
      cycle
      motionState := c.runner.machine.state
      fault := c.runner.machine.fault
      consecutiveMisses := c.link.channel.consecutiveMisses
      linkFaulted := c.link.channel.linkFaulted
      link := c.link.channel.stats
      timing := c.runner.timing }
  { c with shared := { c.shared with snapshot } }

/-- Faults the session, unless it is faulted already. -/
def faultSession (c : Cycle σ) : Cycle σ :=
  { c with shared := c.shared.setConnection .faulted }

/-- A status arrived: the machine advances on it. -/
def onStatus (status : StatusResponse) (c : Cycle σ) : Cycle σ :=
  let machine := c.runner.machine.update (.ofResponse status)
  { c with
    runner := { c.runner with machine, output := machine.output }
    shared := { c.shared with snapshot := c.shared.snapshot.apply status } }

/-- No status arrived in time. -/
def onMiss (cycle : Nat) (c : Cycle σ) : Cycle σ :=
  let timing := { c.runner.timing with misses := c.runner.timing.misses + 1 }
  { c with runner := { c.runner with timing } }.emit
    (.cycleMissed cycle c.link.channel.consecutiveMisses)

/-- Faults the axis because the link is gone. -/
def loseLink (c : Cycle σ) : Cycle σ :=
  { c with runner := { c.runner with machine := c.runner.machine.forceFault .linkLost } }

/-- The miss that faulted the link. -/
def onLinkFault (cycle : Nat) (c : Cycle σ) : Cycle σ :=
  let c := ((c.onMiss cycle).emit (.linkFaulted c.link.channel.consecutiveMisses)).loseLink
  { c with runner := { c.runner with output := c.runner.machine.output } }.faultSession

/-- The request of a cycle that has taken its command. -/
def request (c : Cycle σ) : ControlRequest :=
  c.runner.output.request ResponseSections.standard

/-- One cycle's work, with `budget` nanoseconds for the exchange.  An error means that the transport
failed and the loop is over. -/
def body (react : FarEnd σ) (budget : Nat) (c : Cycle σ) : Except LinkError Unit × Cycle σ :=
  -- Nothing of this cycle is counted yet: here cycles are numbered from zero.
  let cycle := c.runner.timing.cycles
  let c := c.takeCommand
  match exchange react c.request budget c.link with
  | .ok status link => (.ok (), ((onStatus status { c with link }).drain cycle).publish cycle)
  | .error cause link =>
      let c := { c with link }
      match cause with
      | .cycleMissed => (.ok (), ((c.onMiss cycle).drain cycle).publish cycle)
      | .linkFaulted => (.ok (), ((c.onLinkFault cycle).drain cycle).publish cycle)
      -- A request that does not fit a frame: nothing was sent, and the loop goes on.
      | .frame _ => (.ok (), (c.drain cycle).publish cycle)
      | _ => (.error cause, ((c.loseLink.drain cycle).faultSession).publish cycle)

/-- Accounts for a finished cycle. -/
def finish (duration latency : Int) (c : Cycle σ) : Cycle σ :=
  let r := c.runner
  let timing := r.timing.record duration latency
  let timing :=
    if r.period < duration then { timing with overruns := timing.overruns + 1 } else timing
  -- The cycle is counted by now: the report numbers cycles from one.
  if 0 < r.tolerance && r.tolerance < latency then
    let timing := { timing with jitterViolations := timing.jitterViolations + 1 }
    { c with runner := { r with timing } }.emit
      (.jitterExceeded timing.cycles (latency / 1000).toNat (r.tolerance / 1000).toNat)
  else { c with runner := { r with timing } }

/-! ## Schedule -/

/-- When the next cycle is due, and how much too long each coming sleep takes. -/
structure Schedule where
  wake : Nat := 0
  oversleeps : List Nat := []
  deriving DecidableEq, Repr, Inhabited

/-- Sleeps until the wake; a late cycle makes now the wake instead. -/
def rest (s : Schedule) (c : Cycle σ) : Schedule × Cycle σ :=
  let now := c.link.line.now
  -- A late cycle starts the schedule anew, so that no burst of cycles catches up.
  if s.wake ≤ now then ({ s with wake := now }, c)
  else
    let line := c.link.line.sleep (s.wake - now + s.oversleeps.headD 0)
    ({ s with oversleeps := s.oversleeps.tail }, { c with link := { c.link with line } })

/-- One cycle against the schedule, without the sleep after it. -/
def timed (react : FarEnd σ) (s : Schedule) (c : Cycle σ) :
    Except LinkError Unit × Schedule × Cycle σ :=
  let start := c.link.line.now
  let latency := start - s.wake
  let s := { s with wake := s.wake + c.runner.period.toNat }
  match c.body react (s.wake - start) with
  | (.error cause, c) => (.error cause, s, c)
  | (.ok (), c) => (.ok (), s, c.finish ((c.link.line.now - start : Nat) : Int) (latency : Nat))

/-- One cycle and the sleep after it. -/
def turn (react : FarEnd σ) (s : Schedule) (c : Cycle σ) :
    Except LinkError Unit × Schedule × Cycle σ :=
  match c.timed react s with
  | (.error cause, s, c) => (.error cause, s, c)
  | (.ok (), s, c) => (.ok (), rest s c)

/-- Commands given while a cycle waits for its status; the next cycle sees them. -/
def offer (commands : List OperatorCommand) (c : Cycle σ) : Cycle σ :=
  { c with runner := { c.runner with commands := c.runner.commands ++ commands } }

/-- A run of the loop, with the snapshot that stood at the start of each cycle. -/
structure Run (σ : Type) where
  result : Except LinkError Unit
  cycle : Cycle σ
  snapshots : List Snapshot

/-- One turn for each entry; an entry holds the commands given during its cycle. -/
def run (react : FarEnd σ) : List (List OperatorCommand) → Schedule → Cycle σ → Run σ
  | [], _, c => ⟨.ok (), c, []⟩
  | commands :: later, s, c =>
      let before := c.shared.snapshot
      match c.turn react s with
      | (.error cause, _, c) => ⟨.error cause, c, [before]⟩
      | (.ok (), s, c) =>
          let r := run react later s (c.offer commands)
          { r with snapshots := before :: r.snapshots }

end Cycle

end Cyclic
end ServoLink
