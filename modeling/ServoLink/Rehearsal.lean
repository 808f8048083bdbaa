import ServoLink.Drive.Simulated
import ServoLink.Session

/-!
# Rehearsal — a session against a simulated drive, step by step

The site of a rehearsal holds at most one simulated drive on the local host.  The drive answers
every datagram at once.  A datagram to any other port, or to a drive that has gone, is refused:
the next receive fails.  On a site without a route no socket can be opened at all.

The cyclic thread is stepped: connecting runs its first cycle, and `Action.run` runs further ones.
-/

namespace ServoLink
namespace Rehearsal

open Net

/-! ## Site -/

structure Site where
  /-- Sockets can be opened. -/
  routed : Bool := true
  drive : Option Drive.Simulated := none
  deriving DecidableEq, Repr, Inhabited

namespace Site

def localHost : Ip := .v4 127 0 0 1

def processPeer : Endpoint := ⟨localHost, Limits.cyclicDrivePort⟩
def registerPeer : Endpoint := ⟨localHost, Limits.registerPort⟩

def unreachableText : String := "Network is unreachable (os error 101)"

/-- Answers that arrive at once. -/
def atOnce (datagrams : List (List UInt8)) : Reaction :=
  { replies := datagrams.map fun bytes => (0, .datagram bytes) }

/-- The next receive fails. -/
def refusal : Reaction := { replies := [(0, .failure Drive.refusedText)] }

/-- What becomes of a datagram sent to a peer. -/
def react (peer : Endpoint) : FarEnd Site := fun site datagram =>
  match site.drive with
  | none => (refusal, site)
  | some drive =>
      if peer = processPeer then
        let (answers, process) := drive.process.serve datagram
        (atOnce answers, { site with drive := some { drive with process } })
      else if peer = registerPeer then
        let (answers, registers) := drive.registers.serve datagram
        (atOnce answers, { site with drive := some { drive with registers } })
      else (refusal, site)

/-- The site as the surroundings of a session.  A cycle without an answer ends a nanosecond before
its period, so that the next one starts on schedule. -/
def surroundings : Surroundings Site where
  openSocket _ site := if site.routed then .ok () else .error unreachableText
  react := react
  earliness := 1

/-- Settings that reach the simulated drive, with local ports chosen by the system. -/
def driveSettings : DriveSettings :=
  { address := localHost.text
    cyclicPort := processPeer.port
    localCyclicPort := 0
    registerPort := registerPeer.port
    localRegisterPort := 0 }

end Site

/-! ## Stepping -/

section Stepping

variable {ω : Type} (env : Surroundings ω)

/-- Cycles of the cyclic thread. -/
def cycles : Nat → Session ω → Session ω
  | 0, s => s
  | n + 1, s => cycles n (s.cycle env)

/-- A thread that has just been started runs its first cycle. -/
def firstCycle (s : Session ω) : Session ω :=
  match s.cyclic with
  | some thread =>
      if thread.runner.timing.cycles = 0 && thread.failure.isNone then cycles env 1 s else s
  | none => s

/-- Lets a thread that a connection has started run its first cycle. -/
def started : Except LinkError Handshake.Outcome × Session ω →
    Except LinkError Handshake.Outcome × Session ω
  | (.ok outcome, s) => (.ok outcome, firstCycle env s)
  | (.error cause, s) => (.error cause, s)

end Stepping

/-! ## Actions -/

/-- The switches of a simulated drive. -/
inductive Switch where
  | dropStatus (on : Bool)
  | staleEcho (on : Bool)
  | dropConfig (on : Bool)
  | inject (code : Drive.ErrorCode) (fatal : Bool)
  deriving DecidableEq, Repr

def Switch.apply (d : Drive.Simulated) (s : Switch) : Drive.Simulated :=
  match s with
  | dropStatus on => { d with process := { d.process with dropStatus := on } }
  | staleEcho on => { d with process := { d.process with staleEcho := on } }
  | dropConfig on => { d with registers := { d.registers with deaf := on } }
  | inject code fatal =>
      { d with process := { d.process with model := d.process.model.inject code fatal } }

inductive Action where
  | connect
  /-- Connect to the register port of the simulated drive. -/
  | connectTo
  | reset
  | disconnect
  | command (command : Motion.OperatorCommand)
  | read (address : Register.Address) (cancelled : Bool)
  | write (address : Register.Address) (value : Register.Value) (cancelled : Bool)
  /-- Further cycles of the cyclic thread. -/
  | run (cycles : Nat)
  | snapshot
  | switch (switch : Switch)
  /-- The drive's own view of a register. -/
  | register (address : Register.Address)
  /-- The drive goes away for good. -/
  | removeDrive
  deriving DecidableEq, Repr

/-- What an action shows. -/
inductive Outcome where
  | nothing
  | done
  | value (value : Register.Value)
  | connected (handshake : Handshake.Outcome)
  | snapshot (snapshot : SessionSnapshot)
  | failed (cause : LinkError)
  deriving DecidableEq, Repr

abbrev Stage := Session Site

/-- A session, and a simulated drive to reach by it if there is one. -/
def new (settings : Settings) (routed : Bool) (options : Option Drive.Options) : Stage :=
  let settings := match options with
    | some _ => { settings with drive := Site.driveSettings }
    | none => settings
  .new settings { routed, drive := options.map .new }

def connect (s : Stage) : Except LinkError Handshake.Outcome × Stage :=
  started Site.surroundings (Session.connect Site.surroundings s)

def handshakeOutcome : Except LinkError Handshake.Outcome × Stage → Outcome × Stage
  | (.ok outcome, s) => (.connected outcome, s)
  | (.error cause, s) => (.failed cause, s)

def doneOutcome : Except LinkError Unit × Stage → Outcome × Stage
  | (.ok (), s) => (.done, s)
  | (.error cause, s) => (.failed cause, s)

def cancellation (cancelled : Bool) : Register.Cancellation :=
  if cancelled then .before else .never

def perform (s : Stage) : Action → Outcome × Stage
  | .connect => handshakeOutcome (connect s)
  | .connectTo => handshakeOutcome
      (started Site.surroundings (s.connectTo Site.surroundings Site.registerPeer))
  | .reset => handshakeOutcome (started Site.surroundings (s.reset Site.surroundings))
  | .disconnect => (.nothing, s.disconnect)
  | .command command => doneOutcome (s.command command)
  | .read address cancelled =>
      match s.readRegister Site.surroundings address (cancellation cancelled) with
      | (.ok value, s) => (.value value, s)
      | (.error cause, s) => (.failed cause, s)
  | .write address value cancelled =>
      doneOutcome (s.writeRegister Site.surroundings address value (cancellation cancelled))
  | .run n =>
      let s := cycles Site.surroundings n s
      (.snapshot s.snapshot, s)
  | .snapshot => (.snapshot s.snapshot, s)
  | .switch switch =>
      (.nothing, { s with world := { s.world with drive := s.world.drive.map (switch.apply ·) } })
  | .register address =>
      match s.world.drive.bind fun drive => drive.registers.map.value? address with
      | some value => (.value value, s)
      | none => (.nothing, s)
  | .removeDrive => (.nothing, { s with world := { s.world with drive := none } })

/-- The outcome of each action, with the stage after it, and the stage at the end. -/
def play (s : Stage) : List Action → List (Outcome × Stage) × Stage
  | [] => ([], s)
  | action :: rest =>
      let (outcome, after) := perform s action
      let (later, final) := play after rest
      ((outcome, after) :: later, final)

end Rehearsal
end ServoLink
