import ServoLink.Cyclic.Loop
import ServoLink.Handshake

/-!
# Session — the life of a connection to one drive

    disconnected → handshaking → connected → faulted ── reset ──▶ disconnected → handshaking → …

A session owns the register channel and the cyclic thread.  Motion commands are handed to the
cyclic thread and take effect in its next cycle.  A socket error on either channel faults the
session; only a reset leaves that state.

What lies outside a session is its `Surroundings`: whether a socket to a peer can be opened, and
what a peer does with a datagram.  The session keeps their state and hands it to whichever channel
talks.

Two things are left out: a cyclic thread that the system fails to start or to give real-time
priority, and the records of the log.
-/

namespace ServoLink

open Net

/-- The world outside a session. -/
structure Surroundings (ω : Type) where
  /-- Opens a socket connected to a peer, or fails with a socket error. -/
  openSocket : Endpoint → ω → Except String Unit
  /-- What a peer does with a datagram. -/
  react : Endpoint → FarEnd ω
  /-- How long before its deadline a receive of the cyclic thread gives up. -/
  earliness : Nat := 0

/-- The register channel with its socket. -/
structure RegisterLink where
  peer : Endpoint
  channel : Register.Channel
  socket : Socket := {}
  deriving DecidableEq, Repr

/-- The cyclic thread, between two cycles. -/
structure CyclicThread where
  peer : Endpoint
  runner : Cyclic.Runner
  channel : Cyclic.Channel
  socket : Socket := {}
  schedule : Cyclic.Cycle.Schedule := {}
  /-- Why the loop ended, once it has. -/
  failure : Option LinkError := none
  deriving DecidableEq, Repr

/-- Point-in-time view of a session. -/
structure SessionSnapshot where
  connection : ConnectionState
  handshake : Option Handshake.Outcome
  cycle : Cyclic.Snapshot
  deriving DecidableEq, Repr

structure Session (ω : Type) where
  settings : Settings
  shared : Cyclic.Shared := {}
  registers : Option RegisterLink := none
  cyclic : Option CyclicThread := none
  handshake : Option Handshake.Outcome := none
  world : ω
  deriving Repr

namespace Session

variable {ω : Type}

def new (settings : Settings) (world : ω) : Session ω := { settings, world }

def state (s : Session ω) : ConnectionState := s.shared.connection

def snapshot (s : Session ω) : SessionSnapshot := ⟨s.state, s.handshake, s.shared.snapshot⟩

def setConnection (target : ConnectionState) (s : Session ω) : Session ω :=
  { s with shared := s.shared.setConnection target }

def emit (event : Event) (s : Session ω) : Session ω := { s with shared := s.shared.emit event }

/-! ## Connecting -/

/-- Performs the handshake, again after a failure: `left` more times, after `failures` attempts that
failed.  Each failure is reported.  A drive with too old a firmware is not asked again. -/
def negotiate (react : FarEnd ω) (requestedUs : UInt32) (oldest : Firmware) :
    (failures left : Nat) → Register.Conversation ω → Cyclic.Shared →
      Except LinkError Handshake.Outcome × Register.Conversation ω × Cyclic.Shared
  | failures, left, c, shared =>
      match Handshake.perform react requestedUs oldest c with
      | .ok outcome c => (.ok outcome, c, shared)
      | .error cause c =>
          -- Every attempt is reported, also the last.
          let shared := shared.emit (.handshakeFailed (failures + 1) cause.message)
          match left, cause with
          | _, .incompatibleFirmware .. | 0, _ => (.error cause, c, shared)
          | left + 1, _ => negotiate react requestedUs oldest (failures + 1) left c shared
  termination_by structural _ left => left

/-- Opens a socket to the peer that the settings name. -/
def openPeer (env : Surroundings ω) (peer : Except SettingsError Endpoint) (world : ω) :
    Except LinkError Endpoint :=
  match peer with
  | .error cause => .error (.settings cause)
  | .ok peer =>
      match env.openSocket peer world with
      | .error detail => .error (.socket detail)
      | .ok () => .ok peer

/-- Opens the register channel. -/
def openRegisters (env : Surroundings ω) (s : Session ω) : Except LinkError RegisterLink :=
  match openPeer env s.settings.drive.registerEndpoint s.world with
  | .error cause => .error cause
  | .ok peer =>
      match Register.Channel.new? s.settings.registerChannel with
      | some channel => .ok { peer, channel }
      -- Settings that were checked have the bounds in order.  With others a program stops here, before
      -- any handshake; the error, with a text of its own, stands for that.
      | none => .error (.settings (.invalid "round-trip bounds out of order"))

/-- Starts the cyclic thread with the period of the handshake; its first cycle is yet to come. -/
def startCyclic (env : Surroundings ω) (cycleTimeUs : UInt32) (s : Session ω) :
    Except LinkError Unit × Session ω :=
  match openPeer env s.settings.drive.cyclicEndpoint s.world with
  | .error cause => (.error cause, s)
  | .ok peer =>
      let period := cycleTimeUs.toNat * 1000
      let cyclic := s.settings.cyclic
      let thread : CyclicThread :=
        { peer
          runner := .new (.new s.settings.motion) period cyclic.jitterTolerancePercent.toNat
          channel := .new cyclic.checksum cyclic.missThreshold.toNat period
          socket := { earliness := env.earliness } }
      let s := { s with shared := { s.shared with snapshot := {} } }.setConnection .connected
      (.ok (), { s with cyclic := some thread })

/-- Handshake and start of the cyclic thread. -/
def tryConnect (env : Surroundings ω) (s : Session ω) :
    Except LinkError Handshake.Outcome × Session ω :=
  match s.openRegisters env with
  | .error cause => (.error cause, s)
  | .ok link =>
      match s.settings.handshake.oldestFirmware with
      | .error cause => (.error (.settings cause), s)
      | .ok oldest =>
          let attempts := max s.settings.handshake.attempts.toNat 1
          let (result, c, shared) :=
            negotiate (env.react link.peer) s.settings.cyclic.cycleTimeUs oldest 0 (attempts - 1)
              ⟨link.channel, ⟨link.socket, s.world⟩, false⟩ s.shared
          let s := { s with world := c.line.far, shared }
          match result with
          | .error cause => (.error cause, s)
          | .ok outcome =>
              let s := s.emit
                (.handshakeSucceeded outcome.firmware outcome.deviceId outcome.cycleTimeUs)
              let link := { link with channel := c.channel, socket := c.line.toSocket }
              match { s with registers := some link }.startCyclic env outcome.cycleTimeUs with
              | (.error cause, s) => (.error cause, s)
              | (.ok (), s) => (.ok outcome, { s with handshake := some outcome })

/-- Stops the cyclic thread and drops both channels. -/
def teardown (s : Session ω) : Session ω := { s with cyclic := none, registers := none }

/-- Connects from nothing; a failure leads back there. -/
def connectAfresh (env : Surroundings ω) (s : Session ω) :
    Except LinkError Handshake.Outcome × Session ω :=
  match (s.setConnection .handshaking).tryConnect env with
  | (.ok outcome, s) => (.ok outcome, s)
  | (.error cause, s) => (.error cause, s.teardown.setConnection .disconnected)

/-- Connects, unless the session is connected already or faulted. -/
def connect (env : Surroundings ω) (s : Session ω) :
    Except LinkError Handshake.Outcome × Session ω :=
  match s.state, s.handshake with
  | .connected, some outcome => (.ok outcome, s)
  | .handshaking, _ => (.error .notConnected, s)
  | .faulted, _ => (.error .sessionFaulted, s)
  -- A session is never connected without an outcome; it would start afresh.
  | .connected, none | .disconnected, _ => s.connectAfresh env

/-- Points the session at the register port of a drive and connects; the cyclic port stays. -/
def connectTo (env : Surroundings ω) (peer : Endpoint) (s : Session ω) :
    Except LinkError Handshake.Outcome × Session ω :=
  let drive := { s.settings.drive with address := peer.ip.text, registerPort := peer.port }
  { s with settings := { s.settings with drive } }.connect env

/-- Ends the connection; nothing happens without one. -/
def disconnect (s : Session ω) : Session ω :=
  if s.state = .disconnected && s.cyclic.isNone then s
  else { s.teardown with handshake := none }.setConnection .disconnected

/-- Leaves a fault by connecting anew. -/
def reset (env : Surroundings ω) (s : Session ω) :
    Except LinkError Handshake.Outcome × Session ω :=
  s.disconnect.connect env

/-! ## Registers -/

/-- The register channel of a connected session. -/
def channel (s : Session ω) : Except LinkError RegisterLink :=
  match s.state with
  | .connected =>
      match s.registers with
      | some link => .ok link
      | none => .error .notConnected
  | .faulted => .error .sessionFaulted
  | .disconnected | .handshaking => .error .notConnected

/-- Talks over the register channel.  A socket error faults the session; timeouts and refusals do
not. -/
def talk {α : Type} (env : Surroundings ω) (action : FarEnd ω → Register.Talk ω α) (s : Session ω) :
    Except LinkError α × Session ω :=
  match s.channel with
  | .error cause => (.error cause, s)
  | .ok link =>
      let back (c : Register.Conversation ω) : Session ω :=
        { s with
          world := c.line.far
          registers := some { link with channel := c.channel, socket := c.line.toSocket } }
      match action (env.react link.peer) ⟨link.channel, ⟨link.socket, s.world⟩, false⟩ with
      | .ok value c => (.ok value, back c)
      | .error cause c =>
          (.error cause, if cause.isSocket then (back c).setConnection .faulted else back c)

def readRegister (env : Surroundings ω) (address : Register.Address)
    (cancellation : Register.Cancellation) (s : Session ω) :
    Except LinkError Register.Value × Session ω :=
  s.talk env fun react => Register.readRegister react address cancellation

def writeRegister (env : Surroundings ω) (address : Register.Address) (value : Register.Value)
    (cancellation : Register.Cancellation) (s : Session ω) : Except LinkError Unit × Session ω :=
  s.talk env fun react => Register.writeRegister react address value cancellation

/-! ## Motion -/

/-- Hands a command to the cyclic thread. -/
def command (command : Motion.OperatorCommand) (s : Session ω) :
    Except LinkError Unit × Session ω :=
  match s.channel with
  | .error cause => (.error cause, s)
  | .ok _ =>
      match s.cyclic with
      | some thread =>
          -- A loop that has ended takes no commands.
          if thread.failure.isSome then (.error .notConnected, s)
          else
            let runner :=
              { thread.runner with commands := thread.runner.commands ++ [command] }
            (.ok (), { s with cyclic := some { thread with runner } })
      | none => (.error .notConnected, s)

/-- The cyclic thread runs one cycle and sleeps; a thread whose transport failed does nothing. -/
def cycle (env : Surroundings ω) (s : Session ω) : Session ω :=
  match s.cyclic with
  | none => s
  | some thread =>
      if thread.failure.isSome then s
      else
        let state : Cyclic.Cycle ω :=
          { runner := thread.runner
            shared := s.shared
            link := ⟨thread.channel, ⟨thread.socket, s.world⟩⟩ }
        let (result, schedule, after) := state.turn (env.react thread.peer) thread.schedule
        let failure := match result with
          | .ok () => none
          | .error cause => some cause
        let thread :=
          { thread with
            runner := after.runner
            channel := after.link.channel
            socket := after.link.line.toSocket
            schedule, failure }
        { s with shared := after.shared, world := after.link.line.far, cyclic := some thread }

end Session
end ServoLink
