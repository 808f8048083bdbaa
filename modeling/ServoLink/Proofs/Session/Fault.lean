import ServoLink.Proofs.Cyclic.Loop
import ServoLink.Proofs.Wire.RoundTrip
import ServoLink.Rehearsal

/-!
# Faulted sessions — what the axis is sent once the connection is faulted

A run is a list of operations, in any order, in any surroundings.  An onlooker notes which channel
faulted the session.  A cycle that faults the session faults the axis machine with it, and from then
on nothing can start the axis (`Machine.Inert`).  A socket error of the register channel faults the
session alone: the axis machine goes on as before.

* `Watched.Held` — the invariant of every run;
* `Watched.held_run` — it holds throughout every run;
* `Session.sent_cycle` — what a cycle sends.
-/

namespace ServoLink

open ProcessData Wire Net Motion

variable {ω : Type}

/-! ## Runs -/

/-- What happens to a session.  The two threads share the connection and the waiting commands only,
so a register call made while a cycle waits counts as one made after it. -/
inductive Operation (ω : Type) where
  | connect
  | connectTo (peer : Endpoint)
  | reset
  | disconnect
  | command (command : OperatorCommand)
  | read (address : Register.Address) (cancellation : Register.Cancellation)
  | write (address : Register.Address) (value : Register.Value)
      (cancellation : Register.Cancellation)
  /-- One cycle of the cyclic thread, with the commands given while it waits for its answer. -/
  | cycle (commands : List OperatorCommand)
  /-- The world outside becomes another. -/
  | change (world : ω)

/-- The two channels of a session. -/
inductive ChannelKind where
  | registers | cyclic
  deriving DecidableEq, Repr

def Operation.channel : Operation ω → ChannelKind
  | cycle _ => .cyclic
  | _ => .registers

namespace Session

/-- One cycle, with the commands given while it waits; they are taken while the session is
connected. -/
def cycleWith (env : Surroundings ω) (commands : List OperatorCommand) (s : Session ω) :
    Session ω :=
  let after := s.cycle env
  if s.state = .connected then
    { after with
      cyclic := after.cyclic.map fun thread =>
        { thread with
          runner := { thread.runner with commands := thread.runner.commands ++ commands } } }
  else after

def perform (env : Surroundings ω) (s : Session ω) : Operation ω → Session ω
  | .connect => (s.connect env).2
  | .connectTo peer => (s.connectTo env peer).2
  | .reset => (s.reset env).2
  | .disconnect => s.disconnect
  | .command command => (s.command command).2
  | .read address cancellation => (s.readRegister env address cancellation).2
  | .write address value cancellation => (s.writeRegister env address value cancellation).2
  | .cycle commands => s.cycleWith env commands
  | .change world => { s with world }

/-- Every datagram the cyclic thread has sent, the latest first. -/
def sent (s : Session ω) : List (List UInt8) := s.cyclic.elim [] (·.socket.sent)

/-- The power stage is, or is becoming, enabled. -/
def axisEnabled (s : Session ω) : Bool := s.cyclic.any (·.runner.machine.state.isEnabled)

end Session

/-- A session and the channel that faulted it, if it is faulted. -/
structure Watched (ω : Type) where
  session : Session ω
  faultedBy : ChannelKind := .cyclic

namespace Watched

def new (settings : Settings) (world : ω) : Watched ω := { session := .new settings world }

def step (env : Surroundings ω) (w : Watched ω) (operation : Operation ω) : Watched ω :=
  { session := w.session.perform env operation
    faultedBy := if w.session.state = .faulted then w.faultedBy else operation.channel }

def run (env : Surroundings ω) (w : Watched ω) (operations : List (Operation ω)) : Watched ω :=
  operations.foldl (step env) w

end Watched

/-! ## Threads -/

namespace Session

/-- The output of a running thread is that of its machine, and the machine is sound. -/
def Sound (s : Session ω) : Prop :=
  ∀ thread, s.cyclic = some thread → thread.failure = none →
    thread.runner.machine.Sound ∧ thread.runner.output = thread.runner.machine.output

/-- A running thread does not come to enable the axis. -/
def Inert (s : Session ω) : Prop :=
  ∀ thread, s.cyclic = some thread → thread.failure = none →
    thread.runner.machine.Inert thread.runner.commands

theorem sound_of_none {s : Session ω} (h : s.cyclic = none) : s.Sound := by
  intro thread hthread
  rw [h] at hthread
  cases hthread

@[simp] theorem state_setConnection (s : Session ω) (target : ConnectionState) :
    (s.setConnection target).state = target :=
  Cyclic.Cycle.connection_setConnection s.shared target

/-! ### Connecting -/

/-- A session that has been connected, or has not: either way it is not faulted. -/
def Settled (s : Session ω) : Prop := s.state ≠ .faulted ∧ s.Sound

theorem settled_startCyclic {env : Surroundings ω} {cycleTimeUs : UInt32} {s after : Session ω}
    (h : s.startCyclic env cycleTimeUs = (.ok (), after)) : after.Settled := by
  unfold startCyclic at h
  split at h
  · cases h
  · cases h
    refine ⟨?_, ?_⟩
    · show (Cyclic.Shared.setConnection _ .connected).connection ≠ .faulted
      simp
    · rintro thread ⟨⟩ -
      exact ⟨Machine.sound_new _, rfl⟩

theorem settled_tryConnect {env : Surroundings ω} {s after : Session ω}
    {outcome : Handshake.Outcome} (h : s.tryConnect env = (.ok outcome, after)) :
    after.Settled := by
  unfold tryConnect at h
  split at h
  · cases h
  · split at h
    · cases h
    · dsimp only at h
      split at h
      · cases h
      · split at h
        · cases h
        · rename_i hstart
          cases h
          have hsettled := settled_startCyclic hstart
          exact ⟨hsettled.1, hsettled.2⟩

theorem settled_connectAfresh (env : Surroundings ω) (s : Session ω) :
    (s.connectAfresh env).2.Settled := by
  unfold connectAfresh
  split
  · rename_i htry
    exact settled_tryConnect htry
  · refine ⟨?_, sound_of_none rfl⟩
    simp

/-- A faulted session does not connect; any other ends up settled, or is left as it is. -/
theorem connect_cases (env : Surroundings ω) (s : Session ω) :
    (s.connect env).2 = s ∨ s.state ≠ .faulted ∧ (s.connect env).2.Settled := by
  unfold connect
  split
  · exact Or.inl rfl
  · exact Or.inl rfl
  · exact Or.inl rfl
  · rename_i hstate _
    exact Or.inr ⟨by rw [hstate]; decide, settled_connectAfresh env s⟩
  · rename_i hstate
    exact Or.inr ⟨by rw [hstate]; decide, settled_connectAfresh env s⟩

theorem connectTo_cases (env : Surroundings ω) (peer : Endpoint) (s : Session ω) :
    ((s.connectTo env peer).2.cyclic = s.cyclic ∧ (s.connectTo env peer).2.shared = s.shared)
      ∨ s.state ≠ .faulted ∧ (s.connectTo env peer).2.Settled := by
  unfold connectTo
  dsimp only
  rcases connect_cases env { s with settings := { s.settings with
    drive := { s.settings.drive with address := peer.ip.text, registerPort := peer.port } } } with
    hsame | hsettled
  · rw [hsame]
    exact Or.inl ⟨rfl, rfl⟩
  · exact Or.inr hsettled

theorem settled_disconnect (s : Session ω) : s.disconnect.Settled := by
  unfold disconnect
  split
  · rename_i hidle
    simp only [Bool.and_eq_true, decide_eq_true_eq, Option.isNone_iff_eq_none] at hidle
    exact ⟨by rw [hidle.1]; decide, sound_of_none hidle.2⟩
  · exact ⟨by simp, sound_of_none rfl⟩

theorem settled_reset (env : Surroundings ω) (s : Session ω) : (s.reset env).2.Settled := by
  unfold reset
  rcases connect_cases env s.disconnect with hsame | hsettled
  · rw [hsame]
    exact settled_disconnect s
  · exact hsettled.2

/-! ### Registers and commands -/

theorem connected_of_channel {s : Session ω} {link : RegisterLink} (h : s.channel = .ok link) :
    s.state = .connected := by
  unfold channel at h
  split at h
  · assumption
  · cases h
  · cases h
  · cases h

/-- A register call leaves the thread alone, and does nothing unless the session is connected. -/
theorem talk_cases {α : Type} (env : Surroundings ω) (action : FarEnd ω → Register.Talk ω α)
    (s : Session ω) :
    (s.talk env action).2.cyclic = s.cyclic
      ∧ ((s.talk env action).2.shared = s.shared
        ∨ s.state = .connected ∧ (s.talk env action).2.state = .faulted) := by
  unfold talk
  split
  · exact ⟨rfl, Or.inl rfl⟩
  · rename_i link hchannel
    have hconnected := connected_of_channel hchannel
    dsimp only
    split
    · exact ⟨rfl, Or.inl rfl⟩
    · split
      · exact ⟨rfl, Or.inr ⟨hconnected, state_setConnection _ .faulted⟩⟩
      · exact ⟨rfl, Or.inl rfl⟩

theorem command_cases (command : OperatorCommand) (s : Session ω) :
    (s.command command).2 = s
      ∨ s.state = .connected ∧ (s.command command).2.shared = s.shared
        ∧ ∃ thread, s.cyclic = some thread ∧ (s.command command).2.cyclic =
          some { thread with
            runner := { thread.runner with commands := thread.runner.commands ++ [command] } } := by
  unfold Session.command
  split
  · exact Or.inl rfl
  · rename_i link hchannel
    have hconnected := connected_of_channel hchannel
    split
    · rename_i thread hthread
      split
      · exact Or.inl rfl
      · exact Or.inr ⟨hconnected, rfl, thread, hthread, rfl⟩
    · exact Or.inl rfl

/-! ### Cycles -/

/-- What the cyclic thread works on when its next cycle starts. -/
def cycleOf (s : Session ω) (thread : CyclicThread) : Cyclic.Cycle ω :=
  { runner := thread.runner
    shared := s.shared
    link := ⟨thread.channel, ⟨thread.socket, s.world⟩⟩ }

/-- A cycle of a running thread is a turn of what it works on. -/
theorem cycle_eq (env : Surroundings ω) {s : Session ω} {thread : CyclicThread}
    (hthread : s.cyclic = some thread) (hrunning : thread.failure = none) :
    s.cycle env =
      let turned := (s.cycleOf thread).turn (env.react thread.peer) thread.schedule
      { s with
        shared := turned.2.2.shared
        world := turned.2.2.link.line.far
        cyclic := some
          { thread with
            runner := turned.2.2.runner
            channel := turned.2.2.link.channel
            socket := turned.2.2.link.line.toSocket
            schedule := turned.2.1
            failure := match turned.1 with
              | .ok () => none
              | .error cause => some cause } } := by
  simp only [Session.cycle, hthread, hrunning, Option.isSome_none, Bool.false_eq_true, if_false]
  rfl

/-- A cycle of a running thread ends its loop, or turns the machine. -/
theorem cycle_cases (env : Surroundings ω) {s : Session ω} {thread : CyclicThread}
    (hthread : s.cyclic = some thread) (hrunning : thread.failure = none) :
    ∃ next, (s.cycle env).cyclic = some next
      ∧ (next.failure.isSome
        ∨ ∃ after : Cyclic.Cycle ω, Cyclic.Cycle.Turned (s.cycleOf thread) after
          ∧ next.runner.machine = after.runner.machine
          ∧ next.runner.output = after.runner.output
          ∧ next.runner.commands = []
          ∧ (s.cycle env).state = after.shared.connection) := by
  rcases (s.cycleOf thread).turn_eq (env.react thread.peer) thread.schedule with
    ⟨budget, timing, events, now, hresult, hafter⟩
  have hcycle := cycle_eq env hthread hrunning
  dsimp only at hcycle
  rw [hafter, hresult] at hcycle
  rw [hcycle]
  cases hbody : (s.cycleOf thread).body (env.react thread.peer) budget with
  | mk result after =>
      cases result with
      | error cause => exact ⟨_, rfl, Or.inl rfl⟩
      | ok =>
          rcases Cyclic.Cycle.body_ok hbody with ⟨hturned, hcommands⟩
          exact ⟨_, rfl, Or.inr ⟨after, hturned, rfl, rfl, hcommands, rfl⟩⟩

/-- What a cycle sends, if anything: its request, in one datagram. -/
theorem sent_cycle (env : Surroundings ω) (s : Session ω) :
    (s.cycle env).sent = s.sent
      ∨ ∃ thread sequence datagram, s.cyclic = some thread ∧ thread.failure = none
        ∧ Frame.encode thread.channel.checksum
            ⟨sequence, .control (s.cycleOf thread).takeCommand.request⟩ = .ok datagram
        ∧ (s.cycle env).sent = datagram :: s.sent := by
  cases hthread : s.cyclic with
  | none =>
      left
      simp [Session.cycle, hthread]
  | some thread =>
      cases hfailure : thread.failure with
      | some cause =>
          left
          simp [Session.cycle, hthread, hfailure]
      | none =>
          rcases (s.cycleOf thread).turn_eq (env.react thread.peer) thread.schedule with
            ⟨budget, timing, events, now, hresult, hafter⟩
          have hsent : (s.cycle env).sent =
              ((s.cycleOf thread).body (env.react thread.peer) budget).2.link.line.sent := by
            rw [cycle_eq env hthread hfailure]
            simp [sent, hafter]
          have hbefore : s.sent = (s.cycleOf thread).link.line.sent := by
            simp [sent, hthread, cycleOf]
          rw [hsent, hbefore]
          rcases (s.cycleOf thread).sent_body (env.react thread.peer) budget with
            ⟨sequence, datagram, hencode, hcons⟩
          exact Or.inr ⟨thread, sequence, datagram, rfl, hfailure, hencode, hcons⟩

/-- A thread that runs on after a cycle ran before it, and has been turned. -/
theorem cycle_running (env : Surroundings ω) {s : Session ω} {next : CyclicThread}
    (hnext : (s.cycle env).cyclic = some next) (hrunning : next.failure = none) :
    ∃ thread after, s.cyclic = some thread ∧ thread.failure = none
      ∧ Cyclic.Cycle.Turned (s.cycleOf thread) after
      ∧ next.runner.machine = after.runner.machine
      ∧ next.runner.output = after.runner.output
      ∧ next.runner.commands = []
      ∧ (s.cycle env).state = after.shared.connection := by
  cases hthread : s.cyclic with
  | none => simp [Session.cycle, hthread] at hnext
  | some thread =>
      cases hfailure : thread.failure with
      | some cause =>
          have hsame : s.cycle env = s := by simp [Session.cycle, hthread, hfailure]
          rw [hsame, hthread] at hnext
          cases hnext
          rw [hfailure] at hrunning
          cases hrunning
      | none =>
          rcases cycle_cases env hthread hfailure with ⟨next', hnext', hended | hturned⟩
          · rw [hnext] at hnext'
            cases hnext'
            rw [hrunning] at hended
            cases hended
          · rw [hnext] at hnext'
            cases hnext'
            rcases hturned with ⟨after, hturned, hfields⟩
            exact ⟨thread, after, rfl, hfailure, hturned, hfields⟩

/-- Commands given during a cycle are waiting after it, if the session was connected. -/
theorem cycleWith_thread {env : Surroundings ω} {commands : List OperatorCommand} {s : Session ω}
    {thread : CyclicThread} (h : (s.cycleWith env commands).cyclic = some thread) :
    ∃ next, (s.cycle env).cyclic = some next ∧ thread.failure = next.failure
      ∧ thread.runner.machine = next.runner.machine
      ∧ thread.runner.output = next.runner.output
      ∧ (s.state = .connected ∨ thread.runner.commands = next.runner.commands) := by
  unfold cycleWith at h
  dsimp only at h
  split at h
  · rename_i hconnected
    rw [Option.map_eq_some_iff] at h
    rcases h with ⟨next, hnext, rfl⟩
    exact ⟨next, hnext, rfl, rfl, rfl, Or.inl hconnected⟩
  · exact ⟨thread, h, rfl, rfl, rfl, Or.inr rfl⟩

theorem state_cycleWith (env : Surroundings ω) (commands : List OperatorCommand) (s : Session ω) :
    (s.cycleWith env commands).state = (s.cycle env).state := by
  unfold cycleWith
  dsimp only
  split <;> rfl

end Session

/-! ## The invariant -/

namespace Watched

/-- Running threads are sound; a session that the cyclic channel faulted is inert. -/
structure Held (w : Watched ω) : Prop where
  sound : w.session.Sound
  inert : w.session.state = .faulted → w.faultedBy = .cyclic → w.session.Inert

theorem held_new (settings : Settings) (world : ω) : (new settings world).Held where
  sound := Session.sound_of_none rfl
  inert hfaulted := by cases hfaulted

/-- An operation that leaves the thread alone, and the connection alone or a register call faults
it. -/
theorem Held.same {w : Watched ω} (h : w.Held) {session : Session ω} {kind : ChannelKind}
    (hcyclic : session.cyclic = w.session.cyclic)
    (hstate : session.state = w.session.state ∨ w.session.state ≠ .faulted ∧ kind = .registers) :
    Held ⟨session, if w.session.state = .faulted then w.faultedBy else kind⟩ := by
  refine ⟨fun thread hthread => h.sound thread (hcyclic ▸ hthread), ?_⟩
  intro hfaulted hkind
  show session.Inert
  rcases hstate with hsame | ⟨hbefore, rfl⟩
  · have hbefore : w.session.state = .faulted := hsame.symm.trans hfaulted
    simp only [hbefore, if_true] at hkind
    exact fun thread hthread => h.inert hbefore hkind thread (hcyclic ▸ hthread)
  · simp [hbefore] at hkind

/-- An operation after which the session is connected or disconnected. -/
theorem held_of_settled {session : Session ω} (h : session.Settled) (kind : ChannelKind) :
    Held ⟨session, kind⟩ :=
  ⟨h.2, fun hfaulted => absurd hfaulted h.1⟩

theorem Held.cycle {w : Watched ω} (h : w.Held) (env : Surroundings ω)
    (commands : List OperatorCommand) : (w.step env (.cycle commands)).Held := by
  refine ⟨?_, ?_⟩
  · intro thread hthread hrunning
    rcases Session.cycleWith_thread hthread with ⟨next, hnext, hfailure, hmachine, houtput, -⟩
    rcases Session.cycle_running env hnext (hfailure ▸ hrunning) with
      ⟨before, after, hbefore, hran, hturned, hmachine', houtput', -, -⟩
    rcases h.sound before hbefore hran with ⟨hsound, hsame⟩
    rw [hmachine, houtput, hmachine', houtput']
    exact hturned.sound hsound hsame
  · intro hfaulted hkind thread hthread hrunning
    rcases Session.cycleWith_thread hthread with ⟨next, hnext, hfailure, hmachine, -, hwaiting⟩
    rcases Session.cycle_running env hnext (hfailure ▸ hrunning) with
      ⟨before, after, hbefore, hran, hturned, hmachine', -, hnone, hstate⟩
    have hafter : after.shared.connection = .faulted := by
      rw [← hstate, ← Session.state_cycleWith env commands]
      exact hfaulted
    rw [hmachine, hmachine']
    by_cases hold : w.session.state = .faulted
    · -- No command was given, and the machine was inert before.
      have hcommands : thread.runner.commands = [] := by
        rcases hwaiting with hconnected | hkept
        · rw [hold] at hconnected
          cases hconnected
        · exact hkept.trans hnone
      have hinert := h.inert hold (by simpa [Watched.step, hold] using hkind) before hbefore hran
      rw [hcommands]
      exact hturned.inert (h.sound before hbefore hran).1 hinert
    · -- This cycle faulted the session, and the machine with it.
      exact Machine.inert_of_faulted (hturned.faulted hold hafter) _

theorem Held.step {w : Watched ω} (h : w.Held) (env : Surroundings ω)
    (operation : Operation ω) : (w.step env operation).Held := by
  cases operation with
  | connect =>
      rcases w.session.connect_cases env with hsame | ⟨-, hsettled⟩
      · exact h.same (congrArg Session.cyclic hsame) (Or.inl (congrArg Session.state hsame))
      · exact held_of_settled hsettled _
  | connectTo peer =>
      rcases w.session.connectTo_cases env peer with ⟨hcyclic, hshared⟩ | ⟨-, hsettled⟩
      · exact h.same hcyclic (Or.inl (congrArg Cyclic.Shared.connection hshared))
      · exact held_of_settled hsettled _
  | reset => exact held_of_settled (w.session.settled_reset env) _
  | disconnect => exact held_of_settled w.session.settled_disconnect _
  | command command =>
      rcases w.session.command_cases command with hsame |
        ⟨hconnected, hshared, thread, hthread, hcyclic⟩
      · exact h.same (congrArg Session.cyclic hsame) (Or.inl (congrArg Session.state hsame))
      · have hstate : (w.session.command command).2.state = .connected :=
          (congrArg Cyclic.Shared.connection hshared).trans hconnected
        have hsound : (w.session.command command).2.Sound := by
          intro next hnext hrunning
          rw [hcyclic] at hnext
          cases hnext
          exact h.sound thread hthread hrunning
        exact held_of_settled ⟨by rw [hstate]; decide, hsound⟩ _
  | read address cancellation =>
      rcases w.session.talk_cases env fun react =>
        Register.readRegister react address cancellation with ⟨hcyclic, hshared | hfaulted⟩
      · exact h.same hcyclic (Or.inl (congrArg Cyclic.Shared.connection hshared))
      · exact h.same hcyclic (Or.inr ⟨by rw [hfaulted.1]; decide, rfl⟩)
  | write address value cancellation =>
      rcases w.session.talk_cases env fun react =>
        Register.writeRegister react address value cancellation with ⟨hcyclic, hshared | hfaulted⟩
      · exact h.same hcyclic (Or.inl (congrArg Cyclic.Shared.connection hshared))
      · exact h.same hcyclic (Or.inr ⟨by rw [hfaulted.1]; decide, rfl⟩)
  | cycle commands => exact h.cycle env commands
  | change world => exact h.same rfl (Or.inl rfl)

/-- The invariant holds throughout every run. -/
theorem Held.run {w : Watched ω} (h : w.Held) (env : Surroundings ω)
    (operations : List (Operation ω)) : (w.run env operations).Held := by
  induction operations generalizing w with
  | nil => exact h
  | cons operation rest ih => exact ih (h.step env operation)

/-! ## What a faulted session sends -/

/-- The datagram of a running thread's cycle is read as the request of its machine. -/
theorem Held.decode_sent {w : Watched ω} (h : w.Held) {thread : CyclicThread}
    (hthread : w.session.cyclic = some thread) (hrunning : thread.failure = none)
    {withChecksum : Bool} {sequence : UInt16} {datagram : List UInt8}
    (hencode : Frame.encode withChecksum
      ⟨sequence, .control (w.session.cycleOf thread).takeCommand.request⟩ = .ok datagram) :
    ∃ request, Frame.decode datagram = .ok ⟨sequence, .control request⟩
      ∧ (request.PoweredOff ↔ thread.runner.machine.state.isEnabled = false) := by
  rcases h.sound thread hthread hrunning with ⟨hsound, houtput⟩
  have htaken := Cyclic.Cycle.sound_takeCommand (c := w.session.cycleOf thread) hsound
  have hrequest := Cyclic.Cycle.output_takeCommand (c := w.session.cycleOf thread) houtput
  have hstate := (w.session.cycleOf thread).state_takeCommand
  have hcanonical : (w.session.cycleOf thread).takeCommand.request.Canonical := by
    rw [Cyclic.Cycle.request, hrequest]
    exact htaken.canonical_request (by decide)
  have hframe : Frame.Canonical
      ⟨sequence, .control (w.session.cycleOf thread).takeCommand.request⟩ :=
    ⟨hcanonical, Message.wireLength_control_le _⟩
  rw [Frame.encode_eq_ok withChecksum hframe.fits] at hencode
  cases hencode
  refine ⟨_, hframe.decode_datagramOf withChecksum, ?_⟩
  rw [Cyclic.Cycle.request, hrequest, Machine.poweredOff_request_iff htaken, hstate]
  rfl

/-- Once the session is faulted, every cycle sends a request that is powered off, with one
exception: the fault was a socket error of the register channel and the axis is still, or by now,
enabled. -/
theorem poweredOff_cycle_iff (env : Surroundings ω) (settings : Settings) (world : ω)
    (operations : List (Operation ω)) {datagram : List UInt8}
    (hfaulted : ((new settings world).run env operations).session.state = .faulted)
    (hsent : (((new settings world).run env operations).session.cycle env).sent =
      datagram :: ((new settings world).run env operations).session.sent) :
    ∃ sequence request, Frame.decode datagram = .ok ⟨sequence, .control request⟩
      ∧ (request.PoweredOff ↔ ¬ (((new settings world).run env operations).faultedBy = .registers
          ∧ ((new settings world).run env operations).session.axisEnabled)) := by
  have hheld := (held_new settings world).run env operations
  generalize (new settings world).run env operations = w at *
  rcases w.session.sent_cycle env with hnone |
    ⟨thread, sequence, datagram', hthread, hrunning, hencode, hcons⟩
  · have hlength := congrArg List.length (hnone.symm.trans hsent)
    simp at hlength
  · obtain rfl : datagram' = datagram := by
      have hsame := hcons.symm.trans hsent
      injection hsame
    rcases hheld.decode_sent hthread hrunning hencode with ⟨request, hdecode, hpower⟩
    refine ⟨sequence, request, hdecode, ?_⟩
    have henabled : w.session.axisEnabled = thread.runner.machine.state.isEnabled := by
      rw [Session.axisEnabled, hthread]
      rfl
    rw [hpower, henabled]
    cases hby : w.faultedBy with
    | registers => simp
    | cyclic =>
        have hinert := hheld.inert hfaulted hby thread hthread hrunning
        simp [hinert.off]

/-- An axis is enabled; then the drive is gone, and the next register call finds out first. -/
def unplugged : Watched Rehearsal.Site :=
  (new { drive := Rehearsal.Site.driveSettings } { drive := some (.new {}) }).run
    Rehearsal.Site.surroundings
    [.connect, .command .enable, .cycle [], .cycle [], .change {}, .read .cycleTime .never]

/-- The session is faulted, and the next cycle sends a request that enables the drive. -/
theorem powered_unplugged :
    unplugged.session.state = .faulted
      ∧ ∃ datagram sequence request,
        (unplugged.session.cycle Rehearsal.Site.surroundings).sent =
            datagram :: unplugged.session.sent
          ∧ Frame.decode datagram = .ok ⟨sequence, .control request⟩
          ∧ ¬ request.PoweredOff := by
  refine ⟨by decide +kernel,
    (unplugged.session.cycle Rehearsal.Site.surroundings).sent.headD [], 2,
    ⟨some ControlWord.operate, none, none, ResponseSections.standard⟩,
    by decide +kernel, by decide +kernel, ?_⟩
  rintro ⟨hword, -⟩
  have hoff := (hword ControlWord.operate rfl).1
  revert hoff
  decide

theorem poweredOff_cycle_iff_unplugged :
    ∃ sequence request, Frame.decode
          ((unplugged.session.cycle Rehearsal.Site.surroundings).sent.headD []) =
        .ok ⟨sequence, .control request⟩
      ∧ (request.PoweredOff ↔
        ¬ (unplugged.faultedBy = .registers ∧ unplugged.session.axisEnabled)) :=
  poweredOff_cycle_iff _ _ _ _ (by decide +kernel) (by decide +kernel)

end Watched
end ServoLink
