import ServoLink.Proofs.Session.Connecting
import ServoLink.Proofs.Session.Fault

/-!
# Lifecycle — what a session holds between calls

A session holds an outcome of the handshake, a register channel and a cyclic thread together, or
none of them, and its connection state says which.  A failure to connect, at whichever stage, leads
back to nothing.

* `Session.Whole` — what a session holds at every call boundary;
* `Session.Refused` — what a connect that failed leaves behind;
* `Session.Whole.live` — the invariant throughout every run;
* `Session.lifecycle` — all of it.
-/

namespace ServoLink

open Net Motion

variable {ω : Type}

namespace Session

/-! ## Call boundaries -/

/-- What a session holds between calls: an outcome, a register channel and a cyclic thread, or none
of them, as its connection state says. -/
structure Whole (s : Session ω) : Prop where
  idle : s.state = .disconnected → s.handshake = none ∧ s.registers = none ∧ s.cyclic = none
  busy : s.state = .connected ∨ s.state = .faulted →
    s.handshake.isSome ∧ s.registers.isSome ∧ s.cyclic.isSome
  settled : s.state ≠ .handshaking
  axial : ∀ thread, s.cyclic = some thread → thread.runner.machine.Axial

/-- A session goes on: whole, and along arrows. -/
structure Continues (s after : Session ω) : Prop where
  whole : after.Whole
  moves : s.shared.Moves after.shared

theorem Continues.trans {s between after : Session ω} (h : s.Continues between)
    (hrest : between.Continues after) : s.Continues after :=
  ⟨hrest.whole, h.moves.trans hrest.moves⟩

theorem whole_of_idle {s : Session ω} (hstate : s.state = .disconnected)
    (hhandshake : s.handshake = none) (hregisters : s.registers = none)
    (hcyclic : s.cyclic = none) : s.Whole where
  idle _ := ⟨hhandshake, hregisters, hcyclic⟩
  busy hbusy := by
    rw [hstate] at hbusy
    rcases hbusy with hconnected | hfaulted
    · cases hconnected
    · cases hfaulted
  settled := by
    rw [hstate]
    decide
  axial thread hthread := by
    rw [hcyclic] at hthread
    cases hthread

theorem whole_of_busy {s : Session ω} {thread : CyclicThread}
    (hstate : s.state = .connected ∨ s.state = .faulted) (hhandshake : s.handshake.isSome)
    (hregisters : s.registers.isSome) (hcyclic : s.cyclic = some thread)
    (haxial : thread.runner.machine.Axial) : s.Whole where
  idle hidle := by
    rw [hidle] at hstate
    rcases hstate with hconnected | hfaulted
    · cases hconnected
    · cases hfaulted
  busy _ := ⟨hhandshake, hregisters, by rw [hcyclic]; rfl⟩
  settled := by
    rcases hstate with hconnected | hfaulted
    · rw [hconnected]
      decide
    · rw [hfaulted]
      decide
  axial running hrunning := by
    rw [hcyclic] at hrunning
    cases hrunning
    exact haxial

section Whole

variable {s : Session ω}

/-- A session with a thread is connected or faulted. -/
theorem Whole.running (h : s.Whole) {thread : CyclicThread} (hthread : s.cyclic = some thread) :
    s.state = .connected ∨ s.state = .faulted := by
  cases hstate : s.state with
  | disconnected =>
      have hnone := (h.idle hstate).2.2
      rw [hthread] at hnone
      cases hnone
  | handshaking => exact absurd hstate h.settled
  | connected => exact Or.inl rfl
  | faulted => exact Or.inr rfl

/-- A session without a thread is disconnected. -/
theorem Whole.disconnected_of_none (h : s.Whole) (hnone : s.cyclic = none) :
    s.state = .disconnected := by
  have hbusy : ¬ (s.state = .connected ∨ s.state = .faulted) := by
    intro hbusy
    have hsome := (h.busy hbusy).2.2
    rw [hnone] at hsome
    cases hsome
  cases hstate : s.state with
  | disconnected => rfl
  | handshaking => exact absurd hstate h.settled
  | connected => exact absurd (Or.inl hstate) hbusy
  | faulted => exact absurd (Or.inr hstate) hbusy

/-! ### Connecting -/

/-- A connect that failed: nothing is held again, and the failed attempts are reported. -/
structure Refused (env : Surroundings ω) (s after : Session ω) : Prop where
  state : after.state = .disconnected
  handshake : after.handshake = none
  registers : after.registers = none
  cyclic : after.cyclic = none
  reports : ∃ causes succeeded, Attempts s.attempts causes ∧ Asked env s causes
    ∧ SuccessReport succeeded
    ∧ after.shared.events = s.shared.events
      ++ .sessionStateChanged .disconnected .handshaking :: (failureReports 1 causes ++ succeeded)
      ++ [.sessionStateChanged .handshaking .disconnected]

/-- A session that held nothing holds nothing again once its attempt has failed. -/
theorem Whole.refused (h : s.Whole) (hidle : s.state = .disconnected) {env : Surroundings ω}
    {after : Session ω} {causes : List LinkError} {succeeded : List Event}
    (hattempts : Attempts s.attempts causes) (hasked : Asked env s causes)
    (hsucceeded : SuccessReport succeeded) (hstate : after.state = .handshaking)
    (hevents : after.shared.events = (s.setConnection .handshaking).shared.events
      ++ (failureReports 1 causes ++ succeeded))
    (hhandshake : after.handshake = s.handshake) :
    s.Refused env (after.teardown.setConnection .disconnected) where
  state := state_setConnection _ .disconnected
  handshake := hhandshake.trans (h.idle hidle).1
  registers := rfl
  cyclic := rfl
  reports := by
    have hbefore : (s.setConnection .handshaking).shared.events =
        s.shared.events ++ [.sessionStateChanged .disconnected .handshaking] := by
      refine (Cyclic.Cycle.events_setConnection s.shared .handshaking).trans ?_
      rw [show s.shared.connection = .disconnected from hidle]
      rfl
    have hafter : (after.teardown.setConnection .disconnected).shared.events =
        after.shared.events ++ [.sessionStateChanged .handshaking .disconnected] := by
      refine (Cyclic.Cycle.events_setConnection after.shared .disconnected).trans ?_
      rw [show after.shared.connection = .handshaking from hstate]
      rfl
    refine ⟨causes, succeeded, hattempts, hasked, hsucceeded, ?_⟩
    rw [hafter, hevents, hbefore]
    simp only [List.append_assoc, List.singleton_append]

/-- From nothing a session connects, or fails and holds nothing again. -/
theorem Whole.connectAfresh (h : s.Whole) (hidle : s.state = .disconnected)
    (env : Surroundings ω) :
    s.Continues (s.connectAfresh env).2
      ∧ ∀ cause, (s.connectAfresh env).1 = .error cause → s.Refused env (s.connectAfresh env).2 := by
  have hbegun : (s.setConnection .handshaking).state = .handshaking :=
    state_setConnection s .handshaking
  have hmoves : s.shared.Moves (s.setConnection .handshaking).shared := by
    refine Cyclic.Shared.moves_setConnection (Or.inr ?_)
    rw [show s.shared.connection = .disconnected from hidle]
    exact .connecting
  have htried := tried_tryConnect env (s.setConnection .handshaking)
  unfold Session.connectAfresh
  generalize (s.setConnection .handshaking).tryConnect env = tried at htried ⊢
  cases htried with
  | @failed cause after causes succeeded hattempts hasked hsucceeded hconnection hevents
      hhandshake =>
      have hstate : after.state = .handshaking := hconnection.trans hbegun
      have hrefused := h.refused hidle hattempts (asked_setConnection.1 hasked) hsucceeded hstate
        hevents hhandshake
      have hwhole : (after.teardown.setConnection .disconnected).Whole :=
        whole_of_idle hrefused.state hrefused.handshake hrefused.registers hrefused.cyclic
      have hquiet : (s.setConnection .handshaking).shared.Moves after.shared :=
        Cyclic.Shared.moves_of_quiet hconnection hevents (hsucceeded.quiet causes)
      have harrow : ConnectionState.Arrow after.state .disconnected := by
        rw [hstate]
        exact .refused
      have hback := Cyclic.Shared.moves_setConnection (Or.inr harrow)
      exact ⟨⟨hwhole, (hmoves.trans hquiet).trans hback⟩, fun _ _ => hrefused⟩
  | @connected outcome after thread hmoved hstate hhandshake hregisters hcyclic haxial =>
      have hwhole : after.Whole :=
        whole_of_busy (Or.inl hstate) hhandshake hregisters hcyclic haxial
      refine ⟨⟨hwhole, hmoves.trans (hmoved hbegun)⟩, ?_⟩
      rintro cause ⟨⟩

theorem Whole.connect (h : s.Whole) (env : Surroundings ω) :
    s.Continues (s.connect env).2
      ∧ (s.state = .disconnected → ∀ cause, (s.connect env).1 = .error cause →
        s.Refused env (s.connect env).2) := by
  have hsame : s.Continues s := ⟨h, .refl _⟩
  unfold Session.connect
  split
  · rename_i hstate _
    exact ⟨hsame, fun hidle => absurd (hstate.symm.trans hidle) (by decide)⟩
  · rename_i hstate
    exact ⟨hsame, fun hidle => absurd (hstate.symm.trans hidle) (by decide)⟩
  · rename_i hstate
    exact ⟨hsame, fun hidle => absurd (hstate.symm.trans hidle) (by decide)⟩
  · -- A connected session has an outcome.
    rename_i hstate hnone
    have hsome := (h.busy (Or.inl hstate)).1
    rw [hnone] at hsome
    cases hsome
  · rename_i hstate
    rcases h.connectAfresh hstate env with ⟨hcontinues, hrefused⟩
    exact ⟨hcontinues, fun _ => hrefused⟩

/-- The session with the settings that name the register port of another drive. -/
def pointedAt (peer : Endpoint) (s : Session ω) : Session ω :=
  { s with
    settings :=
      { s.settings with
        drive := { s.settings.drive with address := peer.ip.text, registerPort := peer.port } } }

theorem Whole.pointedAt (h : s.Whole) (peer : Endpoint) : (s.pointedAt peer).Whole :=
  ⟨h.idle, h.busy, h.settled, h.axial⟩

theorem Whole.connectTo (h : s.Whole) (env : Surroundings ω) (peer : Endpoint) :
    s.Continues (s.connectTo env peer).2
      ∧ (s.state = .disconnected → ∀ cause, (s.connectTo env peer).1 = .error cause →
        (s.pointedAt peer).Refused env (s.connectTo env peer).2) := by
  have hconnect := (h.pointedAt peer).connect env
  exact ⟨⟨hconnect.1.whole, hconnect.1.moves⟩, hconnect.2⟩

theorem Whole.disconnect (h : s.Whole) : s.Continues s.disconnect := by
  unfold Session.disconnect
  split
  · exact ⟨h, .refl _⟩
  · refine ⟨whole_of_idle (state_setConnection _ .disconnected) rfl rfl rfl,
      Cyclic.Shared.moves_setConnection ?_⟩
    show s.state = .disconnected ∨ ConnectionState.Arrow s.state .disconnected
    cases hstate : s.state with
    | disconnected => exact Or.inl rfl
    | handshaking => exact absurd hstate h.settled
    | connected => exact Or.inr .disconnected
    | faulted => exact Or.inr .reset

theorem Whole.reset (h : s.Whole) (env : Surroundings ω) : s.Continues (s.reset env).2 :=
  h.disconnect.trans (h.disconnect.whole.connect env).1

/-! ### Registers and commands -/

/-- The verdict on a call that needs a connection and finds none. -/
def unconnected (s : Session ω) : LinkError :=
  if s.state = .faulted then .sessionFaulted else .notConnected

theorem channel_of_not_connected (h : s.state ≠ .connected) :
    s.channel = .error s.unconnected := by
  unfold Session.channel unconnected
  cases hstate : s.state with
  | connected => exact absurd hstate h
  | disconnected => rfl
  | handshaking => rfl
  | faulted => rfl

/-- Without a connection a register call does nothing. -/
theorem talk_of_not_connected {α : Type} (h : s.state ≠ .connected) (env : Surroundings ω)
    (action : FarEnd ω → Register.Talk ω α) : s.talk env action = (.error s.unconnected, s) := by
  unfold Session.talk
  rw [channel_of_not_connected h]

theorem command_of_not_connected (h : s.state ≠ .connected) (command : OperatorCommand) :
    s.command command = (.error s.unconnected, s) := by
  unfold Session.command
  rw [channel_of_not_connected h]

theorem Whole.talk {α : Type} (h : s.Whole) (env : Surroundings ω)
    (action : FarEnd ω → Register.Talk ω α) : s.Continues (s.talk env action).2 := by
  unfold Session.talk
  split
  · exact ⟨h, .refl _⟩
  · rename_i link hchannel
    have hconnected := connected_of_channel hchannel
    rcases h.busy (Or.inl hconnected) with ⟨hhandshake, -, hcyclic⟩
    rcases Option.isSome_iff_exists.1 hcyclic with ⟨thread, hthread⟩
    have haxial := h.axial thread hthread
    dsimp only
    split
    · exact ⟨whole_of_busy (Or.inl hconnected) hhandshake rfl hthread haxial, .refl _⟩
    · split
      · -- A socket error faults the session.
        refine ⟨whole_of_busy (Or.inr (state_setConnection _ .faulted)) hhandshake rfl hthread
          haxial, Cyclic.Shared.moves_setConnection (Or.inr ?_)⟩
        show ConnectionState.Arrow s.state .faulted
        rw [hconnected]
        exact .faulted
      · exact ⟨whole_of_busy (Or.inl hconnected) hhandshake rfl hthread haxial, .refl _⟩

theorem Whole.command (h : s.Whole) (command : OperatorCommand) :
    s.Continues (s.command command).2 := by
  unfold Session.command
  split
  · exact ⟨h, .refl _⟩
  · rename_i link hchannel
    have hconnected := connected_of_channel hchannel
    rcases h.busy (Or.inl hconnected) with ⟨hhandshake, hregisters, -⟩
    split
    · rename_i thread hthread
      split
      · exact ⟨h, .refl _⟩
      · exact ⟨whole_of_busy (Or.inl hconnected) hhandshake hregisters rfl
          (h.axial thread hthread), .refl _⟩
    · exact ⟨h, .refl _⟩

/-! ### The cyclic thread -/

theorem Whole.cycle (h : s.Whole) (env : Surroundings ω) : s.Continues (s.cycle env) := by
  cases hthread : s.cyclic with
  | none =>
      have hsame : s.cycle env = s := by simp [Session.cycle, hthread]
      rw [hsame]
      exact ⟨h, .refl _⟩
  | some thread =>
      cases hfailure : thread.failure with
      | some cause =>
          have hsame : s.cycle env = s := by simp [Session.cycle, hthread, hfailure]
          rw [hsame]
          exact ⟨h, .refl _⟩
      | none =>
          -- The invariant of the session is what the loop of the thread starts its cycle with.
          have hrunning := h.running hthread
          have hbound : (s.cycleOf thread).Bound := ⟨hrunning, h.axial thread hthread⟩
          rcases Cyclic.Cycle.carries_turn (env.react thread.peer) thread.schedule
            (s.cycleOf thread) hbound with ⟨hmoves, hafter⟩
          rcases h.busy hrunning with ⟨hhandshake, hregisters, -⟩
          rw [cycle_eq env hthread hfailure]
          exact ⟨whole_of_busy hafter.running hhandshake hregisters rfl hafter.axial, hmoves⟩

/-- Commands given during a cycle only wait for the next. -/
theorem Whole.cycleWith (h : s.Whole) (env : Surroundings ω) (commands : List OperatorCommand) :
    s.Continues (s.cycleWith env commands) := by
  have hcycle := h.cycle env
  unfold Session.cycleWith
  dsimp only
  split
  · refine ⟨?_, hcycle.moves⟩
    cases hthread : (s.cycle env).cyclic with
    | none =>
        have hidle := hcycle.whole.disconnected_of_none hthread
        rcases hcycle.whole.idle hidle with ⟨hhandshake, hregisters, -⟩
        exact whole_of_idle hidle hhandshake hregisters rfl
    | some thread =>
        have hrunning := hcycle.whole.running hthread
        rcases hcycle.whole.busy hrunning with ⟨hhandshake, hregisters, -⟩
        exact whole_of_busy hrunning hhandshake hregisters rfl (hcycle.whole.axial thread hthread)
  · exact hcycle

end Whole

theorem whole_new (settings : Settings) (world : ω) : (new settings world).Whole :=
  whole_of_idle rfl rfl rfl rfl

/-! ## Runs -/

/-- What happens to a session: an operation, or its cyclic thread faults it for a reason of its
own. -/
inductive Occurrence (ω : Type) where
  | operation (operation : Operation ω)
  | threadFault

def undergo (env : Surroundings ω) (s : Session ω) : Occurrence ω → Session ω
  | .operation operation => s.perform env operation
  | .threadFault => if s.cyclic.isSome then s.setConnection .faulted else s

def live (env : Surroundings ω) (s : Session ω) (occurrences : List (Occurrence ω)) : Session ω :=
  occurrences.foldl (undergo env) s

section Runs

variable {s : Session ω}

theorem Whole.perform (h : s.Whole) (env : Surroundings ω) (operation : Operation ω) :
    s.Continues (s.perform env operation) := by
  cases operation with
  | connect => exact (h.connect env).1
  | connectTo peer => exact (h.connectTo env peer).1
  | reset => exact h.reset env
  | disconnect => exact h.disconnect
  | command command => exact h.command command
  | read address cancellation => exact h.talk env _
  | write address value cancellation => exact h.talk env _
  | cycle commands => exact h.cycleWith env commands
  | change world => exact ⟨⟨h.idle, h.busy, h.settled, h.axial⟩, .refl _⟩

theorem Whole.threadFault (h : s.Whole) (env : Surroundings ω) :
    s.Continues (s.undergo env .threadFault) := by
  unfold undergo
  dsimp only
  split
  · rename_i hsome
    rcases Option.isSome_iff_exists.1 hsome with ⟨thread, hthread⟩
    have hrunning := h.running hthread
    rcases h.busy hrunning with ⟨hhandshake, hregisters, -⟩
    refine ⟨whole_of_busy (Or.inr (state_setConnection s .faulted)) hhandshake hregisters hthread
      (h.axial thread hthread), Cyclic.Shared.moves_setConnection ?_⟩
    rcases hrunning with hconnected | hfaulted
    · right
      rw [show s.shared.connection = .connected from hconnected]
      exact .faulted
    · exact Or.inl hfaulted
  · exact ⟨h, .refl _⟩

theorem Whole.undergo (h : s.Whole) (env : Surroundings ω) (occurrence : Occurrence ω) :
    s.Continues (s.undergo env occurrence) := by
  cases occurrence with
  | operation operation => exact h.perform env operation
  | threadFault => exact h.threadFault env

/-- A session goes on so throughout every run. -/
theorem Whole.live (h : s.Whole) (env : Surroundings ω) (occurrences : List (Occurrence ω)) :
    s.Continues (s.live env occurrences) := by
  induction occurrences generalizing s with
  | nil => exact ⟨h, .refl _⟩
  | cons occurrence rest ih =>
      have hfirst := h.undergo env occurrence
      exact hfirst.trans (ih hfirst.whole)

end Runs

/-- The life of a session, at a call boundary. -/
structure Lifecycle (env : Surroundings ω) (s : Session ω) : Prop where
  disconnected : s.state = .disconnected → s.handshake = none ∧ s.registers = none ∧ s.cyclic = none
  connected : s.state = .connected →
    s.handshake.isSome ∧ s.registers.isSome ∧ s.cyclic.isSome
  settled : s.state ≠ .handshaking
  /-- All changes of the connection so far, from the beginning on. -/
  path : ConnectionState.Path .disconnected (s.shared.events.filterMap Event.connectionChange?)
    s.state
  connect : s.state = .disconnected → ∀ cause, (s.connect env).1 = .error cause →
    s.Refused env (s.connect env).2
  connectTo : ∀ peer, s.state = .disconnected → ∀ cause, (s.connectTo env peer).1 = .error cause →
    (s.pointedAt peer).Refused env (s.connectTo env peer).2
  /-- Without a connection, register calls and commands are refused and do nothing. -/
  unconnected : s.state ≠ .connected →
    (∀ address cancellation,
      s.readRegister env address cancellation = (.error s.unconnected, s))
    ∧ (∀ address value cancellation,
      s.writeRegister env address value cancellation = (.error s.unconnected, s))
    ∧ ∀ command, s.command command = (.error s.unconnected, s)

/-- In any surroundings, whatever happens to a new session, at every call boundary. -/
theorem lifecycle (env : Surroundings ω) (settings : Settings) (world : ω)
    (occurrences : List (Occurrence ω)) :
    Lifecycle env ((new settings world).live env occurrences) := by
  have hlives := (whole_new settings world).live env occurrences
  generalize (new settings world).live env occurrences = s at hlives
  have hwhole := hlives.whole
  refine
    { disconnected := hwhole.idle
      connected := fun hconnected => hwhole.busy (Or.inl hconnected)
      settled := hwhole.settled
      path := ?_
      connect := (hwhole.connect env).2
      connectTo := fun peer => (hwhole.connectTo env peer).2
      unconnected := ?_ }
  · rcases hlives.moves with ⟨events, hevents, hpath⟩
    rw [hevents]
    exact hpath
  · intro hnot
    exact ⟨fun address cancellation => talk_of_not_connected hnot env _,
      fun address value cancellation => talk_of_not_connected hnot env _,
      fun command => command_of_not_connected hnot command⟩

end Session
end ServoLink
