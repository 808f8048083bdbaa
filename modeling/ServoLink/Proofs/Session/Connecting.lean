import ServoLink.Proofs.Session.Connection
import ServoLink.Session

/-!
# Connecting — how a session attempts to connect, and what it reports

An attempt opens the register channel, repeats the handshake until it succeeds or the attempts are
used up, and starts the cyclic thread.  Each handshake that fails is reported with its number; one
that finds the firmware too old is the last.

* `Session.Negotiated`, `Session.negotiated_negotiate` — the repeated handshake;
* `Session.Tried`, `Session.tried_tryConnect` — the ways the whole attempt ends.
-/

namespace ServoLink

open Net Motion

variable {ω : Type}

/-! ## Negotiating -/

/-- The error is that the drive's firmware is too old. -/
def LinkError.isIncompatible : LinkError → Bool
  | .incompatibleFirmware .. => true
  | _ => false

/-- The reports of failed attempts, numbered one after the other. -/
def failureReports : (number : Nat) → List LinkError → List Event
  | _, [] => []
  | number, cause :: later =>
      .handshakeFailed number cause.message :: failureReports (number + 1) later

theorem connectionChange?_failureReports (number : Nat) (causes : List LinkError) :
    ∀ event ∈ failureReports number causes, event.connectionChange? = none := by
  induction causes generalizing number with
  | nil => rintro event ⟨⟩
  | cons cause later ih =>
      intro event hevent
      rcases List.mem_cons.1 hevent with rfl | hlater
      · rfl
      · exact ih (number + 1) event hlater

/-- Failed attempts, of which so many are allowed: none follows one that found the firmware too
old. -/
structure Attempts (allowed : Nat) (causes : List LinkError) : Prop where
  length : causes.length ≤ allowed
  compatible : ∀ cause ∈ causes.dropLast, cause.isIncompatible = false

theorem Attempts.cons {allowed : Nat} {cause : LinkError} {causes : List LinkError}
    (h : Attempts allowed causes) (hcompatible : cause.isIncompatible = false) :
    Attempts (allowed + 1) (cause :: causes) := by
  refine ⟨Nat.succ_le_succ h.length, ?_⟩
  cases causes with
  | nil => rintro earlier ⟨⟩
  | cons next later =>
      intro earlier hearlier
      rcases List.mem_cons.1 hearlier with rfl | hlater
      · exact hcompatible
      · exact h.compatible earlier hlater

namespace Session

/-- Attempts that failed one after the other, with their errors. -/
inductive Failing (react : FarEnd ω) (requestedUs : UInt32) (oldest : Firmware) :
    Register.Conversation ω → List LinkError → Register.Conversation ω → Prop where
  | nil (c : Register.Conversation ω) : Failing react requestedUs oldest c [] c
  | cons {c between after : Register.Conversation ω} {cause : LinkError} {causes : List LinkError}
      (hfailed : Handshake.perform react requestedUs oldest c = .error cause between)
      (hrest : Failing react requestedUs oldest between causes after) :
      Failing react requestedUs oldest c (cause :: causes) after

/-- How negotiating ends after failed attempts: with the outcome of one more, or the last error. -/
structure Negotiated (react : FarEnd ω) (requestedUs : UInt32) (oldest : Firmware)
    (number allowed : Nat) (c : Register.Conversation ω) (shared : Cyclic.Shared)
    (causes : List LinkError)
    (ended : Except LinkError Handshake.Outcome × Register.Conversation ω × Cyclic.Shared) :
    Prop where
  attempts : Attempts allowed causes
  failing : ∃ between, Failing react requestedUs oldest c causes between
    ∧ ((∃ outcome, ended.1 = .ok outcome
        ∧ Handshake.perform react requestedUs oldest between = .ok outcome ended.2.1)
      ∨ ∃ cause, ended.1 = .error cause ∧ causes.getLast? = some cause ∧ ended.2.1 = between)
  shared : ended.2.2 =
    { shared with events := shared.events ++ failureReports number causes }

section Negotiated

variable {react : FarEnd ω} {requestedUs : UInt32} {oldest : Firmware}
variable {c between : Register.Conversation ω} {shared : Cyclic.Shared} {cause : LinkError}

/-- The first attempt succeeds. -/
theorem negotiated_of_ok {outcome : Handshake.Outcome}
    (hok : Handshake.perform react requestedUs oldest c = .ok outcome between)
    (failures left : Nat) :
    Negotiated react requestedUs oldest (failures + 1) (left + 1) c shared []
      (negotiate react requestedUs oldest failures left c shared) := by
  unfold negotiate
  rw [hok]
  exact ⟨⟨Nat.zero_le _, by rintro cause ⟨⟩⟩, ⟨c, .nil c, Or.inl ⟨outcome, rfl, hok⟩⟩,
    by simp [failureReports]⟩

/-- The last attempt failed. -/
theorem negotiated_of_error
    (hfailed : Handshake.perform react requestedUs oldest c = .error cause between)
    (number left : Nat) :
    Negotiated react requestedUs oldest number (left + 1) c shared [cause]
      (.error cause, between, shared.emit (.handshakeFailed number cause.message)) where
  attempts := ⟨Nat.succ_le_succ (Nat.zero_le left), by rintro earlier ⟨⟩⟩
  failing := ⟨between, .cons hfailed (.nil between), Or.inr ⟨cause, rfl, rfl, rfl⟩⟩
  shared := rfl

/-- One more attempt that failed, before those to come. -/
theorem Negotiated.cons {number allowed : Nat} {causes : List LinkError}
    {ended : Except LinkError Handshake.Outcome × Register.Conversation ω × Cyclic.Shared}
    (hfailed : Handshake.perform react requestedUs oldest c = .error cause between)
    (hcompatible : cause.isIncompatible = false)
    (h : Negotiated react requestedUs oldest (number + 1) allowed between
      (shared.emit (.handshakeFailed number cause.message)) causes ended) :
    Negotiated react requestedUs oldest number (allowed + 1) c shared (cause :: causes) ended where
  attempts := h.attempts.cons hcompatible
  failing := by
    rcases h.failing with ⟨last, hfailing, hended⟩
    refine ⟨last, .cons hfailed hfailing, ?_⟩
    rcases hended with hok | ⟨final, herror, hfinal, hlast⟩
    · exact Or.inl hok
    · refine Or.inr ⟨final, herror, ?_, hlast⟩
      rw [List.getLast?_cons, hfinal]
      rfl
  shared := by
    rw [h.shared]
    simp only [Cyclic.Shared.emit, failureReports, List.append_assoc, List.singleton_append]

theorem negotiate_of_last {left : Nat}
    (hfailed : Handshake.perform react requestedUs oldest c = .error cause between)
    (hlast : left = 0 ∨ cause.isIncompatible) (failures : Nat) :
    negotiate react requestedUs oldest failures left c shared =
      (.error cause, between, shared.emit (.handshakeFailed (failures + 1) cause.message)) := by
  unfold negotiate
  rw [hfailed]
  rcases hlast with rfl | hincompatible
  · cases cause <;> rfl
  · cases cause with
    | incompatibleFirmware found required => rfl
    | _ => cases hincompatible

theorem negotiate_again
    (hfailed : Handshake.perform react requestedUs oldest c = .error cause between)
    (hcompatible : cause.isIncompatible = false) (failures left : Nat) :
    negotiate react requestedUs oldest failures (left + 1) c shared =
      negotiate react requestedUs oldest (failures + 1) left between
        (shared.emit (.handshakeFailed (failures + 1) cause.message)) := by
  rw [negotiate, hfailed]
  cases cause with
  | incompatibleFirmware found required => cases hcompatible
  | _ => rfl

theorem negotiated_negotiate (react : FarEnd ω) (requestedUs : UInt32) (oldest : Firmware)
    (failures left : Nat) (c : Register.Conversation ω) (shared : Cyclic.Shared) :
    ∃ causes, Negotiated react requestedUs oldest (failures + 1) (left + 1) c shared causes
      (negotiate react requestedUs oldest failures left c shared) := by
  -- On the attempts left; each failure is reported before the next attempt.
  induction left generalizing failures c shared with
  | zero =>
      cases hperform : Handshake.perform react requestedUs oldest c with
      | ok outcome after => exact ⟨[], negotiated_of_ok hperform failures 0⟩
      | error cause after =>
          rw [negotiate_of_last hperform (Or.inl rfl)]
          exact ⟨[cause], negotiated_of_error hperform (failures + 1) 0⟩
  | succ left ih =>
      cases hperform : Handshake.perform react requestedUs oldest c with
      | ok outcome after => exact ⟨[], negotiated_of_ok hperform failures (left + 1)⟩
      | error cause after =>
          cases hcompatible : cause.isIncompatible with
          | true =>
              rw [negotiate_of_last hperform (Or.inr hcompatible)]
              exact ⟨[cause], negotiated_of_error hperform (failures + 1) (left + 1)⟩
          | false =>
              rw [negotiate_again hperform hcompatible]
              rcases ih (failures + 1) after
                (shared.emit (.handshakeFailed (failures + 1) cause.message)) with
                ⟨causes, hnegotiated⟩
              exact ⟨cause :: causes, hnegotiated.cons hperform hcompatible⟩

end Negotiated

/-! ## Connecting -/

/-- The errors are those of attempts made over the register channel that the session opens. -/
def Asked (env : Surroundings ω) (s : Session ω) (causes : List LinkError) : Prop :=
  causes = [] ∨ ∃ link oldest between, s.openRegisters env = .ok link
    ∧ s.settings.handshake.oldestFirmware = .ok oldest
    ∧ Failing (env.react link.peer) s.settings.cyclic.cycleTimeUs oldest
      ⟨link.channel, ⟨link.socket, s.world⟩, false⟩ causes between

@[simp] theorem settings_setConnection (s : Session ω) (target : ConnectionState) :
    (s.setConnection target).settings = s.settings := rfl

@[simp] theorem world_setConnection (s : Session ω) (target : ConnectionState) :
    (s.setConnection target).world = s.world := rfl

theorem openRegisters_setConnection (env : Surroundings ω) (s : Session ω)
    (target : ConnectionState) :
    (s.setConnection target).openRegisters env = s.openRegisters env := by
  unfold openRegisters
  rw [settings_setConnection, world_setConnection]

/-- Which attempts are made does not depend on the state of the connection. -/
theorem asked_setConnection {env : Surroundings ω} {s : Session ω} {target : ConnectionState}
    {causes : List LinkError} :
    Asked env (s.setConnection target) causes ↔ Asked env s causes := by
  unfold Asked
  simp only [openRegisters_setConnection, settings_setConnection, world_setConnection]

/-- How many attempts a session makes. -/
def attempts (s : Session ω) : Nat := max s.settings.handshake.attempts.toNat 1

/-- The report of a handshake that succeeded, or none. -/
def SuccessReport (succeeded : List Event) : Prop :=
  succeeded = [] ∨ ∃ outcome : Handshake.Outcome, succeeded =
    [.handshakeSucceeded outcome.firmware outcome.deviceId outcome.cycleTimeUs]

theorem successReport (outcome : Handshake.Outcome) : SuccessReport
    [.handshakeSucceeded outcome.firmware outcome.deviceId outcome.cycleTimeUs] :=
  Or.inr ⟨outcome, rfl⟩

/-- Neither reports a change of the connection. -/
theorem SuccessReport.quiet {succeeded : List Event} (h : SuccessReport succeeded)
    (causes : List LinkError) :
    ∀ event ∈ failureReports 1 causes ++ succeeded, event.connectionChange? = none := by
  intro event hevent
  rcases List.mem_append.1 hevent with hfailure | hsuccess
  · exact connectionChange?_failureReports 1 causes event hfailure
  · rcases h with rfl | ⟨outcome, rfl⟩
    · cases hsuccess
    · rw [List.mem_singleton.1 hsuccess]
      rfl

/-- The ways an attempt to connect ends.  What failed leaves reports behind and no outcome. -/
inductive Tried (env : Surroundings ω) (s : Session ω) :
    Except LinkError Handshake.Outcome × Session ω → Prop where
  | failed {cause : LinkError} {after : Session ω} {causes : List LinkError}
      {succeeded : List Event} (hattempts : Attempts s.attempts causes)
      (hasked : Asked env s causes) (hsucceeded : SuccessReport succeeded)
      (hconnection : after.state = s.state)
      (hevents : after.shared.events =
        s.shared.events ++ (failureReports 1 causes ++ succeeded))
      (hhandshake : after.handshake = s.handshake) :
      Tried env s (.error cause, after)
  | connected {outcome : Handshake.Outcome} {after : Session ω} {thread : CyclicThread}
      (hmoves : s.state = .handshaking → s.shared.Moves after.shared)
      (hstate : after.state = .connected) (hhandshake : after.handshake.isSome)
      (hregisters : after.registers.isSome) (hcyclic : after.cyclic = some thread)
      (haxial : thread.runner.machine.Axial) :
      Tried env s (.ok outcome, after)

/-- The cyclic thread is started with a new machine and the session is connected, or nothing
happens. -/
theorem startCyclic_cases (env : Surroundings ω) (cycleTimeUs : UInt32) (s : Session ω) :
    (∃ cause, s.startCyclic env cycleTimeUs = (.error cause, s))
      ∨ ∃ thread : CyclicThread, thread.runner.machine = .new s.settings.motion
        ∧ s.startCyclic env cycleTimeUs = (.ok (),
          { s with
            shared := { s.shared with snapshot := {} }.setConnection .connected
            cyclic := some thread }) := by
  unfold startCyclic
  split
  · exact Or.inl ⟨_, rfl⟩
  · exact Or.inr ⟨_, rfl, rfl⟩

/-- A handshake has succeeded after failed attempts and is reported; `told` is the session then. -/
structure Told (env : Surroundings ω) (s told : Session ω) (causes : List LinkError)
    (outcome : Handshake.Outcome) : Prop where
  attempts : Attempts s.attempts causes
  asked : Asked env s causes
  state : told.state = s.state
  events : told.shared.events = s.shared.events ++ (failureReports 1 causes
    ++ [.handshakeSucceeded outcome.firmware outcome.deviceId outcome.cycleTimeUs])
  handshake : told.handshake = s.handshake
  registers : told.registers.isSome

section Told

variable {env : Surroundings ω} {s told after : Session ω} {causes : List LinkError}
variable {outcome : Handshake.Outcome}

/-- Without a cyclic thread the attempt has failed. -/
theorem Told.tried_of_error (h : Told env s told causes outcome) {cause : LinkError}
    (hstart : told.startCyclic env outcome.cycleTimeUs = (.error cause, after)) :
    Tried env s (.error cause, after) := by
  rcases startCyclic_cases env outcome.cycleTimeUs told with
    ⟨failure, hfailed⟩ | ⟨thread, hmachine, hstarted⟩
  · obtain rfl := (Prod.mk.inj (hfailed.symm.trans hstart)).2
    exact .failed h.attempts h.asked (successReport outcome) h.state h.events h.handshake
  · have hboth := hstarted.symm.trans hstart
    cases hboth

/-- With a cyclic thread the session is connected. -/
theorem Told.tried_of_ok (h : Told env s told causes outcome)
    (hstart : told.startCyclic env outcome.cycleTimeUs = (.ok (), after)) :
    Tried env s (.ok outcome, { after with handshake := some outcome }) := by
  rcases startCyclic_cases env outcome.cycleTimeUs told with
    ⟨failure, hfailed⟩ | ⟨thread, hmachine, hstarted⟩
  · have hboth := hfailed.symm.trans hstart
    cases hboth
  · obtain rfl := (Prod.mk.inj (hstarted.symm.trans hstart)).2
    refine .connected ?_ (Cyclic.Cycle.connection_setConnection _ .connected) rfl h.registers rfl ?_
    · intro hstate
      have hquiet : s.shared.Moves { told.shared with snapshot := {} } :=
        Cyclic.Shared.moves_of_quiet h.state h.events ((successReport outcome).quiet causes)
      have harrow : ConnectionState.Arrow told.state .connected := by
        rw [h.state, hstate]
        exact .connected
      exact hquiet.trans (Cyclic.Shared.moves_setConnection (Or.inr harrow))
    · -- A new machine has nothing to report.
      rw [hmachine]
      rintro event ⟨⟩

end Told

theorem tried_tryConnect (env : Surroundings ω) (s : Session ω) :
    Tried env s (s.tryConnect env) := by
  have hnothing : Attempts s.attempts [] := ⟨Nat.zero_le _, by rintro cause ⟨⟩⟩
  have hsilent : s.shared.events = s.shared.events ++ (failureReports 1 [] ++ []) := by
    simp [failureReports]
  unfold tryConnect
  -- Before the first handshake the attempt can fail with nothing to report.
  split
  · exact .failed hnothing (Or.inl rfl) (Or.inl rfl) rfl hsilent rfl
  rename_i link hlink
  split
  · exact .failed hnothing (Or.inl rfl) (Or.inl rfl) rfl hsilent rfl
  rename_i oldest holdest
  have hpositive : max s.settings.handshake.attempts.toNat 1 - 1 + 1 = s.attempts := by
    unfold attempts
    omega
  rcases negotiated_negotiate (env.react link.peer) s.settings.cyclic.cycleTimeUs oldest 0
    (max s.settings.handshake.attempts.toNat 1 - 1)
    ⟨link.channel, ⟨link.socket, s.world⟩, false⟩ s.shared with ⟨causes, hnegotiated⟩
  rw [hpositive] at hnegotiated
  dsimp only
  generalize negotiate (env.react link.peer) s.settings.cyclic.cycleTimeUs oldest 0
    (max s.settings.handshake.attempts.toNat 1 - 1)
    ⟨link.channel, ⟨link.socket, s.world⟩, false⟩ s.shared = ended at hnegotiated ⊢
  rcases ended with ⟨result, c, shared⟩
  obtain rfl : shared = _ := hnegotiated.shared
  have hasked : Asked env s causes := by
    rcases hnegotiated.failing with ⟨between, hfailing, -⟩
    exact Or.inr ⟨link, oldest, between, hlink, holdest, hfailing⟩
  cases result with
  | error cause =>
      exact .failed hnegotiated.attempts hasked (Or.inl rfl) rfl (by rw [List.append_nil]) rfl
  | ok outcome =>
      dsimp only
      have htold : Told env s
          { ({ s with
              world := c.line.far
              shared :=
                { s.shared with
                  events := s.shared.events ++ failureReports (0 + 1) causes } }.emit
              (.handshakeSucceeded outcome.firmware outcome.deviceId outcome.cycleTimeUs)) with
            registers := some { link with channel := c.channel, socket := c.line.toSocket } }
          causes outcome :=
        { attempts := hnegotiated.attempts
          asked := hasked
          state := rfl
          events := List.append_assoc _ _ _
          handshake := rfl
          registers := rfl }
      split
      · rename_i cause after hstart
        exact htold.tried_of_error hstart
      · rename_i after hstart
        exact htold.tried_of_ok hstart

end Session
end ServoLink
