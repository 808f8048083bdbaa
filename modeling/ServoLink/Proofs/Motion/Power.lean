import ServoLink.Proofs.Motion.Machine
import ServoLink.Proofs.ProcessData.Control

/-!
# Power — when the axis machine switches the drive on

A request is `PoweredOff` when it neither switches the drive on nor enables it, and carries no
motion command.  A machine that is `Sound` sends such a request in every state that is not enabled.

`Machine.Inert` is what keeps it so: nothing is under way that leads to an enabled state, and no
waiting command can start anything but the acknowledge of a fault.

* `Machine.poweredOff_request_iff` — powered off means not enabled;
* `Machine.Sound.submit`, `Machine.Sound.update`, `Machine.Sound.forceFault` — every operation keeps
  a machine sound;
* `Machine.Inert.submit`, `Machine.Inert.update` — and an inert one inert.
-/

namespace ServoLink

open ProcessData

/-- Neither switches the drive on nor enables it, and carries no motion command. -/
def ProcessData.ControlRequest.PoweredOff (r : ControlRequest) : Prop :=
  (∀ word, r.control = some word →
      word.contains ControlWord.switchOn = false
        ∧ word.contains ControlWord.enableOperation = false)
    ∧ r.motion = none

namespace Motion
namespace Machine

/-! ## Sound machines -/

/-- What holds of every machine that was ever new. -/
structure Sound (m : Machine) : Prop where
  off : m.state.isEnabled = false → m.active = none
  faulted : m.state = .faulted → m.pending = none ∨ m.pending = some .faultAcknowledge
  count : m.motionCount ≤ 15
  command : ∀ command, m.active = some command → command.Canonical

theorem sound_new (settings : MotionSettings) : (new settings).Sound where
  off _ := rfl
  faulted _ := Or.inl rfl
  count := UInt8.zero_le
  command := by
    rintro command ⟨⟩

theorem contains_switchOn_controlWord (state : MotionState) :
    (controlWord state).contains ControlWord.switchOn = state.isEnabled := by
  cases state <;> decide

theorem contains_enableOperation_controlWord (state : MotionState) :
    (controlWord state).contains ControlWord.enableOperation = state.isEnabled := by
  cases state <;> decide

theorem controlWord_poweredOff_iff (state : MotionState) :
    ((controlWord state).contains ControlWord.switchOn = false
        ∧ (controlWord state).contains ControlWord.enableOperation = false)
      ↔ state.isEnabled = false := by
  rw [contains_switchOn_controlWord, contains_enableOperation_controlWord]
  exact and_self_iff

theorem poweredOff_request_iff {m : Machine} (h : m.Sound) (response : ResponseSections) :
    (m.output.request response).PoweredOff ↔ m.state.isEnabled = false := by
  constructor
  · rintro ⟨hword, -⟩
    exact (controlWord_poweredOff_iff m.state).1 (hword _ rfl)
  · intro hoff
    refine ⟨?_, ?_⟩
    · rintro word ⟨⟩
      exact (controlWord_poweredOff_iff m.state).2 hoff
    · show m.active.map _ = none
      rw [h.off hoff]
      rfl

/-- Every request of a sound machine fits a frame and is read as it was sent. -/
theorem Sound.canonical_request {m : Machine} (h : m.Sound) {response : ResponseSections}
    (hresponse : response.Known) : (m.output.request response).Canonical := by
  refine ⟨?_, hresponse⟩
  intro motion hmotion
  have hactive : m.active.map (fun command => ⟨m.motionCount, command⟩) = some motion := hmotion
  rw [Option.map_eq_some_iff] at hactive
  rcases hactive with ⟨command, hcommand, rfl⟩
  exact ⟨h.count, h.command command hcommand⟩

theorem Sound.push {m : Machine} (h : m.Sound) (event : Event) : (m.push event).Sound := by
  rcases m.push_eq event with ⟨events, hevents⟩
  rw [hevents]
  exact ⟨h.off, h.faulted, h.count, h.command⟩

theorem Sound.submit {m : Machine} (h : m.Sound) (command : OperatorCommand) :
    (m.submit command).2.Sound := by
  rcases m.submit_cases command with ⟨hverdict, hsubmit⟩ | ⟨refusal, -, hsubmit⟩
  · rw [hsubmit]
    refine ⟨h.off, ?_, h.count, h.command⟩
    intro hfaulted
    -- A faulted machine accepts nothing but an acknowledge.
    have hstate : m.state = .faulted := hfaulted
    cases command with
    | faultAcknowledge => exact Or.inr rfl
    | _ => simp [verdict, hstate, MotionState.isEnabled] at hverdict
  · rw [hsubmit]
    exact h.push _

theorem Sound.enterFault {m : Machine} (h : m.Sound) (reason : FaultReason) :
    (m.enterFault reason).Sound where
  off _ := by simp
  faulted _ := by simp
  count := by simpa using h.count
  command := by simp

theorem Sound.forceFault {m : Machine} (h : m.Sound) (reason : FaultReason) :
    (m.forceFault reason).Sound := by
  unfold Machine.forceFault
  split
  · exact h
  · exact h.enterFault reason

/-- The events do not matter. -/
theorem Sound.withEvents {m : Machine} (h : m.Sound) (events : List Event) :
    { m with events }.Sound :=
  ⟨h.off, h.faulted, h.count, h.command⟩

theorem Sound.noted {m : Machine} (h : m.Sound) (s : AxisStatus) : (m.noted s).Sound where
  off := by simpa using h.off
  faulted := by simpa using h.faulted
  count := by simpa using h.count
  command := by simpa using h.command

/-- A change of the state keeps a machine sound if what was sent is kept only between enabled
states. -/
theorem Sound.transition {m : Machine} (hcount : m.motionCount ≤ 15)
    (hcommand : ∀ command, m.active = some command → command.Canonical) {target : MotionState}
    (hoff : target.isEnabled = false → m.active = none) (hnot : target ≠ .faulted) :
    (m.transition target).Sound where
  off := by simpa using hoff
  faulted hfaulted := by
    rw [state_transition] at hfaulted
    exact absurd hfaulted hnot
  count := by simpa using hcount
  command := by simpa using hcommand

theorem Sound.step {m m' : Machine} (h : m.Sound) {s : AxisStatus} (hstep : Step m s m') :
    m'.Sound := by
  cases hstep with
  | stay => exact h
  | fault | enableTimeout | homingTimeout => exact h.enterFault _
  | disable =>
      refine Sound.transition ?_ ?_ ?_ ?_
      · exact h.count
      · rintro command ⟨⟩
      · exact fun _ => rfl
      · decide
  | enable | enabled | home | homed | settled =>
      refine Sound.transition ?_ ?_ ?_ ?_
      · exact h.count
      · exact h.command
      · simp [MotionState.isEnabled]
      · decide
  | notReady =>
      refine Sound.push ?_ _
      exact ⟨h.off, fun _ => Or.inl rfl, h.count, h.command⟩
  | dropped | stopAgain => exact ⟨h.off, fun _ => Or.inl rfl, h.count, h.command⟩
  | homingBegun => exact ⟨h.off, h.faulted, h.count, h.command⟩
  | move target =>
      refine Sound.transition (nextCount_le _) ?_ ?_ ?_
      · rintro command ⟨⟩
        exact trivial
      · simp [MotionState.isEnabled]
      · decide
  | stop hmoving =>
      refine ⟨?_, fun _ => Or.inl rfl, nextCount_le _, ?_⟩
      · intro hoff
        have hstate : m.state.isEnabled = false := hoff
        rw [hmoving] at hstate
        cases hstate
      · rintro command ⟨⟩
        exact trivial
  | acknowledge hstate =>
      have hactive := h.off (by rw [hstate]; rfl)
      refine Sound.transition ?_ ?_ ?_ ?_
      · exact h.count
      · exact h.command
      · exact fun _ => hactive
      · decide
  | cleared hstate =>
      have hactive := h.off (by rw [hstate]; rfl)
      refine Sound.transition ?_ ?_ ?_ ?_
      · simpa using h.count
      · simpa using h.command
      · simpa using fun _ => hactive
      · decide

theorem Sound.update {m : Machine} (h : m.Sound) (s : AxisStatus) : (m.update s).Sound :=
  (h.noted s).step (update_step m s)

/-! ## Inert machines -/

/-- Nothing is under way that leads to an enabled state: the machine is faulted, or it is on the way
from there to rest and no command is left. -/
def Inert (m : Machine) (commands : List OperatorCommand) : Prop :=
  match m.state with
  | .faulted => True
  | .faultAcknowledge | .disabled => m.pending = none ∧ commands = []
  | .enabling | .homing | .ready | .moving => False

theorem inert_of_faulted {m : Machine} (h : m.state = .faulted)
    (commands : List OperatorCommand) : m.Inert commands := by
  simp [Inert, h]

theorem inert_of_rest {m : Machine} (h : m.state = .faultAcknowledge ∨ m.state = .disabled)
    (hpending : m.pending = none) : m.Inert [] := by
  rcases h with hstate | hstate
  · simp [Inert, hstate, hpending]
  · simp [Inert, hstate, hpending]

theorem Inert.cases {m : Machine} {commands : List OperatorCommand} (h : m.Inert commands) :
    m.state = .faulted ∨ (m.state = .faultAcknowledge ∨ m.state = .disabled)
      ∧ m.pending = none ∧ commands = [] := by
  unfold Inert at h
  split at h
  · exact Or.inl ‹_›
  · exact Or.inr ⟨Or.inl ‹_›, h⟩
  · exact Or.inr ⟨Or.inr ‹_›, h⟩
  all_goals exact h.elim

theorem Inert.off {m : Machine} {commands : List OperatorCommand} (h : m.Inert commands) :
    m.state.isEnabled = false := by
  rcases h.cases with hstate | ⟨hstate | hstate, -⟩
  · rw [hstate]
    rfl
  · rw [hstate]
    rfl
  · rw [hstate]
    rfl

theorem state_forceFault (m : Machine) (reason : FaultReason) :
    (m.forceFault reason).state = .faulted := by
  unfold forceFault
  split
  · assumption
  · simp

/-- A faulted machine sends the idle word and no motion command. -/
theorem Sound.output_forceFault {m : Machine} (h : m.Sound) (reason : FaultReason) :
    (m.forceFault reason).output = ⟨ControlWord.idle, none⟩ := by
  have hstate := m.state_forceFault reason
  have hactive := (h.forceFault reason).off (by rw [hstate]; rfl)
  unfold output
  rw [hstate, hactive]
  rfl

/-- The last of the waiting commands is submitted; an inert machine has one only when faulted. -/
theorem Inert.submit {m : Machine} {commands : List OperatorCommand} (h : m.Inert commands)
    {command : OperatorCommand} (hlast : commands.getLast? = some command) :
    (m.submit command).2.Inert [] := by
  rcases h.cases with hstate | ⟨-, -, hnone⟩
  · exact inert_of_faulted (by rw [state_submit, hstate]) []
  · rw [hnone] at hlast
    cases hlast

/-- A status leads an inert, sound machine to another. -/
theorem Inert.step {m m' : Machine} (h : m.Inert []) (hsound : m.Sound) {s : AxisStatus}
    (hstep : Step m s m') : m'.Inert [] := by
  rcases h.cases with hstate | ⟨hstate, hpending, -⟩
  -- A faulted machine can only be acknowledged.
  · cases hstep with
    | stay => exact h
    | fault => exact inert_of_faulted (by simp) []
    | acknowledge => exact inert_of_rest (Or.inl (by simp)) (by simp)
    | disable hdisable =>
        rcases hsound.faulted hstate with hnone | hacknowledge
        · rw [hnone] at hdisable
          cases hdisable
        · rw [hacknowledge] at hdisable
          cases hdisable
    | _ => simp_all
  -- With nothing pending, it goes on to rest or back to the fault.
  · cases hstep with
    | stay => exact h
    | fault => exact inert_of_faulted (by simp) []
    | cleared => exact inert_of_rest (Or.inr (by simp)) (by simpa using hpending)
    | _ => simp_all

theorem Inert.update {m : Machine} (h : m.Inert []) (hsound : m.Sound) (s : AxisStatus) :
    (m.update s).Inert [] := by
  have hnoted : (m.noted s).Inert [] := by
    simpa [Inert] using h
  exact hnoted.step (hsound.noted s) (update_step m s)

end Machine
end Motion
end ServoLink
