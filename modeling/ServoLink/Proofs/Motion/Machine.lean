import ServoLink.Motion.Machine

/-!
# Axis machine — what a command and a status can do

`Machine.Step` lists, with their guards, the changes a status can bring about once it has been noted
(`Machine.noted`).  An invariant of the machine is a case analysis over it, and never opens
`update`.

* `Machine.update_step` — an update is one of these changes;
* the `simp` lemmas beside them say which fields a change leaves alone.
-/

namespace ServoLink
namespace Motion

open ProcessData

namespace Machine

/-! ## Fields -/

section Fields

variable (m : Machine)

/-- An event is recorded, if there is room. -/
theorem push_eq (event : Event) : ∃ events, m.push event = { m with events } := by
  unfold push
  split
  · exact ⟨_, rfl⟩
  · exact ⟨m.events, rfl⟩

@[simp] theorem state_push (event : Event) : (m.push event).state = m.state := by
  rcases m.push_eq event with ⟨events, h⟩
  simp [h]

@[simp] theorem pending_push (event : Event) : (m.push event).pending = m.pending := by
  rcases m.push_eq event with ⟨events, h⟩
  simp [h]

@[simp] theorem fault_push (event : Event) : (m.push event).fault = m.fault := by
  rcases m.push_eq event with ⟨events, h⟩
  simp [h]

@[simp] theorem motionCount_push (event : Event) :
    (m.push event).motionCount = m.motionCount := by
  rcases m.push_eq event with ⟨events, h⟩
  simp [h]

@[simp] theorem echoedCount_push (event : Event) :
    (m.push event).echoedCount = m.echoedCount := by
  rcases m.push_eq event with ⟨events, h⟩
  simp [h]

@[simp] theorem active_push (event : Event) : (m.push event).active = m.active := by
  rcases m.push_eq event with ⟨events, h⟩
  simp [h]

@[simp] theorem stopping_push (event : Event) : (m.push event).stopping = m.stopping := by
  rcases m.push_eq event with ⟨events, h⟩
  simp [h]

@[simp] theorem state_transition (target : MotionState) : (m.transition target).state = target := by
  unfold transition
  split
  · assumption
  · simp

@[simp] theorem pending_transition (target : MotionState) :
    (m.transition target).pending = m.pending := by
  unfold transition
  split <;> simp

@[simp] theorem fault_transition (target : MotionState) :
    (m.transition target).fault = m.fault := by
  unfold transition
  split <;> simp

@[simp] theorem motionCount_transition (target : MotionState) :
    (m.transition target).motionCount = m.motionCount := by
  unfold transition
  split <;> simp

@[simp] theorem echoedCount_transition (target : MotionState) :
    (m.transition target).echoedCount = m.echoedCount := by
  unfold transition
  split <;> simp

@[simp] theorem active_transition (target : MotionState) :
    (m.transition target).active = m.active := by
  unfold transition
  split <;> simp

theorem stopping_transition {target : MotionState} (h : m.state ≠ target) :
    (m.transition target).stopping = false := by
  simp [transition, h]

@[simp] theorem state_enterFault (reason : FaultReason) :
    (m.enterFault reason).state = .faulted := by
  simp [enterFault]

@[simp] theorem pending_enterFault (reason : FaultReason) :
    (m.enterFault reason).pending = none := by
  simp [enterFault]

@[simp] theorem fault_enterFault (reason : FaultReason) :
    (m.enterFault reason).fault = some reason := by
  simp [enterFault]

@[simp] theorem active_enterFault (reason : FaultReason) :
    (m.enterFault reason).active = none := by
  simp [enterFault]

@[simp] theorem motionCount_enterFault (reason : FaultReason) :
    (m.enterFault reason).motionCount = m.motionCount := by
  simp [enterFault]

@[simp] theorem state_issue (command : Command) : (m.issue command).state = m.state := rfl

@[simp] theorem pending_issue (command : Command) : (m.issue command).pending = m.pending := rfl

@[simp] theorem fault_issue (command : Command) : (m.issue command).fault = m.fault := rfl

@[simp] theorem active_issue (command : Command) :
    (m.issue command).active = some command := rfl

end Fields

/-! ## Counts -/

theorem nextCount_le (count : UInt8) : nextCount count ≤ 15 := by
  rcases count with ⟨⟨count⟩⟩
  revert count
  decide +kernel

/-- The successor of a 4-bit count is another one. -/
theorem nextCount_ne {count : UInt8} (h : count ≤ 15) : nextCount count ≠ count := by
  rcases count with ⟨⟨count⟩⟩
  revert count
  decide +kernel

theorem motionCount_issue_le (m : Machine) (command : Command) :
    (m.issue command).motionCount ≤ 15 :=
  nextCount_le _

/-! ## Submitting -/

/-- An accepted command is pending; a refused one changes no field but the events. -/
theorem submit_cases (m : Machine) (command : OperatorCommand) :
    (m.verdict command = .ok ()
        ∧ m.submit command = (.ok (), { m with pending := some command }))
      ∨ ∃ refusal, m.verdict command = .error refusal
        ∧ m.submit command = (.error refusal, m.push (.commandRejected command.name m.state)) := by
  unfold submit
  cases hverdict : m.verdict command with
  | ok _ => exact Or.inl ⟨rfl, rfl⟩
  | error refusal => exact Or.inr ⟨refusal, rfl, rfl⟩

@[simp] theorem state_submit (m : Machine) (command : OperatorCommand) :
    (m.submit command).2.state = m.state := by
  rcases m.submit_cases command with ⟨-, hsubmit⟩ | ⟨refusal, -, hsubmit⟩
  · rw [hsubmit]
  · rw [hsubmit]
    exact state_push m _

@[simp] theorem fault_submit (m : Machine) (command : OperatorCommand) :
    (m.submit command).2.fault = m.fault := by
  rcases m.submit_cases command with ⟨-, hsubmit⟩ | ⟨refusal, -, hsubmit⟩
  · rw [hsubmit]
  · rw [hsubmit, fault_push]

/-! ## Updating -/

/-- The machine once a status has been noted, before anything is made of it. -/
def noted (m : Machine) (s : AxisStatus) : Machine := (m.observe s).escalate s

/-- What a noted status can do. -/
inductive Step (m : Machine) (s : AxisStatus) : Machine → Prop where
  | stay : Step m s m
  | fault : s.fault → ¬ m.state.isFaulted → Step m s (m.enterFault s.faultReason)
  | disable : m.pending = some .disable →
      Step m s ({ m with pending := none, active := none }.transition .disabled)
  | enable : m.state = .disabled → m.pending = some .enable → s.ready →
      Step m s ({ m with pending := none }.transition .enabling)
  | notReady : m.state = .disabled → m.pending = some .enable → s.ready = false →
      Step m s ({ m with pending := none }.push
        (.commandRejected OperatorCommand.enable.name .disabled))
  | enabled : m.state = .enabling → s.enabled → Step m s (m.transition .ready)
  | enableTimeout : m.state = .enabling → s.enabled = false →
      m.sequence.timedOut m.enableTimeout → Step m s (m.enterFault .enableTimeout)
  /-- A command that is out of place when its turn comes. -/
  | dropped : m.state = .ready → Step m s { m with pending := none }
  | home : m.state = .ready → m.pending = some .home →
      Step m s ({ m with pending := none }.transition .homing)
  | move (target : Position) : m.state = .ready → m.pending = some (.moveTo target) →
      Step m s (({ m with pending := none }.issue
        (.goTo target m.profile.velocity m.profile.acceleration m.profile.deceleration)).transition
          .moving)
  | homingBegun : m.state = .homing → m.sequence.step = 0 → s.homing.isSome ∨ s.homed = false →
      Step m s { m with sequence := m.sequence.advance }
  | homed : m.state = .homing →
      s.homing = some true ∨ m.sequence.step = 1 ∧ s.homing = none ∧ s.homed →
      Step m s (m.transition .ready)
  | homingTimeout : m.state = .homing → m.sequence.timedOut m.homingTimeout →
      Step m s (m.enterFault .homingTimeout)
  | stop : m.state = .moving → m.pending = some .stop → m.stopping = false →
      Step m s { { m with pending := none }.issue (.stop m.profile.deceleration) with
        stopping := true }
  | stopAgain : m.state = .moving → m.pending = some .stop → m.stopping →
      Step m s { m with pending := none }
  | settled : m.state = .moving → m.pending ≠ some .stop → m.settled s →
      Step m s (m.transition .ready)
  | acknowledge : m.state = .faulted → m.pending = some .faultAcknowledge →
      Step m s ({ m with pending := none }.transition .faultAcknowledge)
  | cleared : m.state = .faultAcknowledge → s.fault = false →
      Step m s (({ m with fault := none }.push .faultCleared).transition .disabled)

theorem settled_iff {m : Machine} {s : AxisStatus} :
    m.settled s ↔ s.motionCount = some m.motionCount ∧ s.motionActive = false
      ∧ (m.stopping ∨ s.inTarget) := by
  simp [settled, and_assoc]

/-- A move ends in rest only by settling. -/
theorem Step.settled_of_ready {m m' : Machine} {s : AxisStatus} (h : Step m s m')
    (hmoving : m.state = .moving) (hready : m'.state = .ready) : m.settled s := by
  cases h with
  | settled _ _ hsettled => exact hsettled
  | _ => simp_all

/-- Homing starts at rest. -/
theorem Step.ready_of_homing {m m' : Machine} {s : AxisStatus} (h : Step m s m')
    (hbefore : m.state ≠ .homing) (hafter : m'.state = .homing) : m.state = .ready := by
  cases h with
  | home hready => exact hready
  | _ => simp_all

/-- Homing ends at rest when the drive tells that its run is over, or tells of no run and is homed. -/
theorem Step.homed_of_ready {m m' : Machine} {s : AxisStatus} (h : Step m s m')
    (hhoming : m.state = .homing) (hready : m'.state = .ready) :
    s.homing = some true ∨ s.homing = none := by
  cases h with
  | homed _ hover =>
      rcases hover with hfinished | ⟨-, hnone, -⟩
      · exact Or.inl hfinished
      · exact Or.inr hnone
  | _ => simp_all

theorem updateDisabled_step {m : Machine} {s : AxisStatus} (h : m.state = .disabled) :
    Step m s (m.updateDisabled s) := by
  unfold updateDisabled
  by_cases hpending : m.pending = some .enable
  · cases hready : s.ready with
    | true => simpa [hpending] using Step.enable h hpending hready
    | false => simpa [hpending, h] using Step.notReady h hpending hready
  · simpa [hpending] using Step.stay

theorem updateEnabling_step {m : Machine} {s : AxisStatus} (h : m.state = .enabling) :
    Step m s (m.updateEnabling s) := by
  unfold updateEnabling
  cases henabled : s.enabled with
  | true => exact Step.enabled h henabled
  | false =>
      cases htimeout : m.sequence.timedOut m.enableTimeout with
      | true => exact Step.enableTimeout h henabled htimeout
      | false => exact Step.stay

theorem updateReady_step {m : Machine} {s : AxisStatus} (h : m.state = .ready) :
    Step m s m.updateReady := by
  unfold updateReady
  cases hpending : m.pending with
  | none => exact Step.dropped h
  | some command =>
      cases command with
      | home => exact Step.home h hpending
      | moveTo target => exact Step.move target h hpending
      | enable | disable | stop | faultAcknowledge => exact Step.dropped h

theorem updateHoming_step {m : Machine} {s : AxisStatus} (h : m.state = .homing) :
    Step m s (m.updateHoming s) := by
  unfold updateHoming
  by_cases hfinished : s.homing = some true
  · rw [if_pos hfinished]
    exact Step.homed h (Or.inl hfinished)
  · rw [if_neg hfinished]
    split
    -- First the wait for the run to begin, then the wait for it to end.
    · rename_i hstep
      split
      · rename_i hbegun
        simp only [Bool.or_eq_true, Bool.not_eq_true'] at hbegun
        exact Step.homingBegun h hstep hbegun
      · split
        · rename_i htimeout
          exact Step.homingTimeout h htimeout
        · exact Step.stay
    · rename_i hstep
      split
      · rename_i hhomed
        simp only [Bool.and_eq_true, Option.isNone_iff_eq_none] at hhomed
        exact Step.homed h (Or.inr ⟨hstep, hhomed⟩)
      · split
        · rename_i htimeout
          exact Step.homingTimeout h htimeout
        · exact Step.stay
    · exact Step.stay

theorem updateMoving_step {m : Machine} {s : AxisStatus} (h : m.state = .moving) :
    Step m s (m.updateMoving s) := by
  unfold updateMoving
  by_cases hpending : m.pending = some .stop
  · cases hstopping : m.stopping with
    | true => simpa [hpending, hstopping] using Step.stopAgain h hpending hstopping
    | false => simpa [hpending, hstopping] using Step.stop h hpending hstopping
  · cases hsettled : m.settled s with
    | true => simpa [hpending] using Step.settled h hpending hsettled
    | false => simpa [hpending] using Step.stay

theorem updateFaulted_step {m : Machine} {s : AxisStatus} (h : m.state = .faulted) :
    Step m s m.updateFaulted := by
  unfold updateFaulted
  by_cases hpending : m.pending = some .faultAcknowledge
  · simpa [hpending] using Step.acknowledge h hpending
  · simpa [hpending] using Step.stay

theorem updateAcknowledge_step {m : Machine} {s : AxisStatus} (h : m.state = .faultAcknowledge) :
    Step m s (m.updateAcknowledge s) := by
  unfold updateAcknowledge
  cases hfault : s.fault with
  | true => exact Step.stay
  | false => exact Step.cleared h hfault

theorem advance_step (m : Machine) (s : AxisStatus) : Step m s (m.advance s) := by
  unfold advance
  split
  · exact updateDisabled_step ‹_›
  · exact updateEnabling_step ‹_›
  · exact updateReady_step ‹_›
  · exact updateHoming_step ‹_›
  · exact updateMoving_step ‹_›
  · exact updateFaulted_step ‹_›
  · exact updateAcknowledge_step ‹_›

section Noted

variable (m : Machine) (s : AxisStatus)

/-- Apart from the recorded fault, noting is observing. -/
theorem noted_eq : ∃ fault, m.noted s = { m.observe s with fault } := by
  unfold noted escalate
  split
  · split
    · exact ⟨_, rfl⟩
    · exact ⟨(m.observe s).fault, rfl⟩
  · exact ⟨(m.observe s).fault, rfl⟩

@[simp] theorem state_noted : (m.noted s).state = m.state := by
  rcases m.noted_eq s with ⟨fault, h⟩
  simp [h, observe]

@[simp] theorem pending_noted : (m.noted s).pending = m.pending := by
  rcases m.noted_eq s with ⟨fault, h⟩
  simp [h, observe]

@[simp] theorem motionCount_noted : (m.noted s).motionCount = m.motionCount := by
  rcases m.noted_eq s with ⟨fault, h⟩
  simp [h, observe]

@[simp] theorem echoedCount_noted :
    (m.noted s).echoedCount = s.motionCount.or m.echoedCount := by
  rcases m.noted_eq s with ⟨fault, h⟩
  rw [h]
  rfl

@[simp] theorem active_noted : (m.noted s).active = m.active := by
  rcases m.noted_eq s with ⟨fault, h⟩
  simp [h, observe]

@[simp] theorem stopping_noted : (m.noted s).stopping = m.stopping := by
  rcases m.noted_eq s with ⟨fault, h⟩
  simp [h, observe]

/-- A fault entered replaces the one on record. -/
theorem enterFault_noted (reason : FaultReason) :
    (m.noted s).enterFault reason = (m.observe s).enterFault reason := by
  rcases m.noted_eq s with ⟨fault, h⟩
  rw [h]
  rfl

/-- An update is a step from the noted machine. -/
theorem update_step : Step (m.noted s) s (m.update s) := by
  have hstate : (m.observe s).state = m.state := rfl
  unfold update
  dsimp only
  split
  · rename_i hfault
    -- The fault is entered before it could be escalated; that makes no difference.
    simp only [Bool.and_eq_true, Bool.not_eq_true', hstate] at hfault
    rw [← enterFault_noted]
    exact Step.fault hfault.1 (by simp [hfault.2])
  · split
    · rename_i hdisable
      exact Step.disable hdisable
    · exact advance_step (m.noted s) s

variable {m s}

/-- Unless the status enters a fault, a pending disable comes first, then the state's own rule. -/
theorem update_of_not_entered (h : (s.fault && !m.state.isFaulted) = false) :
    m.update s =
      if m.pending = some .disable then
        { m.noted s with pending := none, active := none }.transition .disabled
      else (m.noted s).advance s := by
  have hstate : (m.observe s).state = m.state := rfl
  have hpending : ((m.observe s).escalate s).pending = m.pending := pending_noted m s
  unfold update
  dsimp only
  rw [hstate, h, if_neg Bool.false_ne_true, hpending]
  rfl

theorem update_of_clear (h : s.fault = false) :
    m.update s =
      if m.pending = some .disable then
        { m.noted s with pending := none, active := none }.transition .disabled
      else (m.noted s).advance s :=
  update_of_not_entered (by rw [h, Bool.false_and])

end Noted

end Machine

end Motion
end ServoLink
