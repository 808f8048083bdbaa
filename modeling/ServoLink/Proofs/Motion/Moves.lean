import ServoLink.Proofs.Motion.ClosedLoop

/-!
# Moves — a completed move ends at its target

The machine knows a completed move by the 4-bit count that the drive echoes, so the count of a move
has to be one that the drive does not hold.  The invariant (`Loop.Invariant`) ties the two counts
together: at rest they agree, or the machine has the drive's count from its echo; in a move, a drive
that holds the count is bound for the target or has a fault.

* `Loop.Invariant.driven` — the drive's half of a cycle keeps the invariant;
* `Loop.Invariant.step` — so does every change of the machine;
* `Loop.Invariant.run` — so it holds throughout every run;
* `Loop.Invariant.position_exchange` — the exchange that completes a move.
-/

namespace ServoLink
namespace Motion

open ProcessData

namespace Loop

/-! ## Invariant -/

/-- At rest the drive holds the count of the last command; if there was none, the machine has it
from the echo. -/
def Agreed (m : Machine) (d : Drive.Model) : Prop :=
  (m.active = none → m.echoedCount = some d.motionCount)
    ∧ (m.active.isSome → m.motionCount = d.motionCount)

/-- The machine sends the drive to the target; once the drive holds the count, it is bound for the
target or has a fault. -/
def Pursues (m : Machine) (d : Drive.Model) (target : Position) : Prop :=
  m.stopping = false
    ∧ (∃ velocity acceleration deceleration,
        m.active = some (.goTo target velocity acceleration deceleration))
    ∧ (d.motionCount = m.motionCount → d.fault.isSome ∨ d.target = target.steps)

/-- What holds in the state the machine is in. -/
def Phase (l : Loop) : Prop :=
  match l.machine.state with
  | .disabled | .enabling | .faulted | .faultAcknowledge => l.machine.active = none
  | .ready | .homing => Agreed l.machine l.drive
  | .moving =>
      l.machine.active.isSome
        ∧ ∃ target, l.started = some (.moveTo target)
          ∧ (l.stopped = false → Pursues l.machine l.drive target)

structure Invariant (l : Loop) : Prop where
  held : l.drive.motionCount ≤ 15
  issued : l.machine.motionCount ≤ 15
  pending : ∀ command, l.machine.pending = some command → l.accepted = some command
  phase : l.Phase

theorem invariant_start (settings : MotionSettings) {drive : Drive.Model}
    (h : drive.motionCount ≤ 15) : (start settings drive).Invariant where
  held := h
  issued := UInt8.zero_le
  pending := by
    rintro command ⟨⟩
  phase := rfl

/-- A change that leaves the machine in its state, with the command that it sends. -/
theorem Phase.imp {l l' : Loop} (h : l.Phase) (hstate : l'.machine.state = l.machine.state)
    (hactive : l'.machine.active = l.machine.active) (hstarted : l'.started = l.started)
    (hstopped : l'.stopped = false → l.stopped = false)
    (hagreed : Agreed l.machine l.drive → Agreed l'.machine l'.drive)
    (hpursues : l.machine.state = .moving → ∀ target,
      Pursues l.machine l.drive target → Pursues l'.machine l'.drive target) : l'.Phase := by
  unfold Phase at h ⊢
  rw [hstate, hactive, hstarted]
  cases hphase : l.machine.state with
  | disabled | enabling | faulted | faultAcknowledge => simpa [hphase] using h
  | ready | homing =>
      rw [hphase] at h
      exact hagreed h
  | moving =>
      rw [hphase] at h
      rcases h with ⟨hsome, target, hcommand, hmove⟩
      refine ⟨hsome, target, hcommand, ?_⟩
      intro hrunning
      exact hpursues hphase target (hmove (hstopped hrunning))

/-! ### Faults and commands -/

theorem Invariant.inject {l : Loop} (h : l.Invariant) (faults : List (Drive.ErrorCode × Bool)) :
    (l.inject faults).Invariant := by
  induction faults generalizing l with
  | nil => exact h
  | cons fault rest ih =>
      have hphase : { l with drive := l.drive.inject fault.1 fault.2 }.Phase := by
        refine h.phase.imp rfl rfl rfl id id ?_
        intro _ target hpursues
        exact ⟨hpursues.1, hpursues.2.1, fun _ => Or.inl rfl⟩
      exact ih (l := { l with drive := l.drive.inject fault.1 fault.2 })
        ⟨h.held, h.issued, h.pending, hphase⟩

theorem Invariant.offer {l : Loop} (h : l.Invariant) (command : Option OperatorCommand) :
    (l.offer command).Invariant := by
  cases command with
  | none => exact h
  | some command =>
      rcases l.machine.submit_cases command with ⟨-, hsubmit⟩ | ⟨refusal, -, hsubmit⟩
      · simp only [Loop.offer, hsubmit]
        exact ⟨h.held, h.issued, fun c hc => hc, h.phase⟩
      · simp only [Loop.offer, hsubmit]
        rcases l.machine.push_eq (.commandRejected command.name l.machine.state) with
          ⟨events, hevents⟩
        rw [hevents]
        exact ⟨h.held, h.issued, h.pending, h.phase⟩

/-! ### The drive's half of a cycle -/

/-- A command that the drive holds already leaves its count alone. -/
theorem Agreed.motionCount_advance {l : Loop} (h : Agreed l.machine l.drive) :
    (l.drive.advance l.request).motionCount = l.drive.motionCount := by
  rcases l.drive.motionCount_advance l.request with hkept | ⟨motion, hmotion, htaken⟩
  · exact hkept
  · rw [motion_request] at hmotion
    cases hactive : l.machine.active with
    | none =>
        rw [hactive] at hmotion
        cases hmotion
    | some command =>
        rw [hactive] at hmotion
        cases hmotion
        rw [htaken]
        exact h.2 (by rw [hactive]; rfl)

theorem Invariant.driven {l : Loop} (h : l.Invariant) :
    { l with drive := l.drive.advance l.request }.Invariant := by
  refine ⟨?_, h.issued, h.pending, ?_⟩
  · show (l.drive.advance l.request).motionCount ≤ 15
    rcases l.drive.motionCount_advance l.request with hkept | ⟨motion, hmotion, htaken⟩
    · rw [hkept]
      exact h.held
    · rw [motion_request, Option.map_eq_some_iff] at hmotion
      rcases hmotion with ⟨command, -, rfl⟩
      rw [htaken]
      exact h.issued
  · refine h.phase.imp rfl rfl rfl id ?_ ?_
    · intro hagreed
      have hheld := hagreed.motionCount_advance
      simpa [Agreed, hheld] using hagreed
    · rintro hmoving target ⟨hunstopped, ⟨v, a, b, hsent⟩, hbound⟩
      refine ⟨hunstopped, ⟨v, a, b, hsent⟩, ?_⟩
      intro _
      have hcontrol := controlOf_request l l.drive
      rw [hmoving] at hcontrol
      have hmotion : l.request.motion = some ⟨l.machine.motionCount, .goTo target v a b⟩ := by
        rw [motion_request, hsent]
        rfl
      refine Drive.Model.heading_advance l.drive l.request ?_ ?_ ?_ hmotion hbound
      · rw [hcontrol]
        decide
      · rw [hcontrol]
        decide
      · rw [hcontrol]
        decide

/-! ### The machine's half -/

/-- A cycle that leaves the machine as it is. -/
theorem Invariant.noted {l : Loop} (h : l.Invariant) : (l.note l.machine.state).Invariant := by
  by_cases hmoving : l.machine.state = .moving
  · rw [hmoving, note_of_moving hmoving]
    refine ⟨h.held, h.issued, h.pending, h.phase.imp rfl rfl rfl ?_ id fun _ _ => id⟩
    intro hstopped
    rw [Bool.or_eq_false_iff] at hstopped
    exact hstopped.1
  · rwa [note_of_not_moving hmoving]

/-- The new machine keeps its last count, and has no new command pending. -/
def Quiet (m m' : Machine) : Prop :=
  m'.motionCount = m.motionCount ∧ (m'.pending = none ∨ m'.pending = m.pending)

theorem Quiet.transition {m m' : Machine} (h : Quiet m m') (target : MotionState) :
    Quiet m (m'.transition target) := by
  simpa [Quiet] using h

theorem Quiet.push {m m' : Machine} (h : Quiet m m') (event : Event) :
    Quiet m (m'.push event) := by
  simpa [Quiet] using h

theorem Quiet.enterFault {m m' : Machine} (h : Quiet m m') (reason : FaultReason) :
    Quiet m (m'.enterFault reason) := by
  refine ⟨?_, Or.inl (Machine.pending_enterFault m' reason)⟩
  rw [Machine.motionCount_enterFault]
  exact h.1

theorem Agreed.transition {m : Machine} {d : Drive.Model} (h : Agreed m d)
    (target : MotionState) : Agreed (m.transition target) d := by
  simpa [Agreed] using h

theorem Quiet.pending {l : Loop} {m' : Machine} (hquiet : Quiet l.machine m')
    (h : l.Invariant) (command : OperatorCommand) (hpending : m'.pending = some command) :
    l.accepted = some command := by
  rcases hquiet.2 with hnone | hkept
  · rw [hnone] at hpending
    cases hpending
  · exact h.pending command (hkept ▸ hpending)

/-- A step to a state without power. -/
theorem Invariant.toUnpowered {l : Loop} (h : l.Invariant) (m' : Machine)
    (hquiet : Quiet l.machine m') (hactive : m'.active = none)
    (hstate : m'.state ≠ .ready ∧ m'.state ≠ .homing ∧ m'.state ≠ .moving)
    (before : MotionState) : ({ l with machine := m' }.note before).Invariant := by
  rw [note_of_not_moving hstate.2.2]
  refine ⟨h.held, hquiet.1 ▸ h.issued, hquiet.pending h, ?_⟩
  unfold Phase
  cases hnew : m'.state with
  | disabled | enabling | faulted | faultAcknowledge => simpa [hnew] using hactive
  | ready => exact absurd hnew hstate.1
  | homing => exact absurd hnew hstate.2.1
  | moving => exact absurd hnew hstate.2.2

/-- A step to rest. -/
theorem Invariant.toRest {l : Loop} (h : l.Invariant) (m' : Machine)
    (hquiet : Quiet l.machine m') (hagreed : Agreed m' l.drive)
    (hstate : m'.state = .ready ∨ m'.state = .homing)
    (before : MotionState) : ({ l with machine := m' }.note before).Invariant := by
  have hmoving : m'.state ≠ .moving := by
    rcases hstate with hready | hhoming
    · simp [hready]
    · simp [hhoming]
  rw [note_of_not_moving hmoving]
  refine ⟨h.held, hquiet.1 ▸ h.issued, hquiet.pending h, ?_⟩
  unfold Phase
  rcases hstate with hready | hhoming
  · simpa [hready] using hagreed
  · simpa [hhoming] using hagreed

theorem Invariant.unpowered {l : Loop} (h : l.Invariant) (hstate : l.machine.state = .disabled
    ∨ l.machine.state = .enabling ∨ l.machine.state = .faulted
    ∨ l.machine.state = .faultAcknowledge) : l.machine.active = none := by
  have hphase := h.phase
  unfold Phase at hphase
  rcases hstate with hstate | hstate | hstate | hstate <;> simpa [hstate] using hphase

theorem Invariant.agreed {l : Loop} (h : l.Invariant)
    (hstate : l.machine.state = .ready ∨ l.machine.state = .homing) :
    Agreed l.machine l.drive := by
  have hphase := h.phase
  unfold Phase at hphase
  rcases hstate with hstate | hstate <;> simpa [hstate] using hphase

theorem Invariant.moving {l : Loop} (h : l.Invariant) (hstate : l.machine.state = .moving) :
    l.machine.active.isSome ∧ ∃ target, l.started = some (.moveTo target)
      ∧ (l.stopped = false → Pursues l.machine l.drive target) := by
  have hphase := h.phase
  unfold Phase at hphase
  simpa [hstate] using hphase

/-- At rest, the next count is new to the drive. -/
theorem Agreed.fresh {m : Machine} {d : Drive.Model} (h : Agreed m d) (hheld : d.motionCount ≤ 15)
    (command : Command) : (m.issue command).motionCount ≠ d.motionCount := by
  have hbase : (m.issue command).motionCount = Machine.nextCount d.motionCount := by
    unfold Machine.issue
    cases hactive : m.active with
    | none => simp [h.1 hactive]
    | some sent => simp [h.2 (by rw [hactive]; rfl)]
  rw [hbase]
  exact Machine.nextCount_ne hheld

/-- A step into a move. -/
theorem Invariant.toMove {l : Loop} (h : l.Invariant) {target : Position} {m : Machine}
    (hready : l.machine.state = .ready) (hpending : l.machine.pending = some (.moveTo target))
    (hmoving : m.state = .moving) (hnone : m.pending = none) (hunstopped : m.stopping = false)
    (hsent : ∃ velocity acceleration deceleration,
      m.active = some (.goTo target velocity acceleration deceleration)) (hle : m.motionCount ≤ 15)
    (hfresh : m.motionCount ≠ l.drive.motionCount) :
    ({ l with machine := m }.note l.machine.state).Invariant := by
  rw [note_of_started hmoving (by rw [hready]; decide)]
  refine ⟨h.held, hle, ?_, ?_⟩
  · intro command hcommand
    rw [show m.pending = some command from hcommand] at hnone
    cases hnone
  · unfold Phase
    simp only [hmoving]
    have hactive : m.active.isSome := by
      rcases hsent with ⟨v, a, b, hsent⟩
      rw [hsent]
      rfl
    refine ⟨hactive, target, h.pending _ hpending, ?_⟩
    intro _
    exact ⟨hunstopped, hsent, fun hheld => absurd hheld.symm hfresh⟩

/-- A step within a move that sends a stop, or sends what it sent. -/
theorem Invariant.inMove {l : Loop} (h : l.Invariant) (m' : Machine)
    (hmoving : l.machine.state = .moving) (hstate : m'.state = .moving)
    (hpending : m'.pending = none) (hle : m'.motionCount ≤ 15)
    (hsent : (∃ deceleration, m'.active = some (.stop deceleration))
      ∨ m'.active = l.machine.active ∧ m'.stopping = l.machine.stopping
        ∧ m'.motionCount = l.machine.motionCount) :
    ({ l with machine := m' }.note l.machine.state).Invariant := by
  rcases h.moving hmoving with ⟨hactive, target, hstarted, hpursues⟩
  rw [hmoving, note_of_moving hstate]
  refine ⟨h.held, hle, ?_, ?_⟩
  · intro command hcommand
    rw [show m'.pending = some command from hcommand] at hpending
    cases hpending
  · unfold Phase
    simp only [hstate]
    rcases hsent with ⟨deceleration, hstop⟩ | ⟨hsame, hstopping, hcount⟩
    · have hsome : m'.active.isSome := by
        rw [hstop]
        rfl
      refine ⟨hsome, target, hstarted, ?_⟩
      intro hstopped
      -- The stop is noted, so nothing is left to show.
      simp [sendsStop, Machine.output, hstop] at hstopped
    · have hsome : m'.active.isSome := by
        rw [hsame]
        exact hactive
      refine ⟨hsome, target, hstarted, ?_⟩
      intro hstopped
      rw [Bool.or_eq_false_iff] at hstopped
      have hmove := hpursues hstopped.1
      simpa [Pursues, hsame, hstopping, hcount] using hmove

/-- Every change of the machine keeps the invariant, if the status that brings it about echoes the
drive's count or none, and does echo it where the machine first comes to rest. -/
theorem Invariant.step {l : Loop} (h : l.Invariant) {s : AxisStatus} {m' : Machine}
    (hstep : Machine.Step l.machine s m')
    (hcount : ∀ count, s.motionCount = some count → count = l.drive.motionCount)
    (henabled : l.machine.state = .enabling → s.enabled →
      l.machine.echoedCount = some l.drive.motionCount) :
    ({ l with machine := m' }.note l.machine.state).Invariant := by
  have hsame : Quiet l.machine l.machine := ⟨rfl, Or.inr rfl⟩
  have hdropped : Quiet l.machine { l.machine with pending := none } := ⟨rfl, Or.inl rfl⟩
  cases hstep with
  | stay => exact h.noted
  -- To a state without power, where nothing is sent.
  | fault | enableTimeout | homingTimeout =>
      exact h.toUnpowered _ (hsame.enterFault _) (by simp) (by simp) _
  | disable =>
      have hquiet : Quiet l.machine { l.machine with pending := none, active := none } :=
        ⟨rfl, Or.inl rfl⟩
      exact h.toUnpowered _ (hquiet.transition _) (by simp) (by simp) _
  | enable hstate =>
      have hactive := h.unpowered (Or.inl hstate)
      exact h.toUnpowered _ (hdropped.transition _) (by simpa using hactive) (by simp) _
  | notReady hstate =>
      have hactive := h.unpowered (Or.inl hstate)
      exact h.toUnpowered _ (hdropped.push _) (by simpa using hactive) (by simp [hstate]) _
  | acknowledge hstate =>
      have hactive := h.unpowered (Or.inr (Or.inr (Or.inl hstate)))
      exact h.toUnpowered _ (hdropped.transition _) (by simpa using hactive) (by simp) _
  | cleared hstate =>
      have hactive := h.unpowered (Or.inr (Or.inr (Or.inr hstate)))
      have hquiet : Quiet l.machine { l.machine with fault := none } := ⟨rfl, Or.inr rfl⟩
      exact h.toUnpowered _ ((hquiet.push _).transition _) (by simpa using hactive) (by simp) _
  -- To rest: the counts agree, by the echo or because they did before.
  | enabled hstate hon =>
      have hactive := h.unpowered (Or.inr (Or.inl hstate))
      have hagreed : Agreed l.machine l.drive := by
        refine ⟨?_, ?_⟩
        · intro _
          exact henabled hstate hon
        · intro hsome
          rw [hactive] at hsome
          cases hsome
      exact h.toRest _ (hsame.transition _) (hagreed.transition _) (by simp) _
  | dropped hstate =>
      have hagreed := h.agreed (Or.inl hstate)
      exact h.toRest { l.machine with pending := none } hdropped hagreed (Or.inl hstate) _
  | home hstate =>
      have hagreed : Agreed { l.machine with pending := none } l.drive := h.agreed (Or.inl hstate)
      exact h.toRest _ (hdropped.transition _) (hagreed.transition _) (by simp) _
  | homingBegun hstate =>
      have hagreed := h.agreed (Or.inr hstate)
      have hquiet : Quiet l.machine { l.machine with sequence := l.machine.sequence.advance } :=
        ⟨rfl, Or.inr rfl⟩
      exact h.toRest { l.machine with sequence := l.machine.sequence.advance } hquiet hagreed
        (Or.inr hstate) _
  | homed hstate =>
      have hagreed := h.agreed (Or.inr hstate)
      exact h.toRest _ (hsame.transition _) (hagreed.transition _) (by simp) _
  | settled hstate hpending hsettled =>
      have hactive := (h.moving hstate).1
      have hheld := hcount _ (Machine.settled_iff.1 hsettled).1
      have hagreed : Agreed l.machine l.drive := by
        refine ⟨?_, ?_⟩
        · intro hnone
          rw [hnone] at hactive
          cases hactive
        · intro _
          exact hheld
      exact h.toRest _ (hsame.transition _) (hagreed.transition _) (by simp) _
  -- Into a move, and within one.
  | move target hstate hpending =>
      have hagreed : Agreed { l.machine with pending := none } l.drive := h.agreed (Or.inl hstate)
      have hfresh := hagreed.fresh h.held
      refine h.toMove hstate hpending ?_ ?_ ?_ ⟨_, _, _, Machine.active_transition _ _⟩ ?_ ?_
      · simp
      · simp
      · exact Machine.stopping_transition _ (by simp [hstate])
      · simpa using Machine.motionCount_issue_le _ _
      · simpa using hfresh _
  | stop hstate =>
      exact h.inMove _ hstate hstate rfl (Machine.nextCount_le _) (Or.inl ⟨_, rfl⟩)
  | stopAgain hstate =>
      exact h.inMove _ hstate hstate rfl h.issued (Or.inr ⟨rfl, rfl, rfl⟩)

/-! ### A cycle -/

/-- Noting a status that echoes the drive's count, if any. -/
theorem Invariant.observed {l : Loop} (h : l.Invariant) {s : AxisStatus}
    (hcount : ∀ count, s.motionCount = some count → count = l.drive.motionCount) :
    { l with machine := l.machine.noted s }.Invariant := by
  refine ⟨h.held, ?_, ?_, ?_⟩
  · simpa using h.issued
  · simpa using h.pending
  · refine h.phase.imp (Machine.state_noted _ _) (Machine.active_noted _ _) rfl id ?_ ?_
    · intro hagreed
      refine ⟨?_, by simpa using hagreed.2⟩
      intro hnone
      rw [Machine.active_noted] at hnone
      rw [Machine.echoedCount_noted]
      cases hechoed : s.motionCount with
      | none => simpa using hagreed.1 hnone
      | some count => simp [hcount count hechoed]
    · intro _ target hpursues
      simpa [Pursues] using hpursues

theorem Invariant.exchange {l : Loop} (h : l.Invariant) (fate : Fate) :
    ((l.exchange fate).note l.machine.state).Invariant := by
  cases fate with
  | requestLost => exact h.noted
  | statusLost => exact h.driven.noted
  | delivered =>
      have hcount : ∀ count, l.answer.motionCount = some count →
          count = (l.drive.advance l.request).motionCount :=
        fun _ => l.motionCount_answer
      have hobserved := h.driven.observed hcount
      have hstep := Machine.update_step l.machine l.answer
      have hafter := hobserved.step hstep hcount ?_
      · simp only [Machine.state_noted] at hafter
        exact hafter
      · intro hstate henabled
        rw [Machine.state_noted] at hstate
        have hechoed := l.motionCount_answer_of_enabled henabled (by rw [hstate]; decide)
        rw [Machine.echoedCount_noted, hechoed]
        rfl

theorem Invariant.cycle {l : Loop} (h : l.Invariant) (c : Cycle) : (l.cycle c).Invariant := by
  have hoffered := (h.inject c.faults).offer c.command
  have hafter := hoffered.exchange c.fate
  rwa [state_offer] at hafter

/-- The invariant holds throughout every run. -/
theorem Invariant.run {l : Loop} (h : l.Invariant) (cycles : List Cycle) :
    (l.run cycles).Invariant := by
  induction cycles generalizing l with
  | nil => exact h
  | cons c rest ih => exact ih (h.cycle c)

/-! ## Completed moves -/

/-- The exchange that completes a move finds the drive at its target. -/
theorem Invariant.position_exchange {l : Loop} (h : l.Invariant) {fate : Fate}
    (hmoving : l.machine.state = .moving) (hstopped : l.stopped = false)
    (hready : (l.exchange fate).machine.state = .ready) :
    ∃ target, l.started = some (.moveTo target)
      ∧ (l.exchange fate).drive.position = target.steps := by
  cases fate with
  | requestLost | statusLost =>
      rw [show l.machine.state = .ready from hready] at hmoving
      cases hmoving
  | delivered =>
      rcases h.driven.moving hmoving with ⟨-, target, hstarted, hpursues⟩
      rcases hpursues hstopped with ⟨hunstopped, -, hbound⟩
      refine ⟨target, hstarted, ?_⟩
      have hstep := Machine.update_step l.machine l.answer
      have hsettled := hstep.settled_of_ready (by rw [Machine.state_noted]; exact hmoving) hready
      rcases Machine.settled_iff.1 hsettled with ⟨hcount, -, hrest⟩
      rw [Machine.motionCount_noted] at hcount
      have hheld := l.motionCount_answer hcount
      have htarget : (l.drive.advance l.request).inTarget := by
        rw [Machine.stopping_noted, hunstopped] at hrest
        rw [answer, Drive.Model.inTarget_answer _ rfl] at hrest
        simpa using hrest
      rcases Drive.Model.position_of_inTarget htarget with ⟨henabled, hposition⟩
      have hfault := Drive.Model.fault_of_enabled_advance l.drive l.request henabled
      show (l.drive.advance l.request).position = target.steps
      rw [hposition]
      rcases hbound hheld.symm with hfaulted | htarget
      · rw [hfault] at hfaulted
        cases hfaulted
      · exact htarget

/-- In every run from a new machine, a move that comes to rest without a stop ends where the command
that started it said. -/
theorem position_of_completed_move (settings : MotionSettings) {drive : Drive.Model}
    (hheld : drive.motionCount ≤ 15) (cycles : List Cycle) (last : Cycle)
    (hmoving : ((start settings drive).run cycles).machine.state = .moving)
    (hready : (((start settings drive).run cycles).cycle last).machine.state = .ready)
    (hstopped : ((start settings drive).run cycles).stopped = false) :
    ∃ target, ((start settings drive).run cycles).started = some (.moveTo target)
      ∧ (((start settings drive).run cycles).cycle last).drive.position = target.steps := by
  have hinvariant := (invariant_start settings hheld).run cycles
  generalize (start settings drive).run cycles = l at *
  have hoffered := (hinvariant.inject last.faults).offer last.command
  simp only [cycle, machine_note, drive_note] at hready ⊢
  rcases hoffered.position_exchange (by rw [state_offer]; exact hmoving)
    (by rw [stopped_offer]; exact hstopped) hready with ⟨target, hstarted, hposition⟩
  rw [started_offer] at hstarted
  exact ⟨target, hstarted, hposition⟩

/-- The drive holds the count 1 from before; a request and an answer are lost on the way. -/
theorem position_of_completed_move_lossy :
    ∃ target, ((start {} { speed := 400, homingFrames := 3, stopFrames := 0, motionCount := 1 }).run
        [{ command := some .enable }, {}, { command := some (.moveTo ⟨1000⟩) },
          { fate := .requestLost }, { fate := .statusLost }, {}]).started = some (.moveTo target)
      ∧ (((start {} { speed := 400, homingFrames := 3, stopFrames := 0, motionCount := 1 }).run
        [{ command := some .enable }, {}, { command := some (.moveTo ⟨1000⟩) },
          { fate := .requestLost }, { fate := .statusLost }, {}]).cycle {}).drive.position
            = target.steps :=
  position_of_completed_move {} (by decide) _ _ (by decide +kernel) (by decide +kernel)
    (by decide +kernel)

end Loop

end Motion
end ServoLink
