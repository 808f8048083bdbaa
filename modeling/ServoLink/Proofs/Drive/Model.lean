import ServoLink.Drive.Model
import ServoLink.Motion.Machine
import ServoLink.Proofs.ProcessData.Flags

/-!
# Drive model — what a control frame does, and what the answer tells

The step of the model is taken apart by what the axis relies on: when the drive is enabled, which
count it holds, and where it is bound.  The answer to a request for the standard sections tells the
axis exactly the fields read here.

* `Model.enabled_advance` — powered means no fault, and a control word that operates;
* `Model.fault_advance_of_not_rising`, `Model.fault_advance_of_rising` — the acknowledge bit clears a
  fault when it rises, and only then;
* `Model.motionCount_advance` — the count is the one held, or that of the request;
* `Model.heading_advance` — a request that repeats a move keeps the drive bound for its target.
-/

namespace ServoLink
namespace Drive

open ProcessData

namespace Model

/-! ## Parts of the step -/

section Parts

variable (d : Model) (control rising : ControlWord) (motion : Option MotionCommand)

/-- An acknowledge touches the fault only. -/
theorem acknowledge_eq : ∃ fault, d.acknowledge rising = { d with fault } := by
  unfold acknowledge
  split
  · exact ⟨none, rfl⟩
  · exact ⟨d.fault, rfl⟩

@[simp] theorem motionCount_acknowledge :
    (d.acknowledge rising).motionCount = d.motionCount := by
  rcases d.acknowledge_eq rising with ⟨fault, h⟩
  simp [h]

@[simp] theorem target_acknowledge : (d.acknowledge rising).target = d.target := by
  rcases d.acknowledge_eq rising with ⟨fault, h⟩
  simp [h]

@[simp] theorem position_acknowledge : (d.acknowledge rising).position = d.position := by
  rcases d.acknowledge_eq rising with ⟨fault, h⟩
  simp [h]

@[simp] theorem fatal_acknowledge : (d.acknowledge rising).fatal = d.fatal := by
  rcases d.acknowledge_eq rising with ⟨fault, h⟩
  simp [h]

@[simp] theorem lastControl_acknowledge :
    (d.acknowledge rising).lastControl = d.lastControl := by
  rcases d.acknowledge_eq rising with ⟨fault, h⟩
  simp [h]

@[simp] theorem speed_acknowledge : (d.acknowledge rising).speed = d.speed := by
  rcases d.acknowledge_eq rising with ⟨fault, h⟩
  simp [h]

@[simp] theorem stopFrames_acknowledge : (d.acknowledge rising).stopFrames = d.stopFrames := by
  rcases d.acknowledge_eq rising with ⟨fault, h⟩
  simp [h]

/-- A frame of a homing run touches the run and, at its end, the reference. -/
theorem stepHoming_eq : ∃ homed homingRemaining position target,
    d.stepHoming control rising = { d with homed, homingRemaining, position, target } := by
  unfold stepHoming
  split
  · exact ⟨_, _, _, _, rfl⟩
  · by_cases hrises : rising.contains ControlWord.home
    · -- A new run, which may end with its first frame.
      simp only [hrises, if_true]
      split
      · exact ⟨_, _, _, _, rfl⟩
      · exact ⟨_, _, _, _, rfl⟩
    · -- No run, or one that goes on.
      simp only [hrises, Bool.false_eq_true, if_false]
      split
      · exact ⟨_, _, _, _, rfl⟩
      · split
        · exact ⟨_, _, _, _, rfl⟩
        · exact ⟨_, _, _, _, rfl⟩

@[simp] theorem fault_stepHoming : (d.stepHoming control rising).fault = d.fault := by
  rcases d.stepHoming_eq control rising with ⟨homed, left, position, target, h⟩
  simp [h]

@[simp] theorem enabled_stepHoming : (d.stepHoming control rising).enabled = d.enabled := by
  rcases d.stepHoming_eq control rising with ⟨homed, left, position, target, h⟩
  simp [h]

@[simp] theorem motionCount_stepHoming :
    (d.stepHoming control rising).motionCount = d.motionCount := by
  rcases d.stepHoming_eq control rising with ⟨homed, left, position, target, h⟩
  simp [h]

@[simp] theorem fatal_stepHoming : (d.stepHoming control rising).fatal = d.fatal := by
  rcases d.stepHoming_eq control rising with ⟨homed, left, position, target, h⟩
  simp [h]

@[simp] theorem lastControl_stepHoming :
    (d.stepHoming control rising).lastControl = d.lastControl := by
  rcases d.stepHoming_eq control rising with ⟨homed, left, position, target, h⟩
  simp [h]

@[simp] theorem speed_stepHoming : (d.stepHoming control rising).speed = d.speed := by
  rcases d.stepHoming_eq control rising with ⟨homed, left, position, target, h⟩
  simp [h]

@[simp] theorem stopFrames_stepHoming :
    (d.stepHoming control rising).stopFrames = d.stopFrames := by
  rcases d.stepHoming_eq control rising with ⟨homed, left, position, target, h⟩
  simp [h]

theorem stepHoming_of_not_home (h : control.contains ControlWord.home = false) :
    d.stepHoming control rising = { d with homingRemaining := none } := by
  simp [stepHoming, h]

/-- A command touches the count and the target. -/
theorem stepCommand_eq :
    ∃ target, d.stepCommand motion =
      { d with motionCount := motion.elim d.motionCount (·.count), target } := by
  unfold stepCommand
  split
  · exact ⟨_, rfl⟩
  · rename_i motion
    split
    · rename_i hheld
      refine ⟨d.target, ?_⟩
      simp [hheld]
    · dsimp only
      split
      · exact ⟨_, rfl⟩
      · exact ⟨_, rfl⟩
      · exact ⟨_, rfl⟩
      · exact ⟨_, rfl⟩

@[simp] theorem fault_stepCommand : (d.stepCommand motion).fault = d.fault := by
  rcases d.stepCommand_eq motion with ⟨target, h⟩
  simp [h]

@[simp] theorem enabled_stepCommand : (d.stepCommand motion).enabled = d.enabled := by
  rcases d.stepCommand_eq motion with ⟨target, h⟩
  simp [h]

@[simp] theorem homingRemaining_stepCommand :
    (d.stepCommand motion).homingRemaining = d.homingRemaining := by
  rcases d.stepCommand_eq motion with ⟨target, h⟩
  simp [h]

@[simp] theorem fatal_stepCommand : (d.stepCommand motion).fatal = d.fatal := by
  rcases d.stepCommand_eq motion with ⟨target, h⟩
  simp [h]

@[simp] theorem lastControl_stepCommand :
    (d.stepCommand motion).lastControl = d.lastControl := by
  rcases d.stepCommand_eq motion with ⟨target, h⟩
  simp [h]

@[simp] theorem speed_stepCommand : (d.stepCommand motion).speed = d.speed := by
  rcases d.stepCommand_eq motion with ⟨target, h⟩
  simp [h]

@[simp] theorem stopFrames_stepCommand : (d.stepCommand motion).stopFrames = d.stopFrames := by
  rcases d.stepCommand_eq motion with ⟨target, h⟩
  simp [h]

theorem motionCount_stepCommand :
    (d.stepCommand motion).motionCount = motion.elim d.motionCount (·.count) := by
  rcases d.stepCommand_eq motion with ⟨target, h⟩
  simp [h]

@[simp] theorem motionCount_travel : d.travel.motionCount = d.motionCount := rfl

@[simp] theorem fault_travel : d.travel.fault = d.fault := rfl

@[simp] theorem enabled_travel : d.travel.enabled = d.enabled := rfl

@[simp] theorem homingRemaining_travel : d.travel.homingRemaining = d.homingRemaining := rfl

@[simp] theorem target_travel : d.travel.target = d.target := rfl

@[simp] theorem fatal_travel : d.travel.fatal = d.fatal := rfl

@[simp] theorem speed_travel : d.travel.speed = d.speed := rfl

@[simp] theorem stopFrames_travel : d.travel.stopFrames = d.stopFrames := rfl

@[simp] theorem lastControl_travel : d.travel.lastControl = d.lastControl := rfl

/-- Nothing but an acknowledge bit clears a fault. -/
theorem fault_acknowledge (h : rising.contains ControlWord.errorAcknowledge = false) :
    (d.acknowledge rising).fault = d.fault := by
  simp [acknowledge, h]

end Parts

/-! ## The step -/

section Step

variable (d : Model) (request : ControlRequest)

/-- The control word a request is carried out with. -/
def controlOf : ControlWord := request.control.getD d.lastControl

/-- The drive before power is decided on. -/
def acknowledged : Model :=
  { d with lastControl := d.controlOf request }.acknowledge
    ((d.controlOf request).difference d.lastControl)

/-- The drive with its power decided on. -/
def powered : Model :=
  { d.acknowledged request with
    enabled := (d.acknowledged request).fault.isNone
      && (d.controlOf request).contains operateBits }

@[simp] theorem fatal_powered : (d.powered request).fatal = d.fatal := by
  simp [powered, acknowledged]

@[simp] theorem position_powered : (d.powered request).position = d.position := by
  simp [powered, acknowledged]

@[simp] theorem target_powered : (d.powered request).target = d.target := by
  simp [powered, acknowledged]

@[simp] theorem motionCount_powered : (d.powered request).motionCount = d.motionCount := by
  simp [powered, acknowledged]

@[simp] theorem lastControl_powered : (d.powered request).lastControl = d.controlOf request := by
  simp [powered, acknowledged]

@[simp] theorem speed_powered : (d.powered request).speed = d.speed := by
  simp [powered, acknowledged]

@[simp] theorem stopFrames_powered : (d.powered request).stopFrames = d.stopFrames := by
  simp [powered, acknowledged]

/-- A step without power, and one with it. -/
theorem advance_eq :
    d.advance request =
      if (d.powered request).enabled then
        (((d.powered request).stepHoming (d.controlOf request)
          ((d.controlOf request).difference d.lastControl)).stepCommand request.motion).travel
      else
        { d.powered request with
          homingRemaining := none
          target := (d.powered request).position } :=
  rfl

theorem fault_advance : (d.advance request).fault = (d.acknowledged request).fault := by
  rw [advance_eq]
  split
  · simp
    rfl
  · rfl

@[simp] theorem fatal_advance : (d.advance request).fatal = d.fatal := by
  rw [advance_eq]
  split
  · simp
  · simp

/-- No frame changes how fast the drive travels. -/
theorem speed_advance : (d.advance request).speed = d.speed := by
  rw [advance_eq]
  split
  · simp
  · simp

/-- No frame changes how long a stop lasts. -/
theorem stopFrames_advance : (d.advance request).stopFrames = d.stopFrames := by
  rw [advance_eq]
  split
  · simp
  · simp

/-- The control word is kept for the next request. -/
@[simp] theorem lastControl_advance :
    (d.advance request).lastControl = d.controlOf request := by
  rw [advance_eq]
  split
  · simp
  · simp

/-- A step brings no fault about. -/
theorem fault_advance_of_none (h : d.fault = none) : (d.advance request).fault = none := by
  rw [fault_advance]
  simp [acknowledged, acknowledge, h]

/-- An acknowledge bit that is not rising leaves the fault. -/
theorem fault_advance_of_not_rising
    (h : (d.controlOf request).contains ControlWord.errorAcknowledge = false
      ∨ d.lastControl.contains ControlWord.errorAcknowledge) :
    (d.advance request).fault = d.fault := by
  have hrising : ((d.controlOf request).difference d.lastControl).contains
      ControlWord.errorAcknowledge = false := by
    rw [Word.contains_difference (by decide)]
    rcases h with hcontrol | hheld
    · rw [hcontrol, Bool.false_and]
    · rw [hheld, Bool.not_true, Bool.and_false]
  rw [fault_advance, acknowledged, fault_acknowledge _ _ hrising]

/-- A rising acknowledge bit clears a fault that is not fatal. -/
theorem fault_advance_of_rising (hfatal : d.fatal = false)
    (hcontrol : (d.controlOf request).contains ControlWord.errorAcknowledge)
    (hlow : d.lastControl.contains ControlWord.errorAcknowledge = false) :
    (d.advance request).fault = none := by
  have hrising : ((d.controlOf request).difference d.lastControl).contains
      ControlWord.errorAcknowledge := by
    rw [Word.contains_difference (by decide), hcontrol, hlow]
    rfl
  rw [fault_advance, acknowledged, acknowledge]
  cases hfault : d.fault with
  | none => simp
  | some code => simp [hfatal, hrising]

theorem enabled_advance :
    (d.advance request).enabled =
      ((d.advance request).fault.isNone && (d.controlOf request).contains operateBits) := by
  rw [fault_advance, advance_eq]
  split
  · simp
    rfl
  · rfl

theorem fault_of_enabled_advance (h : (d.advance request).enabled) :
    (d.advance request).fault = none := by
  rw [enabled_advance, Bool.and_eq_true, Option.isNone_iff_eq_none] at h
  exact h.1

/-- The count held is kept, or taken over from the request. -/
theorem motionCount_advance :
    (d.advance request).motionCount = d.motionCount
      ∨ ∃ motion, request.motion = some motion
          ∧ (d.advance request).motionCount = motion.count := by
  rw [advance_eq]
  split
  · -- Nothing before the command looks at the count.
    simp only [motionCount_travel, motionCount_stepCommand, motionCount_stepHoming,
      motionCount_powered]
    cases request.motion with
    | none => exact Or.inl rfl
    | some motion => exact Or.inr ⟨motion, rfl, rfl⟩
  · exact Or.inl (motionCount_powered d request)

theorem homingRemaining_advance (h : (d.controlOf request).contains ControlWord.home = false) :
    (d.advance request).homingRemaining = none := by
  rw [advance_eq]
  split
  · rw [stepHoming_of_not_home _ _ _ h]
    simp
  · rfl

/-- A request that repeats a move.  If the drive already holds its count, then it is bound for the
target or has a fault; so it is after the step. -/
theorem heading_advance {count : UInt8} {target : Position} {v : Velocity} {a b : Acceleration}
    (hoperate : (d.controlOf request).contains operateBits)
    (hhome : (d.controlOf request).contains ControlWord.home = false)
    (hacknowledge : (d.controlOf request).contains ControlWord.errorAcknowledge = false)
    (hmotion : request.motion = some ⟨count, .goTo target v a b⟩)
    (hheading : d.motionCount = count → d.fault.isSome ∨ d.target = target.steps) :
    (d.advance request).fault.isSome ∨ (d.advance request).target = target.steps := by
  have hfault := d.fault_advance_of_not_rising request (Or.inl hacknowledge)
  cases hnone : d.fault with
  | some code =>
      -- The fault stays, since nothing acknowledges it.
      left
      rw [hfault, hnone]
      rfl
  | none =>
      right
      have hpowered : (d.powered request).enabled := by
        have hkept : (d.acknowledged request).fault = none := by
          rw [← fault_advance, hfault, hnone]
        simp [powered, hkept, hoperate]
      rw [advance_eq, if_pos hpowered, target_travel, stepHoming_of_not_home _ _ _ hhome, hmotion]
      by_cases hheld : d.motionCount = count
      · -- The command was taken before, so the target stays.
        have hbound : d.target = target.steps := by
          rcases hheading hheld with hfaulted | hbound
          · rw [hnone] at hfaulted
            cases hfaulted
          · exact hbound
        simp [stepCommand, powered, acknowledged, hheld, hbound]
      · have hnew : count ≠ d.motionCount := fun h => hheld h.symm
        simp [stepCommand, powered, acknowledged, hnew]

end Step

theorem position_of_inTarget {d : Model} (h : d.inTarget) : d.enabled ∧ d.position = d.target := by
  simp only [inTarget, motionActive] at h
  grind

/-! ## The answer -/

section Word

variable (d : Model) (control : ControlWord)

theorem contains_error_statusWord :
    (d.statusWord control).contains StatusWord.error = d.fault.isSome := by
  simp +decide (disch := decide) only [statusWord, Word.contains_or, Word.contains_onlyIf,
    Word.contains_bit]
  simp

theorem contains_fatalError_statusWord :
    (d.statusWord control).contains StatusWord.fatalError = (d.fault.isSome && d.fatal) := by
  simp +decide (disch := decide) only [statusWord, Word.contains_or, Word.contains_onlyIf,
    Word.contains_bit]
  simp

theorem contains_operationEnabled_statusWord :
    (d.statusWord control).contains StatusWord.operationEnabled = d.enabled := by
  simp +decide (disch := decide) only [statusWord, Word.contains_or, Word.contains_onlyIf,
    Word.contains_bit]
  simp

theorem contains_inTargetPosition_statusWord :
    (d.statusWord control).contains StatusWord.inTargetPosition = d.inTarget := by
  simp +decide (disch := decide) only [statusWord, Word.contains_or, Word.contains_onlyIf,
    Word.contains_bit]
  simp

/-- An error state is reported exactly when there is a fault. -/
theorem isSome_stateError_state :
    (Motion.AxisStatus.stateError? (some (d.state control))).isSome = d.fault.isSome := by
  cases hfault : d.fault with
  | some code => simp [state, hfault, Motion.AxisStatus.stateError?]
  | none =>
      simp only [state, hfault]
      split
      · split <;> rfl
      · split <;> rfl

end Word

section Answer

open Motion

variable (d : Model) {request : ControlRequest} (h : request.response = ResponseSections.standard)

include h

theorem asked_standard {α : Type} {which : ResponseSections}
    (hwhich : ResponseSections.standard.contains which) (value : α) :
    asked request which value = some value := by
  rw [asked, h, if_pos hwhich]

theorem status_standard :
    (d.status request).status = some (d.statusWord d.lastControl)
      ∧ (d.status request).state = some (d.state d.lastControl) :=
  ⟨asked_standard h (by decide) _, asked_standard h (by decide) _⟩

theorem enabled_answer : (AxisStatus.ofResponse (d.status request)).enabled = d.enabled := by
  simp [AxisStatus.ofResponse, (status_standard d h).1, contains_operationEnabled_statusWord]

theorem inTarget_answer : (AxisStatus.ofResponse (d.status request)).inTarget = d.inTarget := by
  simp [AxisStatus.ofResponse, (status_standard d h).1, contains_inTargetPosition_statusWord]

theorem fatal_answer :
    (AxisStatus.ofResponse (d.status request)).fatal = (d.fault.isSome && d.fatal) := by
  simp [AxisStatus.ofResponse, (status_standard d h).1, contains_fatalError_statusWord]

/-- The answer tells of a fault exactly when there is one. -/
theorem fault_answer :
    (AxisStatus.ofResponse (d.status request)).fault = d.fault.isSome := by
  -- The fatal bit, the error bit and the error state tell the same, or less.
  have htold : (AxisStatus.ofResponse (d.status request)).fault
      = ((d.fault.isSome && d.fatal) || d.fault.isSome || d.fault.isSome) := by
    simp only [AxisStatus.ofResponse, status_standard d h, Option.getD_some,
      contains_fatalError_statusWord, contains_error_statusWord, isSome_stateError_state]
  rw [htold]
  cases d.fault.isSome <;> simp

/-- The echoed count, if any, is the one the drive holds. -/
theorem motionCount_answer :
    (AxisStatus.ofResponse (d.status request)).motionCount =
      if d.fault.isNone && d.enabled && d.homingRemaining.isNone then some d.motionCount
      else none := by
  simp only [AxisStatus.ofResponse, (status_standard d h).2, AxisStatus.echoedCount?, state]
  grind

end Answer

end Model

end Drive
end ServoLink
