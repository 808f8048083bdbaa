import Mathlib.Algebra.Order.Floor.Div
import ServoLink.Proofs.Drive.Arithmetic
import ServoLink.Proofs.Drive.Homing

/-!
# Kinematics — where the drive goes, frame by frame

A frame with power first homes, then takes a command, then travels: from its origin, which is the
position or the reference, toward the target, by the speed at most.  A frame without power stands
still.  So the distance to a target that stays shrinks by the speed in each frame, and a stop, which
leaves as much of it as some frames travel, is over after as many.

* `Model.distance_advance` — what a frame with power leaves of the distance;
* `Model.distance_after` — what any number of inputs leaves of it while the target stays;
* `Model.Rated.arrives` — when a drive is at its target that is asked for nothing new;
* `Model.kinematic` — what holds of every drive, after any inputs.
-/

namespace ServoLink
namespace Drive

open ProcessData

namespace Model

/-! ## The reference -/

/-- The frame is the last of a homing run. -/
def endsRun (d : Model) (control rising : ControlWord) : Bool :=
  control.contains ControlWord.home &&
    if rising.contains ControlWord.home then decide (d.homingFrames ≤ 1)
    else !d.homed && d.homingRemaining.any (· ≤ 1)

section Reference

variable (d : Model) (control rising : ControlWord)

/-- The last frame of a run takes the reference; no other frame moves the drive before it travels. -/
theorem stepHoming_cases :
    d.endsRun control rising = true
        ∧ d.stepHoming control rising =
          { d with homed := true, homingRemaining := some 0, position := 0, target := 0 }
      ∨ d.endsRun control rising = false
        ∧ ∃ homed homingRemaining,
          d.stepHoming control rising = { d with homed, homingRemaining } := by
  unfold stepHoming endsRun
  cases control.contains ControlWord.home with
  | false => exact Or.inr ⟨rfl, _, _, rfl⟩
  | true =>
      cases rising.contains ControlWord.home with
      | true =>
          by_cases hshort : d.homingFrames ≤ 1
          · left
            have hleft : d.homingFrames - 1 = 0 := Nat.sub_eq_zero_of_le hshort
            simp [hshort, hleft]
          · right
            have hleft : d.homingFrames - 1 ≠ 0 := by omega
            simp [hshort, hleft]
      | false =>
          cases hrun : d.homingRemaining with
          | none =>
              right
              have hsame : { d with homingRemaining := none } = d := by rw [← hrun]
              refine ⟨by simp, d.homed, none, ?_⟩
              rw [hsame]
              simp [hrun]
          | some frames =>
              by_cases hlast : frames ≤ 1 ∧ d.homed = false
              · left
                have hleft : frames - 1 = 0 := Nat.sub_eq_zero_of_le hlast.1
                simp [hrun, hlast.1, hlast.2, hleft]
              · right
                have hleft : ¬(frames - 1 = 0 ∧ d.homed = false) :=
                  fun h => hlast ⟨Nat.le_of_sub_eq_zero h.1, h.2⟩
                refine ⟨by simpa using fun hhomed hshort => hlast ⟨hshort, hhomed⟩, ?_⟩
                simp [hrun, hleft]

end Reference

/-! ## One frame -/

/-- The drive of a frame with power, before it takes a command. -/
def prepared (m : Model) (request : ControlRequest) : Model :=
  (m.powered request).stepHoming (m.controlOf request)
    ((m.controlOf request).difference m.lastControl)

/-- The frame ends a homing run, so that the drive takes its reference. -/
def takesReference (m : Model) (request : ControlRequest) : Bool :=
  (m.powered request).enabled
    && (m.powered request).endsRun (m.controlOf request)
      ((m.controlOf request).difference m.lastControl)

/-- Where the way of a frame begins. -/
def origin (m : Model) (request : ControlRequest) : Int32 :=
  if m.takesReference request then 0 else m.position

/-- Where the way of a frame leads if no command changes it. -/
def destination (m : Model) (request : ControlRequest) : Int32 :=
  if m.takesReference request then 0 else m.target

/-- The drive travels so far in a frame, and a stop lasts so many frames. -/
structure Rated (speed stopFrames : Nat) (m : Model) : Prop where
  positive : 1 ≤ speed
  speed : m.speed.toInt = speed
  stopFrames : m.stopFrames = stopFrames

section Frame

variable {m : Model} {request : ControlRequest} {speed stopFrames : Nat}

/-- Nothing after the powering switches the drive on or off. -/
theorem enabled_advance_eq : (m.advance request).enabled = (m.powered request).enabled := by
  rw [advance_eq]
  split
  · simp
  · rfl

theorem advance_of_enabled (h : (m.advance request).enabled) :
    m.advance request = ((m.prepared request).stepCommand request.motion).travel := by
  rw [enabled_advance_eq] at h
  rw [advance_eq, if_pos h]
  rfl

/-- Without power the drive stands still. -/
theorem advance_of_not_enabled (h : (m.advance request).enabled = false) :
    (m.advance request).position = m.position ∧ (m.advance request).target = m.position := by
  rw [enabled_advance_eq] at h
  rw [advance_eq, h, if_neg Bool.false_ne_true]
  exact ⟨position_powered m request, position_powered m request⟩

theorem takesReference_of_not_enabled (h : (m.advance request).enabled = false) :
    m.takesReference request = false := by
  rw [takesReference, ← enabled_advance_eq, h, Bool.false_and]

/-- A prepared drive stands at the origin, bound for the destination. -/
theorem prepared_eq (h : (m.advance request).enabled) :
    ∃ homed homingRemaining, m.prepared request =
      { m.powered request with
        homed, homingRemaining, position := m.origin request, target := m.destination request } := by
  rw [enabled_advance_eq] at h
  unfold prepared origin destination takesReference
  rw [h, Bool.true_and]
  rcases stepHoming_cases (m.powered request) (m.controlOf request)
    ((m.controlOf request).difference m.lastControl) with ⟨hends, hstep⟩ | ⟨hends, homed, left, hstep⟩
  · exact ⟨true, some 0, by simp [hends, hstep]⟩
  · refine ⟨homed, left, ?_⟩
    rw [hends, hstep, if_neg Bool.false_ne_true, if_neg Bool.false_ne_true]
    congr 1
    · exact position_powered m request
    · exact target_powered m request

/-- The drive takes its reference only at the end of a homing run. -/
theorem homed_of_takesReference (h : m.takesReference request) :
    (m.advance request).homed ∧ (m.advance request).homingRemaining = some 0 := by
  rw [takesReference, Bool.and_eq_true] at h
  have henabled : (m.advance request).enabled := by rw [enabled_advance_eq, h.1]
  rcases stepHoming_cases (m.powered request) (m.controlOf request)
    ((m.controlOf request).difference m.lastControl) with ⟨-, hstep⟩ | ⟨hends, -⟩
  · rw [advance_of_enabled henabled, prepared, hstep]
    rcases stepCommand_eq { m.powered request with
      homed := true, homingRemaining := some 0, position := 0, target := 0 } request.motion with
      ⟨target, hcommand⟩
    rw [hcommand]
    exact ⟨rfl, rfl⟩
  · rw [hends] at h
    cases h.2

/-- A frame with power travels from its origin. -/
theorem position_advance (h : (m.advance request).enabled) :
    ∃ d : Model, d.position = m.origin request ∧ d.target = (m.advance request).target
      ∧ d.speed = m.speed ∧ (m.advance request).position = d.approach d.speed.toInt := by
  rcases prepared_eq h with ⟨homed, left, hprepared⟩
  rcases stepCommand_eq (m.prepared request) request.motion with ⟨target, hcommand⟩
  refine ⟨(m.prepared request).stepCommand request.motion, ?_, ?_, ?_, ?_⟩
  · rw [hcommand, hprepared]
  · rw [advance_of_enabled h, target_travel]
  · rw [speed_stepCommand, hprepared]
    exact speed_powered m request
  · rw [advance_of_enabled h]
    rfl

/-- What a frame with power leaves of the way to its target, and how far it goes. -/
theorem distance_advance (hrated : m.Rated speed stopFrames) (h : (m.advance request).enabled) :
    Between (m.origin request).toInt (m.advance request).target.toInt
        (m.advance request).position.toInt
      ∧ ((m.advance request).position.toInt - (m.origin request).toInt).natAbs ≤ speed
      ∧ (m.advance request).distance =
        ((m.advance request).target.toInt - (m.origin request).toInt).natAbs - speed := by
  rcases position_advance h with ⟨d, horigin, htarget, hspeed, hposition⟩
  have hnumber : d.speed.toInt = speed := by rw [hspeed, hrated.speed]
  have hpositive : 0 ≤ d.speed.toInt := by omega
  have hbetween := between_approach d hpositive d.speed.toInt_le
  have hfar := natAbs_approach_sub d hpositive d.speed.toInt_le
  have hleft := natAbs_sub_approach d hpositive d.speed.toInt_le
  rw [← hposition, horigin, htarget] at hbetween
  rw [← hposition, horigin] at hfar
  rw [← hposition, distance, horigin, htarget] at hleft
  rw [hnumber, Int.toNat_natCast] at hfar hleft
  exact ⟨hbetween, hfar ▸ Nat.min_le_right _ _, hleft⟩

end Frame

/-! ## Commands -/

/-- The frame brings no new command. -/
def Repeats (count : UInt8) (request : ControlRequest) : Prop :=
  ∀ motion, request.motion = some motion → motion.count = count

/-- The frame finds the drive with power and brings it a stop that is new. -/
structure Stops (m : Model) (request : ControlRequest) : Prop where
  enabled : (m.advance request).enabled
  motion : ∃ count deceleration,
    request.motion = some ⟨count, .stop deceleration⟩ ∧ count ≠ m.motionCount

section Commands

variable {m : Model} {request : ControlRequest} {speed stopFrames : Nat}

/-- Without a new command the frame leads to its destination. -/
theorem Repeats.target (h : Repeats m.motionCount request) (henabled : (m.advance request).enabled) :
    (m.advance request).target = m.destination request := by
  rcases prepared_eq henabled with ⟨homed, left, hprepared⟩
  have hcount : (m.prepared request).motionCount = m.motionCount := by
    rw [hprepared]
    exact motionCount_powered m request
  have hheld : (m.prepared request).stepCommand request.motion = m.prepared request :=
    stepCommand_of_held (by rwa [hcount])
  rw [advance_of_enabled henabled, hheld, target_travel, hprepared]

/-- Without a new command a frame shortens the way by the speed, if not by more. -/
theorem Repeats.distance (h : Repeats m.motionCount request) (hrated : m.Rated speed stopFrames) :
    (m.advance request).distance ≤ m.distance - speed := by
  cases henabled : (m.advance request).enabled with
  | false =>
      rcases advance_of_not_enabled henabled with ⟨hposition, htarget⟩
      simp [Model.distance, hposition, htarget]
  | true =>
      rw [(distance_advance hrated henabled).2.2, h.target henabled]
      unfold destination origin
      split
      · simp
      · exact Nat.le_refl _

theorem Repeats.motionCount (h : Repeats m.motionCount request) :
    (m.advance request).motionCount = m.motionCount := by
  rcases m.motionCount_advance request with hkept | ⟨motion, hmotion, htaken⟩
  · exact hkept
  · rw [htaken]
    exact h motion hmotion

/-- A stop leaves as much of the way as its frames travel. -/
theorem Stops.target (h : m.Stops request) (hrated : m.Rated speed stopFrames) :
    Between (m.origin request).toInt (m.destination request).toInt
        (m.advance request).target.toInt
      ∧ ((m.advance request).target.toInt - (m.origin request).toInt).natAbs ≤
        speed * stopFrames := by
  rcases prepared_eq h.enabled with ⟨homed, left, hprepared⟩
  rcases h.motion with ⟨count, deceleration, hmotion, hnew⟩
  have hcount : count ≠ (m.prepared request).motionCount := by
    rw [hprepared]
    simpa using hnew
  have hcommand : (m.advance request).target =
      approach { m.prepared request with motionCount := count } (m.prepared request).coast := by
    rw [advance_of_enabled h.enabled, target_travel, hmotion, stepCommand, if_neg hcount]
    rfl
  have hspeed : (m.prepared request).speed = m.speed := by
    rw [hprepared]
    exact speed_powered m request
  have hstop : (m.prepared request).stopFrames = stopFrames := by
    rw [hprepared]
    exact (stopFrames_powered m request).trans hrated.stopFrames
  have hpositive := hrated.positive
  rcases coast_bounds (m := m.prepared request) (by rw [hspeed, hrated.speed]; omega) with
    ⟨hnonneg, hfits, hcoast⟩
  rw [hspeed, hrated.speed, Int.toNat_natCast, hstop] at hcoast
  have hbetween := between_approach { m.prepared request with motionCount := count } hnonneg hfits
  have hfar := natAbs_approach_sub { m.prepared request with motionCount := count } hnonneg hfits
  rw [← hcommand] at hbetween hfar
  have horigin : (m.prepared request).position = m.origin request := by rw [hprepared]
  have hdestination : (m.prepared request).target = m.destination request := by rw [hprepared]
  dsimp only at hbetween hfar
  rw [horigin, hdestination] at hbetween
  rw [horigin] at hfar
  exact ⟨hbetween, hfar ▸ Nat.le_trans (Nat.min_le_right _ _) hcoast⟩

end Commands

/-! ## Many frames -/

/-- What happens to a drive: a control frame, or a fault. -/
inductive Input where
  | request (request : ControlRequest)
  | fault (code : ErrorCode) (fatal : Bool)
  deriving DecidableEq, Repr

def handle (m : Model) : Input → Model
  | .request request => m.advance request
  | .fault code fatal => m.inject code fatal

/-- The drive after some inputs. -/
def after (m : Model) (inputs : List Input) : Model := inputs.foldl handle m

/-- How many of the inputs are control frames. -/
def frames : List Input → Nat
  | [] => 0
  | .request _ :: rest => frames rest + 1
  | .fault _ _ :: rest => frames rest

/-- No input brings a new command. -/
def Quiet (count : UInt8) (inputs : List Input) : Prop :=
  ∀ request, .request request ∈ inputs → Repeats count request

/-- Each frame finds the drive with power, bound for the target, and none ends a homing run. -/
def UnderWay (target : Int32) (m : Model) : List Input → Prop
  | [] => True
  | .request request :: rest =>
      (m.advance request).enabled ∧ (m.advance request).target = target
        ∧ m.takesReference request = false ∧ UnderWay target (m.advance request) rest
  | .fault code fatal :: rest => UnderWay target (m.inject code fatal) rest

section Run

variable {m : Model} {speed stopFrames : Nat}

theorem Rated.handle (h : m.Rated speed stopFrames) (input : Input) :
    (m.handle input).Rated speed stopFrames := by
  cases input with
  | request request =>
      exact ⟨h.positive, (congrArg _ (m.speed_advance request)).trans h.speed,
        (m.stopFrames_advance request).trans h.stopFrames⟩
  | fault code fatal => exact ⟨h.positive, h.speed, h.stopFrames⟩

theorem Rated.after (h : m.Rated speed stopFrames) (inputs : List Input) :
    (m.after inputs).Rated speed stopFrames := by
  induction inputs generalizing m with
  | nil => exact h
  | cons input rest ih => exact ih (h.handle input)

/-- While the target stays, the way shrinks by the speed in each frame. -/
theorem distance_after {target : Int32} {inputs : List Input} (hrated : m.Rated speed stopFrames)
    (hbound : m.target = target) (h : UnderWay target m inputs) :
    (m.after inputs).target = target
      ∧ (m.after inputs).distance = m.distance - speed * frames inputs := by
  induction inputs generalizing m with
  | nil => exact ⟨hbound, rfl⟩
  | cons input rest ih =>
      cases input with
      | request request =>
          rcases h with ⟨henabled, htarget, hreference, hrest⟩
          have hstep : (m.advance request).distance = m.distance - speed := by
            rw [(distance_advance hrated henabled).2.2, htarget, origin, hreference,
              if_neg Bool.false_ne_true, ← hbound]
            rfl
          rcases ih (hrated.handle (.request request)) htarget hrest with ⟨hkept, hleft⟩
          refine ⟨hkept, hleft.trans ?_⟩
          calc (m.advance request).distance - speed * frames rest
              = m.distance - (speed + speed * frames rest) := by rw [hstep, Nat.sub_sub]
            _ = m.distance - speed * (frames rest + 1) := by rw [Nat.mul_succ, Nat.add_comm]
      | fault code fatal => exact ih (hrated.handle (.fault code fatal)) hbound h

/-- Without a new command the way shrinks by the speed in each frame, if not by more. -/
theorem distance_after_le {inputs : List Input} (hrated : m.Rated speed stopFrames)
    (h : Quiet m.motionCount inputs) :
    (m.after inputs).distance ≤ m.distance - speed * frames inputs := by
  induction inputs generalizing m with
  | nil => exact Nat.le_refl _
  | cons input rest ih =>
      have hrest : Quiet m.motionCount rest :=
        fun request hrequest => h request (List.mem_cons_of_mem _ hrequest)
      cases input with
      | request request =>
          have hrepeats := h request List.mem_cons_self
          have hquiet : Quiet (m.advance request).motionCount rest := by
            rw [hrepeats.motionCount]
            exact hrest
          calc ((m.advance request).after rest).distance
              ≤ (m.advance request).distance - speed * frames rest :=
                ih (hrated.handle (.request request)) hquiet
            _ ≤ m.distance - speed - speed * frames rest :=
                Nat.sub_le_sub_right (hrepeats.distance hrated) _
            _ = m.distance - speed * (frames rest + 1) := by
                rw [Nat.sub_sub, Nat.mul_succ, Nat.add_comm]
      | fault code fatal => exact ih (hrated.handle (.fault code fatal)) hrest

theorem distance_eq_zero : m.distance = 0 ↔ m.position = m.target := by
  rw [distance, Int.natAbs_eq_zero, Int.sub_eq_zero, Int32.toInt_inj]
  exact eq_comm

end Run

/-! ## Every drive -/

/-- How a drive moves that travels so far in a frame, and that a stop lets travel so many frames. -/
structure Kinematic (speed stopFrames : Nat) (m : Model) : Prop where
  positive : 1 ≤ speed
  /-- No operation of a frame overflows. -/
  exact : ∀ request, m.advance? request = some (m.advance request)
  /-- Without power, or with a fault, the drive stands still. -/
  resting : ∀ request, ((m.advance request).enabled = false ∨ (m.advance request).fault.isSome) →
    (m.advance request).position = m.position ∧ (m.advance request).target = m.position
  /-- A frame goes toward the target, from the position or from the reference. -/
  travelling : ∀ request,
    Between (m.origin request).toInt (m.advance request).target.toInt
        (m.advance request).position.toInt
      ∧ ((m.advance request).position.toInt - (m.origin request).toInt).natAbs ≤ speed
  /-- The reference is taken at the end of a homing run. -/
  referenced : ∀ request, m.takesReference request →
    (m.advance request).homed ∧ (m.advance request).homingRemaining = some 0
  /-- A target that stays is reached after as many frames as the way takes, and no sooner. -/
  arriving : ∀ inputs, UnderWay m.target m inputs →
    ((m.after inputs).position = m.target ↔
      (m.target.toInt - m.position.toInt).natAbs ⌈/⌉ speed ≤ frames inputs)
  /-- A stop shortens the way. -/
  stopping : ∀ request, m.Stops request →
    Between (m.origin request).toInt (m.destination request).toInt
        (m.advance request).target.toInt
      ∧ ((m.advance request).target.toInt - (m.origin request).toInt).natAbs ≤ speed * stopFrames
  /-- Unless a new command follows the stop, the drive soon stands still. -/
  stopped : ∀ request, m.Stops request → ∀ inputs,
    Quiet (m.advance request).motionCount inputs →
      max 1 stopFrames ≤ frames (.request request :: inputs) →
        (m.after (.request request :: inputs)).position =
          (m.after (.request request :: inputs)).target

section Every

variable {m : Model} {speed stopFrames : Nat}

theorem Rated.travelling (h : m.Rated speed stopFrames) (request : ControlRequest) :
    Between (m.origin request).toInt (m.advance request).target.toInt
        (m.advance request).position.toInt
      ∧ ((m.advance request).position.toInt - (m.origin request).toInt).natAbs ≤ speed := by
  cases henabled : (m.advance request).enabled with
  | false =>
      rcases advance_of_not_enabled henabled with ⟨hposition, htarget⟩
      have hreference := takesReference_of_not_enabled henabled
      rw [hposition, htarget, origin, hreference, if_neg Bool.false_ne_true]
      unfold Between
      omega
  | true =>
      rcases distance_advance h henabled with ⟨hbetween, hfar, -⟩
      exact ⟨hbetween, hfar⟩

theorem Rated.stopped (h : m.Rated speed stopFrames) {request : ControlRequest}
    (hstops : m.Stops request) {inputs : List Input}
    (hquiet : Quiet (m.advance request).motionCount inputs)
    (hframes : max 1 stopFrames ≤ frames (.request request :: inputs)) :
    (m.after (.request request :: inputs)).distance = 0 := by
  have hcount : stopFrames ≤ 1 + frames inputs := by
    have : frames (.request request :: inputs) = frames inputs + 1 := rfl
    omega
  have hway : speed * stopFrames ≤ speed + speed * frames inputs :=
    calc speed * stopFrames ≤ speed * (1 + frames inputs) := Nat.mul_le_mul_left _ hcount
      _ = speed + speed * frames inputs := by rw [Nat.mul_add, Nat.mul_one]
  refine Nat.eq_zero_of_le_zero ?_
  calc (m.after (.request request :: inputs)).distance
      ≤ (m.advance request).distance - speed * frames inputs :=
        distance_after_le (h.handle (.request request)) hquiet
    _ = ((m.advance request).target.toInt - (m.origin request).toInt).natAbs - speed
          - speed * frames inputs := by rw [(distance_advance h hstops.enabled).2.2]
    _ ≤ speed * stopFrames - speed - speed * frames inputs :=
        Nat.sub_le_sub_right (Nat.sub_le_sub_right (hstops.target h).2 _) _
    _ = 0 := by omega

theorem Rated.arriving (h : m.Rated speed stopFrames) {inputs : List Input}
    (hway : UnderWay m.target m inputs) :
    (m.after inputs).position = m.target ↔ m.distance ⌈/⌉ speed ≤ frames inputs := by
  rcases distance_after h rfl hway with ⟨htarget, hdistance⟩
  calc (m.after inputs).position = m.target
      ↔ (m.after inputs).distance = 0 := by rw [distance_eq_zero, htarget]
    _ ↔ m.distance ≤ speed * frames inputs := by rw [hdistance, Nat.sub_eq_zero_iff_le]
    _ ↔ m.distance ⌈/⌉ speed ≤ frames inputs := (ceilDiv_le_iff_le_mul h.positive).symm

/-- The frame asks for power, for no homing run, and for no new command. -/
structure Continues (count : UInt8) (request : ControlRequest) : Prop where
  control : ∃ control, request.control = some control ∧ control.contains operateBits
    ∧ control.contains ControlWord.home = false
  repeats : Repeats count request

/-- Frames that ask for nothing new let a drive without a fault go on. -/
theorem underWay_of_continues {requests : List ControlRequest} (hfault : m.fault = none)
    (h : ∀ request ∈ requests, Continues m.motionCount request) :
    UnderWay m.target m (requests.map .request) := by
  induction requests generalizing m with
  | nil => trivial
  | cons request rest ih =>
      rcases h request List.mem_cons_self with ⟨⟨control, hcontrol, hoperate, hhome⟩, hrepeats⟩
      have hword : m.controlOf request = control := by
        rw [controlOf, hcontrol]
        rfl
      have hnone := m.fault_advance_of_none request hfault
      have henabled : (m.advance request).enabled := by
        rw [enabled_advance, hnone, hword, hoperate]
        rfl
      have hreference : m.takesReference request = false := by
        rw [takesReference, endsRun, hword, hhome, Bool.false_and, Bool.and_false]
      have htarget : (m.advance request).target = m.target := by
        rw [hrepeats.target henabled, destination, hreference, if_neg Bool.false_ne_true]
      refine ⟨henabled, htarget, hreference, ?_⟩
      rw [← htarget]
      refine ih hnone ?_
      rw [hrepeats.motionCount]
      exact fun other hother => h other (List.mem_cons_of_mem _ hother)

theorem after_requests (m : Model) (requests : List ControlRequest) :
    m.after (requests.map .request) = m.run requests := by
  induction requests generalizing m with
  | nil => rfl
  | cons request rest ih => exact ih (m.advance request)

theorem frames_requests (requests : List ControlRequest) :
    frames (requests.map .request) = requests.length := by
  induction requests with
  | nil => rfl
  | cons request rest ih => exact congrArg (· + 1) ih

/-- A drive without a fault that is asked for nothing new is at its target after as many frames as
the way takes, and no sooner. -/
theorem Rated.arrives (h : m.Rated speed stopFrames) {requests : List ControlRequest}
    (hfault : m.fault = none) (hrequests : ∀ request ∈ requests, Continues m.motionCount request) :
    (m.run requests).position = m.target ↔ m.distance ⌈/⌉ speed ≤ requests.length := by
  have harriving := h.arriving (underWay_of_continues hfault hrequests)
  rwa [after_requests, frames_requests] at harriving

/-- A drive with the given options, somewhere, and bound for somewhere. -/
def placed (o : Options) (position target : Int32) : Model :=
  { Model.new o with position, target }

theorem rated_placed (o : Options) (position target : Int32) :
    (placed o position target).Rated (max o.speed.toInt 1).toNat o.stopFrames.toNat where
  positive := by omega
  speed := by
    show (if o.speed < 1 then (1 : Int32) else o.speed).toInt = _
    split
    · rename_i hslow
      have hslow := Int32.lt_iff_toInt_lt.1 hslow
      have hone : (1 : Int32).toInt = 1 := rfl
      omega
    · rename_i hfast
      have hfast := Int32.lt_iff_toInt_lt.not.1 hfast
      have hone : (1 : Int32).toInt = 1 := rfl
      omega
  stopFrames := rfl

/-- Whatever the options, the position and the target, and after any requests and faults, the drive
moves as it is rated: no frame overflows, and every stop ends. -/
theorem kinematic (o : Options) (position target : Int32) (inputs : List Input) :
    Kinematic (max o.speed.toInt 1).toNat o.stopFrames.toNat
      ((placed o position target).after inputs) := by
  have hrated := (rated_placed o position target).after inputs
  generalize (placed o position target).after inputs = m at *
  constructor
  case positive => exact hrated.positive
  case exact =>
    have hpositive := hrated.positive
    exact advance?_eq (by rw [hrated.speed]; omega)
  case resting =>
    rintro request (hpower | hfault)
    · exact advance_of_not_enabled hpower
    · have hnone : (m.advance request).enabled = false := by
        rw [enabled_advance]
        cases hfault' : (m.advance request).fault with
        | none => simp [hfault'] at hfault
        | some code => rfl
      exact advance_of_not_enabled hnone
  case travelling => exact hrated.travelling
  case referenced => exact fun request => homed_of_takesReference
  case arriving => exact fun inputs => hrated.arriving
  case stopping => exact fun request hstops => hstops.target hrated
  case stopped =>
    exact fun request hstops inputs hquiet hframes =>
      distance_eq_zero.1 (hrated.stopped hstops hquiet hframes)

end Every

end Model
end Drive
end ServoLink
