import Mathlib.Data.List.Induction
import ServoLink.Proofs.Drive.Model

/-!
# Homing — a run of the drive, from the rising home bit to the reference

A homing run is a list of frames (`Model.HomingRun`): the home bit rises with the first of them, all
hold it, the drive has power throughout, and they are as many as a run takes.  Frames that hold the
bit and ask for no new motion count the run down and leave the drive at its reference once it is
over.

* `Model.advance_homing` — a frame that homes is a frame of the run, and a frame's way;
* `Model.progress_run` — where the run stands after any number of frames;
* `Model.homing_answer` — what the answer tells of the run.
-/

namespace ServoLink
namespace Drive

open ProcessData

namespace Model

/-- The drive once it has handled some frames. -/
def run (d : Model) (frames : List ControlRequest) : Model := frames.foldl advance d

theorem run_concat (d : Model) (frames : List ControlRequest) (frame : ControlRequest) :
    d.run (frames ++ [frame]) = (d.run frames).advance frame := by
  simp [run]

theorem run_append (d : Model) (frames later : List ControlRequest) :
    d.run (frames ++ later) = (d.run frames).run later :=
  List.foldl_append

/-- The frames are a complete homing run of the drive. -/
structure HomingRun (d : Model) (frames : List ControlRequest) : Prop where
  rises : d.lastControl.contains ControlWord.home = false
  begun : frames ≠ []
  held : ∀ frame ∈ frames, ∃ control, frame.control = some control
    ∧ control.contains ControlWord.home
  powered : ∀ first, first <+: frames → first ≠ [] → (d.run first).enabled
  complete : d.homingFrames ≤ frames.length

/-- Homed, with power and without a fault, at rest in the reference. -/
structure AtReference (d : Model) : Prop where
  homed : d.homed
  enabled : d.enabled
  fault : d.fault = none
  position : d.position = 0
  target : d.target = 0

/-- The frame holds the home bit, with power, and repeats at most the command of the given count. -/
structure Homes (count : UInt8) (frame : ControlRequest) : Prop where
  control : ∃ control, frame.control = some control ∧ control.contains ControlWord.home
    ∧ control.contains operateBits
  motion : ∀ motion, frame.motion = some motion → motion.count = count

/-! ## One frame -/

section Frame

variable {d : Model} {frame : ControlRequest} {control : ControlWord}

theorem stepCommand_of_held {motion : Option MotionCommand}
    (h : ∀ m, motion = some m → m.count = d.motionCount) : d.stepCommand motion = d := by
  cases motion with
  | none => rfl
  | some m => simp [stepCommand, h m rfl]

/-- A frame that homes finds a drive without a fault. -/
theorem advance_homing (hfault : d.fault = none) (hcontrol : frame.control = some control)
    (hoperate : control.contains operateBits)
    (hmotion : ∀ motion, frame.motion = some motion → motion.count = d.motionCount) :
    d.advance frame =
      ({ d with lastControl := control, enabled := true }.stepHoming control
        (control.difference d.lastControl)).travel := by
  have hword : d.controlOf frame = control := by
    rw [controlOf, hcontrol]
    rfl
  have hacknowledged : d.acknowledged frame = { d with lastControl := control } := by
    simp [acknowledged, acknowledge, hfault, hword]
  have hpowered : d.powered frame = { d with lastControl := control, enabled := true } := by
    simp [powered, hacknowledged, hfault, hword, hoperate]
  -- The command, if any, is one that the drive holds.
  have hheld : ∀ motion, frame.motion = some motion →
      motion.count = ({ d with lastControl := control, enabled := true }.stepHoming control
        (control.difference d.lastControl)).motionCount := by
    intro motion hsent
    rw [motionCount_stepHoming]
    exact hmotion motion hsent
  rw [advance_eq, hpowered, if_pos rfl, hword, stepCommand_of_held hheld]

/-- At the target the drive stays where it is. -/
theorem travel_of_rest (hspeed : 0 ≤ d.speed.toInt) (hrest : d.position = d.target) :
    d.travel = d := by
  have hremaining : d.remaining = 0 := by
    simp [remaining, hrest, Saturating.sub32]
    decide
  have hclamp : clampInt (-d.speed.toInt) d.speed.toInt 0 = 0 := by
    unfold clampInt
    omega
  simp [travel, hremaining, hclamp, moved]

end Frame

/-! ## The run -/

/-- Frames that home leave the count alone. -/
theorem motionCount_run {d : Model} {frames : List ControlRequest}
    (h : ∀ frame ∈ frames, Homes d.motionCount frame) :
    (d.run frames).motionCount = d.motionCount := by
  induction frames generalizing d with
  | nil => rfl
  | cons frame rest ih =>
      have hfirst : (d.advance frame).motionCount = d.motionCount := by
        rcases d.motionCount_advance frame with hkept | ⟨motion, hmotion, htaken⟩
        · exact hkept
        · rw [htaken]
          exact (h frame List.mem_cons_self).motion motion hmotion
      have hrest : ∀ other ∈ rest, Homes (d.advance frame).motionCount other := by
        intro other hother
        rw [hfirst]
        exact h other (List.mem_cons_of_mem _ hother)
      exact (ih hrest).trans hfirst

/-- The drive `d'` is what the run makes of `d` in so many frames. -/
structure Progress (d : Model) (frames : Nat) (d' : Model) : Prop where
  fault : d'.fault = none
  enabled : d'.enabled
  motionCount : d'.motionCount = d.motionCount
  speed : d'.speed = d.speed
  lastControl : d'.lastControl.contains ControlWord.home
  left : d'.homingRemaining = some (d.homingFrames - frames)
  homed : d'.homed = decide (d.homingFrames ≤ frames)
  reference : d'.homed → d'.position = 0 ∧ d'.target = 0

section Run

variable {d d' : Model} {frame : ControlRequest} {frames : List ControlRequest}

/-- A frame's way leads away from no reference. -/
theorem Progress.travel {count : Nat} (h : Progress d count d') (hspeed : 0 ≤ d.speed.toInt) :
    Progress d count d'.travel where
  fault := h.fault
  enabled := h.enabled
  motionCount := h.motionCount
  speed := h.speed
  lastControl := h.lastControl
  left := h.left
  homed := h.homed
  reference hdone := by
    have hreference := h.reference hdone
    rw [← h.speed] at hspeed
    rw [travel_of_rest hspeed (hreference.1.trans hreference.2.symm)]
    exact hreference

/-- The run starts when the bit rises. -/
theorem Homes.progress (h : Homes d.motionCount frame) (hfault : d.fault = none)
    (hlow : d.lastControl.contains ControlWord.home = false) (hspeed : 0 ≤ d.speed.toInt) :
    Progress d 1 (d.advance frame) := by
  rcases h.control with ⟨control, hcontrol, hhome, hoperate⟩
  have hrising : (control.difference d.lastControl).contains ControlWord.home := by
    rw [Word.contains_difference (by decide), hhome, hlow]
    rfl
  rw [advance_homing hfault hcontrol hoperate h.motion]
  refine Progress.travel ?_ hspeed
  -- A run of one frame at most is over with its first.
  by_cases hshort : d.homingFrames ≤ 1
  · have hleft : d.homingFrames - 1 = 0 := Nat.sub_eq_zero_of_le hshort
    have hstep : { d with lastControl := control, enabled := true }.stepHoming control
        (control.difference d.lastControl) =
          { d with
            lastControl := control, enabled := true, homed := true, homingRemaining := some 0
            position := 0, target := 0 } := by
      simp [stepHoming, hhome, hrising, hleft]
    rw [hstep]
    exact ⟨hfault, rfl, rfl, rfl, hhome, by rw [hleft], by simp [hshort], fun _ => ⟨rfl, rfl⟩⟩
  · have hleft : d.homingFrames - 1 ≠ 0 := by omega
    have hstep : { d with lastControl := control, enabled := true }.stepHoming control
        (control.difference d.lastControl) =
          { d with
            lastControl := control, enabled := true, homed := false
            homingRemaining := some (d.homingFrames - 1) } := by
      simp [stepHoming, hhome, hrising, hleft]
    rw [hstep]
    exact ⟨hfault, rfl, rfl, rfl, hhome, rfl, by simpa using hshort, by rintro ⟨⟩⟩

/-- A frame that holds the bit counts down. -/
theorem Progress.advance {count : Nat} (h : Progress d count d') (hspeed : 0 ≤ d.speed.toInt)
    (hhomes : Homes d.motionCount frame) : Progress d (count + 1) (d'.advance frame) := by
  rcases hhomes.control with ⟨control, hcontrol, hhome, hoperate⟩
  have hrising : (control.difference d'.lastControl).contains ControlWord.home = false := by
    rw [Word.contains_difference (by decide), h.lastControl]
    simp
  have hmotion := hhomes.motion
  rw [← h.motionCount] at hmotion
  have hleft : d.homingFrames - count - 1 = d.homingFrames - (count + 1) := by omega
  rw [advance_homing h.fault hcontrol hoperate hmotion]
  refine Progress.travel ?_ hspeed
  by_cases hlast : d.homingFrames - (count + 1) = 0 ∧ d'.homed = false
  · -- The last frame of the run takes the reference.
    have hstep : { d' with lastControl := control, enabled := true }.stepHoming control
        (control.difference d'.lastControl) =
          { d' with
            lastControl := control, enabled := true, homed := true, homingRemaining := some 0
            position := 0, target := 0 } := by
      simp [stepHoming, hhome, hrising, h.left, hleft, hlast.1, hlast.2]
    rw [hstep]
    refine ⟨h.fault, rfl, h.motionCount, h.speed, hhome, by rw [hlast.1], ?_, fun _ => ⟨rfl, rfl⟩⟩
    simpa using Nat.le_of_sub_eq_zero hlast.1
  · have hstep : { d' with lastControl := control, enabled := true }.stepHoming control
        (control.difference d'.lastControl) =
          { d' with
            lastControl := control, enabled := true
            homingRemaining := some (d.homingFrames - (count + 1)) } := by
      simp [stepHoming, hhome, hrising, h.left, hleft, hlast]
    rw [hstep]
    refine ⟨h.fault, rfl, h.motionCount, h.speed, hhome, rfl, ?_, h.reference⟩
    -- The run was over before, or goes on.
    show d'.homed = _
    rw [h.homed] at hlast ⊢
    rw [decide_eq_decide]
    simp only [decide_eq_false_iff_not] at hlast
    omega

/-- Where the run stands after some frames. -/
theorem progress_run (hfault : d.fault = none)
    (hlow : d.lastControl.contains ControlWord.home = false) (hspeed : 0 ≤ d.speed.toInt)
    (hframes : ∀ frame ∈ frames, Homes d.motionCount frame) (hbegun : frames ≠ []) :
    Progress d frames.length (d.run frames) := by
  -- On the last frame: the first one starts the run, every other counts down.
  induction frames using List.reverseRecOn with
  | nil => exact absurd rfl hbegun
  | append_singleton first frame ih =>
      have hlast := hframes frame (by simp)
      rw [run_concat, List.length_append]
      by_cases hnone : first = []
      · subst hnone
        exact hlast.progress hfault hlow hspeed
      · have hfirst := ih (fun other hother => hframes other (by simp [hother])) hnone
        exact hfirst.advance hspeed hlast

/-- Frames that home a drive without a fault, and are enough, are a homing run. -/
theorem homingRun_of_homes (hfault : d.fault = none)
    (hlow : d.lastControl.contains ControlWord.home = false) (hspeed : 0 ≤ d.speed.toInt)
    (hframes : ∀ frame ∈ frames, Homes d.motionCount frame) (hbegun : frames ≠ [])
    (hcomplete : d.homingFrames ≤ frames.length) : d.HomingRun frames where
  rises := hlow
  begun := hbegun
  held frame hframe := by
    rcases (hframes frame hframe).control with ⟨control, hcontrol, hhome, -⟩
    exact ⟨control, hcontrol, hhome⟩
  powered first hfirst hnonempty := by
    have hall : ∀ frame ∈ first, Homes d.motionCount frame :=
      fun frame hframe => hframes frame (hfirst.subset hframe)
    exact (progress_run hfault hlow hspeed hall hnonempty).enabled
  complete := hcomplete

/-- A run that is over leaves the drive at its reference. -/
theorem Progress.atReference {count : Nat} (h : Progress d count d')
    (hover : d.homingFrames ≤ count) : d'.AtReference := by
  have hhomed : d'.homed := by
    rw [h.homed]
    exact decide_eq_true hover
  have hreference := h.reference hhomed
  exact ⟨hhomed, h.enabled, h.fault, hreference.1, hreference.2⟩

end Run

/-! ## The answer -/

/-- The homing state is reported while a run is under way, and holds when it is over. -/
theorem homing_answer (d : Model) {request : ControlRequest}
    (h : request.response = ResponseSections.standard) :
    (Motion.AxisStatus.ofResponse (d.status request)).homing =
      if d.fault.isNone && d.enabled then d.homingRemaining.map (· == 0) else none := by
  simp only [Motion.AxisStatus.ofResponse, (status_standard d h).2, Motion.AxisStatus.homing?,
    state]
  grind

end Model
end Drive
end ServoLink
