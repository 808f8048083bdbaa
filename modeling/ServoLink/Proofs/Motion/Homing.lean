import ServoLink.Proofs.Drive.Homing
import ServoLink.Proofs.Motion.Moves

/-!
# Homing — the machine takes no other run for the one it started

The machine is done with homing when the drive tells so, and the drive keeps telling so for as long
as the home bit stays up.  So the drive has to see the bit down between two runs, even when frames
are lost.  It does: the status that lets the machine home answers a request without the bit, and
from there on everything the drive handles belongs to the new run (`Loop.Homing`), unless a fault
cuts it short, which then stays until the machine hears of it.

* `Loop.Homing.cycle`, `Loop.exists_homing` — throughout a stay in the homing state;
* `Loop.homed_of_completed_homing` — the machine comes to rest with the drive at its reference.
-/

namespace ServoLink
namespace Motion

open ProcessData

namespace Loop

/-! ## What the drive handles -/

/-- The frame that the drive handles in a cycle, if it is not lost. -/
def handled (l : Loop) (c : Cycle) : List ControlRequest :=
  match c.fate with
  | .requestLost => []
  | .statusLost | .delivered => [((l.inject c.faults).offer c.command).request]

/-- The frames that the drive handles in some cycles. -/
def frames (l : Loop) : List Cycle → List ControlRequest
  | [] => []
  | c :: rest => l.handled c ++ (l.cycle c).frames rest

theorem run_concat (l : Loop) (cycles : List Cycle) (c : Cycle) :
    l.run (cycles ++ [c]) = (l.run cycles).cycle c := by
  simp [run]

theorem frames_concat (l : Loop) (cycles : List Cycle) (c : Cycle) :
    l.frames (cycles ++ [c]) = l.frames cycles ++ (l.run cycles).handled c := by
  induction cycles generalizing l with
  | nil => simp [frames, run]
  | cons first rest ih =>
      have hrest := ih (l.cycle first)
      calc l.frames (first :: (rest ++ [c]))
          = l.handled first ++ (l.cycle first).frames (rest ++ [c]) := rfl
        _ = l.handled first ++ ((l.cycle first).frames rest
              ++ ((l.cycle first).run rest).handled c) := by rw [hrest]
        _ = l.frames (first :: rest) ++ (l.run (first :: rest)).handled c := by
              simp [frames, run]

/-- Apart from faults, a cycle is to the drive the frame that it handles. -/
theorem drive_cycle (l : Loop) (c : Cycle) :
    (l.cycle c).drive = (l.inject c.faults).drive.run (l.handled c) := by
  unfold cycle handled
  rw [drive_note]
  cases c.fate with
  | requestLost => exact drive_offer _ _
  | statusLost | delivered =>
      have hoffered := (l.inject c.faults).drive_offer c.command
      show ((l.inject c.faults).offer c.command).drive.advance _ = _
      rw [hoffered]
      rfl

/-! ### Faults -/

@[simp] theorem motionCount_inject (l : Loop) (faults : List (Drive.ErrorCode × Bool)) :
    (l.inject faults).drive.motionCount = l.drive.motionCount := by
  induction faults generalizing l with
  | nil => rfl
  | cons fault rest ih => exact ih { l with drive := l.drive.inject fault.1 fault.2 }

/-- A cycle injects no fault, or leaves the drive with one. -/
theorem inject_eq_or_isSome (l : Loop) (faults : List (Drive.ErrorCode × Bool)) :
    l.inject faults = l ∨ (l.inject faults).drive.fault.isSome := by
  cases faults with
  | nil => exact Or.inl rfl
  | cons fault rest =>
      right
      exact isSome_fault_inject { l with drive := l.drive.inject fault.1 fault.2 } rest rfl

/-- A machine that acknowledges nothing leaves a fault as it is. -/
theorem fault_cycle (l : Loop) (c : Cycle) (h : l.machine.state ≠ .faultAcknowledge) :
    (l.cycle c).drive.fault = (l.inject c.faults).drive.fault := by
  have hoffered : ((l.inject c.faults).offer c.command).machine.state ≠ .faultAcknowledge := by
    rw [state_offer]
    exact h
  have hdriven := fault_driven _ (Or.inl hoffered)
  rw [drive_offer] at hdriven
  unfold cycle
  rw [drive_note]
  cases c.fate with
  | requestLost => exact congrArg Drive.Model.fault (drive_offer _ _)
  | statusLost | delivered => exact hdriven

/-! ## A stay in the homing state -/

/-- A machine that homes asks the drive for nothing else. -/
theorem Invariant.homes_request {l : Loop} (h : l.Invariant) (hstate : l.machine.state = .homing) :
    Drive.Model.Homes l.drive.motionCount l.request where
  control := by
    refine ⟨Machine.controlWord .homing, ?_, by decide, by decide⟩
    exact congrArg (fun state => some (Machine.controlWord state)) hstate
  motion := by
    intro motion hmotion
    rw [motion_request, Option.map_eq_some_iff] at hmotion
    rcases hmotion with ⟨command, hactive, rfl⟩
    exact (h.agreed (Or.inr hstate)).2 (by rw [hactive]; rfl)

theorem Invariant.homes_handled {l : Loop} (h : l.Invariant) (hstate : l.machine.state = .homing)
    (c : Cycle) : ∀ frame ∈ l.handled c, Drive.Model.Homes l.drive.motionCount frame := by
  have hoffered := (h.inject c.faults).offer c.command
  have hhomes := hoffered.homes_request (by rw [state_offer]; exact hstate)
  rw [drive_offer, motionCount_inject] at hhomes
  intro frame hframe
  unfold handled at hframe
  split at hframe
  · cases hframe
  · rw [List.mem_singleton.1 hframe]
    exact hhomes
  · rw [List.mem_singleton.1 hframe]
    exact hhomes

/-- The drive had no fault, and is where the frames of the cycles took it; all of them home. -/
structure Undisturbed (since : Loop) (cycles : List Cycle) : Prop where
  fault : since.drive.fault = none
  drive : (since.run cycles).drive = since.drive.run (since.frames cycles)
  homes : ∀ frame ∈ since.frames cycles, Drive.Model.Homes since.drive.motionCount frame

/-- The machine homes from `since` on and throughout the cycles.  At first the drive has the home
bit down; what it handles then is its run, unless it has a fault. -/
structure Homing (since : Loop) (cycles : List Cycle) : Prop where
  invariant : since.Invariant
  low : since.drive.lastControl.contains ControlWord.home = false
  state : ∀ first, first <+: cycles → (since.run first).machine.state = .homing
  drive : (since.run cycles).drive.fault.isSome ∨ since.Undisturbed cycles

section Homing

variable {since : Loop} {cycles : List Cycle}

/-- The machine begins to home on the status of a request without the home bit. -/
theorem homing_of_entered {l : Loop} (h : l.Invariant) {c : Cycle}
    (hbefore : l.machine.state ≠ .homing) (hafter : (l.cycle c).machine.state = .homing) :
    (l.cycle c).Homing [] := by
  have hlow : (l.cycle c).drive.lastControl.contains ControlWord.home = false := by
    rw [cycle, machine_note] at hafter
    rw [cycle, drive_note]
    have hoffered := (l.inject c.faults).state_offer c.command
    generalize (l.inject c.faults).offer c.command = l' at *
    rw [machine_inject] at hoffered
    cases hfate : c.fate with
    | requestLost | statusLost =>
        -- Without a status the machine stays where it was.
        rw [hfate] at hafter
        exact absurd (hoffered.symm.trans hafter) hbefore
    | delivered =>
        rw [hfate] at hafter
        have hready := (Machine.update_step l'.machine l'.answer).ready_of_homing
          (by rw [Machine.state_noted, hoffered]; exact hbefore) hafter
        rw [Machine.state_noted] at hready
        show l'.driven.lastControl.contains ControlWord.home = false
        rw [lastControl_driven, hready]
        decide
  refine ⟨h.cycle c, hlow, ?_, ?_⟩
  · intro first hfirst
    rw [List.prefix_nil.1 hfirst]
    exact hafter
  · cases hfault : (l.cycle c).drive.fault with
    | some code =>
        left
        show (l.cycle c).drive.fault.isSome
        rw [hfault]
        rfl
    | none =>
        right
        exact ⟨hfault, rfl, by rintro frame ⟨⟩⟩

/-- One more cycle begun in the homing state. -/
theorem Homing.drive_concat (h : since.Homing cycles) (c : Cycle) :
    (since.run (cycles ++ [c])).drive.fault.isSome ∨ since.Undisturbed (cycles ++ [c]) := by
  have hstate := h.state cycles List.prefix_rfl
  have hinvariant := h.invariant.run cycles
  have hfault := (since.run cycles).fault_cycle c (by rw [hstate]; decide)
  rw [run_concat]
  rcases (since.run cycles).inject_eq_or_isSome c.faults with hsame | hinjected
  · rw [hsame] at hfault
    rcases h.drive with hfaulted | hrun
    · left
      rw [hfault]
      exact hfaulted
    · right
      have hcount : (since.run cycles).drive.motionCount = since.drive.motionCount := by
        rw [hrun.drive]
        exact Drive.Model.motionCount_run hrun.homes
      refine ⟨hrun.fault, ?_, ?_⟩
      · rw [run_concat, drive_cycle, hsame, hrun.drive, frames_concat]
        exact (Drive.Model.run_append _ _ _).symm
      · intro frame hframe
        rw [frames_concat] at hframe
        rcases List.mem_append.1 hframe with hearlier | hlast
        · exact hrun.homes frame hearlier
        · rw [← hcount]
          exact hinvariant.homes_handled hstate c frame hlast
  · left
    rw [hfault]
    exact hinjected

theorem Homing.cycle (h : since.Homing cycles) {c : Cycle}
    (hstate : ((since.run cycles).cycle c).machine.state = .homing) :
    since.Homing (cycles ++ [c]) where
  invariant := h.invariant
  low := h.low
  state := by
    intro first hfirst
    rcases List.prefix_concat_iff.1 hfirst with rfl | hearlier
    · rw [run_concat]
      exact hstate
    · exact h.state first hearlier
  drive := h.drive_concat c

/-- While the machine homes, there was a cycle since which it does. -/
theorem exists_homing {l : Loop} (hinvariant : l.Invariant) (hstart : l.machine.state ≠ .homing)
    (cycles : List Cycle) (hstate : (l.run cycles).machine.state = .homing) :
    ∃ before within, cycles = before ++ within ∧ (l.run before).Homing within := by
  -- On the last cycle: it continues a stay in the homing state, or begins one.
  induction cycles using List.reverseRecOn with
  | nil => exact absurd hstate hstart
  | append_singleton rest c ih =>
      rw [run_concat] at hstate
      by_cases hrest : (l.run rest).machine.state = .homing
      · rcases ih hrest with ⟨before, within, rfl, hhoming⟩
        have hsplit : l.run (before ++ within) = (l.run before).run within := by simp [run]
        rw [hsplit] at hstate
        exact ⟨before, within ++ [c], List.append_assoc _ _ _, hhoming.cycle hstate⟩
      · have hentered := homing_of_entered (hinvariant.run rest) hrest hstate
        rw [← run_concat] at hentered
        exact ⟨rest ++ [c], [], (List.append_nil _).symm, hentered⟩

end Homing

/-! ## Completed runs -/

/-- A cycle that ends a stay at rest brought a status, which told of no fault and of a run that was
over. -/
theorem finished_of_ready {l : Loop} {last : Cycle} (hstate : l.machine.state = .homing)
    (hready : (l.cycle last).machine.state = .ready) :
    l.handled last ≠ [] ∧ (l.cycle last).drive.fault = none
      ∧ ((l.cycle last).drive.enabled → ∀ left,
          (l.cycle last).drive.homingRemaining = some left → left = 0) := by
  rw [cycle, machine_note] at hready
  rw [cycle, drive_note]
  have hoffered := (l.inject last.faults).state_offer last.command
  have hhandled : last.fate = .delivered →
      l.handled last = [((l.inject last.faults).offer last.command).request] := by
    intro hfate
    rw [handled, hfate]
  generalize (l.inject last.faults).offer last.command = l' at *
  rw [machine_inject, hstate] at hoffered
  cases hfate : last.fate with
  | requestLost | statusLost =>
      rw [hfate] at hready
      exact absurd (hoffered.symm.trans hready) (by decide)
  | delivered =>
      rw [hfate] at hready
      have hclear : l'.answer.fault = false := by
        by_contra htold
        have hfaulted := Machine.update_of_fault (m := l'.machine) (by simpa using htold)
          (by rw [hoffered]; rfl)
        have hafter : (l'.machine.update l'.answer).state = .faulted := by
          rw [hfaulted, Machine.state_enterFault]
        exact absurd (hafter.symm.trans hready) (by decide)
      have hnone : l'.driven.fault = none := by
        rw [fault_answer] at hclear
        simpa using hclear
      refine ⟨by rw [hhandled hfate]; simp, hnone, ?_⟩
      intro henabled left hleft
      have hanswer : l'.answer.homing = some (left == 0) := by
        have hasked : l'.request.response = ResponseSections.standard := rfl
        have htold := Drive.Model.homing_answer l'.driven hasked
        have hon : l'.driven.enabled := henabled
        have hremaining : l'.driven.homingRemaining = some left := hleft
        rw [hnone, hon, hremaining] at htold
        exact htold
      have hover := (Machine.update_step l'.machine l'.answer).homed_of_ready
        (by rw [Machine.state_noted, hoffered]) hready
      rw [hanswer] at hover
      simpa using hover

/-- A stay that ends at rest was a run of the drive. -/
theorem Homing.homingRun {since : Loop} {within : List Cycle} (h : since.Homing within)
    (hspeed : 0 ≤ since.drive.speed.toInt) {last : Cycle}
    (hready : ((since.run within).cycle last).machine.state = .ready) :
    since.drive.HomingRun (since.frames (within ++ [last]))
      ∧ ((since.run within).cycle last).drive = since.drive.run (since.frames (within ++ [last]))
      ∧ ((since.run within).cycle last).drive.AtReference := by
  rcases finished_of_ready (h.state within List.prefix_rfl) hready with
    ⟨hhandled, hnone, hfinished⟩
  have hbegun : since.frames (within ++ [last]) ≠ [] := by
    rw [frames_concat]
    simp [hhandled]
  have hafter := h.drive_concat last
  rw [run_concat] at hafter
  rcases hafter with hfaulted | hrun
  · -- A fault would have been told.
    rw [hnone] at hfaulted
    cases hfaulted
  · have hdrive := hrun.drive
    rw [run_concat] at hdrive
    have hprogress := Drive.Model.progress_run hrun.fault h.low hspeed hrun.homes hbegun
    rw [← hdrive] at hprogress
    have hover := hfinished hprogress.enabled _ hprogress.left
    have hcomplete : since.drive.homingFrames ≤ (since.frames (within ++ [last])).length :=
      Nat.le_of_sub_eq_zero hover
    exact ⟨Drive.Model.homingRun_of_homes hrun.fault h.low hspeed hrun.homes hbegun hcomplete,
      hdrive, hprogress.atReference hcomplete⟩

@[simp] theorem speed_inject (l : Loop) (faults : List (Drive.ErrorCode × Bool)) :
    (l.inject faults).drive.speed = l.drive.speed := by
  induction faults generalizing l with
  | nil => rfl
  | cons fault rest ih => exact ih { l with drive := l.drive.inject fault.1 fault.2 }

theorem speed_run (l : Loop) (cycles : List Cycle) :
    (l.run cycles).drive.speed = l.drive.speed := by
  induction cycles generalizing l with
  | nil => rfl
  | cons c rest ih =>
      have hcycle : (l.cycle c).drive.speed = l.drive.speed := by
        rw [drive_cycle]
        unfold handled
        split
        · exact speed_inject l c.faults
        · exact (Drive.Model.speed_advance _ _).trans (speed_inject l c.faults)
        · exact (Drive.Model.speed_advance _ _).trans (speed_inject l c.faults)
      exact (ih (l.cycle c)).trans hcycle

/-- In every run from a new machine, a stay in the homing state that ends at rest was a complete
homing run of the drive, begun by a rising home bit while the machine was homing already, and leaves
the drive at its reference. -/
theorem homed_of_completed_homing (settings : MotionSettings) {drive : Drive.Model}
    (hheld : drive.motionCount ≤ 15) (hspeed : 1 ≤ drive.speed) (cycles : List Cycle)
    (last : Cycle) (hhoming : ((start settings drive).run cycles).machine.state = .homing)
    (hready : (((start settings drive).run cycles).cycle last).machine.state = .ready) :
    ∃ before within, cycles = before ++ within
      ∧ (∀ first, first <+: within →
          (((start settings drive).run before).run first).machine.state = .homing)
      ∧ ((start settings drive).run before).drive.HomingRun
          (((start settings drive).run before).frames (within ++ [last]))
      ∧ (((start settings drive).run cycles).cycle last).drive =
          ((start settings drive).run before).drive.run
            (((start settings drive).run before).frames (within ++ [last]))
      ∧ (((start settings drive).run cycles).cycle last).drive.AtReference := by
  have hinvariant := invariant_start settings hheld
  have hfresh : (start settings drive).machine.state ≠ .homing := by
    rintro ⟨⟩
  rcases exists_homing hinvariant hfresh cycles hhoming with ⟨before, within, rfl, hstay⟩
  have hsplit : (start settings drive).run (before ++ within) =
      ((start settings drive).run before).run within := by simp [run]
  have hpositive : 0 ≤ ((start settings drive).run before).drive.speed.toInt := by
    have hone := Int32.le_iff_toInt_le.1 hspeed
    rw [speed_run]
    exact Int.le_trans (by decide) hone
  rw [hsplit] at hready ⊢
  exact ⟨before, within, rfl, hstay.state, hstay.homingRun hpositive hready⟩

/-- The axis is enabled, moved and homed; a request and an answer are lost on the way. -/
def lossyHoming : List Cycle :=
  [{ command := some .enable }, {}, { command := some (.moveTo ⟨1000⟩) }, {}, {}, {},
    { command := some .home }, { fate := .requestLost }, {}, { fate := .statusLost }]

/-- A drive that a session before homed, with the home bit still up. -/
def homedBefore : Drive.Model :=
  { speed := 400, homingFrames := 3, stopFrames := 0, motionCount := 1, homed := true
    lastControl := Machine.controlWord .homing }

theorem homed_of_completed_homing_lossy :
    ∃ before within : List Cycle, lossyHoming = before ++ within
      ∧ (∀ first, first <+: within →
          (((start {} homedBefore).run before).run first).machine.state = .homing)
      ∧ ((start {} homedBefore).run before).drive.HomingRun
          (((start {} homedBefore).run before).frames (within ++ [{ fate := .delivered }]))
      ∧ (((start {} homedBefore).run lossyHoming).cycle {}).drive =
          ((start {} homedBefore).run before).drive.run
            (((start {} homedBefore).run before).frames (within ++ [{ fate := .delivered }]))
      ∧ (((start {} homedBefore).run lossyHoming).cycle {}).drive.AtReference :=
  homed_of_completed_homing {} (by decide) (by decide) lossyHoming {} (by decide +kernel)
    (by decide +kernel)

end Loop
end Motion
end ServoLink
