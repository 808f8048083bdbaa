import ServoLink.Proofs.Drive.Model
import ServoLink.Proofs.Motion.Faults

/-!
# Closed loop — the axis machine against the drive model

One cycle sends what the machine outputs; the request or the answer may be lost.  Before it, faults
may be injected into the drive, and an operator may offer a command.  An onlooker keeps three notes:
the command accepted last, the command that started the current move, and whether a stop was sent in
that move.

* `Loop.cycle`, `Loop.run` — one cycle, and a run of them from any loop;
* `Loop.answer` — what the axis learns from the answer to its request;
* `Loop.driven` — the drive once it has received the request, and which of its faults remain.
-/

namespace ServoLink
namespace Motion

open ProcessData

/-! ## The loop -/

/-- How the exchange of a cycle ends. -/
inductive Fate where
  | requestLost
  | statusLost
  | delivered
  deriving DecidableEq, Repr, Inhabited

structure Cycle where
  /-- Faults injected before the cycle, each with whether it is fatal. -/
  faults : List (Drive.ErrorCode × Bool) := []
  command : Option OperatorCommand := none
  fate : Fate := .delivered
  deriving DecidableEq, Repr, Inhabited

structure Loop where
  machine : Machine
  drive : Drive.Model
  /-- The command accepted last. -/
  accepted : Option OperatorCommand := none
  /-- The command that started the current move. -/
  started : Option OperatorCommand := none
  /-- A stop was sent in the current move. -/
  stopped : Bool := false
  deriving DecidableEq, Repr

namespace Loop

/-- A new machine and a drive in any state. -/
def start (settings : MotionSettings) (drive : Drive.Model) : Loop :=
  { machine := .new settings, drive }

def inject (l : Loop) (faults : List (Drive.ErrorCode × Bool)) : Loop :=
  { l with drive := faults.foldl (fun drive fault => drive.inject fault.1 fault.2) l.drive }

def offer (l : Loop) : Option OperatorCommand → Loop
  | none => l
  | some command =>
      match l.machine.submit command with
      | (.ok (), machine) => { l with machine, accepted := some command }
      | (.error _, machine) => { l with machine }

/-- What is sent. -/
def request (l : Loop) : ControlRequest := l.machine.output.request ResponseSections.standard

def exchange (l : Loop) : Fate → Loop
  | .requestLost => l
  | .statusLost => { l with drive := (l.drive.step l.request).2 }
  | .delivered =>
      let (status, drive) := l.drive.step l.request
      { l with machine := l.machine.update (.ofResponse status), drive }

/-- The command being sent is a stop. -/
def sendsStop (l : Loop) : Bool :=
  match l.machine.output.motion with
  | some ⟨_, .stop _⟩ => true
  | _ => false

/-- The notes about the move, after a cycle that began in `before`. -/
def note (l : Loop) (before : MotionState) : Loop :=
  if l.machine.state = .moving then
    if before = .moving then { l with stopped := l.stopped || l.sendsStop }
    else { l with started := l.accepted, stopped := l.sendsStop }
  else l

def cycle (l : Loop) (c : Cycle) : Loop :=
  (((l.inject c.faults).offer c.command).exchange c.fate).note l.machine.state

def run (l : Loop) (cycles : List Cycle) : Loop := cycles.foldl cycle l

/-! ## Parts of a cycle -/

theorem controlOf_request (l : Loop) (d : Drive.Model) :
    d.controlOf l.request = Machine.controlWord l.machine.state := rfl

theorem motion_request (l : Loop) :
    l.request.motion = l.machine.active.map fun command => ⟨l.machine.motionCount, command⟩ := rfl

@[simp] theorem state_offer (l : Loop) (command : Option OperatorCommand) :
    (l.offer command).machine.state = l.machine.state := by
  cases command with
  | none => rfl
  | some command =>
      have hstate := l.machine.state_submit command
      unfold offer
      dsimp only
      split
      · rename_i hsubmit
        rwa [hsubmit] at hstate
      · rename_i hsubmit
        rwa [hsubmit] at hstate

@[simp] theorem started_offer (l : Loop) (command : Option OperatorCommand) :
    (l.offer command).started = l.started := by
  unfold offer
  split
  · rfl
  · split <;> rfl

@[simp] theorem stopped_offer (l : Loop) (command : Option OperatorCommand) :
    (l.offer command).stopped = l.stopped := by
  unfold offer
  split
  · rfl
  · split <;> rfl

@[simp] theorem machine_note (l : Loop) (before : MotionState) :
    (l.note before).machine = l.machine := by
  unfold note
  split
  · split <;> rfl
  · rfl

@[simp] theorem drive_note (l : Loop) (before : MotionState) : (l.note before).drive = l.drive := by
  unfold note
  split
  · split <;> rfl
  · rfl

theorem note_of_not_moving {l : Loop} (h : l.machine.state ≠ .moving) (before : MotionState) :
    l.note before = l := if_neg h

theorem note_of_moving {l : Loop} (h : l.machine.state = .moving) :
    l.note .moving = { l with stopped := l.stopped || l.sendsStop } := by
  rw [note, if_pos h, if_pos rfl]

theorem note_of_started {l : Loop} (h : l.machine.state = .moving) {before : MotionState}
    (hbefore : before ≠ .moving) :
    l.note before = { l with started := l.accepted, stopped := l.sendsStop } := by
  rw [note, if_pos h, if_neg hbefore]

/-! ## The answer -/

section Answer

variable (l : Loop)

/-- What the axis learns from the answer to its request. -/
def answer : AxisStatus :=
  .ofResponse ((l.drive.advance l.request).status l.request)

theorem motionCount_answer {count : UInt8} (h : l.answer.motionCount = some count) :
    count = (l.drive.advance l.request).motionCount := by
  rw [answer, Drive.Model.motionCount_answer _ rfl] at h
  split at h
  · cases h
    rfl
  · cases h

/-- An answer that finds the drive enabled, outside a homing run, echoes the count. -/
theorem motionCount_answer_of_enabled (henabled : l.answer.enabled)
    (hhome : (Machine.controlWord l.machine.state).contains ControlWord.home = false) :
    l.answer.motionCount = some (l.drive.advance l.request).motionCount := by
  rw [answer, Drive.Model.enabled_answer _ rfl] at henabled
  -- Enabled rules out a fault, and without the home bit no homing run is reported.
  have hfault := Drive.Model.fault_of_enabled_advance l.drive l.request henabled
  have hhoming := Drive.Model.homingRemaining_advance l.drive l.request hhome
  rw [answer, Drive.Model.motionCount_answer _ rfl]
  simp [henabled, hfault, hhoming]

end Answer

/-! ## The drive in the loop -/

section Driven

variable (l : Loop)

/-- The drive once it has received what is sent. -/
def driven : Drive.Model := l.drive.advance l.request

theorem lastControl_driven : l.driven.lastControl = Machine.controlWord l.machine.state :=
  calc l.driven.lastControl = l.drive.controlOf l.request := Drive.Model.lastControl_advance _ _
    _ = Machine.controlWord l.machine.state := l.controlOf_request l.drive

theorem fatal_driven : l.driven.fatal = l.drive.fatal :=
  Drive.Model.fatal_advance _ _

/-- The bit does not rise when the machine does not send it, or has sent it before. -/
theorem fault_driven (h : l.machine.state ≠ .faultAcknowledge
    ∨ l.drive.lastControl.contains ControlWord.errorAcknowledge) :
    l.driven.fault = l.drive.fault := by
  refine Drive.Model.fault_advance_of_not_rising _ _ ?_
  rcases h with hstate | hheld
  · left
    rw [controlOf_request, Machine.contains_errorAcknowledge_controlWord]
    simpa using hstate
  · exact Or.inr hheld

/-- An acknowledge that rises leaves no fault that is not fatal. -/
theorem fault_driven_of_rising (hfatal : l.drive.fatal = false)
    (hstate : l.machine.state = .faultAcknowledge)
    (hlow : l.drive.lastControl.contains ControlWord.errorAcknowledge = false) :
    l.driven.fault = none := by
  refine Drive.Model.fault_advance_of_rising _ _ hfatal ?_ hlow
  rw [controlOf_request, hstate]
  decide

theorem fault_answer : l.answer.fault = l.driven.fault.isSome :=
  Drive.Model.fault_answer _ rfl

theorem fatal_answer (h : l.drive.fatal = false) : l.answer.fatal = false := by
  calc l.answer.fatal = (l.driven.fault.isSome && l.driven.fatal) := Drive.Model.fatal_answer _ rfl
    _ = (l.driven.fault.isSome && false) := by rw [fatal_driven, h]
    _ = false := Bool.and_false _

/-- A machine that acknowledges hears that the fault is gone. -/
theorem state_update_of_cleared (horderly : l.machine.Orderly)
    (hstate : l.machine.state = .faultAcknowledge) (hdriven : l.driven.fault = none) :
    (l.machine.update l.answer).state = .disabled := by
  have hclear : l.answer.fault = false := by
    rw [fault_answer, hdriven]
    rfl
  rw [horderly.update_of_acknowledge hstate, Machine.updateAcknowledge, hclear]
  simp

end Driven

/-! ## Faults and offers -/

section Parts

variable (l : Loop)

@[simp] theorem machine_inject (faults : List (Drive.ErrorCode × Bool)) :
    (l.inject faults).machine = l.machine := rfl

@[simp] theorem drive_offer (command : Option OperatorCommand) :
    (l.offer command).drive = l.drive := by
  unfold offer
  split
  · rfl
  · split <;> rfl

theorem machine_offer (command : OperatorCommand) :
    (l.offer (some command)).machine = (l.machine.submit command).2 := by
  rcases l.machine.submit_cases command with ⟨-, hsubmit⟩ | ⟨refusal, -, hsubmit⟩
  · simp [offer, hsubmit]
  · simp [offer, hsubmit]

/-- An accepted command waits for the next status. -/
theorem machine_offer_of_verdict {command : OperatorCommand}
    (h : l.machine.verdict command = .ok ()) :
    (l.offer (some command)).machine = { l.machine with pending := some command } := by
  rw [machine_offer, Machine.submit, h]

/-- An offer leaves the fault on record. -/
@[simp] theorem fault_offer (command : Option OperatorCommand) :
    (l.offer command).machine.fault = l.machine.fault := by
  cases command with
  | none => rfl
  | some command => rw [machine_offer, Machine.fault_submit]

/-- Faults injected come on top of the one there is. -/
theorem isSome_fault_inject (faults : List (Drive.ErrorCode × Bool))
    (h : l.drive.fault.isSome) : (l.inject faults).drive.fault.isSome := by
  induction faults generalizing l with
  | nil => exact h
  | cons fault rest ih => exact ih { l with drive := l.drive.inject fault.1 fault.2 } rfl

@[simp] theorem lastControl_inject (faults : List (Drive.ErrorCode × Bool)) :
    (l.inject faults).drive.lastControl = l.drive.lastControl := by
  induction faults generalizing l with
  | nil => rfl
  | cons fault rest ih => exact ih { l with drive := l.drive.inject fault.1 fault.2 }

theorem fatal_inject {faults : List (Drive.ErrorCode × Bool)}
    (hmild : ∀ fault ∈ faults, fault.2 = false) (h : l.drive.fatal = false) :
    (l.inject faults).drive.fatal = false := by
  induction faults generalizing l with
  | nil => exact h
  | cons fault rest ih =>
      -- The last fault injected decides whether the drive holds a fatal one.
      have hfirst := hmild fault List.mem_cons_self
      have hrest : ∀ other ∈ rest, other.2 = false :=
        fun other hother => hmild other (List.mem_cons_of_mem _ hother)
      exact ih { l with drive := l.drive.inject fault.1 fault.2 } hrest hfirst

end Parts

end Loop

end Motion
end ServoLink
