import Mathlib.Data.List.Induction
import ServoLink.Proofs.Motion.Power

/-!
# Calls — everything a caller may do with the axis machine

A machine in use is a new machine after any calls: commands offered, statuses fed, faults forced and
events taken, in any order.  Such a machine is `Orderly`: a fault is on record exactly in the fault
states, a pending command applies to the state, and a motion command is carried only at rest, in a
homing run and in a move.

* `Machine.Orderly.call`, `Machine.Orderly.run` — every call keeps a machine orderly;
* `Machine.Orderly.pending_update` — no command outlives the next status;
* `Machine.exists_accepted_of_pending` — a pending command was accepted since the last status.
-/

namespace ServoLink
namespace Motion

/-- The states in which a command may be accepted. -/
def OperatorCommand.Fits (state : MotionState) : OperatorCommand → Prop
  | .enable => state = .disabled
  | .disable => state.isEnabled
  | .home | .moveTo _ => state = .ready
  | .stop => state = .moving
  | .faultAcknowledge => state = .faulted

namespace Machine

/-! ## Calls -/

inductive Call where
  | submit (command : OperatorCommand)
  | update (status : AxisStatus)
  | forceFault (reason : FaultReason)
  | takeEvents
  deriving DecidableEq, Repr, Inhabited

def call (m : Machine) : Call → Machine
  | .submit command => (m.submit command).2
  | .update status => m.update status
  | .forceFault reason => m.forceFault reason
  | .takeEvents => m.takeEvents.2

def run (m : Machine) (calls : List Call) : Machine := calls.foldl call m

theorem run_concat (m : Machine) (calls : List Call) (c : Call) :
    m.run (calls ++ [c]) = (m.run calls).call c := by
  simp [run]

theorem run_append (m : Machine) (calls later : List Call) :
    m.run (calls ++ later) = (m.run calls).run later :=
  List.foldl_append

/-! ## Accepted commands -/

section Accepted

variable {m : Machine}

theorem fits_of_verdict {command : OperatorCommand} (h : m.verdict command = .ok ()) :
    command.Fits m.state := by
  unfold verdict at h
  cases command with
  | faultAcknowledge =>
      dsimp only at h
      split at h
      · assumption
      · cases h
  | _ =>
      dsimp only at h
      split at h
      · assumption
      · cases h

theorem not_fatal_of_verdict (h : m.verdict .faultAcknowledge = .ok ()) :
    m.fault.any FaultReason.isFatal = false := by
  have hstate : m.state = .faulted := fits_of_verdict h
  simpa [verdict, hstate] using h

end Accepted

/-! ## No command outlives a status -/

section Consumed

variable {m : Machine} (s : AxisStatus)

theorem pending_updateDisabled (h : m.pending = none ∨ m.pending = some .enable) :
    (m.updateDisabled s).pending = none := by
  unfold updateDisabled
  rcases h with hnone | henable
  · simp [hnone]
  · simp only [henable, if_pos]
    split <;> simp

theorem pending_updateEnabling (h : m.pending = none) : (m.updateEnabling s).pending = none := by
  unfold updateEnabling
  split
  · simpa using h
  · split
    · simp
    · exact h

theorem pending_updateReady : m.updateReady.pending = none := by
  unfold updateReady
  split <;> simp

theorem pending_updateHoming (h : m.pending = none) : (m.updateHoming s).pending = none := by
  unfold updateHoming
  -- Every way out either leaves the pending command alone or enters a fault.
  split
  · simpa using h
  · split
    · split
      · exact h
      · split
        · simp
        · exact h
    · split
      · simpa using h
      · split
        · simp
        · exact h
    · exact h

theorem pending_updateMoving (h : m.pending = none ∨ m.pending = some .stop) :
    (m.updateMoving s).pending = none := by
  unfold updateMoving
  rcases h with hnone | hstop
  · have hother : m.pending ≠ some .stop := by simp [hnone]
    rw [if_neg hother]
    split
    · simpa using hnone
    · exact hnone
  · rw [if_pos hstop]
    dsimp only
    split <;> simp

theorem pending_updateFaulted (h : m.pending = none ∨ m.pending = some .faultAcknowledge) :
    m.updateFaulted.pending = none := by
  unfold updateFaulted
  rcases h with hnone | hacknowledge
  · simp [hnone]
  · simp [hacknowledge]

theorem pending_updateAcknowledge (h : m.pending = none) :
    (m.updateAcknowledge s).pending = none := by
  unfold updateAcknowledge
  split
  · exact h
  · simpa using h

/-- Outside rest one command at most may be pending beside a disable. -/
def soleCommand : MotionState → Option OperatorCommand
  | .disabled => some .enable
  | .moving => some .stop
  | .faulted => some .faultAcknowledge
  | .enabling | .homing | .ready | .faultAcknowledge => none

theorem pending_eq_soleCommand (hfits : ∀ command, m.pending = some command → command.Fits m.state)
    (hdisable : m.pending ≠ some .disable) (hready : m.state ≠ .ready) :
    m.pending = none ∨ m.pending = soleCommand m.state := by
  cases hpending : m.pending with
  | none => exact Or.inl rfl
  | some command =>
      have hfit := hfits command hpending
      right
      cases command with
      | disable => exact absurd hpending hdisable
      | home | moveTo target => exact absurd hfit hready
      | enable | stop | faultAcknowledge =>
          simp only [OperatorCommand.Fits] at hfit
          rw [hfit]
          rfl

theorem pending_advance (hfits : ∀ command, m.pending = some command → command.Fits m.state)
    (hdisable : m.pending ≠ some .disable) : (m.advance s).pending = none := by
  have hsole := pending_eq_soleCommand hfits hdisable
  unfold advance
  split
  all_goals rename_i hstate
  all_goals simp only [hstate, ne_eq, reduceCtorEq, not_false_eq_true, forall_const, soleCommand,
    or_self] at hsole
  · exact pending_updateDisabled s hsole
  · exact pending_updateEnabling s hsole
  · exact pending_updateReady
  · exact pending_updateHoming s hsole
  · exact pending_updateMoving s hsole
  · exact pending_updateFaulted hsole
  · exact pending_updateAcknowledge s hsole

end Consumed

/-! ## Orderly machines -/

/-- What a fault leaves on record, and which command is carried, in each state. -/
structure Kept (m : Machine) : Prop where
  recorded : m.fault.isSome = m.state.isFaulted
  carried : m.active.isSome → m.state = .ready ∨ m.state = .homing ∨ m.state = .moving
  moving : m.state = .moving → m.active.isSome

/-- What holds of every machine in use. -/
structure Orderly (m : Machine) : Prop extends Kept m where
  admissible : ∀ command, m.pending = some command → m.verdict command = .ok ()

theorem orderly_new (settings : MotionSettings) : (new settings).Orderly where
  recorded := rfl
  carried := by
    intro h
    cases h
  moving := by
    intro h
    cases h
  admissible := by
    intro command h
    cases h

theorem Orderly.fits {m : Machine} (h : m.Orderly) (command : OperatorCommand)
    (hpending : m.pending = some command) : command.Fits m.state :=
  fits_of_verdict (h.admissible command hpending)

theorem Orderly.isEnabled_of_disable {m : Machine} (h : m.Orderly)
    (hpending : m.pending = some .disable) : m.state.isEnabled :=
  h.fits .disable hpending

theorem Kept.enterFault (m : Machine) (reason : FaultReason) : (m.enterFault reason).Kept where
  recorded := by simp [MotionState.isFaulted]
  carried := by simp
  moving := by simp

/-- The events do not matter. -/
theorem Kept.push {m : Machine} (h : m.Kept) (event : Event) : (m.push event).Kept := by
  rcases m.push_eq event with ⟨events, hevents⟩
  rw [hevents]
  exact ⟨h.recorded, h.carried, h.moving⟩

theorem Orderly.push {m : Machine} (h : m.Orderly) (event : Event) : (m.push event).Orderly := by
  rcases m.push_eq event with ⟨events, hevents⟩
  rw [hevents]
  exact ⟨⟨h.recorded, h.carried, h.moving⟩, h.admissible⟩

/-! ### A status -/

theorem isSome_fault_noted (m : Machine) (s : AxisStatus) :
    (m.noted s).fault.isSome = m.fault.isSome := by
  have hobserved : (m.observe s).fault = m.fault := rfl
  unfold noted escalate
  split
  · rename_i hdrive
    rw [hobserved] at hdrive
    split
    · simp [hdrive]
    · simp [hobserved]
  · rw [hobserved]

theorem Kept.noted {m : Machine} (h : m.Kept) (s : AxisStatus) : (m.noted s).Kept where
  recorded := by
    rw [isSome_fault_noted, state_noted]
    exact h.recorded
  carried := by simpa using h.carried
  moving := by simpa using h.moving

theorem Kept.step {m m' : Machine} (h : m.Kept)
    (hdisable : m.pending = some .disable → m.state.isEnabled) {s : AxisStatus}
    (hstep : Step m s m') : m'.Kept := by
  have hrecorded := h.recorded
  have hcarried := h.carried
  cases hstep with
  | stay => exact h
  | fault | enableTimeout | homingTimeout => exact Kept.enterFault _ _
  | disable hpending =>
      have henabled := hdisable hpending
      refine ⟨?_, by simp, by simp⟩
      cases hstate : m.state <;> simp_all [MotionState.isEnabled, MotionState.isFaulted]
  | notReady =>
      refine Kept.push ?_ _
      exact ⟨hrecorded, hcarried, h.moving⟩
  | dropped | homingBegun | stopAgain => exact ⟨hrecorded, hcarried, h.moving⟩
  | enabled hstate | home hstate | homed hstate | settled hstate | move _ hstate =>
      rw [hstate] at hrecorded
      refine ⟨?_, by simp, by simp⟩
      simpa [MotionState.isFaulted] using hrecorded
  | stop hstate =>
      refine ⟨hrecorded, ?_, fun _ => rfl⟩
      exact fun _ => Or.inr (Or.inr hstate)
  | enable hstate | acknowledge hstate =>
      rw [hstate] at hrecorded hcarried
      refine ⟨?_, ?_, by simp⟩
      · simpa [MotionState.isFaulted] using hrecorded
      · simpa using hcarried
  | cleared hstate =>
      rw [hstate] at hcarried
      refine ⟨by simp [MotionState.isFaulted], ?_, by simp⟩
      simpa using hcarried

theorem Orderly.pending_update {m : Machine} (h : m.Orderly) (s : AxisStatus) :
    (m.update s).pending = none := by
  have hfits : ∀ command, (m.noted s).pending = some command →
      command.Fits (m.noted s).state := by
    intro command hpending
    rw [pending_noted] at hpending
    rw [state_noted]
    exact h.fits command hpending
  unfold update
  dsimp only
  split
  · simp
  · split
    · simp
    · rename_i hdisable
      exact pending_advance s hfits hdisable

theorem Orderly.update {m : Machine} (h : m.Orderly) (s : AxisStatus) : (m.update s).Orderly where
  toKept := by
    refine (h.toKept.noted s).step ?_ (update_step m s)
    simpa using h.isEnabled_of_disable
  admissible := by
    intro command hpending
    rw [h.pending_update s] at hpending
    cases hpending

/-! ### The other calls -/

theorem Orderly.submit {m : Machine} (h : m.Orderly) (command : OperatorCommand) :
    (m.submit command).2.Orderly := by
  rcases m.submit_cases command with ⟨hverdict, hsubmit⟩ | ⟨refusal, -, hsubmit⟩
  · rw [hsubmit]
    refine ⟨⟨h.recorded, h.carried, h.moving⟩, ?_⟩
    rintro accepted ⟨⟩
    exact hverdict
  · rw [hsubmit]
    exact h.push _

theorem Orderly.forceFault {m : Machine} (h : m.Orderly) (reason : FaultReason) :
    (m.forceFault reason).Orderly := by
  unfold Machine.forceFault
  split
  · exact h
  · refine ⟨Kept.enterFault m reason, ?_⟩
    intro command hpending
    rw [pending_enterFault] at hpending
    cases hpending

theorem Orderly.call {m : Machine} (h : m.Orderly) (c : Call) : (m.call c).Orderly := by
  cases c with
  | submit command => exact h.submit command
  | update s => exact h.update s
  | forceFault reason => exact h.forceFault reason
  | takeEvents => exact ⟨⟨h.recorded, h.carried, h.moving⟩, h.admissible⟩

/-- Every machine in use is orderly. -/
theorem Orderly.run {m : Machine} (h : m.Orderly) (calls : List Call) : (m.run calls).Orderly := by
  induction calls generalizing m with
  | nil => exact h
  | cons c rest ih => exact ih (h.call c)

theorem orderly_run_new (settings : MotionSettings) (calls : List Call) :
    ((new settings).run calls).Orderly :=
  (orderly_new settings).run calls

/-! ## Where a pending command comes from -/

section Pending

variable {m : Machine}

/-- A call other than an update leaves what is pending, drops it, or is an accepted offer. -/
theorem pending_call_cases (m : Machine) {c : Call} (hc : ∀ s, c ≠ .update s)
    {command : OperatorCommand} (h : (m.call c).pending = some command) :
    m.pending = some command ∨ c = .submit command ∧ (m.submit command).1 = .ok () := by
  cases c with
  | update s => exact absurd rfl (hc s)
  | takeEvents => exact Or.inl h
  | submit offered =>
      simp only [call] at h
      rcases m.submit_cases offered with ⟨-, hsubmit⟩ | ⟨refusal, -, hsubmit⟩
      · rw [hsubmit] at h
        cases h
        exact Or.inr ⟨rfl, congrArg Prod.fst hsubmit⟩
      · rw [hsubmit, pending_push] at h
        exact Or.inl h
  | forceFault reason =>
      simp only [call, Machine.forceFault] at h
      split at h
      · exact Or.inl h
      · rw [pending_enterFault] at h
        cases h

/-- A pending command was accepted in the run, and no status came since. -/
theorem exists_accepted_of_pending (settings : MotionSettings) (calls : List Call)
    {command : OperatorCommand} (h : ((new settings).run calls).pending = some command) :
    ∃ before after, calls = before ++ .submit command :: after
      ∧ (((new settings).run before).submit command).1 = .ok ()
      ∧ ∀ s, Call.update s ∉ after := by
  induction calls using List.reverseRecOn with
  | nil => cases h
  | append_singleton rest c ih =>
      have horderly := orderly_run_new settings rest
      rw [run_concat] at h
      by_cases hupdate : ∃ s, c = .update s
      · rcases hupdate with ⟨s, rfl⟩
        have hnone : (((new settings).run rest).update s).pending = none :=
          horderly.pending_update s
        rw [show (((new settings).run rest).update s).pending = some command from h] at hnone
        cases hnone
      · rw [not_exists] at hupdate
        rcases pending_call_cases _ hupdate h with hkept | ⟨rfl, haccepted⟩
        · rcases ih hkept with ⟨before, after, rfl, haccepted, hafter⟩
          refine ⟨before, after ++ [c], by simp, haccepted, ?_⟩
          intro s hmem
          rcases List.mem_append.1 hmem with hmem | hmem
          · exact hafter s hmem
          · exact hupdate s (List.mem_singleton.1 hmem).symm
        · exact ⟨rest, [], rfl, haccepted, fun s => List.not_mem_nil⟩

end Pending

end Machine
end Motion
end ServoLink
