import ServoLink.Proofs.Motion.Calls

/-!
# Faults — what a fault takes precedence over, and who may acknowledge it

A status with the fault bit leads every machine in use to a fault state, where the power stage is off
and no motion command is sent.  A fatal fault is not to be acknowledged; it is held (`FatalHeld`)
while the machine stays in the fault state proper.  A fault that turns out to be fatal under an
acknowledge is not held (`AcknowledgesFatal`), and that is the only way.

* `Machine.fault_dominates` — fault record, power bits and motion commands, state by state;
* `Machine.fatalHeld_iff` — when a run holds its fatal faults.
-/

namespace ServoLink
namespace Motion
namespace Machine

open ProcessData

/-! ## Power -/

theorem contains_errorAcknowledge_controlWord (state : MotionState) :
    (controlWord state).contains ControlWord.errorAcknowledge = (state == .faultAcknowledge) := by
  cases state <;> decide

theorem isSome_motion_output (m : Machine) : m.output.motion.isSome = m.active.isSome := by
  simp [output]

theorem isEnabled_iff {state : MotionState} :
    state.isEnabled ↔ state ∈ [MotionState.enabling, .homing, .ready, .moving] := by
  cases state <;> decide

theorem isFaulted_iff {state : MotionState} :
    state.isFaulted ↔ state ∈ [MotionState.faulted, .faultAcknowledge] := by
  cases state <;> decide

theorem isEnabled_of_isFaulted {state : MotionState} (h : state.isFaulted) :
    state.isEnabled = false := by
  cases state <;> simp_all [MotionState.isFaulted, MotionState.isEnabled]

/-! ## The fault bit -/

section FaultBit

variable {m : Machine} {s : AxisStatus}

theorem update_of_fault (hfault : s.fault) (hstate : m.state.isFaulted = false) :
    m.update s = (m.observe s).enterFault s.faultReason := by
  have hobserved : (m.observe s).state = m.state := rfl
  simp [update, hfault, hobserved, hstate]

/-- With the fault bit, a fault state is left for another one at most. -/
theorem Step.isFaulted {m' : Machine} (h : Step m s m') (hfault : s.fault)
    (hstate : m.state.isFaulted) (hdisable : m.pending ≠ some .disable) : m'.state.isFaulted := by
  cases h with
  | stay => exact hstate
  | fault _ hnot => exact absurd hstate hnot
  | disable hpending => exact absurd hpending hdisable
  | acknowledge => simp [MotionState.isFaulted]
  | cleared _ hclear =>
      rw [hfault] at hclear
      cases hclear
  | _ => simp_all [MotionState.isFaulted]

/-- In a fault state no disable is pending. -/
theorem Orderly.pending_ne_disable (h : m.Orderly) (hstate : m.state.isFaulted) :
    m.pending ≠ some .disable := by
  intro hpending
  have henabled := h.isEnabled_of_disable hpending
  rw [isEnabled_of_isFaulted hstate] at henabled
  cases henabled

theorem Orderly.isFaulted_update (h : m.Orderly) (hfault : s.fault) :
    (m.update s).state.isFaulted := by
  cases hstate : m.state.isFaulted with
  | false =>
      rw [update_of_fault hfault hstate, state_enterFault]
      rfl
  | true =>
      have hdisable := h.pending_ne_disable hstate
      exact (update_step m s).isFaulted hfault (by simpa using hstate) (by simpa using hdisable)

theorem Kept.active_of_isFaulted (h : m.Kept) (hstate : m.state.isFaulted) : m.active = none := by
  cases hactive : m.active with
  | none => rfl
  | some command =>
      have hcarried := h.carried (by rw [hactive]; rfl)
      rcases hcarried with hstate' | hstate' | hstate' <;>
        simp [hstate', MotionState.isFaulted] at hstate

end FaultBit

/-- In every machine in use, a fault is on record exactly in the two fault states, the power bits are
set exactly in the enabled ones, and motion commands are sent at rest, in a homing run and in a move,
where there always is one.  A status with the fault bit ends in a fault state, with power off and no
motion command, whatever command was pending. -/
theorem fault_dominates (settings : MotionSettings) (calls : List Call) :
    let m := (new settings).run calls
    (m.fault.isSome ↔ m.state ∈ [MotionState.faulted, .faultAcknowledge])
      ∧ (m.output.control.contains ControlWord.switchOn
          ↔ m.state ∈ [MotionState.enabling, .homing, .ready, .moving])
      ∧ (m.output.control.contains ControlWord.enableOperation
          ↔ m.state ∈ [MotionState.enabling, .homing, .ready, .moving])
      ∧ (m.output.motion.isSome → m.state ∈ [MotionState.ready, .homing, .moving])
      ∧ (m.state = .moving → m.output.motion.isSome)
      ∧ ∀ s : AxisStatus, s.fault →
          (m.update s).state ∈ [MotionState.faulted, .faultAcknowledge]
            ∧ (m.update s).output.control.contains ControlWord.switchOn = false
            ∧ (m.update s).output.control.contains ControlWord.enableOperation = false
            ∧ (m.update s).output.motion = none := by
  intro m
  have horderly : m.Orderly := orderly_run_new settings calls
  refine ⟨?_, ?_, ?_, ?_, ?_, ?_⟩
  · rw [horderly.recorded]
    exact isFaulted_iff
  · rw [output, contains_switchOn_controlWord]
    exact isEnabled_iff
  · rw [output, contains_enableOperation_controlWord]
    exact isEnabled_iff
  · rw [isSome_motion_output]
    intro hactive
    simpa using horderly.carried hactive
  · rw [isSome_motion_output]
    exact horderly.moving
  · intro s hfault
    have hstate := horderly.isFaulted_update hfault
    have hoff := isEnabled_of_isFaulted hstate
    refine ⟨isFaulted_iff.1 hstate, ?_, ?_, ?_⟩
    · rw [output, contains_switchOn_controlWord, hoff]
    · rw [output, contains_enableOperation_controlWord, hoff]
    · have hactive := (horderly.update s).active_of_isFaulted hstate
      simp [output, hactive]

/-! ## Fatal faults -/

/-- A fatal fault on record is not acknowledged: the machine is in the fault state proper, it sends no
acknowledge, and no status takes it to rest. -/
def FatalHeld (m : Machine) : Prop :=
  ∀ code, m.fault = some (.driveFatal code) →
    m.state = .faulted
      ∧ m.output.control.contains ControlWord.errorAcknowledge = false
      ∧ ∀ s, (m.update s).state ≠ .disabled

/-- The status tells that the fault on record is fatal, while its acknowledge is pending or being
sent. -/
def AcknowledgesFatal (m : Machine) (s : AxisStatus) : Prop :=
  (∃ code, m.fault = some (.drive code)) ∧ s.fatal
    ∧ (m.pending = some .faultAcknowledge ∨ m.state = .faultAcknowledge ∧ s.fault)

section Fatal

variable {m : Machine} {s : AxisStatus}

/-- What noting a status makes of the fault on record. -/
theorem fault_noted_cases (m : Machine) (s : AxisStatus) :
    (m.noted s).fault = m.fault
      ∨ (∃ code, m.fault = some (.drive code)) ∧ s.fatal
        ∧ (m.noted s).fault = some (.driveFatal s.errorCode) := by
  have hobserved : (m.observe s).fault = m.fault := rfl
  unfold noted escalate
  split
  · rename_i code hdrive
    rw [hobserved] at hdrive
    split
    · exact Or.inr ⟨⟨code, hdrive⟩, ‹_›, rfl⟩
    · exact Or.inl hobserved
  · exact Or.inl hobserved

/-- Where a fatal fault is on record in the fault state proper, no command is pending. -/
theorem Orderly.pending_of_fatal (h : m.Orderly) (hstate : m.state = .faulted)
    (hfatal : m.fault.any FaultReason.isFatal) : m.pending = none := by
  cases hpending : m.pending with
  | none => rfl
  | some command =>
      have hverdict := h.admissible command hpending
      have hfit := fits_of_verdict hverdict
      rw [hstate] at hfit
      cases command with
      | faultAcknowledge =>
          have hmild := not_fatal_of_verdict hverdict
          rw [hfatal] at hmild
          cases hmild
      | _ => simp [OperatorCommand.Fits, MotionState.isEnabled] at hfit

/-- In the two fault states a status is noted, and then the state's own rule applies. -/
theorem Orderly.update_eq_advance (h : m.Orderly) (hstate : m.state.isFaulted) (s : AxisStatus) :
    m.update s = (m.noted s).advance s := by
  have hentered : (s.fault && !m.state.isFaulted) = false := by simp [hstate]
  rw [update_of_not_entered hentered, if_neg (h.pending_ne_disable hstate)]

theorem Orderly.update_of_faulted (h : m.Orderly) (hstate : m.state = .faulted) (s : AxisStatus) :
    m.update s = (m.noted s).updateFaulted := by
  rw [h.update_eq_advance (by rw [hstate]; rfl), advance, state_noted, hstate]

theorem Orderly.update_of_acknowledge (h : m.Orderly) (hstate : m.state = .faultAcknowledge)
    (s : AxisStatus) : m.update s = (m.noted s).updateAcknowledge s := by
  rw [h.update_eq_advance (by rw [hstate]; rfl), advance, state_noted, hstate]

/-- A fatal fault on record keeps the machine in the fault state proper. -/
theorem Orderly.state_update_of_fatal (h : m.Orderly) (hstate : m.state = .faulted)
    (hfatal : m.fault.any FaultReason.isFatal) (s : AxisStatus) :
    (m.update s).state = .faulted := by
  have hpending := h.pending_of_fatal hstate hfatal
  rw [h.update_of_faulted hstate]
  simpa [updateFaulted, hpending] using hstate

theorem Orderly.fatalHeld_iff_state (h : m.Orderly) :
    m.FatalHeld ↔ (m.fault.any FaultReason.isFatal → m.state = .faulted) := by
  constructor
  · intro hheld hfatal
    rw [Option.any_eq_true] at hfatal
    rcases hfatal with ⟨reason, hreason, hfatal⟩
    cases reason with
    | driveFatal code => exact (hheld code hreason).1
    | _ => cases hfatal
  · intro hstate code hcode
    have hfatal : m.fault.any FaultReason.isFatal := by
      rw [hcode]
      rfl
    have hfaulted := hstate hfatal
    refine ⟨hfaulted, ?_, ?_⟩
    · rw [output, contains_errorAcknowledge_controlWord, hfaulted]
      rfl
    · intro s
      rw [h.state_update_of_fatal hfaulted hfatal s]
      decide

/-- How a status that is not of that kind leaves a fault that was not fatal. -/
theorem Orderly.fault_noted_of_path (h : m.Orderly)
    (hbefore : m.fault.any FaultReason.isFatal → m.state = .faulted)
    (hmild : ¬ m.AcknowledgesFatal s)
    (hpath : m.pending = some .faultAcknowledge ∨ m.state = .faultAcknowledge ∧ s.fault) :
    (m.noted s).fault.any FaultReason.isFatal = false := by
  have hnot : m.fault.any FaultReason.isFatal = false := by
    rcases hpath with hpending | ⟨hacknowledge, -⟩
    · exact not_fatal_of_verdict (h.admissible _ hpending)
    · cases hfatal : m.fault.any FaultReason.isFatal with
      | false => rfl
      | true =>
          have hfaulted := hbefore hfatal
          rw [hacknowledge] at hfaulted
          cases hfaulted
  rcases fault_noted_cases m s with hkept | ⟨hdrive, htells, -⟩
  · rw [hkept]
    exact hnot
  · exact absurd ⟨hdrive, htells, hpath⟩ hmild

/-- The acknowledging state is entered from the fault states only. -/
theorem Step.state_ne_acknowledge {m' : Machine} (h : Step m s m')
    (hstate : m.state.isFaulted = false) : m'.state ≠ .faultAcknowledge := by
  cases h with
  | stay =>
      intro hsame
      rw [hsame] at hstate
      cases hstate
  | _ => simp_all [MotionState.isFaulted]

theorem FatalHeld.update (h : m.Orderly) (hheld : m.FatalHeld) (hmild : ¬ m.AcknowledgesFatal s) :
    (m.update s).FatalHeld := by
  have horderly := h.update s
  rw [h.fatalHeld_iff_state] at hheld
  rw [horderly.fatalHeld_iff_state]
  intro hfatal
  have hmild' := h.fault_noted_of_path hheld hmild
  cases hstate : m.state.isFaulted with
  | false =>
      have hnot := (update_step m s).state_ne_acknowledge (by simpa using hstate)
      have hsome : (m.update s).fault.isSome := by
        cases hfault : (m.update s).fault with
        | none => simp [hfault] at hfatal
        | some reason => rfl
      rw [horderly.recorded, isFaulted_iff] at hsome
      simpa [hnot] using hsome
  | true =>
      rw [isFaulted_iff] at hstate
      simp only [List.mem_cons, List.not_mem_nil, or_false] at hstate
      rcases hstate with hproper | hacknowledge
      · rw [h.update_of_faulted hproper] at hfatal ⊢
        by_cases hpending : m.pending = some .faultAcknowledge
        · have hnone := hmild' (Or.inl hpending)
          simp [updateFaulted, hpending, hnone] at hfatal
        · simpa [updateFaulted, hpending] using hproper
      · rw [h.update_of_acknowledge hacknowledge] at hfatal
        cases hbit : s.fault with
        | true =>
            have hnone := hmild' (Or.inr ⟨hacknowledge, hbit⟩)
            simp [updateAcknowledge, hbit, hnone] at hfatal
        | false => simp [updateAcknowledge, hbit] at hfatal

/-- A status that tells of a fatal fault under its acknowledge leaves it acknowledged. -/
theorem AcknowledgesFatal.not_fatalHeld_update (h : m.Orderly) (hlate : m.AcknowledgesFatal s) :
    ¬ (m.update s).FatalHeld := by
  rcases hlate with ⟨⟨code, hdrive⟩, htells, hway⟩
  have hfault : (m.noted s).fault = some (.driveFatal s.errorCode) := by
    have hobserved : (m.observe s).fault = some (.drive code) := hdrive
    simp [Machine.noted, escalate, hobserved, htells]
  have hstate : (m.update s).state = .faultAcknowledge
      ∧ (m.update s).fault = some (.driveFatal s.errorCode) := by
    rcases hway with hpending | ⟨hacknowledge, hbit⟩
    · have hproper : m.state = .faulted := h.fits _ hpending
      rw [h.update_of_faulted hproper]
      simp [updateFaulted, hpending, hfault]
    · rw [h.update_of_acknowledge hacknowledge]
      simp [updateAcknowledge, hbit, hacknowledge, hfault]
  intro hheld
  have hproper := (hheld _ hstate.2).1
  rw [hstate.1] at hproper
  cases hproper

/-- The calls other than an update. -/
theorem FatalHeld.call (h : m.Orderly) (hheld : m.FatalHeld) {c : Call}
    (hmild : ∀ s, c = .update s → ¬ m.AcknowledgesFatal s) : (m.call c).FatalHeld := by
  have horderly := h.call c
  cases c with
  | update s => exact hheld.update h (hmild s rfl)
  | takeEvents =>
      rw [h.fatalHeld_iff_state] at hheld
      rw [horderly.fatalHeld_iff_state]
      exact hheld
  | submit command =>
      rw [h.fatalHeld_iff_state] at hheld
      rw [horderly.fatalHeld_iff_state]
      rcases m.submit_cases command with ⟨-, hsubmit⟩ | ⟨refusal, -, hsubmit⟩
      · simpa [Machine.call, hsubmit] using hheld
      · simpa [Machine.call, hsubmit] using hheld
  | forceFault reason =>
      rw [horderly.fatalHeld_iff_state]
      intro _
      exact state_forceFault m reason

/-- A run in which no fault turns out to be fatal under its acknowledge. -/
theorem fatalHeld_run (settings : MotionSettings) (calls : List Call)
    (hmild : ∀ before s, before ++ [Call.update s] <+: calls →
      ¬ ((new settings).run before).AcknowledgesFatal s) :
    ((new settings).run calls).FatalHeld := by
  induction calls using List.reverseRecOn with
  | nil =>
      intro code hcode
      cases hcode
  | append_singleton rest c ih =>
      have hheld : ((new settings).run rest).FatalHeld := by
        refine ih ?_
        intro before s hbegin
        exact hmild before s (hbegin.trans (List.prefix_append rest [c]))
      rw [run_concat]
      refine hheld.call (orderly_run_new settings rest) ?_
      rintro s rfl
      exact hmild rest s List.prefix_rfl

end Fatal

/-- A run holds its fatal faults throughout if and only if no status of it tells of a fatal fault while
the fault's acknowledge is pending or being sent. -/
theorem fatalHeld_iff (settings : MotionSettings) (calls : List Call) :
    (∀ before, before <+: calls → ((new settings).run before).FatalHeld)
      ↔ ∀ before s, before ++ [Call.update s] <+: calls →
          ¬ ((new settings).run before).AcknowledgesFatal s := by
  constructor
  · intro hheld before s hbegin hlate
    have hafter := hheld _ hbegin
    rw [run_concat] at hafter
    exact hlate.not_fatalHeld_update (orderly_run_new settings before) hafter
  · intro hmild before hbefore
    refine fatalHeld_run settings before ?_
    intro earlier s hbegin
    exact hmild earlier s (hbegin.trans hbefore)

/-- An error is reported and its acknowledge accepted; then the drive reports that it is fatal. -/
theorem fatal_under_acknowledge :
    ¬ ((new {}).run
        [.update { fault := true, errorCode := .motorHotSensor }, .submit .faultAcknowledge,
          .update { fault := true, fatal := true, errorCode := .motorCommunicationLost }]).FatalHeld := by
  intro hheld
  have hstate := (hheld .motorCommunicationLost (by decide +kernel)).1
  exact absurd hstate (by decide +kernel)

end Machine
end Motion
end ServoLink
