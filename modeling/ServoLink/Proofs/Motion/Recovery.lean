import ServoLink.Proofs.Motion.ClosedLoop

/-!
# Recovery — which faults an operator can clear

The drive clears a fault when the acknowledge bit rises.  The machine holds the bit until a status
tells that the fault is gone, and accepts no command meanwhile.  If a status is lost, the drive may
have cleared its fault and have a new one by the time the machine hears of it; the bit it waits for
never rises again, and the loop is `Trapped`.

* `Loop.Benign.run` — without fatal faults, every fault on record may be acknowledged;
* `Loop.Trapped.run` — no command, loss or fault leads out of the trap;
* `Loop.recoverable_iff` — from everywhere else, commands lead back to rest;
* `Loop.recoverable_of_heard` — as long as no status is lost, that is everywhere.
-/

namespace ServoLink
namespace Motion

open ProcessData

/-- No fault of the cycle is fatal. -/
def Cycle.Mild (c : Cycle) : Prop := ∀ fault ∈ c.faults, fault.2 = false

instance (c : Cycle) : Decidable c.Mild :=
  inferInstanceAs (Decidable (∀ fault ∈ c.faults, fault.2 = false))

namespace Machine

variable {m m' : Machine} {s : AxisStatus}

/-- A status that tells of no fatal fault brings none on record. -/
theorem Step.not_fatal (h : Step m s m') (htells : s.fatal = false)
    (hmild : m.fault.any FaultReason.isFatal = false) :
    m'.fault.any FaultReason.isFatal = false := by
  cases h with
  | fault => simp [AxisStatus.faultReason, htells, FaultReason.isFatal]
  | enableTimeout | homingTimeout => simp [FaultReason.isFatal]
  | cleared => simp
  | _ => simpa using hmild

theorem not_fatal_update (htells : s.fatal = false)
    (hmild : m.fault.any FaultReason.isFatal = false) :
    (m.update s).fault.any FaultReason.isFatal = false := by
  refine (update_step m s).not_fatal htells ?_
  rcases fault_noted_cases m s with hkept | ⟨-, hfatal, -⟩
  · rw [hkept]
    exact hmild
  · rw [htells] at hfatal
    cases hfatal

/-- A pending disable takes effect at once, unless the status tells of a fault. -/
theorem state_update_of_disable (hpending : m.pending = some .disable) (hclear : s.fault = false) :
    (m.update s).state = .disabled := by
  rw [update_of_clear hclear, if_pos hpending, state_transition]

end Machine

namespace Loop

/-! ## Loops without fatal faults -/

/-- What holds of a loop as long as no fault in it is fatal. -/
structure Benign (l : Loop) : Prop where
  orderly : l.machine.Orderly
  onRecord : l.machine.fault.any FaultReason.isFatal = false
  inDrive : l.drive.fatal = false

section Benign

variable {l : Loop}

theorem benign_start (settings : MotionSettings) (options : Drive.Options) :
    (start settings (.new options)).Benign where
  orderly := Machine.orderly_new settings
  onRecord := rfl
  inDrive := rfl

theorem orderly_offer (h : l.machine.Orderly) (command : Option OperatorCommand) :
    (l.offer command).machine.Orderly := by
  cases command with
  | none => exact h
  | some command =>
      rw [machine_offer]
      exact h.submit command

theorem orderly_exchange (h : l.machine.Orderly) (fate : Fate) :
    (l.exchange fate).machine.Orderly := by
  cases fate with
  | requestLost | statusLost => exact h
  | delivered => exact h.update l.answer

theorem orderly_cycle (h : l.machine.Orderly) (c : Cycle) : (l.cycle c).machine.Orderly := by
  have hoffered : ((l.inject c.faults).offer c.command).machine.Orderly :=
    orderly_offer (l := l.inject c.faults) h c.command
  rw [cycle, machine_note]
  exact orderly_exchange hoffered c.fate

theorem Benign.inject (h : l.Benign) {faults : List (Drive.ErrorCode × Bool)}
    (hmild : ∀ fault ∈ faults, fault.2 = false) : (l.inject faults).Benign where
  orderly := h.orderly
  onRecord := h.onRecord
  inDrive := l.fatal_inject hmild h.inDrive

theorem Benign.offer (h : l.Benign) (command : Option OperatorCommand) :
    (l.offer command).Benign where
  orderly := orderly_offer h.orderly command
  onRecord := by simpa using h.onRecord
  inDrive := by simpa using h.inDrive

theorem Benign.exchange (h : l.Benign) (fate : Fate) : (l.exchange fate).Benign := by
  have hdriven : l.driven.fatal = false := by
    rw [fatal_driven]
    exact h.inDrive
  have horderly := orderly_exchange h.orderly fate
  cases fate with
  | requestLost => exact h
  | statusLost => exact ⟨horderly, h.onRecord, hdriven⟩
  | delivered =>
      -- What the drive tells is not fatal, so nothing fatal comes on record.
      have htells := l.fatal_answer h.inDrive
      exact ⟨horderly, Machine.not_fatal_update htells h.onRecord, hdriven⟩

theorem Benign.cycle (h : l.Benign) {c : Cycle} (hmild : c.Mild) : (l.cycle c).Benign := by
  have hafter := ((h.inject hmild).offer c.command).exchange c.fate
  -- The notes at the end of the cycle touch neither the machine nor the drive.
  refine ⟨?_, ?_, ?_⟩
  · simpa [Loop.cycle] using hafter.orderly
  · simpa [Loop.cycle] using hafter.onRecord
  · simpa [Loop.cycle] using hafter.inDrive

theorem Benign.run (h : l.Benign) {cycles : List Cycle} (hmild : ∀ c ∈ cycles, c.Mild) :
    (l.run cycles).Benign := by
  induction cycles generalizing l with
  | nil => exact h
  | cons c rest ih =>
      have hfirst := h.cycle (hmild c List.mem_cons_self)
      exact ih hfirst fun other hother => hmild other (List.mem_cons_of_mem _ hother)

end Benign

/-! ## The trap -/

/-- The machine acknowledges, the drive has a fault, and it has received the acknowledge bit
already. -/
def Trapped (l : Loop) : Prop :=
  l.machine.state = .faultAcknowledge ∧ l.drive.fault.isSome
    ∧ l.drive.lastControl.contains ControlWord.errorAcknowledge

instance (l : Loop) : Decidable l.Trapped := inferInstanceAs (Decidable (_ ∧ _ ∧ _))

section Trapped

variable {l : Loop}

/-- The drive holds its fault, and the bit stays up. -/
theorem Trapped.driven (h : l.Trapped) :
    l.driven.fault.isSome ∧ l.driven.lastControl.contains ControlWord.errorAcknowledge := by
  rcases h with ⟨hstate, hfault, hheld⟩
  refine ⟨?_, ?_⟩
  · rw [l.fault_driven (Or.inr hheld)]
    exact hfault
  · rw [lastControl_driven, hstate]
    decide

theorem Trapped.exchange (h : l.Trapped) (horderly : l.machine.Orderly) (fate : Fate) :
    (l.exchange fate).Trapped := by
  have hdriven := h.driven
  cases fate with
  | requestLost => exact h
  | statusLost => exact ⟨h.1, hdriven⟩
  | delivered =>
      -- The machine hears of the fault, and goes on acknowledging.
      have hfault : l.answer.fault := by
        rw [fault_answer]
        exact hdriven.1
      have hstate : (l.machine.update l.answer).state = .faultAcknowledge := by
        calc (l.machine.update l.answer).state
            = ((l.machine.noted l.answer).updateAcknowledge l.answer).state := by
              rw [horderly.update_of_acknowledge h.1]
          _ = (l.machine.noted l.answer).state := by rw [Machine.updateAcknowledge, if_pos hfault]
          _ = l.machine.state := Machine.state_noted _ _
          _ = .faultAcknowledge := h.1
      exact ⟨hstate, hdriven⟩

theorem Trapped.cycle (h : l.Trapped) (horderly : l.machine.Orderly) (c : Cycle) :
    (l.cycle c).Trapped := by
  have hoffered : ((l.inject c.faults).offer c.command).Trapped := by
    refine ⟨?_, ?_, ?_⟩
    · simpa using h.1
    · simpa using l.isSome_fault_inject c.faults h.2.1
    · simpa using h.2.2
  have horderly' : ((l.inject c.faults).offer c.command).machine.Orderly :=
    orderly_offer (l := l.inject c.faults) horderly c.command
  have hafter := hoffered.exchange horderly' c.fate
  simpa [Loop.cycle, Trapped] using hafter

/-- Nothing that may happen in a cycle leads out of the trap. -/
theorem Trapped.run (h : l.Trapped) (horderly : l.machine.Orderly) (cycles : List Cycle) :
    (l.run cycles).Trapped := by
  induction cycles generalizing l with
  | nil => exact h
  | cons c rest ih => exact ih (h.cycle horderly c) (orderly_cycle horderly c)

end Trapped

/-! ## The way back -/

/-- At rest, with no fault on record and none in the drive. -/
def Recovered (l : Loop) : Prop :=
  l.machine.state = .disabled ∧ l.machine.fault = none ∧ l.drive.fault = none

/-- Some commands, offered one a cycle at most, bring the loop to rest if nothing is lost and no new
fault arises. -/
def Recoverable (l : Loop) : Prop :=
  ∃ commands : List (Option OperatorCommand),
    (l.run (commands.map fun command => { command })).Recovered

section Recovery

variable {l : Loop}

theorem Trapped.not_recoverable (h : l.Trapped) (horderly : l.machine.Orderly) :
    ¬ l.Recoverable := by
  rintro ⟨commands, hstate, -, -⟩
  -- At the end of the run the machine would acknowledge still, and be at rest.
  have htrapped := h.run horderly (commands.map fun command => { command })
  rw [htrapped.1] at hstate
  cases hstate

theorem Recovered.recoverable (h : l.Recovered) : l.Recoverable := ⟨[], h⟩

theorem Recoverable.of_cycle (command : Option OperatorCommand)
    (h : (l.cycle { command }).Recoverable) : l.Recoverable := by
  rcases h with ⟨commands, hrecovered⟩
  exact ⟨command :: commands, hrecovered⟩

theorem mild_calm (command : Option OperatorCommand) : Cycle.Mild { command } := by
  intro fault hmem
  cases hmem

theorem machine_calm (l : Loop) (command : Option OperatorCommand) :
    (l.cycle { command }).machine =
      (l.offer command).machine.update (l.offer command).answer := by
  rw [cycle, machine_note]
  rfl

theorem drive_calm (l : Loop) (command : Option OperatorCommand) :
    (l.cycle { command }).drive = (l.offer command).driven := by
  rw [cycle, drive_note]
  rfl

/-- The machine is at rest with no fault on record when its state says so. -/
theorem Benign.recovered (h : l.Benign) (hstate : l.machine.state = .disabled)
    (hfault : l.drive.fault = none) : l.Recovered := by
  have hrecorded := h.orderly.recorded
  rw [hstate] at hrecorded
  exact ⟨hstate, by simpa [MotionState.isFaulted] using hrecorded, hfault⟩

/-- An acknowledge that has not been received yet is heard in the next cycle. -/
theorem Benign.recoverable_of_acknowledge (h : l.Benign)
    (hstate : l.machine.state = .faultAcknowledge) (htrap : ¬ l.Trapped) : l.Recoverable := by
  have hdriven : l.driven.fault = none := by
    cases hheld : l.drive.lastControl.contains ControlWord.errorAcknowledge with
    | false => exact l.fault_driven_of_rising h.inDrive hstate hheld
    | true =>
        -- Outside the trap the drive has no fault left.
        rw [l.fault_driven (Or.inr hheld)]
        cases hfault : l.drive.fault with
        | none => rfl
        | some code => exact absurd ⟨hstate, by rw [hfault]; rfl, hheld⟩ htrap
  have hafter : (l.cycle { command := none }).machine.state = .disabled := by
    rw [machine_calm]
    exact l.state_update_of_cleared h.orderly hstate hdriven
  have hdrive : (l.cycle { command := none }).drive.fault = none := by
    rw [drive_calm]
    exact hdriven
  refine .of_cycle none (Recovered.recoverable ?_)
  exact (h.cycle (mild_calm none)).recovered hafter hdrive

/-- A fault is acknowledged: the request of that cycle does not carry the bit yet. -/
theorem Benign.recoverable_of_faulted (h : l.Benign) (hstate : l.machine.state = .faulted) :
    l.Recoverable := by
  have hverdict : l.machine.verdict .faultAcknowledge = .ok () := by
    simp [Machine.verdict, hstate, h.onRecord]
  have hoffered := l.machine_offer_of_verdict hverdict
  have horderly := orderly_offer h.orderly (some .faultAcknowledge)
  have hafter : (l.cycle { command := some .faultAcknowledge }).machine.state
      = .faultAcknowledge := by
    rw [machine_calm, horderly.update_of_faulted (by simpa using hstate)]
    simp [hoffered, Machine.updateFaulted]
  have hlow : (l.cycle { command := some .faultAcknowledge }).drive.lastControl.contains
      ControlWord.errorAcknowledge = false := by
    rw [drive_calm, lastControl_driven, state_offer, hstate]
    decide
  refine .of_cycle (some .faultAcknowledge) ?_
  refine (h.cycle (mild_calm _)).recoverable_of_acknowledge hafter ?_
  rintro ⟨-, -, hheld⟩
  rw [hlow] at hheld
  cases hheld

/-- A fault that the machine has not heard of yet. -/
theorem Benign.recoverable_of_unheard (h : l.Benign) (hstate : l.machine.state.isFaulted = false)
    (hfault : l.drive.fault.isSome) : l.Recoverable := by
  have hnot : l.machine.state ≠ .faultAcknowledge := by
    intro hsame
    rw [hsame] at hstate
    cases hstate
  have hheard : l.answer.fault := by
    rw [fault_answer, l.fault_driven (Or.inl hnot)]
    exact hfault
  have hafter : (l.cycle { command := none }).machine.state = .faulted := by
    rw [machine_calm]
    show (l.machine.update l.answer).state = .faulted
    rw [Machine.update_of_fault hheard hstate, Machine.state_enterFault]
  exact .of_cycle none ((h.cycle (mild_calm none)).recoverable_of_faulted hafter)

/-- An enabled axis without a fault is disabled. -/
theorem Benign.recoverable_of_enabled (h : l.Benign) (hstate : l.machine.state.isEnabled)
    (hfault : l.drive.fault = none) : l.Recoverable := by
  have hverdict : l.machine.verdict .disable = .ok () := by
    simp [Machine.verdict, hstate]
  have hoffered := l.machine_offer_of_verdict hverdict
  have hdriven : (l.offer (some .disable)).driven.fault = none := by
    refine Drive.Model.fault_advance_of_none _ _ ?_
    simpa using hfault
  have hclear : (l.offer (some .disable)).answer.fault = false := by
    rw [fault_answer, hdriven]
    rfl
  have hafter : (l.cycle { command := some .disable }).machine.state = .disabled := by
    rw [machine_calm]
    exact Machine.state_update_of_disable (by rw [hoffered]) hclear
  have hdrive : (l.cycle { command := some .disable }).drive.fault = none := by
    rw [drive_calm]
    exact hdriven
  refine .of_cycle (some .disable) (Recovered.recoverable ?_)
  exact (h.cycle (mild_calm _)).recovered hafter hdrive

theorem Benign.recoverable (h : l.Benign) (htrap : ¬ l.Trapped) : l.Recoverable := by
  cases hstate : l.machine.state with
  | faultAcknowledge => exact h.recoverable_of_acknowledge hstate htrap
  | faulted => exact h.recoverable_of_faulted hstate
  | disabled =>
      cases hfault : l.drive.fault with
      | none => exact (h.recovered hstate hfault).recoverable
      | some code =>
          exact h.recoverable_of_unheard (by rw [hstate]; rfl) (by rw [hfault]; rfl)
  | enabling | homing | ready | moving =>
      cases hfault : l.drive.fault with
      | none => exact h.recoverable_of_enabled (by rw [hstate]; rfl) hfault
      | some code =>
          exact h.recoverable_of_unheard (by rw [hstate]; rfl) (by rw [hfault]; rfl)

end Recovery

/-! ## Where no status is lost -/

/-- The drive has not received the acknowledge that the machine sends. -/
def Unreceived (l : Loop) : Prop :=
  l.machine.state = .faultAcknowledge →
    l.drive.lastControl.contains ControlWord.errorAcknowledge = false

theorem Unreceived.exchange {l : Loop} (h : l.Unreceived) (hbenign : l.Benign) {fate : Fate}
    (hheard : fate ≠ .statusLost) : (l.exchange fate).Unreceived := by
  cases fate with
  | requestLost => exact h
  | statusLost => exact absurd rfl hheard
  | delivered =>
      intro hafter
      show l.driven.lastControl.contains ControlWord.errorAcknowledge = false
      by_cases hstate : l.machine.state = .faultAcknowledge
      · -- The bit rises, and the machine hears of it: it does not acknowledge any longer.
        have hdriven := l.fault_driven_of_rising hbenign.inDrive hstate (h hstate)
        have hrest := l.state_update_of_cleared hbenign.orderly hstate hdriven
        rw [show (l.machine.update l.answer).state = .faultAcknowledge from hafter] at hrest
        cases hrest
      · rw [lastControl_driven, Machine.contains_errorAcknowledge_controlWord]
        simpa using hstate

theorem Unreceived.cycle {l : Loop} (h : l.Unreceived) (hbenign : l.Benign) {c : Cycle}
    (hmild : c.Mild) (hheard : c.fate ≠ .statusLost) : (l.cycle c).Unreceived := by
  have hoffered : ((l.inject c.faults).offer c.command).Unreceived := by
    simpa [Unreceived] using h
  have hafter := hoffered.exchange ((hbenign.inject hmild).offer c.command) hheard
  simpa [Loop.cycle, Unreceived] using hafter

theorem Unreceived.run {l : Loop} (h : l.Unreceived) (hbenign : l.Benign) {cycles : List Cycle}
    (hmild : ∀ c ∈ cycles, c.Mild) (hheard : ∀ c ∈ cycles, c.fate ≠ .statusLost) :
    (l.run cycles).Unreceived := by
  induction cycles generalizing l with
  | nil => exact h
  | cons c rest ih =>
      have hfirst := hmild c List.mem_cons_self
      refine ih (h.cycle hbenign hfirst (hheard c List.mem_cons_self)) (hbenign.cycle hfirst) ?_ ?_
      · exact fun other hother => hmild other (List.mem_cons_of_mem _ hother)
      · exact fun other hother => hheard other (List.mem_cons_of_mem _ hother)

/-- Lost requests alone trap nothing. -/
theorem recoverable_of_heard (settings : MotionSettings) (options : Drive.Options)
    (cycles : List Cycle) (hmild : ∀ c ∈ cycles, c.Mild)
    (hheard : ∀ c ∈ cycles, c.fate ≠ .statusLost) :
    ((start settings (.new options)).run cycles).Recoverable := by
  have hstart := benign_start settings options
  have hunreceived : (start settings (.new options)).Unreceived := by
    intro hstate
    cases hstate
  refine (hstart.run hmild).recoverable ?_
  rintro ⟨hstate, -, hheld⟩
  rw [hunreceived.run hstart hmild hheard hstate] at hheld
  cases hheld

/-! ## The trap is the only one -/

/-- In every run of a new machine and a new drive without fatal faults, an operator can bring the
loop back to rest exactly outside the trap. -/
theorem recoverable_iff (settings : MotionSettings) (options : Drive.Options)
    (cycles : List Cycle) (hmild : ∀ c ∈ cycles, c.Mild) :
    ((start settings (.new options)).run cycles).Recoverable
      ↔ ¬ ((start settings (.new options)).run cycles).Trapped := by
  have hbenign := (benign_start settings options).run hmild
  constructor
  · intro hrecoverable htrapped
    exact htrapped.not_recoverable hbenign.orderly hrecoverable
  · exact hbenign.recoverable

/-- A fault is acknowledged, and the status that tells that it is gone is lost. -/
def lostStatus : List Cycle :=
  [{ faults := [(.motorHotSensor, false)] }, { command := some .faultAcknowledge },
    { fate := .statusLost }]

/-- The next status tells it as well. -/
theorem recoverable_iff_lostStatus :
    (∀ c ∈ lostStatus, c.Mild) ∧ ((start {} (.new {})).run lostStatus).Recoverable :=
  ⟨by decide, (recoverable_iff {} {} lostStatus (by decide)).2 (by decide +kernel)⟩

/-- Unless a new fault arises before it. -/
theorem trapped_after_lostStatus :
    (∀ c ∈ lostStatus ++ [{ faults := [(.motorHotSensor, false)] }], c.Mild)
      ∧ ¬ ((start {} (.new {})).run
          (lostStatus ++ [{ faults := [(.motorHotSensor, false)] }])).Recoverable := by
  have hmild : ∀ c ∈ lostStatus ++ [{ faults := [(.motorHotSensor, false)] }], c.Mild := by
    decide
  have horderly := ((benign_start {} {}).run hmild).orderly
  have htrapped : ((start {} (.new {})).run
      (lostStatus ++ [{ faults := [(.motorHotSensor, false)] }])).Trapped := by
    decide +kernel
  exact ⟨hmild, htrapped.not_recoverable horderly⟩

end Loop

end Motion
end ServoLink
