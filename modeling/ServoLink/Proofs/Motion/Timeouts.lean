import ServoLink.Proofs.Motion.Diagram
import ServoLink.Proofs.Motion.Waiting

/-!
# Timeouts — how a wait of the axis machine ends, and when

Homing is completed only by a status that tells of its end, never by a homed bit left from before.
A timeout bounds each step of homing, and enabling; a timeout of zero bounds nothing.

* `Machine.Waits.ready_iff_of_homing` — when a status completes homing;
* `Machine.Step.fault_cases`, `Machine.forced_of_fault` — where the fault on record comes from;
* `Machine.Unanswered` — enabling from its first cycle on, while the drive does not answer;
* `Machine.timed_waits` — how every wait goes on and ends, for every run from a new machine.
-/

namespace ServoLink
namespace Motion

open ProcessData
open StepTracker (after)

namespace Machine

/-! ## How a wait ends -/

section Ends

variable {m m' : Machine} {s : AxisStatus} {heard : List AxisStatus}

theorem state_update_of_fault (hstate : m.state.isFaulted = false) (hfault : s.fault) :
    (m.update s).state = .faulted := by
  rw [update_of_fault hfault hstate, state_enterFault]

/-- Homing is completed by a status that tells that the run is over, or that tells of no run and is
homed, once a status has told of one. -/
theorem Waits.ready_iff_of_homing (h : m.Waits heard) (hstate : m.state = .homing) (s : AxisStatus) :
    (m.update s).state = .ready
      ↔ s.fault = false ∧ m.pending ≠ some .disable
        ∧ (s.homing = some true
          ∨ s.homing = none ∧ s.homed ∧ ∃ earlier ∈ heard, earlier.tellsOfRun) := by
  rw [← List.any_eq_true]
  cases hfault : s.fault with
  | true =>
      have hfaulted := state_update_of_fault (m := m) (by rw [hstate]; rfl) hfault
      simp [hfaulted]
  | false =>
      by_cases hdisable : m.pending = some .disable
      · simp [update_of_clear hfault, hdisable]
      · have hhoming : (m.noted s).state = .homing := by rw [state_noted, hstate]
        rw [h.update_homing hstate hfault hdisable]
        by_cases hover : s.homing = some true
            ∨ heard.any AxisStatus.tellsOfRun ∧ s.homing = none ∧ s.homed
        · rw [if_pos hover, state_transition]
          simp only [true_iff]
          refine ⟨trivial, hdisable, hover.imp_right ?_⟩
          rintro ⟨htold, hnone, hhomed⟩
          exact ⟨hnone, hhomed, htold⟩
        · rw [if_neg hover]
          constructor
          · -- Any other way homing goes on, or times out.
            intro hready
            exfalso
            split at hready
            · rw [hhoming] at hready
              cases hready
            · split at hready
              · simp at hready
              · rw [hhoming] at hready
                cases hready
          · rintro ⟨-, -, hready⟩
            refine absurd (hready.imp_right ?_) hover
            rintro ⟨hnone, hhomed, htold⟩
            exact ⟨htold, hnone, hhomed⟩

/-- A step of homing has at least a cycle to go while homing goes on. -/
theorem Waits.length_steps_le (h : m.Waits heard) (hcount : m.Countable)
    (hstate : m.state = .homing) (htimeout : 0 < m.homingTimeout) (s : AxisStatus) :
    (homingSteps (heard ++ [s])).1.length ≤ m.homingTimeout
      ∧ (homingSteps (heard ++ [s])).2.length ≤ m.homingTimeout := by
  refine ⟨h.length_firstStep_le hcount hstate htimeout s, ?_⟩
  rcases h.homing hstate with ⟨hsequence, hlasts, -⟩
  rw [homingSteps_concat]
  split
  · rename_i htold
    rw [hsequence, homingTracker, if_pos htold, Bool.eq_false_iff, Ne,
      StepTracker.timedOut_after hcount.homing] at hlasts
    rw [List.length_append, List.length_singleton]
    omega
  · exact Nat.zero_le _

theorem Waits.length_lt_of_homing (h : m.Waits heard) (hcount : m.Countable)
    (hstate : m.state = .homing) (htimeout : 0 < m.homingTimeout) :
    heard.length < 2 * m.homingTimeout := by
  rcases h.homing hstate with ⟨hsequence, hlasts, hfirst⟩
  have hwhole := congrArg List.length (homingSteps_append heard)
  rw [List.length_append] at hwhole
  rw [hsequence, homingTracker, Bool.eq_false_iff, Ne] at hlasts
  split at hlasts
  · rw [StepTracker.timedOut_after hcount.homing] at hlasts
    have hfirst := hfirst htimeout
    omega
  · rw [StepTracker.timedOut_after hcount.homing] at hlasts
    omega

theorem Waits.length_lt_of_enabling (h : m.Waits heard) (hcount : m.Countable)
    (hstate : m.state = .enabling) (htimeout : 0 < m.enableTimeout) :
    heard.length < m.enableTimeout := by
  rcases h.enabling hstate with ⟨hsequence, hlasts⟩
  rw [hsequence, Bool.eq_false_iff, Ne, StepTracker.timedOut_after hcount.enable] at hlasts
  omega

end Ends

/-! ### Faults on record -/

/-- The timeout whose end a reason reports. -/
def timeoutOf (m : Machine) : FaultReason → Option Nat
  | .enableTimeout => some m.enableTimeout
  | .homingTimeout => some m.homingTimeout
  | _ => none

section Recorded

variable {m m' : Machine} {s : AxisStatus} {reason : FaultReason}

theorem timeoutOf_eq (h : m'.timeouts = m.timeouts) (reason : FaultReason) :
    m'.timeoutOf reason = m.timeoutOf reason := by
  rw [timeouts_eq_iff] at h
  cases reason <;> simp [timeoutOf, h]

/-- A fault on record after a step was there before, is the drive's, or tells of a timeout. -/
theorem Step.fault_cases (h : Step m s m') (hafter : m'.fault = some reason) :
    m.fault = some reason ∨ reason = s.faultReason
      ∨ ∃ timeout, m.timeoutOf reason = some timeout ∧ m.sequence.timedOut timeout := by
  cases h with
  | fault =>
      rw [fault_enterFault, Option.some_inj] at hafter
      exact Or.inr (Or.inl hafter.symm)
  | enableTimeout _ _ hexpired =>
      rw [fault_enterFault, Option.some_inj] at hafter
      rw [← hafter]
      exact Or.inr (Or.inr ⟨_, rfl, hexpired⟩)
  | homingTimeout _ hexpired =>
      rw [fault_enterFault, Option.some_inj] at hafter
      rw [← hafter]
      exact Or.inr (Or.inr ⟨_, rfl, hexpired⟩)
  | cleared => simp at hafter
  | _ =>
      left
      simpa using hafter

/-- A wait is cut short by the fault bit, or by its timeout. -/
theorem Step.faulted_of_wait (h : Step m s m') (hwait : m.state = .enabling ∨ m.state = .homing)
    (hafter : m'.state = .faulted) :
    s.fault ∨ m.state = .enabling ∧ m.sequence.timedOut m.enableTimeout
      ∨ m.state = .homing ∧ m.sequence.timedOut m.homingTimeout := by
  cases h with
  | fault hfault => exact Or.inl hfault
  | enableTimeout hstate _ hexpired => exact Or.inr (Or.inl ⟨hstate, hexpired⟩)
  | homingTimeout hstate hexpired => exact Or.inr (Or.inr ⟨hstate, hexpired⟩)
  | _ => simp_all

/-- No update records the end of a timeout of zero. -/
theorem fault_update_of_untimed (h : m.timeoutOf reason = some 0)
    (hafter : (m.update s).fault = some reason) : m.fault = some reason := by
  rcases (update_step m s).fault_cases hafter with hkept | hdrive | ⟨timeout, htimeout, hexpired⟩
  · rcases fault_noted_cases m s with hsame | ⟨-, -, hfatal⟩
    · rwa [hsame] at hkept
    · rw [hfatal, Option.some_inj] at hkept
      rw [← hkept] at h
      cases h
  · rw [hdrive, AxisStatus.faultReason] at h
    split at h <;> cases h
  · rw [timeoutOf_eq (timeouts_noted m s), h] at htimeout
    cases htimeout
    simp [StepTracker.timedOut] at hexpired

theorem timeoutOf_run (settings : MotionSettings) (calls : List Call) (reason : FaultReason) :
    ((new settings).run calls).timeoutOf reason = (new settings).timeoutOf reason :=
  timeoutOf_eq (timeouts_run settings calls) reason

/-- The end of a timeout of zero is on record only if a caller forced it. -/
theorem forced_of_fault {settings : MotionSettings} {calls : List Call}
    (huntimed : (new settings).timeoutOf reason = some 0)
    (h : ((new settings).run calls).fault = some reason) : .forceFault reason ∈ calls := by
  induction calls using List.reverseRecOn with
  | nil => cases h
  | append_singleton rest c ih =>
      rw [run_concat] at h
      rw [List.mem_append, List.mem_singleton]
      cases c with
      | takeEvents => exact Or.inl (ih h)
      | submit command => exact Or.inl (ih ((fault_submit _ command).symm.trans h))
      | update s =>
          rw [← timeoutOf_run settings rest] at huntimed
          exact Or.inl (ih (fault_update_of_untimed huntimed h))
      | forceFault forced =>
          change (((new settings).run rest).forceFault forced).fault = _ at h
          unfold forceFault at h
          split at h
          · exact Or.inl (ih h)
          · rw [fault_enterFault, Option.some_inj] at h
            exact Or.inr (by rw [h])

end Recorded

/-! ### Enabling, from its first cycle on -/

/-- The call does not end the wait for the power stage: it is no disable, no forced fault, and no
status with the power on or the fault bit set. -/
def Call.KeepsWaiting : Call → Prop
  | .submit command => command ≠ .disable
  | .update s => s.enabled = false ∧ s.fault = false
  | .forceFault _ => False
  | .takeEvents => True

/-- How many of the calls feed a status. -/
def updates (calls : List Call) : Nat := (calls.filterMap Call.status?).length

theorem updates_concat (calls : List Call) (c : Call) :
    updates (calls ++ [c]) = updates calls + c.status?.toList.length := by
  cases hstatus : c.status? <;> simp [updates, hstatus]

/-- Enabling after so many cycles without an answer: it goes on, or its timeout has ended it. -/
structure Unanswered (m : Machine) (heard : List AxisStatus) (timeout cycles : Nat) : Prop where
  lasts : timeout = 0 ∨ cycles < timeout →
    m.state = .enabling ∧ m.pending ≠ some .disable ∧ heard.length = cycles
  expires : 0 < timeout → cycles = timeout →
    m.state = .faulted ∧ m.fault = some .enableTimeout

section Unanswered

variable {m : Machine} {heard : List AxisStatus} {timeout cycles : Nat}

/-- A call that feeds no status and does not end the wait. -/
theorem Unanswered.submit (h : m.Unanswered heard timeout cycles) {command : OperatorCommand}
    (hkeeps : command ≠ .disable) : (m.submit command).2.Unanswered heard timeout cycles where
  lasts := by
    intro hlasts
    rcases h.lasts hlasts with ⟨hstate, hpending, hheard⟩
    refine ⟨(state_submit m command).trans hstate, ?_, hheard⟩
    rcases m.submit_cases command with ⟨-, hsubmit⟩ | ⟨refusal, -, hsubmit⟩
    · rw [hsubmit]
      simpa using hkeeps
    · rwa [hsubmit, pending_push]
  expires := by
    rw [state_submit, fault_submit]
    exact h.expires

/-- Of the statuses that do not answer, the one that uses up the timeout ends the wait. -/
theorem Unanswered.update (h : m.Unanswered heard m.enableTimeout cycles) (horderly : m.Orderly)
    (hcount : m.Countable) (hwaits : m.Waits heard) {s : AxisStatus} (hoff : s.enabled = false)
    (hfault : s.fault = false) :
    (m.update s).Unanswered (if (m.update s).state = m.state then heard ++ [s] else [])
      m.enableTimeout (cycles + 1) where
  lasts := by
    intro hlasts
    rcases h.lasts (by omega) with ⟨hstate, hdisable, hcycles⟩
    have hafter : (m.update s).state = .enabling := by
      rw [hwaits.update_enabling hcount hstate hfault hdisable, hoff, if_neg Bool.false_ne_true,
        if_neg (by omega), state_noted, hstate]
    rw [if_pos (hafter.trans hstate.symm), horderly.pending_update s, List.length_append, hcycles]
    exact ⟨hafter, nofun, rfl⟩
  expires := by
    intro htimeout hlast
    rcases h.lasts (by omega) with ⟨hstate, hdisable, hcycles⟩
    rw [hwaits.update_enabling hcount hstate hfault hdisable, hoff, if_neg Bool.false_ne_true,
      if_pos (by omega)]
    exact ⟨state_enterFault _ _, fault_enterFault _ _⟩

/-- A machine that enters enabling has all of its timeout to go. -/
theorem Unanswered.entered (horderly : m.Orderly) {c : Call} (hbefore : m.state ≠ .enabling)
    (hafter : (m.call c).state = .enabling) (timeout : Nat) :
    (m.call c).Unanswered [] timeout 0 where
  lasts := by
    intro _
    rcases exists_update_of_state (m := m) (c := c) (by rw [hafter]; exact hbefore.symm)
      (by simp [hafter]) with ⟨s, rfl⟩
    have hpending : (m.call (.update s)).pending = none := horderly.pending_update s
    exact ⟨hafter, by simp [hpending], rfl⟩
  expires := by
    intro htimeout hlast
    omega

end Unanswered

/-- The wait for the power stage, through all calls that do not end it. -/
theorem unanswered_run (settings : MotionSettings) (calls : List Call) (c : Call)
    (hbefore : ((new settings).run calls).state ≠ .enabling)
    (hafter : (((new settings).run calls).call c).state = .enabling) (later : List Call)
    (hkeeps : ∀ d ∈ later, d.KeepsWaiting) :
    ((new settings).run (calls ++ [c] ++ later)).Unanswered
      (heard settings (calls ++ [c] ++ later)) settings.enableTimeoutCycles.toNat
      (updates later) := by
  induction later using List.reverseRecOn with
  | nil =>
      rw [List.append_nil, run_concat, heard_concat, hafter, if_neg hbefore.symm]
      exact Unanswered.entered (orderly_run_new settings calls) hbefore hafter _
  | append_singleton rest d ih =>
      have hrest := ih fun e he => hkeeps e (List.mem_append_left _ he)
      have hlast := hkeeps d (List.mem_append_right _ (List.mem_singleton_self d))
      rw [← List.append_assoc, run_concat, updates_concat]
      generalize calls ++ [c] ++ rest = before at *
      cases d with
      | forceFault reason => exact hlast.elim
      | takeEvents =>
          rw [heard_of_silent rfl rfl]
          exact ⟨hrest.lasts, hrest.expires⟩
      | submit command =>
          have hstate : (((new settings).run before).call (.submit command)).state = _ :=
            state_submit _ command
          rw [heard_of_silent hstate rfl]
          exact hrest.submit hlast
      | update s =>
          have htimeout := enableTimeout_run settings before
          rw [← htimeout] at hrest
          rw [← htimeout, heard_concat]
          exact hrest.update (orderly_run_new settings before) (countable_run settings before)
            (waits_run settings before) hlast.1 hlast.2

/-! ## Every run -/

/-- How the machine waits after the calls. -/
structure TimedWaits (settings : MotionSettings) (calls : List Call) (m : Machine) : Prop where
  /-- A homed bit completes homing only after a status has told of the run. -/
  homed : m.state = .homing → ∀ s : AxisStatus,
    (m.update s).state = .ready
      ↔ s.fault = false ∧ m.pending ≠ some .disable
        ∧ (s.homing = some true
          ∨ s.homing = none ∧ s.homed ∧ ∃ earlier ∈ heard settings calls, earlier.tellsOfRun)
  /-- Homing that goes on has heard less than two timeouts; with the next status, neither of its
  steps is longer than one. -/
  homing : m.state = .homing → 0 < settings.homingTimeoutCycles →
    (heard settings calls).length < 2 * settings.homingTimeoutCycles.toNat
      ∧ ∀ s, (homingSteps (heard settings calls ++ [s])).1.length
            ≤ settings.homingTimeoutCycles.toNat
          ∧ (homingSteps (heard settings calls ++ [s])).2.length
            ≤ settings.homingTimeoutCycles.toNat
  enabling : m.state = .enabling → 0 < settings.enableTimeoutCycles →
    (heard settings calls).length < settings.enableTimeoutCycles.toNat
  /-- From entering on, without an answer, enabling lasts for its timeout and no longer. -/
  unanswered : ∀ c, m.state ≠ .enabling → (m.call c).state = .enabling → ∀ later,
    (∀ d ∈ later, Call.KeepsWaiting d) →
      (settings.enableTimeoutCycles = 0 ∨ updates later < settings.enableTimeoutCycles.toNat →
        ((m.call c).run later).state = .enabling)
      ∧ (0 < settings.enableTimeoutCycles → updates later = settings.enableTimeoutCycles.toNat →
        ((m.call c).run later).state = .faulted
          ∧ ((m.call c).run later).fault = some .enableTimeout)
  /-- Without a timeout, only the fault bit takes a wait to the fault state. -/
  untimed : m.state = .enabling ∧ settings.enableTimeoutCycles = 0
      ∨ m.state = .homing ∧ settings.homingTimeoutCycles = 0 →
    ∀ s : AxisStatus, (m.update s).state = .faulted ↔ s.fault
  /-- The end of a timeout of zero is on record only if a caller forced it. -/
  forced : ∀ reason, (new settings).timeoutOf reason = some 0 → m.fault = some reason →
    .forceFault reason ∈ calls

/-- In every machine in use homing is completed by the drive's report of its end and by nothing left
from before, a stay in homing ends within two timeouts and a stay in enabling within one, at its
last cycle if the drive does not answer, and a timeout of zero ends nothing. -/
theorem timed_waits (settings : MotionSettings) (calls : List Call) :
    TimedWaits settings calls ((new settings).run calls) := by
  have hwaits := waits_run settings calls
  have hcount := countable_run settings calls
  have henable := enableTimeout_run settings calls
  have hhoming := homingTimeout_run settings calls
  refine ⟨hwaits.ready_iff_of_homing, ?_, ?_, ?_, ?_, fun reason => forced_of_fault⟩
  · intro hstate htimeout
    have hpositive : 0 < ((new settings).run calls).homingTimeout := by
      rw [hhoming]
      exact htimeout
    rw [← hhoming]
    exact ⟨hwaits.length_lt_of_homing hcount hstate hpositive,
      hwaits.length_steps_le hcount hstate hpositive⟩
  · intro hstate htimeout
    have hpositive : 0 < ((new settings).run calls).enableTimeout := by
      rw [henable]
      exact htimeout
    rw [← henable]
    exact hwaits.length_lt_of_enabling hcount hstate hpositive
  · intro c hbefore hafter later hkeeps
    have hwait := unanswered_run settings calls c hbefore hafter later hkeeps
    rw [run_append, run_concat] at hwait
    refine ⟨fun hlasts => (hwait.lasts (hlasts.imp_left ?_)).1, hwait.expires⟩
    intro hzero
    rw [hzero]
    rfl
  · intro huntimed s
    refine ⟨fun hfaulted => ?_, state_update_of_fault ?_⟩
    · have hstate : ((new settings).run calls).state = .enabling
          ∨ ((new settings).run calls).state = .homing := huntimed.imp And.left And.left
      have hend := (update_step _ s).faulted_of_wait (by rwa [state_noted]) hfaulted
      rw [state_noted, enableTimeout_noted, homingTimeout_noted, henable, hhoming] at hend
      rcases hend with hfault | ⟨hhere, hexpired⟩ | ⟨hhere, hexpired⟩
      · exact hfault
      · rcases huntimed with ⟨-, hzero⟩ | ⟨hother, -⟩
        · rw [hzero] at hexpired
          cases hexpired
        · rw [hhere] at hother
          cases hother
      · rcases huntimed with ⟨hother, -⟩ | ⟨-, hzero⟩
        · rw [hhere] at hother
          cases hother
        · rw [hzero] at hexpired
          cases hexpired
    · rcases huntimed with ⟨hstate, -⟩ | ⟨hstate, -⟩ <;> rw [hstate] <;> rfl

end Machine
end Motion
end ServoLink
