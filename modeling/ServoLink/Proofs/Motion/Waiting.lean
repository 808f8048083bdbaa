import ServoLink.Proofs.Motion.Faults

/-!
# Waiting — what the axis machine heard, and how its tracker counts it

In two states the machine waits for the drive: it is enabling, or it is homing, in two steps.  What
it heard since the state was entered (`Machine.heard`) tells all of a wait: which step it is in, how
long it has lasted, and when it ends.  The tracker of the machine is this history, counted.

* `AxisStatus.tellsOfRun` — what the first step of homing waits for;
* `Machine.Waits` — the invariant: the tracker counts what was heard, and has not expired;
* `Machine.Waits.update_enabling`, `Machine.Waits.update_homing` — what an update makes of a wait;
* `Machine.waits_run` — every machine in use waits by what it heard.
-/

namespace ServoLink
namespace Motion

open ProcessData

/-- The status tells of a homing run under way, or of a reference given up for one. -/
def AxisStatus.tellsOfRun (s : AxisStatus) : Bool := s.homing.isSome || !s.homed

/-- What a homing machine hears, parted into its two steps.  The first lasts until a status tells of
the run; that one is its last. -/
def homingSteps : List AxisStatus → List AxisStatus × List AxisStatus
  | [] => ([], [])
  | s :: rest =>
      if s.tellsOfRun then ([s], rest)
      else (s :: (homingSteps rest).1, (homingSteps rest).2)

theorem homingSteps_append (heard : List AxisStatus) :
    (homingSteps heard).1 ++ (homingSteps heard).2 = heard := by
  induction heard with
  | nil => rfl
  | cons s rest ih =>
      unfold homingSteps
      split
      · rfl
      · exact congrArg (s :: ·) ih

/-- The last status belongs to the second step if one before it told of the run. -/
theorem homingSteps_concat (heard : List AxisStatus) (s : AxisStatus) :
    homingSteps (heard ++ [s]) =
      if heard.any AxisStatus.tellsOfRun then
        ((homingSteps heard).1, (homingSteps heard).2 ++ [s])
      else (heard ++ [s], []) := by
  induction heard with
  | nil => simp [homingSteps]
  | cons first rest ih =>
      cases hfirst : first.tellsOfRun with
      | true => simp [homingSteps, hfirst]
      | false =>
          simp only [List.cons_append, homingSteps, hfirst, List.any_cons, Bool.false_or, ih,
            Bool.false_eq_true, if_false]
          split <;> rfl

namespace StepTracker

/-- The tracker of a step that has lasted so many cycles. -/
def after (step cycles : Nat) : StepTracker := ⟨step, min cycles maxCycles⟩

@[simp] theorem step_after (step cycles : Nat) : (after step cycles).step = step := rfl

theorem tick_after (step cycles : Nat) : (after step cycles).tick = after step (cycles + 1) := by
  simp only [tick, after, mk.injEq, true_and]
  omega

/-- No timeout expires in no time. -/
theorem not_timedOut_begun (step timeout : Nat) : (after step 0).timedOut timeout = false := by
  simp only [timedOut, after, Nat.zero_min, Bool.and_eq_false_iff, decide_eq_false_iff_not]
  omega

/-- The count stops beyond every timeout that can be configured. -/
theorem timedOut_after {timeout : Nat} (h : timeout ≤ maxCycles) (step cycles : Nat) :
    (after step cycles).timedOut timeout ↔ 0 < timeout ∧ timeout ≤ cycles := by
  simp only [timedOut, after, Bool.and_eq_true, decide_eq_true_eq, Nat.le_min, h, and_true]

end StepTracker

open StepTracker (after)

/-- The tracker of a homing machine that heard the statuses. -/
def homingTracker (heard : List AxisStatus) : StepTracker :=
  if heard.any AxisStatus.tellsOfRun then after 1 (homingSteps heard).2.length
  else after 0 heard.length

namespace Machine

/-! ## What was heard -/

/-- The status that a call feeds, if any. -/
def Call.status? : Call → Option AxisStatus
  | .update s => some s
  | _ => none

/-- The statuses fed since the state was entered; those before the calls are known. -/
def heardAfter (m : Machine) (known : List AxisStatus) : List Call → List AxisStatus
  | [] => known
  | c :: rest =>
      (m.call c).heardAfter
        (if (m.call c).state = m.state then known ++ c.status?.toList else []) rest

/-- The statuses fed to a new machine since it entered the state it is in. -/
def heard (settings : MotionSettings) (calls : List Call) : List AxisStatus :=
  (new settings).heardAfter [] calls

theorem heardAfter_concat (m : Machine) (known : List AxisStatus) (calls : List Call) (c : Call) :
    m.heardAfter known (calls ++ [c]) =
      if ((m.run calls).call c).state = (m.run calls).state then
        m.heardAfter known calls ++ c.status?.toList
      else [] := by
  induction calls generalizing m known with
  | nil => rfl
  | cons first rest ih => exact ih (m.call first) _

/-- A call that keeps the state adds its status, any other begins anew. -/
theorem heard_concat (settings : MotionSettings) (calls : List Call) (c : Call) :
    heard settings (calls ++ [c]) =
      if (((new settings).run calls).call c).state = ((new settings).run calls).state then
        heard settings calls ++ c.status?.toList
      else [] :=
  heardAfter_concat (new settings) [] calls c

/-- A call that feeds no status and keeps the state adds nothing. -/
theorem heard_of_silent {settings : MotionSettings} {calls : List Call} {c : Call}
    (hstate : (((new settings).run calls).call c).state = ((new settings).run calls).state)
    (hnone : c.status? = none) : heard settings (calls ++ [c]) = heard settings calls := by
  rw [heard_concat, if_pos hstate, hnone]
  exact List.append_nil _

/-! ## The tracker and the timeouts -/

section Fields

variable (m : Machine)

@[simp] theorem sequence_push (event : Event) : (m.push event).sequence = m.sequence := by
  rcases m.push_eq event with ⟨events, h⟩
  simp [h]

/-- A state that is entered is tracked from its first cycle on. -/
theorem sequence_transition {target : MotionState} (h : m.state ≠ target) :
    (m.transition target).sequence = {} := by
  simp [transition, h]

@[simp] theorem sequence_noted (s : AxisStatus) : (m.noted s).sequence = m.sequence.tick := by
  rcases m.noted_eq s with ⟨fault, h⟩
  simp [h, observe]

/-- The timeouts of enabling and of homing. -/
def timeouts : Nat × Nat := (m.enableTimeout, m.homingTimeout)

@[simp] theorem timeouts_push (event : Event) : (m.push event).timeouts = m.timeouts := by
  rcases m.push_eq event with ⟨events, h⟩
  simp [h, timeouts]

@[simp] theorem timeouts_transition (target : MotionState) :
    (m.transition target).timeouts = m.timeouts := by
  unfold transition
  split
  · rfl
  · exact timeouts_push _ _

@[simp] theorem timeouts_enterFault (reason : FaultReason) :
    (m.enterFault reason).timeouts = m.timeouts := by
  unfold enterFault
  rw [timeouts_transition, timeouts_push]
  rfl

@[simp] theorem timeouts_noted (s : AxisStatus) : (m.noted s).timeouts = m.timeouts := by
  rcases m.noted_eq s with ⟨fault, h⟩
  simp [h, observe, timeouts]

end Fields

section Steps

variable {m m' : Machine} {s : AxisStatus}

theorem Step.timeouts (h : Step m s m') : m'.timeouts = m.timeouts := by
  cases h with
  | fault | enableTimeout | homingTimeout => exact timeouts_enterFault _ _
  | notReady => exact timeouts_push _ _
  | cleared =>
      rw [timeouts_transition, timeouts_push]
      rfl
  | enabled | homed | settled => exact timeouts_transition _ _
  | disable | enable | home | move | acknowledge => exact timeouts_transition _ _
  | stay | dropped | homingBegun | stop | stopAgain => rfl

/-- A step into another state starts its tracker afresh. -/
theorem Step.sequence_of_entered (h : Step m s m') (hentered : m'.state ≠ m.state) :
    m'.sequence = {} := by
  cases h with
  | fault | enableTimeout | homingTimeout =>
      rw [state_enterFault] at hentered
      refine sequence_transition _ ?_
      simpa using hentered.symm
  | cleared =>
      rw [state_transition] at hentered
      refine sequence_transition _ ?_
      simpa using hentered.symm
  | disable | enable | enabled | home | homed | move | settled | acknowledge =>
      rw [state_transition] at hentered
      exact sequence_transition _ hentered.symm
  | notReady => exact absurd (state_push _ _) hentered
  | stay | dropped | homingBegun | stop | stopAgain => exact absurd rfl hentered

theorem timeouts_call (m : Machine) (c : Call) : (m.call c).timeouts = m.timeouts := by
  cases c with
  | update s => exact (update_step m s).timeouts.trans (timeouts_noted m s)
  | takeEvents => rfl
  | submit command =>
      show (m.submit command).2.timeouts = m.timeouts
      rcases m.submit_cases command with ⟨-, hsubmit⟩ | ⟨refusal, -, hsubmit⟩
      · rw [hsubmit]
        rfl
      · rw [hsubmit, timeouts_push]
  | forceFault reason =>
      show (m.forceFault reason).timeouts = m.timeouts
      unfold forceFault
      split
      · rfl
      · exact timeouts_enterFault m reason

/-- The timeouts are those of the settings for good. -/
theorem timeouts_run (settings : MotionSettings) (calls : List Call) :
    ((new settings).run calls).timeouts =
      (settings.enableTimeoutCycles.toNat, settings.homingTimeoutCycles.toNat) := by
  induction calls using List.reverseRecOn with
  | nil => rfl
  | append_singleton rest c ih => rw [run_concat, timeouts_call, ih]

/-! ## One update of a wait -/

/-- What the rule of homing does, in either of its steps. -/
theorem updateHoming_eq (hstep : m.sequence.step = 0 ∨ m.sequence.step = 1) (s : AxisStatus) :
    m.updateHoming s =
      if s.homing = some true ∨ m.sequence.step = 1 ∧ s.homing = none ∧ s.homed then
        m.transition .ready
      else if m.sequence.step = 0 ∧ s.tellsOfRun then
        { m with sequence := m.sequence.advance }
      else if m.sequence.timedOut m.homingTimeout then m.enterFault .homingTimeout
      else m := by
  have htells : (s.homing.isSome || !s.homed) = s.tellsOfRun := rfl
  have hover : (s.homing.isNone && s.homed) = true ↔ s.homing = none ∧ s.homed := by simp
  unfold updateHoming
  rcases hstep with hstep | hstep
  · simp [hstep, htells]
  · by_cases hfinished : s.homing = some true
    · simp [hfinished]
    · simp [hstep, hover, hfinished]

theorem update_of_enabling (hstate : m.state = .enabling) (hfault : s.fault = false)
    (hdisable : m.pending ≠ some .disable) : m.update s = (m.noted s).updateEnabling s := by
  rw [update_of_clear hfault, if_neg hdisable, advance, state_noted, hstate]

theorem update_of_homing (hstate : m.state = .homing) (hfault : s.fault = false)
    (hdisable : m.pending ≠ some .disable) : m.update s = (m.noted s).updateHoming s := by
  rw [update_of_clear hfault, if_neg hdisable, advance, state_noted, hstate]

/-- A wait that goes on was not cut short. -/
theorem clear_of_state_update (hwait : m.state = .enabling ∨ m.state = .homing)
    (hafter : (m.update s).state = m.state) :
    s.fault = false ∧ m.pending ≠ some .disable := by
  have hnot : m.state.isFaulted = false := by
    rcases hwait with hstate | hstate <;> rw [hstate] <;> rfl
  cases hfault : s.fault with
  | true =>
      rw [update_of_fault hfault hnot, state_enterFault] at hafter
      rw [← hafter] at hnot
      cases hnot
  | false =>
      refine ⟨rfl, ?_⟩
      intro hdisable
      rw [update_of_clear hfault, if_pos hdisable, state_transition] at hafter
      rw [← hafter] at hwait
      simp at hwait

end Steps


/-! ## The tracker counts what was heard -/

/-- The tracker of a machine that waits counts what was heard, and has not expired.  The first step of
homing may be left with its last cycle. -/
structure Waits (m : Machine) (heard : List AxisStatus) : Prop where
  enabling : m.state = .enabling →
    m.sequence = after 0 heard.length ∧ m.sequence.timedOut m.enableTimeout = false
  homing : m.state = .homing →
    m.sequence = homingTracker heard ∧ m.sequence.timedOut m.homingTimeout = false
      ∧ (0 < m.homingTimeout → (homingSteps heard).1.length ≤ m.homingTimeout)

/-- The timeouts are numbers that the tracker reaches. -/
structure Countable (m : Machine) : Prop where
  enable : m.enableTimeout ≤ StepTracker.maxCycles
  homing : m.homingTimeout ≤ StepTracker.maxCycles

section Counted

variable {m m' : Machine} {s : AxisStatus} {heard : List AxisStatus}

theorem step_homingTracker (heard : List AxisStatus) :
    (homingTracker heard).step = if heard.any AxisStatus.tellsOfRun then 1 else 0 := by
  unfold homingTracker
  split <;> rfl

/-- A status that lets homing go on is one more cycle of its step, or opens the second step. -/
theorem homingTracker_concat (heard : List AxisStatus) (s : AxisStatus) :
    homingTracker (heard ++ [s]) =
      if (homingTracker heard).step = 0 ∧ s.tellsOfRun then (homingTracker heard).tick.advance
      else (homingTracker heard).tick := by
  cases htold : heard.any AxisStatus.tellsOfRun with
  | true =>
      simp [homingTracker, htold, homingSteps_concat, StepTracker.tick_after]
  | false =>
      cases htells : s.tellsOfRun with
      | true =>
          simp [homingTracker, htold, htells, homingSteps_concat, after, StepTracker.advance,
            StepTracker.tick]
      | false => simp [homingTracker, htold, htells, StepTracker.tick_after]

theorem timeouts_eq_iff :
    m'.timeouts = m.timeouts
      ↔ m'.enableTimeout = m.enableTimeout ∧ m'.homingTimeout = m.homingTimeout :=
  Prod.mk.injEq .. ▸ Iff.rfl

theorem homingTimeout_noted (m : Machine) (s : AxisStatus) :
    (m.noted s).homingTimeout = m.homingTimeout :=
  (timeouts_eq_iff.1 (timeouts_noted m s)).2

theorem enableTimeout_noted (m : Machine) (s : AxisStatus) :
    (m.noted s).enableTimeout = m.enableTimeout :=
  (timeouts_eq_iff.1 (timeouts_noted m s)).1

/-! ### An update of a wait, by what was heard -/

/-- Enabling ends with the power on, or when the timeout is used up. -/
theorem Waits.update_enabling (h : m.Waits heard) (hcount : m.Countable)
    (hstate : m.state = .enabling) (hfault : s.fault = false)
    (hdisable : m.pending ≠ some .disable) :
    m.update s =
      if s.enabled then (m.noted s).transition .ready
      else if 0 < m.enableTimeout ∧ m.enableTimeout ≤ heard.length + 1 then
        (m.noted s).enterFault .enableTimeout
      else m.noted s := by
  have hexpired := StepTracker.timedOut_after hcount.enable 0 (heard.length + 1)
  rw [update_of_enabling hstate hfault hdisable, updateEnabling, sequence_noted,
    enableTimeout_noted, (h.enabling hstate).1, StepTracker.tick_after]
  simp only [hexpired]

/-- Homing ends with its run, or when the timeout of a step is used up. -/
theorem Waits.update_homing (h : m.Waits heard) (hstate : m.state = .homing)
    (hfault : s.fault = false) (hdisable : m.pending ≠ some .disable) :
    m.update s =
      if s.homing = some true ∨ heard.any AxisStatus.tellsOfRun ∧ s.homing = none ∧ s.homed then
        (m.noted s).transition .ready
      else if heard.any AxisStatus.tellsOfRun = false ∧ s.tellsOfRun then
        { m.noted s with sequence := homingTracker (heard ++ [s]) }
      else if (homingTracker (heard ++ [s])).timedOut m.homingTimeout then
        (m.noted s).enterFault .homingTimeout
      else m.noted s := by
  have hsequence : (m.noted s).sequence = (homingTracker heard).tick := by
    rw [sequence_noted, (h.homing hstate).1]
  have hstep : (homingTracker heard).tick.step = (homingTracker heard).step := rfl
  have hknown : (m.noted s).sequence.step = 0 ∨ (m.noted s).sequence.step = 1 := by
    rw [hsequence, hstep, step_homingTracker]
    split
    · exact Or.inr rfl
    · exact Or.inl rfl
  rw [update_of_homing hstate hfault hdisable, updateHoming_eq hknown, hsequence,
    homingTracker_concat, ← homingTimeout_noted m s]
  cases htold : heard.any AxisStatus.tellsOfRun with
  | true => simp [hstep, step_homingTracker, htold]
  | false => cases htells : s.tellsOfRun <;> simp [hstep, step_homingTracker, htold]

end Counted

/-! ### The calls -/

section Calls

variable {m m' : Machine} {s : AxisStatus} {heard : List AxisStatus}

/-- A state that was entered just now is tracked from its first cycle on. -/
theorem Waits.fresh (h : m.sequence = {}) : m.Waits [] where
  enabling _ := by
    rw [h]
    exact ⟨rfl, StepTracker.not_timedOut_begun 0 _⟩
  homing _ := by
    rw [h]
    exact ⟨rfl, StepTracker.not_timedOut_begun 0 _, fun _ => Nat.zero_le _⟩

theorem Waits.same (h : m.Waits heard) (hstate : m'.state = m.state)
    (hsequence : m'.sequence = m.sequence) (htimeouts : m'.timeouts = m.timeouts) :
    m'.Waits heard := by
  rw [timeouts_eq_iff] at htimeouts
  constructor
  · rw [hstate, hsequence, htimeouts.1]
    exact h.enabling
  · rw [hstate, hsequence, htimeouts.2]
    exact h.homing

/-- Enabling that goes on has a cycle more, and one at least to go. -/
theorem Waits.update_of_enabling (h : m.Waits heard) (hcount : m.Countable)
    (hstate : m.state = .enabling) (hafter : (m.update s).state = .enabling) :
    (m.update s).Waits (heard ++ [s]) := by
  rcases clear_of_state_update (Or.inl hstate) (hafter.trans hstate.symm) with ⟨hfault, hdisable⟩
  rw [h.update_enabling hcount hstate hfault hdisable] at hafter ⊢
  split at hafter
  · simp at hafter
  · rename_i hoff
    rw [if_neg hoff]
    split at hafter
    · simp at hafter
    · rename_i hlasts
      rw [if_neg hlasts]
      have hsequence : (m.noted s).sequence = after 0 (heard ++ [s]).length := by
        rw [sequence_noted, (h.enabling hstate).1, StepTracker.tick_after, List.length_append]
        rfl
      refine ⟨fun _ => ⟨hsequence, ?_⟩, fun hhoming => ?_⟩
      · rw [hsequence, enableTimeout_noted, Bool.eq_false_iff, Ne,
          StepTracker.timedOut_after hcount.enable, List.length_append]
        exact hlasts
      · rw [hafter] at hhoming
        cases hhoming

/-- The first step of homing is left within its timeout, if that has not expired. -/
theorem Waits.length_firstStep_le (h : m.Waits heard) (hcount : m.Countable)
    (hstate : m.state = .homing) (htimeout : 0 < m.homingTimeout) (s : AxisStatus) :
    (homingSteps (heard ++ [s])).1.length ≤ m.homingTimeout := by
  rcases h.homing hstate with ⟨hsequence, hlasts, hfirst⟩
  rw [homingSteps_concat]
  cases htold : heard.any AxisStatus.tellsOfRun with
  | true => exact hfirst htimeout
  | false =>
      rw [hsequence, homingTracker, htold, Bool.eq_false_iff, Ne, if_neg Bool.false_ne_true,
        StepTracker.timedOut_after hcount.homing] at hlasts
      simp only [Bool.false_eq_true, if_false, List.length_append, List.length_singleton]
      omega

/-- Homing that goes on has a cycle more of its step, and one at least to go. -/
theorem Waits.update_of_homing (h : m.Waits heard) (hcount : m.Countable)
    (hstate : m.state = .homing) (hafter : (m.update s).state = .homing) :
    (m.update s).Waits (heard ++ [s]) := by
  have hfirst := fun htimeout => h.length_firstStep_le hcount hstate htimeout s
  have htimeouts : (m.update s).homingTimeout = m.homingTimeout :=
    (timeouts_eq_iff.1 (timeouts_call m (.update s))).2
  refine ⟨fun henabling => ?_, fun _ => ?_⟩
  · rw [hafter] at henabling
    cases henabling
  rw [htimeouts]
  refine and_assoc.1 ⟨?_, hfirst⟩
  rcases clear_of_state_update (Or.inr hstate) (hafter.trans hstate.symm) with ⟨hfault, hdisable⟩
  have hnoted : (m.noted s).sequence = (homingTracker heard).tick := by
    rw [sequence_noted, (h.homing hstate).1]
  rw [h.update_homing hstate hfault hdisable] at hafter ⊢
  split at hafter
  · simp at hafter
  · rename_i hgoes
    rw [if_neg hgoes]
    split at hafter
    · rename_i hbegun
      rw [if_pos hbegun]
      refine ⟨rfl, ?_⟩
      have hsecond : homingTracker (heard ++ [s]) = after 1 0 := by
        simp [homingTracker, homingSteps_concat, hbegun.1, hbegun.2]
      rw [hsecond]
      exact StepTracker.not_timedOut_begun 1 _
    · rename_i hsame
      rw [if_neg hsame]
      split at hafter
      · simp at hafter
      · rename_i hlasts
        rw [if_neg hlasts]
        have hsequence : homingTracker (heard ++ [s]) = (homingTracker heard).tick := by
          rw [homingTracker_concat, step_homingTracker]
          refine if_neg ?_
          simpa using hsame
        rw [hnoted, ← hsequence]
        exact ⟨rfl, Bool.eq_false_iff.2 hlasts⟩

theorem Waits.update (h : m.Waits heard) (hcount : m.Countable) (s : AxisStatus) :
    (m.update s).Waits (if (m.update s).state = m.state then heard ++ [s] else []) := by
  split
  · rename_i hsame
    -- A machine in any other state waits for nothing.
    by_cases henabling : m.state = .enabling
    · exact h.update_of_enabling hcount henabling (hsame.trans henabling)
    by_cases hhoming : m.state = .homing
    · exact h.update_of_homing hcount hhoming (hsame.trans hhoming)
    rw [← hsame] at henabling hhoming
    exact ⟨fun hstate => absurd hstate henabling, fun hstate => absurd hstate hhoming⟩
  · rename_i hentered
    refine Waits.fresh ((update_step m s).sequence_of_entered ?_)
    rwa [state_noted]

theorem Waits.call (h : m.Waits heard) (hcount : m.Countable) (c : Call) :
    (m.call c).Waits (if (m.call c).state = m.state then heard ++ c.status?.toList else []) := by
  cases c with
  | update s => exact h.update hcount s
  | takeEvents =>
      have hsame : (m.call .takeEvents).Waits heard := h.same rfl rfl rfl
      rw [if_pos (show (m.call .takeEvents).state = m.state from rfl)]
      simpa [Call.status?] using hsame
  | submit command =>
      have hstate : (m.call (.submit command)).state = m.state := state_submit m command
      have hsequence : (m.submit command).2.sequence = m.sequence := by
        rcases m.submit_cases command with ⟨-, hsubmit⟩ | ⟨refusal, -, hsubmit⟩
        · rw [hsubmit]
        · rw [hsubmit, sequence_push]
      rw [if_pos hstate]
      simpa [Call.status?] using
        h.same hstate hsequence (timeouts_call m (.submit command))
  | forceFault reason =>
      have hstate : (m.call (.forceFault reason)).state = .faulted := state_forceFault m reason
      constructor
      · intro hother
        rw [hstate] at hother
        cases hother
      · intro hother
        rw [hstate] at hother
        cases hother

end Calls

section Runs

variable (settings : MotionSettings) (calls : List Call)

theorem enableTimeout_run :
    ((new settings).run calls).enableTimeout = settings.enableTimeoutCycles.toNat :=
  congrArg Prod.fst (timeouts_run settings calls)

theorem homingTimeout_run :
    ((new settings).run calls).homingTimeout = settings.homingTimeoutCycles.toNat :=
  congrArg Prod.snd (timeouts_run settings calls)

theorem countable_run : ((new settings).run calls).Countable where
  enable := by
    rw [enableTimeout_run]
    exact Nat.le_sub_one_of_lt settings.enableTimeoutCycles.toNat_lt_size
  homing := by
    rw [homingTimeout_run]
    exact Nat.le_sub_one_of_lt settings.homingTimeoutCycles.toNat_lt_size

/-- Every machine in use waits by what it heard. -/
theorem waits_run : ((new settings).run calls).Waits (heard settings calls) := by
  induction calls using List.reverseRecOn with
  | nil => exact Waits.fresh rfl
  | append_singleton rest c ih =>
      rw [run_concat, heard_concat]
      exact ih.call (countable_run settings rest) c

end Runs

end Machine
end Motion
end ServoLink
