import ServoLink.Proofs.Motion.Calls

/-!
# Reports — the events of one call

A call reports each change of the state as an event.  The machine holds a few events only, so the
changes of a call are read from a machine whose events were just taken (`Machine.changes`); that the
events do not matter to anything else makes this a reading of the call itself.

* `Machine.alike_call` — machines that differ in their events only do so after every call;
* `Machine.changes_call` — a call changes the state once at most.
-/

namespace ServoLink

/-- The change of the axis state that an event reports. -/
def Event.change? : Event → Option (MotionState × MotionState)
  | .motionStateChanged source target => some (source, target)
  | _ => none

/-- The event is one that the axis machine raises. -/
def Event.isOfAxis : Event → Bool
  | .faultEntered _ | .faultCleared | .motionStateChanged .. | .commandRejected .. => true
  | _ => false

namespace Motion
namespace Machine

open ProcessData

/-! ## Machines alike but for their events -/

/-- The two machines differ in their events at most. -/
def Alike (m m' : Machine) : Prop := ∃ events, m' = { m with events }

section Alike

variable {m m' m'' : Machine}

theorem Alike.symm (h : Alike m m') : Alike m' m := by
  rcases h with ⟨events, rfl⟩
  exact ⟨m.events, rfl⟩

theorem Alike.trans (h : Alike m m') (h' : Alike m' m'') : Alike m m'' := by
  rcases h with ⟨events, rfl⟩
  rcases h' with ⟨events', rfl⟩
  exact ⟨events', rfl⟩

theorem Alike.state (h : Alike m m') : m'.state = m.state := by
  rcases h with ⟨events, rfl⟩
  rfl

theorem alike_push (m : Machine) (event : Event) : Alike m (m.push event) := m.push_eq event

theorem Alike.push (h : Alike m m') (event event' : Event) :
    Alike (m.push event) (m'.push event') :=
  ((alike_push m event).symm.trans h).trans (alike_push m' event')

theorem Alike.transition (h : Alike m m') (target : MotionState) :
    Alike (m.transition target) (m'.transition target) := by
  rcases h with ⟨events, rfl⟩
  unfold Machine.transition
  dsimp only
  split
  · exact ⟨events, rfl⟩
  · exact Alike.push ⟨events, rfl⟩ _ _

theorem Alike.enterFault (h : Alike m m') (reason : FaultReason) :
    Alike (m.enterFault reason) (m'.enterFault reason) := by
  rcases h with ⟨events, rfl⟩
  refine Alike.transition (Alike.push ?_ _ _) _
  exact ⟨events, rfl⟩

theorem Alike.updateDisabled (h : Alike m m') (s : AxisStatus) :
    Alike (m.updateDisabled s) (m'.updateDisabled s) := by
  rcases h with ⟨events, rfl⟩
  unfold Machine.updateDisabled
  dsimp only
  split
  · split
    · exact Alike.transition ⟨events, rfl⟩ _
    · exact Alike.push ⟨events, rfl⟩ _ _
  · exact ⟨events, rfl⟩

theorem Alike.updateEnabling (h : Alike m m') (s : AxisStatus) :
    Alike (m.updateEnabling s) (m'.updateEnabling s) := by
  have htransition := h.transition .ready
  have hfault := h.enterFault .enableTimeout
  rcases h with ⟨events, rfl⟩
  unfold Machine.updateEnabling
  dsimp only
  split
  · exact htransition
  · split
    · exact hfault
    · exact ⟨events, rfl⟩

theorem Alike.updateReady (h : Alike m m') : Alike m.updateReady m'.updateReady := by
  rcases h with ⟨events, rfl⟩
  unfold Machine.updateReady
  dsimp only
  split
  · exact Alike.transition ⟨events, rfl⟩ _
  · exact Alike.transition ⟨events, rfl⟩ _
  · exact ⟨events, rfl⟩

theorem Alike.updateHoming (h : Alike m m') (s : AxisStatus) :
    Alike (m.updateHoming s) (m'.updateHoming s) := by
  have htransition := h.transition .ready
  have hfault := h.enterFault .homingTimeout
  rcases h with ⟨events, rfl⟩
  unfold Machine.updateHoming
  dsimp only
  split
  · exact htransition
  · split
    · split
      · exact ⟨events, rfl⟩
      · split
        · exact hfault
        · exact ⟨events, rfl⟩
    · split
      · exact htransition
      · split
        · exact hfault
        · exact ⟨events, rfl⟩
    · exact ⟨events, rfl⟩

theorem Alike.updateMoving (h : Alike m m') (s : AxisStatus) :
    Alike (m.updateMoving s) (m'.updateMoving s) := by
  have htransition := h.transition .ready
  rcases h with ⟨events, rfl⟩
  unfold Machine.updateMoving
  dsimp only
  split
  · split
    · exact ⟨events, rfl⟩
    · exact ⟨events, rfl⟩
  · by_cases hsettled : m.settled s
    · rw [if_pos hsettled, if_pos (show Machine.settled { m with events } s from hsettled)]
      exact htransition
    · rw [if_neg hsettled, if_neg (show ¬ Machine.settled { m with events } s from hsettled)]
      exact ⟨events, rfl⟩

theorem Alike.updateFaulted (h : Alike m m') : Alike m.updateFaulted m'.updateFaulted := by
  rcases h with ⟨events, rfl⟩
  unfold Machine.updateFaulted
  dsimp only
  split
  · exact Alike.transition ⟨events, rfl⟩ _
  · exact ⟨events, rfl⟩

theorem Alike.updateAcknowledge (h : Alike m m') (s : AxisStatus) :
    Alike (m.updateAcknowledge s) (m'.updateAcknowledge s) := by
  rcases h with ⟨events, rfl⟩
  unfold Machine.updateAcknowledge
  dsimp only
  split
  · exact ⟨events, rfl⟩
  · exact Alike.transition (Alike.push ⟨events, rfl⟩ _ _) _

theorem Alike.advance (h : Alike m m') (s : AxisStatus) :
    Alike (m.advance s) (m'.advance s) := by
  unfold Machine.advance
  rw [h.state]
  split
  · exact h.updateDisabled s
  · exact h.updateEnabling s
  · exact h.updateReady
  · exact h.updateHoming s
  · exact h.updateMoving s
  · exact h.updateFaulted
  · exact h.updateAcknowledge s

theorem Alike.noted (h : Alike m m') (s : AxisStatus) : Alike (m.noted s) (m'.noted s) := by
  rcases h with ⟨events, rfl⟩
  have hobserved : ({ m with events }.observe s) = { m.observe s with events } := rfl
  unfold Machine.noted Machine.escalate
  rw [hobserved]
  dsimp only
  split
  · split
    · exact ⟨events, rfl⟩
    · exact ⟨events, rfl⟩
  · exact ⟨events, rfl⟩

theorem Alike.update (h : Alike m m') (s : AxisStatus) : Alike (m.update s) (m'.update s) := by
  have hstate : (m'.observe s).state = (m.observe s).state := h.state
  have hobserved : Alike (m.observe s) (m'.observe s) := by
    rcases h with ⟨events, rfl⟩
    exact ⟨events, rfl⟩
  have hnoted : Alike ((m.observe s).escalate s) ((m'.observe s).escalate s) := h.noted s
  unfold Machine.update
  dsimp only
  rw [hstate]
  split
  · exact hobserved.enterFault _
  · have hpending : ((m'.observe s).escalate s).pending = ((m.observe s).escalate s).pending := by
      rcases hnoted with ⟨events, hevents⟩
      rw [hevents]
    rw [hpending]
    split
    · refine Alike.transition ?_ _
      rcases hnoted with ⟨events, hevents⟩
      exact ⟨events, by rw [hevents]⟩
    · exact hnoted.advance s

theorem Alike.submit (h : Alike m m') (command : OperatorCommand) :
    Alike (m.submit command).2 (m'.submit command).2 := by
  have hverdict : m'.verdict command = m.verdict command := by
    rcases h with ⟨events, rfl⟩
    rfl
  unfold Machine.submit
  rw [hverdict]
  split
  · rcases h with ⟨events, rfl⟩
    exact ⟨events, rfl⟩
  · exact h.push _ _

theorem Alike.forceFault (h : Alike m m') (reason : FaultReason) :
    Alike (m.forceFault reason) (m'.forceFault reason) := by
  unfold Machine.forceFault
  rw [h.state]
  split
  · exact h
  · exact h.enterFault reason

/-- Whatever is called, the events held do not matter. -/
theorem alike_call (h : Alike m m') (c : Call) : Alike (m.call c) (m'.call c) := by
  cases c with
  | submit command => exact h.submit command
  | update s => exact h.update s
  | forceFault reason => exact h.forceFault reason
  | takeEvents =>
      rcases h with ⟨events, rfl⟩
      exact ⟨[], rfl⟩

end Alike

/-! ## Changes of the state -/

/-- The changes of the state among the events held, oldest first. -/
def reported (m : Machine) : List (MotionState × MotionState) := m.events.filterMap Event.change?

/-- The changes of the state that a call makes. -/
def changes (m : Machine) (c : Call) : List (MotionState × MotionState) :=
  (m.takeEvents.2.call c).reported

/-- The change from a state to another, if they differ. -/
def change (source target : MotionState) : List (MotionState × MotionState) :=
  if source = target then [] else [(source, target)]

@[simp] theorem change_self (state : MotionState) : change state state = [] := by
  simp [change]

section Reported

variable {m : Machine}

theorem reported_push {event : Event} (h : event.change? = none) :
    (m.push event).reported = m.reported := by
  unfold push
  split
  · simp [reported, h]
  · rfl

theorem length_push_lt (h : m.events.length + 1 < eventCapacity) (event : Event) :
    (m.push event).events.length < eventCapacity := by
  unfold push
  split
  · simpa using h
  · omega

theorem reported_transition (hroom : m.events.length < eventCapacity) (target : MotionState) :
    (m.transition target).reported = m.reported ++ change m.state target := by
  unfold transition change
  split
  · simp
  · simp [push, hroom, reported, Event.change?]

theorem reported_enterFault (hroom : m.events.length + 1 < eventCapacity) (reason : FaultReason) :
    (m.enterFault reason).reported = m.reported ++ change m.state .faulted := by
  let entered : Machine := { m with fault := some reason, pending := none, active := none }
  have hpushed : (entered.push (.faultEntered reason)).reported = m.reported := reported_push rfl
  have hstate : (entered.push (.faultEntered reason)).state = m.state := state_push _ _
  have hlength : (entered.push (.faultEntered reason)).events.length < eventCapacity := by
    refine length_push_lt ?_ _
    exact hroom
  have htransition := reported_transition hlength .faulted
  rw [hpushed, hstate] at htransition
  exact htransition

/-- A transition is the only change, if nothing was reported before it. -/
theorem reported_of_transition {n : Machine} (hstate : n.state = m.state)
    (hroom : n.events.length < eventCapacity) (hnone : n.reported = []) (target : MotionState) :
    (n.transition target).reported = change m.state (n.transition target).state := by
  rw [reported_transition hroom, state_transition, hnone, hstate]
  rfl

/-- A noted status changes the state once at most. -/
theorem Step.reported {m' : Machine} {s : AxisStatus} (h : Step m s m') (hnone : m.events = []) :
    m'.reported = change m.state m'.state := by
  have hroom : m.events.length + 1 < eventCapacity := by
    rw [hnone]
    decide
  have hlast : m.events.length < eventCapacity := Nat.lt_of_succ_lt hroom
  have hreported : m.reported = [] := by simp [Machine.reported, hnone]
  cases h with
  -- The state is kept, and nothing but a refusal is reported.
  | stay | dropped | homingBegun | stop | stopAgain =>
      exact hreported.trans (change_self m.state).symm
  | notReady =>
      rw [reported_push rfl, state_push]
      exact hreported.trans (change_self m.state).symm
  | fault | enableTimeout | homingTimeout => simp [reported_enterFault hroom, hreported]
  | disable | enable | enabled | home | homed | move | settled | acknowledge =>
      refine reported_of_transition ?_ ?_ ?_ _
      · rfl
      · exact hlast
      · exact hreported
  | cleared =>
      refine reported_of_transition ?_ (length_push_lt ?_ _) ?_ _
      · exact state_push _ _
      · exact hroom
      · exact (reported_push rfl).trans hreported

theorem reported_call (hnone : m.events = []) (c : Call) :
    (m.call c).reported = change m.state (m.call c).state := by
  have hreported : m.reported = [] := by simp [reported, hnone]
  cases c with
  | takeEvents => exact (change_self m.state).symm
  | submit command =>
      simp only [call]
      rw [state_submit, change_self]
      rcases m.submit_cases command with ⟨-, hsubmit⟩ | ⟨refusal, -, hsubmit⟩
      · rw [hsubmit]
        exact hreported
      · rw [hsubmit, reported_push rfl]
        exact hreported
  | update s =>
      have hnoted : (m.noted s).events = [] := by
        rcases m.noted_eq s with ⟨fault, hfault⟩
        rw [hfault]
        exact hnone
      have hstep := (update_step m s).reported hnoted
      rw [state_noted] at hstep
      exact hstep
  | forceFault reason =>
      simp only [call, Machine.forceFault]
      split
      · rw [hreported, change_self]
      · rw [reported_enterFault (by rw [hnone]; decide), hreported, state_enterFault]
        rfl

end Reported

/-- A call changes the state once at most: from what it was to what it is then. -/
theorem changes_call (m : Machine) (c : Call) : m.changes c = change m.state (m.call c).state := by
  have halike : Alike m m.takeEvents.2 := ⟨[], rfl⟩
  have hstate := (alike_call halike c).state
  have hreported := reported_call (m := m.takeEvents.2) rfl c
  rw [hstate] at hreported
  exact hreported

/-! ## Events held -/

section Held

variable {m : Machine}

/-- An offered command is refused, or nothing is reported. -/
theorem events_submit (m : Machine) (command : OperatorCommand) :
    ∃ refused, (m.submit command).2.events = m.events ++ refused
      ∧ (refused = [] ∨ refused = [.commandRejected command.name m.state]) := by
  rcases m.submit_cases command with ⟨-, hsubmit⟩ | ⟨refusal, -, hsubmit⟩
  · rw [hsubmit]
    exact ⟨[], (List.append_nil _).symm, Or.inl rfl⟩
  · rw [hsubmit]
    unfold push
    split
    · exact ⟨_, rfl, Or.inr rfl⟩
    · exact ⟨[], (List.append_nil _).symm, Or.inl rfl⟩

/-- A fault is reported before the change into the fault state. -/
theorem events_forceFault (hroom : m.events.length + 1 < eventCapacity) (reason : FaultReason) :
    (m.forceFault reason).events = m.events
      ++ if m.state = .faulted then []
        else [.faultEntered reason, .motionStateChanged m.state .faulted] := by
  unfold forceFault
  split
  · exact (List.append_nil _).symm
  · rename_i hstate
    have hlast : m.events.length < eventCapacity := Nat.lt_of_succ_lt hroom
    simp [enterFault, transition, push, hlast, hroom, hstate]

/-- Every event held is one of the axis. -/
def Axial (m : Machine) : Prop := ∀ event ∈ m.events, event.isOfAxis

theorem Axial.push (h : m.Axial) {event : Event} (hevent : event.isOfAxis) :
    (m.push event).Axial := by
  unfold Machine.push
  split
  · intro held hheld
    rcases List.mem_append.1 hheld with hearlier | hnew
    · exact h held hearlier
    · rw [List.mem_singleton.1 hnew]
      exact hevent
  · exact h

theorem Axial.transition (h : m.Axial) (target : MotionState) : (m.transition target).Axial := by
  unfold Machine.transition
  split
  · exact h
  · refine Axial.push ?_ rfl
    exact h

theorem Axial.enterFault (h : m.Axial) (reason : FaultReason) : (m.enterFault reason).Axial := by
  refine Axial.transition (Axial.push ?_ rfl) _
  exact h

theorem Axial.submit (h : m.Axial) (command : OperatorCommand) :
    (m.submit command).2.Axial := by
  rcases m.submit_cases command with ⟨-, hsubmit⟩ | ⟨refusal, -, hsubmit⟩
  · rw [hsubmit]
    exact h
  · rw [hsubmit]
    exact h.push rfl

theorem Axial.step {m' : Machine} {s : AxisStatus} (h : m.Axial) (hstep : Step m s m') :
    m'.Axial := by
  cases hstep with
  | stay | dropped | homingBegun | stop | stopAgain => exact h
  | fault | enableTimeout | homingTimeout => exact h.enterFault _
  | notReady =>
      refine Axial.push ?_ rfl
      exact h
  | disable | enable | enabled | home | homed | move | settled | acknowledge =>
      refine Axial.transition ?_ _
      exact h
  | cleared =>
      refine Axial.transition (Axial.push ?_ rfl) _
      exact h

theorem Axial.update (h : m.Axial) (s : AxisStatus) : (m.update s).Axial := by
  have hnoted : (m.noted s).Axial := by
    rcases m.noted_eq s with ⟨fault, hfault⟩
    rw [hfault]
    exact h
  exact hnoted.step (update_step m s)

theorem Axial.forceFault (h : m.Axial) (reason : FaultReason) : (m.forceFault reason).Axial := by
  unfold Machine.forceFault
  split
  · exact h
  · exact h.enterFault reason

theorem Axial.call (h : m.Axial) (c : Call) : (m.call c).Axial := by
  cases c with
  | submit command => exact h.submit command
  | update s => exact h.update s
  | forceFault reason => exact h.forceFault reason
  | takeEvents => rintro event ⟨⟩

theorem Axial.run (h : m.Axial) (calls : List Call) : (m.run calls).Axial := by
  induction calls generalizing m with
  | nil => exact h
  | cons c rest ih => exact ih (h.call c)

end Held

end Machine
end Motion
end ServoLink
