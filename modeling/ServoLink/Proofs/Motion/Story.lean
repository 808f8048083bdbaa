import ServoLink.Proofs.Motion.Reports

/-!
# Story — what the events of the axis machine tell

An observer of the machine alone, without its buffer, can say what it has to report: a refusal, a
fault entered or cleared, a change of the state (`Machine.raised`).  A call reports two events at
most, so that a buffer with room for two loses none.

* `Machine.events_call`, `Machine.events_run` — the events held are the ones to be reported;
* `Machine.chain_story` — the reported changes lead from the first state to the last;
* `Machine.announced_story` — a fault entered is followed at once by the change into the fault
  state.
-/

namespace ServoLink

/-- The fault that an event reports as entered. -/
def Event.fault? : Event → Option FaultReason
  | .faultEntered reason => some reason
  | _ => none

/-- Every fault entered is followed at once by the change into the fault state. -/
def Announced (events : List Event) : Prop :=
  ∀ before reason later, events = before ++ .faultEntered reason :: later →
    ∃ source rest, later = .motionStateChanged source .faulted :: rest

theorem announced_of_none {events : List Event} (h : ∀ event ∈ events, event.fault? = none) :
    Announced events := by
  rintro before reason later rfl
  have hnone := h (.faultEntered reason) (by simp)
  cases hnone

theorem announced_fault (reason : FaultReason) (source : MotionState) :
    Announced [.faultEntered reason, .motionStateChanged source .faulted] := by
  intro before entered later hsplit
  rcases before with _ | ⟨first, _ | ⟨second, rest⟩⟩
  · cases hsplit
    exact ⟨source, [], rfl⟩
  · cases hsplit
  · simp at hsplit

theorem Announced.append {first second : List Event} (h : Announced first)
    (h' : Announced second) : Announced (first ++ second) := by
  intro before reason later hsplit
  rcases List.append_eq_append_iff.1 hsplit with ⟨middle, rfl, hsecond⟩ | ⟨middle, hfirst, hlater⟩
  · exact h' middle reason later hsecond
  · -- The fault is in the first part, or right at the start of the second.
    cases middle with
    | nil => exact h' [] reason later hlater.symm
    | cons event rest =>
        rw [List.cons_append] at hlater
        rcases List.cons.inj hlater with ⟨rfl, rfl⟩
        rcases h before reason rest hfirst with ⟨source, tail, rfl⟩
        exact ⟨source, tail ++ second, rfl⟩

namespace Motion

/-- The changes lead from one state to another, each from where the one before it led and none to
where it began. -/
inductive Chain : MotionState → List (MotionState × MotionState) → MotionState → Prop where
  | nil (state : MotionState) : Chain state [] state
  | cons {source next target : MotionState} {changes : List (MotionState × MotionState)}
      (hne : source ≠ next) (hrest : Chain next changes target) :
      Chain source ((source, next) :: changes) target

theorem Chain.append {source next target : MotionState}
    {first second : List (MotionState × MotionState)} (h : Chain source first next)
    (hrest : Chain next second target) : Chain source (first ++ second) target := by
  induction h with
  | nil _ => exact hrest
  | cons hne _ ih => exact .cons hne (ih hrest)

namespace Machine

theorem chain_change (source target : MotionState) :
    Chain source (change source target) target := by
  unfold change
  split
  · rename_i hsame
    rw [hsame]
    exact .nil target
  · rename_i hne
    exact .cons hne (.nil target)

/-! ## What is to be reported -/

/-- What there is to report when one machine has become the other: a change of the state, with the
fault that was entered or cleared by it, or an enable that was used up in vain. -/
def told (m m' : Machine) : List Event :=
  if m'.state = m.state then
    if m.state = .disabled ∧ m.pending = some .enable ∧ m'.pending = none then
      [.commandRejected OperatorCommand.enable.name .disabled]
    else []
  else
    (if m'.state = .faulted then m'.fault.toList.map .faultEntered
      else if m.state = .faultAcknowledge then [.faultCleared] else [])
    ++ [.motionStateChanged m.state m'.state]

/-- The refusal of an offered command. -/
def refused (m : Machine) : Call → List Event
  | .submit command =>
      match m.verdict command with
      | .ok () => []
      | .error _ => [.commandRejected command.name m.state]
  | _ => []

/-- What a call has to report. -/
def raised (m : Machine) (c : Call) : List Event := m.refused c ++ m.told (m.call c)

/-- What a run of calls has to report. -/
def story (m : Machine) : List Call → List Event
  | [] => []
  | c :: later => m.raised c ++ (m.call c).story later

/-! ## What is reported -/

section Events

variable {m m' : Machine} {s : AxisStatus}

theorem events_transition (hroom : m.events.length < eventCapacity) (target : MotionState) :
    (m.transition target).events = m.events
      ++ if m.state = target then [] else [.motionStateChanged m.state target] := by
  unfold transition
  split
  · exact (List.append_nil _).symm
  · simp [push, hroom]

theorem events_enterFault (hroom : m.events.length + 1 < eventCapacity)
    (hstate : m.state ≠ .faulted) (reason : FaultReason) :
    (m.enterFault reason).events = m.events
      ++ [.faultEntered reason, .motionStateChanged m.state .faulted] := by
  have hforced := events_forceFault hroom reason
  rw [if_neg hstate, forceFault, if_neg hstate] at hforced
  exact hforced

theorem told_of_fault (hstate : m.state ≠ .faulted) (reason : FaultReason) :
    m.told (m.enterFault reason) =
      [.faultEntered reason, .motionStateChanged m.state .faulted] := by
  simp [told, hstate.symm]

theorem told_of_kept (hstate : m'.state = m.state)
    (hpending : m.state = .disabled → m.pending = some .enable → m'.pending.isSome) :
    m.told m' = [] := by
  unfold told
  rw [if_pos hstate, if_neg]
  rintro ⟨hdisabled, henable, hnone⟩
  have hsome := hpending hdisabled henable
  rw [hnone] at hsome
  cases hsome

theorem events_of_kept (hstate : m'.state = m.state)
    (hpending : m.state = .disabled → m.pending = some .enable → m'.pending.isSome)
    (hevents : m'.events = m.events) :
    m'.events = m.events ++ m.told m' := by
  rw [told_of_kept hstate hpending, List.append_nil]
  exact hevents

/-- A transition out of a state that holds no fault, to one that does not either. -/
theorem events_of_transition {n : Machine} {target : MotionState} (hstate : n.state = m.state)
    (hevents : n.events = m.events) (hroom : m.events.length < eventCapacity)
    (hne : m.state ≠ target) (hsource : m.state ≠ .faultAcknowledge)
    (htarget : target ≠ .faulted) :
    (n.transition target).events = m.events ++ m.told (n.transition target) := by
  have htold : m.told (n.transition target) = [.motionStateChanged m.state target] := by
    simp [told, hne.symm, hsource, htarget]
  rw [htold, events_transition (by rwa [hevents]) target, hstate, hevents, if_neg hne]

/-- A step reports what there is to report. -/
theorem Step.events (h : Step m s m') (hroom : m.events.length + 1 < eventCapacity)
    (hdisable : m.pending = some .disable → m.state.isEnabled) :
    m'.events = m.events ++ m.told m' := by
  have hlast : m.events.length < eventCapacity := Nat.lt_of_succ_lt hroom
  cases h with
  -- The state is kept, and no enable is used up.
  | stay => exact events_of_kept rfl (fun _ henable => by rw [henable]; rfl) rfl
  | dropped hstate | homingBegun hstate | stop hstate | stopAgain hstate =>
      refine events_of_kept rfl ?_ rfl
      intro hdisabled
      rw [hstate] at hdisabled
      cases hdisabled
  | notReady hstate hpending =>
      simp [told, hstate, hpending, push, hlast]
  | fault _ hnot =>
      have hstate : m.state ≠ .faulted := by
        intro hfaulted
        rw [hfaulted] at hnot
        exact hnot rfl
      rw [told_of_fault hstate]
      exact events_enterFault hroom hstate _
  | enableTimeout hstate | homingTimeout hstate =>
      rw [told_of_fault (by simp [hstate])]
      exact events_enterFault hroom (by simp [hstate]) _
  | disable hpending =>
      have henabled := hdisable hpending
      refine events_of_transition ?_ ?_ hlast ?_ ?_ (by decide)
      · rfl
      · rfl
      · intro hsame
        rw [hsame] at henabled
        cases henabled
      · intro hsame
        rw [hsame] at henabled
        cases henabled
  | enable hstate | enabled hstate | home hstate | move _ hstate | homed hstate | settled hstate
  | acknowledge hstate =>
      refine events_of_transition ?_ ?_ hlast ?_ ?_ (by decide)
      · rfl
      · rfl
      · simp [hstate]
      · simp [hstate]
  | cleared hstate =>
      simp [told, hstate, transition, push, hlast, hroom]

/-- An offered command changes nothing that is told. -/
theorem told_submit (m : Machine) (command : OperatorCommand) :
    m.told (m.submit command).2 = [] := by
  rcases m.submit_cases command with ⟨-, hsubmit⟩ | ⟨refusal, -, hsubmit⟩
  · rw [hsubmit]
    exact told_of_kept rfl fun _ _ => rfl
  · rw [hsubmit]
    exact told_of_kept (state_push _ _) fun _ henable => by rw [pending_push, henable]; rfl

/-- A call that does not take the events reports what it has to. -/
theorem Orderly.events_call (h : m.Orderly) (hroom : m.events.length + 1 < eventCapacity) {c : Call}
    (hc : c ≠ .takeEvents) : (m.call c).events = m.events ++ m.raised c := by
  have hlast : m.events.length < eventCapacity := Nat.lt_of_succ_lt hroom
  unfold raised
  cases c with
  | takeEvents => exact absurd rfl hc
  | submit command =>
      have htold : m.told (m.call (.submit command)) = [] := told_submit m command
      rw [htold, List.append_nil]
      show (m.submit command).2.events = _
      rcases m.submit_cases command with ⟨hverdict, hsubmit⟩ | ⟨refusal, hverdict, hsubmit⟩
      · simp [refused, hverdict, hsubmit]
      · simp [refused, hverdict, hsubmit, Machine.push, hlast]
  | update s =>
      rcases m.noted_eq s with ⟨fault, hnoted⟩
      have hevents : (m.noted s).events = m.events := by
        rw [hnoted]
        rfl
      have htold : (m.noted s).told (m.update s) = m.told (m.update s) := by
        simp only [told, state_noted, pending_noted]
      have hstep := (update_step m s).events (by rwa [hevents])
        (by simpa using h.isEnabled_of_disable)
      rw [hevents, htold] at hstep
      exact hstep
  | forceFault reason =>
      refine (events_forceFault hroom reason).trans ?_
      show _ = m.events ++ m.told (m.forceFault reason)
      unfold Machine.forceFault
      split
      · rw [told_of_kept rfl fun _ henable => by rw [henable]; rfl]
      · rename_i hstate
        rw [told_of_fault hstate]

/-- A refusal is one event. -/
theorem refused_cases (m : Machine) (c : Call) :
    m.refused c = [] ∨ ∃ command state, m.refused c = [.commandRejected command state] := by
  unfold refused
  split
  · split
    · exact Or.inl rfl
    · exact Or.inr ⟨_, _, rfl⟩
  · exact Or.inl rfl

/-- Where the state is kept there is a refusal at most; of a change there is told perhaps a fault,
then the change itself. -/
theorem told_cases (m m' : Machine) :
    (m'.state = m.state ∧ (m.told m' = []
        ∨ ∃ command state, m.told m' = [.commandRejected command state]))
      ∨ m'.state ≠ m.state ∧ (m.told m' = [.motionStateChanged m.state m'.state]
        ∨ m.told m' = [.faultCleared, .motionStateChanged m.state m'.state]
        ∨ m'.state = .faulted ∧ ∃ reason,
          m.told m' = [.faultEntered reason, .motionStateChanged m.state m'.state]) := by
  unfold told
  by_cases hstate : m'.state = m.state
  · refine Or.inl ⟨hstate, ?_⟩
    rw [if_pos hstate]
    split
    · exact Or.inr ⟨_, _, rfl⟩
    · exact Or.inl rfl
  · refine Or.inr ⟨hstate, ?_⟩
    rw [if_neg hstate]
    split
    · rename_i hfaulted
      cases m'.fault with
      | none => exact Or.inl rfl
      | some reason => exact Or.inr (Or.inr ⟨hfaulted, reason, rfl⟩)
    · split
      · exact Or.inr (Or.inl rfl)
      · exact Or.inl rfl

theorem length_told_le (m m' : Machine) : (m.told m').length ≤ 2 := by
  rcases told_cases m m' with ⟨-, h | ⟨_, _, h⟩⟩ | ⟨-, h | h | ⟨-, _, h⟩⟩ <;> simp [h]

/-- A call reports two events at most. -/
theorem length_raised_le (m : Machine) (c : Call) : (m.raised c).length ≤ 2 := by
  unfold raised
  cases c with
  | submit command =>
      have htold : m.told (m.call (.submit command)) = [] := told_submit m command
      rw [htold, List.append_nil]
      rcases refused_cases m (.submit command) with h | ⟨_, _, h⟩ <;> simp [h]
  | _ => exact length_told_le m _

/-- With room for two events a call, the events held after the calls are the story. -/
theorem Orderly.events_run (h : m.Orderly) {calls : List Call}
    (hroom : m.events.length + 2 * calls.length ≤ eventCapacity)
    (hcalls : ∀ c ∈ calls, c ≠ .takeEvents) : (m.run calls).events = m.events ++ m.story calls := by
  induction calls generalizing m with
  | nil => exact (List.append_nil _).symm
  | cons c rest ih =>
      rw [List.length_cons] at hroom
      have hfirst := h.events_call (by omega) (hcalls c List.mem_cons_self)
      have hlength := length_raised_le m c
      have hrest := ih (h.call c) (by rw [hfirst, List.length_append]; omega)
        fun later hlater => hcalls later (List.mem_cons_of_mem c hlater)
      calc (m.run (c :: rest)).events = (m.call c).events ++ (m.call c).story rest := hrest
        _ = m.events ++ m.story (c :: rest) := by rw [hfirst, List.append_assoc]; rfl

end Events

/-! ## What the story tells -/

section Story

variable {m m' : Machine}

theorem story_append (m : Machine) (calls later : List Call) :
    m.story (calls ++ later) = m.story calls ++ (m.run calls).story later := by
  induction calls generalizing m with
  | nil => rfl
  | cons c rest ih =>
      show m.raised c ++ (m.call c).story (rest ++ later) = _
      rw [ih, ← List.append_assoc]
      rfl

/-- The events held do not matter to it. -/
theorem Alike.raised (h : Alike m m') (c : Call) : m'.raised c = m.raised c := by
  rcases alike_call h c with ⟨events', hafter⟩
  rcases h with ⟨events, rfl⟩
  unfold Machine.raised told
  rw [hafter]
  cases c <;> rfl

theorem Alike.story (h : Alike m m') (calls : List Call) : m'.story calls = m.story calls := by
  induction calls generalizing m m' with
  | nil => rfl
  | cons c rest ih =>
      show m'.raised c ++ (m'.call c).story rest = m.raised c ++ (m.call c).story rest
      rw [h.raised c, ih (alike_call h c)]

theorem Alike.run (h : Alike m m') (calls : List Call) : Alike (m.run calls) (m'.run calls) := by
  induction calls generalizing m m' with
  | nil => exact h
  | cons c rest ih => exact ih (alike_call h c)

theorem isOfAxis_raised (m : Machine) (c : Call) : ∀ event ∈ m.raised c, event.isOfAxis := by
  have hrefused : ∀ event ∈ m.refused c, event.isOfAxis := by
    rcases refused_cases m c with h | ⟨_, _, h⟩ <;> simp [h, Event.isOfAxis]
  have htold : ∀ event ∈ m.told (m.call c), event.isOfAxis := by
    rcases told_cases m (m.call c) with ⟨-, h | ⟨_, _, h⟩⟩ | ⟨-, h | h | ⟨-, _, h⟩⟩ <;>
      simp [h, Event.isOfAxis]
  intro event hevent
  rcases List.mem_append.1 hevent with hfirst | hsecond
  · exact hrefused event hfirst
  · exact htold event hsecond

/-- The change of the state is told, and no other. -/
theorem filterMap_raised (m : Machine) (c : Call) :
    (m.raised c).filterMap Event.change? = change m.state (m.call c).state := by
  have hrefused : (m.refused c).filterMap Event.change? = [] := by
    rcases refused_cases m c with h | ⟨_, _, h⟩ <;> simp [h, Event.change?]
  unfold raised
  rw [List.filterMap_append, hrefused, List.nil_append]
  unfold change
  rcases told_cases m (m.call c) with ⟨hsame, h | ⟨_, _, h⟩⟩ | ⟨hne, h | h | ⟨-, _, h⟩⟩
  · rw [h, if_pos hsame.symm]
    rfl
  · rw [h, if_pos hsame.symm]
    rfl
  · rw [h, if_neg hne.symm]
    rfl
  · rw [h, if_neg hne.symm]
    rfl
  · rw [h, if_neg hne.symm]
    rfl

theorem announced_raised (m : Machine) (c : Call) : Announced (m.raised c) := by
  refine Announced.append (announced_of_none ?_) ?_
  · rcases refused_cases m c with h | ⟨_, _, h⟩ <;> simp [h, Event.fault?]
  · rcases told_cases m (m.call c) with ⟨-, h | ⟨_, _, h⟩⟩ | ⟨-, h | h | ⟨hfaulted, entered, h⟩⟩
    · exact announced_of_none (by simp [h])
    · exact announced_of_none (by simp [h, Event.fault?])
    · exact announced_of_none (by simp [h, Event.fault?])
    · exact announced_of_none (by simp [h, Event.fault?])
    · rw [h, hfaulted]
      exact announced_fault entered m.state

theorem isOfAxis_story (m : Machine) (calls : List Call) :
    ∀ event ∈ m.story calls, event.isOfAxis := by
  induction calls generalizing m with
  | nil => rintro _ ⟨⟩
  | cons c rest ih =>
      intro event hevent
      rcases List.mem_append.1 hevent with hfirst | hlater
      · exact isOfAxis_raised m c event hfirst
      · exact ih (m.call c) event hlater

/-- The changes told lead from the first state to the last. -/
theorem chain_story (m : Machine) (calls : List Call) :
    Chain m.state ((m.story calls).filterMap Event.change?) (m.run calls).state := by
  induction calls generalizing m with
  | nil => exact .nil m.state
  | cons c rest ih =>
      show Chain m.state ((m.raised c ++ (m.call c).story rest).filterMap Event.change?) _
      rw [List.filterMap_append, filterMap_raised]
      exact (chain_change _ _).append (ih (m.call c))

theorem announced_story (m : Machine) (calls : List Call) : Announced (m.story calls) := by
  induction calls generalizing m with
  | nil => exact announced_of_none (by rintro _ ⟨⟩)
  | cons c rest ih => exact (announced_raised m c).append (ih (m.call c))

end Story

end Machine
end Motion
end ServoLink
