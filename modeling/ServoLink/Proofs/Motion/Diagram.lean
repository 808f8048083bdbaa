import ServoLink.Proofs.Motion.Faults
import ServoLink.Proofs.Motion.Reports

/-!
# State diagram — the ways through the axis states, and what each of them takes

`Arrow` is the diagram.  Three of its arrows take an operator command, which is used up on the way:
enabling, homing and moving are each entered as often as a command for it was accepted, at most.
The count rests on a reserve of one, the command that is pending.

* `Machine.Orderly.arrow_call` — a call keeps the state or follows one arrow;
* `Machine.Consumes` — an update that uses up a pending command;
* `Machine.crossings_le_acceptances` — no command is used twice;
* `Machine.state_diagram` — all of it, for every run from a new machine.
-/

namespace ServoLink
namespace Motion

/-- The ways from one axis state to another. -/
inductive Arrow : MotionState → MotionState → Prop where
  | enable : Arrow .disabled .enabling
  | enabled : Arrow .enabling .ready
  | home : Arrow .ready .homing
  | move : Arrow .ready .moving
  | homed : Arrow .homing .ready
  | settled : Arrow .moving .ready
  | disable {source : MotionState} : source.isEnabled → Arrow source .disabled
  | fault {source : MotionState} : Arrow source .faulted
  | acknowledge : Arrow .faulted .faultAcknowledge
  | cleared : Arrow .faultAcknowledge .disabled

namespace Machine

open ProcessData

/-! ## Arrows -/

section Arrows

variable {m m' : Machine} {s : AxisStatus}

theorem Step.arrow (h : Step m s m') (hdisable : m.pending = some .disable → m.state.isEnabled) :
    m'.state = m.state ∨ Arrow m.state m'.state := by
  cases h with
  | stay | notReady | dropped | homingBegun | stop | stopAgain => left; simp
  | fault | enableTimeout | homingTimeout => right; simpa using Arrow.fault
  | disable hpending => right; simpa using Arrow.disable (hdisable hpending)
  | enable hstate => right; simpa [hstate] using Arrow.enable
  | enabled hstate => right; simpa [hstate] using Arrow.enabled
  | home hstate => right; simpa [hstate] using Arrow.home
  | move _ hstate => right; simpa [hstate] using Arrow.move
  | homed hstate => right; simpa [hstate] using Arrow.homed
  | settled hstate => right; simpa [hstate] using Arrow.settled
  | acknowledge hstate => right; simpa [hstate] using Arrow.acknowledge
  | cleared hstate => right; simpa [hstate] using Arrow.cleared

theorem Orderly.arrow_call (h : m.Orderly) (c : Call) :
    (m.call c).state = m.state ∨ Arrow m.state (m.call c).state := by
  cases c with
  | submit command => exact Or.inl (m.state_submit command)
  | takeEvents => exact Or.inl rfl
  | forceFault reason =>
      right
      rw [show (m.call (.forceFault reason)).state = .faulted from m.state_forceFault reason]
      exact Arrow.fault
  | update s =>
      have harrow := (update_step m s).arrow (by simpa using h.isEnabled_of_disable)
      rw [state_noted] at harrow
      exact harrow

end Arrows

/-! ## Commands used up -/

/-- The call is an update that uses up the pending command. -/
def Consumes (m : Machine) (c : Call) (command : OperatorCommand) : Prop :=
  m.pending = some command ∧ (m.call c).pending = none ∧ ∃ s, c = .update s

section Consumed

variable {m : Machine} {c : Call}

/-- Only a status makes the machine leave a state that is not the fault state for one that is not. -/
theorem exists_update_of_state (hchange : (m.call c).state ≠ m.state)
    (hstate : (m.call c).state ≠ .faulted) : ∃ s, c = .update s := by
  cases c with
  | update s => exact ⟨s, rfl⟩
  | takeEvents => exact absurd rfl hchange
  | submit command => exact absurd (m.state_submit command) hchange
  | forceFault reason => exact absurd (m.state_forceFault reason) hstate

theorem Orderly.consumes (h : m.Orderly) {command : OperatorCommand}
    (hpending : m.pending = some command) (s : AxisStatus) : m.Consumes (.update s) command :=
  ⟨hpending, h.pending_update s, s, rfl⟩

theorem Step.of_enabling {m' : Machine} {s : AxisStatus} (h : Step m s m')
    (hsource : m.state = .disabled) (htarget : m'.state = .enabling) :
    m.pending = some .enable ∧ s.ready := by
  cases h with
  | enable _ hpending hready => exact ⟨hpending, hready⟩
  | _ => simp_all

theorem Step.of_homing {m' : Machine} {s : AxisStatus} (h : Step m s m')
    (hsource : m.state = .ready) (htarget : m'.state = .homing) : m.pending = some .home := by
  cases h with
  | home _ hpending => exact hpending
  | _ => simp_all

theorem Step.of_moving {m' : Machine} {s : AxisStatus} (h : Step m s m')
    (hsource : m.state = .ready) (htarget : m'.state = .moving) :
    ∃ target, m.pending = some (.moveTo target)
      ∧ m'.active = some (.goTo target m.profile.velocity m.profile.acceleration
          m.profile.deceleration) := by
  cases h with
  | move target _ hpending => exact ⟨target, hpending, by simp⟩
  | _ => simp_all

theorem profile_noted (m : Machine) (s : AxisStatus) : (m.noted s).profile = m.profile := by
  rcases m.noted_eq s with ⟨fault, hfault⟩
  rw [hfault]
  rfl

/-- Enabling takes an accepted enable, and a drive that is ready and has no fault. -/
theorem Orderly.enabling_of_call (h : m.Orderly) (hsource : m.state = .disabled)
    (htarget : (m.call c).state = .enabling) :
    m.Consumes c .enable ∧ ∃ s, c = .update s ∧ s.ready ∧ s.fault = false := by
  rcases exists_update_of_state (m := m) (c := c) (by simp [hsource, htarget])
    (by simp [htarget]) with ⟨s, rfl⟩
  have hstep := (update_step m s).of_enabling (by simpa using hsource) htarget
  rw [pending_noted] at hstep
  refine ⟨h.consumes hstep.1 s, s, rfl, hstep.2, ?_⟩
  cases hfault : s.fault with
  | false => rfl
  | true =>
      -- The fault bit would have led to the fault state.
      have hfaulted := h.isFaulted_update hfault
      rw [show (m.update s).state = .enabling from htarget] at hfaulted
      cases hfaulted

/-- Homing takes an accepted home. -/
theorem Orderly.homing_of_call (h : m.Orderly) (hsource : m.state = .ready)
    (htarget : (m.call c).state = .homing) : m.Consumes c .home := by
  rcases exists_update_of_state (m := m) (c := c) (by simp [hsource, htarget])
    (by simp [htarget]) with ⟨s, rfl⟩
  have hpending := (update_step m s).of_homing (by simpa using hsource) htarget
  rw [pending_noted] at hpending
  exact h.consumes hpending s

/-- A move takes an accepted move, whose target is sent. -/
theorem Orderly.moving_of_call (h : m.Orderly) (hsource : m.state = .ready)
    (htarget : (m.call c).state = .moving) :
    ∃ target, m.Consumes c (.moveTo target)
      ∧ (m.call c).output.motion = some ⟨(m.call c).motionCount,
          .goTo target m.profile.velocity m.profile.acceleration m.profile.deceleration⟩ := by
  rcases exists_update_of_state (m := m) (c := c) (by simp [hsource, htarget])
    (by simp [htarget]) with ⟨s, rfl⟩
  rcases (update_step m s).of_moving (by simpa using hsource) htarget with
    ⟨target, hpending, hactive⟩
  rw [pending_noted] at hpending
  rw [profile_noted] at hactive
  refine ⟨target, h.consumes hpending s, ?_⟩
  have hsent : (m.call (.update s)).active = _ := hactive
  simp [output, hsent]

end Consumed

/-! ## How often -/

/-- How often the calls take the state from one to the other. -/
def crossings (source target : MotionState) (m : Machine) : List Call → Nat
  | [] => 0
  | c :: rest =>
      (if m.state = source ∧ (m.call c).state = target then 1 else 0)
        + crossings source target (m.call c) rest

/-- The call offers a command of the kind, and it is accepted. -/
def accepts (kind : OperatorCommand → Bool) (m : Machine) : Call → Bool
  | .submit command => kind command && (m.submit command).1.isOk
  | _ => false

/-- How often a command of the kind is accepted. -/
def acceptances (kind : OperatorCommand → Bool) (m : Machine) : List Call → Nat
  | [] => 0
  | c :: rest => (if m.accepts kind c then 1 else 0) + acceptances kind (m.call c) rest

/-- One, if a command of the kind is pending. -/
def reserve (kind : OperatorCommand → Bool) (m : Machine) : Nat :=
  if m.pending.any kind then 1 else 0

section Count

variable {kind : OperatorCommand → Bool} {source target : MotionState}

/-- What is pending after a call was pending before, or is accepted by it. -/
theorem reserve_call_le (m : Machine) {c : Call} (hc : ∀ s, c ≠ .update s) :
    reserve kind (m.call c) ≤ (if m.accepts kind c then 1 else 0) + reserve kind m := by
  cases hpending : (m.call c).pending with
  | none => simp [reserve, hpending]
  | some command =>
      rcases pending_call_cases m hc hpending with hkept | ⟨rfl, haccepted⟩
      · simp [reserve, hpending, hkept]
      · simp [reserve, hpending, accepts, haccepted, Except.isOk, Except.toBool]

/-- If the way takes a pending command of the kind, it is not gone more often than such a command is
accepted, or was pending at the start. -/
theorem crossings_le_acceptances_add
    (hconsumes : ∀ m : Machine, m.Orderly → ∀ c, m.state = source → (m.call c).state = target →
      ∃ command, kind command ∧ m.Consumes c command)
    {m : Machine} (h : m.Orderly) (calls : List Call) :
    crossings source target m calls ≤ acceptances kind m calls + reserve kind m := by
  induction calls generalizing m with
  | nil => simp [crossings]
  | cons c rest ih =>
      have hrest := ih (h.call c)
      simp only [crossings, acceptances]
      split
      · rename_i hcross
        rcases hconsumes m h c hcross.1 hcross.2 with ⟨command, hkind, hpending, hnone, s, rfl⟩
        have hbefore : reserve kind m = 1 := by simp [reserve, hpending, hkind]
        have hafter : reserve kind (m.call (.update s)) = 0 := by simp [reserve, hnone]
        omega
      · by_cases hupdate : ∃ s, c = .update s
        · rcases hupdate with ⟨s, rfl⟩
          have hafter : reserve kind (m.call (.update s)) = 0 := by
            simp [reserve, call, h.pending_update s]
          omega
        · rw [not_exists] at hupdate
          have hafter : reserve kind (m.call c) ≤ _ := reserve_call_le m hupdate
          omega

end Count

/-! ## The diagram -/

/-- What the diagram says of one call. -/
structure Obeys (m : Machine) (c : Call) : Prop where
  /-- The state changes once at most. -/
  once : m.changes c = change m.state (m.call c).state
  arrow : (m.call c).state = m.state ∨ Arrow m.state (m.call c).state
  enabling : m.state = .disabled → (m.call c).state = .enabling →
    m.Consumes c .enable ∧ ∃ s, c = .update s ∧ s.ready ∧ s.fault = false
  homing : m.state = .ready → (m.call c).state = .homing → m.Consumes c .home
  moving : m.state = .ready → (m.call c).state = .moving →
    ∃ target, m.Consumes c (.moveTo target)
      ∧ (m.call c).output.motion = some ⟨(m.call c).motionCount,
          .goTo target m.profile.velocity m.profile.acceleration m.profile.deceleration⟩

theorem Orderly.obeys {m : Machine} (h : m.Orderly) (c : Call) : m.Obeys c where
  once := m.changes_call c
  arrow := h.arrow_call c
  enabling := h.enabling_of_call
  homing := h.homing_of_call
  moving := h.moving_of_call

def isMove : OperatorCommand → Bool
  | .moveTo _ => true
  | _ => false

/-- From a new machine nothing is pending, so only the commands accepted in the run count. -/
theorem crossings_le_acceptances (settings : MotionSettings) (calls : List Call) :
    crossings .disabled .enabling (new settings) calls
        ≤ acceptances (· == .enable) (new settings) calls
      ∧ crossings .ready .homing (new settings) calls
        ≤ acceptances (· == .home) (new settings) calls
      ∧ crossings .ready .moving (new settings) calls
        ≤ acceptances isMove (new settings) calls := by
  have hnew := orderly_new settings
  refine ⟨?_, ?_, ?_⟩
  · refine crossings_le_acceptances_add ?_ hnew calls
    intro m h c hsource htarget
    exact ⟨.enable, rfl, (h.enabling_of_call hsource htarget).1⟩
  · refine crossings_le_acceptances_add ?_ hnew calls
    intro m h c hsource htarget
    exact ⟨.home, rfl, h.homing_of_call hsource htarget⟩
  · refine crossings_le_acceptances_add ?_ hnew calls
    intro m h c hsource htarget
    rcases h.moving_of_call hsource htarget with ⟨target, hconsumes, -⟩
    exact ⟨.moveTo target, rfl, hconsumes⟩

/-- After any calls, every further call obeys the diagram; a pending command applies to the state, was
accepted since the last status and does not outlive the next; and no command is used twice. -/
theorem state_diagram (settings : MotionSettings) (calls : List Call) :
    let m := (new settings).run calls
    (∀ c, m.Obeys c)
      ∧ (∀ command, m.pending = some command →
          m.verdict command = .ok ()
            ∧ ∃ before after, calls = before ++ .submit command :: after
              ∧ (((new settings).run before).submit command).1 = .ok ()
              ∧ ∀ s, Call.update s ∉ after)
      ∧ (∀ s, (m.update s).pending = none)
      ∧ crossings .disabled .enabling (new settings) calls
          ≤ acceptances (· == .enable) (new settings) calls
      ∧ crossings .ready .homing (new settings) calls
          ≤ acceptances (· == .home) (new settings) calls
      ∧ crossings .ready .moving (new settings) calls
          ≤ acceptances isMove (new settings) calls := by
  intro m
  have horderly : m.Orderly := orderly_run_new settings calls
  refine ⟨horderly.obeys, ?_, horderly.pending_update, crossings_le_acceptances settings calls⟩
  intro command hpending
  exact ⟨horderly.admissible command hpending, exists_accepted_of_pending settings calls hpending⟩

end Machine
end Motion
end ServoLink
