import ServoLink.Proofs.Cyclic.Loop
import ServoLink.Proofs.Motion.Reports

/-!
# Connection — how the shared connection state changes

The session and its cyclic thread share the connection state.  Every change is reported by an event,
so the events tell the way the state has gone.  Of the cyclic thread's work, only a fault changes the
state, and the axis machine reports on the axis alone.

* `ConnectionState.Arrow`, `ConnectionState.Path` — single changes, and ways made of them;
* `Cyclic.Shared.Moves` — the events lead along arrows from one state to another;
* `Cyclic.Cycle.carries_turn` — a cycle moves the connection so.
-/

namespace ServoLink

/-- The change of the connection that an event reports. -/
def Event.connectionChange? : Event → Option (ConnectionState × ConnectionState)
  | .sessionStateChanged source target => some (source, target)
  | _ => none

/-- An event of the axis reports no change of the connection. -/
theorem Event.connectionChange?_of_isOfAxis {event : Event} (h : event.isOfAxis) :
    event.connectionChange? = none := by
  cases event <;> first | rfl | cases h

/-! ## Ways -/

namespace ConnectionState

/-- The changes that occur. -/
inductive Arrow : ConnectionState → ConnectionState → Prop where
  | connecting : Arrow disconnected handshaking
  | connected : Arrow handshaking connected
  | refused : Arrow handshaking disconnected
  | faulted : Arrow connected faulted
  | disconnected : Arrow connected disconnected
  | reset : Arrow faulted disconnected

/-- The changes lead from one state to another, each an arrow from where the one before it led. -/
inductive Path : ConnectionState → List (ConnectionState × ConnectionState) → ConnectionState →
    Prop where
  | nil (state : ConnectionState) : Path state [] state
  | cons {source next target : ConnectionState}
      {changes : List (ConnectionState × ConnectionState)} (harrow : Arrow source next)
      (hrest : Path next changes target) : Path source ((source, next) :: changes) target

theorem Path.append {source next target : ConnectionState}
    {first second : List (ConnectionState × ConnectionState)} (h : Path source first next)
    (hrest : Path next second target) : Path source (first ++ second) target := by
  induction h with
  | nil _ => exact hrest
  | cons harrow _ ih => exact .cons harrow (ih hrest)

end ConnectionState

namespace Cyclic

open Motion Net

namespace Shared

/-- The events since then lead along arrows to the state of the connection. -/
def Moves (shared after : Shared) : Prop :=
  ∃ events, after.events = shared.events ++ events
    ∧ ConnectionState.Path shared.connection (events.filterMap Event.connectionChange?)
      after.connection

variable {shared between after : Shared}

theorem Moves.refl (shared : Shared) : shared.Moves shared :=
  ⟨[], (List.append_nil _).symm, .nil _⟩

theorem Moves.trans (h : shared.Moves between) (hrest : between.Moves after) :
    shared.Moves after := by
  rcases h with ⟨first, hfirst, hpath⟩
  rcases hrest with ⟨second, hsecond, hpath'⟩
  refine ⟨first ++ second, ?_, ?_⟩
  · rw [hsecond, hfirst, List.append_assoc]
  · rw [List.filterMap_append]
    exact hpath.append hpath'

/-- Events that report no change, on a connection that stays. -/
theorem moves_of_quiet {events : List Event} (hconnection : after.connection = shared.connection)
    (hevents : after.events = shared.events ++ events)
    (hquiet : ∀ event ∈ events, event.connectionChange? = none) : shared.Moves after := by
  refine ⟨events, hevents, ?_⟩
  rw [List.filterMap_eq_nil_iff.2 hquiet, hconnection]
  exact .nil _

theorem moves_setConnection {target : ConnectionState}
    (h : shared.connection = target ∨ ConnectionState.Arrow shared.connection target) :
    shared.Moves (shared.setConnection target) := by
  refine ⟨_, Cycle.events_setConnection shared target, ?_⟩
  rw [Cycle.connection_setConnection]
  by_cases hsame : shared.connection = target
  · rw [if_pos hsame, hsame]
    exact .nil _
  · rw [if_neg hsame]
    rcases h with hsame' | harrow
    · exact absurd hsame' hsame
    · exact .cons harrow (.nil _)

end Shared

/-! ## Cycles -/

namespace Cycle

variable {σ : Type}

/-- The loop is that of a session that is connected or was faulted, and its machine reports on the
axis only. -/
structure Bound (c : Cycle σ) : Prop where
  running : c.shared.connection = .connected ∨ c.shared.connection = .faulted
  axial : c.runner.machine.Axial

/-- The step moves the connection along arrows. -/
def Carries (c after : Cycle σ) : Prop := c.Bound → c.shared.Moves after.shared ∧ after.Bound

section Carries

variable {c between after : Cycle σ}

theorem Carries.trans (h : Carries c between) (hrest : Carries between after) :
    Carries c after := by
  intro hbound
  rcases h hbound with ⟨hmoves, hbetween⟩
  rcases hrest hbetween with ⟨hmoves', hafter⟩
  exact ⟨hmoves.trans hmoves', hafter⟩

/-- A step that reports no change and leaves the connection alone. -/
theorem carries_of_quiet {events : List Event}
    (hconnection : after.shared.connection = c.shared.connection)
    (hevents : after.shared.events = c.shared.events ++ events)
    (hquiet : c.runner.machine.Axial → ∀ event ∈ events, event.connectionChange? = none)
    (haxial : c.runner.machine.Axial → after.runner.machine.Axial) : Carries c after := by
  intro hbound
  refine ⟨Shared.moves_of_quiet hconnection hevents (hquiet hbound.axial), ?_,
    haxial hbound.axial⟩
  rw [hconnection]
  exact hbound.running

/-- A step that reports nothing and leaves the connection alone. -/
theorem carries_of_silent (hconnection : after.shared.connection = c.shared.connection)
    (hevents : after.shared.events = c.shared.events)
    (haxial : c.runner.machine.Axial → after.runner.machine.Axial) : Carries c after :=
  carries_of_quiet hconnection (hevents.trans (List.append_nil _).symm)
    (fun _ _ hnone => absurd hnone List.not_mem_nil) haxial

theorem carries_emit (c : Cycle σ) {event : Event} (h : event.connectionChange? = none) :
    Carries c (c.emit event) := by
  refine carries_of_quiet rfl rfl ?_ (fun haxial => haxial)
  intro _ reported hreported
  rw [List.mem_singleton.1 hreported]
  exact h

theorem carries_takeCommand (c : Cycle σ) : Carries c c.takeCommand := by
  have hshared := c.shared_takeCommand
  refine carries_of_silent (congrArg Shared.connection hshared) (congrArg Shared.events hshared) ?_
  intro haxial
  unfold takeCommand
  split
  · exact haxial
  · exact haxial.submit _

theorem carries_onStatus (status : ProcessData.StatusResponse) (c : Cycle σ) :
    Carries c (onStatus status c) :=
  carries_of_silent rfl rfl fun haxial => haxial.update _

theorem carries_onMiss (cycle : Nat) (c : Cycle σ) : Carries c (c.onMiss cycle) := by
  have hcounted : Carries c
      { c with
        runner :=
          { c.runner with timing := { c.runner.timing with misses := c.runner.timing.misses + 1 } } } :=
    carries_of_silent rfl rfl fun haxial => haxial
  exact hcounted.trans (carries_emit _ rfl)

theorem carries_loseLink (c : Cycle σ) : Carries c c.loseLink :=
  carries_of_silent rfl rfl fun haxial => haxial.forceFault _

theorem carries_faultSession (c : Cycle σ) : Carries c c.faultSession := by
  intro hbound
  refine ⟨Shared.moves_setConnection ?_, Or.inr (connection_setConnection _ _), hbound.axial⟩
  rcases hbound.running with hconnected | hfaulted
  · rw [hconnected]
    exact Or.inr .faulted
  · exact Or.inl hfaulted

theorem carries_onLinkFault (cycle : Nat) (c : Cycle σ) : Carries c (c.onLinkFault cycle) := by
  have hreported : Carries c
      ((c.onMiss cycle).emit (.linkFaulted c.link.channel.consecutiveMisses)).loseLink :=
    ((carries_onMiss cycle c).trans (carries_emit _ rfl)).trans (carries_loseLink _)
  have houtput : ∀ c : Cycle σ,
      Carries c { c with runner := { c.runner with output := c.runner.machine.output } } :=
    fun c => carries_of_silent rfl rfl fun haxial => haxial
  exact (hreported.trans (houtput _)).trans (carries_faultSession _)

/-- The events of the machine are passed on; they are those of the axis. -/
theorem carries_drain (cycle : Nat) (c : Cycle σ) : Carries c (c.drain cycle) := by
  refine carries_of_quiet (connection_drain cycle c) (events_drain cycle c) ?_ ?_
  · intro haxial event hevent
    exact Event.connectionChange?_of_isOfAxis (haxial event hevent)
  · intro _
    rw [machine_drain]
    rintro event ⟨⟩

theorem carries_publish (cycle : Nat) (c : Cycle σ) : Carries c (c.publish cycle) :=
  carries_of_silent rfl rfl fun haxial => haxial

theorem carries_body (react : FarEnd σ) (budget : Nat) (c : Cycle σ) :
    Carries c (c.body react budget).2 := by
  have hperformed := performed_body react budget c
  generalize exchange react c.takeCommand.request budget c.link = result at hperformed
  generalize c.body react budget = out at hperformed ⊢
  have htaken : ∀ link : Link σ, Carries c { c.takeCommand with link } := by
    intro link
    exact c.carries_takeCommand.trans (carries_of_silent rfl rfl fun haxial => haxial)
  -- Whatever the exchange ended with, the reports are passed on and the snapshot is published.
  have hclosed : ∀ (cycle : Nat) {between : Cycle σ}, Carries c between →
      Carries c ((between.drain cycle).publish cycle) := by
    intro cycle between hbetween
    exact (hbetween.trans (carries_drain _ _)).trans (carries_publish _ _)
  cases hperformed with
  | answered status link => exact hclosed _ ((htaken link).trans (carries_onStatus status _))
  | missed link => exact hclosed _ ((htaken link).trans (carries_onMiss _ _))
  | lost link => exact hclosed _ ((htaken link).trans (carries_onLinkFault _ _))
  | failed detail link =>
      -- The session is faulted after the reports.
      have hlost := ((htaken link).trans (carries_loseLink _)).trans
        (carries_drain c.runner.timing.cycles _)
      exact (hlost.trans (carries_faultSession _)).trans (carries_publish _ _)

theorem carries_finish (duration latency : Int) (c : Cycle σ) :
    Carries c (c.finish duration latency) := by
  have haccounted := accounted_finish duration latency c
  rcases haccounted.events with ⟨late, hlate, hkind⟩
  refine carries_of_quiet haccounted.connection hlate ?_ ?_
  · intro _ event hevent
    rcases hkind with rfl | ⟨cycle, latency, tolerance, rfl⟩
    · cases hevent
    · rw [List.mem_singleton.1 hevent]
      rfl
  · intro haxial
    rw [haccounted.machine]
    exact haxial

/-- A cycle moves the connection along arrows. -/
theorem carries_turn (react : FarEnd σ) (s : Schedule) (c : Cycle σ) :
    Carries c (c.turn react s).2.2 := by
  have hcarried := carries_body react (c.budget s) c
  rcases c.turn_cases react s with
    ⟨cause, s', after, hbody, hturn⟩ | ⟨after, duration, s', n, hbody, hturn⟩
  · rw [hbody] at hcarried
    rw [hturn]
    exact hcarried
  · rw [hbody] at hcarried
    rw [hturn]
    have hfinished := carries_finish duration ((c.link.line.now - s.wake : Nat) : Int) after
    refine (hcarried.trans hfinished).trans ?_
    exact carries_of_silent rfl rfl fun haxial => haxial

end Carries

end Cycle
end Cyclic
end ServoLink
