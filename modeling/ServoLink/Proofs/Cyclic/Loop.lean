import ServoLink.Cyclic.Loop
import ServoLink.Proofs.Cyclic.Channel
import ServoLink.Proofs.Motion.Power

/-!
# Cyclic loop — what a cycle does to the axis machine

A cycle does one of three things to the machine that has taken its command (`Turned`): it advances
it on a status, leaves it alone, or faults it together with the connection.  Accounting, publication
and the schedule touch none of the fields named here.

* `Cycle.performed_body`, `Cycle.turn_cases` — all that the work of a cycle and a turn can be;
* `Cycle.body_ok` — the work of a cycle that does not end the loop, as one of the three;
* `Cycle.turn_eq` — a turn is the work of a cycle, as far as these fields are concerned;
* `Cycle.sent_body` — a cycle sends its request.
-/

namespace ServoLink
namespace Cyclic

open Wire ProcessData Motion Net

variable {σ : Type}

namespace Cycle

/-! ## Parts of a cycle -/

/-- Passing on events touches the history of faults and the events, nothing else. -/
theorem foldl_pass_eq (cycle : Nat) (raised : List Event) (c : Cycle σ) :
    ∃ faults events, raised.foldl (pass cycle) c =
      { c with runner := { c.runner with faults }, shared := { c.shared with events } } := by
  induction raised generalizing c with
  | nil => exact ⟨c.runner.faults, c.shared.events, rfl⟩
  | cons event rest ih =>
      rcases ih (pass cycle c event) with ⟨faults, events, hrest⟩
      refine ⟨faults, events, ?_⟩
      rw [List.foldl_cons, hrest]
      unfold pass
      split <;> rfl

theorem drain_eq (cycle : Nat) (c : Cycle σ) :
    ∃ faults events, c.drain cycle =
      { c with
        runner := { c.runner with machine := { c.runner.machine with events := [] }, faults }
        shared := { c.shared with events } } :=
  foldl_pass_eq cycle c.runner.machine.events
    { c with runner := { c.runner with machine := { c.runner.machine with events := [] } } }

theorem link_drain (cycle : Nat) (c : Cycle σ) : (c.drain cycle).link = c.link := by
  rcases drain_eq cycle c with ⟨faults, events, hdrain⟩
  rw [hdrain]

/-- The events of the machine are taken. -/
theorem machine_drain (cycle : Nat) (c : Cycle σ) :
    (c.drain cycle).runner.machine = { c.runner.machine with events := [] } := by
  rcases drain_eq cycle c with ⟨faults, events, hdrain⟩
  rw [hdrain]

theorem output_drain (cycle : Nat) (c : Cycle σ) :
    (c.drain cycle).runner.output = c.runner.output := by
  rcases drain_eq cycle c with ⟨faults, events, hdrain⟩
  rw [hdrain]

theorem commands_drain (cycle : Nat) (c : Cycle σ) :
    (c.drain cycle).runner.commands = c.runner.commands := by
  rcases drain_eq cycle c with ⟨faults, events, hdrain⟩
  rw [hdrain]

theorem connection_drain (cycle : Nat) (c : Cycle σ) :
    (c.drain cycle).shared.connection = c.shared.connection := by
  rcases drain_eq cycle c with ⟨faults, events, hdrain⟩
  rw [hdrain]

theorem events_foldl_pass (cycle : Nat) (raised : List Event) (c : Cycle σ) :
    (raised.foldl (pass cycle) c).shared.events = c.shared.events ++ raised := by
  induction raised generalizing c with
  | nil => exact (List.append_nil _).symm
  | cons event rest ih =>
      have hpass : (pass cycle c event).shared.events = c.shared.events ++ [event] := by
        unfold pass
        split <;> rfl
      rw [List.foldl_cons, ih, hpass, List.append_assoc]
      rfl

/-- The events of the machine are passed on in order. -/
theorem events_drain (cycle : Nat) (c : Cycle σ) :
    (c.drain cycle).shared.events = c.shared.events ++ c.runner.machine.events :=
  events_foldl_pass cycle c.runner.machine.events
    { c with runner := { c.runner with machine := { c.runner.machine with events := [] } } }

@[simp] theorem connection_setConnection (shared : Shared) (target : ConnectionState) :
    (shared.setConnection target).connection = target := by
  unfold Shared.setConnection Shared.swapConnection
  by_cases hsame : shared.connection = target
  · simp [hsame]
  · simp [hsame, Shared.emit]

/-- A change of the connection is reported once. -/
theorem events_setConnection (shared : Shared) (target : ConnectionState) :
    (shared.setConnection target).events = shared.events ++
      if shared.connection = target then []
      else [.sessionStateChanged shared.connection target] := by
  unfold Shared.setConnection Shared.swapConnection
  by_cases hsame : shared.connection = target
  · simp [hsame]
  · simp [hsame, Shared.emit]

theorem shared_takeCommand (c : Cycle σ) : c.takeCommand.shared = c.shared := by
  unfold takeCommand
  split <;> rfl

theorem link_takeCommand (c : Cycle σ) : c.takeCommand.link = c.link := by
  unfold takeCommand
  split <;> rfl

/-- Every waiting command has been taken. -/
theorem commands_takeCommand (c : Cycle σ) : c.takeCommand.runner.commands = [] := by
  unfold takeCommand
  split
  · rename_i hnone
    exact List.getLast?_eq_none_iff.1 hnone
  · rfl

theorem sound_takeCommand {c : Cycle σ} (h : c.runner.machine.Sound) :
    c.takeCommand.runner.machine.Sound := by
  unfold takeCommand
  split
  · exact h
  · exact h.submit _

theorem output_takeCommand {c : Cycle σ} (h : c.runner.output = c.runner.machine.output) :
    c.takeCommand.runner.output = c.takeCommand.runner.machine.output := by
  unfold takeCommand
  split
  · exact h
  · rfl

theorem state_takeCommand (c : Cycle σ) :
    c.takeCommand.runner.machine.state = c.runner.machine.state := by
  unfold takeCommand
  split
  · rfl
  · simp

theorem inert_takeCommand {c : Cycle σ} (h : c.runner.machine.Inert c.runner.commands) :
    c.takeCommand.runner.machine.Inert [] := by
  unfold takeCommand
  split
  · rename_i hnone
    rwa [List.getLast?_eq_none_iff.1 hnone] at h
  · rename_i hlast
    exact h.submit hlast

/-! ## The work of a cycle -/

/-- The work of a cycle that has taken its command, for each way its exchange can end: what follows
from it, then the reports of the machine, then the snapshot.  A request always fits a frame. -/
inductive Performed (c : Cycle σ) :
    EStateM.Result LinkError (Link σ) StatusResponse → Except LinkError Unit × Cycle σ → Prop where
  | answered (status : StatusResponse) (link : Link σ) :
      Performed c (.ok status link)
        (.ok (), ((onStatus status { c.takeCommand with link }).drain c.runner.timing.cycles).publish
          c.runner.timing.cycles)
  | missed (link : Link σ) :
      Performed c (.error .cycleMissed link)
        (.ok (), (({ c.takeCommand with link }.onMiss c.runner.timing.cycles).drain
          c.runner.timing.cycles).publish c.runner.timing.cycles)
  | lost (link : Link σ) :
      Performed c (.error .linkFaulted link)
        (.ok (), (({ c.takeCommand with link }.onLinkFault c.runner.timing.cycles).drain
          c.runner.timing.cycles).publish c.runner.timing.cycles)
  | failed (detail : String) (link : Link σ) :
      Performed c (.error (.socket detail) link)
        (.error (.socket detail), ((({ c.takeCommand with link }.loseLink).drain
          c.runner.timing.cycles).faultSession).publish c.runner.timing.cycles)

theorem performed_body (react : FarEnd σ) (budget : Nat) (c : Cycle σ) :
    Performed c (exchange react c.takeCommand.request budget c.link) (c.body react budget) := by
  have hverdict := verdict_exchange react c.takeCommand.request budget c.link
  unfold body
  dsimp only
  rw [link_takeCommand]
  generalize exchange react c.takeCommand.request budget c.link = result at hverdict ⊢
  cases hverdict with
  | answered => exact .answered _ _
  | missed => exact .missed _
  | lost => exact .lost _
  | failed => exact .failed _ _

/-- What the work of a cycle makes of the machine, the connection and the events, for each way its
exchange can end without ending the loop. -/
inductive Worked (c : Cycle σ) :
    EStateM.Result LinkError (Link σ) StatusResponse → Cycle σ → Prop where
  | answered {status : StatusResponse} {link : Link σ} {after : Cycle σ}
      (hlink : after.link = link)
      (hmachine : after.runner.machine =
        { c.takeCommand.runner.machine.update (.ofResponse status) with events := [] })
      (houtput : after.runner.output =
        (c.takeCommand.runner.machine.update (.ofResponse status)).output)
      (hconnection : after.shared.connection = c.shared.connection)
      (hcommands : after.runner.commands = [])
      (hevents : after.shared.events = c.shared.events
        ++ (c.takeCommand.runner.machine.update (.ofResponse status)).events) :
      Worked c (.ok status link) after
  | missed {link : Link σ} {after : Cycle σ}
      (hlink : after.link = link)
      (hmachine : after.runner.machine = { c.takeCommand.runner.machine with events := [] })
      (houtput : after.runner.output = c.takeCommand.runner.output)
      (hconnection : after.shared.connection = c.shared.connection)
      (hcommands : after.runner.commands = [])
      (hevents : after.shared.events = c.shared.events
        ++ .cycleMissed c.runner.timing.cycles link.channel.consecutiveMisses
          :: c.takeCommand.runner.machine.events) :
      Worked c (.error .cycleMissed link) after
  | lost {link : Link σ} {after : Cycle σ}
      (hlink : after.link = link)
      (hmachine : after.runner.machine =
        { c.takeCommand.runner.machine.forceFault .linkLost with events := [] })
      (houtput : after.runner.output =
        (c.takeCommand.runner.machine.forceFault .linkLost).output)
      (hconnection : after.shared.connection = .faulted)
      (hcommands : after.runner.commands = [])
      (hevents : after.shared.events = c.shared.events
        ++ .cycleMissed c.runner.timing.cycles link.channel.consecutiveMisses
          :: .linkFaulted link.channel.consecutiveMisses
          :: ((if c.shared.connection = .faulted then []
              else [.sessionStateChanged c.shared.connection .faulted])
            ++ (c.takeCommand.runner.machine.forceFault .linkLost).events)) :
      Worked c (.error .linkFaulted link) after

section Worked

variable {c after : Cycle σ} {result : EStateM.Result LinkError (Link σ) StatusResponse}

theorem Worked.commands (h : Worked c result after) : after.runner.commands = [] := by
  cases h with
  | answered _ _ _ _ hcommands => exact hcommands
  | missed _ _ _ _ hcommands => exact hcommands
  | lost _ _ _ _ hcommands => exact hcommands

theorem Worked.link (h : Worked c result after) : after.link = linkOf result := by
  cases h with
  | answered hlink => exact hlink
  | missed hlink => exact hlink
  | lost hlink => exact hlink

/-- The machine stays sound, and its events have been taken. -/
theorem Worked.machine (h : Worked c result after) (hsound : c.runner.machine.Sound) :
    after.runner.machine.Sound ∧ after.runner.machine.events = [] := by
  have htaken := sound_takeCommand hsound
  cases h with
  | answered _ hmachine =>
      rw [hmachine]
      exact ⟨(htaken.update _).withEvents [], rfl⟩
  | missed _ hmachine =>
      rw [hmachine]
      exact ⟨htaken.withEvents [], rfl⟩
  | lost _ hmachine =>
      rw [hmachine]
      exact ⟨(htaken.forceFault _).withEvents [], rfl⟩

end Worked

theorem worked_body {react : FarEnd σ} {budget : Nat} {c after : Cycle σ}
    (h : c.body react budget = (.ok (), after)) :
    Worked c (exchange react c.takeCommand.request budget c.link) after := by
  have hconnection := congrArg Shared.connection c.shared_takeCommand
  have hevents := congrArg Shared.events c.shared_takeCommand
  have hperformed := performed_body react budget c
  rw [h] at hperformed
  generalize exchange react c.takeCommand.request budget c.link = result at hperformed ⊢
  cases hperformed with
  | answered status link =>
      refine .answered (link_drain _ _) (machine_drain _ _) (output_drain _ _)
        ((connection_drain _ _).trans hconnection)
        ((commands_drain _ _).trans c.commands_takeCommand) ?_
      have hdrained := events_drain c.runner.timing.cycles
        (onStatus status { c.takeCommand with link })
      rw [← hevents]
      exact hdrained
  | missed link =>
      refine .missed (link_drain _ _) (machine_drain _ _) (output_drain _ _)
        ((connection_drain _ _).trans hconnection)
        ((commands_drain _ _).trans c.commands_takeCommand) ?_
      have hdrained := events_drain c.runner.timing.cycles
        (onMiss c.runner.timing.cycles { c.takeCommand with link })
      rw [← hevents]
      refine hdrained.trans ?_
      show (c.takeCommand.shared.events ++ [_]) ++ _ = _
      rw [List.append_assoc]
      rfl
  | lost link =>
      refine .lost (link_drain _ _) (machine_drain _ _) (output_drain _ _)
        ((connection_drain _ _).trans (connection_setConnection _ .faulted))
        ((commands_drain _ _).trans c.commands_takeCommand) ?_
      have hdrained := events_drain c.runner.timing.cycles
        (onLinkFault c.runner.timing.cycles { c.takeCommand with link })
      -- The connection is faulted after the two reports.
      have hset := events_setConnection
        (((onMiss c.runner.timing.cycles { c.takeCommand with link }).emit
          (.linkFaulted link.channel.consecutiveMisses)).shared) .faulted
      have hreported : (onLinkFault c.runner.timing.cycles
          { c.takeCommand with link }).shared.events = _ := hset
      refine hdrained.trans ?_
      rw [hreported]
      show ((c.takeCommand.shared.events ++ [_]) ++ [_] ++
        if c.takeCommand.shared.connection = .faulted then [] else
          [.sessionStateChanged c.takeCommand.shared.connection .faulted]) ++ _ = _
      rw [hconnection, hevents]
      simp only [List.append_assoc]
      rfl

/-- What a cycle that does not end the loop makes of the machine, its output and the connection. -/
inductive Turned (c c' : Cycle σ) : Prop where
  | heard (s : AxisStatus) :
      c'.runner.machine = { c.takeCommand.runner.machine.update s with events := [] } →
      c'.runner.output = (c.takeCommand.runner.machine.update s).output →
      c'.shared.connection = c.shared.connection → Turned c c'
  | silent :
      c'.runner.machine = { c.takeCommand.runner.machine with events := [] } →
      c'.runner.output = c.takeCommand.runner.output →
      c'.shared.connection = c.shared.connection → Turned c c'
  | lost :
      c'.runner.machine =
        { c.takeCommand.runner.machine.forceFault .linkLost with events := [] } →
      c'.runner.output = (c.takeCommand.runner.machine.forceFault .linkLost).output →
      c'.shared.connection = .faulted → Turned c c'

theorem Turned.sound {c c' : Cycle σ} (h : Turned c c') (hsound : c.runner.machine.Sound)
    (houtput : c.runner.output = c.runner.machine.output) :
    c'.runner.machine.Sound ∧ c'.runner.output = c'.runner.machine.output := by
  have htaken := sound_takeCommand hsound
  cases h with
  | heard s hmachine houtput' =>
      rw [hmachine, houtput']
      exact ⟨(htaken.update s).withEvents [], rfl⟩
  | silent hmachine houtput' =>
      rw [hmachine, houtput', output_takeCommand houtput]
      exact ⟨htaken.withEvents [], rfl⟩
  | lost hmachine houtput' =>
      rw [hmachine, houtput']
      exact ⟨(htaken.forceFault _).withEvents [], rfl⟩

/-- An inert machine stays inert. -/
theorem Turned.inert {c c' : Cycle σ} (h : Turned c c') (hsound : c.runner.machine.Sound)
    (hinert : c.runner.machine.Inert c.runner.commands) : c'.runner.machine.Inert [] := by
  have htaken := inert_takeCommand hinert
  cases h with
  | heard s hmachine =>
      rw [hmachine]
      exact htaken.update (sound_takeCommand hsound) s
  | silent hmachine =>
      rw [hmachine]
      exact htaken
  | lost hmachine =>
      rw [hmachine]
      exact Machine.inert_of_faulted (Machine.state_forceFault _ _) []

/-- A cycle that faults the connection faults the machine. -/
theorem Turned.faulted {c c' : Cycle σ} (h : Turned c c')
    (hbefore : c.shared.connection ≠ .faulted) (hafter : c'.shared.connection = .faulted) :
    c'.runner.machine.state = .faulted := by
  cases h with
  | heard s hmachine houtput hsame => exact absurd (hsame.symm.trans hafter) hbefore
  | silent hmachine houtput hsame => exact absurd (hsame.symm.trans hafter) hbefore
  | lost hmachine =>
      rw [hmachine]
      exact Machine.state_forceFault _ _

/-- A cycle that does not end the loop does one of three things to the machine, and has taken every
command. -/
theorem body_ok {react : FarEnd σ} {budget : Nat} {c c' : Cycle σ}
    (h : c.body react budget = (.ok (), c')) : Turned c c' ∧ c'.runner.commands = [] := by
  have hworked := worked_body h
  refine ⟨?_, hworked.commands⟩
  generalize exchange react c.takeCommand.request budget c.link = result at hworked
  cases hworked with
  | answered _ hmachine houtput hconnection => exact .heard _ hmachine houtput hconnection
  | missed _ hmachine houtput hconnection => exact .silent hmachine houtput hconnection
  | lost _ hmachine houtput hconnection => exact .lost hmachine houtput hconnection

/-- The link of a cycle is the one its exchange ends with. -/
theorem link_body (react : FarEnd σ) (budget : Nat) (c : Cycle σ) :
    (c.body react budget).2.link =
      linkOf (exchange react c.takeCommand.request budget c.link) := by
  have hperformed := performed_body react budget c
  generalize exchange react c.takeCommand.request budget c.link = result at hperformed ⊢
  generalize c.body react budget = out at hperformed ⊢
  cases hperformed with
  | answered => exact link_drain _ _
  | missed => exact link_drain _ _
  | lost => exact link_drain _ _
  | failed => exact link_drain _ _

/-- A cycle sends its request. -/
theorem sent_body (react : FarEnd σ) (budget : Nat) (c : Cycle σ) :
    ∃ sequence datagram, Frame.encode c.link.channel.checksum
        ⟨sequence, .control c.takeCommand.request⟩ = .ok datagram
      ∧ (c.body react budget).2.link.line.sent = datagram :: c.link.line.sent := by
  rcases sent_exchange react c.takeCommand.request budget c.link with
    ⟨datagram, hencode, hsent⟩
  refine ⟨_, datagram, hencode, ?_⟩
  rw [link_body]
  exact hsent

/-! ## A turn -/

theorem finish_eq (duration latency : Int) (c : Cycle σ) :
    ∃ timing events, c.finish duration latency =
      { c with runner := { c.runner with timing }, shared := { c.shared with events } } := by
  unfold finish
  dsimp only
  split
  · exact ⟨_, _, rfl⟩
  · exact ⟨_, c.shared.events, rfl⟩

/-- Time passes. -/
def elapse (n : Nat) (c : Cycle σ) : Cycle σ :=
  { c with link := { c.link with line := c.link.line.sleep n } }

theorem rest_eq (s : Schedule) (c : Cycle σ) : ∃ s' n, rest s c = (s', c.elapse n) := by
  unfold rest
  dsimp only
  split
  · exact ⟨_, 0, rfl⟩
  · exact ⟨_, _, rfl⟩

/-- The time a cycle has for its exchange. -/
def budget (s : Schedule) (c : Cycle σ) : Nat :=
  s.wake + c.runner.period.toNat - c.link.line.now

/-- A cycle against the schedule is its work, and unless that ends the loop, its accounting. -/
theorem timed_cases (react : FarEnd σ) (s : Schedule) (c : Cycle σ) :
    (∃ cause after, c.body react (c.budget s) = (.error cause, after)
        ∧ c.timed react s =
          (.error cause, { s with wake := s.wake + c.runner.period.toNat }, after))
      ∨ ∃ after duration, c.body react (c.budget s) = (.ok (), after)
        ∧ c.timed react s =
          (.ok (), { s with wake := s.wake + c.runner.period.toNat },
            after.finish duration ((c.link.line.now - s.wake : Nat) : Int)) := by
  unfold timed budget
  dsimp only
  cases hbody : c.body react (s.wake + c.runner.period.toNat - c.link.line.now) with
  | mk result after =>
      cases result with
      | error cause => exact Or.inl ⟨cause, after, rfl, rfl⟩
      | ok => exact Or.inr ⟨after, _, rfl, rfl⟩

/-- A turn is a cycle against the schedule, and unless that ends the loop, a sleep. -/
theorem turn_cases (react : FarEnd σ) (s : Schedule) (c : Cycle σ) :
    (∃ cause s' after, c.body react (c.budget s) = (.error cause, after)
        ∧ c.turn react s = (.error cause, s', after))
      ∨ ∃ after duration s' n, c.body react (c.budget s) = (.ok (), after)
        ∧ c.turn react s = (.ok (), s',
          (after.finish duration ((c.link.line.now - s.wake : Nat) : Int)).elapse n) := by
  unfold turn
  rcases c.timed_cases react s with
    ⟨cause, after, hbody, htimed⟩ | ⟨after, duration, hbody, htimed⟩
  · rw [htimed]
    exact Or.inl ⟨cause, _, after, hbody, rfl⟩
  · rw [htimed]
    rcases rest_eq { s with wake := s.wake + c.runner.period.toNat }
      (after.finish duration ((c.link.line.now - s.wake : Nat) : Int)) with ⟨s', n, hslept⟩
    exact Or.inr ⟨after, duration, s', n, hbody, congrArg (Prod.mk _) hslept⟩

/-- Accounting and sleeping change the timing, the events and the clock. -/
theorem turn_eq (react : FarEnd σ) (s : Schedule) (c : Cycle σ) :
    ∃ budget timing events now, (c.turn react s).1 = (c.body react budget).1
      ∧ (c.turn react s).2.2 =
        { runner := { (c.body react budget).2.runner with timing }
          shared := { (c.body react budget).2.shared with events }
          link :=
            { (c.body react budget).2.link with
              line := { (c.body react budget).2.link.line with now } } } := by
  refine ⟨c.budget s, ?_⟩
  rcases c.turn_cases react s with
    ⟨cause, s', after, hbody, hturn⟩ | ⟨after, duration, s', n, hbody, hturn⟩
  · rw [hbody, hturn]
    exact ⟨after.runner.timing, after.shared.events, after.link.line.now, rfl, rfl⟩
  · rcases after.finish_eq duration ((c.link.line.now - s.wake : Nat) : Int) with
      ⟨timing, events, hfinish⟩
    rw [hbody, hturn, hfinish]
    exact ⟨timing, events, after.link.line.now + n, rfl, rfl⟩

/-- What accounting and sleeping leave alone; a late cycle is reported. -/
structure Accounted (c after : Cycle σ) : Prop where
  machine : after.runner.machine = c.runner.machine
  output : after.runner.output = c.runner.output
  commands : after.runner.commands = c.runner.commands
  channel : after.link.channel = c.link.channel
  connection : after.shared.connection = c.shared.connection
  events : ∃ late, after.shared.events = c.shared.events ++ late
    ∧ (late = [] ∨ ∃ cycle latency tolerance, late = [.jitterExceeded cycle latency tolerance])

theorem accounted_finish (duration latency : Int) (c : Cycle σ) :
    Accounted c (c.finish duration latency) := by
  unfold finish
  dsimp only
  split
  · exact ⟨rfl, rfl, rfl, rfl, rfl, _, rfl, Or.inr ⟨_, _, _, rfl⟩⟩
  · exact ⟨rfl, rfl, rfl, rfl, rfl, [], (List.append_nil _).symm, Or.inl rfl⟩

/-- A turn that does not end the loop is the work of a cycle and its accounting. -/
theorem turn_ok {react : FarEnd σ} {s s' : Schedule} {c c' : Cycle σ}
    (h : c.turn react s = (.ok (), s', c')) :
    ∃ after, c.body react (c.budget s) = (.ok (), after) ∧ Accounted after c' := by
  rcases c.turn_cases react s with
    ⟨cause, s'', after, hbody, hturn⟩ | ⟨after, duration, s'', n, hbody, hturn⟩
  · rw [hturn] at h
    cases h
  · rw [hturn] at h
    cases h
    have hfinished := accounted_finish duration ((c.link.line.now - s.wake : Nat) : Int) after
    exact ⟨after, hbody, hfinished.machine, hfinished.output, hfinished.commands,
      hfinished.channel, hfinished.connection, hfinished.events⟩

end Cycle
end Cyclic
end ServoLink
