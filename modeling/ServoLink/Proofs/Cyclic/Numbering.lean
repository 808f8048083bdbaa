import ServoLink.Proofs.Cyclic.Chronicle
import ServoLink.Proofs.Cyclic.Schedule

/-!
# Numbering — the number under which a cycle is reported

An iteration of the loop is the work of a cycle and its accounting.  The work takes the number of
the cycle from the count of the cycles finished before, and the accounting raises the count before it
reports.  So a miss, the faults recorded and the snapshot carry the number of the iteration, counted
from zero, and the report of a late wake-up carries the next one.

* `iterations` — the iterations of a run, with any clock; `exists_iterations_turns` — the loop
  against its schedule is such a run;
* `Cycle.numbers_body`, `Cycle.numbers_finish` — what the two halves report, and under which number;
* `Cycle.Counted`, `Cycle.Counted.iterate` — the invariant, and what one iteration does;
* `numbered_iterations` — every run, and when an iteration is reported under one number alone.
-/

namespace ServoLink

/-- The number of the cycle that an event reports as missed. -/
def Event.missed? : Event → Option Nat
  | .cycleMissed cycle _ => some cycle
  | _ => none

/-- The number under which an event reports a late wake-up. -/
def Event.late? : Event → Option Nat
  | .jitterExceeded cycle _ _ => some cycle
  | _ => none

/-- The event carries no number of a cycle. -/
def Event.Unnumbered (event : Event) : Prop := event.missed? = none ∧ event.late? = none

theorem Event.unnumbered_of_isOfAxis {event : Event} (h : event.isOfAxis) : event.Unnumbered := by
  cases event <;> first | exact ⟨rfl, rfl⟩ | cases h

namespace Cyclic

open Wire ProcessData Motion Net

variable {σ : Type}

/-! ## Iterations -/

/-- What an iteration meets: the time that passes before it, the time it has for its exchange, its
duration and the latency of its wake-up as the clock shows them, and the commands given before the
next one. -/
structure Conditions where
  before : Nat := 0
  budget : Nat := 0
  duration : Int := 0
  latency : Int := 0
  commands : List OperatorCommand := []
  deriving DecidableEq, Repr

/-- An iteration of the loop, from the start of its work to the end of its accounting. -/
structure Iteration (σ : Type) where
  conditions : Conditions
  before : Cycle σ
  after : Cycle σ

/-- The work of a cycle and, unless the transport failed, its accounting. -/
def Cycle.iterate (react : FarEnd σ) (p : Conditions) (c : Cycle σ) :
    Except LinkError Unit × Cycle σ :=
  match c.body react p.budget with
  | (.error cause, after) => (.error cause, after)
  | (.ok (), after) => (.ok (), after.finish p.duration p.latency)

/-- The iterations of a run, one after the other until the transport fails. -/
def iterations (react : FarEnd σ) : List Conditions → Cycle σ → List (Iteration σ)
  | [], _ => []
  | p :: later, c =>
      match (c.elapse p.before).iterate react p with
      | (.error _, after) => [⟨p, c.elapse p.before, after⟩]
      | (.ok (), after) =>
          ⟨p, c.elapse p.before, after⟩ :: iterations react later (after.offer p.commands)

namespace Iteration

/-- The events it hands on. -/
def raised (t : Iteration σ) : List Event :=
  t.after.shared.events.drop t.before.shared.events.length

/-- How its exchange ends. -/
def outcome (react : FarEnd σ) (t : Iteration σ) : Outcome :=
  .of (exchange react t.before.takeCommand.request t.conditions.budget t.before.link)

/-- It reaches its accounting, and woke up later than is tolerated. -/
def Late (react : FarEnd σ) (t : Iteration σ) : Prop :=
  t.outcome react ≠ .failed ∧ 0 < t.before.runner.tolerance
    ∧ t.before.runner.tolerance < t.conditions.latency

instance (react : FarEnd σ) (t : Iteration σ) : Decidable (t.Late react) :=
  inferInstanceAs (Decidable (_ ∧ _ ∧ _))

/-- Everything raised for the iteration carries the number. -/
structure OneNumber (number : Nat) (t : Iteration σ) : Prop where
  misses : ∀ cycle consecutive, .cycleMissed cycle consecutive ∈ t.raised → cycle = number
  faults : ∃ added, t.after.runner.faults = recent (t.before.runner.faults ++ added)
    ∧ ∀ record ∈ added, record.cycle = number
  snapshot : t.after.shared.snapshot.cycle = number
  jitter : ∀ cycle latency tolerance,
    .jitterExceeded cycle latency tolerance ∈ t.raised → cycle = number

/-- What is raised for the iteration, and under which number. -/
structure Numbered (react : FarEnd σ) (number : Nat) (t : Iteration σ) : Prop where
  events : t.after.shared.events = t.before.shared.events ++ t.raised
  /-- A miss is reported once. -/
  misses : t.raised.filterMap Event.missed? = if t.outcome react = .missed then [number] else []
  /-- Each fault entered is recorded. -/
  faults : t.after.runner.faults =
    recent (t.before.runner.faults ++ recorded number t.raised)
  snapshot : t.after.shared.snapshot.cycle = number
  /-- A late wake-up is reported once, under the number of the iteration that follows. -/
  jitter : t.raised.filterMap Event.late? = if t.Late react then [number + 1] else []

end Iteration

/-! ## The loop against its schedule -/

namespace Cycle

/-- What a cycle against the schedule meets, as its clock shows it. -/
def conditions (before : Nat) (s : Schedule) (duration : Int) (commands : List OperatorCommand)
    (c : Cycle σ) : Conditions :=
  { before, budget := c.budget s, duration, latency := (c.link.line.now - s.wake : Nat), commands }

/-- A turn is an iteration and a sleep. -/
theorem turn_eq_iterate (react : FarEnd σ) (before : Nat) (s : Schedule)
    (commands : List OperatorCommand) (c : Cycle σ) :
    ∃ duration s' rest, c.turn react s =
      ((c.iterate react (c.conditions before s duration commands)).1, s',
        (c.iterate react (c.conditions before s duration commands)).2.elapse rest) := by
  rcases c.turn_cases react s with
    ⟨cause, s', after, hbody, hturn⟩ | ⟨after, duration, s', n, hbody, hturn⟩
  · refine ⟨0, s', 0, ?_⟩
    simp only [iterate, conditions, hbody, hturn]
    rfl
  · refine ⟨duration, s', n, ?_⟩
    simp only [iterate, conditions, hbody, hturn]

end Cycle

/-- The loop against its schedule runs through such iterations, and sleeps after each. -/
theorem exists_iterations_turns (react : FarEnd σ) (entries : List (List OperatorCommand))
    (s : Cycle.Schedule) (c : Cycle σ) (n : Nat) :
    ∃ conditions, List.Forall₂
      (fun (t : Iteration σ) (u : Turn σ) =>
        t.before = u.before ∧ ∃ rest, u.after = t.after.elapse rest)
      (iterations react conditions c) (turns react entries s (c.elapse n)) := by
  -- The sleep after a turn is the time that passes before the next iteration.
  induction entries generalizing s c n with
  | nil => exact ⟨[], .nil⟩
  | cons commands later ih =>
      rcases (c.elapse n).turn_eq_iterate react n s commands with ⟨duration, s', rest, hturn⟩
      generalize hp : (c.elapse n).conditions n s duration commands = p at hturn
      have hbefore : p.before = n := by rw [← hp]; rfl
      have hcommands : p.commands = commands := by rw [← hp]; rfl
      cases hiterate : (c.elapse n).iterate react p with
      | mk result after =>
          rw [hiterate] at hturn
          cases result with
          | error cause =>
              refine ⟨[p], ?_⟩
              simp only [iterations, turns, hbefore, hturn, hiterate]
              exact .cons ⟨rfl, rest, rfl⟩ .nil
          | ok =>
              rcases ih s' (after.offer commands) rest with ⟨conditions, hrest⟩
              refine ⟨p :: conditions, ?_⟩
              simp only [iterations, turns, hbefore, hcommands, hturn, hiterate]
              exact .cons ⟨rfl, rest, rfl⟩ hrest

/-! ## The work of a cycle -/

/-- The events carry no number of a cycle. -/
def Unnumbered (events : List Event) : Prop := ∀ event ∈ events, event.Unnumbered

theorem Unnumbered.append {first second : List Event} (h : Unnumbered first)
    (h' : Unnumbered second) : Unnumbered (first ++ second) := by
  intro event hevent
  rcases List.mem_append.1 hevent with hfirst | hsecond
  · exact h event hfirst
  · exact h' event hsecond

theorem Unnumbered.missed {events : List Event} (h : Unnumbered events) :
    events.filterMap Event.missed? = [] :=
  List.filterMap_eq_nil_iff.2 fun event hevent => (h event hevent).1

theorem Unnumbered.late {events : List Event} (h : Unnumbered events) :
    events.filterMap Event.late? = [] :=
  List.filterMap_eq_nil_iff.2 fun event hevent => (h event hevent).2

theorem unnumbered_of_axial {m : Machine} (h : m.Axial) : Unnumbered m.events :=
  fun event hevent => Event.unnumbered_of_isOfAxis (h event hevent)

/-- The events of a fault of the connection, if it is one. -/
theorem unnumbered_faulting (state : ConnectionState) :
    Unnumbered (if state = .faulted then [] else [.sessionStateChanged state .faulted]) := by
  split
  · rintro event ⟨⟩
  · intro event hevent
    rw [List.mem_singleton.1 hevent]
    exact ⟨rfl, rfl⟩

namespace Cycle

section Work

variable {react : FarEnd σ} {budget : Nat} {c after : Cycle σ}

theorem axial_takeCommand (h : c.runner.machine.Axial) : c.takeCommand.runner.machine.Axial := by
  unfold takeCommand
  split
  · exact h
  · exact h.submit _

/-- A cycle ends the loop if the transport fails; then the axis is faulted, and after it the
connection. -/
theorem failed_body {cause : LinkError} (h : c.body react budget = (.error cause, after)) :
    Outcome.of (exchange react c.takeCommand.request budget c.link) = .failed
      ∧ after.shared.events = c.shared.events
        ++ ((c.takeCommand.runner.machine.forceFault .linkLost).events
          ++ if c.shared.connection = .faulted then []
            else [.sessionStateChanged c.shared.connection .faulted]) := by
  have hperformed := performed_body react budget c
  rw [h] at hperformed
  generalize exchange react c.takeCommand.request budget c.link = result at hperformed ⊢
  cases hperformed with
  | failed detail link =>
      refine ⟨rfl, ?_⟩
      have hdrained := events_drain c.runner.timing.cycles (loseLink { c.takeCommand with link })
      have hconnection := connection_drain c.runner.timing.cycles
        (loseLink { c.takeCommand with link })
      refine (events_setConnection _ .faulted).trans ?_
      rw [hdrained, hconnection]
      show (c.takeCommand.shared.events ++ (c.takeCommand.runner.machine.forceFault .linkLost).events)
        ++ (if c.takeCommand.shared.connection = .faulted then []
          else [.sessionStateChanged c.takeCommand.shared.connection .faulted]) = _
      rw [shared_takeCommand, List.append_assoc]

/-- The work of a cycle reports a miss under the count of the cycles before it, and no late
wake-up. -/
theorem numbers_body (react : FarEnd σ) (budget : Nat) (h : c.runner.machine.Axial) :
    ∃ raised, (c.body react budget).2.shared.events = c.shared.events ++ raised
      ∧ raised.filterMap Event.missed? =
        (if Outcome.of (exchange react c.takeCommand.request budget c.link) = .missed
          then [c.runner.timing.cycles] else [])
      ∧ raised.filterMap Event.late? = []
      ∧ ((c.body react budget).1 = .ok () ↔
        Outcome.of (exchange react c.takeCommand.request budget c.link) ≠ .failed) := by
  have htaken := axial_takeCommand h
  -- The axis and the connection report nothing that carries a number, so what is left is the miss.
  cases hbody : c.body react budget with
  | mk result after =>
      cases result with
      | error cause =>
          rcases failed_body hbody with ⟨hfailed, hevents⟩
          have hquiet := (unnumbered_of_axial (htaken.forceFault .linkLost)).append
            (unnumbered_faulting c.shared.connection)
          refine ⟨_, hevents, ?_, hquiet.late, ?_⟩
          · rw [hfailed]
            exact hquiet.missed
          · rw [hfailed]
            simp
      | ok =>
          have hworked := worked_body hbody
          generalize exchange react c.takeCommand.request budget c.link = result at hworked ⊢
          cases hworked with
          | answered _ _ _ _ _ hevents =>
              rename_i status link _ _ _ _ _
              have hquiet := unnumbered_of_axial (htaken.update (.ofResponse status))
              exact ⟨_, hevents, hquiet.missed, hquiet.late, by simp [Outcome.of]⟩
          | missed _ _ _ _ _ hevents =>
              have hquiet := unnumbered_of_axial htaken
              refine ⟨_, hevents, ?_, hquiet.late, by simp [Outcome.of]⟩
              exact congrArg (c.runner.timing.cycles :: ·) hquiet.missed
          | lost _ _ _ _ _ hevents =>
              have hquiet := (unnumbered_faulting c.shared.connection).append
                (unnumbered_of_axial (htaken.forceFault .linkLost))
              refine ⟨_, hevents, ?_, hquiet.late, by simp [Outcome.of]⟩
              exact congrArg (c.runner.timing.cycles :: ·) hquiet.missed

/-- The snapshot of a cycle carries the count of the cycles before it. -/
theorem snapshot_body (react : FarEnd σ) (budget : Nat) (c : Cycle σ) :
    (c.body react budget).2.shared.snapshot.cycle = c.runner.timing.cycles := by
  have hperformed := performed_body react budget c
  generalize exchange react c.takeCommand.request budget c.link = result at hperformed
  generalize c.body react budget = out at hperformed ⊢
  cases hperformed <;> rfl

end Work

/-! ## The accounting -/

/-- The accounting reports a late wake-up under the count that includes its cycle, and no miss. -/
theorem numbers_finish (duration latency : Int) (c : Cycle σ) :
    ∃ late, (c.finish duration latency).shared.events = c.shared.events ++ late
      ∧ late.filterMap Event.missed? = []
      ∧ late.filterMap Event.late? =
        if 0 < c.runner.tolerance ∧ c.runner.tolerance < latency then [c.runner.timing.cycles + 1]
        else [] := by
  unfold finish
  dsimp only
  by_cases hlate : 0 < c.runner.tolerance ∧ c.runner.tolerance < latency
  · rw [if_pos (by simpa using hlate), if_pos hlate]
    refine ⟨_, rfl, rfl, ?_⟩
    -- The cycle is counted by then, whether or not it overran its period.
    show [(if c.runner.period < duration then _ else _ : Timing).cycles] = _
    split <;> rfl
  · rw [if_neg (by simpa using hlate), if_neg hlate]
    exact ⟨[], (List.append_nil _).symm, rfl, rfl⟩

theorem snapshot_finish (duration latency : Int) (c : Cycle σ) :
    (c.finish duration latency).shared.snapshot = c.shared.snapshot := by
  rcases c.finish_eq duration latency with ⟨timing, events, hfinish⟩
  rw [hfinish]

/-! ## An iteration -/

/-- A loop about to begin the iteration: as many cycles are counted, the history is within its
length, and the machine reports on the axis only. -/
structure Counted (number : Nat) (c : Cycle σ) : Prop where
  cycles : c.runner.timing.cycles = number
  faults : c.runner.faults.length ≤ historyLength
  axial : c.runner.machine.Axial

theorem recent_of_length_le {records : List FaultRecord} (h : records.length ≤ historyLength) :
    recent records = records := by
  unfold recent
  rw [Nat.sub_eq_zero_of_le h]
  rfl

theorem length_recent_le (records : List FaultRecord) :
    (recent records).length ≤ historyLength := by
  unfold recent
  rw [List.length_drop]
  omega

/-- The faults that a cycle adds to the history are those it reports. -/
theorem Reported.recorded {c after : Cycle σ} {calls : List Machine.Call}
    (h : Reported c after calls) (number : Nat) :
    Cyclic.recorded number (after.shared.events.drop c.shared.events.length) =
      Cyclic.recorded number (c.runner.machine.run calls).events := by
  rcases h.events with ⟨front, back, hevents, hfront, hback⟩
  rw [hevents, List.drop_left, recorded_append, recorded_append, recorded_of_not_axis _ hfront,
    recorded_of_not_axis _ hback, List.nil_append, List.append_nil]

theorem Counted.elapse {number : Nat} {c : Cycle σ} (h : c.Counted number) (n : Nat) :
    (c.elapse n).Counted number := ⟨h.cycles, h.faults, h.axial⟩

theorem Counted.offer {number : Nat} {c : Cycle σ} (h : c.Counted number)
    (commands : List OperatorCommand) : (c.offer commands).Counted number :=
  ⟨h.cycles, h.faults, h.axial⟩

section Iterate

variable {react : FarEnd σ} {number : Nat} {p : Conditions} {c after : Cycle σ}

/-- What a counted loop has handed on since the iteration began, once it is known which numbers the
events carry. -/
theorem Counted.numbered (h : c.Counted number) {calls : List Machine.Call} {raised : List Event}
    (hreported : Reported c after calls)
    (hevents : after.shared.events = c.shared.events ++ raised)
    (hsnapshot : after.shared.snapshot.cycle = c.runner.timing.cycles)
    (hmissed : raised.filterMap Event.missed? =
      if Iteration.outcome react ⟨p, c, after⟩ = .missed then [c.runner.timing.cycles] else [])
    (hlate : raised.filterMap Event.late? =
      if Iteration.Late react ⟨p, c, after⟩ then [c.runner.timing.cycles + 1] else []) :
    Iteration.Numbered react number ⟨p, c, after⟩ := by
  have hraised : Iteration.raised ⟨p, c, after⟩ = raised := by
    show after.shared.events.drop c.shared.events.length = raised
    rw [hevents, List.drop_left]
  rw [h.cycles] at hsnapshot hmissed hlate
  constructor
  case events =>
    rw [hraised]
    exact hevents
  case misses =>
    rw [hraised]
    exact hmissed
  case faults =>
    have hrecorded := hreported.recorded number
    have hfaults := hreported.faults
    rw [h.cycles, ← hrecorded] at hfaults
    -- The history is within its length, so that only what is added can push older records out.
    rw [← recent_of_length_le h.faults, foldl_remember] at hfaults
    exact hfaults
  case snapshot => exact hsnapshot
  case jitter =>
    rw [hraised]
    exact hlate

/-- An iteration keeps the loop counted, and reports under the numbers that it should. -/
theorem Counted.iterate (h : c.Counted number) (react : FarEnd σ) (p : Conditions) :
    Iteration.Numbered react number ⟨p, c, (c.iterate react p).2⟩
      ∧ ((c.iterate react p).1 = .ok () → (c.iterate react p).2.Counted (number + 1)) := by
  rcases numbers_body react p.budget h.axial with ⟨raised, hevents, hmissed, hlate, hcompleted⟩
  rcases reported_body react p.budget c with ⟨hreported, hcycles⟩
  have hsnapshot := snapshot_body react p.budget c
  have hlimits := limits_body react p.budget c
  unfold Cycle.iterate
  cases hbody : c.body react p.budget with
  | mk result after =>
      rw [hbody] at hevents hreported hcycles hsnapshot hlimits hcompleted
      cases result with
      | error cause =>
          -- The accounting is not reached, so nothing is late.
          have hfailed : Iteration.outcome react ⟨p, c, after⟩ = .failed := by
            by_contra hne
            cases hcompleted.2 hne
          refine ⟨h.numbered hreported hevents hsnapshot hmissed ?_, by rintro ⟨⟩⟩
          rw [hlate, if_neg]
          exact fun hlater => hlater.1 hfailed
      | ok =>
          dsimp only
          rcases hreported.finish p.duration p.latency with ⟨hfinished, hcounted⟩
          rcases numbers_finish p.duration p.latency after with ⟨late, hlast, hnone, hnumber⟩
          -- The work does not touch the tolerance, so the accounting compares with that of `c`.
          have htolerance : after.runner.tolerance = c.runner.tolerance := congrArg Prod.snd hlimits
          -- First what the work reported, then what the accounting did.
          rw [hevents, List.append_assoc] at hlast
          rw [htolerance, hcycles] at hnumber
          have hwhen : Iteration.Late react ⟨p, c, after.finish p.duration p.latency⟩ ↔
              0 < c.runner.tolerance ∧ c.runner.tolerance < p.latency :=
            ⟨And.right, fun hlater => ⟨hcompleted.1 rfl, hlater⟩⟩
          have hnumbered : Iteration.Numbered react number
              ⟨p, c, after.finish p.duration p.latency⟩ := by
            refine h.numbered hfinished hlast ?_ ?_ ?_
            · rw [snapshot_finish]
              exact hsnapshot
            · rw [List.filterMap_append, hnone, List.append_nil]
              exact hmissed
            · rw [List.filterMap_append, hlate, List.nil_append, hnumber]
              exact if_congr hwhen.symm rfl rfl
          refine ⟨hnumbered, fun _ => ⟨?_, ?_, ?_⟩⟩
          · rw [hcounted, hcycles, h.cycles]
          · have hfaults := hnumbered.faults
            dsimp only at hfaults
            rw [hfaults]
            exact length_recent_le _
          · -- The events of the machine have been taken.
            rw [hfinished.machine]
            rintro event ⟨⟩

end Iterate

end Cycle

/-! ## Every run -/

namespace Iteration

variable {react : FarEnd σ} {number : Nat} {t : Iteration σ}

/-- One number is carried by all that is raised for an iteration if and only if it was not late. -/
theorem Numbered.oneNumber_iff (h : t.Numbered react number) :
    t.OneNumber number ↔ ¬ t.Late react := by
  constructor
  · intro hone hlate
    have hjitter := h.jitter
    rw [if_pos hlate] at hjitter
    -- The report that is there carries the next number.
    have hmem : number + 1 ∈ t.raised.filterMap Event.late? := by simp [hjitter]
    rcases List.mem_filterMap.1 hmem with ⟨event, hevent, hnumber⟩
    cases event with
    | jitterExceeded cycle latency tolerance =>
        have hsame := hone.jitter cycle latency tolerance hevent
        cases hnumber
        omega
    | _ => cases hnumber
  · intro hpunctual
    constructor
    case misses =>
      intro cycle consecutive hevent
      have hmem : cycle ∈ t.raised.filterMap Event.missed? :=
        List.mem_filterMap.2 ⟨_, hevent, rfl⟩
      rw [h.misses] at hmem
      split at hmem
      · exact List.mem_singleton.1 hmem
      · cases hmem
    case faults =>
      refine ⟨recorded number t.raised, h.faults, ?_⟩
      intro record hrecord
      rcases List.mem_map.1 hrecord with ⟨reason, -, rfl⟩
      rfl
    case snapshot => exact h.snapshot
    case jitter =>
      intro cycle latency tolerance hevent
      have hmem : cycle ∈ t.raised.filterMap Event.late? :=
        List.mem_filterMap.2 ⟨_, hevent, rfl⟩
      rw [h.jitter, if_neg hpunctual] at hmem
      cases hmem

end Iteration

/-- The iterations of a run are numbered one after the other. -/
theorem Cycle.Counted.iterations {number : Nat} {c : Cycle σ} (h : c.Counted number)
    (react : FarEnd σ) (conditions : List Conditions) {i : Nat} {t : Iteration σ}
    (ht : (Cyclic.iterations react conditions c)[i]? = some t) :
    t.Numbered react (number + i) := by
  -- On the conditions; each iteration hands on a loop that counts one cycle more.
  induction conditions generalizing number c i with
  | nil => cases ht
  | cons p later ih =>
      rcases (h.elapse p.before).iterate react p with ⟨hnumbered, hcounted⟩
      unfold Cyclic.iterations at ht
      cases hiterate : (c.elapse p.before).iterate react p with
      | mk result after =>
          rw [hiterate] at hnumbered hcounted ht
          cases i with
          | zero =>
              cases result with
              | error cause =>
                  cases ht
                  exact hnumbered
              | ok =>
                  cases ht
                  exact hnumbered
          | succ i =>
              cases result with
              | error cause => cases ht
              | ok =>
                  have hrest := ih ((hcounted rfl).offer p.commands) ht
                  rwa [Nat.add_assoc, Nat.add_comm 1 i] at hrest

/-- A loop about to begin, with a machine that may have been in use before. -/
def Cycle.started (settings : MotionSettings) (used : List Machine.Call) (channel : Channel)
    (period jitterPercent : Nat) (commands : List OperatorCommand) (shared : Shared)
    (line : Line σ) : Cycle σ :=
  { runner :=
      { Runner.new ((Machine.new settings).run used) period jitterPercent with commands }
    shared, link := ⟨channel, line⟩ }

theorem Cycle.counted_started (settings : MotionSettings) (used : List Machine.Call)
    (channel : Channel) (period jitterPercent : Nat) (commands : List OperatorCommand)
    (shared : Shared) (line : Line σ) :
    (started settings used channel period jitterPercent commands shared line).Counted 0 where
  cycles := rfl
  faults := Nat.zero_le _
  axial := by
    have hnew : (Machine.new settings).Axial := by rintro event ⟨⟩
    exact hnew.run used

/-- In every run of the loop, whatever its answers, its commands and its clock, the iteration `i`
reports its miss, records its faults and publishes its snapshot under `i`, and reports a late wake-up
under `i + 1`.  So everything raised for it carries its number if and only if it was not late. -/
theorem numbered_iterations (react : FarEnd σ) (settings : MotionSettings)
    (used : List Machine.Call) (channel : Channel) (period jitterPercent : Nat)
    (commands : List OperatorCommand) (shared : Shared) (line : Line σ)
    (conditions : List Conditions) {i : Nat} {t : Iteration σ}
    (ht : (iterations react conditions (Cycle.started settings used channel period jitterPercent
      commands shared line))[i]? = some t) :
    t.Numbered react i ∧ (t.OneNumber i ↔ ¬ t.Late react) := by
  have hcounted := Cycle.counted_started settings used channel period jitterPercent commands
    shared line
  have hnumbered := hcounted.iterations react conditions ht
  rw [Nat.zero_add] at hnumbered
  exact ⟨hnumbered, hnumbered.oneNumber_iff⟩

/-- A drive that answers once and falls silent, and a loop that wakes up late for its second
cycle. -/
def drowsy : List (Iteration Script) :=
  iterations Script.react
    [{ budget := 2000000, duration := 1000 },
      { before := 2499000, budget := 1500000, duration := 1500000, latency := 500000 }]
    (.started {} [] (.new false 1 2000000) 2000000 20 [] { connection := .connected }
      { far :=
          [{ replies := [(1000, .frame { sequence := none, offset := 0, message := .status default })] }] })

/-- Its second iteration. -/
def drowsing : Iteration Script := drowsy.get ⟨1, by decide +kernel⟩

theorem getElem?_drowsy : drowsy[1]? = some drowsing := List.getElem?_eq_getElem _

theorem numbered_iterations_drowsy :
    drowsy[1]? = some drowsing ∧ drowsing.outcome Script.react = .missed
      ∧ drowsing.Late Script.react ∧ drowsing.Numbered Script.react 1
      ∧ (drowsing.OneNumber 1 ↔ ¬ drowsing.Late Script.react) := by
  refine ⟨getElem?_drowsy, by decide +kernel, by decide +kernel, ?_⟩
  exact numbered_iterations Script.react {} [] (.new false 1 2000000) 2000000 20 []
    { connection := .connected } _ _ getElem?_drowsy

/-- The second cycle is missed, faults the axis and is late: its late wake-up is reported as that of
a third cycle. -/
theorem two_numbers_drowsy :
    drowsy[1]? = some drowsing
      ∧ drowsing.raised =
        [.cycleMissed 1 1, .linkFaulted 1, .sessionStateChanged .connected .faulted,
          .faultEntered .linkLost, .motionStateChanged .disabled .faulted, .jitterExceeded 2 500 400]
      ∧ drowsing.after.runner.faults = [⟨1, .linkLost⟩]
      ∧ drowsing.after.shared.snapshot.cycle = 1 ∧ ¬ drowsing.OneNumber 1 := by
  have hraised : drowsing.raised =
      [.cycleMissed 1 1, .linkFaulted 1, .sessionStateChanged .connected .faulted,
        .faultEntered .linkLost, .motionStateChanged .disabled .faulted,
        .jitterExceeded 2 500 400] := by
    decide +kernel
  refine ⟨getElem?_drowsy, hraised, by decide +kernel, by decide +kernel, ?_⟩
  -- The miss, the fault and the snapshot say 1; the late wake-up of the same iteration says 2.
  intro hone
  have hnumber := hone.jitter 2 500 400 (by rw [hraised]; decide)
  exact absurd hnumber (by decide)

end Cyclic
end ServoLink
