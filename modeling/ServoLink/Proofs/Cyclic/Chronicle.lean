import ServoLink.Proofs.Cyclic.LinkFault
import ServoLink.Proofs.Motion.Story

/-!
# Chronicle — what the events of a loop tell of its run

A cycle makes two calls of its machine at most before it takes the events, so that the buffer of the
machine is never full.  What the loop hands on is therefore the whole story of the machine, between
reports of its own, and the history of faults can be read off it.

* `Turn`, `turns` — the cycles of a run, also the one that ends it;
* `Cycle.Reported` — what a cycle adds to the events and to the history;
* `Chronicle` — the invariant of every run, `Chronicle.turn` for one cycle;
* `events_chronicle` — nothing is lost, and what the events tell.
-/

namespace ServoLink
namespace Cyclic

open Wire ProcessData Motion Net

/-! ## The history of faults -/

/-- The latest entries, as many as the history keeps. -/
def recent (records : List FaultRecord) : List FaultRecord :=
  records.drop (records.length - historyLength)

/-- The faults among the events of a cycle, as entries of the history. -/
def recorded (cycle : Nat) (events : List Event) : List FaultRecord :=
  (events.filterMap Event.fault?).map fun reason => ⟨cycle, reason⟩

theorem remember_recent (records : List FaultRecord) (entry : FaultRecord) :
    remember (recent records) entry = recent (records ++ [entry]) := by
  have hdropped : records.drop (records.length - historyLength) ++ [entry]
      = (records ++ [entry]).drop (records.length - historyLength) :=
    (List.drop_append_of_le_length (Nat.sub_le _ _)).symm
  unfold remember recent
  rw [hdropped, List.drop_drop, List.length_drop, List.length_append, List.length_singleton]
  -- What was dropped before and what is dropped now add up.
  refine congrArg (fun n => (records ++ [entry]).drop n) ?_
  omega

theorem foldl_remember (records entries : List FaultRecord) :
    entries.foldl remember (recent records) = recent (records ++ entries) := by
  induction entries generalizing records with
  | nil => rw [List.append_nil]; rfl
  | cons entry rest ih => rw [List.foldl_cons, remember_recent, ih, List.append_assoc]; rfl

theorem recorded_append (cycle : Nat) (first second : List Event) :
    recorded cycle (first ++ second) = recorded cycle first ++ recorded cycle second := by
  unfold recorded
  rw [List.filterMap_append, List.map_append]

theorem fault?_of_not_axis {event : Event} (h : event.isOfAxis = false) : event.fault? = none := by
  cases event <;> first | rfl | cases h

theorem recorded_of_not_axis (cycle : Nat) {events : List Event}
    (h : ∀ event ∈ events, event.isOfAxis = false) : recorded cycle events = [] := by
  have hnone : events.filterMap Event.fault? = [] :=
    List.filterMap_eq_nil_iff.2 fun event hevent => fault?_of_not_axis (h event hevent)
  unfold recorded
  rw [hnone]
  rfl

variable {σ : Type}

namespace Cycle

/-! ## The calls of a cycle -/

/-- The calls that a cycle makes of its machine before it takes the events. -/
def calls (react : FarEnd σ) (budget : Nat) (c : Cycle σ) : List Machine.Call :=
  c.runner.commands.getLast?.toList.map .submit ++
    match exchange react c.takeCommand.request budget c.link with
    | .ok status _ => [.update (.ofResponse status)]
    | .error .cycleMissed _ | .error (.frame _) _ => []
    | .error _ _ => [.forceFault .linkLost]

theorem calls_few (react : FarEnd σ) (budget : Nat) (c : Cycle σ) :
    (c.calls react budget).length ≤ 2 ∧ ∀ call ∈ c.calls react budget, call ≠ .takeEvents := by
  unfold calls
  generalize exchange react c.takeCommand.request budget c.link = result
  cases c.runner.commands.getLast? <;> cases result with
  | ok status link => simp
  | error cause link => cases cause <;> simp

/-- A cycle that has made the calls and not yet taken the events. -/
structure Drafted (c d : Cycle σ) (calls : List Machine.Call) : Prop where
  machine : d.runner.machine = c.runner.machine.run calls
  faults : d.runner.faults = c.runner.faults
  cycles : d.runner.timing.cycles = c.runner.timing.cycles
  events : ∃ front, d.shared.events = c.shared.events ++ front
    ∧ ∀ event ∈ front, event.isOfAxis = false

/-- A cycle that has made the calls and handed on what they reported, between reports of its own. -/
structure Reported (c after : Cycle σ) (calls : List Machine.Call) : Prop where
  machine : after.runner.machine = { c.runner.machine.run calls with events := [] }
  faults : after.runner.faults =
    (recorded c.runner.timing.cycles (c.runner.machine.run calls).events).foldl remember
      c.runner.faults
  events : ∃ front back,
    after.shared.events = c.shared.events ++ (front ++ (c.runner.machine.run calls).events ++ back)
      ∧ (∀ event ∈ front, event.isOfAxis = false) ∧ ∀ event ∈ back, event.isOfAxis = false

section Drafted

variable {c d after : Cycle σ} {calls : List Machine.Call}

theorem drafted_takeCommand (c : Cycle σ) (link : Link σ) :
    Drafted c { c.takeCommand with link } (c.runner.commands.getLast?.toList.map .submit) := by
  unfold takeCommand
  split
  · rename_i hnone
    rw [hnone]
    exact ⟨rfl, rfl, rfl, [], (List.append_nil _).symm, by rintro _ ⟨⟩⟩
  · rename_i command hlast
    rw [hlast]
    exact ⟨rfl, rfl, rfl, [], (List.append_nil _).symm, by rintro _ ⟨⟩⟩

theorem Drafted.onStatus (h : Drafted c d calls) (status : StatusResponse) :
    Drafted c (onStatus status d) (calls ++ [.update (.ofResponse status)]) where
  machine := by
    rw [Machine.run_concat, ← h.machine]
    rfl
  faults := h.faults
  cycles := h.cycles
  events := h.events

theorem Drafted.loseLink (h : Drafted c d calls) :
    Drafted c d.loseLink (calls ++ [.forceFault .linkLost]) where
  machine := by
    rw [Machine.run_concat, ← h.machine]
    rfl
  faults := h.faults
  cycles := h.cycles
  events := h.events

/-- The loop's own reports come before those of the machine. -/
theorem Drafted.extend (h : Drafted c d calls) {next : Cycle σ} {late : List Event}
    (hmachine : next.runner.machine = d.runner.machine)
    (hfaults : next.runner.faults = d.runner.faults)
    (hcycles : next.runner.timing.cycles = d.runner.timing.cycles)
    (hevents : next.shared.events = d.shared.events ++ late)
    (hlate : ∀ event ∈ late, event.isOfAxis = false) : Drafted c next calls where
  machine := hmachine.trans h.machine
  faults := hfaults.trans h.faults
  cycles := hcycles.trans h.cycles
  events := by
    rcases h.events with ⟨front, hfront, hother⟩
    refine ⟨front ++ late, ?_, ?_⟩
    · rw [hevents, hfront, List.append_assoc]
    · intro event hevent
      rcases List.mem_append.1 hevent with hearlier | hlast
      · exact hother event hearlier
      · exact hlate event hlast

theorem Drafted.emit (h : Drafted c d calls) {event : Event} (hevent : event.isOfAxis = false) :
    Drafted c (d.emit event) calls := by
  refine h.extend rfl rfl rfl rfl ?_
  intro reported hreported
  rw [List.mem_singleton.1 hreported]
  exact hevent

theorem Drafted.onMiss (h : Drafted c d calls) (cycle : Nat) :
    Drafted c (d.onMiss cycle) calls := by
  refine Drafted.emit ?_ rfl
  exact ⟨h.machine, h.faults, h.cycles, h.events⟩

theorem isOfAxis_setConnection (shared : Shared) (target : ConnectionState) :
    ∀ event ∈ (if shared.connection = target then []
      else [.sessionStateChanged shared.connection target] : List Event),
      event.isOfAxis = false := by
  split
  · rintro _ ⟨⟩
  · intro event hevent
    rw [List.mem_singleton.1 hevent]
    rfl

theorem Drafted.onLinkFault (h : Drafted c d calls) (cycle : Nat) :
    Drafted c (d.onLinkFault cycle) (calls ++ [.forceFault .linkLost]) := by
  have hreported : Drafted c
      ((d.onMiss cycle).emit (.linkFaulted (d.onMiss cycle).link.channel.consecutiveMisses))
      calls := (h.onMiss cycle).emit rfl
  exact hreported.loseLink.extend rfl rfl rfl (events_setConnection _ .faulted)
    (isOfAxis_setConnection _ _)

theorem faults_foldl_pass (cycle : Nat) (events : List Event) (d : Cycle σ) :
    (events.foldl (pass cycle) d).runner.faults =
      (recorded cycle events).foldl remember d.runner.faults := by
  induction events generalizing d with
  | nil => rfl
  | cons event rest ih =>
      rw [List.foldl_cons, ih]
      cases event <;> rfl

/-- The events of the machine are handed on, and its faults are remembered. -/
theorem Drafted.drain (h : Drafted c d calls) :
    Reported c (d.drain c.runner.timing.cycles) calls
      ∧ (d.drain c.runner.timing.cycles).runner.timing.cycles = c.runner.timing.cycles := by
  constructor
  · constructor
    case machine => rw [machine_drain, h.machine]
    case faults =>
      rw [← h.machine, ← h.faults]
      exact faults_foldl_pass _ _ _
    case events =>
      rcases h.events with ⟨front, hfront, hother⟩
      refine ⟨front, [], ?_, hother, by rintro _ ⟨⟩⟩
      rw [events_drain, hfront, h.machine, List.append_nil, List.append_assoc]
  · rcases drain_eq c.runner.timing.cycles d with ⟨faults, events, hdrain⟩
    rw [hdrain]
    exact h.cycles

theorem Reported.publish (h : Reported c after calls) (cycle : Nat) :
    Reported c (after.publish cycle) calls := ⟨h.machine, h.faults, h.events⟩

/-- The loop's own reports also come after those of the machine. -/
theorem Reported.extend (h : Reported c after calls) {last : Cycle σ} {late : List Event}
    (hmachine : last.runner.machine = after.runner.machine)
    (hfaults : last.runner.faults = after.runner.faults)
    (hevents : last.shared.events = after.shared.events ++ late)
    (hlate : ∀ event ∈ late, event.isOfAxis = false) : Reported c last calls where
  machine := hmachine.trans h.machine
  faults := hfaults.trans h.faults
  events := by
    rcases h.events with ⟨front, back, hall, hfront, hback⟩
    refine ⟨front, back ++ late, ?_, hfront, ?_⟩
    · rw [hevents, hall]
      simp only [List.append_assoc]
    · intro event hevent
      rcases List.mem_append.1 hevent with hearlier | hlast
      · exact hback event hearlier
      · exact hlate event hlast

theorem Reported.faultSession (h : Reported c after calls) :
    Reported c after.faultSession calls :=
  h.extend rfl rfl (events_setConnection after.shared .faulted) (isOfAxis_setConnection _ _)

end Drafted

/-- The work of a cycle, also of one that ends the loop. -/
theorem reported_body (react : FarEnd σ) (budget : Nat) (c : Cycle σ) :
    Reported c (c.body react budget).2 (c.calls react budget)
      ∧ (c.body react budget).2.runner.timing.cycles = c.runner.timing.cycles := by
  have hperformed := performed_body react budget c
  unfold calls
  generalize exchange react c.takeCommand.request budget c.link = result at hperformed ⊢
  generalize c.body react budget = out at hperformed ⊢
  -- The calls of a cycle are the ones it has made when it drains the machine.
  cases hperformed with
  | answered status link =>
      rcases ((drafted_takeCommand c link).onStatus status).drain with ⟨hreported, hcycles⟩
      exact ⟨hreported.publish _, hcycles⟩
  | missed link =>
      have hmissed := (drafted_takeCommand c link).onMiss c.runner.timing.cycles
      rcases hmissed.drain with ⟨hreported, hcycles⟩
      rw [List.append_nil]
      exact ⟨hreported.publish _, hcycles⟩
  | lost link =>
      have hlost := (drafted_takeCommand c link).onLinkFault c.runner.timing.cycles
      rcases hlost.drain with ⟨hreported, hcycles⟩
      exact ⟨hreported.publish _, hcycles⟩
  | failed detail link =>
      rcases (drafted_takeCommand c link).loseLink.drain with ⟨hreported, hcycles⟩
      exact ⟨hreported.faultSession.publish _, hcycles⟩

/-- A late cycle is reported after everything else. -/
theorem Reported.finish {c after : Cycle σ} {calls : List Machine.Call}
    (h : Reported c after calls) (duration latency : Int) :
    Reported c (after.finish duration latency) calls
      ∧ (after.finish duration latency).runner.timing.cycles = after.runner.timing.cycles + 1 := by
  unfold Cycle.finish
  dsimp only
  split
  · refine ⟨h.extend rfl rfl rfl ?_, ?_⟩
    · intro event hevent
      rw [List.mem_singleton.1 hevent]
      rfl
    · show (if after.runner.period < duration then _ else _ : Timing).cycles = _
      split <;> rfl
  · refine ⟨⟨h.machine, h.faults, h.events⟩, ?_⟩
    show (if after.runner.period < duration then _ else _ : Timing).cycles = _
    split <;> rfl

/-- A turn; one that does not end the loop is counted. -/
theorem reported_turn (react : FarEnd σ) (s : Schedule) (c : Cycle σ) :
    Reported c (c.turn react s).2.2 (c.calls react (c.budget s))
      ∧ ((c.turn react s).1 = .ok () →
        (c.turn react s).2.2.runner.timing.cycles = c.runner.timing.cycles + 1) := by
  rcases reported_body react (c.budget s) c with ⟨hreported, hcycles⟩
  rcases c.turn_cases react s with
    ⟨cause, s', after, hbody, hturn⟩ | ⟨after, duration, s', n, hbody, hturn⟩
  · rw [hbody] at hreported
    rw [hturn]
    exact ⟨hreported, by rintro ⟨⟩⟩
  · rw [hbody] at hreported hcycles
    rw [hturn]
    rcases hreported.finish duration ((c.link.line.now - s.wake : Nat) : Int) with
      ⟨hfinished, hcounted⟩
    -- The sleep moves the clock alone.
    refine ⟨⟨hfinished.machine, hfinished.faults, hfinished.events⟩, fun _ => ?_⟩
    exact hcounted.trans (congrArg (· + 1) hcycles)

end Cycle

/-! ## Runs -/

/-- A cycle of a run. -/
structure Turn (σ : Type) where
  schedule : Cycle.Schedule
  before : Cycle σ
  after : Cycle σ

namespace Turn

/-- The calls it made of the machine. -/
def calls (react : FarEnd σ) (t : Turn σ) : List Machine.Call :=
  t.before.calls react (t.before.budget t.schedule)

/-- What it handed on. -/
def raised (t : Turn σ) : List Event := t.after.shared.events.drop t.before.shared.events.length

end Turn

/-- The cycles of a run, also the one that ends it. -/
def turns (react : FarEnd σ) : List (List OperatorCommand) → Cycle.Schedule → Cycle σ →
    List (Turn σ)
  | [], _, _ => []
  | commands :: later, s, c =>
      match c.turn react s with
      | (.error _, _, after) => [⟨s, c, after⟩]
      | (.ok (), s', after) => ⟨s, c, after⟩ :: turns react later s' (after.offer commands)

/-- The faults that the cycles raised, each under the number of its cycle. -/
def faultsOf (past : List (Turn σ)) : List FaultRecord :=
  past.zipIdx.flatMap fun (turn, number) => recorded number turn.raised

theorem faultsOf_concat (past : List (Turn σ)) (t : Turn σ) :
    faultsOf (past ++ [t]) = faultsOf past ++ recorded past.length t.raised := by
  unfold faultsOf
  rw [List.zipIdx_append, List.flatMap_append]
  simp

/-- The events handed on by the cycles so far, and what they tell of the machine. -/
structure Chronicle (react : FarEnd σ) (settings : MotionSettings) (shared : Shared)
    (past : List (Turn σ)) (c : Cycle σ) : Prop where
  orderly : c.runner.machine.Orderly
  machine : Machine.Alike ((Machine.new settings).run (past.flatMap (·.calls react)))
    c.runner.machine
  taken : c.runner.machine.events = []
  events : c.shared.events = shared.events ++ past.flatMap (·.raised)
  story : (past.flatMap (·.raised)).filter Event.isOfAxis =
    (Machine.new settings).story (past.flatMap (·.calls react))
  announced : Announced (past.flatMap (·.raised))
  faults : c.runner.faults = recent (faultsOf past)

/-- Reports around the story of the machine. -/
theorem filter_isOfAxis_between {front told back : List Event}
    (hfront : ∀ event ∈ front, event.isOfAxis = false) (htold : ∀ event ∈ told, event.isOfAxis)
    (hback : ∀ event ∈ back, event.isOfAxis = false) :
    (front ++ told ++ back).filter Event.isOfAxis = told := by
  have hbefore : front.filter Event.isOfAxis = [] :=
    List.filter_eq_nil_iff.2 fun event hevent => by simp [hfront event hevent]
  have hafter : back.filter Event.isOfAxis = [] :=
    List.filter_eq_nil_iff.2 fun event hevent => by simp [hback event hevent]
  rw [List.filter_append, List.filter_append, hbefore, hafter, List.nil_append, List.append_nil]
  exact List.filter_eq_self.2 htold

/-- Only the events of the axis report changes. -/
theorem filterMap_filter_isOfAxis (events : List Event) :
    (events.filter Event.isOfAxis).filterMap Event.change? = events.filterMap Event.change? := by
  rw [List.filterMap_filter]
  refine List.filterMap_congr ?_
  intro event _
  cases event <;> rfl

section Chronicle

variable {react : FarEnd σ} {settings : MotionSettings} {shared : Shared} {past : List (Turn σ)}
  {c after : Cycle σ}

/-- One cycle more. -/
theorem Chronicle.turn (h : Chronicle react settings shared past c)
    (hnumber : c.runner.timing.cycles = past.length) {s : Cycle.Schedule}
    (hreported : c.Reported after (c.calls react (c.budget s))) :
    Chronicle react settings shared (past ++ [⟨s, c, after⟩]) after := by
  rcases c.calls_few react (c.budget s) with ⟨hfew, hcalls⟩
  generalize hmade : c.calls react (c.budget s) = calls at *
  generalize ht : (⟨s, c, after⟩ : Turn σ) = t
  have htcalls : t.calls react = calls := by rw [← ht]; exact hmade
  -- The buffer begins empty, and two calls do not fill it.
  have htold : (c.runner.machine.run calls).events = c.runner.machine.story calls := by
    have hroom : c.runner.machine.events.length + 2 * calls.length ≤ Machine.eventCapacity := by
      rw [h.taken]
      show 0 + 2 * calls.length ≤ 8
      omega
    rw [h.orderly.events_run hroom hcalls, h.taken]
    rfl
  rcases hreported.events with ⟨front, back, hevents, hfront, hback⟩
  rw [htold] at hevents
  have hraised : t.raised = front ++ c.runner.machine.story calls ++ back := by
    rw [← ht]
    show after.shared.events.drop c.shared.events.length = _
    rw [hevents, List.drop_left]
  have hafter : Machine.Alike (c.runner.machine.run calls) after.runner.machine := by
    rw [hreported.machine]
    exact ⟨[], rfl⟩
  have horderly := h.orderly.run calls
  constructor
  case orderly =>
    rw [hreported.machine]
    exact ⟨⟨horderly.recorded, horderly.carried, horderly.moving⟩, horderly.admissible⟩
  case machine =>
    rw [List.flatMap_append, List.flatMap_singleton, htcalls, Machine.run_append]
    exact (h.machine.run calls).trans hafter
  case taken => rw [hreported.machine]
  case events =>
    rw [List.flatMap_append, List.flatMap_singleton, hraised, hevents, h.events, List.append_assoc]
  case story =>
    rw [List.flatMap_append, List.flatMap_append, List.flatMap_singleton, List.flatMap_singleton,
      List.filter_append, h.story, htcalls, hraised, Machine.story_append,
      ← h.machine.story calls,
      filter_isOfAxis_between hfront (Machine.isOfAxis_story _ _) hback]
  case announced =>
    rw [List.flatMap_append, List.flatMap_singleton, hraised]
    have hquiet {events : List Event} (hother : ∀ event ∈ events, event.isOfAxis = false) :
        Announced events :=
      announced_of_none fun event hevent => fault?_of_not_axis (hother event hevent)
    exact h.announced.append
      (((hquiet hfront).append (Machine.announced_story _ _)).append (hquiet hback))
  case faults =>
    rw [faultsOf_concat, hraised, recorded_append, recorded_append, recorded_of_not_axis _ hfront,
      recorded_of_not_axis _ hback, List.nil_append, List.append_nil, hreported.faults, htold,
      h.faults, foldl_remember, hnumber]

/-- Commands given meanwhile change nothing of it. -/
theorem Chronicle.offer (h : Chronicle react settings shared past c)
    (commands : List OperatorCommand) :
    Chronicle react settings shared past (c.offer commands) :=
  ⟨h.orderly, h.machine, h.taken, h.events, h.story, h.announced, h.faults⟩

/-- The invariant holds throughout every run, and at its end. -/
theorem Chronicle.run (h : Chronicle react settings shared past c)
    (hnumber : c.runner.timing.cycles = past.length) (entries : List (List OperatorCommand))
    (s : Cycle.Schedule) :
    Chronicle react settings shared (past ++ turns react entries s c)
      (Cycle.run react entries s c).cycle := by
  induction entries generalizing past s c with
  | nil =>
      show Chronicle react settings shared (past ++ []) c
      rw [List.append_nil]
      exact h
  | cons commands later ih =>
      rcases Cycle.reported_turn react s c with ⟨hreported, hcounted⟩
      have hturned := h.turn hnumber hreported
      unfold turns Cycle.run
      dsimp only
      cases hturn : c.turn react s with
      | mk result next =>
          rcases next with ⟨s', after⟩
          rw [hturn] at hturned hcounted
          cases result with
          | error cause => exact hturned
          | ok =>
              have hrest := ih (hturned.offer commands) ?_ s'
              · rw [List.append_assoc] at hrest
                exact hrest
              · rw [List.length_append, ← hnumber]
                exact hcounted rfl

/-- The changes among all events are those of the story. -/
theorem Chronicle.chain (h : Chronicle react settings shared past c) :
    Chain .disabled ((past.flatMap (·.raised)).filterMap Event.change?) c.runner.machine.state := by
  have hstory := Machine.chain_story (.new settings) (past.flatMap (·.calls react))
  rw [← h.story, filterMap_filter_isOfAxis, ← h.machine.state] at hstory
  exact hstory

end Chronicle

theorem chronicle_fresh (react : FarEnd σ) (settings : MotionSettings) (channel : Channel)
    (period jitterPercent : Nat) (commands : List OperatorCommand) (shared : Shared)
    (line : Line σ) :
    Chronicle react settings shared []
      (Cycle.fresh settings channel period jitterPercent commands shared line) where
  orderly := Machine.orderly_new settings
  machine := ⟨[], rfl⟩
  taken := rfl
  events := (List.append_nil _).symm
  story := rfl
  announced := announced_of_none (by rintro _ ⟨⟩)
  faults := rfl

/-- In every run of the loop, also one that the transport ends, the events handed on hold every
event of the axis machine, in order.  The changes among them lead from the disabled state to the
present one; a fault entered is followed at once by the change into the fault state; and the history
holds the latest faults, each under the number of the cycle that raised it. -/
theorem events_chronicle (react : FarEnd σ) (settings : MotionSettings) (channel : Channel)
    (period jitterPercent : Nat) (commands : List OperatorCommand) (shared : Shared)
    (line : Line σ) (entries : List (List OperatorCommand)) (s : Cycle.Schedule) :
    let start := Cycle.fresh settings channel period jitterPercent commands shared line
    let past := turns react entries s start
    let last := (Cycle.run react entries s start).cycle
    let raised := past.flatMap (·.raised)
    last.shared.events = shared.events ++ raised
      ∧ raised.filter Event.isOfAxis =
        (Machine.new settings).story (past.flatMap (·.calls react))
      ∧ Chain .disabled (raised.filterMap Event.change?) last.runner.machine.state
      ∧ Announced raised
      ∧ last.runner.faults = recent (faultsOf past) := by
  have h := (chronicle_fresh react settings channel period jitterPercent commands shared
    line).run rfl entries s
  exact ⟨h.events, h.story, h.chain, h.announced, h.faults⟩

end Cyclic
end ServoLink
