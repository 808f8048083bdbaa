import ServoLink.Net.Script
import ServoLink.Proofs.Cyclic.Trace
import ServoLink.Proofs.Motion.Reports

/-!
# Link fault — once in a run, at the miss that completes the threshold

The channel counts the misses since the last answer and latches the link fault.  In terms of the
cycles of a run: the fault is raised by the cycle that completes the threshold for the first time
(`CompletesFirst`), and by no other.  That cycle faults the axis machine and the connection.

* `Watching` — the count and the latch of the channel, read off the cycles so far;
* `Watching.turn` — every cycle keeps it;
* `linkFault_once` — what a cycle of a run reports, and what the link fault leaves behind.
-/

namespace ServoLink

/-- The event reports on the command or the schedule of a cycle, not on its exchange. -/
def Event.isAside : Event → Bool
  | .commandRejected .. | .jitterExceeded .. => true
  | _ => false

namespace Cyclic

open Wire ProcessData Motion Net

/-! ## Misses in a row -/

/-- The last so many cycles were missed. -/
def Completes (threshold : Nat) (outcomes : List Outcome) : Prop :=
  List.replicate threshold .missed <:+ outcomes

/-- The last cycles complete so many misses in a row, for the first time. -/
def CompletesFirst (threshold : Nat) (outcomes : List Outcome) : Prop :=
  Completes threshold outcomes
    ∧ ∀ first, first <+: outcomes → Completes threshold first → first = outcomes

/-- How many cycles were missed since the last answer. -/
def trailing (outcomes : List Outcome) : Nat :=
  (outcomes.reverse.takeWhile (· == .missed)).length

@[simp] theorem trailing_missed (outcomes : List Outcome) :
    trailing (outcomes ++ [.missed]) = trailing outcomes + 1 := by
  simp [trailing]

@[simp] theorem trailing_answered (outcomes : List Outcome) :
    trailing (outcomes ++ [.answered]) = 0 := by
  simp [trailing]

theorem replicate_missed_prefix_iff {n : Nat} {outcomes : List Outcome} :
    List.replicate n .missed <+: outcomes ↔
      n ≤ (outcomes.takeWhile (· == .missed)).length := by
  induction outcomes generalizing n with
  | nil => simp
  | cons last rest ih =>
      cases n with
      | zero => simp
      | succ n =>
          rw [List.replicate_succ, List.cons_prefix_cons, ih]
          cases last <;> simp

theorem completes_iff {threshold : Nat} {outcomes : List Outcome} :
    Completes threshold outcomes ↔ threshold ≤ trailing outcomes := by
  unfold Completes trailing
  rw [← replicate_missed_prefix_iff, ← List.reverse_prefix, List.reverse_replicate]

theorem completesFirst_concat_iff {threshold : Nat} {outcomes : List Outcome} {last : Outcome} :
    CompletesFirst threshold (outcomes ++ [last]) ↔
      Completes threshold (outcomes ++ [last])
        ∧ ¬ ∃ first, first <+: outcomes ∧ Completes threshold first := by
  unfold CompletesFirst
  refine and_congr_right ?_
  intro _
  constructor
  · rintro honly ⟨first, hfirst, hcompletes⟩
    have hsame := honly first (hfirst.trans (List.prefix_append outcomes [last])) hcompletes
    have hshorter := hfirst.length_le
    rw [hsame, List.length_append, List.length_singleton] at hshorter
    omega
  · intro hnone first hfirst hcompletes
    rcases List.prefix_concat_iff.1 hfirst with hwhole | hearlier
    · exact hwhole
    · exact absurd ⟨first, hearlier, hcompletes⟩ hnone

/-- There was a completion by now if there was one before, or this is one. -/
theorem exists_completes_concat_iff {threshold : Nat} {outcomes : List Outcome}
    {last : Outcome} :
    (∃ first, first <+: outcomes ++ [last] ∧ Completes threshold first) ↔
      (∃ first, first <+: outcomes ∧ Completes threshold first)
        ∨ Completes threshold (outcomes ++ [last]) := by
  constructor
  · rintro ⟨first, hfirst, hcompletes⟩
    rcases List.prefix_concat_iff.1 hfirst with rfl | hearlier
    · exact Or.inr hcompletes
    · exact Or.inl ⟨first, hearlier, hcompletes⟩
  · rintro (⟨first, hfirst, hcompletes⟩ | hcompletes)
    · exact ⟨first, hfirst.trans (List.prefix_append outcomes [last]), hcompletes⟩
    · exact ⟨_, List.prefix_rfl, hcompletes⟩

theorem not_completes_answered {threshold : Nat} (h : 1 ≤ threshold) (outcomes : List Outcome) :
    ¬ Completes threshold (outcomes ++ [.answered]) := by
  rw [completes_iff, trailing_answered]
  omega

/-! ## The invariant -/

variable {σ : Type}

namespace Cycle

/-- The channel counts the misses of the cycles so far and remembers a completion of the threshold;
the machine is sound, and its events have been taken. -/
structure Watching (threshold : Nat) (outcomes : List Outcome) (c : Cycle σ) : Prop where
  sound : c.runner.machine.Sound
  events : c.runner.machine.events = []
  missThreshold : c.link.channel.missThreshold = threshold
  consecutiveMisses : c.link.channel.consecutiveMisses =
    min (trailing outcomes) (UInt32.size - 1)
  linkFaulted : c.link.channel.linkFaulted ↔
    ∃ first, first <+: outcomes ∧ Completes threshold first

/-- A loop about to begin. -/
def fresh (settings : MotionSettings) (channel : Channel) (period jitterPercent : Nat)
    (commands : List OperatorCommand) (shared : Shared) (line : Line σ) : Cycle σ :=
  { runner := { Runner.new (.new settings) period jitterPercent with commands }
    shared, link := ⟨channel, line⟩ }

section Watching

variable {react : FarEnd σ} {threshold : Nat} {outcomes : List Outcome} {s s' : Schedule}
variable {c c' after : Cycle σ}

theorem watching_fresh (settings : MotionSettings) (checksum : Bool) (h : 1 ≤ threshold)
    (period jitterPercent : Nat) (commands : List OperatorCommand) (shared : Shared)
    (line : Line σ) :
    (fresh settings (.new checksum threshold period) period jitterPercent commands shared
      line).Watching threshold [] where
  sound := Machine.sound_new settings
  events := rfl
  missThreshold := Nat.max_eq_left h
  consecutiveMisses := rfl
  linkFaulted := by
    constructor
    · rintro ⟨⟩
    · rintro ⟨first, hfirst, hcompletes⟩
      rw [List.prefix_nil.1 hfirst, completes_iff] at hcompletes
      exact absurd h (Nat.not_le.2 (Nat.lt_succ_of_le hcompletes))

/-- The next miss faults the link when it completes the threshold for the first time. -/
theorem Watching.faultsOnMiss_iff (h : c.Watching threshold outcomes)
    (hword : threshold ≤ UInt32.size - 1) :
    c.link.channel.faultsOnMiss ↔ CompletesFirst threshold (outcomes ++ [.missed]) := by
  have hcount : threshold ≤ min (c.link.channel.consecutiveMisses + 1) (UInt32.size - 1) ↔
      Completes threshold (outcomes ++ [.missed]) := by
    rw [completes_iff, trailing_missed, h.consecutiveMisses]
    omega
  have hlatch : c.link.channel.linkFaulted = false ↔
      ¬ ∃ first, first <+: outcomes ∧ Completes threshold first := by
    rw [← h.linkFaulted]
    exact (Bool.not_eq_true _).symm.to_iff
  rw [completesFirst_concat_iff, ← hcount, ← hlatch]
  unfold Channel.faultsOnMiss
  rw [h.missThreshold]
  simp [and_comm]

theorem Watching.offer (h : c.Watching threshold outcomes) (commands : List OperatorCommand) :
    (c.offer commands).Watching threshold outcomes :=
  ⟨h.sound, h.events, h.missThreshold, h.consecutiveMisses, h.linkFaulted⟩

theorem Watching.accounted (h : c.Watching threshold outcomes) (hsame : Accounted c c') :
    c'.Watching threshold outcomes where
  sound := by
    rw [hsame.machine]
    exact h.sound
  events := by
    rw [hsame.machine]
    exact h.events
  missThreshold := by
    rw [hsame.channel]
    exact h.missThreshold
  consecutiveMisses := by
    rw [hsame.channel]
    exact h.consecutiveMisses
  linkFaulted := by
    rw [hsame.channel]
    exact h.linkFaulted

/-! ### One cycle -/

variable {result : EStateM.Result LinkError (Link σ) StatusResponse}

theorem Watching.missThreshold_verdict (h : c.Watching threshold outcomes)
    (hverdict : Verdict c.link.channel result) (hworks : Outcome.of result ≠ .failed) :
    (linkOf result).channel.missThreshold = threshold := by
  cases hverdict with
  | answered hthreshold => exact hthreshold.trans h.missThreshold
  | missed _ hthreshold => exact hthreshold.trans h.missThreshold
  | lost _ hthreshold => exact hthreshold.trans h.missThreshold
  | failed => exact absurd rfl hworks

/-- An answer starts the count anew, a miss adds one to it. -/
theorem Watching.consecutiveMisses_verdict (h : c.Watching threshold outcomes)
    (hverdict : Verdict c.link.channel result) (hworks : Outcome.of result ≠ .failed) :
    (linkOf result).channel.consecutiveMisses =
      min (trailing (outcomes ++ [.of result])) (UInt32.size - 1) := by
  have hcount : ∀ after : Link σ,
      after.channel.consecutiveMisses =
          min (c.link.channel.consecutiveMisses + 1) (UInt32.size - 1) →
        after.channel.consecutiveMisses =
          min (trailing (outcomes ++ [.missed])) (UInt32.size - 1) := by
    intro after hmisses
    rw [hmisses, trailing_missed, h.consecutiveMisses]
    omega
  cases hverdict with
  | answered _ hmisses _ =>
      show _ = min (trailing (outcomes ++ [.answered])) _
      rw [trailing_answered]
      exact hmisses
  | missed _ _ hmisses _ => exact hcount _ hmisses
  | lost _ _ hmisses _ => exact hcount _ hmisses
  | failed => exact absurd rfl hworks

/-- The latch is set by the first completion of the threshold, and stays. -/
theorem Watching.linkFaulted_verdict (h : c.Watching threshold outcomes)
    (hpositive : 1 ≤ threshold) (hword : threshold ≤ UInt32.size - 1)
    (hverdict : Verdict c.link.channel result) (hworks : Outcome.of result ≠ .failed) :
    (linkOf result).channel.linkFaulted ↔
      ∃ first, first <+: outcomes ++ [.of result] ∧ Completes threshold first := by
  have hearlier : ∀ after : Link σ, after.channel.linkFaulted = c.link.channel.linkFaulted →
      (after.channel.linkFaulted ↔ ∃ first, first <+: outcomes ∧ Completes threshold first) := by
    intro after hlatch
    rw [hlatch]
    exact h.linkFaulted
  cases hverdict with
  | answered _ _ hlatch =>
      show _ ↔ ∃ first, first <+: outcomes ++ [.answered] ∧ _
      -- The latch outlives the answer, and the answer completes nothing.
      have hnot := not_completes_answered hpositive outcomes
      rw [exists_completes_concat_iff, or_iff_left hnot]
      exact hearlier _ hlatch
  | missed hfaults _ _ hlatch =>
      show _ ↔ ∃ first, first <+: outcomes ++ [.missed] ∧ _
      -- A completion that is not the first needs an earlier one.
      have hnot : ¬ CompletesFirst threshold (outcomes ++ [.missed]) := by
        rw [← h.faultsOnMiss_iff hword, hfaults]
        exact Bool.false_ne_true
      rw [completesFirst_concat_iff] at hnot
      have hneeded : Completes threshold (outcomes ++ [.missed]) →
          ∃ first, first <+: outcomes ∧ Completes threshold first := by
        intro hnow
        by_contra hnone
        exact hnot ⟨hnow, hnone⟩
      rw [exists_completes_concat_iff, or_iff_left_of_imp hneeded]
      exact hearlier _ hlatch
  | lost hfaults _ _ hlatch =>
      show _ ↔ ∃ first, first <+: outcomes ++ [.missed] ∧ _
      have hfirst := (h.faultsOnMiss_iff hword).1 hfaults
      exact iff_of_true hlatch ⟨_, List.prefix_rfl, hfirst.1⟩
  | failed => exact absurd rfl hworks

theorem Watching.turn (h : c.Watching threshold outcomes) (hpositive : 1 ≤ threshold)
    (hword : threshold ≤ UInt32.size - 1) (hturn : c.turn react s = (.ok (), s', c')) :
    c'.Watching threshold (outcomes ++ [c.outcome react s]) := by
  have hworks := outcome_ne_failed hturn
  rcases turn_ok hturn with ⟨after, hbody, haccounted⟩
  have hworked := worked_body hbody
  have hverdict := verdict_exchange react c.takeCommand.request (c.budget s) c.link
  unfold outcome at hworks ⊢
  generalize exchange react c.takeCommand.request (c.budget s) c.link = result at *
  rcases hworked.machine h.sound with ⟨hsound, hevents⟩
  refine Watching.accounted ⟨hsound, hevents, ?_, ?_, ?_⟩ haccounted
  · rw [hworked.link]
    exact h.missThreshold_verdict hverdict hworks
  · rw [hworked.link]
    exact h.consecutiveMisses_verdict hverdict hworks
  · rw [hworked.link]
    exact h.linkFaulted_verdict hpositive hword hverdict hworks

/-- The invariant holds throughout every run. -/
theorem Watching.reaches {s₀ : Schedule} {c₀ : Cycle σ} (h : c₀.Watching threshold [])
    (hpositive : 1 ≤ threshold) (hword : threshold ≤ UInt32.size - 1)
    (hrun : Reaches react s₀ c₀ outcomes s c) : c.Watching threshold outcomes := by
  induction hrun with
  | start => exact h
  | turn commands _ hturn ih => exact (ih.turn hpositive hword hturn).offer commands

/-! ## Reports -/

/-- Taking a command reports its refusal at most. -/
theorem events_takeCommand (h : c.runner.machine.events = []) :
    c.takeCommand.runner.machine.events = []
      ∨ ∃ command state,
        c.takeCommand.runner.machine.events = [.commandRejected command state] := by
  unfold takeCommand
  split
  · exact Or.inl h
  · rename_i command _
    rcases c.runner.machine.events_submit command with ⟨refused, hevents, rfl | rfl⟩
    · left
      simpa [h] using hevents
    · right
      exact ⟨_, _, by simpa [h] using hevents⟩

theorem filter_ite_nil (condition : Prop) [Decidable condition] {events : List Event}
    (h : events.filter (!·.isAside) = events) :
    (if condition then [] else events).filter (!·.isAside) =
      if condition then [] else events := by
  split
  · rfl
  · exact h

/-- The refusal of a command is an aside. -/
theorem filter_events_takeCommand (h : c.runner.machine.events = []) :
    c.takeCommand.runner.machine.events.filter (!·.isAside) = []
      ∧ c.takeCommand.runner.machine.events.length ≤ 1 := by
  rcases events_takeCommand h with hnone | ⟨command, state, hrefused⟩
  · simp [hnone]
  · simp [hrefused, Event.isAside]

/-- The report of a late cycle is an aside. -/
theorem Accounted.aside (h : Accounted c after) :
    ∃ late, after.shared.events = c.shared.events ++ late ∧ late.filter (!·.isAside) = [] := by
  rcases h.events with ⟨late, hlate, rfl | ⟨cycle, latency, tolerance, rfl⟩⟩
  · exact ⟨[], hlate, rfl⟩
  · exact ⟨_, hlate, rfl⟩

theorem fault_takeCommand (c : Cycle σ) :
    c.takeCommand.runner.machine.fault = c.runner.machine.fault := by
  unfold takeCommand
  split
  · rfl
  · exact Machine.fault_submit _ _

/-- What the cycle that faults the link reports, and what it leaves behind. -/
structure LinkLost (c after : Cycle σ) (raised : List Event) : Prop where
  raised : raised.filter (!·.isAside) =
    .cycleMissed c.runner.timing.cycles after.link.channel.consecutiveMisses
      :: .linkFaulted after.link.channel.consecutiveMisses
      :: ((if c.shared.connection = .faulted then []
          else [.sessionStateChanged c.shared.connection .faulted])
        ++ (if c.runner.machine.state = .faulted then []
          else [.faultEntered .linkLost, .motionStateChanged c.runner.machine.state .faulted]))
  state : after.runner.machine.state = .faulted
  fault : after.runner.machine.fault =
    if c.runner.machine.state = .faulted then c.runner.machine.fault else some .linkLost
  connection : after.shared.connection = .faulted
  output : after.runner.output = ⟨ControlWord.idle, none⟩

theorem Watching.linkLost (h : c.Watching threshold outcomes) {link : Link σ}
    (hworked : Worked c (.error .linkFaulted link) after) (haccounted : Accounted after c') :
    ∃ raised, c'.shared.events = c.shared.events ++ raised
      ∧ .linkFaulted link.channel.consecutiveMisses ∈ raised ∧ LinkLost c c' raised := by
  have htaken := sound_takeCommand h.sound
  have hstate := state_takeCommand c
  rcases haccounted.aside with ⟨late, hlate, haside⟩
  rcases filter_events_takeCommand h.events with ⟨hrefused, hfew⟩
  cases hworked with
  | lost hlink hmachine houtput hconnection _ hevents =>
      -- Forcing a fault reports twice; the machine holds a refusal at most.
      have hroom : c.takeCommand.runner.machine.events.length + 1 < Machine.eventCapacity :=
        Nat.lt_of_le_of_lt (Nat.succ_le_succ hfew) (by decide)
      have hforced := Machine.events_forceFault hroom .linkLost
      have hchannel : c'.link.channel = link.channel :=
        haccounted.channel.trans (congrArg Link.channel hlink)
      rw [hforced, hstate] at hevents
      rw [hevents, List.append_assoc] at hlate
      refine ⟨_, hlate, by simp, ?_, ?_, ?_, haccounted.connection.trans hconnection, ?_⟩
      · -- Only the refusal and the report of a late cycle drop out.
        rw [hchannel, List.filter_append, haside, List.append_nil]
        refine congrArg (_ :: _ :: ·) ?_
        rw [List.filter_append, List.filter_append, hrefused, List.nil_append,
          filter_ite_nil _ rfl, filter_ite_nil _ rfl]
      · rw [haccounted.machine, hmachine]
        exact Machine.state_forceFault _ _
      · rw [haccounted.machine, hmachine]
        show (c.takeCommand.runner.machine.forceFault .linkLost).fault = _
        unfold Machine.forceFault
        rw [hstate]
        split
        · exact fault_takeCommand c
        · exact Machine.fault_enterFault _ _
      · rw [haccounted.output, houtput]
        exact htaken.output_forceFault .linkLost

/-- A miss that does not fault the link is reported as such, and nothing else is. -/
theorem Watching.missed (h : c.Watching threshold outcomes) {link : Link σ}
    (hworked : Worked c (.error .cycleMissed link) after) (haccounted : Accounted after c') :
    ∃ raised, c'.shared.events = c.shared.events ++ raised
      ∧ raised.filter (!·.isAside) =
        [.cycleMissed c.runner.timing.cycles c'.link.channel.consecutiveMisses] := by
  rcases haccounted.aside with ⟨late, hlate, haside⟩
  have hrefused := (filter_events_takeCommand h.events).1
  cases hworked with
  | missed hlink _ _ _ _ hevents =>
      have hchannel : c'.link.channel = link.channel :=
        haccounted.channel.trans (congrArg Link.channel hlink)
      rw [hevents, List.append_assoc] at hlate
      refine ⟨_, hlate, ?_⟩
      rw [hchannel, List.filter_append, haside, List.append_nil]
      exact congrArg (_ :: ·) hrefused

/-- An answered cycle does not raise the link fault. -/
theorem Watching.answered (h : c.Watching threshold outcomes) {status : StatusResponse}
    {link : Link σ} (hworked : Worked c (.ok status link) after)
    (haccounted : Accounted after c') :
    ∃ raised, c'.shared.events = c.shared.events ++ raised
      ∧ ∀ n, .linkFaulted n ∉ raised := by
  rcases haccounted.aside with ⟨late, hlate, haside⟩
  have htaken : c.takeCommand.runner.machine.Axial := by
    intro event hevent
    rcases events_takeCommand h.events with hnone | ⟨command, state, hrefused⟩
    · rw [hnone] at hevent
      cases hevent
    · rw [hrefused] at hevent
      rw [List.mem_singleton.1 hevent]
      rfl
  cases hworked with
  | answered hlink _ _ _ _ hevents =>
      rw [hevents, List.append_assoc] at hlate
      refine ⟨_, hlate, ?_⟩
      intro n hmem
      rcases List.mem_append.1 hmem with hmachine | hjitter
      · have haxis := htaken.update _ _ hmachine
        cases haxis
      · have hkept : .linkFaulted n ∈ late.filter (!·.isAside) :=
          List.mem_filter.2 ⟨hjitter, rfl⟩
        rw [haside] at hkept
        cases hkept

end Watching

/-- In every run without transport failures, a cycle raises the link fault if and only if it
completes the threshold of misses for the first time; then it faults the axis machine and the
connection, too.  Every other missed cycle reports the miss alone. -/
theorem linkFault_once (react : FarEnd σ) (settings : MotionSettings) (checksum : Bool)
    (threshold : UInt32) (hpositive : 1 ≤ threshold) (period jitterPercent : Nat)
    (commands : List OperatorCommand) (shared : Shared) (line : Line σ) {s₀ s s' : Schedule}
    {outcomes : List Outcome} {c c' : Cycle σ}
    (hrun : Reaches react s₀ (fresh settings (.new checksum threshold.toNat period) period
      jitterPercent commands shared line) outcomes s c)
    (hturn : c.turn react s = (.ok (), s', c')) :
    ∃ raised, c'.shared.events = c.shared.events ++ raised
      ∧ ((∃ n, .linkFaulted n ∈ raised) ↔
        CompletesFirst threshold.toNat (outcomes ++ [c.outcome react s]))
      ∧ (c.outcome react s = .missed →
        ¬ CompletesFirst threshold.toNat (outcomes ++ [c.outcome react s]) →
          raised.filter (!·.isAside) =
            [.cycleMissed c.runner.timing.cycles c'.link.channel.consecutiveMisses])
      ∧ (CompletesFirst threshold.toNat (outcomes ++ [c.outcome react s]) →
        LinkLost c c' raised) := by
  have hone : 1 ≤ threshold.toNat := by
    simpa using UInt32.le_iff_toNat_le.1 hpositive
  have hword : threshold.toNat ≤ UInt32.size - 1 := Nat.le_sub_one_of_lt threshold.toNat_lt
  have hstart := watching_fresh settings checksum hone period jitterPercent commands shared line
  have hwatching := hstart.reaches hone hword hrun
  rcases turn_ok hturn with ⟨after, hbody, haccounted⟩
  have hworked := worked_body hbody
  have hverdict := verdict_exchange react c.takeCommand.request (c.budget s) c.link
  unfold outcome
  generalize exchange react c.takeCommand.request (c.budget s) c.link = result at hworked hverdict
  have hkept := hworked
  -- An answered cycle completes nothing; of the missed ones the latch and the count decide.
  cases hworked with
  | answered =>
      have hnot : ¬ CompletesFirst threshold.toNat (outcomes ++ [.answered]) := by
        rintro ⟨hcompletes, -⟩
        exact not_completes_answered hone outcomes hcompletes
      rcases hwatching.answered hkept haccounted with ⟨raised, hraised, hnone⟩
      refine ⟨raised, hraised, iff_of_false ?_ hnot, ?_, fun hfirst => absurd hfirst hnot⟩
      · rintro ⟨n, hmem⟩
        exact hnone n hmem
      · rintro ⟨⟩
  | missed =>
      cases hverdict with
      | missed hfaults _ _ _ =>
          have hnot : ¬ CompletesFirst threshold.toNat (outcomes ++ [.missed]) := by
            rw [← hwatching.faultsOnMiss_iff hword, hfaults]
            exact Bool.false_ne_true
          rcases hwatching.missed hkept haccounted with ⟨raised, hraised, honly⟩
          refine ⟨raised, hraised, iff_of_false ?_ hnot, fun _ _ => honly,
            fun hfirst => absurd hfirst hnot⟩
          rintro ⟨n, hmem⟩
          have hkept : .linkFaulted n ∈ raised.filter (!·.isAside) :=
            List.mem_filter.2 ⟨hmem, rfl⟩
          rw [honly] at hkept
          cases List.mem_singleton.1 hkept
  | lost =>
      cases hverdict with
      | lost hfaults _ _ _ =>
          have hfirst := (hwatching.faultsOnMiss_iff hword).1 hfaults
          rcases hwatching.linkLost hkept haccounted with ⟨raised, hraised, hmem, hlost⟩
          exact ⟨raised, hraised, iff_of_true ⟨_, hmem⟩ hfirst, fun _ hnot => absurd hfirst hnot,
            fun _ => hlost⟩

/-- The second cycle is answered, all others are missed. -/
def answeredOnce : Script :=
  [{}, { replies := [(0, .frame { sequence := none, offset := 0, message := .status default })] }]

/-- A loop that tolerates one miss, with an enable waiting. -/
def impatient : Schedule × Cycle Script :=
  ({}, fresh {} (.new false 2 1000) 1000 0 [.enable] {} { far := answeredOnce })

/-- The loop before its cycle `n`. -/
def impatientAt : Nat → Schedule × Cycle Script
  | 0 => impatient
  | n + 1 => next Script.react [] (impatientAt n)

/-- The loop recovers from its first miss; the second miss in a row afterwards faults the link. -/
theorem linkFault_once_recovered :
    let c := (impatientAt 3).2
    let s := (impatientAt 3).1
    let c' := (c.turn Script.react s).2.2
    let outcomes := [(impatientAt 0).2.outcome Script.react (impatientAt 0).1,
      (impatientAt 1).2.outcome Script.react (impatientAt 1).1,
      (impatientAt 2).2.outcome Script.react (impatientAt 2).1]
    outcomes ++ [c.outcome Script.react s] = [.missed, .answered, .missed, .missed]
      ∧ ∃ raised, c'.shared.events = c.shared.events ++ raised
        ∧ ((∃ n, .linkFaulted n ∈ raised) ↔
          CompletesFirst 2 (outcomes ++ [c.outcome Script.react s]))
        ∧ (c.outcome Script.react s = .missed →
          ¬ CompletesFirst 2 (outcomes ++ [c.outcome Script.react s]) →
            raised.filter (!·.isAside) =
              [.cycleMissed c.runner.timing.cycles c'.link.channel.consecutiveMisses])
        ∧ (CompletesFirst 2 (outcomes ++ [c.outcome Script.react s]) → LinkLost c c' raised) := by
  have hstart : Reaches Script.react impatient.1 impatient.2 [] impatient.1 impatient.2 := .start
  have hfirst := hstart.next (impatientAt 0) (by decide +kernel) []
  have hsecond := hfirst.next (impatientAt 1) (by decide +kernel) []
  have hthird := hsecond.next (impatientAt 2) (by decide +kernel) []
  have hturn : ((impatientAt 3).2.turn Script.react (impatientAt 3).1).1 = .ok () := by
    decide +kernel
  refine ⟨by decide +kernel, ?_⟩
  exact linkFault_once Script.react {} false 2 (by decide) 1000 0 [.enable] {} _
    hthird (Prod.ext hturn rfl)

end Cycle
end Cyclic
end ServoLink
