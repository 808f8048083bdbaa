import ServoLink.Proofs.Motion.Diagram

/-!
# Completion — when a move is over, and which counts are sent

Whether a move is over hangs on the echoed count, on two bits of the status, and on the latch that a
stop sets.  The latch is exactly the memory of a stop taken in the move under way
(`Machine.StoppedMove`), so a stop of an earlier move never completes a later one.

* `Machine.stopping_run_iff` — the latch and the history of the run;
* `Machine.echoedCount_run` — the last echo of the run;
* `Machine.Orderly.ready_update_iff` — when a status completes a move;
* `Machine.open_loop_moves` — all of it, with the counts, for every run from a new machine.
-/

namespace ServoLink
namespace Motion
namespace Machine

open ProcessData

/-! ## The latch -/

section Latch

variable {m m' : Machine} {s : AxisStatus}

/-- Only a change of the state clears the latch. -/
theorem stopping_transition_eq (m : Machine) (target : MotionState) :
    (m.transition target).stopping = (decide (m.state = target) && m.stopping) := by
  unfold transition
  split
  · rename_i hsame
    simp [hsame]
  · rename_i hother
    simp [hother]

theorem stopping_enterFault (m : Machine) (reason : FaultReason) :
    (m.enterFault reason).stopping = (decide (m.state = .faulted) && m.stopping) := by
  simp [enterFault, stopping_transition_eq]

/-- The latch is set in a move only. -/
def Latched (m : Machine) : Prop := m.state ≠ .moving → m.stopping = false

/-- After a step the latch is set if the move goes on, and the latch was set or a stop was pending. -/
theorem Step.stopping_iff (h : Step m s m') (hlatched : m.Latched) (hpending : m'.pending = none) :
    m'.stopping ↔ m'.state = .moving
      ∧ (m.stopping ∨ m.state = .moving ∧ m.pending = some .stop) := by
  unfold Latched at hlatched
  cases h with
  | stay =>
      -- A stop that is pending would have been taken.
      by_cases hmoving : m.state = .moving
      · simp [hmoving, hpending]
      · simp [hmoving, hlatched hmoving]
  | stop hmoving hstop => simp [hmoving, hstop]
  | stopAgain hmoving _ hset => simp [hmoving, hset]
  | fault | enableTimeout | homingTimeout =>
      rw [stopping_enterFault, state_enterFault]
      by_cases hfaulted : m.state = .faulted
      · simp [hfaulted, hlatched (by rw [hfaulted]; decide)]
      · simp [hfaulted]
  | disable =>
      rw [stopping_transition_eq, state_transition]
      by_cases hdisabled : m.state = .disabled
      · simp [hdisabled, hlatched (by rw [hdisabled]; decide)]
      · simp [hdisabled]
  | settled hmoving => simp [stopping_transition_eq, hmoving]
  | enable hstate | enabled hstate | home hstate | homed hstate | acknowledge hstate
  | cleared hstate | move _ hstate =>
      have hclear := hlatched (by rw [hstate]; decide)
      simp [stopping_transition_eq, hstate, hclear]
  | homingBegun hstate | dropped hstate | notReady hstate =>
      have hclear := hlatched (by rw [hstate]; decide)
      simp [hstate, hclear]

/-- The call makes the machine take a stop that is pending in a move, and the move goes on. -/
def TakesStop (m : Machine) (c : Call) : Prop :=
  m.state = .moving ∧ m.pending = some .stop ∧ (m.call c).state = .moving ∧ ∃ s, c = .update s

theorem Orderly.stopping_update_iff (h : m.Orderly) (hlatched : m.Latched) (s : AxisStatus) :
    (m.update s).stopping ↔ m.TakesStop (.update s)
      ∨ m.stopping ∧ (m.update s).state = .moving := by
  have hnoted : (m.noted s).Latched := by simpa [Latched] using hlatched
  have hstep := (update_step m s).stopping_iff hnoted (h.pending_update s)
  simp only [state_noted, pending_noted, stopping_noted] at hstep
  rw [hstep]
  show _ ↔ (m.state = .moving ∧ m.pending = some .stop ∧ (m.update s).state = .moving
    ∧ ∃ s', Call.update s = .update s') ∨ _
  constructor
  · rintro ⟨hmoving, hset | ⟨hbefore, hstop⟩⟩
    · exact Or.inr ⟨hset, hmoving⟩
    · exact Or.inl ⟨hbefore, hstop, hmoving, s, rfl⟩
  · rintro (⟨hbefore, hstop, hmoving, -⟩ | ⟨hset, hmoving⟩)
    · exact ⟨hmoving, Or.inr ⟨hbefore, hstop⟩⟩
    · exact ⟨hmoving, Or.inl hset⟩

/-- No call but an update takes a stop. -/
theorem not_takesStop {c : Call} (hc : ∀ s, c ≠ .update s) : ¬ m.TakesStop c := by
  rintro ⟨-, -, -, s, hs⟩
  exact hc s hs

theorem Orderly.stopping_call_iff (h : m.Orderly) (hlatched : m.Latched) (c : Call) :
    (m.call c).stopping ↔ m.TakesStop c ∨ m.stopping ∧ (m.call c).state = .moving := by
  have hset : m.stopping → m.state = .moving := by
    intro hset
    by_contra hnot
    rw [hlatched hnot] at hset
    cases hset
  cases c with
  | update s => exact h.stopping_update_iff hlatched s
  | takeEvents =>
      have hnone : ¬ m.TakesStop .takeEvents := not_takesStop (by rintro s ⟨⟩)
      show m.stopping ↔ _ ∨ m.stopping ∧ m.state = .moving
      simp only [hnone, false_or]
      exact ⟨fun hstop => ⟨hstop, hset hstop⟩, fun hboth => hboth.1⟩
  | submit command =>
      have hnone : ¬ m.TakesStop (.submit command) := not_takesStop (by rintro s ⟨⟩)
      have hkept : (m.submit command).2.stopping = m.stopping := by
        rcases m.submit_cases command with ⟨-, hsubmit⟩ | ⟨refusal, -, hsubmit⟩
        · rw [hsubmit]
        · rw [hsubmit]
          exact stopping_push m _
      show (m.submit command).2.stopping ↔ _ ∨ m.stopping ∧ (m.submit command).2.state = .moving
      rw [hkept, state_submit]
      simp only [hnone, false_or]
      exact ⟨fun hstop => ⟨hstop, hset hstop⟩, fun hboth => hboth.1⟩
  | forceFault reason =>
      have hnone : ¬ m.TakesStop (.forceFault reason) := not_takesStop (by rintro s ⟨⟩)
      have hstate : (m.call (.forceFault reason)).state = .faulted := m.state_forceFault reason
      have hclear : (m.forceFault reason).stopping = false := by
        unfold Machine.forceFault
        split
        · rename_i hfaulted
          exact hlatched (by rw [hfaulted]; decide)
        · rename_i hother
          simp [stopping_enterFault, hother]
      show (m.forceFault reason).stopping ↔ _
      simp [hnone, hstate, hclear]

theorem Orderly.latched_call (h : m.Orderly) (hlatched : m.Latched) (c : Call) :
    (m.call c).Latched := by
  intro hnot
  cases hset : (m.call c).stopping with
  | false => rfl
  | true =>
      rcases (h.stopping_call_iff hlatched c).1 hset with ⟨-, -, hmoving, -⟩ | ⟨-, hmoving⟩
      · exact absurd hmoving hnot
      · exact absurd hmoving hnot

end Latch

/-! ## Stops of a run -/

/-- A stop was taken in the move that the run ends in: the machine has been moving ever since. -/
def StoppedMove (m : Machine) (calls : List Call) : Prop :=
  ∃ before c after, calls = before ++ c :: after ∧ (m.run before).TakesStop c
    ∧ ∀ mid, mid <+: after → (m.run (before ++ c :: mid)).state = .moving

theorem stoppedMove_concat_iff (m : Machine) (calls : List Call) (c : Call) :
    m.StoppedMove (calls ++ [c]) ↔ (m.run calls).TakesStop c
      ∨ m.StoppedMove calls ∧ (m.run (calls ++ [c])).state = .moving := by
  constructor
  · rintro ⟨before, d, after, hcalls, htakes, hmoving⟩
    rcases List.eq_nil_or_concat after with rfl | ⟨earlier, e, rfl⟩
    · rcases List.append_inj' hcalls rfl with ⟨rfl, hlast⟩
      cases hlast
      exact Or.inl htakes
    · have hsplit : calls ++ [c] = (before ++ d :: earlier) ++ [e] := by
        rw [hcalls]
        simp
      rcases List.append_inj' hsplit rfl with ⟨rfl, hlast⟩
      cases hlast
      refine Or.inr ⟨⟨before, d, earlier, rfl, htakes, ?_⟩, ?_⟩
      · intro mid hmid
        exact hmoving mid (hmid.trans (by simp))
      · have hend := hmoving _ List.prefix_rfl
        simpa using hend
  · rintro (htakes | ⟨⟨before, d, after, rfl, htakes, hmoving⟩, hend⟩)
    · refine ⟨calls, c, [], rfl, htakes, ?_⟩
      intro mid hmid
      obtain rfl := List.prefix_nil.1 hmid
      rw [run_concat]
      exact htakes.2.2.1
    · refine ⟨before, d, after ++ [c], by simp, htakes, ?_⟩
      intro mid hmid
      rcases List.prefix_concat_iff.1 hmid with rfl | hearlier
      · simpa using hend
      · exact hmoving mid hearlier

/-- The latch remembers whether a stop was taken in the move under way. -/
theorem stopping_run_iff (settings : MotionSettings) (calls : List Call) :
    (((new settings).run calls).stopping ↔ (new settings).StoppedMove calls)
      ∧ ((new settings).run calls).Latched := by
  induction calls using List.reverseRecOn with
  | nil =>
      refine ⟨⟨?_, ?_⟩, fun _ => rfl⟩
      · rintro ⟨⟩
      · rintro ⟨before, c, after, hcalls, -⟩
        cases before <;> cases hcalls
  | append_singleton rest c ih =>
      have horderly := orderly_run_new settings rest
      rw [stoppedMove_concat_iff, run_concat, ← ih.1]
      exact ⟨horderly.stopping_call_iff ih.2 c, horderly.latched_call ih.2 c⟩

/-! ## Counts -/

/-- The count after another, of sixteen. -/
theorem toNat_nextCount (count : UInt8) : (nextCount count).toNat = (count.toNat + 1) % 16 := by
  rcases count with ⟨⟨count⟩⟩
  revert count
  decide +kernel

/-- The count that a call brings from the drive, if any. -/
def Call.echo? : Call → Option UInt8
  | .update s => s.motionCount
  | _ => none

/-- The last count that the drive echoed. -/
def lastEcho (calls : List Call) : Option UInt8 := (calls.filterMap Call.echo?).getLast?

theorem lastEcho_concat (calls : List Call) (c : Call) :
    lastEcho (calls ++ [c]) = c.echo?.or (lastEcho calls) := by
  unfold lastEcho
  cases hecho : c.echo? with
  | none => simp [hecho]
  | some count => simp [hecho]

section Counts

variable {m m' : Machine} {s : AxisStatus}

@[simp] theorem echoedCount_enterFault (m : Machine) (reason : FaultReason) :
    (m.enterFault reason).echoedCount = m.echoedCount := by
  simp [enterFault]

@[simp] theorem echoedCount_issue (m : Machine) (command : Command) :
    (m.issue command).echoedCount = m.echoedCount := rfl

theorem Step.echoedCount (h : Step m s m') : m'.echoedCount = m.echoedCount := by
  cases h <;> simp

theorem echoedCount_call (m : Machine) (c : Call) :
    (m.call c).echoedCount = c.echo?.or m.echoedCount := by
  cases c with
  | update s =>
      show (m.update s).echoedCount = s.motionCount.or m.echoedCount
      rw [(update_step m s).echoedCount, echoedCount_noted]
  | takeEvents => rfl
  | submit command =>
      show (m.submit command).2.echoedCount = m.echoedCount
      rcases m.submit_cases command with ⟨-, hsubmit⟩ | ⟨refusal, -, hsubmit⟩
      · rw [hsubmit]
      · rw [hsubmit]
        exact echoedCount_push m _
  | forceFault reason =>
      show (m.forceFault reason).echoedCount = m.echoedCount
      unfold forceFault
      split
      · rfl
      · exact echoedCount_enterFault m reason

theorem echoedCount_run (settings : MotionSettings) (calls : List Call) :
    ((new settings).run calls).echoedCount = lastEcho calls := by
  induction calls using List.reverseRecOn with
  | nil => rfl
  | append_singleton rest c ih => rw [run_concat, echoedCount_call, lastEcho_concat, ih]

/-- Each issued count is the successor of another, so it has four bits. -/
theorem Step.motionCount_le (h : Step m s m') (hcount : m.motionCount ≤ 15) :
    m'.motionCount ≤ 15 := by
  cases h with
  | move => simpa using motionCount_issue_le _ _
  | stop => exact nextCount_le _
  | _ => simpa using hcount

theorem motionCount_call_le (hcount : m.motionCount ≤ 15) (c : Call) :
    (m.call c).motionCount ≤ 15 := by
  cases c with
  | update s => exact (update_step m s).motionCount_le (by simpa using hcount)
  | takeEvents => exact hcount
  | submit command =>
      show (m.submit command).2.motionCount ≤ 15
      rcases m.submit_cases command with ⟨-, hsubmit⟩ | ⟨refusal, -, hsubmit⟩
      · rw [hsubmit]
        exact hcount
      · rw [hsubmit, motionCount_push]
        exact hcount
  | forceFault reason =>
      show (m.forceFault reason).motionCount ≤ 15
      unfold forceFault
      split
      · exact hcount
      · rw [motionCount_enterFault]
        exact hcount

theorem motionCount_run_le (settings : MotionSettings) (calls : List Call) :
    ((new settings).run calls).motionCount ≤ 15 := by
  induction calls using List.reverseRecOn with
  | nil => exact UInt8.zero_le
  | append_singleton rest c ih =>
      rw [run_concat]
      exact motionCount_call_le ih c

/-- Without a command outstanding, one that is issued continues from the echo. -/
theorem Step.motionCount_of_issued (h : Step m s m') (hnone : m.active = none)
    (hissued : m'.active.isSome) {echoed : UInt8} (hechoed : m.echoedCount = some echoed) :
    m'.motionCount = nextCount echoed := by
  cases h with
  | move => simp [issue, hnone, hechoed]
  | stop => simp [issue, hnone, hechoed]
  | _ => simp_all

end Counts

/-! ## Moves -/

section Moves

variable {m m' : Machine} {s : AxisStatus}

/-- In a move that goes on, the first stop replaces the command under the next count, and nothing
else changes what is sent. -/
theorem Step.sent_of_moving (h : Step m s m') (hmoving : m.state = .moving)
    (hafter : m'.state = .moving) (hpending : m'.pending = none) (hactive : m.active.isSome) :
    m.pending = some .stop ∧ m.stopping = false
        ∧ m'.active = some (.stop m.profile.deceleration)
        ∧ m'.motionCount = nextCount m.motionCount
      ∨ ¬ (m.pending = some .stop ∧ m.stopping = false) ∧ m'.active = m.active
        ∧ m'.motionCount = m.motionCount := by
  cases h with
  | stay => exact Or.inr ⟨by simp [hpending], rfl, rfl⟩
  | stop _ hstop hclear =>
      rcases Option.isSome_iff_exists.1 hactive with ⟨command, hcommand⟩
      exact Or.inl ⟨hstop, hclear, rfl, by simp [issue, hcommand]⟩
  | stopAgain _ _ hset => exact Or.inr ⟨by simp [hset], rfl, rfl⟩
  | _ => simp_all

/-- Without a fault, a move is ended by a disable or goes by its own rule. -/
theorem update_of_moving (hmoving : m.state = .moving) (hfault : s.fault = false) :
    m.update s =
      if m.pending = some .disable then
        { m.noted s with pending := none, active := none }.transition .disabled
      else (m.noted s).updateMoving s := by
  have hadvance : (m.noted s).advance s = (m.noted s).updateMoving s := by
    rw [advance, state_noted, hmoving]
  rw [update_of_clear hfault, hadvance]

/-- In a move only a disable and a stop may be pending. -/
theorem Orderly.pending_of_moving (h : m.Orderly) (hmoving : m.state = .moving) :
    m.pending = none ∨ m.pending = some .disable ∨ m.pending = some .stop := by
  by_cases hdisable : m.pending = some .disable
  · exact Or.inr (Or.inl hdisable)
  · have hsole := pending_eq_soleCommand h.fits hdisable (by rw [hmoving]; decide)
    rw [hmoving] at hsole
    rcases hsole with hnone | hstop
    · exact Or.inl hnone
    · exact Or.inr (Or.inr hstop)

/-- A status completes a move exactly when it has no fault, nothing is pending, and the move has
settled. -/
theorem Orderly.ready_update_iff (h : m.Orderly) (hmoving : m.state = .moving) :
    (m.update s).state = .ready ↔ s.fault = false ∧ m.pending = none ∧ (m.noted s).settled s := by
  constructor
  · intro hready
    have hfault : s.fault = false := by
      cases hfault : s.fault with
      | false => rfl
      | true =>
          have hfaulted := h.isFaulted_update hfault
          rw [hready] at hfaulted
          cases hfaulted
    have hsettled := (update_step m s).settled_of_ready (by simpa using hmoving) hready
    refine ⟨hfault, ?_, hsettled⟩
    rw [update_of_moving hmoving hfault] at hready
    rcases h.pending_of_moving hmoving with hnone | hdisable | hstop
    · exact hnone
    · rw [if_pos hdisable, state_transition] at hready
      cases hready
    · -- A stop leaves the machine in the move.
      rw [if_neg (by simp [hstop]), updateMoving, if_pos (by simpa using hstop)] at hready
      have hstays : (m.noted s).state = .ready := by
        dsimp only at hready
        split at hready
        · exact hready
        · exact hready
      rw [state_noted, hmoving] at hstays
      cases hstays
  · rintro ⟨hfault, hnone, hsettled⟩
    rw [update_of_moving hmoving hfault]
    simp [hnone, updateMoving, hsettled]

/-- Only a status makes the machine issue a command. -/
theorem active_call_of_none {c : Call} (hc : ∀ s, c ≠ .update s) (hnone : m.active = none) :
    (m.call c).active = none := by
  cases c with
  | update s => exact absurd rfl (hc s)
  | takeEvents => exact hnone
  | submit command =>
      show (m.submit command).2.active = none
      rcases m.submit_cases command with ⟨-, hsubmit⟩ | ⟨refusal, -, hsubmit⟩
      · rw [hsubmit]
        exact hnone
      · rw [hsubmit, active_push]
        exact hnone
  | forceFault reason =>
      show (m.forceFault reason).active = none
      unfold forceFault
      split
      · exact hnone
      · exact active_enterFault m reason

theorem active_of_output {motion : MotionCommand} (h : m.output.motion = some motion) :
    m.active = some motion.command ∧ m.motionCount = motion.count := by
  rcases Option.map_eq_some_iff.1 h with ⟨command, hcommand, rfl⟩
  exact ⟨hcommand, rfl⟩

theorem output_of_active {command : Command} (h : m.active = some command) :
    m.output.motion = some ⟨m.motionCount, command⟩ := by
  simp [output, h]

/-- In a move that goes on, by what is sent before and after. -/
theorem Orderly.sent_update (h : m.Orderly) (hmoving : m.state = .moving)
    (hafter : (m.update s).state = .moving) :
    m.pending = some .stop ∧ m.stopping = false
        ∧ (m.update s).active = some (.stop m.profile.deceleration)
        ∧ (m.update s).motionCount = nextCount m.motionCount
      ∨ ¬ (m.pending = some .stop ∧ m.stopping = false) ∧ (m.update s).active = m.active
        ∧ (m.update s).motionCount = m.motionCount := by
  have hsent := (update_step m s).sent_of_moving (by simpa using hmoving) hafter
    (h.pending_update s) (by simpa using h.moving hmoving)
  simpa [profile_noted] using hsent

theorem Orderly.output_of_moving (h : m.Orderly) (hmoving : m.state = .moving) :
    ∃ motion, m.output.motion = some motion := by
  rcases Option.isSome_iff_exists.1 (h.moving hmoving) with ⟨command, hcommand⟩
  exact ⟨_, output_of_active hcommand⟩

/-- The first stop that is taken in a move is sent under the next count. -/
theorem Orderly.output_of_stop (h : m.Orderly) (hmoving : m.state = .moving)
    (hafter : (m.update s).state = .moving) (hstop : m.pending = some .stop)
    (hclear : m.stopping = false) :
    ∃ motion count, m.output.motion = some motion ∧ count.toNat = (motion.count.toNat + 1) % 16
      ∧ (m.update s).output.motion = some ⟨count, .stop m.profile.deceleration⟩ := by
  rcases h.output_of_moving hmoving with ⟨motion, hmotion⟩
  rcases h.sent_update hmoving hafter with ⟨-, -, hsent, hnext⟩ | ⟨hnot, -, -⟩
  · refine ⟨motion, nextCount motion.count, hmotion, toNat_nextCount _, ?_⟩
    rw [output_of_active hsent, hnext, (active_of_output hmotion).2]
  · exact absurd ⟨hstop, hclear⟩ hnot

theorem Orderly.output_of_no_stop (h : m.Orderly) (hmoving : m.state = .moving)
    (hafter : (m.update s).state = .moving) (hother : m.pending ≠ some .stop ∨ m.stopping) :
    (m.update s).output.motion = m.output.motion := by
  rcases h.sent_update hmoving hafter with ⟨hstop, hclear, -, -⟩ | ⟨-, hsent, hsame⟩
  · rcases hother with hnone | hset
    · exact absurd hstop hnone
    · rw [hclear] at hset
      cases hset
  · simp only [output, hsent, hsame]

/-- A command that is issued when none is outstanding counts on from the last echo, which may have
come with the very status that made the machine issue it. -/
theorem count_of_fresh {c : Call} {motion : MotionCommand} {echoed : UInt8}
    (hnone : m.output.motion = none) (hmotion : (m.call c).output.motion = some motion)
    (hecho : c.echo?.or m.echoedCount = some echoed) :
    motion.count.toNat = (echoed.toNat + 1) % 16 := by
  have hrest : m.active = none := by simpa [output] using hnone
  rcases active_of_output hmotion with ⟨hissued, hsame⟩
  by_cases hupdate : ∃ s, c = .update s
  · rcases hupdate with ⟨s, rfl⟩
    have hnext : (m.call (.update s)).motionCount = nextCount echoed :=
      (update_step m s).motionCount_of_issued (by simpa using hrest)
        (Option.isSome_iff_exists.2 ⟨_, hissued⟩) (by rw [echoedCount_noted, ← hecho]; rfl)
    rw [← hsame, hnext, toNat_nextCount]
  · rw [not_exists] at hupdate
    rw [active_call_of_none hupdate hrest] at hissued
    cases hissued

end Moves

/-- What holds of every point of a run: when a status completes the move, what is sent while the move
goes on, and which counts are sent. -/
structure SoundMoves (settings : MotionSettings) (calls : List Call) (m : Machine) : Prop where
  /-- A move is completed by a status that echoes the count being sent, tells of no active motion and
  is in target, or comes after a stop of this move; and by no other. -/
  completed : m.state = .moving → ∃ motion, m.output.motion = some motion ∧ ∀ s : AxisStatus,
    ((m.update s).state = .ready ↔ s.fault = false ∧ m.pending = none
      ∧ s.motionCount = some motion.count ∧ s.motionActive = false
      ∧ (s.inTarget ∨ (new settings).StoppedMove calls))
  /-- The first stop of a move replaces what is sent, under the next count. -/
  stopped : ∀ s, m.state = .moving → (m.update s).state = .moving → m.pending = some .stop →
    ¬ (new settings).StoppedMove calls →
      ∃ motion count, m.output.motion = some motion ∧ count.toNat = (motion.count.toNat + 1) % 16
        ∧ (m.update s).output.motion = some ⟨count, .stop m.profile.deceleration⟩
  /-- Everything else leaves it as it is, further stops included. -/
  kept : ∀ s, m.state = .moving → (m.update s).state = .moving →
    (m.pending ≠ some .stop ∨ (new settings).StoppedMove calls) →
      (m.update s).output.motion = m.output.motion
  bounded : ∀ motion, m.output.motion = some motion → motion.count.toNat < 16
  /-- Without a command outstanding, the count goes on from the last echo. -/
  fresh : ∀ c motion echoed, m.output.motion = none → (m.call c).output.motion = some motion →
    lastEcho (calls ++ [c]) = some echoed → motion.count.toNat = (echoed.toNat + 1) % 16

/-- Every run completes its moves on the echo of the count being sent, sends one command a move until a
first stop replaces it, and counts on from what the drive echoed. -/
theorem open_loop_moves (settings : MotionSettings) (calls : List Call) :
    SoundMoves settings calls ((new settings).run calls) := by
  have horderly := orderly_run_new settings calls
  have hlatch := (stopping_run_iff settings calls).1
  have hcount := motionCount_run_le settings calls
  have hecho := echoedCount_run settings calls
  generalize (new settings).run calls = m at *
  refine
    { completed := ?_
      stopped := ?_
      kept := ?_
      bounded := ?_
      fresh := ?_ }
  · intro hmoving
    rcases horderly.output_of_moving hmoving with ⟨motion, hmotion⟩
    refine ⟨motion, hmotion, ?_⟩
    intro s
    rw [horderly.ready_update_iff hmoving, settled_iff, motionCount_noted, stopping_noted, hlatch,
      (active_of_output hmotion).2]
    simp only [or_comm]
  · intro s hmoving hafter hstop hfirst
    have hclear : m.stopping = false := by
      rw [← hlatch] at hfirst
      simpa using hfirst
    exact horderly.output_of_stop hmoving hafter hstop hclear
  · intro s hmoving hafter hother
    rw [← hlatch] at hother
    exact horderly.output_of_no_stop hmoving hafter hother
  · intro motion hmotion
    rw [← (active_of_output hmotion).2]
    exact Nat.lt_succ_of_le (UInt8.le_iff_toNat_le.1 hcount)
  · intro c motion echoed hnone hmotion hlast
    rw [lastEcho_concat, ← hecho] at hlast
    exact count_of_fresh hnone hmotion hlast

end Machine
end Motion
end ServoLink
