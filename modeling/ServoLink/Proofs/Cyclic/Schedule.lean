import ServoLink.Proofs.Cyclic.Loop

/-!
# Schedule — when cycles start, however late they are

Besides what exchanges and sleeps take, time passes wherever the loop does something (`Pace`).  Each
cycle has a nominal wake, and starts at it or later.  A cycle that ends in time keeps the schedule,
and one that ends late makes its end the next wake.  So wakes are at least a period apart, and no
cycle starts after the wake of the next one: two periods of lag are never made up for by two cycles
in a row.

* `Cycle.paced` — a turn of the loop with the time that passes in between; `Cycle.ticks` — a run;
* `Cycle.rest_wake`, `Cycle.timed_clock` — what the two halves of a turn do to clock and schedule;
* `Cycle.Orderly`, `Cycle.orderly_ticks` — the invariant of every run;
* `Cycle.steady_ticks` — no burst: at most two cycles start in less than a period.
-/

namespace ServoLink
namespace Cyclic

open Wire ProcessData Motion Net

variable {σ : Type}

/-! ## The clock of an exchange -/

theorem now_await (sequence : UInt16) (deadline : Nat) (queue : List Arrival) (link : Link σ) :
    link.line.now ≤ (linkOf (await sequence deadline queue link)).line.now := by
  -- On the queue: a datagram is taken at its time, and the clock stands there or later.
  induction queue generalizing link with
  | nil => exact Nat.le_max_left _ _
  | cons a rest ih =>
      unfold await
      split
      · exact Nat.le_max_left _ _
      · dsimp only
        split
        · exact Nat.le_max_left _ _
        · split
          · exact Nat.le_max_left _ _
          · refine Nat.le_trans ?_ (ih _)
            exact Nat.le_max_left _ _

/-- An exchange does not turn the clock back. -/
theorem now_exchange (react : FarEnd σ) (request : ControlRequest) (timeout : Nat) (link : Link σ) :
    link.line.now ≤ (linkOf (exchange react request timeout link)).line.now := by
  have hsend : ∀ datagram, link.line.now ≤ (link.line.send react datagram).2.now :=
    fun datagram => Line.now_le_now_send react datagram link.line
  unfold exchange
  dsimp only
  split
  · exact Nat.le_refl _
  · rename_i datagram _
    have hsent := hsend datagram
    split
    · rename_i detail line hfailed
      rw [hfailed] at hsent
      exact hsent
    · rename_i line hline
      rw [hline] at hsent
      refine Nat.le_trans ?_ (now_await _ _ _ _)
      exact hsent

namespace Cycle

/-! ## Paced turns -/

/-- What a turn of the loop meets: time that passes before its cycle starts, and between the end of
the cycle and the look at the clock that follows; and the commands given meanwhile. -/
structure Pace where
  before : Nat := 0
  after : Nat := 0
  commands : List OperatorCommand := []
  deriving DecidableEq, Repr

/-- One cycle and the sleep after it, at a pace. -/
def paced (react : FarEnd σ) (p : Pace) (s : Schedule) (c : Cycle σ) :
    Except LinkError Unit × Schedule × Cycle σ :=
  match (c.elapse p.before).timed react s with
  | (.error cause, s, c) => (.error cause, s, c)
  | (.ok (), s, c) => (.ok (), rest s (c.elapse p.after))

/-- A cycle that was started: its nominal wake, its start, and the time it has for its exchange. -/
structure Tick where
  wake : Nat
  start : Nat
  budget : Nat
  deriving DecidableEq, Repr

def tick (p : Pace) (s : Schedule) (c : Cycle σ) : Tick :=
  ⟨s.wake, (c.elapse p.before).link.line.now, (c.elapse p.before).budget s⟩

/-- The cycles of a run, one turn after the other until the transport fails. -/
def ticks (react : FarEnd σ) : List Pace → Schedule → Cycle σ → List Tick
  | [], _, _ => []
  | p :: later, s, c =>
      c.tick p s ::
        match c.paced react p s with
        | (.error _, _, _) => []
        | (.ok (), s, c) => ticks react later s (c.offer p.commands)

/-- Where no other time passes, a paced turn is a turn of the loop. -/
theorem paced_prompt (react : FarEnd σ) (commands : List OperatorCommand) (s : Schedule)
    (c : Cycle σ) : c.paced react { commands } s = c.turn react s := rfl

/-- And its run is one of the loop, cycle by cycle. -/
theorem length_ticks_prompt (react : FarEnd σ) (given : List (List OperatorCommand)) (s : Schedule)
    (c : Cycle σ) :
    (ticks react (given.map fun commands => { commands }) s c).length =
      (run react given s c).snapshots.length := by
  induction given generalizing s c with
  | nil => rfl
  | cons commands later ih =>
      rw [List.map_cons, ticks, run, paced_prompt]
      obtain ⟨result, s', c'⟩ := c.turn react s
      cases result with
      | error cause => rfl
      | ok => exact congrArg (· + 1) (ih s' (c'.offer commands))

/-! ## The halves of a turn -/

/-- What the loop was given to keep to: its period and its tolerance. -/
def limits (c : Cycle σ) : Int × Int := (c.runner.period, c.runner.tolerance)

theorem limits_takeCommand (c : Cycle σ) : c.takeCommand.limits = c.limits := by
  unfold takeCommand
  split <;> rfl

theorem limits_drain (cycle : Nat) (c : Cycle σ) : (c.drain cycle).limits = c.limits := by
  rcases drain_eq cycle c with ⟨faults, events, hdrain⟩
  rw [hdrain]
  rfl

theorem limits_body (react : FarEnd σ) (budget : Nat) (c : Cycle σ) :
    (c.body react budget).2.limits = c.limits := by
  have hperformed := performed_body react budget c
  generalize exchange react c.takeCommand.request budget c.link = result at hperformed
  generalize c.body react budget = out at hperformed ⊢
  cases hperformed with
  | answered => exact (limits_drain _ _).trans c.limits_takeCommand
  | missed => exact (limits_drain _ _).trans c.limits_takeCommand
  | lost => exact (limits_drain _ _).trans c.limits_takeCommand
  | failed => exact (limits_drain _ _).trans c.limits_takeCommand

/-- A cycle that does not end the loop: the next wake is a period later, and time has not run
back. -/
theorem timed_clock {react : FarEnd σ} {s s' : Schedule} {c c' : Cycle σ}
    (h : c.timed react s = (.ok (), s', c')) :
    s'.wake = s.wake + c.runner.period.toNat ∧ c.link.line.now ≤ c'.link.line.now
      ∧ c'.runner.period = c.runner.period := by
  have hnow : c.link.line.now ≤ (c.body react (c.budget s)).2.link.line.now := by
    have hexchange := now_exchange react c.takeCommand.request (c.budget s) c.link
    rwa [← link_body] at hexchange
  have hperiod : (c.body react (c.budget s)).2.runner.period = c.runner.period :=
    congrArg Prod.fst (c.limits_body react (c.budget s))
  rcases c.timed_cases react s with
    ⟨cause, after, hbody, htimed⟩ | ⟨after, duration, hbody, htimed⟩
  · rw [htimed] at h
    cases h
  · obtain ⟨timing, events, hfinish⟩ := after.finish_eq duration
      ((c.link.line.now - s.wake : Nat) : Int)
    rw [hbody] at hnow hperiod
    rw [htimed, hfinish] at h
    cases h
    exact ⟨rfl, hnow, hperiod⟩

/-- After a rest the clock is at the wake or later, and the wake is neither before the one that was
scheduled nor before the rest. -/
theorem rest_wake (s : Schedule) (c : Cycle σ) :
    s.wake ≤ (rest s c).1.wake ∧ c.link.line.now ≤ (rest s c).1.wake
      ∧ (rest s c).1.wake ≤ (rest s c).2.link.line.now
      ∧ (rest s c).2.runner.period = c.runner.period := by
  unfold rest
  dsimp only
  split
  · rename_i hlate
    exact ⟨hlate, Nat.le_refl _, Nat.le_refl _, rfl⟩
  · rename_i hearly
    refine ⟨Nat.le_refl _, Nat.le_of_not_le hearly, ?_, rfl⟩
    show s.wake ≤ c.link.line.now + (s.wake - c.link.line.now + s.oversleeps.headD 0)
    omega

/-- What a turn makes of the schedule. -/
theorem paced_wake {react : FarEnd σ} {p : Pace} {s s' : Schedule} {c c' : Cycle σ}
    (h : c.paced react p s = (.ok (), s', c')) :
    s.wake + c.runner.period.toNat ≤ s'.wake ∧ (c.tick p s).start ≤ s'.wake
      ∧ s'.wake ≤ c'.link.line.now ∧ c'.runner.period = c.runner.period := by
  unfold paced at h
  split at h
  · cases h
  · rename_i between after htimed
    obtain ⟨hwake, hnow, hperiod⟩ := timed_clock htimed
    obtain ⟨hscheduled, hreached, hslept, hkept⟩ := rest_wake between (after.elapse p.after)
    rw [Prod.mk.injEq] at h
    obtain ⟨-, hrest⟩ := h
    rw [hrest] at hscheduled hreached hslept hkept
    refine ⟨?_, ?_, hslept, hkept.trans hperiod⟩
    · exact hwake ▸ hscheduled
    · calc (c.tick p s).start
          ≤ after.link.line.now := hnow
        _ ≤ (after.elapse p.after).link.line.now := Nat.le_add_right _ _
        _ ≤ s'.wake := hreached

/-! ## Runs -/

/-- Cycles that follow each other from a wake on, at least a period apart: each starts at its wake or
later, but not after the wake of any later one. -/
structure Orderly (period wake : Nat) (ticks : List Tick) : Prop where
  since : ∀ t ∈ ticks, wake ≤ t.wake
  started : ∀ t ∈ ticks, t.wake ≤ t.start
  budgets : ∀ t ∈ ticks, t.budget = t.wake + period - t.start
  apart : ticks.Pairwise fun t later => t.wake + period ≤ later.wake ∧ t.start ≤ later.wake

theorem Orderly.cons {period wake next : Nat} {t : Tick} {later : List Tick}
    (h : Orderly period next later) (hwake : t.wake = wake) (hstart : t.wake ≤ t.start)
    (hbudget : t.budget = t.wake + period - t.start) (hperiod : t.wake + period ≤ next)
    (hnext : t.start ≤ next) : Orderly period wake (t :: later) where
  since := by
    intro u hu
    rcases List.mem_cons.1 hu with rfl | hu
    · exact Nat.le_of_eq hwake.symm
    · have := h.since u hu
      omega
  started := by
    intro u hu
    rcases List.mem_cons.1 hu with rfl | hu
    · exact hstart
    · exact h.started u hu
  budgets := by
    intro u hu
    rcases List.mem_cons.1 hu with rfl | hu
    · exact hbudget
    · exact h.budgets u hu
  apart := by
    refine List.Pairwise.cons ?_ h.apart
    intro u hu
    have := h.since u hu
    omega

theorem orderly_nil (period wake : Nat) : Orderly period wake [] :=
  ⟨by rintro t ⟨⟩, by rintro t ⟨⟩, by rintro t ⟨⟩, .nil⟩

/-- Every run is orderly that begins at its first wake or later. -/
theorem orderly_ticks (react : FarEnd σ) (paces : List Pace) {s : Schedule} {c : Cycle σ}
    (h : s.wake ≤ c.link.line.now) :
    Orderly c.runner.period.toNat s.wake (ticks react paces s c) := by
  -- On the paces; each turn hands on a clock that has reached the next wake.
  induction paces generalizing s c with
  | nil => exact orderly_nil _ _
  | cons p later ih =>
      have hstart : s.wake ≤ (c.tick p s).start := Nat.le_trans h (Nat.le_add_right _ _)
      unfold ticks
      split
      · -- The cycle that fails is the last.
        exact (orderly_nil _ (max (s.wake + c.runner.period.toNat) (c.tick p s).start)).cons rfl
          hstart rfl (Nat.le_max_left _ _) (Nat.le_max_right _ _)
      · rename_i s' c' hpaced
        obtain ⟨hperiod, hnext, hslept, hkept⟩ := paced_wake hpaced
        have hrest := ih (s := s') (c := c'.offer p.commands) hslept
        rw [show (c'.offer p.commands).runner.period = c.runner.period from hkept] at hrest
        exact hrest.cons rfl hstart rfl hperiod hnext

/-- The cycles of a run do not burst. -/
structure Steady (period : Nat) (ticks : List Tick) : Prop where
  /-- The next wake is at least a period later, and not before the cycle has started. -/
  next : ∀ k t later, ticks[k]? = some t → ticks[k + 1]? = some later →
    t.wake + period ≤ later.wake ∧ t.start ≤ later.wake
  /-- The exchange has at most a period, and no time beyond the next nominal wake. -/
  budget : ∀ t ∈ ticks, t.budget ≤ period ∧ t.start + t.budget ≤ max t.start (t.wake + period)
  /-- A cycle and the one after the next start at least a period apart. -/
  spaced : ∀ k t later, ticks[k]? = some t → ticks[k + 2]? = some later →
    t.start + period ≤ later.start
  /-- At most two cycles start in a span of time that is shorter than a period. -/
  crowd : ∀ first last, last < first + period →
    (ticks.filter fun t => first ≤ t.start && t.start ≤ last).length ≤ 2

section Orderly

variable {period wake : Nat} {ticks : List Tick}

theorem Orderly.apart_getElem? (h : Orderly period wake ticks) {i j : Nat} (hij : i < j)
    {t later : Tick} (ht : ticks[i]? = some t) (hlater : ticks[j]? = some later) :
    t.wake + period ≤ later.wake ∧ t.start ≤ later.wake := by
  obtain ⟨hi, rfl⟩ := List.getElem?_eq_some_iff.1 ht
  obtain ⟨hj, rfl⟩ := List.getElem?_eq_some_iff.1 hlater
  exact List.pairwise_iff_getElem.1 h.apart i j hi hj hij

/-- Of three cycles the last starts at least a period after the first. -/
theorem Orderly.three (h : Orderly period wake ticks) {t u v : Tick}
    (hsub : [t, u, v].Sublist ticks) : t.start + period ≤ v.start := by
  have hpairs := h.apart.sublist hsub
  simp only [List.pairwise_cons, List.mem_cons, List.not_mem_nil, or_false, forall_eq_or_imp,
    forall_eq] at hpairs
  have hlast := h.started v (hsub.subset (by simp))
  -- The first has started by the wake of the second, and the third wakes a period after that.
  omega

theorem Orderly.steady (h : Orderly period wake ticks) : Steady period ticks where
  next := fun k _ _ ht hlater => h.apart_getElem? (Nat.lt_succ_self k) ht hlater
  budget := by
    intro t ht
    have hstarted := h.started t ht
    have hbudget := h.budgets t ht
    omega
  spaced := by
    intro k t later ht hlater
    obtain ⟨hk, hget⟩ := List.getElem?_eq_some_iff.1 hlater
    have hmiddle : ticks[k + 1]? = some ticks[k + 1] := List.getElem?_eq_getElem _
    have hfirst := h.apart_getElem? (Nat.lt_succ_self k) ht hmiddle
    have hsecond := h.apart_getElem? (Nat.lt_succ_self (k + 1)) hmiddle hlater
    have hlast := h.started later (List.mem_of_getElem? hlater)
    omega
  crowd := by
    intro first last hspan
    by_contra hmany
    -- Three cycles that start in the span would be a period apart.
    rcases hfilter : ticks.filter fun t => first ≤ t.start && t.start ≤ last with
      _ | ⟨t, _ | ⟨u, _ | ⟨v, rest⟩⟩⟩
    · simp [hfilter] at hmany
    · simp [hfilter] at hmany
    · simp [hfilter] at hmany
    · have hstart : [t, u, v] <+: ticks.filter fun t => first ≤ t.start && t.start ≤ last :=
        hfilter ▸ List.prefix_append [t, u, v] rest
      have hsub : [t, u, v].Sublist ticks := hstart.sublist.trans List.filter_sublist
      have hinside : ∀ w ∈ [t, u, v], first ≤ w.start ∧ w.start ≤ last := by
        intro w hw
        simpa using (List.mem_filter.1 (hstart.subset hw)).2
      have hapart := h.three hsub
      have ht := hinside t (by simp)
      have hv := hinside v (by simp)
      omega

end Orderly

/-- Over any far end, at any pace and with any oversleeping, of a loop whose first wake is the time at
which it begins. -/
theorem steady_ticks (react : FarEnd σ) (paces : List Pace) (oversleeps : List Nat) (c : Cycle σ) :
    Steady c.runner.period.toNat
      (ticks react paces { wake := c.link.line.now, oversleeps } c) :=
  (orderly_ticks react paces (s := { wake := c.link.line.now, oversleeps }) (Nat.le_refl _)).steady

/-- A late wake-up brings two cycles close together: with a period of 10 and a drive that is silent,
the second cycle starts 9 late and the third on schedule. -/
example :
    (ticks (fun far _ => ({}, far)) [{}, {}, {}] { oversleeps := [9] }
      { runner := .new (.new {}) 10 0
        shared := {}
        link := ⟨.new false 3 10, { far := (), earliness := 1 }⟩ : Cycle Unit }).map (·.start) =
      [0, 19, 20] := by
  decide +kernel

end Cycle
end Cyclic
end ServoLink
