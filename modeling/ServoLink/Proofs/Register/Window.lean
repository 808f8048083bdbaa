import ServoLink.Proofs.Register.Channel

/-!
# Window — what a request hears before its deadline

A window is open until its deadline.  What arrives in the meantime is received one after the other,
and the window ends with the first receipt that decides the request: the matching reply, or a
socket error.  Any other datagram is counted and moves the clock, but not the deadline.

* `receipts` — what is received, and when;
* `find?_receipts` — in terms of when it arrives;
* `listened_await` — how a window ends, by the first receipt that decides it.
-/

namespace ServoLink

open Wire Net

variable {σ : Type}

namespace Register

/-! ## Receipts -/

/-- What is received from `now` until `deadline`, each arrival with the time of its receipt.  At the
deadline itself only one more is received. -/
def receipts (deadline : Nat) : (now : Nat) → List Arrival → List Arrival
  | _, [] => []
  | now, a :: rest =>
      if now < deadline ∧ a.time ≤ deadline then
        { a with time := max now a.time } :: receipts deadline (max now a.time) rest
      else []

section Receipts

variable {deadline now : Nat} {a : Arrival} {queue : List Arrival}

theorem receipts_cons (hopen : now < deadline) (harrived : a.time ≤ deadline)
    (rest : List Arrival) :
    receipts deadline now (a :: rest) =
      { a with time := max now a.time } :: receipts deadline (max now a.time) rest :=
  if_pos ⟨hopen, harrived⟩

/-- Once the deadline has come, nothing is received. -/
theorem receipts_of_le (h : deadline ≤ now) : receipts deadline now queue = [] := by
  cases queue with
  | nil => rfl
  | cons a rest => exact if_neg fun hopen => Nat.not_lt_of_le h hopen.1

theorem receipts_of_lt (h : deadline < a.time) (rest : List Arrival) :
    receipts deadline now (a :: rest) = [] :=
  if_neg fun hopen => Nat.not_lt_of_le hopen.2 h

/-- Receipts come while the window is open. -/
theorem time_of_mem_receipts (h : a ∈ receipts deadline now queue) :
    now ≤ a.time ∧ a.time ≤ deadline := by
  -- On the queue; the clock moves with each receipt.
  induction queue generalizing now with
  | nil => cases h
  | cons b rest ih =>
      unfold receipts at h
      split at h
      · rename_i hopen
        rcases List.mem_cons.1 h with rfl | hlater
        · exact ⟨Nat.le_max_left _ _, Nat.max_le.2 ⟨Nat.le_of_lt hopen.1, hopen.2⟩⟩
        · rcases ih hlater with ⟨hfrom, huntil⟩
          exact ⟨Nat.le_trans (Nat.le_max_left _ _) hfrom, huntil⟩
      · cases h

/-- The queue is in order of arrival. -/
def Ordered (queue : List Arrival) : Prop := queue.Pairwise fun a b => a.time ≤ b.time

/-- The first in the queue of a kind arrives no later than any other of that kind. -/
theorem Ordered.time_le_of_find? {p : Arrival → Bool} {first : Arrival} (h : Ordered queue)
    (hfirst : queue.find? p = some first) (ha : a ∈ queue) (hp : p a) : first.time ≤ a.time := by
  rcases List.find?_eq_some_iff_append.1 hfirst with ⟨-, front, rest, rfl, hfront⟩
  rcases List.pairwise_append.1 h with ⟨-, hrest, -⟩
  rcases List.mem_append.1 ha with hearlier | hqueued
  · have hother := hfront a hearlier
    simp [hp] at hother
  · rcases List.mem_cons.1 hqueued with rfl | hlater
    · exact Nat.le_refl _
    · exact (List.pairwise_cons.1 hrest).1 a hlater

/-- The front of the queue is what is received. -/
theorem exists_receipt (h : a ∈ queue.take (receipts deadline now queue).length) :
    ∃ b ∈ receipts deadline now queue, b.delivery = a.delivery := by
  induction queue generalizing now with
  | nil => cases h
  | cons c rest ih =>
      unfold receipts at h ⊢
      split at h
      · rename_i hopen
        rw [if_pos hopen]
        rcases List.mem_cons.1 h with rfl | hlater
        · exact ⟨_, List.mem_cons_self, rfl⟩
        · rcases ih hlater with ⟨b, hb, hdelivery⟩
          exact ⟨b, List.mem_cons_of_mem _ hb, hdelivery⟩
      · cases h

theorem Ordered.enqueue (h : Ordered queue) (a : Arrival) : Ordered (enqueue a queue) := by
  induction queue with
  | nil => exact List.pairwise_singleton _ a
  | cons b rest ih =>
      rcases List.pairwise_cons.1 h with ⟨hfirst, hrest⟩
      unfold Net.enqueue
      split
      · rename_i hbehind
        refine List.pairwise_cons.2 ⟨?_, ih hrest⟩
        intro later hlater
        rcases mem_enqueue.1 hlater with rfl | hqueued
        · exact hbehind
        · exact hfirst later hqueued
      · rename_i hbefore
        have hearlier : a.time ≤ b.time := Nat.le_of_lt (Nat.lt_of_not_le hbefore)
        refine List.pairwise_cons.2 ⟨?_, h⟩
        intro later hlater
        rcases List.mem_cons.1 hlater with rfl | hqueued
        · exact hearlier
        · exact Nat.le_trans hearlier (hfirst later hqueued)

theorem Ordered.enqueueAll (h : Ordered queue) (arrivals : List Arrival) :
    Ordered (arrivals.foldl (fun queue a => Net.enqueue a queue) queue) := by
  induction arrivals generalizing queue with
  | nil => exact h
  | cons a rest ih => exact ih (h.enqueue a)

/-- Sending keeps the queue in order. -/
theorem Ordered.send {line : Line σ} (h : Ordered line.queue) (react : FarEnd σ)
    (datagram : List UInt8) : Ordered (line.send react datagram).2.queue := by
  unfold Line.send
  dsimp only
  split
  · exact h
  · exact h.enqueueAll _

end Receipts

/-- A receipt decides the request: it is the matching reply, or a socket error. -/
def decides (pending : Pending) (a : Arrival) : Bool :=
  match a.delivery with
  | .failure _ => true
  | .datagram bytes =>
      match classify pending (bytes.take maxFrameLength) with
      | .matching _ => true
      | .stale | .undecodable => false

/-- The first receipt that decides the request, if the window brings one. -/
def decision? (pending : Pending) (deadline : Nat) (line : Line σ) : Option Arrival :=
  (receipts deadline line.now line.queue).find? (decides pending)

section Decisions

variable {pending : Pending} {deadline : Nat} {line : Line σ} {a : Arrival} {rest : List Arrival}

/-- When it comes does not matter. -/
theorem decides_congr {b : Arrival} (h : b.delivery = a.delivery) :
    decides pending b = decides pending a := by
  simp only [decides, h]

theorem decides_of_failure {detail : String} (h : a.delivery = .failure detail) :
    decides pending a := by
  simp [decides, h]

theorem decides_of_matching {bytes : List UInt8} {reply : Reply}
    (hdelivery : a.delivery = .datagram bytes)
    (hreply : classify pending (bytes.take maxFrameLength) = .matching reply) :
    decides pending a := by
  simp [decides, hdelivery, hreply]

/-- A datagram that is no matching reply decides nothing, be it stale or undecodable. -/
theorem not_decides_of_not_matching {bytes : List UInt8}
    (hdelivery : a.delivery = .datagram bytes)
    (hother : ∀ reply, classify pending (bytes.take maxFrameLength) = .matching reply → False) :
    decides pending a = false := by
  simp only [decides, hdelivery]
  cases hincoming : classify pending (bytes.take maxFrameLength) with
  | matching reply => exact absurd hincoming (hother reply)
  | stale => rfl
  | undecodable => rfl

theorem time_of_decision? (h : decision? pending deadline line = some a) :
    line.now ≤ a.time ∧ a.time ≤ deadline :=
  time_of_mem_receipts (List.mem_of_find?_eq_some h)

/-- What is received first and decides the request is its decision. -/
theorem decision?_of_decides (hopen : line.now < deadline) (harrived : a.time ≤ deadline)
    (hdecides : decides pending a) :
    decision? pending deadline { line with queue := a :: rest } =
      some { a with time := max line.now a.time } := by
  unfold decision?
  rw [receipts_cons hopen harrived rest]
  exact List.find?_cons_of_pos hdecides

/-- What is received first and decides nothing leaves the decision to the rest of the window. -/
theorem decision?_of_not_decides (hopen : line.now < deadline) (harrived : a.time ≤ deadline)
    (hpassed : decides pending a = false) :
    decision? pending deadline { line with queue := a :: rest } =
      decision? pending deadline { line with now := max line.now a.time, queue := rest } := by
  have hsame : decides pending { a with time := max line.now a.time } = false := hpassed
  unfold decision?
  rw [receipts_cons hopen harrived rest]
  exact List.find?_cons_of_neg (Bool.eq_false_iff.1 hsame)

/-- The first in the queue that decides the request is received in a window that is open, at once or
when it arrives, if that is before the deadline. -/
theorem find?_receipts {now : Nat} {queue : List Arrival} (hordered : Ordered queue)
    (hopen : now < deadline) (hfirst : queue.find? (decides pending) = some a)
    (hbefore : a.time < deadline) :
    (receipts deadline now queue).find? (decides pending) =
      some { a with time := max now a.time } := by
  induction queue generalizing now with
  | nil => cases hfirst
  | cons b rest ih =>
      rcases List.pairwise_cons.1 hordered with ⟨hnext, hrest⟩
      cases hdecides : decides pending b with
      | true =>
          rw [List.find?_cons_of_pos hdecides] at hfirst
          obtain rfl := Option.some.inj hfirst
          rw [receipts_cons hopen (Nat.le_of_lt hbefore)]
          exact List.find?_cons_of_pos hdecides
      | false =>
          rw [List.find?_cons_of_neg (Bool.eq_false_iff.1 hdecides)] at hfirst
          -- What is in front of it has arrived no later, and leaves the window open.
          have hearlier : b.time ≤ a.time := hnext a (List.mem_of_find?_eq_some hfirst)
          have hstill : max now b.time < deadline :=
            Nat.max_lt.2 ⟨hopen, Nat.lt_of_le_of_lt hearlier hbefore⟩
          have hsame : max (max now b.time) a.time = max now a.time := by
            rw [Nat.max_assoc, Nat.max_eq_right hearlier]
          have hpassed : ¬ decides pending { b with time := max now b.time } = true :=
            Bool.eq_false_iff.1 hdecides
          rw [receipts_cons hopen (Nat.le_trans hearlier (Nat.le_of_lt hbefore)), ← hsame,
            List.find?_cons_of_neg hpassed]
          exact ih hrest hstill hfirst

/-- Without a receipt there is no decision. -/
theorem decision?_of_silent (h : receipts deadline line.now line.queue = []) :
    decision? pending deadline line = none := by
  unfold decision?
  rw [h]
  rfl

end Decisions

/-- The line when a window has passed in which nothing decided the request. -/
def pass (deadline : Nat) (line : Line σ) : Line σ :=
  { line with
    now := max line.now deadline
    queue := line.queue.drop (receipts deadline line.now line.queue).length }

/-- What is left in the queue is still in order. -/
theorem Ordered.pass {line : Line σ} (h : Ordered line.queue) (deadline : Nat) :
    Ordered (pass deadline line).queue :=
  List.Pairwise.sublist (List.drop_sublist _ _) h

/-- What decides the request is not passed over. -/
theorem mem_pass_of_decides {pending : Pending} {deadline : Nat} {line : Line σ} {a : Arrival}
    (h : a ∈ line.queue) (hdecides : decides pending a)
    (hnone : decision? pending deadline line = none) : a ∈ (pass deadline line).queue := by
  rw [← List.take_append_drop (receipts deadline line.now line.queue).length line.queue] at h
  rcases List.mem_append.1 h with hreceived | hleft
  · rcases exists_receipt hreceived with ⟨b, hb, hdelivery⟩
    have hpassed := List.find?_eq_none.1 hnone b hb
    rw [decides_congr hdelivery] at hpassed
    exact absurd hdecides hpassed
  · exact hleft

/-! ## Counts -/

/-- So many transmissions and timeouts more; what is passed over is counted as it comes. -/
def Counted (transmissions timeouts : Nat) (channel after : Channel) : Prop :=
  ∃ staleReplies undecodable, after =
    { channel with
      stats :=
        { channel.stats with
          transmissions := channel.stats.transmissions + transmissions
          timeouts := channel.stats.timeouts + timeouts
          staleReplies
          undecodable } }

theorem Counted.refl (channel : Channel) : Counted 0 0 channel channel :=
  ⟨channel.stats.staleReplies, channel.stats.undecodable, rfl⟩

theorem Counted.trans {j k m n : Nat} {channel between after : Channel}
    (h : Counted j k channel between) (hrest : Counted m n between after) :
    Counted (j + m) (k + n) channel after := by
  rcases h with ⟨_, _, rfl⟩
  rcases hrest with ⟨staleReplies, undecodable, rfl⟩
  exact ⟨staleReplies, undecodable, by simp only [Nat.add_assoc]⟩

theorem counted_discard (channel : Channel) (incoming : Incoming) :
    Counted 0 0 channel (channel.discard incoming) :=
  discard_eq channel incoming

theorem counted_countTransmission (channel : Channel) :
    Counted 1 0 channel channel.countTransmission :=
  ⟨channel.stats.staleReplies, channel.stats.undecodable, rfl⟩

theorem counted_countTimeout (channel : Channel) : Counted 0 1 channel channel.countTimeout :=
  ⟨channel.stats.staleReplies, channel.stats.undecodable, rfl⟩

section Counted

variable {transmissions timeouts : Nat} {channel after : Channel}

theorem Counted.nextSequence (h : Counted transmissions timeouts channel after) :
    after.nextSequence = channel.nextSequence := by
  rcases h with ⟨_, _, rfl⟩
  rfl

theorem Counted.attempts (h : Counted transmissions timeouts channel after) :
    after.attempts = channel.attempts := by
  rcases h with ⟨_, _, rfl⟩
  rfl

theorem Counted.roundTrip (h : Counted transmissions timeouts channel after) :
    after.roundTrip = channel.roundTrip := by
  rcases h with ⟨_, _, rfl⟩
  rfl

theorem Counted.withRoundTrip (h : Counted transmissions timeouts channel after)
    (roundTrip : RoundTrip) :
    Counted transmissions timeouts { channel with roundTrip } { after with roundTrip } := by
  rcases h with ⟨staleReplies, undecodable, rfl⟩
  exact ⟨staleReplies, undecodable, rfl⟩

end Counted

/-! ## Windows -/

/-- Once a request is found cancelled, it is from then on. -/
theorem Cancellation.due_mono {cancellation : Cancellation} {now later : Nat}
    (h : cancellation.due now) (hlater : now ≤ later) : cancellation.due later := by
  cases cancellation with
  | never => cases h
  | before => rfl
  | «at» time =>
      have htime : time ≤ now := of_decide_eq_true h
      exact decide_eq_true (Nat.le_trans htime hlater)

theorem Cancellation.undue_of_le {cancellation : Cancellation} {now later : Nat}
    (h : cancellation.due later = false) (hlater : now ≤ later) : cancellation.due now = false := by
  refine Bool.eq_false_iff.2 fun hdue => ?_
  exact Bool.eq_false_iff.1 h (due_mono hdue hlater)

/-- A cancellation that is noticed in silence is due then, and the silence has lasted until then. -/
theorem due_of_noticedInSilence {cancellation : Cancellation} {now deadline limit poll : Nat}
    (h : noticedInSilence cancellation now deadline limit = some poll) :
    cancellation.due poll ∧ poll ≤ deadline ∧ poll < limit := by
  unfold noticedInSilence at h
  split at h
  · rename_i time
    dsimp only at h
    split at h
    · rename_i hnoticed
      cases h
      rcases Bool.and_eq_true_iff.1 hnoticed with ⟨htime, hlimit⟩
      exact ⟨htime, Nat.min_le_right _ _, of_decide_eq_true hlimit⟩
    · cases h
  · cases h
  · cases h

/-- What a window leaves alone. -/
structure Kept (c after : Conversation σ) : Prop where
  far : after.line.far = c.line.far
  sent : after.line.sent = c.line.sent
  channel : Counted 0 0 c.channel after.channel

/-- The ways a window ends, by the first receipt that decides it and the time it comes.  A request that
is cancelled when the window begins receives nothing. -/
inductive Listened (pending : Pending) (cancellation : Cancellation) (deadline : Nat)
    (line : Line σ) (c : Conversation σ) : Window × Conversation σ → Prop where
  | answered {a : Arrival} {bytes : List UInt8} {reply : Reply} {after : Conversation σ}
      (hkept : Kept c after) (hdecision : decision? pending deadline line = some a)
      (hdelivery : a.delivery = .datagram bytes)
      (hreply : classify pending (bytes.take maxFrameLength) = .matching reply)
      (hnow : after.line.now = a.time) (hundue : cancellation.due line.now = false) :
      Listened pending cancellation deadline line c (.answered reply, after)
  | failed {a : Arrival} {detail : String} {after : Conversation σ} (hkept : Kept c after)
      (hdecision : decision? pending deadline line = some a)
      (hdelivery : a.delivery = .failure detail) (hundue : cancellation.due line.now = false) :
      Listened pending cancellation deadline line c (.failed detail, after)
  | passed {after : Conversation σ} (hkept : Kept c after)
      (hdecision : decision? pending deadline line = none)
      (hline : after.line = pass deadline line) (hundue : cancellation.due line.now = false) :
      Listened pending cancellation deadline line c (.passed, after)
  | cancelled {after : Conversation σ} (hkept : Kept c after)
      (hdue : cancellation.due after.line.now)
      (hdecision : ∀ a, decision? pending deadline line = some a → after.line.now ≤ a.time)
      (hdeadline : after.line.now ≤ max line.now deadline)
      (hatonce : cancellation.due line.now → after.line = line) :
      Listened pending cancellation deadline line c (.cancelled, after)

section Listened

variable {pending : Pending} {cancellation : Cancellation} {deadline : Nat} {a : Arrival}
variable {queue rest : List Arrival} {c : Conversation σ}

/-- A datagram that decides nothing is passed over. -/
theorem Listened.cons {incoming : Incoming} {cancelled : Bool} {ended : Window × Conversation σ}
    (hundue : cancellation.due c.line.now = false) (hopen : c.line.now < deadline)
    (harrived : a.time ≤ deadline) (hpassed : decides pending a = false)
    (h : Listened pending cancellation deadline
      { c.line with now := max c.line.now a.time, queue := rest }
      ⟨c.channel.discard incoming, { c.line with now := max c.line.now a.time, queue := rest },
        cancelled⟩ ended) :
    Listened pending cancellation deadline { c.line with queue := a :: rest } c ended := by
  have hreceipts := receipts_cons hopen harrived rest
  have hkept : ∀ {after : Conversation σ}, Kept
      ⟨c.channel.discard incoming, { c.line with now := max c.line.now a.time, queue := rest },
        cancelled⟩ after → Kept c after := by
    intro after hafter
    exact ⟨hafter.far, hafter.sent, (counted_discard _ _).trans hafter.channel⟩
  have hdecision : decision? pending deadline { c.line with queue := a :: rest } =
      decision? pending deadline
        { c.line with now := max c.line.now a.time, queue := rest } :=
    decision?_of_not_decides hopen harrived hpassed
  have hnow : max (max c.line.now a.time) deadline = max c.line.now deadline := by
    rw [Nat.max_assoc, Nat.max_eq_right harrived]
  cases h with
  | answered hafter hfirst hdelivery hreply htime =>
      exact .answered (hkept hafter) (hdecision.trans hfirst) hdelivery hreply htime hundue
  | failed hafter hfirst hdelivery =>
      exact .failed (hkept hafter) (hdecision.trans hfirst) hdelivery hundue
  | passed hafter hnone hline =>
      refine .passed (hkept hafter) (hdecision.trans hnone) ?_ hundue
      rw [hline]
      unfold pass
      dsimp only
      rw [hreceipts, hnow]
      rfl
  | cancelled hafter hdue hfirst huntil =>
      refine .cancelled (hkept hafter) hdue ?_ (Nat.le_trans huntil (Nat.le_of_eq hnow))
        fun hatonce => absurd hatonce (Bool.eq_false_iff.1 hundue)
      intro b hb
      exact hfirst b (hdecision.symm.trans hb)

/-- The request is cancelled when the window begins. -/
theorem listened_of_cancelled (hdue : cancellation.due c.line.now) :
    Listened pending cancellation deadline { c.line with queue } c
      (.cancelled, { c with line := { c.line with queue } }) :=
  .cancelled ⟨rfl, rfl, .refl _⟩ hdue (fun _ hfirst => (time_of_decision? hfirst).1)
    (Nat.le_max_left _ _) fun _ => rfl

/-- The deadline came before the window. -/
theorem listened_of_le (hundue : cancellation.due c.line.now = false)
    (h : deadline ≤ c.line.now) :
    Listened pending cancellation deadline { c.line with queue } c
      (.passed, { c with line := { c.line with queue } }) := by
  have hnothing : receipts deadline c.line.now queue = [] := receipts_of_le h
  refine .passed ⟨rfl, rfl, .refl _⟩ ?_ ?_ hundue
  · exact decision?_of_silent hnothing
  · unfold pass
    dsimp only
    rw [hnothing, Nat.max_eq_left h]
    rfl

/-- Nothing is received in the window. -/
theorem listened_awaitSilence (hundue : cancellation.due c.line.now = false)
    (hopen : c.line.now < deadline) (hnothing : receipts deadline c.line.now queue = []) :
    Listened pending cancellation deadline { c.line with queue } c
      (awaitSilence cancellation deadline { c with line := { c.line with queue } }) := by
  have hnone : decision? pending deadline { c.line with queue } = none :=
    decision?_of_silent hnothing
  unfold awaitSilence
  split
  · rename_i poll hpoll
    rcases due_of_noticedInSilence hpoll with ⟨hdue, huntil, -⟩
    refine .cancelled ⟨rfl, rfl, .refl _⟩ hdue ?_ (Nat.le_trans huntil (Nat.le_max_right _ _))
      fun hatonce => absurd hatonce (Bool.eq_false_iff.1 hundue)
    intro b hb
    rw [hnone] at hb
    cases hb
  · refine .passed ⟨rfl, rfl, .refl _⟩ hnone ?_ hundue
    unfold pass
    dsimp only
    rw [hnothing, Nat.max_eq_right (Nat.le_of_lt hopen)]
    rfl

/-- The cancellation is noticed before the next arrival is received. -/
theorem listened_of_noticed {poll : Nat} (hundue : cancellation.due c.line.now = false)
    (hopen : c.line.now < deadline) (harrived : a.time ≤ deadline)
    (hpoll : noticedInSilence cancellation c.line.now deadline a.time = some poll) :
    Listened pending cancellation deadline { c.line with queue := a :: rest } c
      (.cancelled,
        { c with line := { c.line with now := poll, queue := a :: rest }, cancelled := true }) := by
  rcases due_of_noticedInSilence hpoll with ⟨hdue, huntil, hbefore⟩
  refine .cancelled ⟨rfl, rfl, .refl _⟩ hdue ?_ (Nat.le_trans huntil (Nat.le_max_right _ _))
    fun hatonce => absurd hatonce (Bool.eq_false_iff.1 hundue)
  intro b hb
  have hmem : b ∈ receipts deadline c.line.now (a :: rest) := List.mem_of_find?_eq_some hb
  rw [receipts_cons hopen harrived rest] at hmem
  -- Whatever decides the request is received no earlier than the next arrival.
  have hnext : a.time ≤ b.time := by
    rcases List.mem_cons.1 hmem with rfl | hlater
    · exact Nat.le_max_right _ _
    · exact Nat.le_trans (Nat.le_max_right _ _) (time_of_mem_receipts hlater).1
  calc poll
      ≤ a.time := Nat.le_of_lt hbefore
    _ ≤ b.time := hnext

/-- Every window ends in one of the ways. -/
theorem listened_await (hflag : c.cancelled = cancellation.due c.line.now) :
    Listened pending cancellation deadline { c.line with queue } c
      (await pending cancellation deadline queue c) := by
  -- On the queue, as the window goes through it; each receipt looks for the cancellation again.
  induction queue generalizing c with
  | nil =>
      unfold await
      dsimp only
      split
      · rename_i hcancelled
        exact listened_of_cancelled (hflag ▸ hcancelled)
      rename_i hcancelled
      have hundue : cancellation.due c.line.now = false := hflag ▸ Bool.eq_false_iff.2 hcancelled
      split
      · rename_i hlate
        exact listened_of_le hundue hlate
      · rename_i hlate
        exact listened_awaitSilence hundue (Nat.lt_of_not_le hlate) rfl
  | cons a rest ih =>
      unfold await
      dsimp only
      split
      · rename_i hcancelled
        exact listened_of_cancelled (hflag ▸ hcancelled)
      rename_i hcancelled
      have hundue : cancellation.due c.line.now = false := hflag ▸ Bool.eq_false_iff.2 hcancelled
      split
      · rename_i hlate
        exact listened_of_le hundue hlate
      rename_i hlate
      have hopen : c.line.now < deadline := Nat.lt_of_not_le hlate
      split
      · rename_i hlater
        exact listened_awaitSilence hundue hopen (receipts_of_lt hlater rest)
      rename_i hlater
      have harrived : a.time ≤ deadline := Nat.le_of_not_lt hlater
      split
      · rename_i poll hpoll
        exact listened_of_noticed hundue hopen harrived hpoll
      have hdecision : decides pending a → decision? pending deadline
          { c.line with queue := a :: rest } = some { a with time := max c.line.now a.time } :=
        decision?_of_decides hopen harrived
      -- The arrival is received; the window ends with it, or goes on behind it.
      split
      · rename_i detail hdelivery
        have hfirst := hdecision (decides_of_failure hdelivery)
        exact .failed ⟨rfl, rfl, .refl _⟩ hfirst hdelivery hundue
      · rename_i bytes hdelivery
        split
        · rename_i reply hreply
          have hfirst := hdecision (decides_of_matching hdelivery hreply)
          exact .answered ⟨rfl, rfl, .refl _⟩ hfirst hdelivery hreply rfl hundue
        · rename_i incoming hincoming
          have hpassed := not_decides_of_not_matching hdelivery hincoming
          have hrest := ih
            (c := ⟨c.channel.discard (classify pending (bytes.take maxFrameLength)),
              { c.line with now := max c.line.now a.time, queue := rest },
              cancellation.due (max c.line.now a.time)⟩) rfl
          exact .cons hundue hopen harrived hpassed hrest

end Listened

end Register
end ServoLink
