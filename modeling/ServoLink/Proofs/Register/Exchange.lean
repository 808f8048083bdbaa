import ServoLink.Proofs.Register.Window

/-!
# Exchange — the transmissions of one request

The windows of a request follow from what the line does: each begins with a transmission of the
same datagram and ends at a deadline that is fixed by then.  As long as nothing decides the request,
the line is where `Exchange.sending` says when the next transmission is due.

* `Exchange` — a request about to be sent, with its windows;
* `Course` — how its transmissions end, by the window that decides it;
* `course_transact` — every request takes one of the courses;
* `Course.of_answered`, `Course.of_cancelled`, `Course.of_exhausted` — which one it takes, by what its
  windows bring.
-/

namespace ServoLink
namespace Register

open Wire Net

variable {σ : Type}

/-- How long the first windows of a request last, so many of them. -/
def RoundTrip.lasting (r : RoundTrip) : Nat → Nat
  | 0 => 0
  | i + 1 => r.lasting i + r.backoff i

/-! ## Exchanges -/

/-- A request about to be sent: its datagram, the reply it waits for, and the estimate its windows
are made from. -/
structure Exchange (σ : Type) where
  react : FarEnd σ
  pending : Pending
  datagram : List UInt8
  roundTrip : RoundTrip
  line : Line σ

namespace Exchange

variable (e : Exchange σ)

/-- The line when transmission `i` is due, if no window before it decided the request. -/
def sending : Nat → Line σ
  | 0 => e.line
  | i + 1 =>
      let line := sending i
      pass (line.now + e.roundTrip.backoff i) (line.send e.react e.datagram).2

/-- The end of the window of transmission `i`. -/
def deadline (i : Nat) : Nat := (e.sending i).now + e.roundTrip.backoff i

/-- The line when the send of transmission `i` has returned. -/
def opened (i : Nat) : Line σ := ((e.sending i).send e.react e.datagram).2

/-- What decides the request in the window of transmission `i`. -/
def decision? (i : Nat) : Option Arrival :=
  Register.decision? e.pending (e.deadline i) (e.opened i)

/-- Transmission `i` was sent, and its window passed with nothing that decides the request. -/
structure Unanswered (i : Nat) : Prop where
  sent : ((e.sending i).send e.react e.datagram).1 = .ok ()
  undecided : e.decision? i = none

/-- Transmission `i` was sent, and the first receipt of its window that decides the request is the
matching reply. -/
structure AnsweredBy (i : Nat) (a : Arrival) (reply : Reply) : Prop where
  sent : ((e.sending i).send e.react e.datagram).1 = .ok ()
  decided : e.decision? i = some a
  matching : ∃ bytes, a.delivery = .datagram bytes
    ∧ classify e.pending (bytes.take maxFrameLength) = .matching reply

/-- Transmission `i` was sent, and the first that decides the request of all that is under way then is
the matching reply; it arrives before the window ends, whether it is received or not. -/
structure ArrivesBy (i : Nat) (a : Arrival) (reply : Reply) : Prop where
  sent : ((e.sending i).send e.react e.datagram).1 = .ok ()
  first : (e.opened i).queue.find? (decides e.pending) = some a
  before : a.time < e.deadline i
  matching : ∃ bytes, a.delivery = .datagram bytes
    ∧ classify e.pending (bytes.take maxFrameLength) = .matching reply

instance (i : Nat) : Decidable (e.Unanswered i) :=
  decidable_of_iff
    (((e.sending i).send e.react e.datagram).1 = .ok () ∧ e.decision? i = none)
    ⟨fun h => ⟨h.1, h.2⟩, fun h => ⟨h.sent, h.undecided⟩⟩

variable {e} {i j : Nat} {a b : Arrival} {reply other : Reply}

theorem AnsweredBy.unique (h : e.AnsweredBy i a reply) (h' : e.AnsweredBy i b other) :
    a = b ∧ reply = other := by
  obtain rfl : a = b := Option.some.inj (h.decided.symm.trans h'.decided)
  rcases h.matching with ⟨bytes, hdelivery, hreply⟩
  rcases h'.matching with ⟨bytes', hdelivery', hreply'⟩
  obtain rfl : bytes = bytes' := Delivery.datagram.inj (hdelivery.symm.trans hdelivery')
  exact ⟨rfl, Incoming.matching.inj (hreply.symm.trans hreply')⟩

theorem AnsweredBy.not_unanswered (h : e.AnsweredBy i a reply) : ¬ e.Unanswered i := by
  intro hunanswered
  have hnone := h.decided.symm.trans hunanswered.undecided
  cases hnone

/-- On a line whose queue is in order, every window begins with it in order. -/
theorem ordered_sending (hordered : Ordered e.line.queue) (i : Nat) :
    Ordered (e.sending i).queue := by
  induction i with
  | zero => exact hordered
  | succ i ih => exact (ih.send e.react e.datagram).pass _

/-- What arrives before the end of a window is received, unless the send returns too late. -/
theorem not_unanswered_of_queued (hordered : Ordered e.line.queue)
    (hopen : (e.opened i).now < e.deadline i) (hqueued : a ∈ (e.opened i).queue)
    (hbefore : a.time < e.deadline i) (hdecides : decides e.pending a) : ¬ e.Unanswered i := by
  intro hunanswered
  have hqueue : Ordered (e.opened i).queue :=
    (ordered_sending hordered i).send e.react e.datagram
  -- Something decides the request; the first that does arrives no later.
  obtain ⟨first, hfirst⟩ : ∃ first, (e.opened i).queue.find? (decides e.pending) = some first :=
    Option.isSome_iff_exists.1 (List.find?_isSome.2 ⟨a, hqueued, hdecides⟩)
  have hearlier := hqueue.time_le_of_find? hfirst hqueued hdecides
  have hdecided := find?_receipts hqueue hopen hfirst (Nat.lt_of_le_of_lt hearlier hbefore)
  cases hdecided.symm.trans hunanswered.undecided

/-- A reply that arrives before the end of a window answers it if the send has returned by then. -/
theorem ArrivesBy.answeredBy (h : e.ArrivesBy i a reply) (hordered : Ordered e.line.queue)
    (hopen : (e.opened i).now < e.deadline i) :
    e.AnsweredBy i { a with time := max (e.opened i).now a.time } reply := by
  have hqueue : Ordered (e.opened i).queue :=
    (ordered_sending hordered i).send e.react e.datagram
  exact ⟨h.sent, find?_receipts hqueue hopen h.first h.before, h.matching⟩

/-- Otherwise the window passes without a receipt. -/
theorem ArrivesBy.unanswered (h : e.ArrivesBy i a reply)
    (hlate : e.deadline i ≤ (e.opened i).now) : e.Unanswered i :=
  ⟨h.sent, decision?_of_silent (receipts_of_le hlate)⟩

/-- What decides the request stays in the queue until a window receives it. -/
theorem queued_of_unanswered (h : a ∈ (e.opened 0).queue) (hdecides : decides e.pending a)
    (hunanswered : ∀ j < i, e.Unanswered j) : a ∈ (e.opened i).queue := by
  induction i with
  | zero => exact h
  | succ i ih =>
      have hqueued := ih fun j hj => hunanswered j (Nat.lt_succ_of_lt hj)
      refine Line.mem_queue_send_of_mem ?_
      exact mem_pass_of_decides hqueued hdecides (hunanswered i (Nat.lt_succ_self i)).undecided

/-- The first window that is not unanswered is one and the same. -/
theorem index_unique (hi : ∀ j < i, e.Unanswered j) (hdecided : ¬ e.Unanswered i)
    (hj : ∀ k < j, e.Unanswered k) (hdecided' : ¬ e.Unanswered j) : i = j := by
  rcases Nat.lt_trichotomy i j with hlt | rfl | hgt
  · exact absurd (hj i hlt) hdecided
  · rfl
  · exact absurd (hi j hgt) hdecided'

/-- Time does not run back from window to window. -/
theorem now_sending_mono (h : i ≤ j) : (e.sending i).now ≤ (e.sending j).now := by
  induction h with
  | refl => exact Nat.le_refl _
  | @step j _ ih =>
      calc (e.sending i).now
          ≤ (e.sending j).now := ih
        _ ≤ e.deadline j := Nat.le_add_right _ _
        _ ≤ (e.sending (j + 1)).now := Nat.le_max_right _ _

/-- Every window before a transmission has lasted. -/
theorem now_sending_ge (i : Nat) : e.line.now + e.roundTrip.lasting i ≤ (e.sending i).now := by
  induction i with
  | zero => exact Nat.le_refl _
  | succ i ih =>
      calc e.line.now + e.roundTrip.lasting (i + 1)
          = e.line.now + e.roundTrip.lasting i + e.roundTrip.backoff i := (Nat.add_assoc _ _ _).symm
        _ ≤ (e.sending i).now + e.roundTrip.backoff i := Nat.add_le_add_right ih _
        _ ≤ (e.sending (i + 1)).now := Nat.le_max_right _ _

theorem sent_sending (i : Nat) :
    (e.sending i).sent = List.replicate i e.datagram ++ e.line.sent := by
  induction i with
  | zero => rfl
  | succ i ih =>
      show ((e.sending i).send e.react e.datagram).2.sent = _
      rw [Line.sent_send, ih]
      rfl

theorem sent_opened (i : Nat) :
    (e.opened i).sent = List.replicate (i + 1) e.datagram ++ e.line.sent := by
  show ((e.sending i).send e.react e.datagram).2.sent = _
  rw [Line.sent_send, sent_sending]
  rfl

end Exchange

/-! ## Courses -/

/-- What an action ends with. -/
def outcomeOf {α : Type} : EStateM.Result LinkError (Conversation σ) α → Except LinkError α
  | .ok value _ => .ok value
  | .error cause _ => .error cause

/-- What so many transmissions leave behind: the datagrams sent, and the channel with what it counts
and its estimate. -/
structure Spent (e : Exchange σ) (begun after : Conversation σ)
    (sends transmissions timeouts : Nat) (roundTrip : RoundTrip) : Prop where
  sent : after.line.sent = List.replicate sends e.datagram ++ e.line.sent
  channel : Counted transmissions timeouts { begun.channel with roundTrip } after.channel

/-- The ways the transmissions of a request end.  A request that is cancelled when a send returns ends
with it; so no cancellation was due when the sends before the last returned. -/
inductive Course (e : Exchange σ) (cancellation : Cancellation) (begun : Conversation σ)
    (attempts : Nat) : EStateM.Result LinkError (Conversation σ) Reply → Prop where
  | answered {i : Nat} {a : Arrival} {reply : Reply} {after : Conversation σ} (hi : i < attempts)
      (hbefore : ∀ j < i, e.Unanswered j) (hanswered : e.AnsweredBy i a reply)
      (hspent : Spent e begun after (i + 1) (i + 1) i
        (if i = 0 then e.roundTrip.sample (a.time - e.line.now) else e.roundTrip))
      (hnow : after.line.now = a.time)
      (hundue : ∀ j ≤ i, cancellation.due (e.opened j).now = false) :
      Course e cancellation begun attempts (.ok reply after)
  | exhausted {after : Conversation σ} (hbefore : ∀ j < attempts, e.Unanswered j)
      (hspent : Spent e begun after attempts attempts attempts e.roundTrip)
      (hline : after.line = e.sending attempts)
      (hundue : ∀ j < attempts, cancellation.due (e.opened j).now = false) :
      Course e cancellation begun attempts (.error (.requestTimeout begun.channel.attempts) after)
  /-- The last send or a receive fails. -/
  | broken {i transmissions : Nat} {detail : String} {after : Conversation σ} (hi : i < attempts)
      (hbefore : ∀ j < i, e.Unanswered j) (hbroken : ¬ e.Unanswered i)
      (hunanswered : ∀ a reply, ¬ e.AnsweredBy i a reply)
      (hspent : Spent e begun after (i + 1) transmissions i e.roundTrip)
      (hundue : ∀ j < i, cancellation.due (e.opened j).now = false)
      (hlast : ((e.sending i).send e.react e.datagram).1 = .ok () →
        cancellation.due (e.opened i).now = false) :
      Course e cancellation begun attempts (.error (.socket detail) after)
  | cancelled {i : Nat} {after : Conversation σ} (hi : i < attempts)
      (hbefore : ∀ j < i, e.Unanswered j) (hdue : cancellation.due after.line.now)
      (huntil : ∀ a reply, e.AnsweredBy i a reply → after.line.now ≤ a.time)
      (hdeadline : after.line.now ≤ (e.sending (i + 1)).now)
      (hspent : Spent e begun after (i + 1) (i + 1) i e.roundTrip)
      (hundue : ∀ j < i, cancellation.due (e.opened j).now = false)
      (hatonce : cancellation.due (e.opened i).now → after.line = e.opened i) :
      Course e cancellation begun attempts (.error .cancelled after)

/-- Transmission `i` is due, and nothing before it decided the request. -/
structure Reached (e : Exchange σ) (cancellation : Cancellation) (begun : Conversation σ)
    (i : Nat) (c : Conversation σ) : Prop where
  line : c.line = e.sending i
  channel : Counted i i { begun.channel with roundTrip := e.roundTrip } c.channel
  before : ∀ j < i, e.Unanswered j
  undue : ∀ j < i, cancellation.due (e.opened j).now = false

section Courses

variable {e : Exchange σ} {cancellation : Cancellation} {begun c : Conversation σ} {i : Nat}

/-- The window of transmission `i` ends in one of the ways of a window. -/
theorem Exchange.listened (e : Exchange σ) (cancellation : Cancellation) (i : Nat)
    (c : Conversation σ) :
    Listened e.pending cancellation (e.deadline i) (e.opened i)
      (c.transmitted cancellation (e.opened i))
      (await e.pending cancellation (e.deadline i) (e.opened i).queue
        (c.transmitted cancellation (e.opened i))) :=
  listened_await (c := c.transmitted cancellation (e.opened i)) rfl

/-- What a window leaves behind. -/
theorem Reached.spent (h : Reached e cancellation begun i c) {after : Conversation σ}
    (hkept : Kept (c.transmitted cancellation (e.opened i)) after) :
    Spent e begun after (i + 1) (i + 1) i e.roundTrip where
  sent := hkept.sent.trans (e.sent_opened i)
  channel := (h.channel.trans (counted_countTransmission _)).trans hkept.channel

/-- No cancellation was due when the sends so far returned, if none is when this one does. -/
theorem Reached.undue_succ (h : Reached e cancellation begun i c)
    (hundue : cancellation.due (e.opened i).now = false) {j : Nat} (hj : j ≤ i) :
    cancellation.due (e.opened j).now = false := by
  rcases Nat.lt_or_eq_of_le hj with hearlier | rfl
  · exact h.undue j hearlier
  · exact hundue

/-- The next transmission is due once the window has passed. -/
theorem Reached.next (h : Reached e cancellation begun i c) {after : Conversation σ}
    (hunanswered : e.Unanswered i)
    (hkept : Kept (c.transmitted cancellation (e.opened i)) after)
    (hline : after.line = pass (e.deadline i) (e.opened i))
    (hundue : cancellation.due (e.opened i).now = false) :
    Reached e cancellation begun (i + 1)
      { after with channel := after.channel.countTimeout } where
  line := hline
  channel := (h.spent hkept).channel.trans (counted_countTimeout _)
  before := by
    intro j hj
    rcases Nat.lt_succ_iff_lt_or_eq.1 hj with hearlier | rfl
    · exact h.before j hearlier
    · exact hunanswered
  undue := fun j hj => h.undue_succ hundue (Nat.le_of_lt_succ hj)

/-- The matching reply ends the request, and is a sample of the round trip if it answers the first
transmission. -/
theorem Reached.answered (h : Reached e cancellation begun i c) {attempts : Nat} (hi : i < attempts)
    {a : Arrival} {reply : Reply} {after : Conversation σ} (hanswered : e.AnsweredBy i a reply)
    (hkept : Kept (c.transmitted cancellation (e.opened i)) after)
    (hnow : after.line.now = a.time) (hundue : cancellation.due (e.opened i).now = false) :
    Course e cancellation begun attempts (.ok reply
      { after with
        channel :=
          if i = 0 then
            { after.channel with
              roundTrip := after.channel.roundTrip.sample (after.line.now - (e.sending i).now) }
          else after.channel }) := by
  have hspent := h.spent hkept
  refine .answered hi h.before hanswered ?_ hnow fun j hj => h.undue_succ hundue hj
  by_cases hfirst : i = 0
  · subst hfirst
    have hestimate : after.channel.roundTrip = e.roundTrip := hspent.channel.roundTrip
    rw [if_pos rfl, if_pos rfl, hestimate, hnow]
    exact ⟨hspent.sent, hspent.channel.withRoundTrip _⟩
  · -- A later reply may answer any transmission so far; the estimate stays.
    rw [if_neg hfirst, if_neg hfirst]
    exact hspent

/-- A send that fails ends the request. -/
theorem Reached.unsent (h : Reached e cancellation begun i c) {attempts : Nat} (hi : i < attempts)
    {detail : String} (hsend : ((e.sending i).send e.react e.datagram).1 = .error detail) :
    Course e cancellation begun attempts (.error (.socket detail) { c with line := e.opened i }) := by
  have hunsent : ((e.sending i).send e.react e.datagram).1 ≠ .ok () := by
    rw [hsend]
    rintro ⟨⟩
  exact .broken hi h.before (fun hunanswered => hunsent hunanswered.sent)
    (fun a reply hanswered => hunsent hanswered.sent) ⟨e.sent_opened i, h.channel⟩ h.undue
    fun hsent => absurd hsent hunsent

/-- A receive that fails ends the request. -/
theorem Reached.failed (h : Reached e cancellation begun i c) {attempts : Nat} (hi : i < attempts)
    {a : Arrival} {detail : String} {after : Conversation σ}
    (hkept : Kept (c.transmitted cancellation (e.opened i)) after)
    (hdecision : e.decision? i = some a) (hdelivery : a.delivery = .failure detail)
    (hundue : cancellation.due (e.opened i).now = false) :
    Course e cancellation begun attempts (.error (.socket detail) after) := by
  refine .broken hi h.before ?_ ?_ (h.spent hkept) h.undue fun _ => hundue
  · intro hunanswered
    have hnone := hdecision.symm.trans hunanswered.undecided
    cases hnone
  · intro b reply hanswered
    obtain rfl : a = b := Option.some.inj (hdecision.symm.trans hanswered.decided)
    rcases hanswered.matching with ⟨bytes, hdatagram, -⟩
    have hboth := hdelivery.symm.trans hdatagram
    cases hboth

/-- Every request takes one of the courses. -/
theorem course_transact (h : Reached e cancellation begun i c) (left : Nat) :
    Course e cancellation begun (i + left)
      (transact e.react e.pending e.datagram cancellation i left c) := by
  -- On the transmissions left; each window that passes reaches the next transmission.
  induction left generalizing i c with
  | zero =>
      have hattempts : c.channel.attempts = begun.channel.attempts := h.channel.attempts
      unfold transact
      rw [hattempts]
      exact .exhausted h.before ⟨(congrArg (·.sent) h.line).trans (e.sent_sending i), h.channel⟩
        h.line h.undue
  | succ left ih =>
      -- The loop reads its clock and its estimate where the exchange says they are.
      have hi : i < i + (left + 1) := by omega
      have hroundTrip : c.channel.roundTrip = e.roundTrip := h.channel.roundTrip
      unfold transact
      dsimp only
      rw [h.line, hroundTrip]
      have hopened : ((e.sending i).send e.react e.datagram).2 = e.opened i := rfl
      cases hsend : (e.sending i).send e.react e.datagram with
      | mk result line =>
          rw [hsend] at hopened
          obtain rfl : line = e.opened i := hopened
          cases result with
          | error detail => exact h.unsent hi (congrArg Prod.fst hsend)
          | ok =>
              have hsent : ((e.sending i).send e.react e.datagram).1 = .ok () :=
                congrArg Prod.fst hsend
              have hlistened := e.listened cancellation i c
              dsimp only
              rw [show (e.sending i).now + e.roundTrip.backoff i = e.deadline i from rfl]
              generalize await e.pending cancellation (e.deadline i) (e.opened i).queue
                (c.transmitted cancellation (e.opened i)) = ended at hlistened ⊢
              cases hlistened with
              | @answered a bytes reply after hkept hdecision hdelivery hreply hnow hundue =>
                  exact h.answered hi ⟨hsent, hdecision, bytes, hdelivery, hreply⟩ hkept hnow hundue
              | failed hkept hdecision hdelivery hundue =>
                  exact h.failed hi hkept hdecision hdelivery hundue
              | passed hkept hdecision hline hundue =>
                  have hnext := h.next ⟨hsent, hdecision⟩ hkept hline hundue
                  rw [show i + (left + 1) = i + 1 + left by omega]
                  exact ih hnext
              | cancelled hkept hdue hdecision hdeadline hatonce =>
                  refine .cancelled hi h.before hdue ?_ hdeadline (h.spent hkept) h.undue hatonce
                  intro a reply hanswered
                  exact hdecision a hanswered.decided

/-- What a request leaves behind, whatever its course. -/
theorem Course.counted {attempts : Nat}
    {result : EStateM.Result LinkError (Conversation σ) Reply}
    (h : Course e cancellation begun attempts result) :
    ∃ sends ≤ attempts, ∃ transmissions timeouts roundTrip,
      Spent e begun (conversationOf result) sends transmissions timeouts roundTrip
        ∧ (∀ i, i + 1 < sends → e.Unanswered i)
        ∧ (roundTrip = e.roundTrip ∨ ∃ a reply, e.AnsweredBy 0 a reply
          ∧ roundTrip = e.roundTrip.sample (a.time - e.line.now)) := by
  cases h with
  | @answered i a reply after hi hbefore hanswered hspent hnow =>
      refine ⟨i + 1, hi, _, _, _, hspent, fun j hj => hbefore j (Nat.lt_of_succ_lt_succ hj), ?_⟩
      by_cases hfirst : i = 0
      · subst hfirst
        exact Or.inr ⟨a, reply, hanswered, rfl⟩
      · exact Or.inl (if_neg hfirst)
  | exhausted hbefore hspent hline =>
      refine ⟨attempts, Nat.le_refl _, _, _, _, hspent, ?_, Or.inl rfl⟩
      intro j hj
      exact hbefore j (Nat.lt_of_succ_lt hj)
  | broken hi hbefore hbroken hunanswered hspent =>
      exact ⟨_, hi, _, _, _, hspent, fun j hj => hbefore j (Nat.lt_of_succ_lt_succ hj),
        Or.inl rfl⟩
  | cancelled hi hbefore hdue huntil hdeadline hspent =>
      exact ⟨_, hi, _, _, _, hspent, fun j hj => hbefore j (Nat.lt_of_succ_lt_succ hj),
        Or.inl rfl⟩

/-- The first matching reply that is received ends the request, if no cancellation is due by
then. -/
theorem Course.of_answered {attempts : Nat} {a : Arrival} {reply : Reply}
    {result : EStateM.Result LinkError (Conversation σ) Reply}
    (h : Course e cancellation begun attempts result) (hi : i < attempts)
    (hbefore : ∀ j < i, e.Unanswered j) (hanswered : e.AnsweredBy i a reply)
    (hdue : cancellation.due a.time = false) :
    outcomeOf result = .ok reply ∧ (conversationOf result).line.now = a.time
      ∧ Spent e begun (conversationOf result) (i + 1) (i + 1) i
        (if i = 0 then e.roundTrip.sample (a.time - e.line.now) else e.roundTrip) := by
  have hdecided := hanswered.not_unanswered
  cases h with
  | @answered k b other after hk hbeforek hansweredk hspent hnow =>
      obtain rfl := Exchange.index_unique hbefore hdecided hbeforek hansweredk.not_unanswered
      obtain ⟨rfl, rfl⟩ := hanswered.unique hansweredk
      exact ⟨rfl, hnow, hspent⟩
  | exhausted hall hspent hline => exact absurd (hall i hi) hdecided
  | broken hk hbeforek hbroken hunanswered hspent =>
      obtain rfl := Exchange.index_unique hbefore hdecided hbeforek hbroken
      exact absurd hanswered (hunanswered a reply)
  | @cancelled k after hk hbeforek hduek huntil hdeadline hspent =>
      -- The cancellation was noticed no later than the reply is received.
      have hnoticed : after.line.now ≤ a.time := by
        rcases Nat.lt_trichotomy k i with hlt | rfl | hgt
        · calc after.line.now
              ≤ (e.sending (k + 1)).now := hdeadline
            _ ≤ (e.sending i).now := Exchange.now_sending_mono hlt
            _ ≤ (e.opened i).now := Line.now_le_now_send _ _ _
            _ ≤ a.time := (time_of_decision? hanswered.decided).1
        · exact huntil a reply hanswered
        · exact absurd (hbeforek i hgt) hdecided
      have hlate := Cancellation.due_mono hduek hnoticed
      rw [hdue] at hlate
      cases hlate

/-- A request that ends with a reply was not answered by a window that passed. -/
theorem Course.lt_of_ok {attempts : Nat} {reply : Reply} {after : Conversation σ}
    (h : Course e cancellation begun attempts (.ok reply after)) (hall : ∀ j ≤ i, e.Unanswered j) :
    ∃ k > i, ∃ roundTrip, Spent e begun after (k + 1) (k + 1) k roundTrip := by
  cases h with
  | @answered k a _ _ hk hbefore hanswered hspent =>
      refine ⟨k, ?_, _, hspent⟩
      by_contra hearlier
      exact hanswered.not_unanswered (hall k (Nat.le_of_not_lt hearlier))

/-- A request that is cancelled when a send returns ends with it, whatever has arrived. -/
theorem Course.of_cancelled {attempts : Nat}
    {result : EStateM.Result LinkError (Conversation σ) Reply}
    (h : Course e cancellation begun attempts result) (hi : i < attempts)
    (hbefore : ∀ j < i, e.Unanswered j)
    (hundue : ∀ j < i, cancellation.due (e.sending (j + 1)).now = false)
    (hsent : ((e.sending i).send e.react e.datagram).1 = .ok ())
    (hdue : cancellation.due (e.opened i).now) :
    outcomeOf result = .error .cancelled ∧ (conversationOf result).line = e.opened i
      ∧ Spent e begun (conversationOf result) (i + 1) (i + 1) i e.roundTrip := by
  have hnot : ¬ cancellation.due (e.opened i).now = false := fun hfalse => by
    rw [hdue] at hfalse
    cases hfalse
  cases h with
  | @answered k a reply after hk hbeforek hanswered hspent hnow hunduek =>
      rcases Nat.lt_or_ge k i with hlt | hge
      · exact absurd (hbefore k hlt) hanswered.not_unanswered
      · exact absurd (hunduek i hge) hnot
  | exhausted hall hspent hline hunduek => exact absurd (hunduek i hi) hnot
  | @broken k _ _ after hk hbeforek hbroken hunanswered hspent hunduek hlast =>
      rcases Nat.lt_trichotomy k i with hlt | rfl | hgt
      · exact absurd (hbefore k hlt) hbroken
      · exact absurd (hlast hsent) hnot
      · exact absurd (hunduek i hgt) hnot
  | @cancelled k after hk hbeforek hduek huntil hdeadline hspent hunduek hatonce =>
      rcases Nat.lt_trichotomy k i with hlt | rfl | hgt
      · -- It would have been noticed by the end of an earlier window.
        have hlate := Cancellation.due_mono hduek hdeadline
        rw [hundue k hlt] at hlate
        cases hlate
      · exact ⟨rfl, hatonce hdue, hspent⟩
      · exact absurd (hunduek i hgt) hnot

/-- A request none of whose windows is answered times out, if no cancellation is due by then. -/
theorem Course.of_exhausted {attempts : Nat} {result : EStateM.Result LinkError (Conversation σ) Reply}
    (h : Course e cancellation begun attempts result) (hall : ∀ i < attempts, e.Unanswered i)
    (hdue : cancellation.due (e.sending attempts).now = false) :
    outcomeOf result = .error (.requestTimeout begun.channel.attempts)
      ∧ (conversationOf result).line = e.sending attempts
      ∧ Spent e begun (conversationOf result) attempts attempts attempts e.roundTrip := by
  cases h with
  | answered hk hbefore hanswered hspent hnow =>
      exact absurd (hall _ hk) hanswered.not_unanswered
  | exhausted _ hspent hline => exact ⟨rfl, hline, hspent⟩
  | broken hk hbefore hbroken hunanswered hspent => exact absurd (hall _ hk) hbroken
  | @cancelled k after hk hbefore hduek huntil hdeadline hspent =>
      have hnoticed : after.line.now ≤ (e.sending attempts).now :=
        Nat.le_trans hdeadline (Exchange.now_sending_mono hk)
      have hlate := Cancellation.due_mono hduek hnoticed
      rw [hdue] at hlate
      cases hlate

end Courses

end Register
end ServoLink
