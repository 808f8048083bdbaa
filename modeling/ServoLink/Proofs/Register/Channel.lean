import ServoLink.Proofs.Net.Network
import ServoLink.Register.Channel

/-!
# Register channel — how a request ends

A window goes through a part of the queue and ends with the matching reply or without it (`Waited`).
A request is a number of windows, each begun by sending the same datagram (`Transacted`).

* `waited_await` — every window ends so;
* `transacted_transact` — what holds of the far end and the queue, and is kept by sending the
  datagram and by receiving, holds when the request ends;
* `heard` — the datagrams that the windows of a request take from the queue;
* `request_cases` — how a request ends.
-/

namespace ServoLink
namespace Register

open Wire Net

variable {σ : Type}

/-- The conversation an action ends with. -/
def conversationOf {α : Type} : EStateM.Result LinkError (Conversation σ) α → Conversation σ
  | .ok _ c => c
  | .error _ c => c

/-! ## Windows -/

/-- What is left alone while the front of a queue is passed over. -/
structure Passed (queue : List Arrival) (c after : Conversation σ) : Prop where
  queue : after.line.queue <:+ queue
  far : after.line.far = c.line.far
  nextSequence : after.channel.nextSequence = c.channel.nextSequence
  requests : after.channel.stats.requests = c.channel.stats.requests

/-- The ways a window ends. -/
inductive Waited (pending : Pending) (queue : List Arrival) (c : Conversation σ) :
    Window × Conversation σ → Prop where
  | answered {reply : Reply} {bytes : List UInt8} {after : Conversation σ}
      (hpassed : Passed queue c after) (htaken : bytes ∈ taken queue after.line.queue)
      (hbytes : classify pending (bytes.take maxFrameLength) = .matching reply) :
      Waited pending queue c (.answered reply, after)
  | passed {after : Conversation σ} (hpassed : Passed queue c after) :
      Waited pending queue c (.passed, after)
  | cancelled {after : Conversation σ} (hpassed : Passed queue c after) :
      Waited pending queue c (.cancelled, after)
  | failed {detail : String} {after : Conversation σ} (hpassed : Passed queue c after) :
      Waited pending queue c (.failed detail, after)

theorem discard_eq (channel : Channel) (incoming : Incoming) :
    ∃ staleReplies undecodable, channel.discard incoming =
      { channel with stats := { channel.stats with staleReplies, undecodable } } := by
  cases incoming with
  | matching reply => exact ⟨channel.stats.staleReplies, channel.stats.undecodable, rfl⟩
  | stale => exact ⟨channel.stats.staleReplies + 1, channel.stats.undecodable, rfl⟩
  | undecodable => exact ⟨channel.stats.staleReplies, channel.stats.undecodable + 1, rfl⟩

section Waited

variable {pending : Pending} {a : Arrival} {rest : List Arrival} {c after : Conversation σ}

/-- One arrival is passed over. -/
theorem Passed.cons {now : Nat} {cancelled : Bool} {incoming : Incoming}
    (h : Passed rest
      ⟨c.channel.discard incoming, { c.line with now, queue := rest }, cancelled⟩ after) :
    Passed (a :: rest) c after := by
  rcases discard_eq c.channel incoming with ⟨staleReplies, undecodable, hdiscard⟩
  rw [hdiscard] at h
  exact ⟨h.queue.trans (List.suffix_cons a rest), h.far, h.nextSequence, h.requests⟩

theorem Waited.cons {now : Nat} {cancelled : Bool} {incoming : Incoming}
    {ended : Window × Conversation σ}
    (h : Waited pending rest
      ⟨c.channel.discard incoming, { c.line with now, queue := rest }, cancelled⟩ ended) :
    Waited pending (a :: rest) c ended := by
  cases h with
  | answered hpassed htaken hbytes =>
      exact .answered hpassed.cons (mem_taken_cons hpassed.queue htaken) hbytes
  | passed hpassed => exact .passed hpassed.cons
  | cancelled hpassed => exact .cancelled hpassed.cons
  | failed hpassed => exact .failed hpassed.cons

/-- Silence until the deadline, or until the cancellation is noticed. -/
theorem waited_awaitSilence (pending : Pending) (cancellation : Cancellation) (deadline : Nat)
    (queue : List Arrival) (c : Conversation σ) :
    Waited pending queue c
      (awaitSilence cancellation deadline { c with line := { c.line with queue } }) := by
  unfold awaitSilence
  split
  · exact .cancelled ⟨List.suffix_rfl, rfl, rfl, rfl⟩
  · exact .passed ⟨List.suffix_rfl, rfl, rfl, rfl⟩

/-- Every window ends in one of the ways. -/
theorem waited_await (pending : Pending) (cancellation : Cancellation) (deadline : Nat)
    (queue : List Arrival) (c : Conversation σ) :
    Waited pending queue c (await pending cancellation deadline queue c) := by
  -- On the queue, as the window goes through it; the conversation changes with each arrival.
  induction queue generalizing c with
  | nil =>
      unfold await
      dsimp only
      split
      · exact .cancelled ⟨List.suffix_rfl, rfl, rfl, rfl⟩
      · split
        · exact .passed ⟨List.suffix_rfl, rfl, rfl, rfl⟩
        · exact waited_awaitSilence pending cancellation deadline [] c
  | cons a rest ih =>
      unfold await
      dsimp only
      -- The window may end before the arrival: cancelled, at its deadline or in silence.
      split
      · exact .cancelled ⟨List.suffix_rfl, rfl, rfl, rfl⟩
      · split
        · exact .passed ⟨List.suffix_rfl, rfl, rfl, rfl⟩
        · split
          · exact waited_awaitSilence pending cancellation deadline (a :: rest) c
          · split
            · exact .cancelled ⟨List.suffix_rfl, rfl, rfl, rfl⟩
            · -- The arrival is received.
              split
              · exact .failed ⟨List.suffix_cons a rest, rfl, rfl, rfl⟩
              · rename_i bytes hbytes
                split
                · rename_i reply hmatching
                  have hfront : bytes ∈ taken ([a] ++ rest) rest := by
                    rw [taken_append]
                    simp [hbytes, Delivery.bytes?]
                  exact .answered ⟨List.suffix_cons a rest, rfl, rfl, rfl⟩ hfront hmatching
                · -- Not the matching reply: the window goes on with the rest.
                  exact .cons (ih _)

end Waited

/-! ## Transmissions -/

/-- The datagrams that the windows of a request take from the queue. -/
def heard (react : FarEnd σ) (pending : Pending) (datagram : List UInt8)
    (cancellation : Cancellation) : (attempt left : Nat) → Conversation σ → List (List UInt8)
  | _, 0, _ => []
  | attempt, left + 1, c =>
      let deadline := c.line.now + c.channel.roundTrip.backoff attempt
      match c.line.send react datagram with
      | (.error _, _) => []
      | (.ok (), line) =>
          match await pending cancellation deadline line.queue (c.transmitted cancellation line) with
          | (.passed, after) =>
              taken line.queue after.line.queue
                ++ heard react pending datagram cancellation (attempt + 1) left
                  { after with channel := after.channel.countTimeout }
          | (_, after) => taken line.queue after.line.queue

/-- How a request ends that keeps `I` of the far end and the queue; a reply was received. -/
structure Transacted (I : σ → List Arrival → Prop) (pending : Pending) (c : Conversation σ)
    (received : List (List UInt8)) (result : EStateM.Result LinkError (Conversation σ) Reply) :
    Prop where
  kept : I (conversationOf result).line.far (conversationOf result).line.queue
  nextSequence : (conversationOf result).channel.nextSequence = c.channel.nextSequence
  requests : (conversationOf result).channel.stats.requests = c.channel.stats.requests
  answered : ∀ reply after, result = .ok reply after → ∃ bytes ∈ received,
    classify pending (bytes.take maxFrameLength) = .matching reply
      ∧ ∃ queue, I after.line.far queue ∧ ∃ a ∈ queue, a.delivery = .datagram bytes
  unrefused : ∀ address status after, result ≠ .error (.register address status) after

theorem transacted_transact {react : FarEnd σ} {datagram : List UInt8}
    {I : σ → List Arrival → Prop}
    (hsend : ∀ line : Line σ, I line.far line.queue →
      I (line.send react datagram).2.far (line.send react datagram).2.queue)
    (hreceive : ∀ far queue rest, rest <:+ queue → I far queue → I far rest)
    (pending : Pending) (cancellation : Cancellation) (attempt left : Nat) {c : Conversation σ}
    (h : I c.line.far c.line.queue) :
    Transacted I pending c (heard react pending datagram cancellation attempt left c)
      (transact react pending datagram cancellation attempt left c) := by
  -- On the transmissions left; `I` carries from one to the next.
  induction left generalizing attempt c with
  | zero => exact ⟨h, rfl, rfl, by rintro reply after ⟨⟩, by rintro address status after ⟨⟩⟩
  | succ left ih =>
      have hsent := hsend c.line h
      unfold transact heard
      dsimp only
      cases hline : c.line.send react datagram with
      | mk result line =>
          rw [hline] at hsent
          cases result with
          | error detail =>
              exact ⟨hsent, rfl, rfl, by rintro reply after ⟨⟩, by rintro address status after ⟨⟩⟩
          | ok =>
              have hwaited := waited_await pending cancellation
                (c.line.now + c.channel.roundTrip.backoff attempt) line.queue
                (c.transmitted cancellation line)
              dsimp only
              generalize await pending cancellation
                (c.line.now + c.channel.roundTrip.backoff attempt) line.queue
                (c.transmitted cancellation line) = ended at hwaited ⊢
              -- A window leaves the far end alone and a part of the queue.
              have hkept : ∀ after : Conversation σ,
                  Passed line.queue (c.transmitted cancellation line) after →
                    I after.line.far after.line.queue := by
                intro after hpassed
                rw [hpassed.far]
                exact hreceive _ _ _ hpassed.queue hsent
              cases hwaited with
              | answered hpassed htaken hbytes =>
                  rename_i reply bytes after
                  refine ⟨hkept after hpassed, ?_, ?_, ?_, by rintro address status after ⟨⟩⟩
                  · -- The round trip of a first transmission is sampled, which counts nothing.
                    show (if attempt = 0 then _ else after.channel).nextSequence = _
                    split
                    · exact hpassed.nextSequence
                    · exact hpassed.nextSequence
                  · show (if attempt = 0 then _ else after.channel).stats.requests = _
                    split
                    · exact hpassed.requests
                    · exact hpassed.requests
                  · rintro answer final ⟨⟩
                    rcases mem_of_mem_taken htaken with ⟨a, hqueued, hdelivery⟩
                    refine ⟨bytes, htaken, hbytes, line.queue, ?_, a, hqueued, hdelivery⟩
                    show I after.line.far line.queue
                    rw [hpassed.far]
                    exact hsent
              | passed hpassed =>
                  rename_i after
                  -- The next window begins where this one ended.
                  have hrest := ih (attempt + 1)
                    (c := { after with channel := after.channel.countTimeout })
                    (hkept after hpassed)
                  refine ⟨hrest.kept, hrest.nextSequence.trans hpassed.nextSequence,
                    hrest.requests.trans hpassed.requests, ?_, hrest.unrefused⟩
                  intro reply final hok
                  rcases hrest.answered reply final hok with ⟨bytes, hheard, hanswer⟩
                  exact ⟨bytes, List.mem_append_right _ hheard, hanswer⟩
              | cancelled hpassed =>
                  exact ⟨hkept _ hpassed, hpassed.nextSequence, hpassed.requests,
                    by rintro reply after ⟨⟩, by rintro address status after ⟨⟩⟩
              | failed hpassed =>
                  exact ⟨hkept _ hpassed, hpassed.nextSequence, hpassed.requests,
                    by rintro reply after ⟨⟩, by rintro address status after ⟨⟩⟩

/-! ## Requests -/

/-- The conversation a request begins with. -/
def Conversation.begin (c : Conversation σ) (address : Address) (cancellation : Cancellation) :
    Conversation σ :=
  { c with channel := c.channel.begin address, cancelled := cancellation == .before }

/-- The request under way once it has begun. -/
def Conversation.pendingAt (c : Conversation σ) (address : Address) : Pending :=
  ⟨c.channel.nextSequence, address⟩

/-- How a request ends, from how its transmissions end: a reply that is no success is an error. -/
def concluded (address : Address) : EStateM.Result LinkError (Conversation σ) Reply →
    EStateM.Result LinkError (Conversation σ) Reply
  | .error cause after => .error cause after.settle
  | .ok reply after =>
      if reply.status.isOk then .ok reply after.settle
      else .error (.register address reply.status) after.settle

/-- A request is refused by the frame, or ends as its transmissions do. -/
theorem request_cases (react : FarEnd σ) (message : Message) (address : Address)
    (cancellation : Cancellation) (c : Conversation σ) :
    (∃ cause, Frame.encode c.channel.checksum ⟨c.channel.nextSequence, message⟩ = .error cause
        ∧ request react message address cancellation c =
          .error (.frame cause) (c.begin address cancellation).settle)
      ∨ ∃ datagram,
        Frame.encode c.channel.checksum ⟨c.channel.nextSequence, message⟩ = .ok datagram
        ∧ request react message address cancellation c =
          concluded address (transact react (c.pendingAt address) datagram cancellation 0
            c.channel.attempts (c.begin address cancellation)) := by
  unfold request
  dsimp only
  have hchecksum : (c.channel.begin address).checksum = c.channel.checksum := rfl
  rw [hchecksum]
  cases hencode : Frame.encode c.channel.checksum ⟨c.channel.nextSequence, message⟩ with
  | error cause => exact Or.inl ⟨cause, rfl, rfl⟩
  | ok datagram =>
      refine Or.inr ⟨datagram, rfl, ?_⟩
      show _ = concluded address (transact react ⟨c.channel.nextSequence, address⟩ datagram
        cancellation 0 c.channel.attempts (c.begin address cancellation))
      unfold concluded
      rfl

/-- Reading passes the request's errors on, and wants a value. -/
theorem readRegister_eq (react : FarEnd σ) (address : Address) (cancellation : Cancellation)
    (c : Conversation σ) :
    readRegister react address cancellation c =
      match request react (.registerRead address) address cancellation c with
      | .error cause after => .error cause after
      | .ok reply after =>
          match reply.value with
          | none => .error (.frame (.malformed .replyWithoutValue)) after
          | some value =>
              .ok value { after with
                channel := { after.channel with lastRead := some (address, value) } } := by
  unfold readRegister
  simp only [bind, EStateM.bind]
  cases request react (.registerRead address) address cancellation c with
  | ok reply after =>
      dsimp only
      cases reply.value with
      | none => rfl
      | some value => rfl
  | error cause after => rfl

/-- Writing passes the request's errors on, unless it is refused without one. -/
theorem writeRegister_eq (react : FarEnd σ) (address : Address) (value : Value)
    (cancellation : Cancellation) (c : Conversation σ) :
    writeRegister react address value cancellation c =
      if (descriptor? address).any fun d => d.access == .readOnly then
        .error (.register address .readOnly) { c with cancelled := cancellation == .before }
      else
        match request react (.registerWrite ⟨address, value⟩) address cancellation c with
        | .error cause after => .error cause after
        | .ok _ after => .ok () after := by
  unfold writeRegister
  cases (descriptor? address).any fun d => d.access == .readOnly with
  | true => rfl
  | false =>
      show EStateM.bind (request react (.registerWrite ⟨address, value⟩) address cancellation)
        (fun _ => pure ()) c = _
      unfold EStateM.bind
      cases request react (.registerWrite ⟨address, value⟩) address cancellation c with
      | ok reply after => rfl
      | error cause after => rfl

end Register
end ServoLink
