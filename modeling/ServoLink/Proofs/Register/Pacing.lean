import ServoLink.Net.Script
import ServoLink.Proofs.Register.Exchange
import ServoLink.Proofs.Register.Tracking

/-!
# Pacing — when a register call sends, and what it leaves behind

A register call makes one request, unless it is barred or the request does not fit a frame.  How the
request ends decides how the call ends; however it does, it has used one sequence number and leaves
no request under way.

* `Call.concludes_talk` — a call ends as its transmissions do;
* `Paced` — what a call does, by what the windows of its request bring;
* `talk_paced` — every call;
* `unheard_lateReply` — a send that takes longer than its window.

A window is meant to end its backoff after the transmission, and the first matching reply that arrives
in it to end the call.  But the window is counted from before the send, and nothing is received once
it has passed: a reply that arrives in it is heard in it if and only if the send has returned by then
(`Transmits.punctual`).
-/

namespace ServoLink
namespace Register

open Wire Net Drive

variable {σ : Type}

/-! ## Calls -/

namespace Call

/-- What a call makes of the reply to its request. -/
def outcome (call : Call) (reply : Reply) : Except LinkError Value :=
  if reply.status.isOk then
    match call.access with
    | .read _ => reply.value.elim (.error (.frame (.malformed .replyWithoutValue))) .ok
    | .write _ value => .ok value
  else .error (.register call.access.address reply.status)

/-- The request of a call, once its datagram is made. -/
def exchange (call : Call) (react : FarEnd σ) (datagram : List UInt8) (c : Conversation σ) :
    Exchange σ :=
  { react
    datagram
    pending := c.pendingAt call.access.address
    roundTrip := c.channel.roundTrip
    line := c.line }

/-- A call ends as its transmissions do; besides, it ends the request and notes what it read. -/
structure Concludes (call : Call)
    (transacted : EStateM.Result LinkError (Conversation σ) Reply)
    (result : EStateM.Result LinkError (Conversation σ) Value) : Prop where
  outcome : outcomeOf result = (outcomeOf transacted).bind call.outcome
  line : (conversationOf result).line = (conversationOf transacted).line
  channel : ∃ lastRead, (conversationOf result).channel =
    { (conversationOf transacted).channel with pending := none, lastRead }

variable {react : FarEnd σ} {call : Call} {c : Conversation σ}

/-- A reply makes a call fail by its status, or by the lack of a value to read. -/
theorem outcome_eq_error {reply : Reply} {cause : LinkError}
    (h : call.outcome reply = .error cause) :
    cause = .frame (.malformed .replyWithoutValue)
      ∨ cause = .register call.access.address reply.status := by
  rcases call with ⟨access, cancellation, pause⟩
  unfold outcome at h
  split at h
  · cases access with
    | write address value => cases h
    | read address =>
        left
        cases hvalue : reply.value with
        | some value =>
            rw [hvalue] at h
            cases h
        | none =>
            rw [hvalue] at h
            exact (Except.error.inj h).symm
  · exact Or.inr (Except.error.inj h).symm

theorem concluded_of_isOk {address : Address} {reply : Reply} (h : reply.status.isOk) :
    concluded address (.ok reply c) = .ok reply c.settle := if_pos h

theorem concluded_of_not_isOk {address : Address} {reply : Reply} (h : ¬ reply.status.isOk) :
    concluded address (.ok reply c) = .error (.register address reply.status) c.settle := if_neg h

/-- A call that is barred sends nothing. -/
theorem talk_of_barred (h : call.access.barred) :
    call.talk react c =
      .error (.register call.access.address .readOnly)
        { c with cancelled := call.cancellation == .before } := by
  rcases call with ⟨access, cancellation, pause⟩
  cases access with
  | read address => cases h
  | write address value =>
      have hbarred : ((descriptor? address).any fun d => d.access == .readOnly) = true := h
      unfold talk
      dsimp only
      rw [writeRegister_eq, if_pos hbarred]
      rfl

/-- What a call makes of how its request ends; it notes what it has read. -/
def finish (call : Call) :
    EStateM.Result LinkError (Conversation σ) Reply →
      EStateM.Result LinkError (Conversation σ) Value
  | .error cause after => .error cause after
  | .ok reply after =>
      match call.access with
      | .write _ value => .ok value after
      | .read address =>
          match reply.value with
          | none => .error (.frame (.malformed .replyWithoutValue)) after
          | some value =>
              .ok value
                { after with channel := { after.channel with lastRead := some (address, value) } }

/-- A call that is not barred makes one request. -/
theorem talk_of_not_barred (react : FarEnd σ) (h : call.access.barred = false)
    (c : Conversation σ) :
    call.talk react c = call.finish
      (request react call.access.message call.access.address call.cancellation c) := by
  rcases call with ⟨access, cancellation, pause⟩
  unfold talk
  cases access with
  | read address =>
      dsimp only [MapAccess.message, MapAccess.address]
      rw [readRegister_eq]
      cases request react (.registerRead address) address cancellation c with
      | error cause after => rfl
      | ok reply after => rfl
  | write address value =>
      have hopen : ¬ ((descriptor? address).any fun d => d.access == .readOnly) = true :=
        Bool.eq_false_iff.1 h
      dsimp only [MapAccess.message, MapAccess.address]
      rw [writeRegister_eq, if_neg hopen]
      cases request react (.registerWrite ⟨address, value⟩) address cancellation c with
      | error cause after => rfl
      | ok reply after => rfl

/-- A call whose request does not fit a frame sends nothing, but uses a sequence number. -/
theorem talk_of_encode_error (h : call.access.barred = false) {cause : FrameError}
    (hencode : Frame.encode c.channel.checksum ⟨c.channel.nextSequence, call.access.message⟩ =
      .error cause) :
    call.talk react c =
      .error (.frame cause) (c.begin call.access.address call.cancellation).settle := by
  have hchecksum : (c.channel.begin call.access.address).checksum = c.channel.checksum := rfl
  rw [talk_of_not_barred react h]
  unfold request
  dsimp only
  rw [hchecksum, hencode]
  rfl

theorem concludes_finish (call : Call)
    (transacted : EStateM.Result LinkError (Conversation σ) Reply) :
    call.Concludes transacted (call.finish (concluded call.access.address transacted)) := by
  cases transacted with
  | error cause after => exact ⟨rfl, rfl, after.channel.lastRead, rfl⟩
  | ok reply after =>
      by_cases hok : reply.status.isOk
      · rw [concluded_of_isOk hok]
        rcases call with ⟨access, cancellation, pause⟩
        cases access with
        | write address value => exact ⟨(if_pos hok).symm, rfl, after.channel.lastRead, rfl⟩
        | read address =>
            rcases reply with ⟨echoed, status, value⟩
            -- A reply without a value is an error, and nothing is noted.
            cases value with
            | none => exact ⟨(if_pos hok).symm, rfl, after.channel.lastRead, rfl⟩
            | some value => exact ⟨(if_pos hok).symm, rfl, some (address, value), rfl⟩
      · rw [concluded_of_not_isOk hok]
        exact ⟨(if_neg hok).symm, rfl, after.channel.lastRead, rfl⟩

/-- Any other call ends as its transmissions do. -/
theorem concludes_talk (react : FarEnd σ) (h : call.access.barred = false) {datagram : List UInt8}
    (hencode : Frame.encode c.channel.checksum ⟨c.channel.nextSequence, call.access.message⟩ =
      .ok datagram) :
    call.Concludes
      (transact react (c.pendingAt call.access.address) datagram call.cancellation 0
        c.channel.attempts (c.begin call.access.address call.cancellation))
      (call.talk react c) := by
  rw [talk_of_not_barred react h]
  rcases request_cases react call.access.message call.access.address call.cancellation c with
    ⟨cause, hfailed, -⟩ | ⟨made, hmade, hrequest⟩
  · rw [hencode] at hfailed
    cases hfailed
  · obtain rfl : datagram = made := Except.ok.inj (hencode.symm.trans hmade)
    rw [hrequest]
    exact concludes_finish call _

end Call

/-- What a call has used: transmissions of its datagram, windows that passed, and the estimate it
leaves behind. -/
structure Used (datagram : List UInt8) (c after : Conversation σ) (transmissions timeouts : Nat)
    (roundTrip : RoundTrip) : Prop where
  sent : after.line.sent = List.replicate transmissions datagram ++ c.line.sent
  transmissions : after.channel.stats.transmissions = c.channel.stats.transmissions + transmissions
  timeouts : after.channel.stats.timeouts = c.channel.stats.timeouts + timeouts
  roundTrip : after.channel.roundTrip = roundTrip

/-- The call ends with the reply after so many transmissions. -/
structure EndsWith (e : Exchange σ) (call : Call) (c : Conversation σ) (reply : Reply)
    (transmissions : Nat) (result : EStateM.Result LinkError (Conversation σ) Value) : Prop where
  outcome : outcomeOf result = call.outcome reply
  sent : (conversationOf result).line.sent =
    List.replicate transmissions e.datagram ++ c.line.sent

/-- What a call does whose request fits a frame. -/
structure Transmits (e : Exchange σ) (call : Call) (c : Conversation σ)
    (result : EStateM.Result LinkError (Conversation σ) Value) : Prop where
  /-- Every transmission is of the one datagram and comes after unanswered windows only. -/
  repeated : ∃ n ≤ c.channel.attempts,
    (conversationOf result).line.sent = List.replicate n e.datagram ++ c.line.sent
      ∧ ∀ i, i + 1 < n → e.Unanswered i
  /-- The matching reply ends the call when it is received, unless a cancellation is due by then. -/
  answered : ∀ i a reply, i < c.channel.attempts → (∀ j < i, e.Unanswered j) →
    e.AnsweredBy i a reply → call.cancellation.due a.time = false →
      outcomeOf result = call.outcome reply ∧ (conversationOf result).line.now = a.time
        ∧ Used e.datagram c (conversationOf result) (i + 1) i
          (if i = 0 then c.channel.roundTrip.sample (a.time - c.line.now)
          else c.channel.roundTrip)
  /-- A matching reply that arrives before the end of a window, with nothing before it that decides the
  request, ends the call with that window if and only if the send has returned before its end. -/
  punctual : Ordered c.line.queue → ∀ i a reply, i < c.channel.attempts →
    (∀ j < i, e.Unanswered j) → e.ArrivesBy i a reply →
      call.cancellation.due (max (e.opened i).now a.time) = false →
        (EndsWith e call c reply (i + 1) result ↔ (e.opened i).now < e.deadline i)
  /-- A call that is cancelled when a send returns ends with it. -/
  cancelled : ∀ i, i < c.channel.attempts →
    (∀ j < i, e.Unanswered j ∧ call.cancellation.due (e.sending (j + 1)).now = false) →
      ((e.sending i).send e.react e.datagram).1 = .ok () →
        call.cancellation.due (e.opened i).now →
          outcomeOf result = .error .cancelled ∧ (conversationOf result).line = e.opened i
            ∧ Used e.datagram c (conversationOf result) (i + 1) i c.channel.roundTrip
  /-- A call all of whose windows pass unanswered times out with the last of them. -/
  exhausted : (∀ i < c.channel.attempts, e.Unanswered i) →
    call.cancellation.due (e.sending c.channel.attempts).now = false →
      outcomeOf result = .error (.requestTimeout c.channel.attempts)
        ∧ (conversationOf result).line = e.sending c.channel.attempts
        ∧ Used e.datagram c (conversationOf result) c.channel.attempts c.channel.attempts
          c.channel.roundTrip
  /-- Only the reply to the first transmission moves the estimate. -/
  measured : (conversationOf result).channel.roundTrip = c.channel.roundTrip
    ∨ ∃ a reply, e.AnsweredBy 0 a reply ∧ (conversationOf result).channel.roundTrip =
        c.channel.roundTrip.sample (a.time - c.line.now)

/-- What a register call does, from the state of its channel and the line. -/
structure Paced (react : FarEnd σ) (call : Call) (c : Conversation σ)
    (result : EStateM.Result LinkError (Conversation σ) Value) : Prop where
  /-- A write to a catalogued read-only register is refused with nothing sent or counted. -/
  barred : call.access.barred → result =
    .error (.register call.access.address .readOnly)
      { c with cancelled := call.cancellation == .before }
  /-- Any other call uses one sequence number and leaves no request under way, however it ends. -/
  numbered : call.access.barred = false →
    (conversationOf result).channel.nextSequence = c.channel.nextSequence + 1
      ∧ (conversationOf result).channel.pending = none
      ∧ (conversationOf result).channel.stats.requests = c.channel.stats.requests + 1
  unsent : call.access.barred = false → ∀ cause,
    Frame.encode c.channel.checksum ⟨c.channel.nextSequence, call.access.message⟩ = .error cause →
      outcomeOf result = .error (.frame cause) ∧ (conversationOf result).line = c.line
        ∧ (conversationOf result).channel.roundTrip = c.channel.roundTrip
  transmits : call.access.barred = false → ∀ datagram,
    Frame.encode c.channel.checksum ⟨c.channel.nextSequence, call.access.message⟩ = .ok datagram →
      Transmits (call.exchange react datagram c) call c result

section Paced

variable {react : FarEnd σ} {call : Call} {c : Conversation σ} {e : Exchange σ}

/-- What the transmissions of a call leave behind is what the call leaves behind. -/
theorem Call.Concludes.leaves {datagram : List UInt8} {cancellation : Cancellation}
    {address : Address} {sends transmissions timeouts : Nat} {roundTrip : RoundTrip}
    {transacted : EStateM.Result LinkError (Conversation σ) Reply}
    {result : EStateM.Result LinkError (Conversation σ) Value}
    (h : call.Concludes transacted result)
    (hspent : Spent (call.exchange react datagram c) (c.begin address cancellation)
      (conversationOf transacted) sends transmissions timeouts roundTrip) :
    (conversationOf result).line.sent = List.replicate sends datagram ++ c.line.sent
      ∧ ∃ lastRead staleReplies undecodable, (conversationOf result).channel =
        { c.channel with
          roundTrip
          nextSequence := c.channel.nextSequence + 1
          pending := none
          lastRead
          stats :=
            { requests := c.channel.stats.requests + 1
              transmissions := c.channel.stats.transmissions + transmissions
              timeouts := c.channel.stats.timeouts + timeouts
              staleReplies
              undecodable } } := by
  rcases h.channel with ⟨lastRead, hchannel⟩
  rcases hspent.channel with ⟨staleReplies, undecodable, hcounted⟩
  refine ⟨(congrArg (·.sent) h.line).trans hspent.sent, lastRead, staleReplies, undecodable, ?_⟩
  rw [hchannel, hcounted]
  rfl

/-- The transmissions of a call take one of the courses. -/
theorem Call.course (call : Call) (react : FarEnd σ) (datagram : List UInt8)
    (c : Conversation σ) :
    Course (call.exchange react datagram c) call.cancellation
      (c.begin call.access.address call.cancellation) c.channel.attempts
      (transact react (c.pendingAt call.access.address) datagram call.cancellation 0
        c.channel.attempts (c.begin call.access.address call.cancellation)) := by
  have hreached : Reached (call.exchange react datagram c) call.cancellation
      (c.begin call.access.address call.cancellation) 0
      (c.begin call.access.address call.cancellation) := by
    exact ⟨rfl, .refl _, by rintro j ⟨⟩, by rintro j ⟨⟩⟩
  have hcourse := course_transact hreached c.channel.attempts
  rw [Nat.zero_add] at hcourse
  exact hcourse

section Concludes

variable {datagram : List UInt8}
variable {transacted : EStateM.Result LinkError (Conversation σ) Reply}
variable {result : EStateM.Result LinkError (Conversation σ) Value}

theorem Call.Concludes.used (h : call.Concludes transacted result) {sends timeouts : Nat}
    {roundTrip : RoundTrip}
    (hspent : Spent (call.exchange react datagram c)
      (c.begin call.access.address call.cancellation) (conversationOf transacted) sends sends
      timeouts roundTrip) :
    Used datagram c (conversationOf result) sends timeouts roundTrip := by
  rcases h.leaves hspent with ⟨hsent, lastRead, staleReplies, undecodable, hchannel⟩
  refine ⟨hsent, ?_, ?_, ?_⟩
  · rw [hchannel]
  · rw [hchannel]
  · rw [hchannel]

/-- A call does not end with a reply to windows that passed. -/
theorem Call.Concludes.not_endsWith (h : call.Concludes transacted result)
    (hcourse : Course (call.exchange react datagram c) call.cancellation
      (c.begin call.access.address call.cancellation) c.channel.attempts transacted) {i : Nat}
    (hall : ∀ j ≤ i, (call.exchange react datagram c).Unanswered j) {reply : Reply} :
    ¬ EndsWith (call.exchange react datagram c) call c reply (i + 1) result := by
  rintro ⟨houtcome, hsent⟩
  cases transacted with
  | ok answer after =>
      -- A later window has heard a reply, after more transmissions.
      rcases hcourse.lt_of_ok hall with ⟨k, hk, roundTrip, hspent⟩
      have hlengths := congrArg List.length ((h.leaves hspent).1.symm.trans hsent)
      simp only [List.length_append, List.length_replicate] at hlengths
      omega
  | error cause after =>
      have herror : call.outcome reply = .error cause := houtcome.symm.trans h.outcome
      rcases Call.outcome_eq_error herror with rfl | rfl
      · cases hcourse
      · cases hcourse

theorem Call.Concludes.transmits (h : call.Concludes transacted result)
    (hcourse : Course (call.exchange react datagram c) call.cancellation
      (c.begin call.access.address call.cancellation) c.channel.attempts transacted) :
    Transmits (call.exchange react datagram c) call c result where
  repeated := by
    rcases hcourse.counted with ⟨n, hn, _, _, _, hspent, hunanswered, -⟩
    exact ⟨n, hn, (h.leaves hspent).1, hunanswered⟩
  answered := by
    intro i a reply hi hbefore hanswered hdue
    rcases hcourse.of_answered hi hbefore hanswered hdue with ⟨houtcome, hnow, hspent⟩
    refine ⟨?_, ?_, h.used hspent⟩
    · rw [h.outcome, houtcome]
      rfl
    · rw [h.line]
      exact hnow
  punctual := by
    intro hordered i a reply hi hbefore harrives hdue
    refine ⟨fun hends => ?_, fun hopen => ?_⟩
    · by_contra hlate
      have hpassed := harrives.unanswered (Nat.le_of_not_lt hlate)
      refine h.not_endsWith hcourse (fun j hj => ?_) hends
      rcases Nat.lt_or_eq_of_le hj with hearlier | rfl
      · exact hbefore j hearlier
      · exact hpassed
    · have hanswered := harrives.answeredBy hordered hopen
      rcases hcourse.of_answered hi hbefore hanswered hdue with ⟨houtcome, -, hspent⟩
      refine ⟨?_, (h.leaves hspent).1⟩
      rw [h.outcome, houtcome]
      rfl
  cancelled := by
    intro i hi hbefore hsent hdue
    rcases hcourse.of_cancelled hi (fun j hj => (hbefore j hj).1) (fun j hj => (hbefore j hj).2)
      hsent hdue with ⟨houtcome, hline, hspent⟩
    refine ⟨?_, h.line.trans hline, h.used hspent⟩
    rw [h.outcome, houtcome]
    rfl
  exhausted := by
    intro hall hdue
    rcases hcourse.of_exhausted hall hdue with ⟨houtcome, hline, hspent⟩
    refine ⟨?_, h.line.trans hline, h.used hspent⟩
    rw [h.outcome, houtcome]
    rfl
  measured := by
    rcases hcourse.counted with ⟨n, hn, _, _, _, hspent, -, hestimate⟩
    rcases (h.leaves hspent).2 with ⟨lastRead, staleReplies, undecodable, hchannel⟩
    rw [hchannel]
    exact hestimate

end Concludes

/-- A call that is not barred uses one sequence number and leaves no request under way. -/
theorem Call.numbered_talk (react : FarEnd σ) (call : Call) (c : Conversation σ)
    (hopen : call.access.barred = false) :
    (conversationOf (call.talk react c)).channel.nextSequence = c.channel.nextSequence + 1
      ∧ (conversationOf (call.talk react c)).channel.pending = none
      ∧ (conversationOf (call.talk react c)).channel.stats.requests
        = c.channel.stats.requests + 1 := by
  cases hencode : Frame.encode c.channel.checksum
      ⟨c.channel.nextSequence, call.access.message⟩ with
  | error cause =>
      rw [Call.talk_of_encode_error hopen hencode]
      exact ⟨rfl, rfl, rfl⟩
  | ok datagram =>
      have hconcludes := Call.concludes_talk react hopen hencode
      rcases (call.course react datagram c).counted with
        ⟨sends, -, transmissions, timeouts, roundTrip, hspent, -⟩
      rcases (hconcludes.leaves hspent).2 with ⟨lastRead, staleReplies, undecodable, hchannel⟩
      rw [hchannel]
      exact ⟨rfl, rfl, rfl⟩

/-- For every far end, every state of the channel and the line and every cancellation: what a
register call does. -/
theorem talk_paced (react : FarEnd σ) (call : Call) (c : Conversation σ) :
    Paced react call c (call.talk react c) where
  barred := Call.talk_of_barred
  numbered := call.numbered_talk react c
  unsent := by
    intro hopen cause hencode
    rw [Call.talk_of_encode_error hopen hencode]
    exact ⟨rfl, rfl, rfl⟩
  transmits := by
    intro hopen datagram hencode
    have hconcludes := Call.concludes_talk react hopen hencode
    have hcourse := call.course react datagram c
    exact hconcludes.transmits hcourse

end Paced

/-! ## Stalled sends -/

/-- A request on two windows, of 10 and 20 ms. -/
def patient : Channel :=
  { checksum := false, attempts := 2, roundTrip := ⟨10000000, 1000000, 40000000⟩ }

def asking : Call := { access := .read ⟨0x2001, 0⟩ }

/-- The reply to the first transmission comes after 15 ms; the second send takes some time. -/
def lateReply (stall : Nat) : Conversation Script :=
  { channel := patient
    line := { far :=
      [{ replies := [(15000000, .frame
          { sequence := none
            offset := 0
            message := .registerReply ⟨⟨0x2001, 0⟩, .ok, some (.uint32 42)⟩ })] },
       { stall }] } }

def askingDatagram : List UInt8 := [0x02, 0x10, 0x00, 0x00, 0x03, 0x00, 0x01, 0x20, 0x00]

def lateAnswer : List UInt8 :=
  [0x02, 0x12, 0x00, 0x00, 0x09, 0x00, 0x01, 0x20, 0x00, 0x00, 0x05, 0x2A, 0x00, 0x00, 0x00]

/-- The second window is open from 10 to 30 ms, and the matching reply arrives in it; but its send
returns after 40 ms, when the window has passed, and the call times out. -/
theorem unheard_lateReply :
    Frame.encode patient.checksum ⟨patient.nextSequence, asking.access.message⟩ =
        .ok askingDatagram
      ∧ (asking.exchange Script.react askingDatagram (lateReply 30000000)).Unanswered 0
      ∧ ((asking.exchange Script.react askingDatagram (lateReply 30000000)).sending 1).now = 10000000
      ∧ (asking.exchange Script.react askingDatagram (lateReply 30000000)).ArrivesBy 1
        ⟨15000000, .datagram lateAnswer⟩ ⟨⟨0x2001, 0⟩, .ok, some (.uint32 42)⟩
      ∧ outcomeOf (asking.talk Script.react (lateReply 30000000)) =
        .error (.requestTimeout 2) :=
  ⟨by decide +kernel, by decide +kernel, by decide +kernel,
    ⟨by decide +kernel, by decide +kernel, by decide +kernel, lateAnswer, rfl, by decide +kernel⟩,
    by decide +kernel⟩

/-- A send that takes no time leaves the reply to be received. -/
example : outcomeOf (asking.talk Script.react (lateReply 0)) = .ok (.uint32 42) := by
  decide +kernel

/-- A call that is cancelled while its second send is stalled ends with that send. -/
example : outcomeOf ({ asking with cancellation := .at 12000000 }.talk Script.react
    (lateReply 4000000)) = .error .cancelled := by
  decide +kernel

end Register
end ServoLink
