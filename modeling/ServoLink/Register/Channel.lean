import ServoLink.LinkError
import ServoLink.Net.Line
import ServoLink.Register.Catalog
import ServoLink.Register.RoundTrip
import ServoLink.Settings.Basic

/-!
# Register channel — requests, retransmissions and replies

One request is under way at a time.  It is sent again, as the same datagram, each time its window
passes without the matching reply; the windows double from the round-trip estimate up to a
ceiling.  A reply matches when it carries the sequence number and the address of the request, so a
late reply to an earlier transmission still answers it and any other reply is stale.

* `readRegister`, `writeRegister` — the two accesses;
* `request` — one request with its retransmissions;
* `await` — one window.

A request can be cancelled.  It looks whether it was after every send and every receive, and while
the line is silent it looks up every `pollInterval`; so a request that was cancelled completes its
send, however long that takes, and ends with it.
-/

namespace ServoLink
namespace Register

open Wire Net

/-- How long a waiting request takes at most to notice that it was cancelled. -/
def pollInterval : Nat := 5000000

/-- When a request is cancelled. -/
inductive Cancellation where
  | never
  /-- Before the call. -/
  | before
  /-- At a time on the line's clock, whatever the request does then. -/
  | at (time : Nat)
  deriving DecidableEq, Repr, Inhabited

/-- A request that looks at `now` finds itself cancelled. -/
def Cancellation.due (c : Cancellation) (now : Nat) : Bool :=
  match c with
  | never => false
  | before => true
  | .at time => time ≤ now

structure ChannelStats where
  requests : Nat := 0
  transmissions : Nat := 0
  timeouts : Nat := 0
  staleReplies : Nat := 0
  undecodable : Nat := 0
  deriving DecidableEq, Repr, Inhabited

/-- The request under way. -/
structure Pending where
  sequence : UInt16
  address : Address
  deriving DecidableEq, Repr, Inhabited

structure Channel where
  checksum : Bool
  attempts : Nat
  roundTrip : RoundTrip
  nextSequence : UInt16 := 0
  pending : Option Pending := none
  /-- The latest register read with success. -/
  lastRead : Option (Address × Value) := none
  stats : ChannelStats := {}
  deriving DecidableEq, Repr, Inhabited

/-- A channel with its line, and whether the current request was found cancelled. -/
structure Conversation (σ : Type) where
  channel : Channel
  line : Line σ
  cancelled : Bool := false
  deriving Repr, Inhabited

/-- An action on the channel that can fail; what it did before it failed stays done. -/
abbrev Talk (σ : Type) := EStateM LinkError (Conversation σ)

namespace Channel

/-- A channel, if the bounds of its round-trip estimate are in order. -/
def new? (s : RegisterChannelSettings) : Option Channel :=
  let ns (ms : UInt64) := ms.toNat * 1000000
  (RoundTrip.new? (ns s.initialRttMs) (ns s.minRttMs) (ns s.maxBackoffMs)).map fun roundTrip =>
    { checksum := s.checksum, attempts := max s.attempts.toNat 1, roundTrip }

/-- Takes the next sequence number for a request. -/
def begin (c : Channel) (address : Address) : Channel :=
  { c with
    nextSequence := c.nextSequence + 1
    pending := some ⟨c.nextSequence, address⟩
    stats := { c.stats with requests := c.stats.requests + 1 } }

def countTransmission (c : Channel) : Channel :=
  { c with stats := { c.stats with transmissions := c.stats.transmissions + 1 } }

def countTimeout (c : Channel) : Channel :=
  { c with stats := { c.stats with timeouts := c.stats.timeouts + 1 } }

end Channel

/-! ## Waiting -/

/-- What a received datagram is to the request under way. -/
inductive Incoming where
  | matching (reply : Reply)
  | stale
  | undecodable
  deriving DecidableEq, Repr

def classify (pending : Pending) (datagram : List UInt8) : Incoming :=
  match Frame.decode datagram with
  | .error _ => .undecodable
  | .ok ⟨sequence, .registerReply reply⟩ =>
      if sequence = pending.sequence ∧ reply.address = pending.address then .matching reply
      else .stale
  | .ok _ => .stale

/-- Counts a datagram that does not answer the request. -/
def Channel.discard (c : Channel) : Incoming → Channel
  | .matching _ => c
  | .stale => { c with stats := { c.stats with staleReplies := c.stats.staleReplies + 1 } }
  | .undecodable => { c with stats := { c.stats with undecodable := c.stats.undecodable + 1 } }

/-- How a window ends. -/
inductive Window where
  | answered (reply : Reply)
  /-- It passed without the matching reply. -/
  | passed
  | cancelled
  | failed (detail : String)
  deriving DecidableEq, Repr

/-- When a silent line is next looked up from after `time`, at the earliest: the polls follow each
other from `now` on. -/
def pollAfter (now time : Nat) : Nat :=
  now + max 1 ((time - now + pollInterval - 1) / pollInterval) * pollInterval

/-- When silence from `now` on, broken at `limit`, brings a cancellation to notice: at the first
poll from its time on, the last poll coming at `deadline`. -/
def noticedInSilence (cancellation : Cancellation) (now deadline limit : Nat) : Option Nat :=
  match cancellation with
  | .at time =>
      let poll := min (pollAfter now time) deadline
      if time ≤ poll && poll < limit then some poll else none
  | .before | .never => none

variable {σ : Type}

/-- Waits until `deadline` with nothing more to come before it. -/
def awaitSilence (cancellation : Cancellation) (deadline : Nat) (c : Conversation σ) :
    Window × Conversation σ :=
  match noticedInSilence cancellation c.line.now deadline (deadline + 1) with
  | some poll =>
      (.cancelled, { c with line := { c.line with now := poll }, cancelled := true })
  | none => (.passed, { c with line := { c.line with now := deadline } })

/-- Goes through the arrivals of one window. -/
def await (pending : Pending) (cancellation : Cancellation) (deadline : Nat) :
    (queue : List Arrival) → Conversation σ → Window × Conversation σ
  | [], c =>
      let c := { c with line := { c.line with queue := [] } }
      if c.cancelled then (.cancelled, c)
      else if deadline ≤ c.line.now then (.passed, c)
      else awaitSilence cancellation deadline c
  | a :: rest, c =>
      let c := { c with line := { c.line with queue := a :: rest } }
      if c.cancelled then (.cancelled, c)
      else if deadline ≤ c.line.now then (.passed, c)
      -- The next arrival is for a later window.
      else if deadline < a.time then awaitSilence cancellation deadline c
      else
        match noticedInSilence cancellation c.line.now deadline a.time with
        | some poll =>
            (.cancelled, { c with line := { c.line with now := poll }, cancelled := true })
        | none =>
            let now := max c.line.now a.time
            let c :=
              { c with
                line := { c.line with now, queue := rest }
                cancelled := cancellation.due now }
            match a.delivery with
            | .failure detail => (.failed detail, c)
            | .datagram bytes =>
                match classify pending (bytes.take maxFrameLength) with
                | .matching reply => (.answered reply, c)
                | incoming =>
                    await pending cancellation deadline rest
                      { c with channel := c.channel.discard incoming }

/-! ## Requests -/

/-- The send of a transmission has returned; the request looks whether it was cancelled. -/
def Conversation.transmitted (c : Conversation σ) (cancellation : Cancellation) (line : Line σ) :
    Conversation σ :=
  { channel := c.channel.countTransmission, line, cancelled := cancellation.due line.now }

/-- Sends the datagram until it is answered: `left` more times, after `attempt` windows that
passed.  Only the answer to a first transmission is a sample of the round trip. -/
def transact (react : FarEnd σ) (pending : Pending) (datagram : List UInt8)
    (cancellation : Cancellation) : (attempt left : Nat) → Talk σ Reply
  | _, 0 => fun c => .error (.requestTimeout c.channel.attempts) c
  | attempt, left + 1 => fun c =>
      let sentAt := c.line.now
      let deadline := sentAt + c.channel.roundTrip.backoff attempt
      match c.line.send react datagram with
      | (.error detail, line) => .error (.socket detail) { c with line }
      | (.ok (), line) =>
          match await pending cancellation deadline line.queue (c.transmitted cancellation line) with
          | (.answered reply, c) =>
              let channel :=
                -- An answer after a retransmission may belong to either datagram.
                if attempt = 0 then
                  { c.channel with roundTrip := c.channel.roundTrip.sample (c.line.now - sentAt) }
                else c.channel
              .ok reply { c with channel }
          | (.cancelled, c) => .error .cancelled c
          | (.failed detail, c) => .error (.socket detail) c
          | (.passed, c) =>
              transact react pending datagram cancellation (attempt + 1) left
                { c with channel := c.channel.countTimeout }

/-- Ends the request under way. -/
def Conversation.settle (c : Conversation σ) : Conversation σ :=
  { c with channel := { c.channel with pending := none } }

/-- One request: a sequence number of its own, transmissions until the reply, and the drive's
refusal as an error. -/
def request (react : FarEnd σ) (message : Message) (address : Address)
    (cancellation : Cancellation) : Talk σ Reply := fun c =>
  let pending := ⟨c.channel.nextSequence, address⟩
  let c :=
    { c with channel := c.channel.begin address, cancelled := cancellation == .before }
  match Frame.encode c.channel.checksum ⟨pending.sequence, message⟩ with
  | .error cause => .error (.frame cause) c.settle
  | .ok datagram =>
      match transact react pending datagram cancellation 0 c.channel.attempts c with
      | .error cause c => .error cause c.settle
      | .ok reply c =>
          if reply.status.isOk then .ok reply c.settle
          else .error (.register address reply.status) c.settle

/-- Reads a register. -/
def readRegister (react : FarEnd σ) (address : Address) (cancellation : Cancellation) :
    Talk σ Value := do
  let reply ← request react (.registerRead address) address cancellation
  match reply.value with
  | none => throw (.frame (.malformed .replyWithoutValue))
  | some value =>
      modify fun c => { c with channel := { c.channel with lastRead := some (address, value) } }
      pure value

/-- Writes a register.  A catalogued read-only register is refused without a request. -/
def writeRegister (react : FarEnd σ) (address : Address) (value : Value)
    (cancellation : Cancellation) : Talk σ Unit :=
  if (descriptor? address).any fun d => d.access == .readOnly then fun c =>
    .error (.register address .readOnly) { c with cancelled := cancellation == .before }
  else do
    let _ ← request react (.registerWrite ⟨address, value⟩) address cancellation
    pure ()

end Register
end ServoLink
