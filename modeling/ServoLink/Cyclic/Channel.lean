import ServoLink.LinkError
import ServoLink.Net.Line

/-!
# Cyclic channel — one control frame out, one status frame back

The drive echoes the sequence number of the control frame it answers, and only that echo completes
an exchange.  Older echoes are stale, everything else is unexpected; both are passed over while
the exchange waits for its deadline.  A missed control frame is never sent again.

* `exchange` — one exchange;
* `Channel.miss` — the accounting of a miss; the one that reaches the threshold faults the link,
  once.
-/

namespace ServoLink
namespace Cyclic

open Wire ProcessData Net

structure Stats where
  exchanges : Nat := 0
  accepted : Nat := 0
  misses : Nat := 0
  stale : Nat := 0
  unexpected : Nat := 0
  undecodable : Nat := 0
  deriving DecidableEq, Repr, Inhabited

structure Channel where
  checksum : Bool
  /-- Nanoseconds. -/
  period : Nat
  missThreshold : Nat
  nextSequence : UInt16 := 0
  lastAccepted : Option UInt16 := none
  /-- Misses since the last answer; stops at the largest 32-bit number. -/
  consecutiveMisses : Nat := 0
  linkFaulted : Bool := false
  stats : Stats := {}
  deriving DecidableEq, Repr, Inhabited

/-- A channel with the line it talks over. -/
structure Link (σ : Type) where
  channel : Channel
  line : Line σ
  deriving Repr, Inhabited

/-- `a` comes before `b` in the wrapping order of sequence numbers. -/
def isOlder (a b : UInt16) : Bool := b - a != 0 && b - a < 0x8000

/-- What a received datagram is to the exchange that waits. -/
inductive Answer where
  | accepted (status : StatusResponse)
  | stale
  | unexpected
  | undecodable
  deriving DecidableEq, Repr

def classify (sequence : UInt16) (datagram : List UInt8) : Answer :=
  match Frame.decode datagram with
  | .error _ => .undecodable
  | .ok ⟨echoed, .status status⟩ =>
      if echoed = sequence then .accepted status
      else if isOlder echoed sequence then .stale
      else .unexpected
  | .ok _ => .unexpected

namespace Channel

def new (checksum : Bool) (missThreshold : Nat) (period : Nat) : Channel :=
  { checksum, period, missThreshold := max missThreshold 1 }

/-- Takes the next sequence number and counts the exchange. -/
def begin (c : Channel) : Channel :=
  { c with
    nextSequence := c.nextSequence + 1
    stats := { c.stats with exchanges := c.stats.exchanges + 1 } }

def accept (c : Channel) (sequence : UInt16) : Channel :=
  { c with
    consecutiveMisses := 0
    lastAccepted := some sequence
    stats := { c.stats with accepted := c.stats.accepted + 1 } }

/-- Counts a datagram that does not complete the exchange. -/
def discard (c : Channel) : Answer → Channel
  | .accepted _ => c
  | .stale => { c with stats := { c.stats with stale := c.stats.stale + 1 } }
  | .unexpected => { c with stats := { c.stats with unexpected := c.stats.unexpected + 1 } }
  | .undecodable => { c with stats := { c.stats with undecodable := c.stats.undecodable + 1 } }

/-- The next miss completes the threshold and the link is not faulted yet. -/
def faultsOnMiss (c : Channel) : Bool :=
  !c.linkFaulted && c.missThreshold ≤ min (c.consecutiveMisses + 1) (UInt32.size - 1)

/-- Counts a miss; the one that reaches the threshold latches the link fault. -/
def miss (c : Channel) : Channel :=
  { c with
    consecutiveMisses := min (c.consecutiveMisses + 1) (UInt32.size - 1)
    linkFaulted := c.linkFaulted || c.faultsOnMiss
    stats := { c.stats with misses := c.stats.misses + 1 } }

/-- The error a miss is reported as. -/
def missError (c : Channel) : LinkError := if c.faultsOnMiss then .linkFaulted else .cycleMissed

/-- Forgets the link fault and the misses. -/
def resetLink (c : Channel) : Channel := { c with linkFaulted := false, consecutiveMisses := 0 }

end Channel

/-! ## Exchanges -/

variable {σ : Type}

/-- Ends an exchange that got no answer. -/
def missed (deadline : Nat) (link : Link σ) : EStateM.Result LinkError (Link σ) StatusResponse :=
  .error link.channel.missError
    ⟨link.channel.miss, { link.line with now := link.line.givesUpAt deadline }⟩

/-- Goes through the arrivals up to the deadline, looking for the echo of `sequence`. -/
def await (sequence : UInt16) (deadline : Nat) :
    (queue : List Arrival) → Link σ → EStateM.Result LinkError (Link σ) StatusResponse
  | [], link => missed deadline { link with line := { link.line with queue := [] } }
  | a :: rest, link =>
      -- What arrives after the deadline stays queued for a later exchange.
      if deadline ≤ link.line.now || deadline < a.time then
        missed deadline { link with line := { link.line with queue := a :: rest } }
      else
        let line := { link.line with now := max link.line.now a.time, queue := rest }
        match a.delivery with
        -- A socket error is no miss: it ends the exchange uncounted.
        | .failure detail => .error (.socket detail) ⟨link.channel, line⟩
        | .datagram bytes =>
            match classify sequence (bytes.take maxFrameLength) with
            | .accepted status => .ok status ⟨link.channel.accept sequence, line⟩
            | answer => await sequence deadline rest ⟨link.channel.discard answer, line⟩

/-- Sends the request and waits at most `timeout` for its status. -/
def exchange (react : FarEnd σ) (request : ControlRequest) (timeout : Nat) :
    EStateM LinkError (Link σ) StatusResponse := fun link =>
  let sequence := link.channel.nextSequence
  let channel := link.channel.begin
  match Frame.encode channel.checksum ⟨sequence, .control request⟩ with
  | .error cause => .error (.frame cause) { link with channel }
  | .ok datagram =>
      match link.line.send react datagram with
      | (.error detail, line) => .error (.socket detail) ⟨channel, line⟩
      | (.ok (), line) => await sequence (line.now + timeout) line.queue ⟨channel, line⟩

end Cyclic
end ServoLink
