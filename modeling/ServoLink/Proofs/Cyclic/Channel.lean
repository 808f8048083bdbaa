import ServoLink.Cyclic.Channel
import ServoLink.Proofs.Net.Network

/-!
# Cyclic channel — how an exchange ends

Waiting goes through a part of the queue and ends in one of three ways (`Ended`): a datagram is
accepted, the exchange is missed, or a receive fails.  Whatever it passes over on the way changes
the counters of datagrams alone (`Passed`).

* `ended_await` — every wait ends so;
* `exchange_cases` — an exchange sends its request and waits, or fails to send it.
-/

namespace ServoLink
namespace Cyclic

open Wire ProcessData Net

variable {σ : Type}

/-- The link an exchange ends with. -/
def linkOf {α : Type} : EStateM.Result LinkError (Link σ) α → Link σ
  | .ok _ link => link
  | .error _ link => link

/-- What is left alone while the front of a queue is passed over. -/
structure Passed (queue : List Arrival) (link after : Link σ) : Prop where
  queue : after.line.queue <:+ queue
  far : after.line.far = link.line.far
  sent : after.line.sent = link.line.sent
  nextSequence : after.channel.nextSequence = link.channel.nextSequence
  exchanges : after.channel.stats.exchanges = link.channel.stats.exchanges
  missThreshold : after.channel.missThreshold = link.channel.missThreshold
  consecutiveMisses : after.channel.consecutiveMisses = link.channel.consecutiveMisses
  linkFaulted : after.channel.linkFaulted = link.channel.linkFaulted

/-- The ways a wait for the echo of `sequence` ends. -/
inductive Ended (sequence : UInt16) (queue : List Arrival) (link : Link σ) :
    EStateM.Result LinkError (Link σ) StatusResponse → Prop where
  | accepted {status : StatusResponse} {bytes : List UInt8} {passed : Link σ}
      (hpassed : Passed queue link passed) (htaken : bytes ∈ taken queue passed.line.queue)
      (hbytes : classify sequence (bytes.take maxFrameLength) = .accepted status) :
      Ended sequence queue link (.ok status ⟨passed.channel.accept sequence, passed.line⟩)
  | missed {passed : Link σ} {now : Nat} (hpassed : Passed queue link passed) :
      Ended sequence queue link
        (.error passed.channel.missError ⟨passed.channel.miss, { passed.line with now }⟩)
  | failed {detail : String} {passed : Link σ} (hpassed : Passed queue link passed) :
      Ended sequence queue link (.error (.socket detail) passed)

theorem discard_eq (channel : Channel) (answer : Answer) :
    ∃ stale unexpected undecodable, channel.discard answer =
      { channel with stats := { channel.stats with stale, unexpected, undecodable } } := by
  cases answer with
  | accepted status =>
      exact ⟨channel.stats.stale, channel.stats.unexpected, channel.stats.undecodable, rfl⟩
  | stale =>
      exact ⟨channel.stats.stale + 1, channel.stats.unexpected, channel.stats.undecodable, rfl⟩
  | unexpected =>
      exact ⟨channel.stats.stale, channel.stats.unexpected + 1, channel.stats.undecodable, rfl⟩
  | undecodable =>
      exact ⟨channel.stats.stale, channel.stats.unexpected, channel.stats.undecodable + 1, rfl⟩

/-- One datagram that does not complete the exchange is passed over. -/
theorem Passed.cons {a : Arrival} {rest : List Arrival} {link after : Link σ} {now : Nat}
    {answer : Answer}
    (h : Passed rest
      ⟨link.channel.discard answer, { link.line with now, queue := rest }⟩ after) :
    Passed (a :: rest) link after := by
  rcases discard_eq link.channel answer with ⟨stale, unexpected, undecodable, hdiscard⟩
  rw [hdiscard] at h
  exact ⟨h.queue.trans (List.suffix_cons a rest), h.far, h.sent, h.nextSequence, h.exchanges,
    h.missThreshold, h.consecutiveMisses, h.linkFaulted⟩

theorem Ended.cons {sequence : UInt16} {a : Arrival} {rest : List Arrival} {link : Link σ}
    {now : Nat} {answer : Answer} {result : EStateM.Result LinkError (Link σ) StatusResponse}
    (h : Ended sequence rest
      ⟨link.channel.discard answer, { link.line with now, queue := rest }⟩ result) :
    Ended sequence (a :: rest) link result := by
  cases h with
  | accepted hpassed htaken hbytes =>
      exact .accepted hpassed.cons (mem_taken_cons hpassed.queue htaken) hbytes
  | missed hpassed => exact .missed hpassed.cons
  | failed hpassed => exact .failed hpassed.cons

/-- Every wait ends in one of the ways. -/
theorem ended_await (sequence : UInt16) (deadline : Nat) (queue : List Arrival) (link : Link σ) :
    Ended sequence queue link (await sequence deadline queue link) := by
  induction queue generalizing link with
  | nil =>
      have hpassed : Passed [] link { link with line := { link.line with queue := [] } } :=
        ⟨List.suffix_rfl, rfl, rfl, rfl, rfl, rfl, rfl, rfl⟩
      exact .missed hpassed
  | cons a rest ih =>
      unfold await
      split
      · have hpassed : Passed (a :: rest) link
            { link with line := { link.line with queue := a :: rest } } :=
          ⟨List.suffix_rfl, rfl, rfl, rfl, rfl, rfl, rfl, rfl⟩
        exact .missed hpassed
      · -- The arrival is received.
        have hreceived : Passed (a :: rest) link
            ⟨link.channel, { link.line with now := max link.line.now a.time, queue := rest }⟩ :=
          ⟨List.suffix_cons a rest, rfl, rfl, rfl, rfl, rfl, rfl, rfl⟩
        dsimp only
        split
        · exact .failed hreceived
        · rename_i bytes hbytes
          split
          · rename_i status haccepted
            have hfront : bytes ∈ taken ([a] ++ rest) rest := by
              rw [taken_append]
              simp [hbytes, Delivery.bytes?]
            exact .accepted hreceived hfront haccepted
          · exact .cons (ih _)

/-! ## Exchanges -/

/-- An exchange sends its request in one datagram and waits, unless the send fails.  A request
always fits a frame. -/
theorem exchange_cases (react : FarEnd σ) (request : ControlRequest) (timeout : Nat)
    (link : Link σ) :
    ∃ datagram, Frame.encode link.channel.checksum
        ⟨link.channel.nextSequence, .control request⟩ = .ok datagram
      ∧ ((∃ detail, (link.line.send react datagram).1 = .error detail
            ∧ exchange react request timeout link =
              .error (.socket detail) ⟨link.channel.begin, (link.line.send react datagram).2⟩)
        ∨ ((link.line.send react datagram).1 = .ok ()
            ∧ Ended link.channel.nextSequence (link.line.send react datagram).2.queue
              ⟨link.channel.begin, (link.line.send react datagram).2⟩
              (exchange react request timeout link))) := by
  have hencode := Frame.encode_eq_ok link.channel.checksum
    (f := ⟨link.channel.nextSequence, .control request⟩) (Message.wireLength_control_le request)
  refine ⟨_, hencode, ?_⟩
  unfold exchange
  simp only [hencode, Channel.begin]
  cases hsend : link.line.send react _ with
  | mk result line =>
      cases result with
      | error detail => exact Or.inl ⟨detail, rfl, rfl⟩
      | ok => exact Or.inr ⟨rfl, ended_await _ _ _ _⟩

/-- A wait sends nothing. -/
theorem Ended.sent {sequence : UInt16} {queue : List Arrival} {link : Link σ}
    {result : EStateM.Result LinkError (Link σ) StatusResponse}
    (h : Ended sequence queue link result) : (linkOf result).line.sent = link.line.sent := by
  cases h with
  | accepted hpassed _ _ => exact hpassed.sent
  | missed hpassed => exact hpassed.sent
  | failed hpassed => exact hpassed.sent

/-- A wait leaves the far end alone. -/
theorem Ended.far {sequence : UInt16} {queue : List Arrival} {link : Link σ}
    {result : EStateM.Result LinkError (Link σ) StatusResponse}
    (h : Ended sequence queue link result) : (linkOf result).line.far = link.line.far := by
  cases h with
  | accepted hpassed _ _ => exact hpassed.far
  | missed hpassed => exact hpassed.far
  | failed hpassed => exact hpassed.far

/-- The far end sees the request of an exchange, once. -/
theorem far_exchange (react : FarEnd σ) (request : ControlRequest) (timeout : Nat)
    (link : Link σ) :
    ∃ datagram, Frame.encode link.channel.checksum
        ⟨link.channel.nextSequence, .control request⟩ = .ok datagram
      ∧ (linkOf (exchange react request timeout link)).line.far =
        (react link.line.far datagram).2 := by
  rcases exchange_cases react request timeout link with
    ⟨datagram, hencode, ⟨detail, _, hfailed⟩ | ⟨_, hended⟩⟩
  · refine ⟨datagram, hencode, ?_⟩
    rw [hfailed]
    exact Line.far_send react datagram link.line
  · exact ⟨datagram, hencode, hended.far.trans (Line.far_send react datagram link.line)⟩

/-- An exchange sends its request once. -/
theorem sent_exchange (react : FarEnd σ) (request : ControlRequest) (timeout : Nat)
    (link : Link σ) :
    ∃ datagram, Frame.encode link.channel.checksum
        ⟨link.channel.nextSequence, .control request⟩ = .ok datagram
      ∧ (linkOf (exchange react request timeout link)).line.sent = datagram :: link.line.sent := by
  rcases exchange_cases react request timeout link with
    ⟨datagram, hencode, ⟨detail, _, hfailed⟩ | ⟨_, hended⟩⟩
  · refine ⟨datagram, hencode, ?_⟩
    rw [hfailed]
    exact Line.sent_send react datagram link.line
  · exact ⟨datagram, hencode, hended.sent.trans (Line.sent_send react datagram link.line)⟩

/-! ## Misses -/

/-- What an exchange makes of the count of misses and of the link fault. -/
inductive Verdict (before : Channel) :
    EStateM.Result LinkError (Link σ) StatusResponse → Prop where
  | answered {status : StatusResponse} {after : Link σ}
      (missThreshold : after.channel.missThreshold = before.missThreshold)
      (consecutiveMisses : after.channel.consecutiveMisses = 0)
      (linkFaulted : after.channel.linkFaulted = before.linkFaulted) :
      Verdict before (.ok status after)
  | missed {after : Link σ} (hfaults : before.faultsOnMiss = false)
      (missThreshold : after.channel.missThreshold = before.missThreshold)
      (consecutiveMisses : after.channel.consecutiveMisses =
        min (before.consecutiveMisses + 1) (UInt32.size - 1))
      (linkFaulted : after.channel.linkFaulted = before.linkFaulted) :
      Verdict before (.error .cycleMissed after)
  | lost {after : Link σ} (hfaults : before.faultsOnMiss)
      (missThreshold : after.channel.missThreshold = before.missThreshold)
      (consecutiveMisses : after.channel.consecutiveMisses =
        min (before.consecutiveMisses + 1) (UInt32.size - 1))
      (linkFaulted : after.channel.linkFaulted) :
      Verdict before (.error .linkFaulted after)
  | failed {detail : String} {after : Link σ} : Verdict before (.error (.socket detail) after)

theorem Ended.verdict {sequence : UInt16} {queue : List Arrival} {link : Link σ}
    {result : EStateM.Result LinkError (Link σ) StatusResponse}
    (h : Ended sequence queue link result) : Verdict link.channel result := by
  cases h with
  | accepted hpassed _ _ => exact .answered hpassed.missThreshold rfl hpassed.linkFaulted
  | missed hpassed =>
      rename_i passed now
      -- The datagrams passed over do not count.
      have hfaults : passed.channel.faultsOnMiss = link.channel.faultsOnMiss := by
        unfold Channel.faultsOnMiss
        rw [hpassed.linkFaulted, hpassed.missThreshold, hpassed.consecutiveMisses]
      have hmisses : passed.channel.miss.consecutiveMisses =
          min (link.channel.consecutiveMisses + 1) (UInt32.size - 1) := by
        rw [← hpassed.consecutiveMisses]
        rfl
      have hlatch : passed.channel.miss.linkFaulted =
          (link.channel.linkFaulted || link.channel.faultsOnMiss) := by
        rw [← hfaults, ← hpassed.linkFaulted]
        rfl
      unfold Channel.missError
      rw [hfaults]
      cases hlost : link.channel.faultsOnMiss with
      | false =>
          rw [hlost, Bool.or_false] at hlatch
          exact .missed hlost hpassed.missThreshold hmisses hlatch
      | true =>
          rw [hlost, Bool.or_true] at hlatch
          exact .lost hlost hpassed.missThreshold hmisses hlatch
  | failed hpassed => exact .failed

/-- Beginning an exchange leaves the misses alone. -/
theorem Verdict.of_begin {channel : Channel}
    {result : EStateM.Result LinkError (Link σ) StatusResponse}
    (h : Verdict channel.begin result) : Verdict channel result := by
  cases h with
  | answered hthreshold hmisses hlatch => exact .answered hthreshold hmisses hlatch
  | missed hfaults hthreshold hmisses hlatch => exact .missed hfaults hthreshold hmisses hlatch
  | lost hfaults hthreshold hmisses hlatch => exact .lost hfaults hthreshold hmisses hlatch
  | failed => exact .failed

theorem verdict_exchange (react : FarEnd σ) (request : ControlRequest) (timeout : Nat)
    (link : Link σ) : Verdict link.channel (exchange react request timeout link) := by
  rcases exchange_cases react request timeout link with
    ⟨datagram, hencode, ⟨detail, _, hfailed⟩ | ⟨_, hended⟩⟩
  · rw [hfailed]
    exact .failed
  · exact hended.verdict.of_begin

end Cyclic
end ServoLink
