import ServoLink.Proofs.Cyclic.Channel
import ServoLink.Proofs.Drive.Simulated

/-!
# Attribution — whose answer an exchange accepts

A channel makes exchanges over a network that loses, repeats, delays and reorders datagrams in both
directions and brings in noise.  A status frame can come from any exchange made so far, also from
one 65536 exchanges ago that had the same sequence number.  If no frame is that late, the one an
exchange accepts answers the control frame of that exchange.

* `Call.run` — a run of exchanges;
* `Tracked` — what holds of the channel and the network throughout it;
* `own_answer_of_ok` — an accepted status is an answer to the exchange's own control frame.
-/

namespace ServoLink
namespace Cyclic

open Wire ProcessData Net Drive

/-- An accepted datagram is a status frame that echoes the exchange. -/
theorem decode_of_classify {sequence : UInt16} {bytes : List UInt8} {status : StatusResponse}
    (h : classify sequence (bytes.take maxFrameLength) = .accepted status) :
    Frame.decode (bytes.take maxFrameLength) = .ok ⟨sequence, .status status⟩
      ∧ isStatus bytes := by
  unfold classify at h
  unfold isStatus
  split at h
  · cases h
  · rename_i echoed told hdecode
    split at h
    · rename_i hsame
      cases h
      exact ⟨hsame ▸ hdecode, by rw [hdecode]⟩
    · split at h <;> cases h
  · cases h

/-! ## Runs -/

/-- An exchange made after a pause. -/
structure Call where
  request : ControlRequest
  timeout : Nat
  pause : Nat := 0

/-- A channel with nothing under way on the network to the drive. -/
def connect {δ : Type} (channel : Channel) (earliness : Nat) (drive : δ) (plans : List Plan) :
    Link (Network δ) :=
  ⟨channel, { earliness, far := { drive, plans } }⟩

namespace Call

variable {δ : Type} (server : Server isStatus δ)

/-- The link a call begins on; exchanges are numbered as the channel counts them. -/
def begin (call : Call) (link : Link (Network δ)) : Link (Network δ) :=
  { link with
    line :=
      { link.line.sleep call.pause with far := link.line.far.begin link.channel.stats.exchanges } }

def make (call : Call) (link : Link (Network δ)) :
    EStateM.Result LinkError (Link (Network δ)) StatusResponse :=
  exchange server.react call.request call.timeout (call.begin link)

/-- The datagrams that the exchange receives. -/
def received (call : Call) (link : Link (Network δ)) : List (List UInt8) :=
  match Frame.encode link.channel.checksum
      ⟨link.channel.nextSequence, .control call.request⟩ with
  | .error _ => []
  | .ok datagram =>
      match (call.begin link).line.send server.react datagram with
      | (.error _, _) => []
      | (.ok (), line) => taken line.queue (linkOf (call.make server link)).line.queue

def run (calls : List Call) (link : Link (Network δ)) : Link (Network δ) :=
  calls.foldl (fun link call => linkOf (call.make server link)) link

end Call

/-! ## The invariant -/

/-- The channel and the network number the exchanges alike, and whatever is under way carries the
sequence number of its exchange. -/
structure Tracked {δ : Type} (base : UInt16) (link : Link (Network δ)) : Prop where
  nextSequence : link.channel.nextSequence = base + .ofNat link.channel.stats.exchanges
  number : link.line.far.number ≤ link.channel.stats.exchanges
  sequenced : link.line.far.Sequenced isStatus base
  traced : link.line.far.Traced isStatus link.line.queue

section Tracked

variable {δ : Type} (server : Server isStatus δ) {base : UInt16} {link : Link (Network δ)}

theorem tracked_connect (channel : Channel) (earliness : Nat) (drive : δ) (plans : List Plan) :
    Tracked (channel.nextSequence - .ofNat channel.stats.exchanges)
      (connect channel earliness drive plans) where
  nextSequence := (UInt16.sub_add_cancel _ _).symm
  number := Nat.zero_le _
  sequenced := ⟨by rintro _ ⟨⟩, by rintro _ ⟨⟩⟩
  traced := by rintro _ ⟨⟩

theorem Tracked.begin (h : Tracked base link) (call : Call) : Tracked base (call.begin link) where
  nextSequence := h.nextSequence
  number := Nat.le_refl _
  sequenced := h.sequenced.begin h.number
  traced := h.traced

/-- The channel as it is once the request is on its way. -/
theorem Tracked.send (h : Tracked base link) {call : Call} {datagram : List UInt8}
    (hencode : Frame.encode link.channel.checksum
      ⟨link.channel.nextSequence, .control call.request⟩ = .ok datagram) :
    Tracked base ⟨link.channel.begin,
      ((call.begin link).line.send server.react datagram).2⟩ := by
  have hbegun := h.begin call
  have hstamped : Network.Stamped base ⟨(call.begin link).line.far.number, datagram⟩ := by
    intro frame hframe
    have hwhole : datagram.take maxFrameLength = datagram := Frame.take_of_encode hencode
    have hdecode : Frame.decode datagram = .ok frame := by
      rw [← hwhole]
      exact hframe
    exact (Frame.sequence_of_decode_encode hencode hdecode).trans h.nextSequence
  refine ⟨Network.sequence_succ h.nextSequence, ?_, ?_, hbegun.traced.send datagram⟩
  · rw [Line.far_send, Network.number_react]
    exact Nat.le_succ _
  · rw [Line.far_send]
    exact hbegun.sequenced.react hstamped

/-- Passing over arrivals keeps the invariant, and so does what ends an exchange. -/
theorem Tracked.of_passed {queue : List Arrival} {after passed : Link (Network δ)}
    (h : Tracked base link) (hqueue : queue ⊆ link.line.queue) (hpassed : Passed queue link passed)
    (hsequence : after.channel.nextSequence = passed.channel.nextSequence)
    (hexchanges : after.channel.stats.exchanges = passed.channel.stats.exchanges)
    (hfar : after.line.far = passed.line.far) (hleft : after.line.queue = passed.line.queue) :
    Tracked base after where
  nextSequence := by
    rw [hsequence, hexchanges, hpassed.nextSequence, hpassed.exchanges]
    exact h.nextSequence
  number := by
    rw [hfar, hexchanges, hpassed.far, hpassed.exchanges]
    exact h.number
  sequenced := by
    rw [hfar, hpassed.far]
    exact h.sequenced
  traced := by
    rw [hfar, hleft, hpassed.far]
    exact h.traced.of_subset (List.Subset.trans hpassed.queue.subset hqueue)

theorem Tracked.ended (h : Tracked base link) {sequence : UInt16}
    {result : EStateM.Result LinkError (Link (Network δ)) StatusResponse}
    (hended : Ended sequence link.line.queue link result) : Tracked base (linkOf result) := by
  have hqueue := List.Subset.refl link.line.queue
  cases hended with
  | accepted hpassed _ _ => exact h.of_passed hqueue hpassed rfl rfl rfl rfl
  | missed hpassed => exact h.of_passed hqueue hpassed rfl rfl rfl rfl
  | failed hpassed => exact h.of_passed hqueue hpassed rfl rfl rfl rfl

theorem Tracked.make (h : Tracked base link) (call : Call) :
    Tracked base (linkOf (call.make server link)) := by
  rcases exchange_cases server.react call.request call.timeout (call.begin link) with
    ⟨datagram, hencode, ⟨detail, _, hfailed⟩ | ⟨_, hended⟩⟩
  · have hsent := h.send server hencode
    unfold Call.make
    rw [hfailed]
    exact hsent
  · exact (h.send server hencode).ended hended

/-- The invariant holds throughout every run. -/
theorem Tracked.run (h : Tracked base link) (calls : List Call) :
    Tracked base (Call.run server calls link) := by
  induction calls generalizing link with
  | nil => exact h
  | cons call rest ih => exact ih (h.make server call)

/-! ## Counting -/

theorem Ended.exchanges {queue : List Arrival} {sequence : UInt16}
    {result : EStateM.Result LinkError (Link (Network δ)) StatusResponse}
    (h : Ended sequence queue link result) :
    (linkOf result).channel.stats.exchanges = link.channel.stats.exchanges
      ∧ (linkOf result).line.far = link.line.far := by
  cases h with
  | accepted hpassed _ _ => exact ⟨hpassed.exchanges, hpassed.far⟩
  | missed hpassed => exact ⟨hpassed.exchanges, hpassed.far⟩
  | failed hpassed => exact ⟨hpassed.exchanges, hpassed.far⟩

/-- Every exchange is counted, and the network knows its number. -/
theorem exchanges_make (call : Call) (link : Link (Network δ)) :
    (linkOf (call.make server link)).channel.stats.exchanges = link.channel.stats.exchanges + 1
      ∧ (linkOf (call.make server link)).line.far.number = link.channel.stats.exchanges := by
  rcases exchange_cases server.react call.request call.timeout (call.begin link) with
    ⟨datagram, hencode, ⟨detail, _, hfailed⟩ | ⟨_, hended⟩⟩
  · unfold Call.make
    rw [hfailed]
    refine ⟨rfl, ?_⟩
    show ((call.begin link).line.send server.react datagram).2.far.number = _
    rw [Line.far_send, Network.number_react]
    rfl
  · rcases hended.exchanges with ⟨hexchanges, hfar⟩
    refine ⟨hexchanges, ?_⟩
    unfold Call.make
    rw [hfar]
    show ((call.begin link).line.send server.react datagram).2.far.number = _
    rw [Line.far_send, Network.number_react]
    rfl

theorem exchanges_run (calls : List Call) (link : Link (Network δ)) :
    (Call.run server calls link).channel.stats.exchanges =
      link.channel.stats.exchanges + calls.length := by
  induction calls generalizing link with
  | nil => rfl
  | cons call rest ih =>
      have hfirst := (exchanges_make server call link).1
      have hrest := ih (linkOf (call.make server link))
      calc (Call.run server rest (linkOf (call.make server link))).channel.stats.exchanges
          = link.channel.stats.exchanges + 1 + rest.length := by rw [hrest, hfirst]
        _ = link.channel.stats.exchanges + (call :: rest).length := by
            rw [List.length_cons]
            omega

/-! ## Accepted answers -/

/-- An accepted status was received in the exchange, and the drive gave it. -/
theorem Tracked.received (h : Tracked base link) {call : Call} {status : StatusResponse}
    {after : Link (Network δ)} (hok : call.make server link = .ok status after) :
    ∃ bytes ∈ call.received server link,
      Frame.decode (bytes.take maxFrameLength) =
          .ok ⟨link.channel.nextSequence, .status status⟩
        ∧ isStatus bytes ∧ ∃ x ∈ after.line.far.answers, x.datagram = bytes := by
  rcases exchange_cases server.react call.request call.timeout (call.begin link) with
    ⟨datagram, hencode, ⟨detail, _, hfailed⟩ | ⟨hsend, hended⟩⟩
  · have hnever := hfailed.symm.trans hok
    cases hnever
  · have hreceived : call.received server link =
        taken ((call.begin link).line.send server.react datagram).2.queue after.line.queue := by
      have hencode' : Frame.encode link.channel.checksum
          ⟨link.channel.nextSequence, .control call.request⟩ = .ok datagram := hencode
      unfold Call.received
      rw [hencode', hok]
      dsimp only
      split
      · rename_i detail line hfailed
        rw [hfailed] at hsend
        cases hsend
      · rename_i line hsent
        rw [hsent]
        rfl
    have htraced := (h.send server hencode).traced
    have hresult : exchange server.react call.request call.timeout (call.begin link) =
        .ok status after := hok
    rw [hresult] at hended
    rw [hreceived]
    cases hended with
    | accepted hpassed htaken hbytes =>
        rename_i bytes passed
        rcases decode_of_classify hbytes with ⟨hdecode, hstatus⟩
        rcases mem_of_mem_taken htaken with ⟨a, hqueued, hdelivery⟩
        rcases htraced a hqueued bytes hdelivery hstatus with ⟨x, hx, hdatagram⟩
        refine ⟨bytes, htaken, hdecode, hstatus, x, ?_, hdatagram⟩
        rw [hpassed.far]
        exact hx

end Tracked

/-- If no status frame is received 65536 or more exchanges after the control frame it answers, then
in every run of exchanges an exchange that returns a status returns one that the drive gave in
answer to the control frame of that exchange. -/
theorem own_answer_of_ok {δ : Type} (server : Server isStatus δ) (channel : Channel)
    (earliness : Nat) (drive : δ) (plans : List Plan) (calls : List Call) (call : Call)
    {status : StatusResponse} {after : Link (Network δ)}
    (hok : call.make server (Call.run server calls (connect channel earliness drive plans)) =
      .ok status after)
    (htimely : ∀ bytes ∈ call.received server
        (Call.run server calls (connect channel earliness drive plans)),
      isStatus bytes → ¬ after.line.far.Late bytes) :
    after.line.far.number = channel.stats.exchanges + calls.length
      ∧ ∃ bytes ∈ call.received server
          (Call.run server calls (connect channel earliness drive plans)),
        Frame.decode (bytes.take maxFrameLength) =
            .ok ⟨channel.nextSequence + .ofNat calls.length, .status status⟩
          ∧ after.line.far.Own bytes := by
  have hstart := tracked_connect channel earliness drive plans
  have hbefore := hstart.run server calls
  have hafter := hbefore.make server call
  have hcount := exchanges_run server calls (connect channel earliness drive plans)
  have hnumber := (exchanges_make server call
    (Call.run server calls (connect channel earliness drive plans))).2
  generalize Call.run server calls (connect channel earliness drive plans) = link at *
  rcases hbefore.received server hok with ⟨bytes, hreceived, hdecode, hstatus, hgiven⟩
  rw [hok] at hafter hnumber
  have hechoed : link.channel.nextSequence = channel.nextSequence + .ofNat calls.length := by
    rw [hbefore.nextSequence, hcount]
    show channel.nextSequence - .ofNat channel.stats.exchanges
      + .ofNat (channel.stats.exchanges + calls.length) = _
    rw [UInt16.ofNat_add, ← UInt16.add_assoc, UInt16.sub_add_cancel]
  have hown : after.line.far.Own bytes := by
    refine hafter.sequenced.own hstatus hdecode ?_ hgiven (htimely bytes hreceived hstatus)
    have hsame : after.line.far.number = link.channel.stats.exchanges := hnumber
    show link.channel.nextSequence = _ + .ofNat after.line.far.number
    rw [hsame]
    exact hbefore.nextSequence
  rw [hechoed] at hdecode
  exact ⟨hnumber.trans hcount, bytes, hreceived, hdecode, hown⟩

/-- The status an exchange returns, if it returns one. -/
def statusOf {σ : Type} :
    EStateM.Result LinkError (Link σ) StatusResponse → Option StatusResponse
  | .ok status _ => some status
  | .error _ _ => none

theorem eq_ok_of_statusOf {σ : Type} {result : EStateM.Result LinkError (Link σ) StatusResponse}
    {status : StatusResponse} (h : statusOf result = some status) :
    result = .ok status (linkOf result) := by
  cases result with
  | ok told link =>
      cases h
      rfl
  | error cause link => cases h

/-- A request for the position. -/
def askPosition : ControlRequest :=
  { control := some ControlWord.switchOn, motion := none, configuration := none
    response := ResponseSections.actualPosition }

/-- The answer of a drive at its reference. -/
def atZero : StatusResponse :=
  { echoed := RequestSections.controlWord, status := none, state := none
    actualPosition := some ⟨0⟩, demandPosition := none, current := none, warning := none
    errorCode := none, monitoring := none, configuration := none }

/-- The first control frame reaches the drive late, its answer comes late and again; the answer to
the second comes during the third exchange, before the answer to the third. -/
def disorder : List Plan :=
  [{},
   { reaching := [.sent 1, .sent 0], arriving := [(0, .answer 0), (1500, .answer 1)] },
   { reaching := [.sent 0, .noise [1, 2, 3], .sent 2]
     arriving := [(10, .noise [1, 2, 3]), (20, .answer 0), (600, .answer 2), (600, .answer 2)] }]

/-- A channel about to use the last sequence number. -/
def nearWrap : Channel := { Channel.new true 3 1000 with nextSequence := 0xFFFF }

/-- An exchange that asks for the position. -/
def askingCall : Call := { request := askPosition, timeout := 1000 }

/-- Two exchanges with a simulated drive, both missed. -/
def wrapped : Link (Network ProcessPort.Echoing) :=
  Call.run ProcessPort.echoing [askingCall, askingCall]
    (connect nearWrap 0 ⟨.new {}, rfl⟩ disorder)

/-- The third exchange uses sequence number 1. -/
theorem own_answer_of_ok_wrapped :
    (linkOf (askingCall.make ProcessPort.echoing wrapped)).line.far.number = 0 + 2
      ∧ ∃ bytes ∈ askingCall.received ProcessPort.echoing wrapped,
        Frame.decode (bytes.take maxFrameLength) = .ok ⟨0xFFFF + .ofNat 2, .status atZero⟩
          ∧ (linkOf (askingCall.make ProcessPort.echoing wrapped)).line.far.Own bytes :=
  own_answer_of_ok ProcessPort.echoing nearWrap 0 ⟨.new {}, rfl⟩ disorder [askingCall, askingCall]
    askingCall (eq_ok_of_statusOf (by decide +kernel)) (by decide +kernel)

end Cyclic
end ServoLink
