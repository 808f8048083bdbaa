import ServoLink.Proofs.Register.Pacing
import ServoLink.Proofs.Register.RoundTrip
import ServoLink.Proofs.Wire.Appending

/-!
# Delivery — register calls over a line that loses nothing

Every request reaches the register port, and every answer arrives while its request still waits for
it, in whichever window.  Then a call ends as the register map says: an access repeated changes
nothing, and what arrives too often is stale for every later call.  The one answer that never comes
is the one that no frame holds; the call it is for times out.

* `LossFree` — such a line;
* `Ready` — a conversation between two calls on it;
* `Ready.talk` — what a call gives, and that the conversation is ready for the next one.
-/

namespace ServoLink
namespace Register

open Wire Net Drive

variable {σ : Type}

/-! ## Windows -/

/-- A receipt has arrived. -/
theorem exists_queued {deadline now : Nat} {queue : List Arrival} {b : Arrival}
    (h : b ∈ receipts deadline now queue) : ∃ a ∈ queue, a.delivery = b.delivery := by
  induction queue generalizing now with
  | nil => cases h
  | cons c rest ih =>
      unfold receipts at h
      split at h
      · rcases List.mem_cons.1 h with rfl | hlater
        · exact ⟨c, List.mem_cons_self, rfl⟩
        · rcases ih hlater with ⟨a, ha, hdelivery⟩
          exact ⟨a, List.mem_cons_of_mem _ ha, hdelivery⟩
      · cases h

theorem classify_of_decode {pending : Pending} {bytes : List UInt8} {reply : Reply}
    (hdecode : Frame.decode (bytes.take maxFrameLength) =
      .ok ⟨pending.sequence, .registerReply reply⟩)
    (haddress : reply.address = pending.address) :
    classify pending (bytes.take maxFrameLength) = .matching reply := by
  unfold classify
  rw [hdecode]
  exact if_pos ⟨rfl, haddress⟩

namespace RoundTrip

/-- How long so many windows last at least, whatever the estimate. -/
def shortest (r : RoundTrip) (windows : Nat) : Nat :=
  RoundTrip.lasting { r with estimate := r.min } windows

theorem InOrder.shortest_le {r : RoundTrip} (h : r.InOrder) (windows : Nat) :
    r.shortest windows ≤ r.lasting windows := by
  have hbackoff : ∀ i, backoff { r with estimate := r.min } i ≤ r.backoff i := by
    intro i
    refine Nat.le_min.2 ⟨?_, Nat.min_le_right _ _⟩
    exact Nat.le_trans (Nat.min_le_left _ _) (Nat.mul_le_mul_right _ h.low)
  induction windows with
  | zero => exact Nat.le_refl _
  | succ i ih => exact Nat.add_le_add ih (hbackoff i)

end RoundTrip

/-! ## The line -/

/-- The line carries every datagram to a register port and back.  A send blocks for less than
`window`; an answer arrives before `patience` is over, counted from when its send began. -/
structure LossFree (react : FarEnd σ) (port : σ → RegisterPort) (window patience : Nat) : Prop where
  sends : ∀ far datagram, (react far datagram).1.failure = none
  stall : ∀ far datagram, (react far datagram).1.stall < window
  serves : ∀ far datagram, port (react far datagram).2 = ((port far).serve datagram).2
  answers : ∀ far datagram, (react far datagram).1.replies.map Prod.snd =
    ((port far).serve datagram).1.map Delivery.datagram
  timely : ∀ far datagram, ∀ reply ∈ (react far datagram).1.replies,
    (react far datagram).1.stall + reply.1 < patience

/-- The register port itself is the far end; it answers at once. -/
def direct : FarEnd RegisterPort := fun port datagram =>
  ({ replies := (port.serve datagram).1.map fun bytes => (0, .datagram bytes) },
    (port.serve datagram).2)

theorem lossFree_direct {window patience : Nat} (hwindow : 0 < window) (hpatience : 0 < patience) :
    LossFree direct id window patience where
  sends _ _ := rfl
  stall _ _ := hwindow
  serves _ _ := rfl
  answers far datagram := by simp [direct]
  timely far datagram reply hreply := by
    rcases List.mem_map.1 hreply with ⟨bytes, -, rfl⟩
    exact hpatience

/-- The datagram carries no sequence number but those of the last so many requests. -/
def Past (next : UInt16) (calls : Nat) (a : Arrival) : Prop :=
  ∃ bytes, a.delivery = .datagram bytes ∧ ∀ frame,
    Frame.decode (bytes.take maxFrameLength) = .ok frame →
      ∃ k < calls, frame.sequence + UInt16.ofNat k + 1 = next

/-- Nothing is under way but answers to the last so many requests; the port listens, and its map is
known.  Some requests are sent, and a request waits for `patience` at least, each of its windows for
`window`. -/
structure Ready (port : σ → RegisterPort) (window patience : Nat) (map : RegisterMap) (calls : Nat)
    (c : Conversation σ) : Prop where
  attempts : 1 ≤ c.channel.attempts
  roundTrip : c.channel.roundTrip.InOrder
  window : window ≤ c.channel.roundTrip.min
  patience : patience ≤ c.channel.roundTrip.shortest c.channel.attempts
  ordered : Ordered c.line.queue
  past : ∀ a ∈ c.line.queue, Past c.channel.nextSequence calls a
  held : (port c.line.far).map = map
  listens : (port c.line.far).deaf = false

/-- A new channel is ready on a line on which nothing is under way. -/
theorem Ready.of_new? {port : σ → RegisterPort} {window patience : Nat} {map : RegisterMap}
    {settings : RegisterChannelSettings} {c : Conversation σ}
    (hnew : Channel.new? settings = some c.channel) (hquiet : c.line.queue = [])
    (hheld : (port c.line.far).map = map) (hlistens : (port c.line.far).deaf = false)
    (hwindow : window ≤ c.channel.roundTrip.min)
    (hpatience : patience ≤ c.channel.roundTrip.shortest c.channel.attempts) :
    Ready port window patience map 0 c := by
  unfold Channel.new? at hnew
  dsimp only at hnew
  rcases Option.map_eq_some_iff.1 hnew with ⟨roundTrip, hroundTrip, hchannel⟩
  constructor
  case attempts =>
    rw [← hchannel]
    exact Nat.le_max_right _ _
  case roundTrip =>
    rw [← hchannel]
    exact RoundTrip.inOrder_of_new? hroundTrip
  case window => exact hwindow
  case patience => exact hpatience
  case ordered =>
    rw [hquiet]
    exact List.Pairwise.nil
  case past =>
    rw [hquiet]
    exact fun a ha => nomatch ha
  case held => exact hheld
  case listens => exact hlistens

/-! ## While a request is under way -/

/-- The port has been asked for the access, or not yet.  What has arrived is from the past, or
answers it. -/
structure Asking (port : σ → RegisterPort) (map : RegisterMap) (next : UInt16) (calls : Nat)
    (access : MapAccess) (far : σ) (queue : List Arrival) : Prop where
  ordered : Ordered queue
  listens : (port far).deaf = false
  held : (port far).map = map ∨ (port far).map = (access.apply map).2
  arrivals : ∀ a ∈ queue, Past next calls a
    ∨ (port far).map = (access.apply map).2
      ∧ ∃ checksum bytes, a.delivery = .datagram bytes
        ∧ Frame.encode checksum ⟨next, .registerReply (access.apply map).1⟩ = .ok bytes

section Asking

variable {react : FarEnd σ} {port : σ → RegisterPort} {window patience calls : Nat}
variable {map : RegisterMap} {next : UInt16} {access : MapAccess} {datagram : List UInt8}
variable {far : σ} {queue rest : List Arrival} {line : Line σ}

/-- A reply says which register it is about. -/
theorem address_apply (access : MapAccess) (map : RegisterMap) :
    (access.apply map).1.address = access.address := by
  cases access with
  | read address =>
      show (map.read address).address = address
      unfold RegisterMap.read
      split <;> rfl
  | write address value =>
      show (map.write address value).1.address = address
      rcases map.write_cases address value with ⟨status, -, hrefused⟩ | ⟨-, haccepted⟩
      · rw [hrefused]
        rfl
      · rw [haccepted]
        rfl

/-- However often the port has been asked, the map answers the same. -/
theorem Asking.apply (h : Asking port map next calls access far queue) :
    access.apply (port far).map = access.apply map := by
  rcases h.held with hmap | hmap
  · rw [hmap]
  · rw [hmap]
    exact access.apply_apply map

theorem Asking.suffix (h : Asking port map next calls access far queue) (hrest : rest <:+ queue) :
    Asking port map next calls access far rest :=
  ⟨List.Pairwise.sublist hrest.sublist h.ordered, h.listens, h.held,
    fun a ha => h.arrivals a (hrest.subset ha)⟩

/-- Once the port has been asked, its map is that after the access. -/
theorem Asking.held_send (h : Asking port map next calls access line.far line.queue)
    (hline : LossFree react port window patience)
    (hdecode : Frame.decode (datagram.take maxFrameLength) = .ok ⟨next, access.message⟩) :
    (port (line.send react datagram).2.far).map = (access.apply map).2 := by
  rw [Line.far_send, hline.serves, (RegisterPort.serve_of_listens h.listens hdecode).2.1, h.apply]

/-- One transmission. -/
theorem Asking.send (h : Asking port map next calls access line.far line.queue)
    (hline : LossFree react port window patience)
    (hdecode : Frame.decode (datagram.take maxFrameLength) = .ok ⟨next, access.message⟩) :
    Asking port map next calls access (line.send react datagram).2.far
      (line.send react datagram).2.queue := by
  have hheld := h.held_send hline hdecode
  rcases RegisterPort.serve_of_listens h.listens hdecode with ⟨hanswers, -, hlistens⟩
  rw [h.apply] at hanswers
  refine ⟨h.ordered.send react datagram, ?_, Or.inr hheld, ?_⟩
  · rw [Line.far_send, hline.serves]
    exact hlistens
  · intro a ha
    rw [hheld]
    rcases Line.mem_queue_send ha with hqueued | ⟨delay, hreply⟩
    · exact (h.arrivals a hqueued).imp_right fun hanswer => ⟨rfl, hanswer.2⟩
    · right
      have hdelivery : a.delivery ∈ (react line.far datagram).1.replies.map Prod.snd :=
        List.mem_map_of_mem hreply
      rw [hline.answers, hanswers] at hdelivery
      rcases List.mem_map.1 hdelivery with ⟨bytes, hbytes, hsame⟩
      exact ⟨rfl, _, bytes, hsame.symm, encode_of_mem_answer hbytes⟩

/-- What is from the past answers no request of the present. -/
theorem Past.not_matching {a : Arrival} (h : Past next calls a) (hcalls : calls < UInt16.size)
    {bytes : List UInt8} (hdelivery : a.delivery = .datagram bytes) {address : Address}
    {reply : Reply} : classify ⟨next, address⟩ (bytes.take maxFrameLength) ≠ .matching reply := by
  intro hmatching
  rcases h with ⟨held, hheld, hpast⟩
  obtain rfl : held = bytes := Delivery.datagram.inj (hheld.symm.trans hdelivery)
  rcases hpast _ (decode_of_classify hmatching).1 with ⟨k, hk, hsequence⟩
  have hcount := congrArg UInt16.toNat hsequence
  have hnext := next.toNat_lt_size
  simp only [UInt16.toNat_add, UInt16.toNat_ofNat', UInt16.toNat_one, UInt16.size] at hcount hcalls hnext
  omega

/-- The matching reply is the answer to the request. -/
theorem Asking.reply (h : Asking port map next calls access far queue) (hcalls : calls < UInt16.size)
    {a : Arrival} (ha : a ∈ queue) {bytes : List UInt8} (hdelivery : a.delivery = .datagram bytes)
    {reply : Reply}
    (hmatching : classify ⟨next, access.address⟩ (bytes.take maxFrameLength) = .matching reply) :
    reply = (access.apply map).1 ∧ (port far).map = (access.apply map).2
      ∧ ∃ checksum, Frame.encode checksum ⟨next, .registerReply (access.apply map).1⟩ =
        .ok bytes := by
  rcases h.arrivals a ha with hpast | ⟨hmap, checksum, answered, hanswered, hencode⟩
  · exact absurd hmatching (hpast.not_matching hcalls hdelivery)
  · obtain rfl : answered = bytes := Delivery.datagram.inj (hanswered.symm.trans hdelivery)
    have hdecode : Frame.decode (answered.take maxFrameLength) =
        .ok ⟨next, .registerReply (access.apply map).1⟩ :=
      Frame.decode_of_encode (access.canonical_apply map) hencode
    rw [(decode_of_classify hmatching).1] at hdecode
    cases hdecode
    exact ⟨rfl, hmap, checksum, hencode⟩

end Asking

/-! ### The windows of a request -/

theorem LossFree.sent {react : FarEnd σ} {port : σ → RegisterPort} {window patience : Nat}
    (h : LossFree react port window patience) (line : Line σ) (datagram : List UInt8) :
    (line.send react datagram).1 = .ok () := by
  unfold Line.send
  dsimp only
  rw [h.sends]

theorem LossFree.now_send {react : FarEnd σ} {port : σ → RegisterPort} {window patience : Nat}
    (h : LossFree react port window patience) (line : Line σ) (datagram : List UInt8) :
    (line.send react datagram).2.now < line.now + window := by
  have hstall := h.stall line.far datagram
  unfold Line.send
  dsimp only
  rw [h.sends]
  exact Nat.add_lt_add_left hstall line.now

/-- An answer is queued, to arrive before its patience is over. -/
theorem LossFree.queued {react : FarEnd σ} {port : σ → RegisterPort} {window patience : Nat}
    (h : LossFree react port window patience) {line : Line σ} {datagram bytes : List UInt8}
    (hbytes : bytes ∈ ((port line.far).serve datagram).1) :
    ∃ time < line.now + patience,
      ⟨time, .datagram bytes⟩ ∈ (line.send react datagram).2.queue := by
  have hdelivery : Delivery.datagram bytes ∈ (react line.far datagram).1.replies.map Prod.snd := by
    rw [h.answers]
    exact List.mem_map_of_mem hbytes
  rcases List.mem_map.1 hdelivery with ⟨⟨delay, delivery⟩, hreply, hsame⟩
  obtain rfl : delivery = .datagram bytes := hsame
  have htimely := h.timely line.far datagram _ hreply
  refine ⟨line.now + (react line.far datagram).1.stall + delay, by omega, ?_⟩
  unfold Line.send
  dsimp only
  rw [h.sends]
  exact mem_foldl_enqueue.2 (Or.inl (List.mem_map.2 ⟨_, hreply, rfl⟩))

section Windows

variable {port : σ → RegisterPort} {window patience calls : Nat} {map : RegisterMap}
variable {next : UInt16} {access : MapAccess} {e : Exchange σ}

theorem Asking.sending (h : Asking port map next calls access e.line.far e.line.queue)
    (hline : LossFree e.react port window patience)
    (hdecode : Frame.decode (e.datagram.take maxFrameLength) = .ok ⟨next, access.message⟩)
    (i : Nat) :
    Asking port map next calls access (e.sending i).far (e.sending i).queue := by
  induction i with
  | zero => exact h
  | succ i ih => exact (ih.send hline hdecode).suffix (List.drop_suffix _ _)

/-- A window ends with the reply, or with nothing that decides the request. -/
theorem Asking.unanswered_or_answered (h : Asking port map next calls access e.line.far e.line.queue)
    (hline : LossFree e.react port window patience)
    (hdecode : Frame.decode (e.datagram.take maxFrameLength) = .ok ⟨next, access.message⟩)
    (i : Nat) : e.Unanswered i ∨ ∃ a reply, e.AnsweredBy i a reply := by
  have hsent := hline.sent (e.sending i) e.datagram
  cases hdecision : e.decision? i with
  | none => exact Or.inl ⟨hsent, hdecision⟩
  | some a =>
      -- Whatever is received is a datagram, so what decides is a matching reply.
      have hdecides := List.find?_some hdecision
      rcases exists_queued (List.mem_of_find?_eq_some hdecision) with ⟨b, hb, hdelivery⟩
      have hdatagram : ∃ bytes, a.delivery = .datagram bytes := by
        rw [← hdelivery]
        rcases ((h.sending hline hdecode i).send hline hdecode).arrivals b hb with
          ⟨bytes, hbytes, -⟩ | ⟨-, checksum, bytes, hbytes, -⟩
        · exact ⟨bytes, hbytes⟩
        · exact ⟨bytes, hbytes⟩
      rcases hdatagram with ⟨bytes, hbytes⟩
      simp only [decides, hbytes] at hdecides
      cases hincoming : classify e.pending (bytes.take maxFrameLength) with
      | matching reply => exact Or.inr ⟨a, reply, hsent, hdecision, bytes, hbytes, hincoming⟩
      | stale => simp [hincoming] at hdecides
      | undecodable => simp [hincoming] at hdecides

/-- A reply that fits a frame is heard, in the last window if in none before. -/
theorem Asking.exists_answered (h : Asking port map next calls access e.line.far e.line.queue)
    (hline : LossFree e.react port window patience)
    (hdecode : Frame.decode (e.datagram.take maxFrameLength) = .ok ⟨next, access.message⟩)
    (hpending : e.pending = ⟨next, access.address⟩)
    (hfits : (Message.registerReply (access.apply map).1).wireLength ≤ maxPayload)
    (hwindow : ∀ i, window ≤ e.roundTrip.backoff i) {attempts : Nat}
    (hpatience : patience ≤ e.roundTrip.lasting attempts) (hattempts : 1 ≤ attempts) :
    ∃ i < attempts, ¬ e.Unanswered i := by
  by_contra hnone
  have hall : ∀ i < attempts, e.Unanswered i := by
    intro i hi
    by_contra hdecided
    exact hnone ⟨i, hi, hdecided⟩
  obtain ⟨last, rfl⟩ := Nat.exists_eq_add_one_of_ne_zero (Nat.ne_of_gt hattempts)
  -- The answer to the first transmission is still queued when the last window begins.
  obtain ⟨bytes, hencode⟩ : ∃ bytes, Frame.encode (port e.line.far).checksum
      ⟨next, .registerReply (access.apply map).1⟩ = .ok bytes := ⟨_, Frame.encode_eq_ok _ hfits⟩
  have hanswer : bytes ∈ ((port e.line.far).serve e.datagram).1 := by
    rw [(RegisterPort.serve_of_listens h.listens hdecode).1, h.apply, answer, hencode]
    exact List.mem_singleton_self bytes
  rcases hline.queued hanswer with ⟨time, htime, hqueued⟩
  have hmatching : classify e.pending (bytes.take maxFrameLength) =
      .matching (access.apply map).1 := by
    rw [hpending]
    exact classify_of_decode (Frame.decode_of_encode (access.canonical_apply map) hencode)
      (address_apply access map)
  have hdecides : decides e.pending ⟨time, .datagram bytes⟩ := decides_of_matching rfl hmatching
  have hlater := Exchange.queued_of_unanswered (i := last) hqueued hdecides
    fun j hj => hall j (Nat.lt_succ_of_lt hj)
  refine Exchange.not_unanswered_of_queued h.ordered ?_ hlater ?_ hdecides
    (hall last (Nat.lt_succ_self last))
  · calc (e.opened last).now < (e.sending last).now + window := hline.now_send _ _
      _ ≤ e.deadline last := Nat.add_le_add_left (hwindow last) _
  · calc time < e.line.now + patience := htime
      _ ≤ e.line.now + e.roundTrip.lasting (last + 1) := Nat.add_le_add_left hpatience _
      _ = e.line.now + e.roundTrip.lasting last + e.roundTrip.backoff last :=
        (Nat.add_assoc _ _ _).symm
      _ ≤ e.deadline last := Nat.add_le_add_right (Exchange.now_sending_ge last) _

end Windows

/-! ## A call -/

section Calls

variable {react : FarEnd σ} {port : σ → RegisterPort} {window patience calls : Nat}
variable {map map' : RegisterMap} {access : MapAccess} {c : Conversation σ}
variable {datagram : List UInt8}

theorem Ready.asking (h : Ready port window patience map calls c) (access : MapAccess) :
    Asking port map c.channel.nextSequence calls access c.line.far c.line.queue :=
  ⟨h.ordered, h.listens, Or.inl h.held, fun a ha => Or.inl (h.past a ha)⟩

theorem Past.next {next : UInt16} {a : Arrival} (h : Past next calls a) :
    Past (next + 1) (calls + 1) a := by
  rcases h with ⟨bytes, hbytes, hpast⟩
  refine ⟨bytes, hbytes, ?_⟩
  intro frame hframe
  rcases hpast frame hframe with ⟨k, hk, rfl⟩
  refine ⟨k + 1, Nat.succ_lt_succ hk, ?_⟩
  rw [UInt16.ofNat_add, ← UInt16.add_assoc]
  rfl

/-- After a request, what has arrived is from the past. -/
theorem Asking.past {next : UInt16} {far : σ} {queue : List Arrival}
    (h : Asking port map next calls access far queue) {a : Arrival} (ha : a ∈ queue) :
    Past (next + 1) (calls + 1) a := by
  rcases h.arrivals a ha with hpast | ⟨-, checksum, bytes, hbytes, hencode⟩
  · exact hpast.next
  · refine ⟨bytes, hbytes, ?_⟩
    intro frame hframe
    have hdecode : Frame.decode (bytes.take maxFrameLength) =
        .ok ⟨next, .registerReply (access.apply map).1⟩ :=
      Frame.decode_of_encode (access.canonical_apply map) hencode
    rw [hframe] at hdecode
    cases hdecode
    exact ⟨0, Nat.succ_pos calls, by simp⟩

/-- No call changes how often a request is sent. -/
theorem Call.attempts_talk (react : FarEnd σ) (call : Call) (c : Conversation σ) :
    (conversationOf (call.talk react c)).channel.attempts = c.channel.attempts := by
  cases hbarred : call.access.barred with
  | true =>
      rw [Call.talk_of_barred hbarred]
      rfl
  | false =>
      cases hencode : Frame.encode c.channel.checksum
          ⟨c.channel.nextSequence, call.access.message⟩ with
      | error cause =>
          rw [Call.talk_of_encode_error hbarred hencode]
          rfl
      | ok datagram =>
          rcases (call.course react datagram c).counted with ⟨_, _, _, _, _, hspent, -⟩
          rcases ((Call.concludes_talk react hbarred hencode).leaves hspent).2 with
            ⟨lastRead, staleReplies, undecodable, hchannel⟩
          rw [hchannel]

/-- A call leaves the conversation ready for the next one. -/
theorem Ready.after (h : Ready port window patience map calls c) {call : Call}
    {transacted : EStateM.Result LinkError (Conversation σ) Reply}
    {result : EStateM.Result LinkError (Conversation σ) Value}
    (hconcludes : call.Concludes transacted result)
    (hcourse : Course (call.exchange react datagram c) call.cancellation
      (c.begin call.access.address call.cancellation) c.channel.attempts transacted)
    (hasking : Asking port map c.channel.nextSequence calls access
      (conversationOf transacted).line.far (conversationOf transacted).line.queue)
    (hheld : (port (conversationOf transacted).line.far).map = map') :
    Ready port window patience map' (calls + 1) (conversationOf result) := by
  rcases hcourse.counted with ⟨_, _, _, _, roundTrip, hspent, -, hestimate⟩
  rcases (hconcludes.leaves hspent).2 with ⟨lastRead, staleReplies, undecodable, hchannel⟩
  -- A sample moves the estimate, not its bounds.
  have hbounds : roundTrip.InOrder ∧ roundTrip.min = c.channel.roundTrip.min
      ∧ roundTrip.shortest = c.channel.roundTrip.shortest := by
    rcases hestimate with hsame | ⟨a, reply, -, hsample⟩
    · rw [hsame]
      exact ⟨h.roundTrip, rfl, rfl⟩
    · rw [hsample]
      exact ⟨h.roundTrip.sample _, rfl, rfl⟩
  rcases hbounds with ⟨hinOrder, hmin, hshortest⟩
  constructor
  · rw [hchannel]
    exact h.attempts
  · rw [hchannel]
    exact hinOrder
  · rw [hchannel]
    exact hmin.symm ▸ h.window
  · rw [hchannel]
    exact hshortest.symm ▸ h.patience
  · rw [hconcludes.line]
    exact hasking.ordered
  · rw [hconcludes.line, hchannel]
    exact fun a ha => hasking.past ha
  · rw [hconcludes.line]
    exact hheld
  · rw [hconcludes.line]
    exact hasking.listens

/-- Over a line that loses nothing, a call ends as the map answers its access; if no frame holds the
answer, it times out.  Either way the map is that after the access. -/
theorem Ready.talk (h : Ready port window patience map calls c)
    (hline : LossFree react port window patience) (hcalls : calls < UInt16.size)
    (hopen : access.barred = false)
    (hencode : Frame.encode c.channel.checksum ⟨c.channel.nextSequence, access.message⟩ =
      .ok datagram) :
    let result := Call.talk react { access } c
    Ready port window patience (access.apply map).2 (calls + 1) (conversationOf result)
      ∧ outcomeOf result =
        if (Message.registerReply (access.apply map).1).wireLength ≤ maxPayload then
          Call.outcome { access } (access.apply map).1
        else .error (.requestTimeout c.channel.attempts) := by
  intro result
  have hdecode : Frame.decode (datagram.take maxFrameLength) =
      .ok ⟨c.channel.nextSequence, access.message⟩ :=
    Frame.decode_of_encode access.canonical_message hencode
  have hasking := h.asking access
  have hcourse := Call.course { access } react datagram c
  have hconcludes : Call.Concludes { access } _ result := Call.concludes_talk react hopen hencode
  have htransacted := transacted_transact
    (I := Asking port map c.channel.nextSequence calls access)
    (fun line hbefore => hbefore.send hline hdecode)
    (fun far queue rest hrest hbefore => hbefore.suffix hrest)
    (c.pendingAt access.address) .never 0 c.channel.attempts
    (c := c.begin access.address .never) hasking
  have hwindows := hasking.unanswered_or_answered
    (e := Call.exchange { access } react datagram c) hline hdecode
  have hheard := hasking.exists_answered
    (e := Call.exchange { access } react datagram c) hline hdecode rfl
  dsimp only at hcourse hconcludes
  generalize transact react (c.pendingAt access.address) datagram .never 0 c.channel.attempts
    (c.begin access.address .never) = transacted at hcourse hconcludes htransacted
  have hready {map'} (hheld : (port (conversationOf transacted).line.far).map = map') :=
    h.after hconcludes hcourse htransacted.kept hheld
  cases transacted with
  | ok reply after =>
      rcases htransacted.answered reply after rfl with
        ⟨bytes, -, hmatching, queue, hqueue, a, ha, hdelivery⟩
      rcases hqueue.reply hcalls ha hdelivery hmatching with ⟨rfl, hheld, checksum, hanswer⟩
      refine ⟨hready hheld, ?_⟩
      rw [if_pos (Frame.eq_datagramOf_of_encode hanswer).1, hconcludes.outcome]
      rfl
  | error cause after =>
      cases hcourse with
      | @cancelled i _ hi hbefore hdue => cases hdue
      | @broken i _ _ _ hi hbefore hbroken hunanswered =>
          rcases hwindows i with hnone | ⟨a, reply, hanswered⟩
          · exact absurd hnone hbroken
          · exact absurd hanswered (hunanswered a reply)
      | exhausted hbefore hspent hafter =>
          refine ⟨hready ?_, ?_⟩
          · -- The last transmission has asked the port.
            obtain ⟨last, hlast⟩ := Nat.exists_eq_add_one_of_ne_zero (Nat.ne_of_gt h.attempts)
            show (port after.line.far).map = _
            rw [hafter, hlast]
            exact (hasking.sending hline hdecode last).held_send hline hdecode
          · rw [hconcludes.outcome, if_neg ?_]
            · rfl
            · intro hfits
              rcases hheard hfits (fun i => Nat.le_trans h.window (h.roundTrip.min_le_backoff i))
                (Nat.le_trans h.patience (h.roundTrip.shortest_le _)) h.attempts with
                ⟨i, hi, hdecided⟩
              exact hdecided (hbefore i hi)

end Calls

end Register
end ServoLink
