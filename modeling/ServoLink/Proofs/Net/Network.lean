import ServoLink.Net.Line
import ServoLink.Proofs.Wire.RoundTrip

/-!
# Network — a far end that loses, repeats, delays and reorders

Between a line and a drive stands a network.  It keeps every datagram sent and every answer of the
drive, each with the number of the exchange it belongs to.  A plan says what happens while one
datagram is sent: which datagrams reach the drive now, at first or again, and which answers arrive,
when, and how often.  What no plan names is lost.  Nothing is assumed of the plans.

A drive echoes sequence numbers, and sequence numbers wrap: an answer can be mistaken for one of the
exchange under way only if it is 65536 exchanges old (`Network.Late`).

* `Server.react` — the network as a far end;
* `Network.Sequenced` — datagrams and answers carry the sequence number of their exchange;
* `Network.Traced` — every answer in a queue is one of the drive;
* `Network.Sequenced.own` — an answer that echoes the exchange under way and is not late belongs
  to it.
-/

namespace ServoLink
namespace Net

open Wire

/-! ## The line -/

section Line

variable {σ : Type}

theorem mem_enqueue {a b : Arrival} {queue : List Arrival} :
    b ∈ enqueue a queue ↔ b = a ∨ b ∈ queue := by
  induction queue with
  | nil => simp [enqueue]
  | cons c rest ih =>
      unfold enqueue
      split
      · simp only [List.mem_cons, ih]
        exact or_left_comm
      · simp

theorem mem_foldl_enqueue {b : Arrival} {arrivals queue : List Arrival} :
    b ∈ arrivals.foldl (fun queue a => enqueue a queue) queue ↔ b ∈ arrivals ∨ b ∈ queue := by
  induction arrivals generalizing queue with
  | nil => simp
  | cons a rest ih =>
      simp only [List.foldl_cons, ih, mem_enqueue, List.mem_cons]
      tauto

theorem Line.far_send (react : FarEnd σ) (datagram : List UInt8) (line : Line σ) :
    (line.send react datagram).2.far = (react line.far datagram).2 := by
  unfold Line.send
  dsimp only
  split <;> rfl

theorem Line.sent_send (react : FarEnd σ) (datagram : List UInt8) (line : Line σ) :
    (line.send react datagram).2.sent = datagram :: line.sent := by
  unfold Line.send
  dsimp only
  split <;> rfl

/-- Sending takes time. -/
theorem Line.now_le_now_send (react : FarEnd σ) (datagram : List UInt8) (line : Line σ) :
    line.now ≤ (line.send react datagram).2.now := by
  unfold Line.send
  dsimp only
  split
  · exact Nat.le_add_right _ _
  · exact Nat.le_add_right _ _

/-- Sending takes nothing out of the queue. -/
theorem Line.mem_queue_send_of_mem {react : FarEnd σ} {datagram : List UInt8} {line : Line σ}
    {a : Arrival} (h : a ∈ line.queue) : a ∈ (line.send react datagram).2.queue := by
  unfold Line.send
  dsimp only
  split
  · exact h
  · exact mem_foldl_enqueue.2 (Or.inr h)

/-- What is queued after a send was queued before, or has just arrived. -/
theorem Line.mem_queue_send {react : FarEnd σ} {datagram : List UInt8} {line : Line σ}
    {a : Arrival} (h : a ∈ (line.send react datagram).2.queue) :
    a ∈ line.queue
      ∨ ∃ delay, (delay, a.delivery) ∈ (react line.far datagram).1.replies := by
  unfold Line.send at h
  dsimp only at h
  split at h
  · exact Or.inl h
  · rcases mem_foldl_enqueue.1 h with harrived | hqueued
    · rcases List.mem_map.1 harrived with ⟨⟨delay, delivery⟩, hreply, rfl⟩
      exact Or.inr ⟨delay, hreply⟩
    · exact Or.inl hqueued

end Line

/-- The bytes of a datagram. -/
def Delivery.bytes? : Delivery → Option (List UInt8)
  | .datagram bytes => some bytes
  | .failure _ => none

/-- The datagrams taken from the front of a queue, of which the rest is left. -/
def taken (queue rest : List Arrival) : List (List UInt8) :=
  (queue.take (queue.length - rest.length)).filterMap (·.delivery.bytes?)

theorem taken_append (front rest : List Arrival) :
    taken (front ++ rest) rest = front.filterMap (·.delivery.bytes?) := by
  have hlength : (front ++ rest).length - rest.length = front.length := by
    simp
  unfold taken
  rw [hlength, List.take_left']
  rfl

/-- What is taken from a part of a queue is taken from the whole. -/
theorem mem_taken_cons {a : Arrival} {queue rest : List Arrival} {bytes : List UInt8}
    (hrest : rest <:+ queue) (h : bytes ∈ taken queue rest) : bytes ∈ taken (a :: queue) rest := by
  rcases hrest with ⟨front, rfl⟩
  rw [taken_append] at h
  rw [← List.cons_append, taken_append]
  exact List.mem_filterMap.2 (by
    rcases List.mem_filterMap.1 h with ⟨b, hb, hbytes⟩
    exact ⟨b, List.mem_cons_of_mem a hb, hbytes⟩)

theorem mem_of_mem_taken {queue rest : List Arrival} {bytes : List UInt8}
    (h : bytes ∈ taken queue rest) : ∃ a ∈ queue, a.delivery = .datagram bytes := by
  rcases List.mem_filterMap.1 h with ⟨a, hfront, hbytes⟩
  refine ⟨a, List.mem_of_mem_take hfront, ?_⟩
  cases hdelivery : a.delivery with
  | datagram b =>
      rw [hdelivery] at hbytes
      exact congrArg Delivery.datagram (Option.some.inj hbytes)
  | failure detail =>
      rw [hdelivery] at hbytes
      cases hbytes

/-! ## The network -/

/-- A datagram with the number of the exchange it belongs to. -/
structure Logged where
  number : Nat
  datagram : List UInt8
  deriving DecidableEq, Repr

/-- What reaches the drive. -/
inductive Reach where
  /-- What was sent so many exchanges ago. -/
  | sent (age : Nat)
  /-- Bytes that the channel never sent; what the drive says to them is lost. -/
  | noise (bytes : List UInt8)
  deriving DecidableEq, Repr

/-- What arrives at the channel. -/
inductive Transit where
  /-- An answer of the drive, by its position among all of them. -/
  | answer (position : Nat)
  /-- Bytes that the drive never sent. -/
  | noise (bytes : List UInt8)
  | failure (detail : String)
  deriving DecidableEq, Repr

/-- What happens while one datagram is sent. -/
structure Plan where
  stall : Nat := 0
  failure : Option String := none
  /-- In the order in which the drive handles it. -/
  reaching : List Reach := []
  /-- Each after its delay. -/
  arriving : List (Nat × Transit) := []
  deriving DecidableEq, Repr, Inhabited

/-- The drive and everything that was ever under way to it and from it. -/
structure Network (δ : Type) where
  drive : δ
  /-- The number of the exchange under way. -/
  number : Nat := 0
  sent : List Logged := []
  answers : List Logged := []
  /-- One for each datagram to come; without a plan it is lost. -/
  plans : List Plan := []
  deriving Repr

/-- How a drive serves a datagram, with the datagrams that count as its answers: they echo the
sequence number of what they answer. -/
structure Server (isAnswer : List UInt8 → Bool) (δ : Type) where
  serve : δ → List UInt8 → List (List UInt8) × δ
  echoes : ∀ drive datagram reply, reply ∈ (serve drive datagram).1 → isAnswer reply →
    ∀ answered, Frame.decode (reply.take maxFrameLength) = .ok answered →
      ∃ asked, Frame.decode (datagram.take maxFrameLength) = .ok asked
        ∧ asked.sequence = answered.sequence

namespace Server

variable {isAnswer : List UInt8 → Bool} {δ : Type} (server : Server isAnswer δ)

/-- The drive handles a datagram of some exchange. -/
def handle (x : Logged) (net : Network δ) : Network δ :=
  let (replies, drive) := server.serve net.drive x.datagram
  { net with drive, answers := net.answers ++ replies.map (⟨x.number, ·⟩) }

def reach (net : Network δ) : Reach → Network δ
  | .sent age =>
      match net.sent.find? (·.number + age == net.number) with
      | some x => server.handle x net
      | none => net
  | .noise bytes => { net with drive := (server.serve net.drive bytes).2 }

/-- What a plan makes arrive, if anything.  The network does not forge answers. -/
def delivery? (_ : Server isAnswer δ) (net : Network δ) : Transit → Option Delivery
  | .answer position => net.answers[position]?.map (.datagram ·.datagram)
  | .noise bytes => if isAnswer bytes then none else some (.datagram bytes)
  | .failure detail => some (.failure detail)

/-- An answer that arrives is one of the drive. -/
theorem answered_of_delivery? {net : Network δ} {transit : Transit} {bytes : List UInt8}
    (h : server.delivery? net transit = some (.datagram bytes)) (hanswer : isAnswer bytes) :
    ∃ x ∈ net.answers, x.datagram = bytes := by
  cases transit with
  | answer position =>
      rcases Option.map_eq_some_iff.1 h with ⟨x, hx, hsame⟩
      exact ⟨x, List.mem_of_getElem? hx, Delivery.datagram.inj hsame⟩
  | noise noisy =>
      -- Noise that counts as an answer is not let in.
      have hnoise : ¬ isAnswer noisy ∧ noisy = bytes := by
        simpa [delivery?] using h
      rw [hnoise.2] at hnoise
      exact absurd hanswer hnoise.1
  | failure detail =>
      have hfailed : Delivery.failure detail = .datagram bytes := Option.some.inj h
      cases hfailed

/-- The network as the far end of a line. -/
def react : FarEnd (Network δ) := fun net datagram =>
  let plan := net.plans.headD {}
  let net :=
    { net with sent := net.sent ++ [⟨net.number, datagram⟩], plans := net.plans.tail }
  let net := plan.reaching.foldl server.reach net
  ({ stall := plan.stall
     failure := plan.failure
     replies := plan.arriving.filterMap fun (delay, transit) =>
       (server.delivery? net transit).map (delay, ·) }, net)

/-- What holds once a datagram is on its way and is kept by all that reaches the drive, holds after
the send. -/
theorem react_induction {I : Network δ → Prop} {net : Network δ} {datagram : List UInt8}
    (hlogged : I { net with
      sent := net.sent ++ [⟨net.number, datagram⟩], plans := net.plans.tail })
    (hreach : ∀ item ∈ (net.plans.headD {}).reaching, ∀ net, I net → I (server.reach net item)) :
    I (server.react net datagram).2 := by
  show I ((net.plans.headD {}).reaching.foldl server.reach _)
  revert hlogged
  generalize ({ net with
    sent := net.sent ++ [⟨net.number, datagram⟩], plans := net.plans.tail } : Network δ) = logged
  generalize (net.plans.headD {}).reaching = items at hreach
  intro hlogged
  -- The drive's view changes from item to item, so the induction is for any network they begin on.
  induction items generalizing logged with
  | nil => exact hlogged
  | cons item rest ih =>
      have hfirst := hreach item List.mem_cons_self logged hlogged
      exact ih _ (fun later hlater => hreach later (List.mem_cons_of_mem item hlater)) hfirst

/-- What is kept whatever the drive handles, holds after the send. -/
theorem react_invariant {I : Network δ → Prop} {net : Network δ} {datagram : List UInt8}
    (hlogged : I { net with
      sent := net.sent ++ [⟨net.number, datagram⟩], plans := net.plans.tail })
    (hhandle : ∀ net x, x ∈ net.sent → I net → I (server.handle x net))
    (hnoise : ∀ net drive, I net → I { net with drive }) : I (server.react net datagram).2 := by
  refine server.react_induction hlogged ?_
  intro item _ net hnet
  cases item with
  | sent age =>
      unfold reach
      dsimp only
      split
      · rename_i x hfound
        exact hhandle net x (List.mem_of_find?_eq_some hfound) hnet
      · exact hnet
  | noise bytes => exact hnoise net _ hnet

end Server

namespace Network

variable {isAnswer : List UInt8 → Bool} {δ : Type} {server : Server isAnswer δ}
variable {net : Network δ} {base : UInt16}

/-! ## Numbers -/

/-- An exchange begins. -/
def begin (net : Network δ) (number : Nat) : Network δ := { net with number }

@[simp] theorem number_react (datagram : List UInt8) :
    (server.react net datagram).2.number = net.number := by
  refine server.react_invariant (I := fun after => after.number = net.number) rfl ?_ ?_
  · intro after x _ hnumber
    exact hnumber
  · intro after drive hnumber
    exact hnumber

theorem sequence_succ {sequence : UInt16} {number : Nat} (h : sequence = base + .ofNat number) :
    sequence + 1 = base + .ofNat (number + 1) := by
  calc sequence + 1
      = base + (.ofNat number + 1) := by rw [h, UInt16.add_assoc]
    _ = base + .ofNat (number + 1) := by rw [UInt16.ofNat_add, UInt16.ofNat_one]

/-- Exchanges less than 65536 apart differ in their sequence numbers. -/
theorem number_eq_of_sequence_eq {j k : Nat} (hjk : j ≤ k) (hwrap : k < j + 65536)
    (h : base + UInt16.ofNat j = base + UInt16.ofNat k) : j = k := by
  have hnumbers : UInt16.ofNat j = UInt16.ofNat k := (UInt16.add_right_inj base).1 h
  have hmod : j % 65536 = k % 65536 := by
    simpa using congrArg UInt16.toNat hnumbers
  omega

/-- What can be read of the datagram has the sequence number of its exchange. -/
def Stamped (base : UInt16) (x : Logged) : Prop :=
  ∀ frame, Frame.decode (x.datagram.take maxFrameLength) = .ok frame →
    frame.sequence = base + .ofNat x.number

/-- Every datagram and every answer carries the sequence number of its exchange, and none is of an
exchange to come. -/
structure Sequenced (isAnswer : List UInt8 → Bool) (base : UInt16) (net : Network δ) : Prop where
  sent : ∀ x ∈ net.sent, x.number ≤ net.number ∧ Stamped base x
  answers : ∀ x ∈ net.answers, x.number ≤ net.number ∧ (isAnswer x.datagram → Stamped base x)

theorem Sequenced.handle (h : net.Sequenced isAnswer base) {x : Logged} (hx : x ∈ net.sent) :
    (server.handle x net).Sequenced isAnswer base where
  sent := h.sent
  answers := by
    intro answer hanswer
    rcases List.mem_append.1 hanswer with hearlier | hnew
    · exact h.answers answer hearlier
    · rcases List.mem_map.1 hnew with ⟨reply, hreply, rfl⟩
      rcases h.sent x hx with ⟨hnumber, hstamped⟩
      refine ⟨hnumber, ?_⟩
      intro hcounts frame hframe
      rcases server.echoes net.drive x.datagram reply hreply hcounts frame hframe with
        ⟨asked, hasked, hechoed⟩
      exact hechoed.symm.trans (hstamped asked hasked)

/-- A datagram is on its way. -/
theorem Sequenced.log (h : net.Sequenced isAnswer base) {datagram : List UInt8}
    (hdatagram : Stamped base ⟨net.number, datagram⟩) {plans : List Plan} :
    Sequenced isAnswer base
      { net with sent := net.sent ++ [⟨net.number, datagram⟩], plans } where
  sent := by
    intro x hx
    rcases List.mem_append.1 hx with hearlier | hnew
    · exact h.sent x hearlier
    · rw [List.mem_singleton.1 hnew]
      exact ⟨Nat.le_refl _, hdatagram⟩
  answers := h.answers

theorem Sequenced.react (h : net.Sequenced isAnswer base) {datagram : List UInt8}
    (hdatagram : Stamped base ⟨net.number, datagram⟩) :
    (server.react net datagram).2.Sequenced isAnswer base := by
  refine server.react_invariant (I := fun after => after.Sequenced isAnswer base)
    (h.log hdatagram) ?_ ?_
  · intro after x hx hafter
    exact hafter.handle hx
  · intro after drive hafter
    exact ⟨hafter.sent, hafter.answers⟩

theorem Sequenced.begin (h : net.Sequenced isAnswer base) {number : Nat}
    (hnumber : net.number ≤ number) : (net.begin number).Sequenced isAnswer base where
  sent := by
    intro x hx
    rcases h.sent x hx with ⟨hearlier, hstamped⟩
    exact ⟨Nat.le_trans hearlier hnumber, hstamped⟩
  answers := by
    intro x hx
    rcases h.answers x hx with ⟨hearlier, hstamped⟩
    exact ⟨Nat.le_trans hearlier hnumber, hstamped⟩

/-! ## Provenance -/

/-- Every answer in the queue is one that the drive gave. -/
def Traced (isAnswer : List UInt8 → Bool) (net : Network δ) (queue : List Arrival) : Prop :=
  ∀ a ∈ queue, ∀ bytes, a.delivery = .datagram bytes → isAnswer bytes →
    ∃ x ∈ net.answers, x.datagram = bytes

theorem Traced.of_subset {queue rest : List Arrival} (h : net.Traced isAnswer queue)
    (hrest : rest ⊆ queue) : net.Traced isAnswer rest := by
  intro a ha
  exact h a (hrest ha)

/-- No answer is forgotten. -/
theorem answers_subset_react (datagram : List UInt8) :
    net.answers ⊆ (server.react net datagram).2.answers := by
  refine server.react_invariant (I := fun after => net.answers ⊆ after.answers)
    (List.Subset.refl _) ?_ ?_
  · intro after x _ hafter
    exact List.Subset.trans hafter (List.subset_append_left _ _)
  · intro after drive hafter
    exact hafter

theorem Traced.send {line : Line (Network δ)} (h : line.far.Traced isAnswer line.queue)
    (datagram : List UInt8) :
    (line.send server.react datagram).2.far.Traced isAnswer
      (line.send server.react datagram).2.queue := by
  intro a ha bytes hbytes hanswer
  rw [Line.far_send]
  rcases Line.mem_queue_send ha with hqueued | ⟨delay, harrived⟩
  · rcases h a hqueued bytes hbytes hanswer with ⟨x, hx, hdatagram⟩
    exact ⟨x, answers_subset_react datagram hx, hdatagram⟩
  · rw [hbytes] at harrived
    rcases List.mem_filterMap.1 harrived with ⟨⟨_, transit⟩, _, htransit⟩
    rcases Option.map_eq_some_iff.1 htransit with ⟨delivery, hdelivery, hpair⟩
    obtain rfl : delivery = .datagram bytes := (Prod.mk.inj hpair).2
    exact server.answered_of_delivery? hdelivery hanswer

/-! ## Late answers -/

/-- The drive gave the bytes as an answer, but only to exchanges that are 65536 or more exchanges
old. -/
def Late (net : Network δ) (bytes : List UInt8) : Prop :=
  (∃ x ∈ net.answers, x.datagram = bytes)
    ∧ ∀ x ∈ net.answers, x.datagram = bytes → x.number + 65536 ≤ net.number

instance (net : Network δ) (bytes : List UInt8) : Decidable (net.Late bytes) :=
  inferInstanceAs (Decidable ((∃ x ∈ net.answers, x.datagram = bytes)
    ∧ ∀ x ∈ net.answers, x.datagram = bytes → x.number + 65536 ≤ net.number))

/-- The bytes are an answer to the exchange under way, and to no other they can be an answer to. -/
structure Own (net : Network δ) (bytes : List UInt8) : Prop where
  answered : ⟨net.number, bytes⟩ ∈ net.answers
  only : ∀ x ∈ net.answers, x.datagram = bytes → net.number < x.number + 65536 →
    x.number = net.number

/-- An answer that echoes the exchange under way belongs to it, or is late. -/
theorem Sequenced.own (h : net.Sequenced isAnswer base) {bytes : List UInt8} {frame : Frame}
    (hanswer : isAnswer bytes) (hframe : Frame.decode (bytes.take maxFrameLength) = .ok frame)
    (hechoed : frame.sequence = base + .ofNat net.number)
    (hgiven : ∃ x ∈ net.answers, x.datagram = bytes) (hlate : ¬ net.Late bytes) :
    net.Own bytes := by
  have honly : ∀ x ∈ net.answers, x.datagram = bytes → net.number < x.number + 65536 →
      x.number = net.number := by
    rintro x hx rfl hrecent
    rcases h.answers x hx with ⟨hearlier, hstamped⟩
    have hsame : base + UInt16.ofNat x.number = base + UInt16.ofNat net.number :=
      (hstamped hanswer frame hframe).symm.trans hechoed
    exact number_eq_of_sequence_eq hearlier hrecent hsame
  -- The same bytes may have been given before and again: one time at least is recent.
  have hrecent : ∃ x ∈ net.answers, x.datagram = bytes ∧ net.number < x.number + 65536 := by
    by_contra hnone
    refine hlate ⟨hgiven, ?_⟩
    intro x hx hdatagram
    by_contra hless
    exact hnone ⟨x, hx, hdatagram, Nat.lt_of_not_le hless⟩
  rcases hrecent with ⟨x, hx, rfl, hwithin⟩
  have hnumber := honly x hx rfl hwithin
  refine ⟨?_, honly⟩
  rw [← hnumber]
  exact hx

end Network

end Net
end ServoLink
