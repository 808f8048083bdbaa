import ServoLink.Proofs.Drive.RegisterMap
import ServoLink.Proofs.Drive.Simulated
import ServoLink.Proofs.Register.Channel

/-!
# Tracking — calls on a register channel and the requests they leave behind

One channel talks to a register port over a network that loses and repeats requests, and loses,
repeats, delays and reorders replies.  A request reaches the port during its own call only; a reply
can come calls later.  While a call lasts, the port can only have been asked what the call asks, and
asking again changes nothing (`Serving`).  When it is over, what is still under way belongs to the
past (`Tracked`).

* `Call.run` — reads and writes, with those cancelled, refused and timed out;
* `Serving.react` — every transmission of a request;
* `Tracked.made` — how a call ends, and that the invariant holds then;
* `Tracked.run` — throughout a run.
-/

namespace ServoLink

open Wire Net Drive

namespace Drive
namespace MapAccess

/-- The message that asks for the access. -/
def message : MapAccess → Message
  | read address => .registerRead address
  | write address value => .registerWrite ⟨address, value⟩

theorem eq_write_of_message {access : MapAccess} {w : Register.WriteRequest}
    (h : access.message = .registerWrite w) : access = .write w.address w.value := by
  cases access with
  | read address => cases h
  | write address value =>
      cases h
      rfl

theorem canonical_message (access : MapAccess) : access.message.Canonical := by
  cases access with
  | read address => trivial
  | write address value => trivial

/-- The channel refuses the access without asking: a write to a catalogued read-only register. -/
def barred : MapAccess → Bool
  | read _ => false
  | write address _ => (Register.descriptor? address).any fun d => d.access == .readOnly

end MapAccess

section Serve

variable {port : RegisterPort} {datagram : List UInt8} {sequence : UInt16}

/-- A port that listens answers an access as its map does, and goes on listening. -/
theorem RegisterPort.serve_of_listens {access : MapAccess} (hlistens : port.deaf = false)
    (h : Frame.decode (datagram.take maxFrameLength) = .ok ⟨sequence, access.message⟩) :
    (port.serve datagram).1 =
        answer port.checksum sequence (.registerReply (access.apply port.map).1)
      ∧ (port.serve datagram).2.map = (access.apply port.map).2
      ∧ (port.serve datagram).2.deaf = false := by
  unfold RegisterPort.serve
  dsimp only
  rw [h, hlistens, if_neg Bool.false_ne_true]
  cases access with
  | read address => exact ⟨rfl, rfl, rfl⟩
  | write address value => exact ⟨rfl, rfl, rfl⟩

/-- The port answers an access as its map does, unless it is deaf. -/
theorem RegisterPort.serve_eq (port : RegisterPort) (access : MapAccess)
    (h : Frame.decode (datagram.take maxFrameLength) = .ok ⟨sequence, access.message⟩) :
    (port.serve datagram).1 = [] ∧ (port.serve datagram).2.map = port.map
      ∨ (port.serve datagram).1 =
          answer port.checksum sequence (.registerReply (access.apply port.map).1)
        ∧ (port.serve datagram).2.map = (access.apply port.map).2 := by
  cases hdeaf : port.deaf with
  | true =>
      left
      simp [RegisterPort.serve, hdeaf]
  | false =>
      rcases serve_of_listens hdeaf h with ⟨hanswers, hmap, -⟩
      exact Or.inr ⟨hanswers, hmap⟩

end Serve

end Drive

namespace Register

/-! ## Calls -/

/-- A register call made after a pause. -/
structure Call where
  access : MapAccess
  cancellation : Cancellation := .never
  pause : Nat := 0

/-- A channel that talks to a register port over a network. -/
abbrev Connection := Conversation (Network RegisterPort)

/-- A channel with nothing under way on the network. -/
def connect (channel : Channel) (port : RegisterPort) (plans : List Plan) : Connection :=
  ⟨channel, { far := { drive := port, plans } }, false⟩

namespace Call

/-- The value a call vouches for: the one it read, or the one it wrote. -/
def talk {σ : Type} (react : FarEnd σ) (call : Call) : Talk σ Value := fun c =>
  match call.access with
  | .read address => readRegister react address call.cancellation c
  | .write address value =>
      match writeRegister react address value call.cancellation c with
      | .ok () after => .ok value after
      | .error cause after => .error cause after

/-- The conversation a call begins on; requests are numbered as the channel counts them. -/
def begin (call : Call) (c : Connection) : Connection :=
  { c with
    line := { c.line.sleep call.pause with far := c.line.far.begin c.channel.stats.requests } }

def make (call : Call) (c : Connection) : EStateM.Result LinkError Connection Value :=
  call.talk RegisterPort.echoing.react (call.begin c)

/-- The datagrams that a call receives. -/
def received (call : Call) (c : Connection) : List (List UInt8) :=
  let begun := call.begin c
  if call.access.barred then []
  else
    match Frame.encode begun.channel.checksum
        ⟨begun.channel.nextSequence, call.access.message⟩ with
    | .error _ => []
    | .ok datagram =>
        heard RegisterPort.echoing.react (begun.pendingAt call.access.address) datagram
          call.cancellation 0 begun.channel.attempts
          (begun.begin call.access.address call.cancellation)

def run (calls : List Call) (c : Connection) : Connection :=
  calls.foldl (fun c call => conversationOf (call.make c)) c

end Call

/-- Requests reach the drive during their own call only. -/
def Prompt (plan : Plan) : Prop := ∀ item ∈ plan.reaching, item = .sent 0

instance (plan : Plan) : Decidable (Prompt plan) :=
  inferInstanceAs (Decidable (∀ item ∈ plan.reaching, item = .sent 0))

/-! ## While a request is under way -/

/-- The port has been asked by this request what its datagram asks, or not at all; if it answered,
the map answers the same again and stays as it is. -/
structure Serving (base : UInt16) (number : Nat) (access : MapAccess) (datagram : List UInt8)
    (net : Network RegisterPort) : Prop where
  current : net.number = number
  sequenced : net.Sequenced isReply base
  prompt : ∀ plan ∈ net.plans, Prompt plan
  sent : ∀ x ∈ net.sent, x.number = number → x.datagram = datagram
  answers : ∀ x ∈ net.answers, x.number = number →
    Frame.decode (x.datagram.take maxFrameLength) =
        .ok ⟨base + .ofNat number, .registerReply (access.apply net.drive.map).1⟩
      ∧ (access.apply net.drive.map).2 = net.drive.map

section Serving

variable {base : UInt16} {number : Nat} {access : MapAccess} {datagram : List UInt8}
variable {net : Network RegisterPort}

/-- An answer is read as the reply it was made of. -/
theorem decode_of_mem_answer {checksum : Bool} {sequence : UInt16} {map : RegisterMap}
    {reply : List UInt8}
    (h : reply ∈ answer checksum sequence (.registerReply (access.apply map).1)) :
    Frame.decode (reply.take maxFrameLength) =
      .ok ⟨sequence, .registerReply (access.apply map).1⟩ :=
  Frame.decode_of_encode (access.canonical_apply map) (encode_of_mem_answer h)

/-- The port handles the datagram of the request once more. -/
theorem Serving.handle (h : Serving base number access datagram net)
    (hdecode : Frame.decode (datagram.take maxFrameLength) =
      .ok ⟨base + .ofNat number, access.message⟩) {x : Logged} (hx : x ∈ net.sent)
    (hnumber : x.number = number) :
    Serving base number access datagram (RegisterPort.echoing.handle x net) := by
  have hdatagram := h.sent x hx hnumber
  have hserved := net.drive.serve_eq access hdecode
  rw [← hdatagram] at hserved
  refine ⟨h.current, h.sequenced.handle hx, h.prompt, h.sent, ?_⟩
  intro told htold hcurrent
  show Frame.decode (told.datagram.take maxFrameLength) =
      .ok ⟨_, .registerReply (access.apply (net.drive.serve x.datagram).2.map).1⟩
    ∧ (access.apply (net.drive.serve x.datagram).2.map).2 = (net.drive.serve x.datagram).2.map
  rcases hserved with ⟨hsilent, hsame⟩ | ⟨hanswered, hmap⟩
  · -- A deaf port says nothing and keeps its map.
    rcases List.mem_append.1 htold with hearlier | hnew
    · rw [hsame]
      exact h.answers told hearlier hcurrent
    · have hnone : told ∈ (net.drive.serve x.datagram).1.map (⟨x.number, ·⟩) := hnew
      rw [hsilent] at hnone
      cases hnone
  · rcases List.mem_append.1 htold with hearlier | hnew
    · -- The earlier answer says that the map stays as it is.
      rcases h.answers told hearlier hcurrent with ⟨htelling, hstays⟩
      rw [hmap, hstays]
      exact ⟨htelling, hstays⟩
    · have hreplies : told ∈ (net.drive.serve x.datagram).1.map (⟨x.number, ·⟩) := hnew
      rw [hanswered] at hreplies
      rcases List.mem_map.1 hreplies with ⟨reply, hreply, rfl⟩
      rw [hmap, access.apply_apply]
      exact ⟨decode_of_mem_answer hreply, rfl⟩

/-- One transmission. -/
theorem Serving.react (h : Serving base number access datagram net)
    (hdecode : Frame.decode (datagram.take maxFrameLength) =
      .ok ⟨base + .ofNat number, access.message⟩) :
    Serving base number access datagram (RegisterPort.echoing.react net datagram).2 := by
  have hstamped : Network.Stamped base ⟨net.number, datagram⟩ := by
    intro frame hframe
    rw [hdecode] at hframe
    cases hframe
    rw [h.current]
  -- The datagram is logged, then whatever reaches the port is of this request.
  refine RegisterPort.echoing.react_induction
    (I := fun after => Serving base number access datagram after) ?_ ?_
  · refine ⟨h.current, ?_, ?_, ?_, h.answers⟩
    · exact h.sequenced.log hstamped
    · intro plan hplan
      exact h.prompt plan (List.mem_of_mem_tail hplan)
    · intro x hx hnumber
      rcases List.mem_append.1 hx with hearlier | hnew
      · exact h.sent x hearlier hnumber
      · rw [List.mem_singleton.1 hnew]
  · intro item hitem after hafter
    have hprompt : item = .sent 0 := by
      cases hplans : net.plans with
      | nil =>
          rw [hplans] at hitem
          cases hitem
      | cons plan rest =>
          rw [hplans] at hitem
          exact h.prompt plan (by rw [hplans]; exact List.mem_cons_self) item hitem
    subst hprompt
    unfold Server.reach
    dsimp only
    split
    · rename_i x hfound
      have hnumber := List.find?_some hfound
      have hcurrent : x.number = number := by
        rw [hafter.current] at hnumber
        simpa using hnumber
      exact hafter.handle hdecode (List.mem_of_find?_eq_some hfound) hcurrent
    · exact hafter

end Serving

/-! ## Between calls -/

/-- The channel and the network number the requests alike; whatever is under way carries the
sequence number of its request and belongs to an earlier one. -/
structure Tracked (base : UInt16) (c : Connection) : Prop where
  nextSequence : c.channel.nextSequence = base + .ofNat c.channel.stats.requests
  number : c.line.far.number ≤ c.channel.stats.requests
  sequenced : c.line.far.Sequenced isReply base
  traced : c.line.far.Traced isReply c.line.queue
  prompt : ∀ plan ∈ c.line.far.plans, Prompt plan
  sent : ∀ x ∈ c.line.far.sent, x.number < c.channel.stats.requests
  answers : ∀ x ∈ c.line.far.answers, x.number < c.channel.stats.requests

section Tracked

variable {base : UInt16} {c : Connection}

theorem tracked_connect (channel : Channel) (port : RegisterPort) {plans : List Plan}
    (hprompt : ∀ plan ∈ plans, Prompt plan) :
    Tracked (channel.nextSequence - .ofNat channel.stats.requests)
      (connect channel port plans) where
  nextSequence := (UInt16.sub_add_cancel _ _).symm
  number := Nat.zero_le _
  sequenced := ⟨by rintro _ ⟨⟩, by rintro _ ⟨⟩⟩
  traced := by rintro _ ⟨⟩
  prompt := hprompt
  sent := by rintro _ ⟨⟩
  answers := by rintro _ ⟨⟩

theorem Tracked.begin (h : Tracked base c) (call : Call) : Tracked base (call.begin c) where
  nextSequence := h.nextSequence
  number := Nat.le_refl _
  sequenced := h.sequenced.begin h.number
  traced := h.traced
  prompt := h.prompt
  sent := h.sent
  answers := h.answers

/-- A request begins with nothing of its own under way. -/
theorem Tracked.serving (h : Tracked base c) (call : Call) (datagram : List UInt8) :
    Serving base c.channel.stats.requests call.access datagram (call.begin c).line.far where
  current := rfl
  sequenced := h.sequenced.begin h.number
  prompt := h.prompt
  sent := by
    intro x hx hnumber
    exact absurd hnumber (Nat.ne_of_lt (h.sent x hx))
  answers := by
    intro x hx hnumber
    exact absurd hnumber (Nat.ne_of_lt (h.answers x hx))

/-- A request that has ended belongs to the past. -/
theorem Serving.tracked {number : Nat} {access : MapAccess} {datagram : List UInt8}
    (h : Serving base number access datagram c.line.far)
    (htraced : c.line.far.Traced isReply c.line.queue)
    (hsequence : c.channel.nextSequence = base + .ofNat (number + 1))
    (hrequests : c.channel.stats.requests = number + 1) : Tracked base c where
  nextSequence := by
    rw [hrequests]
    exact hsequence
  number := by
    rw [hrequests, h.current]
    exact Nat.le_succ number
  sequenced := h.sequenced
  traced := htraced
  prompt := h.prompt
  sent := by
    intro x hx
    have hbound := (h.sequenced.sent x hx).1
    rw [h.current] at hbound
    rw [hrequests]
    exact Nat.lt_succ_of_le hbound
  answers := by
    intro x hx
    have hbound := (h.sequenced.answers x hx).1
    rw [h.current] at hbound
    rw [hrequests]
    exact Nat.lt_succ_of_le hbound

/-- Only the sequence number and the count of requests matter of the channel. -/
theorem Tracked.withChannel (h : Tracked base c) {channel : Channel} {cancelled : Bool}
    (hsequence : channel.nextSequence = c.channel.nextSequence)
    (hrequests : channel.stats.requests = c.channel.stats.requests) :
    Tracked base ⟨channel, c.line, cancelled⟩ where
  nextSequence := by
    rw [hsequence, hrequests]
    exact h.nextSequence
  number := by
    rw [hrequests]
    exact h.number
  sequenced := h.sequenced
  traced := h.traced
  prompt := h.prompt
  sent := by
    rw [hrequests]
    exact h.sent
  answers := by
    rw [hrequests]
    exact h.answers

end Tracked

/-! ## Requests -/

/-- A matching reply carries the sequence number of the request. -/
theorem decode_of_classify {pending : Pending} {bytes : List UInt8} {reply : Reply}
    (h : classify pending (bytes.take maxFrameLength) = .matching reply) :
    Frame.decode (bytes.take maxFrameLength) = .ok ⟨pending.sequence, .registerReply reply⟩
      ∧ isReply bytes := by
  unfold classify at h
  unfold isReply
  split at h
  · cases h
  · rename_i sequence told hdecode
    split at h
    · rename_i hsame
      cases h
      exact ⟨hsame.1 ▸ hdecode, by rw [hdecode]⟩
    · cases h
  · cases h

/-- The call received the reply, and the port gave it. -/
structure Answered (base : UInt16) (call : Call) (c after : Connection) (reply : Reply) : Prop where
  serving : ∃ datagram,
    Serving base c.channel.stats.requests call.access datagram after.line.far
  received : ∃ bytes ∈ call.received c, isReply bytes
    ∧ Frame.decode (bytes.take maxFrameLength) = .ok ⟨c.channel.nextSequence, .registerReply reply⟩
    ∧ ∃ x ∈ after.line.far.answers, x.datagram = bytes

/-- The ways a request ends. -/
inductive Requested (base : UInt16) (call : Call) (c : Connection) :
    EStateM.Result LinkError Connection Reply → Prop where
  | answered {reply : Reply} {after : Connection} (htracked : Tracked base after)
      (hanswered : Answered base call c after reply) (hok : reply.status.isOk) :
      Requested base call c (.ok reply after)
  | refused {reply : Reply} {after : Connection} (htracked : Tracked base after)
      (hanswered : Answered base call c after reply) :
      Requested base call c (.error (.register call.access.address reply.status) after)
  | failed {cause : LinkError} {after : Connection} (htracked : Tracked base after)
      (hcause : ∀ address status, cause ≠ .register address status) :
      Requested base call c (.error cause after)

section Requests

variable {base : UInt16} {c : Connection} {call : Call}

/-- The transmissions of a request keep what holds while it is under way. -/
theorem Tracked.transacted (h : Tracked base c) {datagram : List UInt8}
    (hencode : Frame.encode (call.begin c).channel.checksum
      ⟨(call.begin c).channel.nextSequence, call.access.message⟩ = .ok datagram) :
    Transacted
      (fun far queue => Serving base c.channel.stats.requests call.access datagram far
        ∧ far.Traced isReply queue)
      ((call.begin c).pendingAt call.access.address)
      ((call.begin c).begin call.access.address call.cancellation)
      (heard RegisterPort.echoing.react ((call.begin c).pendingAt call.access.address) datagram
        call.cancellation 0 (call.begin c).channel.attempts
        ((call.begin c).begin call.access.address call.cancellation))
      (transact RegisterPort.echoing.react ((call.begin c).pendingAt call.access.address) datagram
        call.cancellation 0 (call.begin c).channel.attempts
        ((call.begin c).begin call.access.address call.cancellation)) := by
  have hdecode : Frame.decode (datagram.take maxFrameLength) =
      .ok ⟨base + .ofNat c.channel.stats.requests, call.access.message⟩ := by
    rw [← h.nextSequence]
    exact Frame.decode_of_encode call.access.canonical_message hencode
  refine transacted_transact ?_ ?_ _ _ _ _ ⟨h.serving call datagram, h.traced⟩
  · rintro line ⟨hserving, htraced⟩
    refine ⟨?_, htraced.send datagram⟩
    rw [Line.far_send]
    exact hserving.react hdecode
  · rintro far queue rest hrest ⟨hserving, htraced⟩
    exact ⟨hserving, htraced.of_subset hrest.subset⟩

theorem Tracked.requested (h : Tracked base c) (hbarred : call.access.barred = false) :
    Requested base call c (request RegisterPort.echoing.react call.access.message
      call.access.address call.cancellation (call.begin c)) := by
  have hnext := Network.sequence_succ h.nextSequence
  rcases request_cases RegisterPort.echoing.react call.access.message call.access.address
    call.cancellation (call.begin c) with ⟨cause, hencode, hfailed⟩ | ⟨datagram, hencode, hmade⟩
  · -- What does not fit a frame is not sent, but takes a number.
    rw [hfailed]
    refine .failed ?_ (by rintro address status ⟨⟩)
    exact (h.serving call []).tracked
      (c := ((call.begin c).begin call.access.address call.cancellation).settle) h.traced hnext rfl
  · have htransacted := h.transacted hencode
    have hreceived : call.received c =
        heard RegisterPort.echoing.react ((call.begin c).pendingAt call.access.address) datagram
          call.cancellation 0 (call.begin c).channel.attempts
          ((call.begin c).begin call.access.address call.cancellation) := by
      unfold Call.received
      dsimp only
      rw [hbarred, hencode]
      rfl
    rw [← hreceived] at htransacted
    rw [hmade]
    generalize transact RegisterPort.echoing.react
      ((call.begin c).pendingAt call.access.address) datagram call.cancellation 0
      (call.begin c).channel.attempts
      ((call.begin c).begin call.access.address call.cancellation) = result at htransacted ⊢
    have htracked : Tracked base (conversationOf result).settle :=
      htransacted.kept.1.tracked (c := (conversationOf result).settle) htransacted.kept.2
        (htransacted.nextSequence.trans hnext) htransacted.requests
    cases result with
    | error cause after =>
        refine .failed htracked ?_
        rintro address status rfl
        exact htransacted.unrefused address status after rfl
    | ok reply after =>
        have hanswered : Answered base call c after.settle reply := by
          rcases htransacted.answered reply after rfl with
            ⟨bytes, hheard, hmatching, queue, ⟨-, htraced⟩, a, hqueued, hdelivery⟩
          rcases decode_of_classify hmatching with ⟨hdecode, hreply⟩
          exact ⟨⟨datagram, htransacted.kept.1⟩, bytes, hheard, hreply, hdecode,
            htraced a hqueued bytes hdelivery hreply⟩
        unfold concluded
        dsimp only
        split
        · rename_i hok
          exact .answered htracked hanswered hok
        · exact .refused htracked hanswered

/-! ## Runs -/

/-- The ways a call ends; one that is barred sends nothing. -/
inductive Made (base : UInt16) (call : Call) (c : Connection) :
    EStateM.Result LinkError Connection Value → Prop where
  | read {address : Address} {value : Value} {reply : Reply} {after : Connection}
      (htracked : Tracked base after) (hanswered : Answered base call c after reply)
      (haccess : call.access = .read address) (hok : reply.status.isOk)
      (hvalue : reply.value = some value) :
      Made base call c (.ok value after)
  | written {address : Address} {value : Value} {reply : Reply} {after : Connection}
      (htracked : Tracked base after) (hanswered : Answered base call c after reply)
      (haccess : call.access = .write address value) (hok : reply.status.isOk) :
      Made base call c (.ok value after)
  | refused {reply : Reply} {after : Connection} (htracked : Tracked base after)
      (hanswered : Answered base call c after reply) :
      Made base call c (.error (.register call.access.address reply.status) after)
  | barred {after : Connection} (htracked : Tracked base after) (hbarred : call.access.barred)
      (hline : after.line = (call.begin c).line) :
      Made base call c (.error (.register call.access.address .readOnly) after)
  | failed {cause : LinkError} {after : Connection} (htracked : Tracked base after)
      (hcause : ∀ address status, cause ≠ .register address status) :
      Made base call c (.error cause after)

theorem Tracked.made_read (h : Tracked base c) {address : Address}
    (haccess : call.access = .read address) : Made base call c (call.make c) := by
  have hrequested : Requested base call c (request RegisterPort.echoing.react
      (.registerRead address) address call.cancellation (call.begin c)) := by
    have hopen : call.access.barred = false := congrArg MapAccess.barred haccess
    have hasked := h.requested hopen
    rw [haccess] at hasked
    exact hasked
  unfold Call.make Call.talk
  rw [haccess]
  dsimp only
  rw [readRegister_eq]
  generalize request RegisterPort.echoing.react (.registerRead address) address
    call.cancellation (call.begin c) = result at hrequested ⊢
  cases hrequested with
  | answered htracked hanswered hok =>
      rename_i reply after
      dsimp only
      -- The port gives no such reply, but reading does not rely on it.
      cases hvalue : reply.value with
      | none => exact .failed htracked (by rintro address status ⟨⟩)
      | some value =>
          have hread : Answered base call c { after with
              channel := { after.channel with lastRead := some (address, value) } } reply :=
            ⟨hanswered.serving, hanswered.received⟩
          exact .read (htracked.withChannel rfl rfl) hread haccess hok hvalue
  | refused htracked hanswered => exact .refused htracked hanswered
  | failed htracked hcause => exact .failed htracked hcause

theorem Tracked.made_write (h : Tracked base c) {address : Address} {value : Value}
    (haccess : call.access = .write address value) : Made base call c (call.make c) := by
  have hrequested : call.access.barred = false → Requested base call c
      (request RegisterPort.echoing.react (.registerWrite ⟨address, value⟩) address
        call.cancellation (call.begin c)) := by
    intro hopen
    have hasked := h.requested hopen
    rw [haccess] at hasked
    exact hasked
  have haddress : call.access.address = address := congrArg MapAccess.address haccess
  have hbarred : call.access.barred =
      (descriptor? address).any fun d => d.access == .readOnly := congrArg MapAccess.barred haccess
  unfold Call.make Call.talk
  rw [haccess]
  dsimp only
  rw [writeRegister_eq, ← hbarred]
  cases hrefusing : call.access.barred with
  | true =>
      rw [← haddress]
      exact .barred ((h.begin call).withChannel rfl rfl) hrefusing rfl
  | false =>
      replace hrequested := hrequested hrefusing
      generalize request RegisterPort.echoing.react (.registerWrite ⟨address, value⟩) address
        call.cancellation (call.begin c) = result at hrequested ⊢
      cases hrequested with
      | answered htracked hanswered hok => exact .written htracked hanswered haccess hok
      | refused htracked hanswered => exact .refused htracked hanswered
      | failed htracked hcause => exact .failed htracked hcause

theorem Tracked.made (h : Tracked base c) (call : Call) : Made base call c (call.make c) := by
  cases haccess : call.access with
  | read address => exact h.made_read haccess
  | write address value => exact h.made_write haccess

theorem Made.tracked {result : EStateM.Result LinkError Connection Value}
    (h : Made base call c result) : Tracked base (conversationOf result) := by
  cases h with
  | read htracked => exact htracked
  | written htracked => exact htracked
  | refused htracked => exact htracked
  | barred htracked => exact htracked
  | failed htracked => exact htracked

/-- The invariant holds throughout every run. -/
theorem Tracked.run (h : Tracked base c) (calls : List Call) : Tracked base (Call.run calls c) := by
  induction calls generalizing c with
  | nil => exact h
  | cons call rest ih => exact ih (h.made call).tracked

end Requests

end Register
end ServoLink
