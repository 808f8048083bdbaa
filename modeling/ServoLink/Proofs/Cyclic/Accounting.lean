import ServoLink.Proofs.Cyclic.Attribution
import ServoLink.Proofs.Cyclic.Trace

/-!
# Accounting — what the counters of a channel say of its run

A channel makes one exchange after another over any line: datagrams arrive or not, in time or late,
and sends and receives fail.  `history` keeps what was asked and the link that each exchange began
on, so that everything the channel counts can be counted again from outside.

* `Kind` — the four ways in which a received datagram is counted, `kindOf_eq_stale_iff` and its
  like for when;
* `Settled` — what one exchange does to the channel;
* `Accounts` — the counters, the sequence numbers and the datagrams sent, against the history;
* `accounts_history` — they agree after every run from a new channel.
-/

namespace ServoLink
namespace Cyclic

open Wire ProcessData Net

/-! ## Kinds of datagrams -/

/-- How a received datagram is counted. -/
inductive Kind where
  | accepted
  | stale
  | unexpected
  | undecodable
  deriving DecidableEq, Repr

def Answer.kind : Answer → Kind
  | accepted _ => .accepted
  | stale => .stale
  | unexpected => .unexpected
  | undecodable => .undecodable

/-- The kind of a datagram received while the echo of `sequence` is awaited. -/
def kindOf (sequence : UInt16) (bytes : List UInt8) : Kind :=
  (classify sequence (bytes.take maxFrameLength)).kind

/-- The counter of a kind. -/
def Stats.counter (s : Stats) : Kind → Nat
  | .accepted => s.accepted
  | .stale => s.stale
  | .unexpected => s.unexpected
  | .undecodable => s.undecodable

/-- The older numbers are the 32767 before. -/
theorem isOlder_iff {a b : UInt16} :
    isOlder a b = true ↔ ∃ k, 1 ≤ k ∧ k ≤ 32767 ∧ a = b - .ofNat k := by
  have hback (x : UInt16) : b - (b - x) = x := by
    calc b - (b - x) = x + (b - x) - (b - x) := by rw [UInt16.add_comm, UInt16.sub_add_cancel]
      _ = x := UInt16.add_sub_cancel x (b - x)
  unfold isOlder
  rw [Bool.and_eq_true, bne_iff_ne, decide_eq_true_eq, UInt16.lt_iff_toNat_lt]
  constructor
  · rintro ⟨hdifferent, hnear⟩
    have hpositive : (b - a).toNat ≠ 0 := fun hzero => hdifferent (UInt16.toNat_inj.1 hzero)
    have hnear : (b - a).toNat < 32768 := hnear
    refine ⟨(b - a).toNat, by omega, by omega, ?_⟩
    rw [UInt16.ofNat_toNat, hback]
  · rintro ⟨k, hpositive, hnear, rfl⟩
    have hk : (UInt16.ofNat k).toNat = k :=
      UInt16.toNat_ofNat_of_lt' (Nat.lt_of_le_of_lt hnear (by decide))
    rw [hback]
    refine ⟨?_, ?_⟩
    · intro hzero
      rw [hzero] at hk
      exact absurd hk (Nat.ne_of_lt hpositive)
    · show (UInt16.ofNat k).toNat < 32768
      omega

section kindOf

variable {sequence : UInt16} {bytes : List UInt8}

theorem kindOf_eq_accepted_iff : kindOf sequence bytes = .accepted ↔
    ∃ status, Frame.decode (bytes.take maxFrameLength) = .ok ⟨sequence, .status status⟩ := by
  unfold kindOf classify
  split
  · simp_all [Answer.kind]
  · split
    · simp_all [Answer.kind]
    · split <;> simp_all [Answer.kind]
  · simp_all [Answer.kind]

/-- A stale datagram answers one of the 32767 exchanges before. -/
theorem kindOf_eq_stale_iff : kindOf sequence bytes = .stale ↔
    ∃ status k, 1 ≤ k ∧ k ≤ 32767
      ∧ Frame.decode (bytes.take maxFrameLength) = .ok ⟨sequence - .ofNat k, .status status⟩ := by
  unfold kindOf classify
  cases hdecode : Frame.decode (bytes.take maxFrameLength) with
  | error cause => simp [Answer.kind]
  | ok frame =>
      rcases frame with ⟨echoed, message⟩
      cases message with
      | status told =>
          have holder : (∃ status k, 1 ≤ k ∧ k ≤ 32767
              ∧ (Except.ok ⟨echoed, .status told⟩ : Except FrameError Frame)
                = .ok ⟨sequence - .ofNat k, .status status⟩) ↔ isOlder echoed sequence := by
            rw [isOlder_iff]
            constructor
            · rintro ⟨status, k, hlow, hhigh, hsame⟩
              cases hsame
              exact ⟨k, hlow, hhigh, rfl⟩
            · rintro ⟨k, hlow, hhigh, rfl⟩
              exact ⟨told, k, hlow, hhigh, rfl⟩
          rw [holder]
          dsimp only
          split
          · rename_i hsame
            simp [Answer.kind, isOlder, hsame]
          · split
            · rename_i hold
              exact iff_of_true rfl hold
            · rename_i hold
              exact iff_of_false (by rintro ⟨⟩) hold
      | _ => simp [Answer.kind]

theorem kindOf_eq_undecodable_iff : kindOf sequence bytes = .undecodable ↔
    ∃ cause, Frame.decode (bytes.take maxFrameLength) = .error cause := by
  unfold kindOf classify
  cases hdecode : Frame.decode (bytes.take maxFrameLength) with
  | error cause => simp [Answer.kind]
  | ok frame =>
      rcases frame with ⟨echoed, message⟩
      cases message with
      | status told =>
          dsimp only
          split
          · simp [Answer.kind]
          · split <;> simp [Answer.kind]
      | _ => simp [Answer.kind]

end kindOf

/-! ## One exchange -/

variable {σ : Type}

/-- The channel once the datagrams are passed over. -/
def passOver (sequence : UInt16) (channel : Channel) (datagrams : List (List UInt8)) : Channel :=
  datagrams.foldl (fun c bytes => c.discard (classify sequence (bytes.take maxFrameLength))) channel

/-- What the end of the exchange adds to the books. -/
def Channel.close (c : Channel) (sequence : UInt16) : Outcome → Channel
  | .answered => c.accept sequence
  | .missed => c.miss
  | .failed => c

/-- The exchange took the datagrams, counted each, and then what it came to. -/
structure Settled (sequence : UInt16) (channel : Channel) (datagrams : List (List UInt8))
    (result : EStateM.Result LinkError (Link σ) StatusResponse) : Prop where
  channel : (linkOf result).channel =
    (passOver sequence channel datagrams).close sequence (.of result)
  /-- It ends with the datagram it accepts. -/
  accepted : (datagrams.map (kindOf sequence)).count .accepted =
    [Outcome.of result].count .answered
  failed : Outcome.of result = .failed → ∃ detail link, result = .error (.socket detail) link

/-- A wait leaves the end of the queue. -/
theorem Ended.queue {sequence : UInt16} {queue : List Arrival} {link : Link σ}
    {result : EStateM.Result LinkError (Link σ) StatusResponse}
    (h : Ended sequence queue link result) : (linkOf result).line.queue <:+ queue := by
  cases h with
  | accepted hpassed _ _ => exact hpassed.queue
  | missed hpassed => exact hpassed.queue
  | failed hpassed => exact hpassed.queue

section Settled

variable {sequence : UInt16} {channel : Channel} {bytes : List UInt8} {status : StatusResponse}
  {queue rest : List Arrival} {datagrams : List (List UInt8)} {link : Link σ}
  {result : EStateM.Result LinkError (Link σ) StatusResponse}

theorem taken_self (queue : List Arrival) : taken queue queue = [] := taken_append [] queue

theorem taken_cons (h : rest <:+ queue) (a : Arrival) :
    taken (a :: queue) rest = a.delivery.bytes?.toList ++ taken queue rest := by
  rcases h with ⟨front, rfl⟩
  rw [← List.cons_append, taken_append, taken_append, List.filterMap_cons]
  cases a.delivery.bytes? <;> rfl

theorem Outcome.of_missError (channel : Channel) (link : Link σ) :
    Outcome.of (.error channel.missError link : EStateM.Result LinkError (Link σ) StatusResponse)
      = .missed := by
  unfold Channel.missError
  split <;> rfl

/-- A wait that is missed at once took nothing. -/
theorem settled_missed (sequence : UInt16) (channel : Channel) (line : Line σ) :
    Settled sequence channel []
      (.error channel.missError ⟨channel.miss, line⟩ :
        EStateM.Result LinkError (Link σ) StatusResponse) where
  channel := by
    rw [Outcome.of_missError]
    rfl
  accepted := by
    rw [Outcome.of_missError]
    rfl
  failed := by
    rw [Outcome.of_missError]
    rintro ⟨⟩

theorem settled_failed (sequence : UInt16) (link : Link σ) (detail : String) :
    Settled sequence link.channel [] (.error (.socket detail) link) where
  channel := rfl
  accepted := rfl
  failed := fun _ => ⟨detail, link, rfl⟩

theorem status_of_kindOf (h : kindOf sequence bytes = .accepted) :
    ∃ status, classify sequence (bytes.take maxFrameLength) = .accepted status := by
  unfold kindOf at h
  cases hanswer : classify sequence (bytes.take maxFrameLength) with
  | accepted status => exact ⟨status, rfl⟩
  | _ =>
      rw [hanswer] at h
      cases h

/-- A wait that ends at once with the status. -/
theorem settled_accepted
    (h : classify sequence (bytes.take maxFrameLength) = .accepted status) (channel : Channel)
    (line : Line σ) :
    Settled sequence channel [bytes] (.ok status ⟨channel.accept sequence, line⟩) where
  channel := by
    show channel.accept sequence = (channel.discard (classify _ _)).accept sequence
    rw [h]
    rfl
  accepted := by
    have hkind : kindOf sequence bytes = .accepted := congrArg Answer.kind h
    rw [List.map_singleton, hkind]
    rfl
  failed := by rintro ⟨⟩

/-- A datagram that does not complete the exchange comes first. -/
theorem Settled.cons
    (h : Settled sequence (channel.discard (classify sequence (bytes.take maxFrameLength)))
      datagrams result)
    (hother : kindOf sequence bytes ≠ .accepted) :
    Settled sequence channel (bytes :: datagrams) result where
  channel := h.channel
  accepted := by
    rw [List.map_cons, List.count_cons_of_ne hother]
    exact h.accepted
  failed := h.failed

/-- The line once the arrival at the front of its queue is received. -/
def receive (a : Arrival) (rest : List Arrival) (line : Line σ) : Line σ :=
  { line with now := max line.now a.time, queue := rest }

/-- A wait accounts for what it takes from the queue. -/
theorem settled_await (sequence : UInt16) (deadline : Nat) (queue : List Arrival) (link : Link σ) :
    Settled sequence link.channel
      (taken queue (linkOf (await sequence deadline queue link)).line.queue)
      (await sequence deadline queue link) := by
  -- Along the queue: an arrival ends the wait, or is passed over and the rest is waited through.
  induction queue generalizing link with
  | nil => exact settled_missed _ _ _
  | cons a rest ih =>
      unfold await
      split
      · -- The deadline has passed, and the queue is left as it is.
        show Settled sequence link.channel (taken (a :: rest) (a :: rest)) _
        rw [taken_self]
        exact settled_missed _ _ _
      · dsimp only
        split
        · -- The receive fails: nothing is taken that would have to be counted.
          rename_i detail hfailure
          show Settled sequence link.channel (taken (a :: rest) rest) _
          rw [taken_cons List.suffix_rfl, taken_self, hfailure]
          exact settled_failed sequence ⟨link.channel, receive a rest link.line⟩ detail
        · rename_i bytes hbytes
          split
          · rename_i status hstatus
            show Settled sequence link.channel (taken (a :: rest) rest) _
            rw [taken_cons List.suffix_rfl, taken_self, hbytes]
            exact settled_accepted hstatus link.channel (receive a rest link.line)
          · rename_i hother
            let next : Link σ :=
              ⟨link.channel.discard (classify sequence (bytes.take maxFrameLength)),
                receive a rest link.line⟩
            have hleft := (ended_await sequence deadline rest next).queue
            have hrefused : kindOf sequence bytes ≠ .accepted := by
              intro haccepted
              rcases status_of_kindOf haccepted with ⟨status, hstatus⟩
              exact hother status hstatus
            show Settled sequence link.channel
              (taken (a :: rest) (linkOf (await sequence deadline rest next)).line.queue)
              (await sequence deadline rest next)
            rw [taken_cons hleft, hbytes]
            exact (ih next).cons hrefused

section exchange

variable (react : FarEnd σ) {request : ControlRequest} (timeout : Nat) {link : Link σ}
  {datagram : List UInt8} {line : Line σ}

theorem exchange_of_unsent {detail : String}
    (hencode : Frame.encode link.channel.checksum
      ⟨link.channel.nextSequence, .control request⟩ = .ok datagram)
    (hsend : link.line.send react datagram = (.error detail, line)) :
    exchange react request timeout link = .error (.socket detail) ⟨link.channel.begin, line⟩ := by
  have hbegun : Frame.encode link.channel.begin.checksum
      ⟨link.channel.nextSequence, .control request⟩ = .ok datagram := hencode
  unfold exchange
  simp only [hbegun, hsend]

theorem exchange_of_sent
    (hencode : Frame.encode link.channel.checksum
      ⟨link.channel.nextSequence, .control request⟩ = .ok datagram)
    (hsend : link.line.send react datagram = (.ok (), line)) :
    exchange react request timeout link =
      await link.channel.nextSequence (line.now + timeout) line.queue
        ⟨link.channel.begin, line⟩ := by
  have hbegun : Frame.encode link.channel.begin.checksum
      ⟨link.channel.nextSequence, .control request⟩ = .ok datagram := hencode
  unfold exchange
  simp only [hbegun, hsend]

/-- An exchange accounts for what it takes from the queue once its request is sent. -/
theorem settled_exchange
    (hencode : Frame.encode link.channel.checksum
      ⟨link.channel.nextSequence, .control request⟩ = .ok datagram) :
    Settled link.channel.nextSequence link.channel.begin
      (taken (link.line.send react datagram).2.queue
        (linkOf (exchange react request timeout link)).line.queue)
      (exchange react request timeout link) := by
  cases hsend : link.line.send react datagram with
  | mk result line =>
      cases result with
      | error detail =>
          rw [exchange_of_unsent react timeout hencode hsend]
          show Settled _ _ (taken line.queue line.queue) _
          rw [taken_self]
          exact settled_failed _ ⟨link.channel.begin, line⟩ detail
      | ok =>
          rw [exchange_of_sent react timeout hencode hsend]
          exact settled_await _ _ _ ⟨link.channel.begin, line⟩

end exchange

/-! ## Counters -/

/-- What passing over datagrams leaves of a channel. -/
theorem passOver_eq (sequence : UInt16) (channel : Channel) (datagrams : List (List UInt8)) :
    ∃ stale unexpected undecodable, passOver sequence channel datagrams =
      { channel with stats := { channel.stats with stale, unexpected, undecodable } } := by
  induction datagrams generalizing channel with
  | nil => exact ⟨_, _, _, rfl⟩
  | cons bytes rest ih =>
      rcases discard_eq channel (classify sequence (bytes.take maxFrameLength)) with
        ⟨_, _, _, hdiscard⟩
      show ∃ _ _ _, passOver sequence (channel.discard _) rest = _
      rw [hdiscard]
      exact ih _

theorem counter_discard (channel : Channel) (answer : Answer) {kind : Kind}
    (h : kind ≠ .accepted) :
    (channel.discard answer).stats.counter kind =
      channel.stats.counter kind + [answer.kind].count kind := by
  cases answer <;> cases kind <;> first | rfl | exact absurd rfl h

/-- Every datagram is counted as what it is. -/
theorem counter_passOver (sequence : UInt16) (channel : Channel) (datagrams : List (List UInt8))
    {kind : Kind} (h : kind ≠ .accepted) :
    (passOver sequence channel datagrams).stats.counter kind =
      channel.stats.counter kind + (datagrams.map (kindOf sequence)).count kind := by
  induction datagrams generalizing channel with
  | nil => rfl
  | cons bytes rest ih =>
      calc (passOver sequence channel (bytes :: rest)).stats.counter kind
          = (channel.discard (classify sequence (bytes.take maxFrameLength))).stats.counter kind
              + (rest.map (kindOf sequence)).count kind := ih _
        _ = channel.stats.counter kind + [kindOf sequence bytes].count kind
              + (rest.map (kindOf sequence)).count kind := by
            rw [counter_discard channel _ h]
            rfl
        _ = channel.stats.counter kind
              + ((bytes :: rest).map (kindOf sequence)).count kind := by
            rw [Nat.add_assoc, ← List.count_append]
            rfl

/-- Apart from the counters of datagrams, the channel is changed by the end of the exchange. -/
theorem Settled.closed (h : Settled sequence channel datagrams result) :
    ∃ stale unexpected undecodable, (linkOf result).channel =
      Channel.close { channel with stats := { channel.stats with stale, unexpected, undecodable } }
        sequence (.of result) := by
  rcases passOver_eq sequence channel datagrams with ⟨stale, unexpected, undecodable, hpassed⟩
  refine ⟨stale, unexpected, undecodable, ?_⟩
  rw [h.channel, hpassed]

theorem Settled.frame (h : Settled sequence channel datagrams result) :
    (linkOf result).channel.checksum = channel.checksum
      ∧ (linkOf result).channel.nextSequence = channel.nextSequence
      ∧ (linkOf result).channel.stats.exchanges = channel.stats.exchanges := by
  rcases h.closed with ⟨_, _, _, hclosed⟩
  rw [hclosed]
  cases Outcome.of result <;> exact ⟨rfl, rfl, rfl⟩

theorem Settled.counts (h : Settled sequence channel datagrams result) :
    (linkOf result).channel.stats.accepted =
        channel.stats.accepted + [Outcome.of result].count .answered
      ∧ (linkOf result).channel.stats.misses =
        channel.stats.misses + [Outcome.of result].count .missed := by
  rcases h.closed with ⟨_, _, _, hclosed⟩
  rw [hclosed]
  cases Outcome.of result <;> exact ⟨rfl, rfl⟩

/-- Every datagram an exchange takes is counted, once. -/
theorem Settled.counter (h : Settled sequence channel datagrams result) (kind : Kind) :
    (linkOf result).channel.stats.counter kind =
      channel.stats.counter kind + (datagrams.map (kindOf sequence)).count kind := by
  by_cases hkind : kind = .accepted
  · -- An exchange accepts a datagram when it is answered, and then no other.
    rw [hkind, h.accepted]
    exact h.counts.1
  · rw [← counter_passOver sequence channel datagrams hkind, h.channel]
    cases Outcome.of result <;> cases kind <;> first | rfl | exact absurd rfl hkind

/-- The misses in a row start again with an answer. -/
theorem Settled.latches (h : Settled sequence channel datagrams result) :
    (linkOf result).channel.consecutiveMisses =
        (match Outcome.of result with
          | .answered => 0
          | .missed => min (channel.consecutiveMisses + 1) (UInt32.size - 1)
          | .failed => channel.consecutiveMisses)
      ∧ (linkOf result).channel.lastAccepted =
        if Outcome.of result = .answered then some sequence else channel.lastAccepted := by
  rcases h.closed with ⟨_, _, _, hclosed⟩
  rw [hclosed]
  cases Outcome.of result <;> exact ⟨rfl, rfl⟩

end Settled

/-! ## Histories -/

/-- The link a call begins on, after its pause. -/
def Call.rest (call : Call) (link : Link σ) : Link σ :=
  { link with line := link.line.sleep call.pause }

/-- An exchange over any line. -/
def Call.over (react : FarEnd σ) (call : Call) (link : Link σ) :
    EStateM.Result LinkError (Link σ) StatusResponse :=
  exchange react call.request call.timeout (call.rest link)

/-- The link after a run of exchanges. -/
def finish (react : FarEnd σ) (calls : List Call) (link : Link σ) : Link σ :=
  calls.foldl (fun link call => linkOf (call.over react link)) link

/-- An exchange of a run: its number, what was asked, and the link before. -/
structure Made (σ : Type) where
  number : Nat
  call : Call
  before : Link σ

/-- The exchanges of a run, the first with the given number. -/
def history (react : FarEnd σ) (number : Nat) : List Call → Link σ → List (Made σ)
  | [], _ => []
  | call :: later, link =>
      ⟨number, call, link⟩ :: history react (number + 1) later (linkOf (call.over react link))

namespace Made

variable (react : FarEnd σ) (m : Made σ)

def sequence : UInt16 := .ofNat m.number

def result : EStateM.Result LinkError (Link σ) StatusResponse := m.call.over react m.before

def outcome : Outcome := .of (m.result react)

/-- The control frame of the exchange, as a datagram. -/
def datagram (checksum : Bool) : Except FrameError (List UInt8) :=
  Frame.encode checksum ⟨m.sequence, .control m.call.request⟩

/-- The datagrams that the exchange takes from the transport: those that wait in the queue once its
control frame is sent, up to where it leaves the queue. -/
def received : List (List UInt8) :=
  match m.datagram m.before.channel.checksum with
  | .error _ => []
  | .ok datagram =>
      taken ((m.call.rest m.before).line.send react datagram).2.queue
        (linkOf (m.result react)).line.queue

def kinds : List Kind := (m.received react).map (kindOf m.sequence)

/-- An exchange under its number sends its control frame once and accounts for what it takes. -/
theorem settled {m : Made σ} (hsequence : m.before.channel.nextSequence = m.sequence) :
    ∃ datagram, m.datagram m.before.channel.checksum = .ok datagram
      ∧ (linkOf (m.result react)).line.sent = datagram :: m.before.line.sent
      ∧ Settled m.sequence m.before.channel.begin (m.received react) (m.result react) := by
  rcases sent_exchange react m.call.request m.call.timeout (m.call.rest m.before) with
    ⟨datagram, hencode, hsent⟩
  have hdatagram : m.datagram m.before.channel.checksum = .ok datagram := by
    unfold Made.datagram
    rw [← hsequence]
    exact hencode
  refine ⟨datagram, hdatagram, hsent, ?_⟩
  have hsettled := settled_exchange react m.call.timeout hencode
  unfold Made.received
  rw [hdatagram, ← hsequence]
  exact hsettled

end Made

/-- The misses since the last answer; failures are none. -/
def missesSince (outcomes : List Outcome) : Nat :=
  (outcomes.reverse.takeWhile (· != .answered)).count .missed

theorem missesSince_concat (outcomes : List Outcome) (last : Outcome) :
    missesSince (outcomes ++ [last]) =
      match last with
      | .answered => 0
      | .missed => missesSince outcomes + 1
      | .failed => missesSince outcomes := by
  unfold missesSince
  cases last <;> simp

/-- The exchange that was answered last. -/
def lastAnswered? (react : FarEnd σ) (past : List (Made σ)) : Option (Made σ) :=
  past.reverse.find? (·.outcome react == .answered)

theorem lastAnswered?_concat (react : FarEnd σ) (past : List (Made σ)) (m : Made σ) :
    lastAnswered? react (past ++ [m]) =
      if m.outcome react = .answered then some m else lastAnswered? react past := by
  unfold lastAnswered?
  rw [List.reverse_append, List.reverse_singleton, List.singleton_append]
  split
  · rename_i hanswered
    exact List.find?_cons_of_pos (beq_iff_eq.2 hanswered)
  · rename_i hother
    exact List.find?_cons_of_neg (fun hsame => hother (beq_iff_eq.1 hsame))

/-! ## The books -/

/-- The channel and the sent datagrams agree with the history of a run from a new channel on the
line. -/
structure Accounts (react : FarEnd σ) (checksum : Bool) (line : Line σ) (calls : List Call)
    (past : List (Made σ)) (link : Link σ) : Prop where
  withChecksum : link.channel.checksum = checksum
  /-- Every call is one exchange. -/
  made : past.map (·.call) = calls
  numbers : past.map (·.number) = List.range past.length
  /-- Every exchange sent its control frame, under its number, and no more. -/
  sent : ∃ datagrams : List (List UInt8),
    past.map (·.datagram checksum) = datagrams.map .ok
      ∧ link.line.sent = datagrams.reverse ++ line.sent
  nextSequence : link.channel.nextSequence = .ofNat past.length
  exchanges : link.channel.stats.exchanges = past.length
  accepted : link.channel.stats.accepted = (past.map (·.outcome react)).count .answered
  misses : link.channel.stats.misses = (past.map (·.outcome react)).count .missed
  /-- The exchanges that are neither accepted nor missed ended with an error of the transport. -/
  failed : ∀ m ∈ past, m.outcome react = .failed →
    ∃ detail after, m.result react = .error (.socket detail) after
  /-- As far as a 32-bit counter goes. -/
  consecutiveMisses : link.channel.consecutiveMisses =
    min (missesSince (past.map (·.outcome react))) (UInt32.size - 1)
  lastAccepted : link.channel.lastAccepted = (lastAnswered? react past).map (·.sequence)
  /-- Every datagram taken is in the counter of its kind. -/
  counter : ∀ kind, link.channel.stats.counter kind = (past.flatMap (·.kinds react)).count kind

theorem accounts_new (react : FarEnd σ) (checksum : Bool) (threshold period : Nat)
    (line : Line σ) :
    Accounts react checksum line [] [] ⟨Channel.new checksum threshold period, line⟩ where
  withChecksum := rfl
  made := rfl
  numbers := rfl
  sent := ⟨[], rfl, rfl⟩
  nextSequence := rfl
  exchanges := rfl
  accepted := rfl
  misses := rfl
  failed := by rintro _ ⟨⟩
  consecutiveMisses := rfl
  lastAccepted := rfl
  counter := by rintro ⟨⟩ <;> rfl

section Accounts

variable {react : FarEnd σ} {checksum : Bool} {line : Line σ} {calls : List Call}
  {past : List (Made σ)} {link : Link σ}

/-- Counting stops at the bound. -/
theorem min_min_succ (n bound : Nat) : min (min n bound + 1) bound = min (n + 1) bound := by
  omega

/-- One more exchange. -/
theorem Accounts.make (h : Accounts react checksum line calls past link) (call : Call) :
    Accounts react checksum line (calls ++ [call]) (past ++ [⟨past.length, call, link⟩])
      (linkOf (call.over react link)) := by
  generalize hm : (⟨past.length, call, link⟩ : Made σ) = m
  have hresult : call.over react link = m.result react := by rw [← hm]; rfl
  have hbefore : m.before = link := by rw [← hm]
  have hsequence : m.before.channel.nextSequence = m.sequence := by
    rw [hbefore, h.nextSequence, ← hm]
    rfl
  rcases Made.settled react hsequence with ⟨datagram, hdatagram, hsent, hsettled⟩
  rw [hbefore] at hdatagram hsent hsettled
  rw [hresult]
  rcases hsettled.frame with ⟨hchecksum, hnext, hexchanges⟩
  rcases hsettled.counts with ⟨haccepted, hmisses⟩
  rcases hsettled.latches with ⟨hconsecutive, hlast⟩
  constructor
  case withChecksum => exact hchecksum.trans h.withChecksum
  case made => rw [List.map_append, h.made, ← hm]; rfl
  case numbers =>
    rw [List.map_append, h.numbers, List.length_append, List.length_singleton, List.range_succ,
      ← hm]
    rfl
  case sent =>
    rcases h.sent with ⟨datagrams, hdatagrams, hbase⟩
    refine ⟨datagrams ++ [datagram], ?_, ?_⟩
    · rw [List.map_append, List.map_append, hdatagrams, List.map_singleton, ← h.withChecksum,
        hdatagram]
      rfl
    · rw [hsent, hbase, List.reverse_append]
      rfl
  case nextSequence =>
    rw [hnext, List.length_append, UInt16.ofNat_add, ← h.nextSequence]
    rfl
  case exchanges =>
    rw [hexchanges, List.length_append, ← h.exchanges]
    rfl
  case accepted =>
    rw [haccepted, List.map_append, List.count_append, ← h.accepted]
    rfl
  case misses =>
    rw [hmisses, List.map_append, List.count_append, ← h.misses]
    rfl
  case failed =>
    intro made hmade hfailed
    rcases List.mem_append.1 hmade with hearlier | hlatest
    · exact h.failed made hearlier hfailed
    · obtain rfl := List.mem_singleton.1 hlatest
      exact hsettled.failed hfailed
  case consecutiveMisses =>
    have hstart : link.channel.begin.consecutiveMisses = _ := h.consecutiveMisses
    rw [hconsecutive, hstart, List.map_append, List.map_singleton, missesSince_concat]
    show (match m.outcome react with | .answered => _ | .missed => _ | .failed => _) = _
    cases m.outcome react with
    | answered => rfl
    | missed => exact min_min_succ _ _
    | failed => rfl
  case lastAccepted =>
    have hstart : link.channel.begin.lastAccepted = _ := h.lastAccepted
    rw [hlast, hstart, lastAnswered?_concat]
    show (if m.outcome react = .answered then _ else _) = _
    split <;> rfl
  case counter =>
    intro kind
    have hstart : link.channel.begin.stats.counter kind = link.channel.stats.counter kind := by
      cases kind <;> rfl
    rw [hsettled.counter kind, hstart, h.counter kind, List.flatMap_append, List.count_append,
      List.flatMap_singleton]
    rfl

/-- A run of exchanges. -/
theorem Accounts.run (h : Accounts react checksum line calls past link) (later : List Call) :
    Accounts react checksum line (calls ++ later) (past ++ history react past.length later link)
      (finish react later link) := by
  induction later generalizing calls past link with
  | nil =>
      rw [List.append_nil]
      show Accounts _ _ _ _ (past ++ []) link
      rw [List.append_nil]
      exact h
  | cons call rest ih =>
      have hrest := ih (h.make call)
      rw [List.append_assoc, List.append_assoc, List.length_append] at hrest
      exact hrest

theorem count_outcomes (outcomes : List Outcome) :
    outcomes.count .answered + outcomes.count .missed + outcomes.count .failed =
      outcomes.length := by
  induction outcomes with
  | nil => rfl
  | cons first rest ih =>
      cases first <;> simp <;> omega

theorem count_kinds (kinds : List Kind) :
    kinds.count .accepted + kinds.count .stale + kinds.count .unexpected
      + kinds.count .undecodable = kinds.length := by
  induction kinds with
  | nil => rfl
  | cons first rest ih =>
      cases first <;> simp <;> omega

theorem Accounts.balance (h : Accounts react checksum line calls past link) :
    link.channel.stats.exchanges = link.channel.stats.accepted + link.channel.stats.misses
      + (past.map (·.outcome react)).count .failed := by
  rw [h.exchanges, h.accepted, h.misses, count_outcomes, List.length_map]

/-- The four counters together count all that was taken. -/
theorem Accounts.total (h : Accounts react checksum line calls past link) :
    link.channel.stats.accepted + link.channel.stats.stale + link.channel.stats.unexpected
      + link.channel.stats.undecodable = (past.flatMap (·.received react)).length := by
  have hlength :
      (past.flatMap (·.kinds react)).length = (past.flatMap (·.received react)).length := by
    simp [List.length_flatMap, Made.kinds]
  calc link.channel.stats.counter .accepted + link.channel.stats.counter .stale
        + link.channel.stats.counter .unexpected + link.channel.stats.counter .undecodable
      = (past.flatMap (·.kinds react)).length := by
        rw [h.counter, h.counter, h.counter, h.counter, count_kinds]
    _ = (past.flatMap (·.received react)).length := hlength

end Accounts

/-- After every run of exchanges from a new channel, over any line, the counters, the sequence
numbers and the datagrams sent agree with the history of the run.  A status frame is stale if it
answers one of the 32767 sequence numbers before that of the exchange. -/
theorem accounts_history (react : FarEnd σ) (checksum : Bool) (threshold period : Nat)
    (line : Line σ) (calls : List Call) :
    let start : Link σ := ⟨Channel.new checksum threshold period, line⟩
    let past := history react 0 calls start
    let after := (finish react calls start).channel
    Accounts react checksum line calls past (finish react calls start)
      ∧ after.stats.exchanges = after.stats.accepted + after.stats.misses
        + (past.map (·.outcome react)).count .failed
      ∧ after.stats.accepted + after.stats.stale + after.stats.unexpected
        + after.stats.undecodable = (past.flatMap (·.received react)).length
      ∧ ∀ sequence bytes,
        (kindOf sequence bytes = .accepted ↔ ∃ status,
          Frame.decode (bytes.take maxFrameLength) = .ok ⟨sequence, .status status⟩)
        ∧ (kindOf sequence bytes = .stale ↔ ∃ status k, 1 ≤ k ∧ k ≤ 32767
          ∧ Frame.decode (bytes.take maxFrameLength) =
            .ok ⟨sequence - .ofNat k, .status status⟩)
        ∧ (kindOf sequence bytes = .undecodable ↔ ∃ cause,
          Frame.decode (bytes.take maxFrameLength) = .error cause) := by
  have h := (accounts_new react checksum threshold period line).run calls
  refine ⟨h, h.balance, h.total, ?_⟩
  intro sequence bytes
  exact ⟨kindOf_eq_accepted_iff, kindOf_eq_stale_iff, kindOf_eq_undecodable_iff⟩

end Cyclic
end ServoLink
