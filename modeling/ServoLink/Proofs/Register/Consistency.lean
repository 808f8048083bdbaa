import ServoLink.Proofs.Register.Tracking

/-!
# Consistency — what a register call that returned says about the drive

A matching reply has the sequence number of the call's request.  If it is not 65536 requests late,
the port gave it to this request, whose datagram is all that reached the port since the call began.
So the reply is what the map would answer when the call returns.

* `Answered.resolved` — a reply that is not late is one to the call's own request;
* `Consistent` — what a call says that returned a value or a refusal;
* `register_consistent` — every call of every run is consistent.
-/

namespace ServoLink

open Wire Net Drive

namespace Register

section Replies

variable {base : UInt16} {c : Connection} {call : Call}

/-- The call was resolved by a reply to its own request, which is what the map would answer when the
call returns; whatever was answered before the call is older. -/
structure Resolved (call : Call) (c after : Connection) (reply : Reply) : Prop where
  number : after.line.far.number = c.channel.stats.requests
  earlier : ∀ x ∈ c.line.far.answers, x.number < c.channel.stats.requests
  received : ∃ bytes ∈ call.received c, after.line.far.Own bytes
    ∧ Frame.decode (bytes.take maxFrameLength) = .ok ⟨c.channel.nextSequence, .registerReply reply⟩
  current : call.access.apply after.line.far.drive.map = (reply, after.line.far.drive.map)

theorem Answered.resolved {after : Connection} {reply : Reply}
    (h : Answered base call c after reply) (hbefore : Tracked base c)
    (htimely : ∀ bytes ∈ call.received c, isReply bytes → ¬ after.line.far.Late bytes) :
    Resolved call c after reply := by
  rcases h.serving with ⟨datagram, hserving⟩
  rcases h.received with ⟨bytes, hreceived, hreply, hdecode, hgiven⟩
  have hechoed : c.channel.nextSequence = base + .ofNat after.line.far.number := by
    rw [hserving.current]
    exact hbefore.nextSequence
  have hown := hserving.sequenced.own hreply hdecode hechoed hgiven (htimely bytes hreceived hreply)
  refine ⟨hserving.current, hbefore.answers, ⟨bytes, hreceived, hown, hdecode⟩, ?_⟩
  -- What was answered to this request is what the map still answers.
  rcases hserving.answers _ hown.answered hserving.current with ⟨htold, hstays⟩
  have hsame := hdecode.symm.trans htold
  have hanswer : reply = (call.access.apply after.line.far.drive.map).1 :=
    Message.registerReply.inj (Frame.mk.inj (Except.ok.inj hsame)).2
  exact Prod.ext hanswer.symm hstays

/-- A value that was read is the one the register holds. -/
theorem Resolved.value?_of_read {after : Connection} {reply : Reply} {address : Address}
    {value : Value} (h : Resolved call c after reply) (haccess : call.access = .read address)
    (hvalue : reply.value = some value) :
    after.line.far.drive.map.value? address = some value := by
  have hcurrent := h.current
  rw [haccess] at hcurrent
  have hread : after.line.far.drive.map.read address = reply := congrArg Prod.fst hcurrent
  rw [← hread] at hvalue
  exact RegisterMap.value?_of_read hvalue

/-- A value that was written is the one the register holds. -/
theorem Resolved.value?_of_write {after : Connection} {reply : Reply} {address : Address}
    {value : Value} (h : Resolved call c after reply) (haccess : call.access = .write address value)
    (hok : reply.status.isOk) : after.line.far.drive.map.value? address = some value := by
  have hcurrent := h.current
  rw [haccess] at hcurrent
  have hwritten : after.line.far.drive.map.write address value =
      (reply, after.line.far.drive.map) := hcurrent
  have hholds : (after.line.far.drive.map.write address value).2.value? address = some value :=
    RegisterMap.value?_of_write (by rw [hwritten]; exact hok)
  rw [hwritten] at hholds
  exact hholds

/-- What a call that returned says about the register port. -/
structure Consistent (call : Call) (c : Connection)
    (result : EStateM.Result LinkError Connection Value) : Prop where
  /-- A value, read or written, is the one the register holds. -/
  value : ∀ value after, result = .ok value after →
    after.line.far.drive.map.value? call.access.address = some value
      ∧ (∀ address written, call.access = .write address written → value = written)
      ∧ ∃ reply, Resolved call c after reply ∧ reply.status.isOk
  /-- A refusal is the port's own, or one of the catalog that nothing was sent for. -/
  refusal : ∀ address status after, result = .error (.register address status) after →
    address = call.access.address
      ∧ ((∃ reply, Resolved call c after reply ∧ reply.status = status)
        ∨ call.access.barred ∧ status = .readOnly ∧ after.line = (call.begin c).line)

theorem Made.consistent {result : EStateM.Result LinkError Connection Value}
    (h : Made base call c result) (hbefore : Tracked base c)
    (htimely : ∀ bytes ∈ call.received c, isReply bytes →
      ¬ (conversationOf result).line.far.Late bytes) : Consistent call c result := by
  cases h with
  | read _ hanswered haccess hok hvalue =>
      have hresolved := hanswered.resolved hbefore htimely
      refine ⟨?_, by rintro address status final ⟨⟩⟩
      rintro value final ⟨⟩
      refine ⟨?_, ?_, _, hresolved, hok⟩
      · rw [haccess]
        exact hresolved.value?_of_read haccess hvalue
      · intro address written hwrite
        rw [haccess] at hwrite
        cases hwrite
  | written _ hanswered haccess hok =>
      have hresolved := hanswered.resolved hbefore htimely
      refine ⟨?_, by rintro address status final ⟨⟩⟩
      rintro value final ⟨⟩
      refine ⟨?_, ?_, _, hresolved, hok⟩
      · rw [haccess]
        exact hresolved.value?_of_write haccess hok
      · intro address written hwrite
        rw [haccess] at hwrite
        cases hwrite
        rfl
  | refused _ hanswered =>
      have hresolved := hanswered.resolved hbefore htimely
      refine ⟨by rintro value final ⟨⟩, ?_⟩
      rintro address status final ⟨⟩
      exact ⟨rfl, Or.inl ⟨_, hresolved, rfl⟩⟩
  | barred _ hbarred hline =>
      refine ⟨by rintro value final ⟨⟩, ?_⟩
      rintro address status final ⟨⟩
      exact ⟨rfl, Or.inr ⟨hbarred, rfl, hline⟩⟩
  | failed _ hcause =>
      refine ⟨by rintro value final ⟨⟩, ?_⟩
      rintro address status final ⟨⟩
      exact absurd rfl (hcause address status)

end Replies

/-- If requests reach the register port during their own call only, and no reply is received 65536
or more requests after the one it answers, then in every run of reads and writes a call that returns
a value, read or written, returns the one the register holds at that time; and a call that is
refused is refused by a status that the port gave to its own request, or by the catalog before
anything is sent. -/
theorem register_consistent (channel : Channel) (port : RegisterPort) (plans : List Plan)
    (hprompt : ∀ plan ∈ plans, Prompt plan) (calls : List Call) (call : Call)
    (htimely : ∀ bytes ∈ call.received (Call.run calls (connect channel port plans)),
      isReply bytes → ¬ (conversationOf
        (call.make (Call.run calls (connect channel port plans)))).line.far.Late bytes) :
    Consistent call (Call.run calls (connect channel port plans))
      (call.make (Call.run calls (connect channel port plans))) := by
  have hbefore := (tracked_connect channel port hprompt).run calls
  exact (hbefore.made call).consistent hbefore htimely

/-- The value a call returns, if it returns one. -/
def valueOf {σ : Type} : EStateM.Result LinkError (Conversation σ) Value → Option Value
  | .ok value _ => some value
  | .error _ _ => none

/-- A channel about to use the last sequence number; its windows are of 1 and 2 µs. -/
def nearWrap : Channel :=
  { checksum := true, attempts := 2, roundTrip := ⟨1000, 1000, 5000⟩, nextSequence := 0xFFFF }

/-- Of the first request only the repetition reaches the port, twice, while its send is stalled for
500 ns; the replies come during the second request, in front of its own. -/
def overtaking : List Plan :=
  [{}, { stall := 500
         reaching := [.sent 0, .sent 0]
         arriving := [(100, .answer 0), (600, .answer 1)] },
   { reaching := [.sent 0], arriving := [(10, .noise [1, 2, 3]), (900, .answer 2)] }]

/-- A write of the cycle time that is cancelled while its second send is stalled, and one of the
firmware version that is refused. -/
def overtaken : Connection :=
  Call.run
    [{ access := .write .cycleTime (.uint32 2000), cancellation := .at 1200 },
     { access := .write .firmwareVersion (.uint32 1) }]
    (connect nearWrap (.new {}) overtaking)

def readingBack : Call := { access := .read .cycleTime }

/-- The late replies to the write do not answer the read, which uses sequence number 0. -/
theorem register_consistent_overtaken :
    valueOf (readingBack.make overtaken) = some (.uint32 2000)
      ∧ Consistent readingBack overtaken (readingBack.make overtaken) :=
  ⟨by decide +kernel,
    register_consistent nearWrap (.new {}) overtaking (by decide +kernel) _ readingBack
      (by decide +kernel)⟩

end Register
end ServoLink
