import ServoLink.Proofs.Register.Pacing

/-!
# Transcript — register calls made one after another

A transcript names the accesses that were asked for, in order, with how each call ended.  Each call
is made on the conversation that the one before it left behind, so a transcript and the far end
decide where a conversation leads.

* `Leads` — the conversation a transcript leads to;
* `Leads.requests` — one request for each entry;
* `Leads.sent` — every datagram asks for the access of an entry.
-/

namespace ServoLink
namespace Register

open Wire Net Drive

variable {σ : Type}

/-- What a call sends asks for its access, and nothing else. -/
theorem Call.sent_talk (react : FarEnd σ) (call : Call) (c : Conversation σ) :
    ∃ sent, (conversationOf (call.talk react c)).line.sent = sent ++ c.line.sent
      ∧ ∀ datagram ∈ sent, ∃ sequence,
        Frame.decode datagram = .ok ⟨sequence, call.access.message⟩ := by
  cases hbarred : call.access.barred with
  | true =>
      rw [Call.talk_of_barred hbarred]
      exact ⟨[], rfl, by rintro datagram ⟨⟩⟩
  | false =>
      cases hencode : Frame.encode c.channel.checksum
          ⟨c.channel.nextSequence, call.access.message⟩ with
      | error cause =>
          rw [Call.talk_of_encode_error hbarred hencode]
          exact ⟨[], rfl, by rintro datagram ⟨⟩⟩
      | ok datagram =>
          have htransmits := (Call.concludes_talk react hbarred hencode).transmits
            (call.course react datagram c)
          rcases htransmits.repeated with ⟨n, -, hsent, -⟩
          refine ⟨List.replicate n datagram, hsent, ?_⟩
          intro repeated hrepeated
          obtain rfl := List.eq_of_mem_replicate hrepeated
          have hdecode := Frame.decode_of_encode call.access.canonical_message hencode
          rw [Frame.take_of_encode hencode] at hdecode
          exact ⟨c.channel.nextSequence, hdecode⟩

/-! ## Transcripts -/

/-- An access that was asked for, and how the call ended. -/
structure Entry where
  access : MapAccess
  outcome : Except LinkError Value

/-- The transcript leads from a conversation to another.  No call of it is barred. -/
inductive Leads (react : FarEnd σ) (c : Conversation σ) : List Entry → Conversation σ → Prop where
  | refl : Leads react c [] c
  | call {entries : List Entry} {between : Conversation σ} (h : Leads react c entries between)
      (call : Call) (hopen : call.access.barred = false) :
      Leads react c (entries ++ [⟨call.access, outcomeOf (call.talk react between)⟩])
        (conversationOf (call.talk react between))

section Leads

variable {react : FarEnd σ} {c after : Conversation σ} {entries : List Entry}

/-- Every entry is one request. -/
theorem Leads.requests (h : Leads react c entries after) :
    after.channel.stats.requests = c.channel.stats.requests + entries.length := by
  induction h with
  | refl => rfl
  | @call entries between _ call hopen ih =>
      calc (conversationOf (call.talk react between)).channel.stats.requests
          = between.channel.stats.requests + 1 := (call.numbered_talk react between hopen).2.2
        _ = c.channel.stats.requests + entries.length + 1 := by rw [ih]
        _ = _ := by rw [List.length_append, Nat.add_assoc]; rfl

/-- Every datagram sent asks for the access of an entry. -/
theorem Leads.sent (h : Leads react c entries after) :
    ∃ sent, after.line.sent = sent ++ c.line.sent
      ∧ ∀ datagram ∈ sent, ∃ entry ∈ entries, ∃ sequence,
        Frame.decode datagram = .ok ⟨sequence, entry.access.message⟩ := by
  induction h with
  | refl => exact ⟨[], rfl, by rintro datagram ⟨⟩⟩
  | @call entries between _ call _ ih =>
      -- The datagrams of the last call come in front of all earlier ones.
      rcases ih with ⟨earlier, hearlier, hasked⟩
      rcases call.sent_talk react between with ⟨latest, hlatest, hasks⟩
      refine ⟨latest ++ earlier, ?_, ?_⟩
      · rw [hlatest, hearlier, List.append_assoc]
      · intro datagram hdatagram
        rcases List.mem_append.1 hdatagram with hnew | hold
        · exact ⟨_, List.mem_append_right _ List.mem_cons_self, hasks datagram hnew⟩
        · rcases hasked datagram hold with ⟨entry, hentry, hdecode⟩
          exact ⟨entry, List.mem_append_left _ hentry, hdecode⟩

/-- One more read. -/
theorem Leads.read (h : Leads react c entries after) (address : Address) :
    Leads react c
      (entries ++ [⟨.read address, outcomeOf (readRegister react address .never after)⟩])
      (conversationOf (readRegister react address .never after)) :=
  h.call { access := .read address } rfl

/-- One more write, to a register that is not catalogued as read-only. -/
theorem Leads.write (h : Leads react c entries after) {address : Address} {value : Value}
    (hopen : (MapAccess.write address value).barred = false) :
    Leads react c
      (entries ++ [⟨.write address value,
        (outcomeOf (writeRegister react address value .never after)).map fun _ => value⟩])
      (conversationOf (writeRegister react address value .never after)) := by
  have hleads := h.call { access := .write address value } hopen
  unfold Call.talk at hleads
  dsimp only at hleads
  cases hwrite : writeRegister react address value .never after with
  | ok _ _ =>
      rw [hwrite] at hleads
      exact hleads
  | error _ _ =>
      rw [hwrite] at hleads
      exact hleads

end Leads

end Register
end ServoLink
