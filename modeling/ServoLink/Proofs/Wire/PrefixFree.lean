import ServoLink.Proofs.Wire.RoundTrip
import ServoLink.Proofs.Wire.Stable

/-!
# Prefix-free payloads — a complete payload can be neither cut nor continued

A stable reader that accepted a beginning of what it took would have stopped there.  So the payloads
of one message type, as they are accepted, are no beginnings of one another, and mending the length
word and the checksum of a cut or continued datagram does not help.

* `Stable.error_of_shorter` — what a stable reader took, it needs to the last byte;
* `Frame.malformed_of_shorter`, `Frame.malformed_of_longer` — datagrams around such payloads;
* `Codec.prefix_free` — both for every message type.
-/

namespace ServoLink
namespace Wire

variable {α : Type}

/-- A beginning of what a stable reader took is refused, unless it is all of it. -/
theorem Stable.error_of_shorter {read : Reader α} (hstable : Stable read)
    {front rest short : List UInt8} {value : α} (h : read (front ++ rest) = .ok value rest)
    (hbegins : short <+: front) (hshort : short ≠ front) :
    ∃ cause left, read short = .error cause left := by
  cases hread : read short with
  | error cause left => exact ⟨cause, left, rfl⟩
  | ok other left =>
      rcases hbegins with ⟨more, rfl⟩
      -- The reader would have stopped at the shorter one in the longer one, too.
      have hstopped := hstable short other left hread (more ++ rest)
      rw [← List.append_assoc, h] at hstopped
      have hleft : rest = left ++ (more ++ rest) := by injection hstopped
      have hlength := congrArg List.length hleft
      simp only [List.length_append] at hlength
      have hnone : more = [] := List.eq_nil_of_length_eq_zero (by omega)
      rw [hnone, List.append_nil] at hshort
      exact absurd rfl hshort

/-- What an accepted read took, and that it needs all of it. -/
theorem Message.exists_front_of_read {type : MessageType} {bytes rest : List UInt8}
    {message : Message} (h : Message.read type bytes = .ok message rest) :
    ∃ front, bytes = front ++ rest ∧ front.length = message.wireLength
      ∧ ∀ short, short <+: front → short ≠ front →
        ∃ cause left, Message.read type short = .error cause left := by
  rcases Message.ensures_read type bytes message rest h with ⟨front, rfl, -, -, hlength⟩
  refine ⟨front, rfl, hlength, ?_⟩
  intro short hbegins hshort
  exact (Message.stable_read type).error_of_shorter h hbegins hshort

/-! ## Datagrams -/

namespace Frame

/-- A payload over the limit is refused, whatever its length word says. -/
theorem malformed_of_over {payload : List UInt8} (h : maxPayload < payload.length)
    (type : MessageType) (withChecksum : Bool) (sequence : UInt16) :
    ∃ cause, decode (datagramOf type withChecksum sequence payload) =
      .error (.malformed cause) := by
  have htype := MessageType.ofNumber?_eq_some_iff.2 (type.byte_and_not_flag withChecksum)
  have hflag := type.byte_and_flag withChecksum
  have hword := word16_bytes (UInt16.ofNat payload.length)
  unfold datagramOf bodyOf
  generalize UInt16.ofNat payload.length = n at hword ⊢
  -- The word is over the limit itself, or it wrapped and does not match.
  by_cases hover : maxPayload < n.toNat
  · refine ⟨.lengthOverLimit, ?_⟩
    cases withChecksum with
    | false => simp [bytesOfUInt16, decode, htype, hword, hover]
    | true => simp [bytesOfUInt16, decode, htype, hword, hover]
  · refine ⟨.lengthMismatch, ?_⟩
    have hmismatch : payload.length ≠ n.toNat := by omega
    cases withChecksum with
    | false => simp [bytesOfUInt16, decode, htype, hflag, hword, hover, hmismatch]
    | true => simp [bytesOfUInt16, decode, htype, hflag, hword, hover, hmismatch, checksumLength]

variable {type : MessageType} {withChecksum withChecksum' : Bool} {sequence sequence' : UInt16}
variable {payload : List UInt8} {f : Frame}

/-- An accepted payload is within the limit and read to its end. -/
theorem read_of_decode_datagramOf
    (h : decode (datagramOf type withChecksum sequence payload) = .ok f) :
    payload.length ≤ maxPayload ∧ Message.read type payload = .ok f.message [] := by
  have hfits : payload.length ≤ maxPayload := by
    by_contra hover
    rcases malformed_of_over (Nat.not_le.1 hover) type withChecksum sequence with ⟨cause, hcause⟩
    rw [hcause] at h
    cases h
  rw [decode_datagramOf hfits] at h
  exact ⟨hfits, (decodePayload_eq_ok_iff.1 h).2⟩

theorem malformed_of_shorter
    (h : decode (datagramOf type withChecksum sequence payload) = .ok f) {short : List UInt8}
    (hbegins : short <+: payload) (hshort : short ≠ payload) :
    ∃ cause, decode (datagramOf type withChecksum' sequence' short) =
      .error (.malformed cause) := by
  rcases read_of_decode_datagramOf h with ⟨hfits, hread⟩
  have hwhole : Message.read type (payload ++ []) = .ok f.message [] := by
    rw [List.append_nil]
    exact hread
  rcases (Message.stable_read type).error_of_shorter hwhole hbegins hshort with
    ⟨cause, left, hrefused⟩
  refine ⟨cause, ?_⟩
  rw [decode_datagramOf (Nat.le_trans hbegins.length_le hfits), decodePayload, hrefused]

theorem malformed_of_longer
    (h : decode (datagramOf type withChecksum sequence payload) = .ok f) {long : List UInt8}
    (hbegins : payload <+: long) (hlong : long ≠ payload) :
    ∃ cause, decode (datagramOf type withChecksum' sequence' long) =
      .error (.malformed cause) := by
  rcases hbegins with ⟨more, rfl⟩
  have hmore : more ≠ [] := by
    rintro rfl
    rw [List.append_nil] at hlong
    exact hlong rfl
  by_cases hfits : (payload ++ more).length ≤ maxPayload
  · have hcomplete : decodePayload type sequence payload = .ok ⟨sequence, f.message⟩ :=
      decodePayload_eq_ok_iff.2 ⟨rfl, (read_of_decode_datagramOf h).2⟩
    refine ⟨.trailingBytes, ?_⟩
    rw [decode_datagramOf hfits]
    exact decodePayload_append hcomplete sequence' hmore
  · exact malformed_of_over (Nat.not_le.1 hfits) type withChecksum' sequence'

end Frame

/-- Every accepted read of a payload takes exactly the bytes of the message it gives, leaves the rest,
and is refused on any shorter beginning of these bytes.  And where a datagram of some type is accepted,
every datagram of this type around a cut or continued payload is malformed, with a length word, a
sequence number and a checksum of its own. -/
theorem Codec.prefix_free (receiver : Codec) (type : MessageType) :
    (∀ bytes message rest, Message.read type bytes = .ok message rest →
        ∃ front, bytes = front ++ rest ∧ front.length = message.wireLength
          ∧ ∀ short, short <+: front → short ≠ front →
            ∃ cause left, Message.read type short = .error cause left)
      ∧ ∀ payload withChecksum sequence f,
        receiver.decode (Frame.datagramOf type withChecksum sequence payload) = .ok f →
          ∀ other, other <+: payload ∨ payload <+: other → other ≠ payload →
            ∀ withChecksum' sequence', ∃ cause,
              receiver.decode (Frame.datagramOf type withChecksum' sequence' other) =
                .error (.malformed cause) := by
  refine ⟨fun bytes message rest => Message.exists_front_of_read, ?_⟩
  intro payload withChecksum sequence f hdecode other hrelated hother withChecksum' sequence'
  rcases hrelated with hshorter | hlonger
  · exact Frame.malformed_of_shorter hdecode hshorter hother
  · exact Frame.malformed_of_longer hdecode hlonger hother

end Wire
end ServoLink
