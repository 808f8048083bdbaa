import Mathlib.Data.List.Basic
import ServoLink.Proofs.ProcessData.Status
import ServoLink.Proofs.Register.Message
import ServoLink.Wire.Frame

/-!
# Round trip — frames to datagrams and back

A frame is `Canonical` when a reader can give its message and the payload fits.  `datagramOf` is the
layout of a datagram around any payload.

* `Frame.decode_datagramOf`, `Frame.exists_datagramOf_of_decode` — what is accepted is what has the
  layout, with a payload that can be read;
* `Frame.encode_eq_ok` — a frame that fits is sent in the layout;
* the round trips: a canonical frame is received as it was sent, whatever the settings of the two
  ends, and an accepted frame can be sent again, in a datagram of the same header and length.
-/

namespace ServoLink
namespace Wire

open ProcessData

/-! ## Messages -/

namespace MessageType

theorem ofNumber?_eq_some_iff {n : UInt8} {type : MessageType} :
    ofNumber? n = some type ↔ n = type.number := by
  constructor
  · intro h
    unfold ofNumber? at h
    split at h <;> cases h <;> rfl
  · rintro rfl
    cases type <;> rfl

/-- The type byte of a header. -/
def byte (type : MessageType) (withChecksum : Bool) : UInt8 :=
  if withChecksum then type.number ||| checksumFlag else type.number

theorem byte_and_not_flag (type : MessageType) (withChecksum : Bool) :
    type.byte withChecksum &&& ~~~checksumFlag = type.number := by
  cases type <;> cases withChecksum <;> rfl

theorem byte_and_flag (type : MessageType) (withChecksum : Bool) :
    (type.byte withChecksum &&& checksumFlag != 0) = withChecksum := by
  cases type <;> cases withChecksum <;> rfl

/-- A byte is its flag and what is left without it. -/
theorem eq_flag_or_rest (b : UInt8) :
    b = if b &&& checksumFlag != 0 then b &&& ~~~checksumFlag ||| checksumFlag
      else b &&& ~~~checksumFlag := by
  rcases b with ⟨⟨b⟩⟩
  revert b
  decide +kernel

theorem eq_byte {b : UInt8} {type : MessageType} (h : b &&& ~~~checksumFlag = type.number) :
    b = type.byte (b &&& checksumFlag != 0) := by
  have hsplit := eq_flag_or_rest b
  rwa [h] at hsplit

end MessageType

namespace Message

/-- A reader can give the message. -/
def Canonical : Message → Prop
  | control r => r.Canonical
  | status s => s.Canonical
  | registerRead _ | registerWrite _ => True
  | registerReply r => r.Canonical

/-- A text that fits a payload fits its length byte. -/
theorem writable_of_wireLength_le {v : Register.Value} (h : v.wireLength ≤ maxPayload) :
    v.Writable := by
  rintro text rfl
  have hsize : 2 + text.utf8ByteSize ≤ 256 := h
  omega

theorem length_write {m : Message} (h : m.wireLength ≤ maxPayload) :
    m.write.length = m.wireLength := by
  cases m with
  | control r => exact r.length_write
  | status s => exact s.length_write
  | registerRead a => exact a.length_write
  | registerWrite w =>
      have hfits : Register.Address.wireLength + w.value.wireLength ≤ maxPayload := h
      exact Register.WriteRequest.length_write (writable_of_wireLength_le (by omega))
  | registerReply r =>
      refine Register.Reply.length_write fun v hcarried => writable_of_wireLength_le ?_
      have hfits : r.wireLength ≤ maxPayload := h
      simp only [Register.Reply.wireLength, hcarried] at hfits
      omega

theorem length_write_le {m : Message} (h : m.wireLength ≤ maxPayload) :
    m.write.length ≤ maxPayload := by
  rw [length_write h]
  exact h

/-- A control request never comes near the limit of a payload. -/
theorem wireLength_control_le (r : ControlRequest) :
    (Message.control r).wireLength ≤ maxPayload := by
  show r.wireLength ≤ maxPayload
  unfold ControlRequest.wireLength
  split <;> split <;> split <;> decide

theorem reads_write {m : Message} (hcanonical : m.Canonical) (h : m.wireLength ≤ maxPayload) :
    Reads (read m.type) m.write m := by
  cases m with
  | control r => exact (ControlRequest.reads_write hcanonical).map control
  | status s => exact (StatusResponse.reads_write hcanonical).map status
  | registerRead a => exact a.reads_write.map registerRead
  | registerWrite w =>
      have hfits : Register.Address.wireLength + w.value.wireLength ≤ maxPayload := h
      have hvalue := writable_of_wireLength_le (v := w.value) (by omega)
      exact (Register.WriteRequest.reads_write hvalue).map registerWrite
  -- Both kinds of register message that carry a value need its text to be short.
  | registerReply r =>
      have hreply : r.Canonical := hcanonical
      have hfits : r.wireLength ≤ maxPayload := h
      refine (Register.Reply.reads_write hreply fun v hv => writable_of_wireLength_le ?_).map
        registerReply
      simp only [Register.Reply.wireLength, hreply.carried_eq, hv] at hfits
      omega

theorem ensures_read (type : MessageType) :
    Ensures (read type) fun m n => m.type = type ∧ m.Canonical ∧ n = m.wireLength := by
  cases type with
  | controlRequest =>
      exact ControlRequest.ensures_read.map fun r n h => ⟨rfl, h.1, h.2⟩
  | statusResponse =>
      exact StatusResponse.ensures_read.map fun s n h => ⟨rfl, h.1, h.2⟩
  | registerRead =>
      exact Register.Address.ensures_read.map fun a n h => ⟨rfl, trivial, h⟩
  | registerWrite =>
      exact Register.WriteRequest.ensures_read.map fun w n h => ⟨rfl, trivial, h.2⟩
  | registerReply =>
      exact Register.Reply.ensures_read.map fun r n h => ⟨rfl, h.1.1, h.2⟩

end Message

/-! ## Datagrams -/

namespace Frame

/-- A reader can give the frame, and its payload fits. -/
structure Canonical (f : Frame) : Prop where
  message : f.message.Canonical
  fits : f.message.wireLength ≤ maxPayload

/-- Header and payload. -/
def bodyOf (type : MessageType) (withChecksum : Bool) (sequence : UInt16) (payload : List UInt8) :
    List UInt8 :=
  protocolVersion :: type.byte withChecksum ::
    (bytesOfUInt16 sequence ++ bytesOfUInt16 (.ofNat payload.length) ++ payload)

/-- The datagram that carries a payload. -/
def datagramOf (type : MessageType) (withChecksum : Bool) (sequence : UInt16)
    (payload : List UInt8) : List UInt8 :=
  let body := bodyOf type withChecksum sequence payload
  if withChecksum then body ++ bytesOfUInt16 (checksum body) else body

theorem length_bodyOf (type : MessageType) (withChecksum : Bool) (sequence : UInt16)
    (payload : List UInt8) :
    (bodyOf type withChecksum sequence payload).length = headerLength + payload.length := by
  simp [bodyOf, headerLength]
  omega

theorem decodePayload_eq_ok_iff {type : MessageType} {sequence : UInt16} {payload : List UInt8}
    {f : Frame} :
    decodePayload type sequence payload = .ok f ↔
      f.sequence = sequence ∧ Message.read type payload = .ok f.message [] := by
  rw [decodePayload]
  constructor
  · intro h
    split at h
    · cases h
    · rename_i message hread
      cases h
      exact ⟨rfl, hread⟩
    · cases h
  · rintro ⟨hsequence, hread⟩
    rw [hread]
    cases f
    cases hsequence
    rfl

theorem decode_datagramOf {type : MessageType} {withChecksum : Bool} {sequence : UInt16}
    {payload : List UInt8} (hfits : payload.length ≤ maxPayload) :
    decode (datagramOf type withChecksum sequence payload) =
      decodePayload type sequence payload := by
  have hlength : (UInt16.ofNat payload.length).toNat = payload.length := by
    have hlt : payload.length < 2 ^ 16 := Nat.lt_of_le_of_lt hfits (by decide)
    rw [UInt16.toNat_ofNat']
    exact Nat.mod_eq_of_lt hlt
  have htype := MessageType.ofNumber?_eq_some_iff.2 (type.byte_and_not_flag withChecksum)
  have hflag := type.byte_and_flag withChecksum
  have hover : ¬ maxPayload < payload.length := Nat.not_lt.2 hfits
  have htake : ∀ sum : UInt16, List.take (headerLength + payload.length)
      (bodyOf type withChecksum sequence payload ++ bytesOfUInt16 sum) =
        bodyOf type withChecksum sequence payload := by
    intro sum
    exact List.take_left' (length_bodyOf type withChecksum sequence payload)
  -- The length word is kept closed, so that it is not computed byte by byte.
  unfold datagramOf
  unfold bodyOf at *
  generalize UInt16.ofNat payload.length = n at *
  cases withChecksum with
  | false =>
      show decode (protocolVersion :: type.byte false :: sequence.toUInt8 :: (sequence >>> 8).toUInt8
        :: n.toUInt8 :: (n >>> 8).toUInt8 :: payload) = decodePayload type sequence payload
      simp [decode, word16_bytes, htype, hflag, hlength, hover]
  | true =>
      -- The receiver sums up the same bytes as the sender.
      simp only [if_true]
      generalize hsum : checksum (protocolVersion :: _) = sum
      have hwords := htake sum
      simp only [bytesOfUInt16, List.cons_append, List.nil_append] at hwords hsum ⊢
      simp [decode, word16_bytes, htype, hflag, hlength, hover, checksumLength, hwords, hsum]

theorem header_append_eq_bodyOf (type : MessageType) (withChecksum : Bool) (s0 s1 : UInt8)
    {l0 l1 : UInt8} {payload : List UInt8} (h : (word16 l0 l1).toNat = payload.length) :
    protocolVersion :: type.byte withChecksum :: s0 :: s1 :: l0 :: l1 :: payload =
      bodyOf type withChecksum (word16 s0 s1) payload := by
  simp [bodyOf, ← h, bytesOfUInt16_word16]

/-- What follows a header that announces a checksum is the payload and two bytes more. -/
theorem exists_payload_of_length {rest : List UInt8} {n : Nat}
    (h : rest.length = n + checksumLength) :
    ∃ payload c0 c1, payload.length = n ∧ rest = payload ++ [c0, c1] := by
  have hpayload : (rest.take n).length = n := by
    rw [List.length_take, h]
    exact Nat.min_eq_left (Nat.le_add_right n checksumLength)
  have htrailer : (rest.drop n).length = 2 := by
    rw [List.length_drop, h, Nat.add_sub_cancel_left]
    rfl
  rcases List.length_eq_two.1 htrailer with ⟨c0, c1, hbytes⟩
  refine ⟨rest.take n, c0, c1, hpayload, ?_⟩
  rw [← hbytes, List.take_append_drop]

/-- An accepted datagram is laid out as one that is sent. -/
theorem exists_datagramOf_of_decode {b : List UInt8} {f : Frame} (h : decode b = .ok f) :
    ∃ type withChecksum sequence payload, payload.length ≤ maxPayload
      ∧ b = datagramOf type withChecksum sequence payload
      ∧ decodePayload type sequence payload = .ok f := by
  unfold decode at h
  split at h
  · rename_i version typeByte s0 s1 l0 l1 rest
    split at h
    · cases h
    · rename_i hversion
      split at h
      · cases h
      · rename_i type htype
        have hbyte := MessageType.eq_byte (MessageType.ofNumber?_eq_some_iff.1 htype)
        generalize (typeByte &&& checksumFlag != 0) = withChecksum at h hbyte
        generalize hn : (word16 l0 l1).toNat = n at h
        obtain rfl := Decidable.of_not_not hversion
        subst hbyte
        by_cases hover : maxPayload < n
        · simp [hover] at h
        · by_cases hrest : rest.length = n + if withChecksum then checksumLength else 0
          · simp only [if_neg hover, hrest, ne_eq, not_true_eq_false, if_false] at h
            cases withChecksum with
            | false =>
                -- The payload is all that follows the header.
                have hall : rest.take n = rest := by
                  rw [← show rest.length = n from hrest, List.take_length]
                have hheader := header_append_eq_bodyOf type false s0 s1 (hn.trans hrest.symm)
                simp only [hall] at h
                exact ⟨type, false, word16 s0 s1, rest, hrest ▸ Nat.not_lt.1 hover, hheader, h⟩
            | true =>
                rcases exists_payload_of_length hrest with ⟨payload, c0, c1, hpayload, rfl⟩
                have hheader := header_append_eq_bodyOf type true s0 s1 (hn.trans hpayload.symm)
                -- The checksum covers the header and the payload.
                have hcovered : List.take (headerLength + n) (protocolVersion :: type.byte true
                    :: s0 :: s1 :: l0 :: l1 :: (payload ++ [c0, c1])) =
                      bodyOf type true (word16 s0 s1) payload := by
                  rw [← hheader, ← hpayload]
                  simp [headerLength, Nat.add_comm 6]
                simp only [hcovered, List.take_left' hpayload, List.drop_left' hpayload] at h
                by_cases hsum : word16 c0 c1 = checksum (bodyOf type true (word16 s0 s1) payload)
                · simp only [hsum, not_true_eq_false, if_false] at h
                  refine ⟨type, true, word16 s0 s1, payload, hpayload ▸ Nat.not_lt.1 hover, ?_, h⟩
                  rw [datagramOf, ← hsum, bytesOfUInt16_word16, ← hheader]
                  rfl
                · simp [hsum] at h
          · simp [hover, hrest] at h
  · cases h

/-- A frame whose message fits has the layout of its message. -/
theorem encode_eq_ok {f : Frame} (withChecksum : Bool) (h : f.message.wireLength ≤ maxPayload) :
    f.encode withChecksum =
      .ok (datagramOf f.message.type withChecksum f.sequence f.message.write) := by
  have hbody : f.body withChecksum =
      bodyOf f.message.type withChecksum f.sequence f.message.write := by
    simp only [body, bodyOf, Message.length_write h]
    rfl
  rw [encode, if_neg (Nat.not_lt.2 h), bytes, hbody]
  rfl

/-- What is known of the frame of an accepted datagram. -/
theorem canonical_of_decodePayload {type : MessageType} {sequence : UInt16}
    {payload : List UInt8} {f : Frame} (hfits : payload.length ≤ maxPayload)
    (h : decodePayload type sequence payload = .ok f) :
    f.Canonical ∧ f.sequence = sequence ∧ f.message.type = type
      ∧ f.message.wireLength = payload.length := by
  obtain ⟨hsequence, hread⟩ := decodePayload_eq_ok_iff.1 h
  rcases Message.ensures_read type payload f.message [] hread with
    ⟨front, hfront, htype, hcanonical, hlength⟩
  rw [List.append_nil] at hfront
  subst hfront
  exact ⟨⟨hcanonical, hlength ▸ hfits⟩, hsequence, htype, hlength.symm⟩

/-- A canonical frame is read from the layout of its message. -/
theorem Canonical.decodePayload_write {f : Frame} (h : f.Canonical) :
    decodePayload f.message.type f.sequence f.message.write = .ok f := by
  have hread := Message.reads_write h.message h.fits []
  rw [List.append_nil] at hread
  exact decodePayload_eq_ok_iff.2 ⟨rfl, hread⟩

theorem Canonical.decode_datagramOf {f : Frame} (h : f.Canonical) (withChecksum : Bool) :
    decode (datagramOf f.message.type withChecksum f.sequence f.message.write) = .ok f := by
  rw [Frame.decode_datagramOf (Message.length_write_le h.fits)]
  exact h.decodePayload_write

/-- What is sent has the layout of its message, and the message fits. -/
theorem eq_datagramOf_of_encode {f : Frame} {withChecksum : Bool} {datagram : List UInt8}
    (h : f.encode withChecksum = .ok datagram) :
    f.message.wireLength ≤ maxPayload
      ∧ datagram = datagramOf f.message.type withChecksum f.sequence f.message.write := by
  have hfits : f.message.wireLength ≤ maxPayload := by
    by_contra hover
    rw [encode, if_pos (Nat.lt_of_not_le hover)] at h
    cases h
  rw [encode_eq_ok withChecksum hfits] at h
  exact ⟨hfits, (Except.ok.inj h).symm⟩

/-- A datagram is no longer than the buffer that receives it. -/
theorem take_of_encode {f : Frame} {withChecksum : Bool} {datagram : List UInt8}
    (h : f.encode withChecksum = .ok datagram) : datagram.take maxFrameLength = datagram := by
  rcases eq_datagramOf_of_encode h with ⟨hfits, rfl⟩
  have hpayload := Message.length_write_le hfits
  apply List.take_of_length_le
  unfold maxFrameLength
  cases withChecksum with
  | false =>
      simp [datagramOf, length_bodyOf]
      omega
  | true =>
      simp [datagramOf, length_bodyOf, checksumLength]
      omega

/-- A datagram is received with the sequence number it was sent with. -/
theorem sequence_of_decode_encode {f g : Frame} {withChecksum : Bool} {datagram : List UInt8}
    (h : f.encode withChecksum = .ok datagram) (hdecode : decode datagram = .ok g) :
    g.sequence = f.sequence := by
  rcases eq_datagramOf_of_encode h with ⟨hfits, rfl⟩
  have hpayload := Message.length_write_le hfits
  rw [Frame.decode_datagramOf hpayload] at hdecode
  exact (decodePayload_eq_ok_iff.1 hdecode).1

/-- A datagram is received as a message of the type it was sent with. -/
theorem type_of_decode_encode {f g : Frame} {withChecksum : Bool} {datagram : List UInt8}
    (h : f.encode withChecksum = .ok datagram) (hdecode : decode datagram = .ok g) :
    g.message.type = f.message.type := by
  rcases eq_datagramOf_of_encode h with ⟨hfits, rfl⟩
  have hpayload := Message.length_write_le hfits
  rw [Frame.decode_datagramOf hpayload] at hdecode
  exact (canonical_of_decodePayload hpayload hdecode).2.2.1

/-- What a reader can give is received as it was sent. -/
theorem decode_of_encode {f : Frame} {withChecksum : Bool} {datagram : List UInt8}
    (hcanonical : f.message.Canonical) (h : f.encode withChecksum = .ok datagram) :
    decode (datagram.take maxFrameLength) = .ok f := by
  rw [take_of_encode h]
  rcases eq_datagramOf_of_encode h with ⟨hfits, rfl⟩
  have hframe : f.Canonical := ⟨hcanonical, hfits⟩
  exact hframe.decode_datagramOf withChecksum

/-- The header of a datagram, and its length, depend on the length of the payload alone. -/
theorem datagramOf_header (type : MessageType) (withChecksum : Bool) (sequence : UInt16)
    {payload other : List UInt8} (h : payload.length = other.length) :
    (datagramOf type withChecksum sequence payload).take headerLength =
        (datagramOf type withChecksum sequence other).take headerLength
      ∧ (datagramOf type withChecksum sequence payload).length =
          (datagramOf type withChecksum sequence other).length := by
  cases withChecksum with
  | false =>
      refine ⟨?_, ?_⟩
      · simp [datagramOf, bodyOf, bytesOfUInt16, headerLength, h]
      · simp [datagramOf, length_bodyOf, h]
  | true =>
      refine ⟨?_, ?_⟩
      · simp [datagramOf, bodyOf, bytesOfUInt16, headerLength, h]
      · simp [datagramOf, length_bodyOf, h]

/-- Bit 7 of the type byte. -/
def announcesChecksum (datagram : List UInt8) : Bool :=
  datagram[1]?.any fun typeByte => typeByte &&& checksumFlag != 0

theorem announcesChecksum_datagramOf (type : MessageType) (withChecksum : Bool)
    (sequence : UInt16) (payload : List UInt8) :
    announcesChecksum (datagramOf type withChecksum sequence payload) = withChecksum := by
  have hflag := type.byte_and_flag withChecksum
  cases withChecksum with
  | false => simpa [announcesChecksum, datagramOf, bodyOf] using hflag
  | true => simpa [announcesChecksum, datagramOf, bodyOf] using hflag

end Frame

/-! ## Round trips -/

namespace Codec

/-- Whatever the settings of the two ends, a canonical frame arrives as it was sent. -/
theorem decode_encode (sender receiver : Codec) {f : Frame} (h : f.Canonical) :
    ∃ datagram, sender.encode f = .ok datagram ∧ receiver.decode datagram = .ok f :=
  ⟨Frame.datagramOf f.message.type sender.checksum f.sequence f.message.write,
    Frame.encode_eq_ok sender.checksum h.fits, h.decode_datagramOf sender.checksum⟩

/-- An answer with a state, an error code and the configuration that was asked for. -/
def configuredStatus : Frame :=
  ⟨0xFFFE, .status
    { echoed := RequestSections.controlWord ||| RequestSections.realtimeConfiguration
      status := none
      state := some (.operationEnabled 15 false true false true)
      actualPosition := some ⟨-40000⟩
      demandPosition := none
      current := none
      warning := some ⟨0xFFFF⟩
      errorCode := some (.ofCode 0x0B)
      monitoring := none
      configuration := some ⟨0x13, 1, 2, 0xFFFF⟩ }⟩

theorem decode_encode_configuredStatus :
    ∃ datagram, (Codec.mk true).encode configuredStatus = .ok datagram
      ∧ (Codec.mk false).decode datagram = .ok configuredStatus := by
  refine decode_encode ⟨true⟩ ⟨false⟩ ⟨⟨by decide, ?_, ?_, by decide⟩, by decide⟩
  · rintro state ⟨⟩
    exact ⟨8, 0xAF, rfl⟩
  · rintro code ⟨⟩
    exact ⟨0x0B, rfl⟩

/-- An accepted frame can be sent again: the datagram has the length and the header of the accepted
one, and is received as the same frame. -/
theorem encode_decode (receiver : Codec) {b : List UInt8} {f : Frame}
    (h : receiver.decode b = .ok f) :
    ∃ b', (Codec.mk (Frame.announcesChecksum b)).encode f = .ok b'
      ∧ b'.length = b.length
      ∧ b'.take headerLength = b.take headerLength
      ∧ receiver.decode b' = .ok f := by
  obtain ⟨type, withChecksum, sequence, payload, hfits, rfl, hpayload⟩ :=
    Frame.exists_datagramOf_of_decode h
  obtain ⟨hcanonical, rfl, rfl, hlength⟩ := Frame.canonical_of_decodePayload hfits hpayload
  have hsame : f.message.write.length = payload.length :=
    (Message.length_write hcanonical.fits).trans hlength
  have hheader := Frame.datagramOf_header f.message.type withChecksum f.sequence hsame
  refine ⟨Frame.datagramOf f.message.type withChecksum f.sequence f.message.write, ?_,
    hheader.2, hheader.1, hcanonical.decode_datagramOf withChecksum⟩
  rw [Frame.announcesChecksum_datagramOf]
  exact Frame.encode_eq_ok withChecksum hcanonical.fits

/-- An answer that no end sends: the echoed word has reserved bits, a configuration is announced
that was not asked for, and a state without sub states has one. -/
def untidyStatus : List UInt8 :=
  [2, 0x02, 7, 0, 10, 0, 0x03, 0, 0, 0xF0, 0x02, 0x01, 0, 0x80, 0x37, 0x06]

theorem encode_decode_untidyStatus :
    ∃ b', (Codec.mk (Frame.announcesChecksum untidyStatus)).encode
        ⟨7, .status ⟨⟨0x3⟩, none, some .readyToOperate, none, none, none, none, none, none, none⟩⟩
          = .ok b'
      ∧ b'.length = untidyStatus.length
      ∧ b'.take headerLength = untidyStatus.take headerLength
      ∧ (Codec.mk true).decode b' = .ok
        ⟨7, .status ⟨⟨0x3⟩, none, some .readyToOperate, none, none, none, none, none, none, none⟩⟩ :=
  encode_decode ⟨true⟩ (by decide)

end Codec

end Wire
end ServoLink
