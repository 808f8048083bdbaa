import ServoLink.Proofs.Wire.RoundTrip

/-!
# Appending — a frame is written at the end of a buffer, or nothing is

What is appended is the datagram that the frame has in a buffer of its own: neither the length word
nor the checksum looks at what the buffer held before.  The only frames that are refused are register
messages with a text too long for a payload (`Message.Oversized`); whether a message is canonical
does not matter.

* `Message.oversized_iff` — which messages are over the limit;
* `Frame.appendTo_of_fits`, `Frame.appendTo_of_over` — the two outcomes;
* `Codec.appends_or_refuses` — all of it, for every frame and every buffer.
-/

namespace ServoLink

open Wire

/-! ## Messages over the limit -/

/-- Only a text makes a value long. -/
theorem Register.Value.wireLength_le_or_string (v : Register.Value) :
    v.wireLength ≤ 5 ∨ ∃ text, v = .string text := by
  cases v with
  | string text => exact Or.inr ⟨text, rfl⟩
  | _ =>
      left
      simp [Register.Value.wireLength]

namespace Wire

open ProcessData

namespace Message

/-- The messages that no payload holds: a text of more than 251 bytes to be written, and one of more
than 250 bytes in the reply to an access that succeeded. -/
inductive Oversized : Message → Prop where
  | write {address : Register.Address} {text : String} (h : 251 < text.utf8ByteSize) :
      Oversized (.registerWrite ⟨address, .string text⟩)
  | reply {address : Register.Address} {status : Register.Status} {text : String}
      (hok : status.isOk) (h : 250 < text.utf8ByteSize) :
      Oversized (.registerReply ⟨address, status, some (.string text)⟩)

/-- With all its sections a response still fits. -/
theorem wireLength_status_le (s : StatusResponse) : (Message.status s).wireLength ≤ maxPayload := by
  have hsection : ∀ (present : Bool) (length : Nat), (if present then length else 0) ≤ length := by
    intro present length
    split
    · exact Nat.le_refl length
    · exact Nat.zero_le length
  show s.wireLength ≤ maxPayload
  calc s.wireLength
      ≤ 8 + 2 + 2 + 4 + 4 + 2 + 2 + 2 + MonitoringChannel.wireLength
          + RealtimeConfiguration.wireLength := by
        unfold StatusResponse.wireLength
        repeat refine Nat.add_le_add ?_ (hsection _ _)
        exact Nat.le_refl 8
    _ ≤ maxPayload := by decide

theorem oversized_registerWrite_iff (w : Register.WriteRequest) :
    maxPayload < (Message.registerWrite w).wireLength ↔ (Message.registerWrite w).Oversized := by
  rcases w with ⟨address, value⟩
  have hlength : (Message.registerWrite ⟨address, value⟩).wireLength = 3 + value.wireLength := rfl
  have hlimit : maxPayload = 256 := rfl
  rw [hlength, hlimit]
  constructor
  · intro hover
    rcases value.wireLength_le_or_string with hshort | ⟨text, rfl⟩
    · omega
    · refine .write ?_
      simp only [Register.Value.wireLength] at hover
      omega
  · intro h
    cases h with
    | write htext =>
        simp only [Register.Value.wireLength]
        omega

theorem oversized_registerReply_iff (r : Register.Reply) :
    maxPayload < (Message.registerReply r).wireLength ↔ (Message.registerReply r).Oversized := by
  rcases r with ⟨address, status, value⟩
  have hlength : (Message.registerReply ⟨address, status, value⟩).wireLength =
      4 + ((if status.isOk then value else none).map Register.Value.wireLength).getD 0 := by
    show Register.Reply.wireLength ⟨address, status, value⟩ = _
    unfold Register.Reply.wireLength Register.Reply.carried Register.Address.wireLength
    dsimp only
    split
    · rename_i carried hcarried
      rw [hcarried]
      rfl
    · rename_i hnone
      rw [hnone]
      rfl
  have hlimit : maxPayload = 256 := rfl
  rw [hlength, hlimit]
  constructor
  · intro hover
    cases hok : status.isOk with
    | false => simp [hok] at hover
    | true =>
        cases value with
        | none => simp [hok] at hover
        | some value =>
            simp only [hok, if_true, Option.map_some, Option.getD_some] at hover
            rcases value.wireLength_le_or_string with hshort | ⟨text, rfl⟩
            · omega
            · refine .reply hok ?_
              simp only [Register.Value.wireLength] at hover
              omega
  · intro h
    cases h with
    | reply hok htext =>
        simp only [hok, if_true, Option.map_some, Option.getD_some, Register.Value.wireLength]
        omega

theorem oversized_iff (m : Message) : maxPayload < m.wireLength ↔ m.Oversized := by
  cases m with
  | control r =>
      refine ⟨fun hover => absurd (wireLength_control_le r) (Nat.not_le.2 hover), ?_⟩
      rintro ⟨⟩
  | status s =>
      refine ⟨fun hover => absurd (wireLength_status_le s) (Nat.not_le.2 hover), ?_⟩
      rintro ⟨⟩
  | registerRead a =>
      have hfits : ¬ maxPayload < Register.Address.wireLength := by decide
      refine ⟨fun hover => absurd hover hfits, ?_⟩
      rintro ⟨⟩
  | registerWrite w => exact oversized_registerWrite_iff w
  | registerReply r => exact oversized_registerReply_iff r

end Message

/-! ## The buffer -/

namespace Frame

/-- The length word of a header. -/
def lengthField : List UInt8 → Option UInt16
  | _ :: _ :: _ :: _ :: l0 :: l1 :: _ => some (word16 l0 l1)
  | _ => none

variable {f : Frame} {withChecksum : Bool}

/-- The datagram of a frame is as long as its header announces. -/
theorem length_encode (h : f.message.wireLength ≤ maxPayload) :
    (datagramOf f.message.type withChecksum f.sequence f.message.write).length =
      f.announcedLength withChecksum := by
  cases withChecksum with
  | false => simp [datagramOf, announcedLength, length_bodyOf, Message.length_write h]
  | true =>
      simp [datagramOf, announcedLength, length_bodyOf, Message.length_write h, checksumLength]

theorem announcedLength_le (h : f.message.wireLength ≤ maxPayload) :
    f.announcedLength withChecksum ≤ maxFrameLength := by
  unfold announcedLength maxFrameLength
  split <;> omega

/-- A payload within the limit is announced with its true length. -/
theorem lengthField_datagramOf (type : MessageType) (sequence : UInt16) {payload : List UInt8}
    (h : payload.length ≤ maxPayload) :
    (lengthField (datagramOf type withChecksum sequence payload)).map UInt16.toNat =
      some payload.length := by
  have hlength : (UInt16.ofNat payload.length).toNat = payload.length := by
    have hlt : payload.length < UInt16.size := Nat.lt_of_le_of_lt h (by decide)
    rw [UInt16.toNat_ofNat']
    exact Nat.mod_eq_of_lt hlt
  have hword : lengthField (datagramOf type withChecksum sequence payload) =
      some (word16 (UInt16.ofNat payload.length).toUInt8
        (UInt16.ofNat payload.length >>> 8).toUInt8) := by
    cases withChecksum with
    | false => rfl
    | true => rfl
  rw [hword, word16_bytes, Option.map_some, hlength]

theorem appendTo_of_over (h : maxPayload < f.message.wireLength) (buffer : List UInt8) :
    f.appendTo withChecksum buffer =
      .error (.payloadTooLarge f.message.wireLength maxPayload) buffer := by
  rw [appendTo, if_pos h]

/-- The bytes before the frame are neither changed nor summed up. -/
theorem appendTo_of_fits (h : f.message.wireLength ≤ maxPayload) (buffer : List UInt8) :
    f.appendTo withChecksum buffer = .ok (f.announcedLength withChecksum)
      (buffer ++ datagramOf f.message.type withChecksum f.sequence f.message.write) := by
  have hbytes : f.bytes withChecksum =
      datagramOf f.message.type withChecksum f.sequence f.message.write := by
    have hencode := encode_eq_ok withChecksum h
    rw [encode, if_neg (Nat.not_lt.2 h)] at hencode
    exact Except.ok.inj hencode
  rw [appendTo, if_neg (Nat.not_lt.2 h), ← hbytes, bytes]
  dsimp only
  rw [List.drop_left]
  cases withChecksum with
  | false => rfl
  | true => simp only [if_true, List.append_assoc]

end Frame

namespace Codec

/-- What a frame is sent as: a header that announces the length of the payload, the payload, and the
checksum of these two if the codec is to add one. -/
structure SentAs (c : Codec) (f : Frame) (datagram header trailer : List UInt8) : Prop where
  parts : datagram = header ++ f.message.write ++ trailer
  length : header.length = headerLength
  announced : (Frame.lengthField datagram).map UInt16.toNat = some f.message.write.length
  sum : trailer =
    if c.checksum then bytesOfUInt16 (Wire.checksum (header ++ f.message.write)) else []

theorem exists_sentAs (c : Codec) {f : Frame} (h : f.message.wireLength ≤ maxPayload) :
    ∃ header trailer, c.SentAs f
      (Frame.datagramOf f.message.type c.checksum f.sequence f.message.write) header trailer := by
  have hannounced : (Frame.lengthField (Frame.datagramOf f.message.type c.checksum f.sequence
      f.message.write)).map UInt16.toNat = some f.message.write.length :=
    Frame.lengthField_datagramOf f.message.type f.sequence (Message.length_write_le h)
  refine ⟨protocolVersion :: f.message.type.byte c.checksum :: (bytesOfUInt16 f.sequence
    ++ bytesOfUInt16 (.ofNat f.message.write.length)), _, ?_, rfl, hannounced, rfl⟩
  cases hchecksum : c.checksum with
  | false => simp [Frame.datagramOf, Frame.bodyOf]
  | true => simp [Frame.datagramOf, Frame.bodyOf]

/-- Whatever the frame and the buffer, either the message is too large, which is reported, and the
buffer stays as it is; or exactly the datagram that the frame has on its own is appended and its bytes
are counted.  Only register messages with a long text are too large. -/
theorem appends_or_refuses (c : Codec) (f : Frame) (buffer : List UInt8) :
    ((f.message.Oversized ∧ maxPayload < f.message.wireLength
          ∧ c.encode f = .error (.payloadTooLarge f.message.wireLength maxPayload)
          ∧ c.appendTo f buffer =
            .error (.payloadTooLarge f.message.wireLength maxPayload) buffer)
        ∨ ¬ f.message.Oversized ∧ ∃ datagram header trailer, c.encode f = .ok datagram
          ∧ c.appendTo f buffer = .ok datagram.length (buffer ++ datagram)
          ∧ datagram.length ≤ maxFrameLength
          ∧ c.SentAs f datagram header trailer)
      ∧ (∀ sequence request, ∃ datagram, c.encode ⟨sequence, .control request⟩ = .ok datagram)
      ∧ ∀ sequence response, ∃ datagram, c.encode ⟨sequence, .status response⟩ = .ok datagram := by
  refine ⟨?_, ?_, ?_⟩
  · by_cases hover : maxPayload < f.message.wireLength
    · refine Or.inl ⟨f.message.oversized_iff.1 hover, hover, ?_, Frame.appendTo_of_over hover buffer⟩
      rw [encode, Frame.encode, if_pos hover]
    · have hfits := Nat.not_lt.1 hover
      have hlength : (Frame.datagramOf f.message.type c.checksum f.sequence
          f.message.write).length = f.announcedLength c.checksum := Frame.length_encode hfits
      rcases c.exists_sentAs hfits with ⟨header, trailer, hsent⟩
      refine Or.inr ⟨fun hoversized => hover (f.message.oversized_iff.2 hoversized), _, header,
        trailer, Frame.encode_eq_ok c.checksum hfits, ?_, ?_, hsent⟩
      · rw [hlength]
        exact Frame.appendTo_of_fits hfits buffer
      · rw [hlength]
        exact Frame.announcedLength_le hfits
  · intro sequence request
    exact ⟨_, Frame.encode_eq_ok (f := ⟨sequence, .control request⟩) c.checksum
      (Message.wireLength_control_le request)⟩
  · intro sequence response
    exact ⟨_, Frame.encode_eq_ok (f := ⟨sequence, .status response⟩) c.checksum
      (Message.wireLength_status_le response)⟩

end Codec

end Wire
end ServoLink
