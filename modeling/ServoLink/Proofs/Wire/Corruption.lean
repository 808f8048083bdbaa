import ServoLink.Proofs.Wire.Checksum
import ServoLink.Proofs.Wire.RoundTrip
import ServoLink.Proofs.Wire.Stable

/-!
# Corruption — damaged datagrams are refused

A datagram with a checksum is damaged by one or two flipped bits, or by any change within sixteen
consecutive bits.  While the damaged datagram still announces a checksum, the code sees the damage.
Damage that takes the announcement away makes the datagram two bytes longer than its header says.
To repair that, a bit of the length word has to flip as well: this is more than sixteen bits away, so
no other bit has changed, and the old payload is now followed by its own checksum, which is refused.

* `Damage` — what happens to a datagram on its way;
* `decode_damaged` — no damaged datagram is taken for a frame.
-/

namespace ServoLink
namespace Wire

/-- What can happen to a datagram, as the bits in which it differs. -/
inductive Damage (error : List Bool) : Prop where
  | flips (hsome : 0 < error.count true) (hfew : error.count true ≤ 2)
  /-- Some of the bits of a window changed, and none outside it. -/
  | burst {before after : Nat} {window : List Bool} (hwindow : window.length ≤ 16)
      (hsome : true ∈ window)
      (herror : error = List.replicate before false ++ window ++ List.replicate after false)

namespace Damage

/-- The code of a datagram sees the damage. -/
theorem syndrome_ne_zero {error : List Bool} (h : Damage error)
    (hlength : error.length ≤ Checksum.reach) : Checksum.syndrome error ≠ 0 := by
  cases h with
  | flips hsome hfew => exact Checksum.syndrome_flips hlength hsome hfew
  | burst hwindow hsome herror =>
      rw [herror, Ne, Checksum.syndrome_padded]
      exact Checksum.syndrome_burst hwindow hsome

theorem index_of_changed {before after i : Nat} {window : List Bool}
    (h : (List.replicate before false ++ window ++ List.replicate after false)[i]? = some true) :
    before ≤ i ∧ i < before + window.length := by
  by_contra hout
  by_cases hfront : i < before
  · rw [List.append_assoc, List.getElem?_append_left (by simpa using hfront),
      List.getElem?_replicate] at h
    simp [hfront] at h
  · have hback : before + window.length ≤ i := by omega
    rw [List.getElem?_append_right (by simpa using hback), List.getElem?_replicate] at h
    simp at h

/-- Changes on both sides of sixteen untouched bits or more are two flips. -/
theorem flips_of_apart {front middle back : List Bool} (h : Damage (front ++ (middle ++ back)))
    (hfront : true ∈ front) (hback : true ∈ back) (hmiddle : 15 ≤ middle.length) :
    front.count true = 1 ∧ true ∉ middle ∧ back.count true = 1 := by
  have hone := List.count_pos_iff.2 hfront
  have htwo := List.count_pos_iff.2 hback
  cases h with
  | flips _ hfew =>
      rw [List.count_append, List.count_append] at hfew
      exact ⟨by omega, List.count_eq_zero.1 (by omega), by omega⟩
  | burst hwindow _ herror =>
      -- The first change and the last are too far apart for a window.
      rcases List.mem_iff_getElem?.1 hfront with ⟨i, hi⟩
      rcases List.mem_iff_getElem?.1 hback with ⟨j, hj⟩
      have hin : i < front.length := (List.getElem?_eq_some_iff.1 hi).1
      have hfirst : (front ++ (middle ++ back))[i]? = some true := by
        rw [List.getElem?_append_left hin, hi]
      have hlast : (front ++ (middle ++ back))[front.length + (middle.length + j)]? = some true := by
        rw [List.getElem?_append_right (Nat.le_add_right _ _), Nat.add_sub_cancel_left,
          List.getElem?_append_right (Nat.le_add_right _ _), Nat.add_sub_cancel_left, hj]
      rw [herror] at hfirst hlast
      have hlow := index_of_changed hfirst
      have hhigh := index_of_changed hlast
      omega

end Damage

/-! ## Headers -/

namespace Frame

theorem run_datagramOf (type : MessageType) (sequence : UInt16) (payload : List UInt8) :
    Checksum.run Checksum.start (datagramOf type true sequence payload) = 0 := by
  have hcode := (Checksum.run_eq_zero_iff (bodyOf type true sequence payload) _ _).2
    (word16_bytes (checksum (bodyOf type true sequence payload)))
  exact hcode

/-- A datagram without a checksum differs from one with a checksum in the announcement.  If nothing
else in front of the sequence number differs, the type is the same. -/
theorem difference_start (type type' : MessageType) :
    true ∈ difference [protocolVersion, type.byte true] [protocolVersion, type'.byte false]
      ∧ ((difference [protocolVersion, type.byte true]
          [protocolVersion, type'.byte false]).count true = 1 → type' = type) := by
  -- The types are few, and so are the bits of two bytes.
  cases type <;> cases type' <;> exact ⟨by decide +kernel, by decide +kernel⟩

/-- Payloads of different lengths are announced by different length words. -/
theorem difference_length {payload payload' : List UInt8} (hfits : payload.length ≤ maxPayload)
    (hfits' : payload'.length ≤ maxPayload) (h : payload'.length ≠ payload.length) :
    true ∈ difference (bytesOfUInt16 (.ofNat payload.length))
      (bytesOfUInt16 (.ofNat payload'.length)) := by
  by_contra hsame
  have hbytes := eq_of_true_notMem_difference (by simp) hsame
  have hwords : UInt16.ofNat payload'.length = UInt16.ofNat payload.length := by
    injection hbytes with hlow hrest
    injection hrest with hhigh
    rw [← word16_bytes (.ofNat payload'.length), hlow, hhigh, word16_bytes]
  have hlengths := congrArg UInt16.toNat hwords
  have hmax : maxPayload < UInt16.size := by decide
  rw [UInt16.toNat_ofNat_of_lt' (by omega), UInt16.toNat_ofNat_of_lt' (by omega)] at hlengths
  exact h hlengths

/-- Damage that takes the announcement of the checksum away leaves a payload followed by its
checksum. -/
theorem payload_of_unannounced {type type' : MessageType} {sequence sequence' : UInt16}
    {payload payload' : List UInt8} (hfits : payload.length ≤ maxPayload)
    (hfits' : payload'.length ≤ maxPayload)
    (hlength : (datagramOf type' false sequence' payload').length =
      (datagramOf type true sequence payload).length)
    (hdamage : Damage (difference (datagramOf type true sequence payload)
      (datagramOf type' false sequence' payload'))) :
    type' = type ∧ ∃ code, code ≠ [] ∧ payload' = payload ++ code := by
  have hlonger : payload'.length = payload.length + checksumLength := by
    simp only [datagramOf, if_true, Bool.false_eq_true, if_false, List.length_append,
      length_bodyOf] at hlength
    have hcode : (bytesOfUInt16 (checksum (bodyOf type true sequence payload))).length =
        checksumLength := rfl
    omega
  have hgrown : payload'.length ≠ payload.length := by
    rw [hlonger, checksumLength]
    omega
  -- Four parts: version and type, sequence number, length, and all that follows the header.
  obtain ⟨code, hcode, hdatagram⟩ : ∃ code : List UInt8, code.length = checksumLength
      ∧ datagramOf type true sequence payload =
        [protocolVersion, type.byte true] ++ (bytesOfUInt16 sequence
          ++ (bytesOfUInt16 (.ofNat payload.length) ++ (payload ++ code))) :=
    ⟨bytesOfUInt16 (checksum (bodyOf type true sequence payload)), rfl, by
      simp [datagramOf, bodyOf]⟩
  have hdatagram' : datagramOf type' false sequence' payload' =
      [protocolVersion, type'.byte false] ++ (bytesOfUInt16 sequence'
        ++ (bytesOfUInt16 (.ofNat payload'.length) ++ payload')) := by
    simp [datagramOf, bodyOf]
  rw [hdatagram, hdatagram', difference_append (by simp), difference_append (by simp),
    difference_append (by simp)] at hdamage
  rcases difference_start type type' with ⟨hannounced, htype⟩
  have hannouncedLength := difference_length hfits hfits' hgrown
  -- The announcement and the length have changed, and the sequence number lies between them.
  rcases hdamage.flips_of_apart hannounced (List.mem_append_left _ hannouncedLength)
    (by rw [length_difference (by simp)]; simp) with ⟨hstart, -, hrest⟩
  have hfollowing : true ∉ difference (payload ++ code) payload' := by
    rw [List.count_append] at hrest
    have hword := List.count_pos_iff.2 hannouncedLength
    exact List.count_eq_zero.1 (by omega)
  refine ⟨htype hstart, code, ?_, ?_⟩
  · rintro rfl
    cases hcode
  · exact eq_of_true_notMem_difference (by rw [hlonger, List.length_append, hcode]) hfollowing

end Frame

/-! ## Damaged datagrams -/

namespace Codec

/-- A damaged datagram is refused: of a frame that was sent with a checksum and that the receiver
would have accepted, no datagram that arrives with one or two flipped bits, or changed within sixteen
consecutive bits, is taken for a frame. -/
theorem decode_damaged (receiver : Codec) {f g : Frame} {d d' : List UInt8}
    (hsent : (Codec.mk true).encode f = .ok d) (haccepted : receiver.decode d = .ok g)
    (hlength : d'.length = d.length) (hdamage : Damage (difference d d')) :
    ∃ cause, receiver.decode d' = .error cause := by
  rcases Frame.eq_datagramOf_of_encode hsent with ⟨hfits, rfl⟩
  have hpayload := Message.length_write_le hfits
  have hread := haccepted
  rw [Codec.decode, Frame.decode_datagramOf hpayload] at hread
  cases hdecode : receiver.decode d' with
  | error cause => exact ⟨cause, rfl⟩
  | ok f' =>
      exfalso
      rcases Frame.exists_datagramOf_of_decode hdecode with
        ⟨type', announced, sequence', payload', hfits', rfl, hread'⟩
      cases announced with
      | true =>
          -- Both datagrams end in their code, so it does not see what is between them.
          have hunseen := Checksum.syndrome_difference hlength (Frame.run_datagramOf _ _ _)
            (Frame.run_datagramOf _ _ _)
          refine hdamage.syndrome_ne_zero ?_ hunseen
          rw [length_difference hlength, Checksum.reach]
          have hshort := congrArg List.length (Frame.take_of_encode hsent)
          rw [List.length_take] at hshort
          omega
      | false =>
          -- The payload is read once more, with the checksum behind it.
          rcases Frame.payload_of_unannounced hpayload hfits' hlength hdamage with
            ⟨rfl, code, hcode, rfl⟩
          rw [Frame.decodePayload_append hread sequence' hcode] at hread'
          cases hread'

/-- A write of the cycle time. -/
def cycleTimeWrite : Frame := ⟨7, .registerWrite ⟨⟨0x0010, 0⟩, .uint32 2000⟩⟩

/-- Its datagram, of which two bits have flipped: no checksum is announced, and the length counts the
checksum as payload. -/
def unannouncedWrite : List UInt8 :=
  [2, 0x11, 7, 0, 10, 0, 0x10, 0, 0, 5, 0xD0, 0x07, 0, 0, 0x5B, 0x3F]

theorem decode_damaged_unannounced :
    ∃ cause, (Codec.mk false).decode unannouncedWrite = .error cause :=
  decode_damaged ⟨false⟩ (f := cycleTimeWrite) (g := cycleTimeWrite)
    (d := [2, 0x91, 7, 0, 8, 0, 0x10, 0, 0, 5, 0xD0, 0x07, 0, 0, 0x5B, 0x3F])
    (by decide +kernel) (by decide +kernel) rfl (.flips (by decide +kernel) (by decide +kernel))

end Codec

end Wire
end ServoLink
