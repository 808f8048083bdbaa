import ServoLink.Proofs.Wire.Field
import ServoLink.Register.Message

/-!
# Register messages on the wire

A value is read back from its bytes if its text is short enough for the length byte
(`Value.Writable`).  A reply is `Canonical` when it has a value exactly when its status says so; any
other reply leaves its value behind when it is written.
-/

namespace ServoLink
namespace Register

open Wire

/-! ## Words -/

@[simp] theorem Value.toUInt32?_uint32 (word : UInt32) : (Value.uint32 word).toUInt32? = some word := by
  have hfits : (0 : Int) ≤ word.toNat ∧ (word.toNat : Int) < UInt32.size :=
    ⟨Int.natCast_nonneg _, Int.ofNat_lt.2 word.toNat_lt_size⟩
  rw [toUInt32?, toInt?, Option.bind_eq_bind, Option.bind_some, if_pos hfits, Int.toNat_natCast,
    UInt32.ofNat_toNat]

/-! ## Text -/

/-- The length of a text fits its byte. -/
def Value.Writable (v : Value) : Prop := ∀ text, v = .string text → text.utf8ByteSize ≤ 255

theorem Value.length_utf8 (text : String) : (Value.utf8 text).length = text.utf8ByteSize := rfl

theorem fromUTF8?_utf8 (text : String) :
    String.fromUTF8? ⟨(Value.utf8 text).toArray⟩ = some text := by
  have hvalid : text.toByteArray.IsValidUTF8 := text.isValidUTF8
  show String.fromUTF8? text.toByteArray = some text
  rw [String.fromUTF8?, dif_pos hvalid]
  rfl

theorem toByteArray_of_fromUTF8? {bytes : ByteArray} {text : String}
    (h : String.fromUTF8? bytes = some text) : text.toByteArray = bytes := by
  rw [String.fromUTF8?] at h
  split at h
  · cases h
    rfl
  · cases h

theorem Value.reads_readText {text : String} (h : text.utf8ByteSize ≤ 255) :
    Reads (Value.readText (.ofNat (Value.utf8 text).length)) (Value.utf8 text) (.string text) := by
  intro rest
  have hlength : (UInt8.ofNat (Value.utf8 text).length).toNat = (Value.utf8 text).length := by
    rw [Value.length_utf8, UInt8.toNat_ofNat']
    omega
  have henough : ¬ (Value.utf8 text ++ rest).length < (Value.utf8 text).length := by
    rw [List.length_append]
    omega
  rw [Value.readText, hlength, if_neg henough, List.take_left, List.drop_left, fromUTF8?_utf8]

theorem Value.ensures_readText (length : UInt8) :
    Ensures (Value.readText length) fun v n =>
      ∃ text, v = .string text ∧ text.utf8ByteSize = length.toNat ∧ n = length.toNat := by
  intro bytes v rest hok
  rw [Value.readText] at hok
  split at hok
  · cases hok
  · rename_i henough
    have htaken : (bytes.take length.toNat).length = length.toNat := by
      rw [List.length_take]
      omega
    split at hok
    · rename_i text htext
      cases hok
      refine ⟨bytes.take length.toNat, (List.take_append_drop _ _).symm, text, rfl, ?_, htaken⟩
      rw [← htaken, ← Value.length_utf8, Value.utf8, String.toUTF8, toByteArray_of_fromUTF8? htext]
    · cases hok

/-! ## Values -/

namespace Value

theorem payload_string {text : String} (h : text.utf8ByteSize ≤ 255) :
    (string text).payload = UInt8.ofNat (utf8 text).length :: utf8 text := by
  have htake : (utf8 text).take 255 = utf8 text := List.take_of_length_le h
  simp only [payload, htake]

theorem length_write {v : Value} (h : v.Writable) : v.write.length = v.wireLength := by
  cases v with
  -- Only a text can be cut short, and a writable one is not.
  | string text =>
      rw [write, payload_string (h text rfl), wireLength]
      simp only [List.length_cons, length_utf8]
      omega
  | _ => rfl

theorem reads_write {v : Value} (h : v.Writable) : Reads Value.read v.write v := by
  have htag : v.write = [v.dataType.tag] ++ v.payload := rfl
  rw [htag]
  refine (reads_readUInt8As .uint8 v.dataType.tag).bind ?_
  cases v with
  | int8 v => exact (reads_readInt8 v).map int8
  | uint8 v => exact (reads_readUInt8As .uint8 v).map uint8
  | int16 v => exact (reads_readInt16 v).map int16
  | uint16 v => exact (reads_readUInt16As .uint16 v).map uint16
  | int32 v => exact (reads_readInt32 v).map int32
  | uint32 v => exact (reads_readUInt32As .uint32 v).map uint32
  | float32 v => exact (reads_readUInt32As .float32 v.bits).map fun bits => float32 ⟨bits⟩
  | string text =>
      rw [payload_string (h text rfl)]
      exact (reads_readUInt8As .uint8 _).bind (reads_readText (h text rfl))

theorem ensures_read : Ensures Value.read fun v n => v.Writable ∧ n = v.wireLength := by
  refine (ensures_readUInt8As .uint8).bind fun tag n0 h0 => ?_
  -- One case for each type, in the order of their tags, after the unknown tag.
  split
  · intro bytes v rest hok
    cases hok
  · exact ensures_readInt8.map fun v n h => ⟨nofun, by rw [h0, h]; rfl⟩
  · exact (ensures_readUInt8As .uint8).map fun v n h => ⟨nofun, by rw [h0, h]; rfl⟩
  · exact ensures_readInt16.map fun v n h => ⟨nofun, by rw [h0, h]; rfl⟩
  · exact (ensures_readUInt16As .uint16).map fun v n h => ⟨nofun, by rw [h0, h]; rfl⟩
  · exact ensures_readInt32.map fun v n h => ⟨nofun, by rw [h0, h]; rfl⟩
  · exact (ensures_readUInt32As .uint32).map fun v n h => ⟨nofun, by rw [h0, h]; rfl⟩
  · exact (ensures_readUInt32As .float32).map fun v n h => ⟨nofun, by rw [h0, h]; rfl⟩
  · refine (ensures_readUInt8As .uint8).bind fun length n1 h1 => ?_
    refine (ensures_readText length).mono ?_
    rintro v n ⟨text, rfl, hsize, hn⟩
    have hlength := length.toNat_lt
    refine ⟨?_, ?_⟩
    · rintro other ⟨⟩
      omega
    · simp only [wireLength]
      omega

end Value

/-! ## Messages -/

theorem Address.reads_write (a : Address) : Reads Address.read a.write a := by
  refine Reads.require .registerAddress ?_ (Nat.le_refl 3)
  exact (reads_readUInt16As .uint16 a.index).bind
    ((reads_readUInt8As .uint8 a.subindex).bind_pure fun subindex => Address.mk a.index subindex)

theorem Address.ensures_read : Ensures Address.read fun _ n => n = Address.wireLength := by
  refine (Ensures.require .registerAddress Address.wireLength).bind fun _ n0 h0 => ?_
  refine (ensures_readUInt16As .uint16).bind fun index n1 h1 => ?_
  refine (ensures_readUInt8As .uint8).bind fun subindex n2 h2 => ?_
  refine Ensures.pure ?_
  rw [h0, h1, h2]
  rfl

theorem Address.length_write (a : Address) : a.write.length = Address.wireLength := rfl

theorem WriteRequest.length_write {w : WriteRequest} (h : w.value.Writable) :
    w.write.length = w.wireLength := by
  rw [WriteRequest.write, WriteRequest.wireLength, List.length_append, Address.length_write,
    Value.length_write h]

theorem WriteRequest.reads_write {w : WriteRequest} (h : w.value.Writable) :
    Reads WriteRequest.read w.write w :=
  (Address.reads_write w.address).bind
    ((Value.reads_write h).bind_pure fun value => WriteRequest.mk w.address value)

theorem WriteRequest.ensures_read :
    Ensures WriteRequest.read fun w n => w.value.Writable ∧ n = w.wireLength := by
  refine Address.ensures_read.bind fun address n0 h0 => ?_
  refine Value.ensures_read.bind fun value n1 h1 => ?_
  refine Ensures.pure ⟨h1.1, ?_⟩
  rw [h0, h1.2]
  rfl

namespace Reply

/-- A value is present exactly when the status is `ok`. -/
def Canonical (r : Reply) : Prop := r.value.isSome = r.status.isOk

theorem Canonical.carried_eq {r : Reply} (h : r.Canonical) : r.carried = r.value := by
  rw [carried]
  split
  · rfl
  · rename_i hrefused
    cases hvalue : r.value with
    | none => rfl
    | some value =>
        rw [Canonical, hvalue] at h
        exact absurd h.symm hrefused

theorem length_write {r : Reply} (h : ∀ v, r.carried = some v → v.Writable) :
    r.write.length = r.wireLength := by
  rw [write, wireLength, List.length_append, Address.length_write, List.length_cons]
  cases hcarried : r.carried with
  | none => rfl
  | some v =>
      simp only [Value.length_write (h v hcarried)]
      omega

theorem reads_write {r : Reply} (hcanonical : r.Canonical)
    (h : ∀ v, r.value = some v → v.Writable) : Reads Reply.read r.write r := by
  have hshape : r.write = r.address.write ++ ([r.status.code] ++ r.value.elim [] Value.write) := by
    rw [write, hcanonical.carried_eq]
    cases r.value <;> rfl
  rw [hshape]
  refine (Address.reads_write r.address).bind ?_
  refine (reads_readUInt8As .uint8 r.status.code).bind ?_
  -- The reader looks at the status to know whether a value follows.
  have hpresent : Status.isOk ⟨r.status.code⟩ = r.value.isSome := hcanonical.symm
  rw [hpresent]
  exact (Reads.section? fun v hv => Value.reads_write (h v hv)).bind_pure fun value =>
    Reply.mk r.address r.status value

theorem ensures_read :
    Ensures Reply.read fun r n =>
      (r.Canonical ∧ ∀ v, r.value = some v → v.Writable) ∧ n = r.wireLength := by
  refine Address.ensures_read.bind fun address n0 h0 => ?_
  refine (ensures_readUInt8As .uint8).bind fun code n1 h1 => ?_
  refine (Ensures.section? _ Value.ensures_read).bind fun value n2 h2 => ?_
  have hcanonical : Canonical ⟨address, ⟨code⟩, value⟩ := h2.1
  refine Ensures.pure ⟨⟨hcanonical, fun v hv => (h2.2.1 v hv).1⟩, ?_⟩
  rw [wireLength, hcanonical.carried_eq, h0, h1]
  cases value with
  | none =>
      show _ = Address.wireLength + 1 + 0
      rw [h2.2.2 rfl]
  | some v =>
      show _ = Address.wireLength + 1 + v.wireLength
      rw [(h2.2.1 v rfl).2]
      omega

end Reply

end Register
end ServoLink
