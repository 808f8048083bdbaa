import ServoLink.Wire.Frame

/-!
# Stable readers — an accepted read does not look at what follows

A reader is `Stable` when whatever it accepts, it accepts in the same way in front of further bytes,
which it leaves.  The judgement is composed along a `do` block, like the two about what is read.

* `Message.stable_read` — the payload of every message is read so;
* `Frame.decodePayload_append` — a payload that is complete is refused with bytes after it.
-/

namespace ServoLink
namespace Wire

variable {α β : Type}

/-- What the reader accepts, it accepts in front of more bytes, and leaves these. -/
def Stable (read : Reader α) : Prop :=
  ∀ bytes value rest, read bytes = .ok value rest →
    ∀ more, read (bytes ++ more) = .ok value (rest ++ more)

namespace Stable

theorem pure (value : α) : Stable (pure value) := by
  intro bytes v rest h more
  cases h
  rfl

theorem malformed (cause : Malformation) : Stable (Reader.malformed (α := α) cause) := by
  intro bytes value rest h
  cases h

theorem bind {read : Reader α} {next : α → Reader β} (hread : Stable read)
    (hnext : ∀ a, Stable (next a)) : Stable (read >>= next) := by
  intro bytes value rest h more
  change EStateM.bind read next bytes = .ok value rest at h
  show EStateM.bind read next (bytes ++ more) = .ok value (rest ++ more)
  rw [EStateM.bind] at h
  cases hfirst : read bytes with
  | error cause left =>
      rw [hfirst] at h
      cases h
  | ok a middle =>
      rw [hfirst] at h
      rw [EStateM.bind, hread bytes a middle hfirst more]
      exact hnext a middle value rest h more

theorem map {read : Reader α} (f : α → β) (hread : Stable read) : Stable (f <$> read) := by
  intro bytes value rest h more
  change EStateM.map f read bytes = .ok value rest at h
  show EStateM.map f read (bytes ++ more) = .ok value (rest ++ more)
  rw [EStateM.map] at h
  cases hfirst : read bytes with
  | error cause left =>
      rw [hfirst] at h
      cases h
  | ok a left =>
      rw [hfirst] at h
      cases h
      rw [EStateM.map, hread bytes a rest hfirst more]

theorem require (field : FieldKind) (n : Nat) : Stable (Reader.require field n) := by
  intro bytes value rest h more
  unfold Reader.require at h ⊢
  split at h
  · cases h
  · rename_i henough
    cases h
    have hmore : ¬ (bytes ++ more).length < n := by
      rw [List.length_append]
      omega
    rw [if_neg hmore]

theorem section? {read : Reader α} (present : Bool) (hread : Stable read) :
    Stable (Reader.section? present read) := by
  cases present with
  | false => exact Stable.pure none
  | true => exact hread.map some

end Stable

/-! ## Fields -/

theorem stable_readUInt8As (field : FieldKind) : Stable (readUInt8As field) := by
  intro bytes value rest h more
  match bytes, h with
  | b :: tail, h =>
      cases h
      rfl

theorem stable_readUInt16As (field : FieldKind) : Stable (readUInt16As field) := by
  intro bytes value rest h more
  match bytes, h with
  | b0 :: b1 :: tail, h =>
      cases h
      rfl

theorem stable_readUInt32As (field : FieldKind) : Stable (readUInt32As field) := by
  intro bytes value rest h more
  match bytes, h with
  | b0 :: b1 :: b2 :: b3 :: tail, h =>
      cases h
      rfl

theorem stable_readInt8 : Stable readInt8 := (stable_readUInt8As .int8).map _

theorem stable_readInt16 : Stable readInt16 := (stable_readUInt16As .int16).map _

theorem stable_readInt32 : Stable readInt32 := (stable_readUInt32As .int32).map _

theorem stable_readBytes (field : FieldKind) (n : Nat) : Stable (readBytes field n) := by
  intro bytes value rest h more
  unfold readBytes at h ⊢
  split at h
  · rename_i henough
    cases h
    have hmore : n ≤ (bytes ++ more).length := by
      rw [List.length_append]
      omega
    rw [dif_pos hmore]
    simp only [List.take_append_of_le_length henough, List.drop_append_of_le_length henough]
  · cases h

end Wire

open Wire

/-! ## Register messages -/

namespace Register

theorem Address.stable_read : Stable Address.read :=
  (Stable.require .registerAddress _).bind fun _ =>
    (stable_readUInt16As .uint16).bind fun _ =>
      (stable_readUInt8As .uint8).bind fun _ => .pure _

theorem Value.stable_readText (length : UInt8) : Stable (Value.readText length) := by
  intro bytes value rest h more
  unfold Value.readText at h ⊢
  split at h
  · cases h
  · rename_i henough
    have hlength : length.toNat ≤ bytes.length := Nat.le_of_not_lt henough
    have hmore : ¬ (bytes ++ more).length < length.toNat := by
      rw [List.length_append]
      omega
    rw [if_neg hmore, List.take_append_of_le_length hlength,
      List.drop_append_of_le_length hlength]
    split at h
    · cases h
      rfl
    · cases h

theorem Value.stable_read : Stable Value.read := by
  refine (stable_readUInt8As .uint8).bind fun tag => ?_
  split
  · exact .malformed .unknownDataType
  · exact stable_readInt8.map _
  · exact (stable_readUInt8As .uint8).map _
  · exact stable_readInt16.map _
  · exact (stable_readUInt16As .uint16).map _
  · exact stable_readInt32.map _
  · exact (stable_readUInt32As .uint32).map _
  · exact (stable_readUInt32As .float32).map _
  · exact (stable_readUInt8As .uint8).bind Value.stable_readText

theorem WriteRequest.stable_read : Stable WriteRequest.read :=
  Address.stable_read.bind fun _ => Value.stable_read.bind fun _ => .pure _

theorem Reply.stable_read : Stable Reply.read :=
  Address.stable_read.bind fun _ => (stable_readUInt8As .uint8).bind fun _ =>
    (Value.stable_read.section? _).bind fun _ => .pure _

end Register

/-! ## Process data -/

namespace ProcessData

theorem Word.stable_read {k : WordKind} : Stable (Word.read (k := k)) :=
  (stable_readUInt16As .uint16).map _

theorem Sections.stable_read {k : SectionsKind} : Stable (Sections.read (k := k)) :=
  (stable_readUInt32As .uint32).map _

theorem RealtimeConfiguration.stable_read : Stable RealtimeConfiguration.read :=
  (Stable.require .realtimeConfiguration _).bind fun _ =>
    (stable_readUInt16As .uint16).bind fun _ => (stable_readUInt16As .uint16).bind fun _ =>
      (stable_readUInt16As .uint16).bind fun _ => (stable_readUInt16As .uint16).bind fun _ => .pure _

/-- A block is read from its own bytes alone. -/
theorem Command.stable_ofBlock (number : UInt16) (block : Vector UInt8 30) :
    Stable (Command.ofBlock number block) := by
  intro bytes value rest h more
  unfold Command.ofBlock at h ⊢
  split at h
  · cases h
    rfl
  · cases h

theorem MotionCommand.stable_read : Stable MotionCommand.read :=
  (Stable.require .motionCommand _).bind fun _ => (stable_readUInt16As .uint16).bind fun header =>
    (stable_readBytes .byteBlock _).bind fun block =>
      (Command.stable_ofBlock (header >>> 4) block).bind fun _ => .pure _

theorem ControlRequest.stable_read : Stable ControlRequest.read :=
  Sections.stable_read.bind fun _ => Sections.stable_read.bind fun _ =>
    (Word.stable_read.section? _).bind fun _ => (MotionCommand.stable_read.section? _).bind fun _ =>
      (RealtimeConfiguration.stable_read.section? _).bind fun _ => .pure _

theorem MonitoringChannel.stable_read : Stable MonitoringChannel.read :=
  (Stable.require .monitoringChannel _).bind fun _ =>
    (stable_readUInt32As .uint32).bind fun _ => (stable_readUInt32As .uint32).bind fun _ =>
      (stable_readUInt32As .uint32).bind fun _ => (stable_readUInt32As .uint32).bind fun _ => .pure _

theorem stable_readState : Stable Drive.State.read := by
  intro bytes value rest h more
  match bytes, h with
  | sub :: main :: tail, h =>
      cases h
      rfl

theorem StatusResponse.stable_read : Stable StatusResponse.read :=
  Sections.stable_read.bind fun _ => Sections.stable_read.bind fun _ =>
    (Word.stable_read.section? _).bind fun _ => (stable_readState.section? _).bind fun _ =>
      ((stable_readInt32.map _).section? _).bind fun _ =>
        ((stable_readInt32.map _).section? _).bind fun _ =>
          ((stable_readInt16.map _).section? _).bind fun _ =>
            (Word.stable_read.section? _).bind fun _ =>
              (((stable_readUInt16As .uint16).map _).section? _).bind fun _ =>
                (MonitoringChannel.stable_read.section? _).bind fun _ =>
                  (RealtimeConfiguration.stable_read.section? _).bind fun _ => .pure _

end ProcessData

/-! ## Payloads -/

namespace Wire

open ProcessData

theorem Message.stable_read (type : MessageType) : Stable (Message.read type) := by
  cases type with
  | controlRequest => exact ControlRequest.stable_read.map _
  | statusResponse => exact StatusResponse.stable_read.map _
  | registerRead => exact Register.Address.stable_read.map _
  | registerWrite => exact Register.WriteRequest.stable_read.map _
  | registerReply => exact Register.Reply.stable_read.map _

/-- A complete payload is refused with bytes after it. -/
theorem Frame.decodePayload_append {type : MessageType} {sequence : UInt16} {payload : List UInt8}
    {f : Frame} (h : Frame.decodePayload type sequence payload = .ok f) (sequence' : UInt16)
    {more : List UInt8} (hmore : more ≠ []) :
    Frame.decodePayload type sequence' (payload ++ more) = .error (.malformed .trailingBytes) := by
  unfold Frame.decodePayload at h
  split at h
  · cases h
  · rename_i message hread
    cases more with
    | nil => exact absurd rfl hmore
    | cons byte rest =>
        have hlonger := Message.stable_read type payload message [] hread (byte :: rest)
        rw [Frame.decodePayload, hlonger]
        rfl
  · cases h

end Wire
end ServoLink
