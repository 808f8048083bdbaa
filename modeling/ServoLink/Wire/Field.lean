/-!
# Wire fields — little-endian words at the front of a datagram

A payload is a sequence of fields.  `Reader α` takes a field off the front of the remaining bytes;
when it fails it says which field was cut short and leaves what it had not consumed.

* `readUInt8` … `readInt32`, `readBytes` — the primitive readers, each checked before it consumes;
* `bytesOfUInt16`, `bytesOfUInt32` and their signed companions — the bytes the writers append.

A reader paired with its writer satisfies `read (write v ++ rest) = .ok v rest`.
-/

namespace ServoLink
namespace Wire

/-! ## What can be wrong with a payload -/

/-- The fields whose truncation is reported, each under its own label. -/
inductive FieldKind where
  | uint8 | int8 | uint16 | int16 | uint32 | int32 | float32
  | byteBlock | driveState | motionCommand | realtimeConfiguration
  | monitoringChannel | registerAddress | stringValue
  deriving DecidableEq, Repr, Inhabited

def FieldKind.label : FieldKind → String
  | .uint8 => "u8"
  | .int8 => "i8"
  | .uint16 => "u16"
  | .int16 => "i16"
  | .uint32 => "u32"
  | .int32 => "i32"
  | .float32 => "f32"
  | .byteBlock => "byte block"
  | .driveState => "drive state"
  | .motionCommand => "motion command block"
  | .realtimeConfiguration => "realtime configuration"
  | .monitoringChannel => "monitoring channel"
  | .registerAddress => "register address"
  | .stringValue => "string value"

/-- Why the structure of a datagram is not that of a frame. -/
inductive Malformation where
  | shorterThanHeader
  | unknownMessageType
  | lengthOverLimit
  | lengthMismatch
  | trailingBytes
  | truncated (field : FieldKind)
  | unknownDataType
  | stringNotUtf8
  | replyWithoutValue
  /-- A reason worded by the caller. -/
  | stated (reason : String)
  deriving DecidableEq, Repr, Inhabited

def Malformation.reason : Malformation → String
  | .shorterThanHeader => "shorter than header"
  | .unknownMessageType => "unknown message type"
  | .lengthOverLimit => "declared length exceeds maximum payload"
  | .lengthMismatch => "declared length does not match datagram"
  | .trailingBytes => "trailing bytes after payload"
  | .truncated field => field.label
  | .unknownDataType => "unknown register data type"
  | .stringNotUtf8 => "string value is not UTF-8"
  | .replyWithoutValue => "read reply without value"
  | .stated reason => reason

/-! ## Readers -/

/-- Takes a value off the front of the bytes; a failure keeps the bytes it did not consume. -/
abbrev Reader (α : Type) := EStateM Malformation (List UInt8) α

namespace Reader

/-- Fails with `field` unless `n` bytes remain; consumes nothing. -/
def require (field : FieldKind) (n : Nat) : Reader Unit := fun bytes =>
  if bytes.length < n then .error (.truncated field) bytes else .ok () bytes

def malformed {α : Type} (cause : Malformation) : Reader α := fun bytes => .error cause bytes

/-- Reads an optional section: only when it is announced. -/
def section? {α : Type} (present : Bool) (read : Reader α) : Reader (Option α) :=
  if present then some <$> read else pure none

end Reader

def word16 (lo hi : UInt8) : UInt16 := lo.toUInt16 ||| (hi.toUInt16 <<< 8)

def word32 (b0 b1 b2 b3 : UInt8) : UInt32 :=
  b0.toUInt32 ||| (b1.toUInt32 <<< 8) ||| (b2.toUInt32 <<< 16) ||| (b3.toUInt32 <<< 24)

def readUInt8As (field : FieldKind) : Reader UInt8
  | b :: rest => .ok b rest
  | bytes => .error (.truncated field) bytes

def readUInt16As (field : FieldKind) : Reader UInt16
  | b0 :: b1 :: rest => .ok (word16 b0 b1) rest
  | bytes => .error (.truncated field) bytes

def readUInt32As (field : FieldKind) : Reader UInt32
  | b0 :: b1 :: b2 :: b3 :: rest => .ok (word32 b0 b1 b2 b3) rest
  | bytes => .error (.truncated field) bytes

def readUInt8 : Reader UInt8 := readUInt8As .uint8
def readInt8 : Reader Int8 := UInt8.toInt8 <$> readUInt8As .int8
def readUInt16 : Reader UInt16 := readUInt16As .uint16
def readInt16 : Reader Int16 := UInt16.toInt16 <$> readUInt16As .int16
def readUInt32 : Reader UInt32 := readUInt32As .uint32
def readInt32 : Reader Int32 := UInt32.toInt32 <$> readUInt32As .int32

/-- The first `n` bytes, or nothing consumed. -/
def readBytes (field : FieldKind) (n : Nat) : Reader (Vector UInt8 n) := fun bytes =>
  if h : n ≤ bytes.length then
    .ok ⟨(bytes.take n).toArray, by simp [List.length_take, Nat.min_eq_left h]⟩ (bytes.drop n)
  else
    .error (.truncated field) bytes

/-! ## Writers -/

def bytesOfUInt16 (w : UInt16) : List UInt8 := [w.toUInt8, (w >>> 8).toUInt8]

def bytesOfUInt32 (w : UInt32) : List UInt8 :=
  [w.toUInt8, (w >>> 8).toUInt8, (w >>> 16).toUInt8, (w >>> 24).toUInt8]

def bytesOfInt8 (v : Int8) : List UInt8 := [v.toUInt8]
def bytesOfInt16 (v : Int16) : List UInt8 := bytesOfUInt16 v.toUInt16
def bytesOfInt32 (v : Int32) : List UInt8 := bytesOfUInt32 v.toUInt32

end Wire
end ServoLink
