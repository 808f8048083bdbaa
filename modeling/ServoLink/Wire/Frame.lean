import ServoLink.ProcessData.Status
import ServoLink.Register.Message
import ServoLink.Wire.Checksum

/-!
# Frame — the datagram of both channels

A datagram is one frame: version, message type, sequence number, payload length, payload, and a
checksum when bit 7 of the type byte says so.  All words are little-endian.

* `Frame.encode` — the bytes of a frame; fails only for a payload over the limit;
* `Frame.appendTo` — the same bytes after a buffer, or the buffer untouched;
* `Frame.decode` — the frame of a datagram; whether a checksum is expected is up to the datagram.
-/

namespace ServoLink
namespace Wire

open ProcessData

def protocolVersion : UInt8 := 2
def headerLength : Nat := 6
def checksumLength : Nat := 2
def maxPayload : Nat := 256
def maxFrameLength : Nat := headerLength + maxPayload + checksumLength

/-- The bit of the type byte that announces a checksum. -/
def checksumFlag : UInt8 := 0x80

/-! ## Errors -/

inductive FrameError where
  | malformed (cause : Malformation)
  | unsupportedVersion (version : UInt8)
  | checksumMismatch (expected actual : UInt16)
  | payloadTooLarge (size max : Nat)
  deriving DecidableEq, Repr, Inhabited

def FrameError.message : FrameError → String
  | malformed cause => "malformed frame: " ++ cause.reason
  | unsupportedVersion version => "unsupported protocol version " ++ toString version.toNat
  | checksumMismatch expected actual =>
      "checksum mismatch (expected " ++ Register.hex4 expected.toNat ++ ", got "
        ++ Register.hex4 actual.toNat ++ ")"
  | payloadTooLarge size max =>
      "payload too large (" ++ toString size ++ " bytes, max " ++ toString max ++ ")"

/-! ## Messages -/

inductive MessageType where
  | controlRequest | statusResponse | registerRead | registerWrite | registerReply
  deriving DecidableEq, Repr, Inhabited

namespace MessageType

def number : MessageType → UInt8
  | controlRequest => 0x01
  | statusResponse => 0x02
  | registerRead => 0x10
  | registerWrite => 0x11
  | registerReply => 0x12

def ofNumber? : UInt8 → Option MessageType
  | 0x01 => some controlRequest
  | 0x02 => some statusResponse
  | 0x10 => some registerRead
  | 0x11 => some registerWrite
  | 0x12 => some registerReply
  | _ => none

def name : MessageType → String
  | controlRequest => "ControlRequest"
  | statusResponse => "StatusResponse"
  | registerRead => "RegisterRead"
  | registerWrite => "RegisterWrite"
  | registerReply => "RegisterReply"

end MessageType

inductive Message where
  | control (request : ControlRequest)
  | status (response : StatusResponse)
  | registerRead (address : Register.Address)
  | registerWrite (request : Register.WriteRequest)
  | registerReply (reply : Register.Reply)
  deriving DecidableEq, Repr, Inhabited

namespace Message

def type : Message → MessageType
  | control _ => .controlRequest
  | status _ => .statusResponse
  | registerRead _ => .registerRead
  | registerWrite _ => .registerWrite
  | registerReply _ => .registerReply

def wireLength : Message → Nat
  | control r => r.wireLength
  | status s => s.wireLength
  | registerRead _ => Register.Address.wireLength
  | registerWrite w => w.wireLength
  | registerReply r => r.wireLength

def write : Message → List UInt8
  | control r => r.write
  | status s => s.write
  | registerRead a => a.write
  | registerWrite w => w.write
  | registerReply r => r.write

def read : MessageType → Reader Message
  | .controlRequest => control <$> ControlRequest.read
  | .statusResponse => status <$> StatusResponse.read
  | .registerRead => registerRead <$> Register.Address.read
  | .registerWrite => registerWrite <$> Register.WriteRequest.read
  | .registerReply => registerReply <$> Register.Reply.read

end Message

/-! ## Frames -/

structure Frame where
  sequence : UInt16
  message : Message
  deriving DecidableEq, Repr, Inhabited

namespace Frame

def typeByte (f : Frame) (withChecksum : Bool) : UInt8 :=
  if withChecksum then f.message.type.number ||| checksumFlag else f.message.type.number

/-- Header and payload, without the checksum. -/
def body (f : Frame) (withChecksum : Bool) : List UInt8 :=
  protocolVersion :: f.typeByte withChecksum :: (bytesOfUInt16 f.sequence
    ++ bytesOfUInt16 (.ofNat f.message.wireLength) ++ f.message.write)

def bytes (f : Frame) (withChecksum : Bool) : List UInt8 :=
  let body := f.body withChecksum
  if withChecksum then body ++ bytesOfUInt16 (checksum body) else body

/-- The datagram of a frame. -/
def encode (withChecksum : Bool) (f : Frame) : Except FrameError (List UInt8) :=
  if maxPayload < f.message.wireLength then
    .error (.payloadTooLarge f.message.wireLength maxPayload)
  else .ok (f.bytes withChecksum)

/-- The length of the datagram as announced by the header. -/
def announcedLength (f : Frame) (withChecksum : Bool) : Nat :=
  headerLength + f.message.wireLength + (if withChecksum then checksumLength else 0)

/-- Writes the frame at the end of a buffer and counts the bytes announced.  A payload over the limit
is refused before anything is written.  The checksum covers what was written since the start. -/
def appendTo (withChecksum : Bool) (f : Frame) : EStateM FrameError (List UInt8) Nat :=
  fun buffer =>
    if maxPayload < f.message.wireLength then
      .error (.payloadTooLarge f.message.wireLength maxPayload) buffer
    else
      let start := buffer.length
      let buffer := buffer ++ f.body withChecksum
      let buffer :=
        if withChecksum then buffer ++ bytesOfUInt16 (checksum (buffer.drop start)) else buffer
      .ok (f.announcedLength withChecksum) buffer

/-- Reads the payload of a frame; all of it has to be consumed. -/
def decodePayload (type : MessageType) (sequence : UInt16) (payload : List UInt8) :
    Except FrameError Frame :=
  match Message.read type payload with
  | .error cause _ => .error (.malformed cause)
  | .ok message [] => .ok ⟨sequence, message⟩
  | .ok _ (_ :: _) => .error (.malformed .trailingBytes)

/-- The frame of a datagram.  The header is checked first, from version to length; then the
checksum; then the payload is read. -/
def decode (datagram : List UInt8) : Except FrameError Frame :=
  match datagram with
  | version :: typeByte :: s0 :: s1 :: l0 :: l1 :: rest =>
      if version ≠ protocolVersion then .error (.unsupportedVersion version)
      else
        match MessageType.ofNumber? (typeByte &&& ~~~checksumFlag) with
        | none => .error (.malformed .unknownMessageType)
        | some type =>
            let length := (word16 l0 l1).toNat
            let hasChecksum := typeByte &&& checksumFlag != 0
            let trailer := if hasChecksum then checksumLength else 0
            if maxPayload < length then .error (.malformed .lengthOverLimit)
            -- The datagram has to end where the header says.
            else if rest.length ≠ length + trailer then .error (.malformed .lengthMismatch)
            else
              let payload := rest.take length
              match hasChecksum, rest.drop length with
              | true, [c0, c1] =>
                  let expected := word16 c0 c1
                  let actual := checksum (datagram.take (headerLength + length))
                  if expected ≠ actual then .error (.checksumMismatch expected actual)
                  else decodePayload type (word16 s0 s1) payload
              -- Without a checksum nothing follows the payload.
              | _, _ => decodePayload type (word16 s0 s1) payload
  | _ => .error (.malformed .shorterThanHeader)

end Frame

/-! ## Codec -/

/-- What one end sends and receives frames with. -/
structure Codec where
  /-- Sent frames carry a checksum; a received frame says itself whether it does. -/
  checksum : Bool := false
  deriving DecidableEq, Repr, Inhabited

namespace Codec

def encode (c : Codec) (f : Frame) : Except FrameError (List UInt8) := f.encode c.checksum

def appendTo (c : Codec) (f : Frame) : EStateM FrameError (List UInt8) Nat :=
  f.appendTo c.checksum

def decode (_ : Codec) (datagram : List UInt8) : Except FrameError Frame := Frame.decode datagram

end Codec

end Wire
end ServoLink
