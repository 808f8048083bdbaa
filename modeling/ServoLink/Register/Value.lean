import ServoLink.Decimal.Shortest
import ServoLink.Text.Quoted
import ServoLink.Wire.Field

/-!
# Register value — a value tagged with its type

On the wire a value is a type tag and the value itself; a string is its length in one byte and its
UTF-8 bytes.  Single-precision numbers are kept as bits, so that reading and writing lose nothing.
-/

namespace ServoLink
namespace Register

open Wire

inductive DataType where
  | int8 | uint8 | int16 | uint16 | int32 | uint32 | float32 | string
  deriving DecidableEq, Repr, Inhabited

namespace DataType

def tag : DataType → UInt8
  | int8 => 0
  | uint8 => 1
  | int16 => 2
  | uint16 => 3
  | int32 => 4
  | uint32 => 5
  | float32 => 6
  | string => 7

def ofTag? : UInt8 → Option DataType
  | 0 => some int8
  | 1 => some uint8
  | 2 => some int16
  | 3 => some uint16
  | 4 => some int32
  | 5 => some uint32
  | 6 => some float32
  | 7 => some string
  | _ => none

def name : DataType → String
  | int8 => "I8"
  | uint8 => "U8"
  | int16 => "I16"
  | uint16 => "U16"
  | int32 => "I32"
  | uint32 => "U32"
  | float32 => "F32"
  | string => "Str"

def all : List DataType := [int8, uint8, int16, uint16, int32, uint32, float32, string]

def ofName? (text : String) : Option DataType := all.find? fun t => t.name == text

end DataType

inductive Value where
  | int8 (v : Int8)
  | uint8 (v : UInt8)
  | int16 (v : Int16)
  | uint16 (v : UInt16)
  | int32 (v : Int32)
  | uint32 (v : UInt32)
  | float32 (v : Decimal.Binary32)
  | string (text : String)
  deriving DecidableEq, Repr, Inhabited

namespace Value

def dataType : Value → DataType
  | int8 _ => .int8
  | uint8 _ => .uint8
  | int16 _ => .int16
  | uint16 _ => .uint16
  | int32 _ => .int32
  | uint32 _ => .uint32
  | float32 _ => .float32
  | string _ => .string

/-- The value as an integer, if it is one. -/
def toInt? : Value → Option Int
  | int8 v => some v.toInt
  | uint8 v => some v.toNat
  | int16 v => some v.toInt
  | uint16 v => some v.toNat
  | int32 v => some v.toInt
  | uint32 v => some v.toNat
  | float32 _ | string _ => none

/-- The value as an unsigned 32-bit word, if it is an integer that fits. -/
def toUInt32? (value : Value) : Option UInt32 := do
  let n ← value.toInt?
  if 0 ≤ n ∧ n < UInt32.size then some (.ofNat n.toNat) else none

/-- An integer as a value of the given type, if it fits. -/
def ofInt? (type : DataType) (n : Int) : Option Value :=
  let fits (low high : Int) (value : Value) := if low ≤ n ∧ n ≤ high then some value else none
  match type with
  | .int8 => fits (-128) 127 (int8 (.ofInt n))
  | .uint8 => fits 0 255 (uint8 (.ofNat n.toNat))
  | .int16 => fits (-32768) 32767 (int16 (.ofInt n))
  | .uint16 => fits 0 65535 (uint16 (.ofNat n.toNat))
  | .int32 => fits (-2147483648) 2147483647 (int32 (.ofInt n))
  | .uint32 => fits 0 4294967295 (uint32 (.ofNat n.toNat))
  | .float32 => some (float32 (.ofInt n))
  | .string => none

def text : Value → String
  | int8 v => toString v.toInt
  | uint8 v => toString v.toNat
  | int16 v => toString v.toInt
  | uint16 v => toString v.toNat
  | int32 v => toString v.toInt
  | uint32 v => toString v.toNat
  | float32 v => v.text
  | string text => Text.quoted text

/-! ## Wire form -/

def utf8 (text : String) : List UInt8 := text.toUTF8.data.toList

/-- Reads the string whose UTF-8 bytes come next; its length has been read. -/
def readText (length : UInt8) : Reader Value := fun bytes =>
  if bytes.length < length.toNat then .error (.truncated .stringValue) bytes
  else
    match String.fromUTF8? ⟨(bytes.take length.toNat).toArray⟩ with
    | some text => .ok (string text) (bytes.drop length.toNat)
    | none => .error .stringNotUtf8 bytes

def read : Reader Value := do
  let tag ← readUInt8
  match DataType.ofTag? tag with
  | none => Reader.malformed .unknownDataType
  | some .int8 => int8 <$> readInt8
  | some .uint8 => uint8 <$> readUInt8
  | some .int16 => int16 <$> readInt16
  | some .uint16 => uint16 <$> readUInt16
  | some .int32 => int32 <$> readInt32
  | some .uint32 => uint32 <$> readUInt32
  | some .float32 => (fun bits => float32 ⟨bits⟩) <$> readUInt32As .float32
  | some .string => do
      let length ← readUInt8
      readText length

/-- The bytes after the tag; of a string at most 255 bytes are written. -/
def payload : Value → List UInt8
  | int8 v => bytesOfInt8 v
  | uint8 v => [v]
  | int16 v => bytesOfInt16 v
  | uint16 v => bytesOfUInt16 v
  | int32 v => bytesOfInt32 v
  | uint32 v => bytesOfUInt32 v
  | float32 v => bytesOfUInt32 v.bits
  | string text =>
      let bytes := (utf8 text).take 255
      UInt8.ofNat bytes.length :: bytes

def write (value : Value) : List UInt8 := value.dataType.tag :: value.payload

/-- The length of the written form.  All bytes of a string count, so a string that would be cut
short makes the payload too large for a frame. -/
def wireLength : Value → Nat
  | int8 _ | uint8 _ => 2
  | int16 _ | uint16 _ => 3
  | int32 _ | uint32 _ | float32 _ => 5
  | string text => 2 + text.utf8ByteSize

end Value

end Register
end ServoLink
