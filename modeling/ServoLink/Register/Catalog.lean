import ServoLink.Register.Address
import ServoLink.Register.Value

/-!
# Register catalog — the registers with a fixed meaning
-/

namespace ServoLink
namespace Register

inductive Access where
  | readOnly | readWrite
  deriving DecidableEq, Repr, Inhabited

def Access.name : Access → String
  | .readOnly => "ReadOnly"
  | .readWrite => "ReadWrite"

structure Descriptor where
  address : Address
  name : String
  dataType : DataType
  access : Access
  deriving DecidableEq, Repr, Inhabited

namespace Address

/-- Packed firmware version. -/
def firmwareVersion : Address := ⟨0x0001, 0⟩
/-- Identity of the device, a string. -/
def deviceId : Address := ⟨0x0002, 0⟩
/-- Cyclic period in µs. -/
def cycleTime : Address := ⟨0x0010, 0⟩
/-- Shortest cyclic period in µs. -/
def cycleTimeMin : Address := ⟨0x0011, 0⟩
/-- Longest cyclic period in µs. -/
def cycleTimeMax : Address := ⟨0x0012, 0⟩

end Address

def catalog : List Descriptor :=
  [⟨.firmwareVersion, "firmware_version", .uint32, .readOnly⟩,
   ⟨.deviceId, "device_id", .string, .readOnly⟩,
   ⟨.cycleTime, "cycle_time_us", .uint32, .readWrite⟩,
   ⟨.cycleTimeMin, "cycle_time_min_us", .uint32, .readOnly⟩,
   ⟨.cycleTimeMax, "cycle_time_max_us", .uint32, .readOnly⟩]

/-- The catalog entry of an address, if it has one. -/
def descriptor? (address : Address) : Option Descriptor :=
  catalog.find? fun entry => entry.address == address

/-- Longest string a register can hold, in bytes. -/
def maxTextLength : Nat := 64

end Register
end ServoLink
