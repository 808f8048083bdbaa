import ServoLink.Drive.Model
import ServoLink.Register.Catalog
import ServoLink.Register.Message

/-!
# Register map — the registers of a simulated drive

Five registers exist from the start.  A write creates any other register.  Read-only registers
refuse writes, an existing register keeps its type, and the cycle time has to lie in the drive's
window.
-/

namespace ServoLink
namespace Drive

open Register

structure Cell where
  value : Value
  access : Access
  deriving DecidableEq, Repr, Inhabited

structure RegisterMap where
  /-- Each address at most once. -/
  cells : List (Address × Cell)
  cycleMin : UInt32
  cycleMax : UInt32
  deriving DecidableEq, Repr, Inhabited

namespace RegisterMap

def new (o : Options) : RegisterMap :=
  { cells :=
      [(.firmwareVersion, ⟨.uint32 o.firmware.packed, .readOnly⟩),
       (.deviceId, ⟨.string o.deviceId, .readOnly⟩),
       (.cycleTime, ⟨.uint32 o.cycleTimeUs, .readWrite⟩),
       (.cycleTimeMin, ⟨.uint32 o.cycleTimeMinUs, .readOnly⟩),
       (.cycleTimeMax, ⟨.uint32 o.cycleTimeMaxUs, .readOnly⟩)]
    cycleMin := o.cycleTimeMinUs
    cycleMax := o.cycleTimeMaxUs }

def get? (r : RegisterMap) (address : Address) : Option Cell := r.cells.lookup address

def value? (r : RegisterMap) (address : Address) : Option Value :=
  (r.get? address).map (·.value)

def read (r : RegisterMap) (address : Address) : Reply :=
  match r.get? address with
  | some cell => .accepted address cell.value
  | none => .refused address .unknownRegister

/-- Puts a cell at an address, in place of the one there. -/
def put (address : Address) (cell : Cell) : List (Address × Cell) → List (Address × Cell)
  | [] => [(address, cell)]
  | (a, c) :: rest => if a = address then (a, cell) :: rest else (a, c) :: put address cell rest

/-- The value is a cycle time within the window. -/
def inWindow (r : RegisterMap) (value : Value) : Bool :=
  value.toUInt32?.any fun us => r.cycleMin ≤ us && us ≤ r.cycleMax

/-- Why a write is refused, if it is. -/
def objection? (r : RegisterMap) (address : Address) (value : Value) : Option Status :=
  let existing := r.get? address
  if existing.any fun cell => cell.access == .readOnly then some .readOnly
  else if existing.any fun cell => cell.value.dataType != value.dataType then some .typeMismatch
  else if address == .cycleTime && !r.inWindow value then some .outOfRange
  else none

def write (r : RegisterMap) (address : Address) (value : Value) : Reply × RegisterMap :=
  match r.objection? address value with
  | some status => (.refused address status, r)
  | none =>
      (.accepted address value, { r with cells := put address ⟨value, .readWrite⟩ r.cells })

end RegisterMap

end Drive
end ServoLink
