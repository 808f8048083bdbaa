import ServoLink.Register.Address
import ServoLink.Register.Value

/-!
# Register messages — read, write and the drive's reply

A reply carries a status; it carries a value exactly when the status is `ok` and there is one.
-/

namespace ServoLink
namespace Register

open Wire

/-- The drive's verdict on a register access; any byte can occur. -/
structure Status where
  code : UInt8
  deriving DecidableEq, Repr, Inhabited

namespace Status

def ok : Status := ⟨0⟩
def unknownRegister : Status := ⟨1⟩
def readOnly : Status := ⟨2⟩
def typeMismatch : Status := ⟨3⟩
def outOfRange : Status := ⟨4⟩
def busy : Status := ⟨5⟩

def isOk (s : Status) : Bool := s.code == 0

def name (s : Status) : String :=
  match s.code with
  | 0 => "ok"
  | 1 => "unknown register"
  | 2 => "read only"
  | 3 => "type mismatch"
  | 4 => "out of range"
  | 5 => "busy"
  | _ => "unknown status"

def text (s : Status) : String := s.name ++ " (" ++ toString s.code.toNat ++ ")"

end Status

structure WriteRequest where
  address : Address
  value : Value
  deriving DecidableEq, Repr, Inhabited

namespace WriteRequest

def wireLength (w : WriteRequest) : Nat := Address.wireLength + w.value.wireLength

def write (w : WriteRequest) : List UInt8 := w.address.write ++ w.value.write

def read : Reader WriteRequest := do
  let address ← Address.read
  let value ← Value.read
  pure ⟨address, value⟩

end WriteRequest

structure Reply where
  address : Address
  status : Status
  value : Option Value
  deriving DecidableEq, Repr, Inhabited

namespace Reply

/-- The value the reply carries on the wire. -/
def carried (r : Reply) : Option Value := if r.status.isOk then r.value else none

def wireLength (r : Reply) : Nat :=
  Address.wireLength + 1 + (match r.carried with
    | some value => value.wireLength
    | none => 0)

def write (r : Reply) : List UInt8 :=
  r.address.write ++ r.status.code :: (match r.carried with
    | some value => value.write
    | none => [])

def read : Reader Reply := do
  let address ← Address.read
  let code ← readUInt8
  let value ← Reader.section? (Status.isOk ⟨code⟩) Value.read
  pure ⟨address, ⟨code⟩, value⟩

/-- An accepted access with the value read or stored. -/
def accepted (address : Address) (value : Value) : Reply := ⟨address, .ok, some value⟩

def refused (address : Address) (status : Status) : Reply := ⟨address, status, none⟩

end Reply

end Register
end ServoLink
