import ServoLink.Wire.Field

/-!
# Register address — a 16-bit index and an 8-bit subindex
-/

namespace ServoLink
namespace Register

open Wire

structure Address where
  index : UInt16
  subindex : UInt8
  deriving DecidableEq, Repr, Inhabited

namespace Address

def wireLength : Nat := 3

def write (a : Address) : List UInt8 := bytesOfUInt16 a.index ++ [a.subindex]

def read : Reader Address := do
  Reader.require .registerAddress wireLength
  let index ← readUInt16
  let subindex ← readUInt8
  pure ⟨index, subindex⟩

end Address

/-- A number in hexadecimal, at least four digits. -/
def hex4 (n : Nat) : String :=
  let digits := Nat.toDigits 16 n
  "0x" ++ String.ofList (List.replicate (4 - digits.length) '0' ++ digits)

/-- Index in hexadecimal, then the subindex. -/
def Address.text (a : Address) : String :=
  hex4 a.index.toNat ++ "/" ++ toString a.subindex.toNat

end Register
end ServoLink
