/-!
# Checksum — the 16-bit cyclic redundancy code of a frame

The code is the reflected one with polynomial `0x8005` (`0xA001` bit-reversed), initial register
`0xFFFF` and no final exclusive or.  Bytes enter least significant bit first.

* `shift` — one bit position of the division;
* `absorb` — one byte; `checksum` — a whole datagram.

`shift` is linear in exclusive or, so the codes of two datagrams of one length differ by the code
of their difference, started from an empty register.
-/

namespace ServoLink
namespace Wire
namespace Checksum

/-- The generator polynomial, lowest power in the highest bit. -/
def polynomial : BitVec 16 := 0xA001#16

/-- The register before the first byte. -/
def start : BitVec 16 := 0xFFFF#16

def shift (r : BitVec 16) : BitVec 16 :=
  if r.getLsbD 0 then (r >>> 1) ^^^ polynomial else r >>> 1

def shifts : Nat → BitVec 16 → BitVec 16
  | 0, r => r
  | n + 1, r => shifts n (shift r)

/-- Brings one byte into the register. -/
def absorb (r : BitVec 16) (byte : UInt8) : BitVec 16 :=
  shifts 8 (r ^^^ byte.toBitVec.setWidth 16)

def run (r : BitVec 16) (bytes : List UInt8) : BitVec 16 := bytes.foldl absorb r

end Checksum

/-- The code of `bytes`. -/
def checksum (bytes : List UInt8) : UInt16 := .ofBitVec (Checksum.run Checksum.start bytes)

end Wire
end ServoLink
