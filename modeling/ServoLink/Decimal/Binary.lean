/-!
# Binary floating point — exact values and nearest values

A binary format is given by its precision and the exponent of its last place near zero.  A finite
number of the format is `m * 2 ^ e`; `BinaryFormat.classify` reads it off the bits, and
`BinaryFormat.nearest` is the way back: the bits of the number nearest to a quotient of naturals,
ties to the even mantissa, the infinity from half a step above the largest number on.
-/

namespace ServoLink
namespace Decimal

structure BinaryFormat where
  /-- Bits of the mantissa, leading one included. -/
  precision : Nat
  /-- The last place of the smallest numbers is `2 ^ (-lowest)`. -/
  lowest : Nat
  /-- Width of the exponent field. -/
  exponentBits : Nat
  deriving DecidableEq, Repr

def binary32 : BinaryFormat := ⟨24, 149, 8⟩
def binary64 : BinaryFormat := ⟨53, 1074, 11⟩

/-- A single-precision number by its bits; two numbers are equal when their bits are. -/
structure Binary32 where
  bits : UInt32
  deriving DecidableEq, Repr, Inhabited

/-- What the bits of a format stand for: `mantissa * 2 ^ exponent` when finite. -/
inductive Magnitude where
  | finite (mantissa : Nat) (exponent : Int)
  | infinite
  | notANumber
  deriving DecidableEq, Repr

namespace BinaryFormat

variable (f : BinaryFormat)

def fractionBits : Nat := f.precision - 1

/-- The bits of the positive infinity. -/
def infinity : Nat := (Nat.pow 2 f.exponentBits - 1) * Nat.pow 2 f.fractionBits

/-- The weight of the sign bit. -/
def signBit : Nat := Nat.pow 2 (f.exponentBits + f.fractionBits)

def isNegative (bits : Nat) : Bool := bits / f.signBit % 2 == 1

/-- The magnitude of the number with the given bits. -/
def classify (bits : Nat) : Magnitude :=
  let unsigned := bits % f.signBit
  let field := unsigned / Nat.pow 2 f.fractionBits
  let fraction := unsigned % Nat.pow 2 f.fractionBits
  if unsigned = f.infinity then .infinite
  else if f.infinity < unsigned then .notANumber
  else if field = 0 then .finite fraction (-(f.lowest : Int))
  else .finite (fraction + Nat.pow 2 f.fractionBits) (field - 1 - f.lowest : Int)

/-- `num / (den * 2 ^ e)` rounded to the nearest whole number, ties to the even one. -/
def roundScaled (num den : Nat) (e : Int) : Nat :=
  let n := num * Nat.pow 2 (-e).toNat
  let d := den * Nat.pow 2 e.toNat
  let q := n / d
  let r := n % d
  if d < 2 * r || (2 * r == d && q % 2 == 1) then q + 1 else q

/-- The exponent of the last place of a number as large as `num / den`. -/
def lastPlace (num den : Nat) : Int :=
  let guess : Int := (Nat.log2 num : Int) - Nat.log2 den - f.fractionBits
  let scaled := num * Nat.pow 2 (-guess).toNat / (den * Nat.pow 2 guess.toNat)
  let fitted := if scaled < Nat.pow 2 f.fractionBits then guess - 1 else guess
  max fitted (-(f.lowest : Int))

/-- The bits of the number nearest to `num / den`.  The exponent field and the mantissa add up, so
a mantissa that rounds up to the next power of two carries into the field by itself. -/
def nearest (num den : Nat) : Nat :=
  if num = 0 then 0
  else
    let e := f.lastPlace num den
    let bits := (e + f.lowest).toNat * Nat.pow 2 f.fractionBits + roundScaled num den e
    min bits f.infinity

end BinaryFormat

/-- The single-precision number nearest to a whole number. -/
def Binary32.ofInt (n : Int) : Binary32 :=
  let magnitude := binary32.nearest n.natAbs 1
  ⟨.ofNat (if n < 0 then magnitude + binary32.signBit else magnitude)⟩

end Decimal
end ServoLink
