import ServoLink.Decimal.Binary
import ServoLink.Text.Whole

/-!
# Reading decimals — the nearest double-precision number of a text

A number is digits with at most one point among or around them, and an optional exponent; a sign may
stand before it.  The infinities and what is not a number have names, in letters of either case.
-/

namespace ServoLink
namespace Decimal

/-- The bits of the double-precision number nearest to `digits * 10 ^ exponent`.  Magnitudes far
beyond the largest number, or far below the smallest one, are not computed. -/
def nearestBits (digits : Nat) (exponent : Int) : Nat :=
  let magnitude := (Nat.toDigits 10 digits).length + exponent
  if digits = 0 || magnitude < -400 then 0
  else if 400 < magnitude then binary64.infinity
  else binary64.nearest (digits * Nat.pow 10 exponent.toNat) (Nat.pow 10 (-exponent).toNat)

/-- The float with the given sign and magnitude. -/
def ofMagnitude (negative : Bool) (bits : Nat) : Float :=
  .ofBits (.ofNat (if negative then bits + binary64.signBit else bits))

/-- The bits of a quiet value that is not a number. -/
def quietBits : Nat := binary64.infinity + Nat.pow 2 51

/-- A sign, if there is one: whether it is a minus, and what follows. -/
def signed : List Char → Bool × List Char
  | '-' :: rest => (true, rest)
  | '+' :: rest => (false, rest)
  | cs => (false, cs)

def negateIf (negative : Bool) (n : Nat) : Int := if negative then -(n : Int) else n

def isExponentMark (c : Char) : Bool := c == 'e' || c == 'E'

/-- The exponent of a number, after its mark. -/
def exponent? (cs : List Char) : Option Int :=
  let (negative, digits) := signed cs
  (Text.digits? 10 digits).map (negateIf negative)

/-- The bits of a number without a sign. -/
def magnitude? (cs : List Char) : Option Nat := do
  let mantissa := cs.takeWhile (!isExponentMark ·)
  let exponent ← match cs.dropWhile (!isExponentMark ·) with
    | [] => some 0
    | _ :: exponent => exponent? exponent
  let whole := mantissa.takeWhile (· != '.')
  let fraction := (mantissa.dropWhile (· != '.')).tail
  let digits ← Text.digits? 10 (whole ++ fraction)
  pure (nearestBits digits (exponent - fraction.length))

def lowerCase (cs : List Char) : List Char := cs.map Char.toLower

/-- The number that a text denotes, as a whole. -/
def float? (cs : List Char) : Option Float :=
  let (negative, magnitude) := signed cs
  let name := String.ofList (lowerCase magnitude)
  if name == "inf" || name == "infinity" then some (ofMagnitude negative binary64.infinity)
  else if name == "nan" then some (ofMagnitude negative quietBits)
  else (magnitude? magnitude).map (ofMagnitude negative)

end Decimal
end ServoLink
