import ServoLink.Decimal.Binary

/-!
# Shortest decimals — the fewest digits that read back

A finite number is the nearest of its format to every decimal inside a certain interval around it.
`shortest` looks at the decimal grids with one digit, two digits, and so on, and takes the first
grid with a point in that interval; only the two neighbours of the number can be that point.  Of
two such neighbours the nearer one is taken, the upper one in a tie.

The text is positional, never with an exponent, and a whole number has no point.
-/

namespace ServoLink
namespace Decimal

/-- The decimal `coefficient * 10 ^ exponent`. -/
structure Decimals where
  coefficient : Nat
  exponent : Int
  deriving DecidableEq, Repr

def digits (n : Nat) : List Char := Nat.toDigits 10 n

/-- How many digits stand left of the point; zero or less for a number below one. -/
def wholeDigits (num den : Nat) : Int :=
  if den ≤ num then (digits (num / den)).length
  else
    -- Below one: only a power of ten has its first digit one place further left.
    let j := (digits (den / num)).length
    if num * Nat.pow 10 (j - 1) = den then 2 - (j : Int) else 1 - (j : Int)

/-- Bounds of the interval that rounds to a number, over a common denominator: the number is
`value / unit`, and the ends belong to the interval when `closed`. -/
structure Interval where
  low : Nat
  value : Nat
  high : Nat
  unit : Nat
  closed : Bool

/-- The interval of the number `m * 2 ^ e` of format `f`. -/
def Interval.around (f : BinaryFormat) (m : Nat) (e : Int) : Interval :=
  let up := Nat.pow 2 (e - 2).toNat
  -- The gap below a power of two is half as wide, except at the lowest exponent.
  let below := if m = Nat.pow 2 f.fractionBits && -(f.lowest : Int) < e then 1 else 2
  { low := (4 * m - below) * up
    value := 4 * m * up
    high := (4 * m + 2) * up
    unit := Nat.pow 2 (2 - e).toNat
    closed := m % 2 == 0 }

/-- The decimal `c * 10 ^ k` lies in the interval. -/
def Interval.holds (i : Interval) (c : Nat) (k : Int) : Bool :=
  let x := c * Nat.pow 10 k.toNat * i.unit
  let scale := Nat.pow 10 (-k).toNat
  if i.closed then decide (i.low * scale ≤ x ∧ x ≤ i.high * scale)
  else decide (i.low * scale < x ∧ x < i.high * scale)

/-- The point of the grid `10 ^ k` that stands for the number, if one of its neighbours does. -/
def Interval.onGrid? (i : Interval) (k : Int) : Option Nat :=
  let num := i.value * Nat.pow 10 (-k).toNat
  let den := i.unit * Nat.pow 10 k.toNat
  let below := num / den
  let half := den ≤ 2 * (num % den)
  match i.holds below k, i.holds (below + 1) k with
  | true, true => some (if half then below + 1 else below)
  | true, false => some below
  | false, true => some (below + 1)
  | false, false => none

/-- The first grid that holds a point, from `n` digits on, `tries` grids at most. -/
def Interval.search (i : Interval) (whole : Int) : (n tries : Nat) → Option Decimals
  | _, 0 => none
  | n, tries + 1 =>
      match i.onGrid? (whole - n) with
      | some c => some ⟨c, whole - n⟩
      | none => i.search whole (n + 1) tries

/-- The shortest decimal of the positive number `m * 2 ^ e`; seventeen digits always suffice. -/
def shortest (f : BinaryFormat) (m : Nat) (e : Int) : Decimals :=
  let i := Interval.around f m e
  (i.search (wholeDigits i.value i.unit) 1 17).getD ⟨0, 0⟩

/-! ## Text -/

def dropTrailingZeros (cs : List Char) : List Char :=
  (cs.reverse.dropWhile (· == '0')).reverse

/-- A decimal in positional notation, without trailing zeros after the point. -/
def Decimals.positional (d : Decimals) : String :=
  let places := (-d.exponent).toNat
  let scaled := d.coefficient * Nat.pow 10 d.exponent.toNat
  let whole := scaled / Nat.pow 10 places
  let fraction := digits (scaled % Nat.pow 10 places)
  let padded := List.replicate (places - fraction.length) '0' ++ fraction
  let kept := if places = 0 then [] else dropTrailingZeros padded
  String.ofList (digits whole ++ (if kept.isEmpty then [] else '.' :: kept))

/-- The shortest text that reads back to the number with the given bits. -/
def BinaryFormat.text (f : BinaryFormat) (bits : Nat) : String :=
  let sign := if f.isNegative bits then "-" else ""
  match f.classify bits with
  | .notANumber => "NaN"
  | .infinite => sign ++ "inf"
  | .finite 0 _ => sign ++ "0"
  | .finite m e => sign ++ (shortest f m e).positional

def Binary32.text (x : Binary32) : String := binary32.text x.bits.toNat

/-- The shortest text of a double-precision number. -/
def floatText (x : Float) : String := binary64.text x.toBits.toNat

end Decimal
end ServoLink
