/-!
# Whole numbers in text

A whole number is an optional sign and at least one digit of the base; leading zeros are allowed.
The value is unbounded here: callers check the range of the word they want.
-/

namespace ServoLink
namespace Text

/-- The value of a digit, upper or lower case, when the base has it. -/
def digit? (base : Nat) (c : Char) : Option Nat :=
  let n := c.toNat
  let value :=
    if 48 ≤ n && n ≤ 57 then n - 48
    else if 97 ≤ n && n ≤ 122 then n - 87
    else if 65 ≤ n && n ≤ 90 then n - 55
    else base
  if value < base then some value else none

/-- The value of the digits after those that gave `high`. -/
def digitsFrom? (base high : Nat) : List Char → Option Nat
  | [] => some high
  | c :: rest => do
      let d ← digit? base c
      digitsFrom? base (high * base + d) rest

/-- The value of a list of digits that is not empty. -/
def digits? (base : Nat) (cs : List Char) : Option Nat :=
  if cs.isEmpty then none else digitsFrom? base 0 cs

/-- Digits after an optional plus sign. -/
def natural? (base : Nat) : List Char → Option Nat
  | '+' :: rest => digits? base rest
  | cs => digits? base cs

/-- Digits after an optional sign. -/
def integer? (base : Nat) : List Char → Option Int
  | '-' :: rest => (digits? base rest).map fun n => -(n : Int)
  | cs => (natural? base cs).map Int.ofNat

/-- An integer between the bounds. -/
def integerIn? (base : Nat) (low high : Int) (cs : List Char) : Option Int :=
  (integer? base cs).filter fun n => low ≤ n && n ≤ high

end Text
end ServoLink
