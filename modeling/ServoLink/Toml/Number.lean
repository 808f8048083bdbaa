import ServoLink.Decimal.Reading
import ServoLink.Text.Blank
import ServoLink.Toml.Value

/-!
# TOML numbers — and the other values that are single words

A word is a truth value, an integer, a float, or a date or time.  Underscores may stand between
digits.  Decimal numbers have no leading zeros.  Floats are rounded to the nearest
double-precision number; one that is too large for any is not a value, and neither is an integer
beyond 128 bits.
-/

namespace ServoLink
namespace Toml

open Decimal (signed negateIf isExponentMark nearestBits ofMagnitude quietBits)

/-! ## Digits -/

/-- Digits of a base with single underscores between them: the digits alone. -/
def grouped? (base : Nat) (cs : List Char) : Option (List Char) :=
  let groups := Text.splitAtEach '_' cs
  if groups.all fun g => !g.isEmpty && g.all fun c => (Text.digit? base c).isSome then
    some groups.flatten
  else none

/-- Grouped decimal digits without a leading zero. -/
def decimal? (cs : List Char) : Option (List Char) :=
  match grouped? 10 cs with
  | some ('0' :: _ :: _) => none
  | digits => digits

/-! ## Integers -/

/-- The range of integers that can be written at all. -/
def inRange (n : Int) : Bool := -Int.pow 2 127 ≤ n && n < Int.pow 2 128

def unboundedInteger? (cs : List Char) : Option Int :=
  let ofBase (base : Nat) (digits : List Char) :=
    (grouped? base digits).bind fun ds => (Text.digits? base ds).map Int.ofNat
  match cs with
  | '0' :: 'x' :: digits => ofBase 16 digits
  | '0' :: 'o' :: digits => ofBase 8 digits
  | '0' :: 'b' :: digits => ofBase 2 digits
  | _ =>
      let (negative, digits) := signed cs
      (decimal? digits).bind fun ds => (Text.digits? 10 ds).map (negateIf negative)

def integer? (cs : List Char) : Option Int := (unboundedInteger? cs).filter inRange

/-! ## Floats -/

/-- The exponent of a float: a sign and digits. -/
def exponent? (cs : List Char) : Option Int :=
  let (negative, digits) := signed cs
  (grouped? 10 digits).bind fun ds => (Text.digits? 10 ds).map (negateIf negative)

/-- A number with a fraction, an exponent, or both. -/
def decimalFloat? (negative : Bool) (cs : List Char) : Option Float := do
  let mantissa := cs.takeWhile (!isExponentMark ·)
  let exponent ← match cs.dropWhile (!isExponentMark ·) with
    | [] => if mantissa.contains '.' then some 0 else none
    | _ :: exponent => exponent? exponent
  let (whole, fraction) ← match Text.splitAtEach '.' mantissa with
    | [whole] => some (← decimal? whole, [])
    | [whole, fraction] => some (← decimal? whole, ← grouped? 10 fraction)
    | _ => none
  let digits ← Text.digits? 10 (whole ++ fraction)
  let bits := nearestBits digits (exponent - fraction.length)
  if bits < Decimal.binary64.infinity then some (ofMagnitude negative bits) else none

def float? (cs : List Char) : Option Float :=
  let (negative, magnitude) := signed cs
  match magnitude with
  | ['i', 'n', 'f'] => some (ofMagnitude negative Decimal.binary64.infinity)
  | ['n', 'a', 'n'] => some (ofMagnitude negative quietBits)
  | cs => decimalFloat? negative cs

/-! ## Dates and times -/

/-- Exactly so many digits off the front. -/
def digitsOff? (count : Nat) (cs : List Char) : Option (Nat × List Char) :=
  let (digits, rest) := (cs.take count, cs.drop count)
  if digits.length = count then (Text.digits? 10 digits).map (·, rest) else none

/-- The given character off the front. -/
def markOff? (mark : Char) : List Char → Option (List Char)
  | c :: rest => if c = mark then some rest else none
  | [] => none

def daysIn (year month : Nat) : Nat :=
  if month = 2 then
    if year % 4 = 0 && (year % 100 != 0 || year % 400 = 0) then 29 else 28
  else if month = 4 || month = 6 || month = 9 || month = 11 then 30
  else 31

/-- What follows a date. -/
def date? (cs : List Char) : Option (List Char) := do
  let (year, cs) ← digitsOff? 4 cs
  let (month, cs) ← digitsOff? 2 (← markOff? '-' cs)
  let (day, cs) ← digitsOff? 2 (← markOff? '-' cs)
  if 1 ≤ month && month ≤ 12 && 1 ≤ day && day ≤ daysIn year month then some cs else none

/-- Hours and minutes, with the largest hour allowed: what follows them. -/
def clock? (maxHour : Nat) (cs : List Char) : Option (List Char) := do
  let (hour, cs) ← digitsOff? 2 cs
  let (minute, cs) ← digitsOff? 2 (← markOff? ':' cs)
  if hour ≤ maxHour && minute ≤ 59 then some cs else none

/-- What follows a fraction of a second, if there is one. -/
def fraction? (cs : List Char) : Option (List Char) :=
  match cs with
  | '.' :: rest =>
      let after := rest.dropWhile fun c => (Text.digit? 10 c).isSome
      if after.length < rest.length then some after else none
  | cs => some cs

/-- What follows a time of day.  The seconds may be left out, and with them their fraction. -/
def time? (cs : List Char) : Option (List Char) := do
  let cs ← clock? 23 cs
  match markOff? ':' cs with
  | none => some cs
  | some cs =>
      let (second, cs) ← digitsOff? 2 cs
      if second ≤ 60 then fraction? cs else none

/-- An offset from universal time, up to the end. -/
def isOffset : List Char → Bool
  | [] | ['Z'] | ['z'] => true
  | '+' :: cs | '-' :: cs => clock? 23 cs == some []
  | _ => false

def isDatetime (cs : List Char) : Bool :=
  match date? cs with
  | some [] => true
  | some (mark :: rest) =>
      (mark == 'T' || mark == 't' || mark == ' ') && (time? rest).any isOffset
  | none => time? cs == some []

/-! ## Words -/

/-- The value that a word denotes. -/
def word? (cs : List Char) : Option Value :=
  if cs = "true".toList then some (.boolean true)
  else if cs = "false".toList then some (.boolean false)
  else if isDatetime cs then some .datetime
  else
    match integer? cs, float? cs with
    | some n, _ => some (.integer n)
    | none, some x => some (.float x)
    | none, none => none

end Toml
end ServoLink
