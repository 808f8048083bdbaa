import ServoLink.Decimal.Fixed

/-!
# Units — positions, velocities, accelerations and currents in drive resolution

The drive counts in whole steps: 0.1 µm, 1 µm/s, 10 µm/s², 1 mA.  Sums and differences saturate:
they stop at the ends of the word.
-/

namespace ServoLink

namespace Saturating

def add32 (a b : Int32) : Int32 := .ofIntClamp (a.toInt + b.toInt)
def sub32 (a b : Int32) : Int32 := .ofIntClamp (a.toInt - b.toInt)
def mul32 (a b : Int32) : Int32 := .ofIntClamp (a.toInt * b.toInt)
def abs32 (a : Int32) : Int32 := .ofIntClamp a.toInt.natAbs
def add16 (a b : Int16) : Int16 := .ofIntClamp (a.toInt + b.toInt)
def sub16 (a b : Int16) : Int16 := .ofIntClamp (a.toInt - b.toInt)

end Saturating

/-- Position in steps of 0.1 µm. -/
structure Position where
  steps : Int32
  deriving DecidableEq, Repr, Inhabited

/-- Velocity in steps of 1 µm/s. -/
structure Velocity where
  steps : Int32
  deriving DecidableEq, Repr, Inhabited

/-- Acceleration in steps of 10 µm/s². -/
structure Acceleration where
  steps : Int32
  deriving DecidableEq, Repr, Inhabited

/-- Motor current in steps of 1 mA. -/
structure Current where
  steps : Int16
  deriving DecidableEq, Repr, Inhabited

/-- The whole part of a float, stopped at the ends of the word; not a number gives zero. -/
def truncate32 (x : Float) : Int32 := x.toInt32

namespace Position

def ofMillimeters (mm : Float) : Position := ⟨truncate32 (mm * 10000.0)⟩

def millimeters (p : Position) : Float := Float.ofInt p.steps.toInt / 10000.0

def add (a b : Position) : Position := ⟨Saturating.add32 a.steps b.steps⟩
def sub (a b : Position) : Position := ⟨Saturating.sub32 a.steps b.steps⟩
def neg (a : Position) : Position := ⟨-a.steps⟩

/-- How far apart two positions are. -/
def distance (a b : Position) : Position := ⟨Saturating.abs32 (Saturating.sub32 a.steps b.steps)⟩

end Position

namespace Velocity

def ofMetersPerSecond (v : Float) : Velocity := ⟨truncate32 (v * 1000000.0)⟩

def add (a b : Velocity) : Velocity := ⟨Saturating.add32 a.steps b.steps⟩
def sub (a b : Velocity) : Velocity := ⟨Saturating.sub32 a.steps b.steps⟩
def neg (a : Velocity) : Velocity := ⟨-a.steps⟩

end Velocity

namespace Acceleration

def ofMetersPerSecondSquared (a : Float) : Acceleration := ⟨truncate32 (a * 100000.0)⟩

def add (a b : Acceleration) : Acceleration := ⟨Saturating.add32 a.steps b.steps⟩
def sub (a b : Acceleration) : Acceleration := ⟨Saturating.sub32 a.steps b.steps⟩
def neg (a : Acceleration) : Acceleration := ⟨-a.steps⟩

end Acceleration

namespace Current

def add (a b : Current) : Current := ⟨Saturating.add16 a.steps b.steps⟩
def sub (a b : Current) : Current := ⟨Saturating.sub16 a.steps b.steps⟩
def neg (a : Current) : Current := ⟨-a.steps⟩

end Current

/-! ## Whole multiples of larger units -/

/-- Steps per unit of the whole-number constructors. -/
def stepsPerMillimeter : Int := 10000
def stepsPerMillimeterPerSecond : Int := 1000
def stepsPerMeterPerSecond : Int := 1000000
def stepsPerMeterPerSecondSquared : Int := 100000
def stepsPerMillimeterPerSecondSquared : Int := 100

/-- `n` units of `scale` steps, if the product fits the word by magnitude. -/
def wholeUnits? (scale n : Int) : Option Int32 :=
  if (n * scale).natAbs ≤ Int32.maxValue.toInt.toNat then some (.ofInt (n * scale)) else none

/-! ## Text -/

/-- A unit of display: its name and its size in base units. -/
structure DisplayUnit where
  name : String
  size : Float

/-- A value in the first unit of which it is at least one, else in the last unit, with at most three
decimals. -/
def scaledText (value : Float) (last : DisplayUnit) (larger : List DisplayUnit) : String :=
  let unit := (larger.find? fun u => value.abs / u.size ≥ 1.0).getD last
  let cs := (Decimal.fixedText 3 (value / unit.size)).toList
  let kept := (Decimal.dropTrailingZeros cs).reverse.dropWhile (· == '.')
  String.ofList kept.reverse ++ unit.name

def Position.text (p : Position) : String :=
  scaledText (Float.ofInt p.steps.toInt * 1e-7) ⟨"μm", 1e-6⟩ [⟨"m", 1.0⟩, ⟨"mm", 1e-3⟩]

def Velocity.text (v : Velocity) : String :=
  scaledText (Float.ofInt v.steps.toInt * 1e-6) ⟨"μm/s", 1e-6⟩ [⟨"m/s", 1.0⟩, ⟨"mm/s", 1e-3⟩]

def Acceleration.text (a : Acceleration) : String :=
  scaledText (Float.ofInt a.steps.toInt * 1e-5) ⟨"μm/s²", 1e-6⟩
    [⟨"m/s²", 1.0⟩, ⟨"mm/s²", 1e-3⟩]

def Current.text (c : Current) : String :=
  scaledText (Float.ofInt c.steps.toInt) ⟨"mA", 1.0⟩ [⟨"A", 1000.0⟩]

end ServoLink
