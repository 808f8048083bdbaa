import ServoLink.Register.Channel

/-!
# Handshake — what a drive has to answer before the cycle starts

First the firmware version, which must not be below a minimum; then the identity of the device; then
the period: the requested one is moved into the drive's window, written, and read back.  The period
read back is the one the drive runs.
-/

namespace ServoLink
namespace Handshake

open Net Register

structure Outcome where
  firmware : Firmware
  deviceId : String
  /-- The period in µs. -/
  cycleTimeUs : UInt32
  deriving DecidableEq, Repr, Inhabited

variable {σ : Type}

def refuse {α : Type} (problem : HandshakeProblem) : Talk σ α := throw (.handshake problem)

/-- Reads a register that has to hold an unsigned 32-bit number. -/
def readWord (react : FarEnd σ) (address : Address) : Talk σ UInt32 := do
  let value ← readRegister react address .never
  match value.toUInt32? with
  | some word => pure word
  | none => refuse (.notWord address value)

def readIdentity (react : FarEnd σ) : Talk σ String := do
  match ← readRegister react .deviceId .never with
  | .string text => pure text
  | other => refuse (.deviceIdType other.dataType)

/-- The requested period moved between the bounds. -/
def clampPeriod (min max requested : UInt32) : UInt32 :=
  if requested < min then min else if max < requested then max else requested

def perform (react : FarEnd σ) (requestedUs : UInt32) (oldest : Firmware) : Talk σ Outcome := do
  let firmware := Firmware.ofPacked (← readWord react .firmwareVersion)
  if firmware.isBelow oldest then throw (.incompatibleFirmware firmware oldest)
  let deviceId ← readIdentity react
  let min ← readWord react .cycleTimeMin
  let max ← readWord react .cycleTimeMax
  if min == 0 || max < min then refuse (.cycleWindow min max)
  -- The only write, and only after everything before it was in order.
  writeRegister react .cycleTime (.uint32 (clampPeriod min max requestedUs)) .never
  -- The drive may round the period, so what it holds counts.
  let cycleTimeUs ← readWord react .cycleTime
  if cycleTimeUs == 0 then refuse .zeroCycleTime
  pure ⟨firmware, deviceId, cycleTimeUs⟩

end Handshake
end ServoLink
