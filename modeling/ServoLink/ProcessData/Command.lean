import ServoLink.Units
import ServoLink.Wire.Field

/-!
# Motion command — the 32-byte command block of a control frame

The block starts with a header word: the command number in the upper twelve bits and a 4-bit count
in the lower four.  The drive executes a command once per change of the count.  Parameters follow,
padded with zero bytes.

Commands without a form of their own keep their thirty parameter bytes verbatim (`Command.raw`).
-/

namespace ServoLink
namespace ProcessData

open Wire

inductive Command where
  | noOperation
  /-- Go to an absolute position under velocity and acceleration limits. -/
  | goTo (target : Position) (velocity : Velocity) (acceleration deceleration : Acceleration)
  /-- Decelerate to standstill. -/
  | stop (deceleration : Acceleration)
  | raw (number : UInt16) (parameters : Vector UInt8 30)
  deriving DecidableEq, Repr

instance : Inhabited Command := ⟨.noOperation⟩

namespace Command

def goToNumber : UInt16 := 0x010
def stopNumber : UInt16 := 0x017

/-- The command number in the header. -/
def number : Command → UInt16
  | noOperation => 0x000
  | goTo .. => goToNumber
  | stop _ => stopNumber
  | raw n _ => n

/-- Bytes of the whole block, and of its parameters. -/
def blockLength : Nat := 32
def parametersLength : Nat := 30

/-- The parameter bytes, without padding. -/
def parameters : Command → List UInt8
  | noOperation => []
  | goTo target velocity acceleration deceleration =>
      bytesOfInt32 target.steps ++ bytesOfInt32 velocity.steps
        ++ bytesOfInt32 acceleration.steps ++ bytesOfInt32 deceleration.steps
  | stop deceleration => bytesOfInt32 deceleration.steps
  | raw _ block => block.toList

/-- Reads the parameters of the command with that number; a number without a form of its own keeps
the block. -/
def readParameters (number : UInt16) (block : Vector UInt8 30) : Reader Command :=
  if number = 0x000 then pure noOperation
  else if number = goToNumber then do
    let target ← readInt32
    let velocity ← readInt32
    let acceleration ← readInt32
    let deceleration ← readInt32
    pure (goTo ⟨target⟩ ⟨velocity⟩ ⟨acceleration⟩ ⟨deceleration⟩)
  else if number = stopNumber then do
    let deceleration ← readInt32
    pure (stop ⟨deceleration⟩)
  else pure (raw number block)

/-- The command a number and its parameter block denote; padding is passed over. -/
def ofBlock (number : UInt16) (block : Vector UInt8 30) : Reader Command := fun rest =>
  match readParameters number block block.toList with
  | .ok command _ => .ok command rest
  | .error cause _ => .error cause rest

end Command

/-- A command with the count that marks it as new. -/
structure MotionCommand where
  count : UInt8
  command : Command
  deriving DecidableEq, Repr, Inhabited

namespace MotionCommand

/-- Command number and count in one word; only the low four bits of the count are carried. -/
def header (m : MotionCommand) : UInt16 :=
  (m.command.number <<< 4) ||| (m.count &&& 0x0F).toUInt16

def wireLength : Nat := Command.blockLength

def write (m : MotionCommand) : List UInt8 :=
  bytesOfUInt16 m.header ++ m.command.parameters
    ++ List.replicate (Command.parametersLength - m.command.parameters.length) 0

def read : Reader MotionCommand := do
  Reader.require .motionCommand Command.blockLength
  let header ← readUInt16
  let block ← readBytes .byteBlock Command.parametersLength
  let command ← Command.ofBlock (header >>> 4) block
  pure ⟨(header &&& 0x0F).toUInt8, command⟩

end MotionCommand

/-- A command of the parameter channel with its three arguments. -/
structure RealtimeConfiguration where
  command : UInt16
  first : UInt16
  second : UInt16
  third : UInt16
  deriving DecidableEq, Repr, Inhabited

namespace RealtimeConfiguration

def wireLength : Nat := 8

def write (r : RealtimeConfiguration) : List UInt8 :=
  bytesOfUInt16 r.command ++ bytesOfUInt16 r.first ++ bytesOfUInt16 r.second
    ++ bytesOfUInt16 r.third

def read : Reader RealtimeConfiguration := do
  Reader.require .realtimeConfiguration wireLength
  let command ← readUInt16
  let first ← readUInt16
  let second ← readUInt16
  let third ← readUInt16
  pure ⟨command, first, second, third⟩

end RealtimeConfiguration

end ProcessData
end ServoLink
