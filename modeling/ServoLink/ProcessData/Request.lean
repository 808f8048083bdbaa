import ServoLink.ProcessData.Flags
import ServoLink.ProcessData.Command

/-!
# Control request — what the master sends every cycle

Two section words come first: which sections of the request follow, and which sections the drive is
to answer with.  The first is derived from the sections present.
-/

namespace ServoLink
namespace ProcessData

open Wire

structure ControlRequest where
  control : Option ControlWord
  motion : Option MotionCommand
  configuration : Option RealtimeConfiguration
  response : ResponseSections
  deriving DecidableEq, Repr, Inhabited

/-- The control word at the front of a section. -/
def Word.read {k : WordKind} : Reader (Word k) := Word.mk <$> readUInt16

def Word.write {k : WordKind} (w : Word k) : List UInt8 := bytesOfUInt16 w.bits

/-- A section word; reserved bits are dropped. -/
def Sections.read {k : SectionsKind} : Reader (Sections k) :=
  (fun bits => Sections.truncate ⟨bits⟩) <$> readUInt32

def Sections.write {k : SectionsKind} (w : Sections k) : List UInt8 := bytesOfUInt32 w.bits

/-- The bytes of an optional section. -/
def sectionBytes {α : Type} (write : α → List UInt8) : Option α → List UInt8
  | some value => write value
  | none => []

namespace ControlRequest

/-- The sections present. -/
def sections (r : ControlRequest) : RequestSections :=
  Sections.onlyIf r.control.isSome RequestSections.controlWord
    ||| Sections.onlyIf r.motion.isSome RequestSections.motionCommand
    ||| Sections.onlyIf r.configuration.isSome RequestSections.realtimeConfiguration

def wireLength (r : ControlRequest) : Nat :=
  8 + (if r.control.isSome then 2 else 0)
    + (if r.motion.isSome then MotionCommand.wireLength else 0)
    + (if r.configuration.isSome then RealtimeConfiguration.wireLength else 0)

def write (r : ControlRequest) : List UInt8 :=
  r.sections.write ++ r.response.write ++ sectionBytes Word.write r.control
    ++ sectionBytes MotionCommand.write r.motion
    ++ sectionBytes RealtimeConfiguration.write r.configuration

def read : Reader ControlRequest := do
  let sections : RequestSections ← Sections.read
  let response : ResponseSections ← Sections.read
  let control ← Reader.section? (sections.contains RequestSections.controlWord) Word.read
  let motion ← Reader.section? (sections.contains RequestSections.motionCommand) MotionCommand.read
  let configuration ←
    Reader.section? (sections.contains RequestSections.realtimeConfiguration)
      RealtimeConfiguration.read
  pure ⟨control, motion, configuration, response⟩

end ControlRequest

end ProcessData
end ServoLink
