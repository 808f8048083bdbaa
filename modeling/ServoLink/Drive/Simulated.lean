import ServoLink.Drive.RegisterMap
import ServoLink.Net.Line
import ServoLink.Wire.Frame

/-!
# Simulated drive — the drive model and the register map behind two ports

Each port takes a datagram and gives its answers, none or one.  Switches make the process port
drop its answers or echo the previous sequence number, and make the register port deaf.
-/

namespace ServoLink
namespace Drive

open Wire Net

/-- What serves the process-data port. -/
structure ProcessPort where
  model : Model
  checksum : Bool
  /-- Answers are dropped; the model keeps stepping. -/
  dropStatus : Bool := false
  /-- Answers echo the previous sequence number. -/
  staleEcho : Bool := false
  controlFrames : Nat := 0
  statusFrames : Nat := 0
  deriving DecidableEq, Repr, Inhabited

/-- What serves the register port. -/
structure RegisterPort where
  map : RegisterMap
  checksum : Bool
  /-- Requests are counted and ignored. -/
  deaf : Bool := false
  requests : Nat := 0
  deriving DecidableEq, Repr, Inhabited

/-- The datagram of an answer; none if it does not fit a frame. -/
def answer (checksum : Bool) (sequence : UInt16) (message : Message) : List (List UInt8) :=
  match Frame.encode checksum ⟨sequence, message⟩ with
  | .ok bytes => [bytes]
  | .error _ => []

namespace ProcessPort

def new (o : Options) : ProcessPort := { model := .new o, checksum := o.checksum }

/-- Handles one datagram. -/
def serve (p : ProcessPort) (datagram : List UInt8) : List (List UInt8) × ProcessPort :=
  match Frame.decode (datagram.take maxFrameLength) with
  | .ok ⟨sequence, .control request⟩ =>
      let (status, model) := p.model.step request
      let p := { p with model, controlFrames := p.controlFrames + 1 }
      if p.dropStatus then ([], p)
      else
        let echo := if p.staleEcho then sequence - 1 else sequence
        (answer p.checksum echo (.status status), { p with statusFrames := p.statusFrames + 1 })
  | _ => ([], p)

end ProcessPort

namespace RegisterPort

def new (o : Options) : RegisterPort := { map := .new o, checksum := o.checksum }

/-- Handles one datagram. -/
def serve (p : RegisterPort) (datagram : List UInt8) : List (List UInt8) × RegisterPort :=
  -- Every datagram counts, also one that cannot be read.
  let p := { p with requests := p.requests + 1 }
  if p.deaf then ([], p)
  else
    match Frame.decode (datagram.take maxFrameLength) with
    | .ok ⟨sequence, .registerRead address⟩ =>
        (answer p.checksum sequence (.registerReply (p.map.read address)), p)
    | .ok ⟨sequence, .registerWrite request⟩ =>
        let (reply, map) := p.map.write request.address request.value
        (answer p.checksum sequence (.registerReply reply), { p with map })
    | _ => ([], p)

end RegisterPort

/-- A simulated drive. -/
structure Simulated where
  process : ProcessPort
  registers : RegisterPort
  deriving DecidableEq, Repr, Inhabited

def Simulated.new (o : Options) : Simulated := ⟨.new o, .new o⟩

/-- What a socket reports after sending to a closed port. -/
def refusedText : String := "Connection refused (os error 111)"

end Drive
end ServoLink
