import ServoLink.Net.Line
import ServoLink.Wire.Frame

/-!
# Script — a far end that answers by a prepared list

A script holds one entry for each datagram to come.  An entry says how the send goes and what
arrives back: bytes, a socket error, or a frame.  A frame without a sequence number takes that of
the datagram just sent, moved by an offset.
-/

namespace ServoLink
namespace Net

open Wire

structure ScriptedFrame where
  sequence : Option UInt16
  offset : Int
  message : Message
  checksum : Bool := false
  /-- Position of a byte to invert. -/
  flip : Option Nat := none
  deriving DecidableEq, Repr

inductive ScriptedReply where
  | bytes (datagram : List UInt8)
  | failure (detail : String)
  | frame (frame : ScriptedFrame)
  deriving DecidableEq, Repr

structure ScriptEntry where
  stall : Nat := 0
  failure : Option String := none
  replies : List (Nat × ScriptedReply) := []
  deriving DecidableEq, Repr, Inhabited

abbrev Script := List ScriptEntry

/-- The sequence number in a datagram. -/
def sequenceOf : List UInt8 → UInt16
  | _ :: _ :: lo :: hi :: _ => word16 lo hi
  | _ => 0

/-- Inverts the byte at a position, if there is one. -/
def invertAt (position : Nat) (datagram : List UInt8) : List UInt8 :=
  datagram.modify position (· ^^^ 0xFF)

/-- The frame as a datagram; nothing if it does not fit. -/
def ScriptedFrame.datagram? (f : ScriptedFrame) (sent : List UInt8) : Option (List UInt8) :=
  let moved := UInt16.ofInt ((sequenceOf sent).toNat + f.offset)
  match Frame.encode f.checksum ⟨f.sequence.getD moved, f.message⟩ with
  | .ok bytes => some (f.flip.elim bytes fun position => invertAt position bytes)
  | .error _ => none

def ScriptedReply.delivery? (sent : List UInt8) : ScriptedReply → Option Delivery
  | .bytes datagram => some (.datagram datagram)
  | .failure detail => some (.failure detail)
  | .frame f => (f.datagram? sent).map .datagram

def ScriptEntry.reaction (entry : ScriptEntry) (sent : List UInt8) : Reaction :=
  { stall := entry.stall
    failure := entry.failure
    replies := entry.replies.filterMap fun (delay, reply) =>
      (reply.delivery? sent).map (delay, ·) }

/-- Follows the script, then stays silent. -/
def Script.react : FarEnd Script
  | [], _ => ({}, [])
  | entry :: rest, sent => (entry.reaction sent, rest)

end Net
end ServoLink
