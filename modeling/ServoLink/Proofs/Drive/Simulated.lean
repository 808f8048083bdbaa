import ServoLink.Drive.Simulated
import ServoLink.Proofs.Net.Network

/-!
# Simulated drive — both ports echo sequence numbers

The answers of a port carry the sequence number of the datagram they answer, so that either port can
stand behind a network.  The process port does so unless it is switched to echo the previous number.

* `ProcessPort.echoing`, `RegisterPort.echoing` — the ports as servers.
-/

namespace ServoLink
namespace Drive

open Wire Net

/-- The datagram is a status frame. -/
def isStatus (bytes : List UInt8) : Bool :=
  match Frame.decode (bytes.take maxFrameLength) with
  | .ok ⟨_, .status _⟩ => true
  | _ => false

/-- The datagram is a register reply. -/
def isReply (bytes : List UInt8) : Bool :=
  match Frame.decode (bytes.take maxFrameLength) with
  | .ok ⟨_, .registerReply _⟩ => true
  | _ => false

/-- An answer is the frame of its message. -/
theorem encode_of_mem_answer {checksum : Bool} {sequence : UInt16} {message : Message}
    {reply : List UInt8} (h : reply ∈ answer checksum sequence message) :
    Frame.encode checksum ⟨sequence, message⟩ = .ok reply := by
  unfold answer at h
  split at h
  · rename_i bytes hencode
    rw [List.mem_singleton.1 h]
    exact hencode
  · cases h

/-- What can be read of an answer carries the sequence number it was given. -/
theorem sequence_of_mem_answer {checksum : Bool} {sequence : UInt16} {message : Message}
    {reply : List UInt8} (h : reply ∈ answer checksum sequence message) {frame : Frame}
    (hframe : Frame.decode (reply.take maxFrameLength) = .ok frame) :
    frame.sequence = sequence := by
  have hencode := encode_of_mem_answer h
  rw [Frame.take_of_encode hencode] at hframe
  exact Frame.sequence_of_decode_encode hencode hframe

namespace ProcessPort

@[simp] theorem staleEcho_serve (p : ProcessPort) (datagram : List UInt8) :
    (p.serve datagram).2.staleEcho = p.staleEcho := by
  unfold serve
  split
  · dsimp only
    split <;> rfl
  · rfl

theorem echoes_serve {p : ProcessPort} (h : p.staleEcho = false) {datagram reply : List UInt8}
    (hreply : reply ∈ (p.serve datagram).1) {answered : Frame}
    (hanswered : Frame.decode (reply.take maxFrameLength) = .ok answered) :
    ∃ asked, Frame.decode (datagram.take maxFrameLength) = .ok asked
      ∧ asked.sequence = answered.sequence := by
  unfold serve at hreply
  split at hreply
  · rename_i sequence request hasked
    refine ⟨_, hasked, ?_⟩
    dsimp only at hreply
    split at hreply
    · cases hreply
    · rw [h] at hreply
      exact (sequence_of_mem_answer hreply hanswered).symm
  · cases hreply

/-- A process port that echoes the number it is asked with. -/
abbrev Echoing := { p : ProcessPort // p.staleEcho = false }

def echoing : Server isStatus Echoing where
  serve p datagram :=
    ((p.1.serve datagram).1, ⟨(p.1.serve datagram).2, (staleEcho_serve p.1 datagram).trans p.2⟩)
  echoes := by
    intro p datagram reply hreply _ answered hanswered
    exact echoes_serve p.2 hreply hanswered

end ProcessPort

namespace RegisterPort

theorem echoes_serve (p : RegisterPort) {datagram reply : List UInt8}
    (hreply : reply ∈ (p.serve datagram).1) {answered : Frame}
    (hanswered : Frame.decode (reply.take maxFrameLength) = .ok answered) :
    ∃ asked, Frame.decode (datagram.take maxFrameLength) = .ok asked
      ∧ asked.sequence = answered.sequence := by
  unfold serve at hreply
  dsimp only at hreply
  split at hreply
  · cases hreply
  · split at hreply
    · rename_i sequence address hasked
      exact ⟨_, hasked, (sequence_of_mem_answer hreply hanswered).symm⟩
    · rename_i sequence request hasked
      exact ⟨_, hasked, (sequence_of_mem_answer hreply hanswered).symm⟩
    · cases hreply

def echoing : Server isReply RegisterPort where
  serve := serve
  echoes := by
    intro p datagram reply hreply _ answered hanswered
    exact p.echoes_serve hreply hanswered

end RegisterPort

end Drive
end ServoLink
