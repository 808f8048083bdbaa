import ServoLink.Drive.State
import ServoLink.Proofs.Wire.Field

/-!
# Drive states on the wire

Reading a state forgets the bits of the sub state that the main state does not use.  What is left is
`Reported`: a state that some pair of bytes denotes.  Writing such a state and reading it again
changes nothing, so reading forgets only once.
-/

namespace ServoLink
namespace Drive

open Wire

/-! ## Error codes -/

namespace ErrorCode

/-- Some number denotes the code. -/
def Denoted (e : ErrorCode) : Prop := ∃ n, ofCode n = e

theorem code_of_mem_named : ∀ entry ∈ named, entry.1.code = entry.2.1 := by
  decide

theorem code_ofCode (n : UInt16) : (ofCode n).code = n := by
  rw [ofCode]
  split
  · rename_i e number name hfind
    have hmem := List.mem_of_find?_eq_some hfind
    have hnumber : number = n := by simpa using List.find?_some hfind
    rw [← hnumber]
    exact code_of_mem_named _ hmem
  · rfl

theorem Denoted.ofCode_code {e : ErrorCode} (h : e.Denoted) : ofCode e.code = e := by
  rcases h with ⟨n, rfl⟩
  rw [code_ofCode]

theorem Denoted.reads_write {e : ErrorCode} (h : e.Denoted) :
    Reads (ofCode <$> readUInt16) (bytesOfUInt16 e.code) e := by
  have hread := (reads_readUInt16As .uint16 e.code).map ofCode
  rwa [h.ofCode_code] at hread

theorem ensures_read : Ensures (ofCode <$> readUInt16) fun e n => e.Denoted ∧ n = 2 :=
  (ensures_readUInt16As .uint16).map fun n _ h => ⟨⟨n, rfl⟩, h⟩

end ErrorCode

/-! ## States -/

namespace State

/-- Some pair of bytes denotes the state. -/
def Reported (s : State) : Prop := ∃ main sub, ofRaw main sub = s

theorem code_ofCode_toUInt8 (b : UInt8) : (ErrorCode.ofCode b.toUInt16).code.toUInt8 = b := by
  rw [ErrorCode.code_ofCode]
  simp

/-- The finished mark is told from what is written for it. -/
theorem done_beq_finishedMark (finished : Bool) : (done finished == finishedMark) = finished := by
  cases finished <;> rfl

/-- The fields of the sub state of an enabled drive tile its eight bits. -/
theorem enabledSub_eq (sub : UInt8) :
    ((sub &&& 0x0F) &&& 0x0F) ||| bit (sub &&& 0x10 != 0) 0x10 ||| bit (sub &&& 0x20 != 0) 0x20
      ||| bit (sub &&& 0x40 != 0) 0x40 ||| bit (sub &&& 0x80 != 0) 0x80 = sub := by
  rcases sub with ⟨⟨sub⟩⟩
  revert sub
  decide +kernel

theorem Reported.ofRaw_raw {s : State} (h : s.Reported) : ofRaw s.raw.1 s.raw.2 = s := by
  rcases h with ⟨main, sub, hs⟩
  -- One case for each main state.
  unfold ofRaw at hs
  split at hs <;> subst hs <;>
    simp [ofRaw, raw, code_ofCode_toUInt8, done_beq_finishedMark, enabledSub_eq]

theorem Reported.reads_write {s : State} (h : s.Reported) : Reads State.read s.write s := by
  intro rest
  show EStateM.Result.ok (ofRaw s.raw.1 s.raw.2) rest = .ok s rest
  rw [h.ofRaw_raw]

theorem ensures_read : Ensures State.read fun s n => s.Reported ∧ n = 2 := by
  intro bytes s rest hok
  match bytes, hok with
  | sub :: main :: tail, hok =>
      cases hok
      exact ⟨[sub, main], rfl, ⟨main, sub, rfl⟩, rfl⟩

end State

end Drive
end ServoLink
