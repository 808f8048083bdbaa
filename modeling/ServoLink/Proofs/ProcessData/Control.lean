import ServoLink.ProcessData.Request
import ServoLink.Proofs.ProcessData.Flags
import ServoLink.Proofs.Wire.Field

/-!
# Control requests on the wire

A control request is `Canonical` when it is what a reader can give: the count fits its four bits,
a raw command has a twelve-bit number that no other command has, and the response word announces
known sections only.

* `ControlRequest.reads_write` — a canonical request is read back from its bytes;
* `ControlRequest.ensures_read` — an accepted request is canonical, and as long as it says.
-/

namespace ServoLink
namespace ProcessData

open Wire

/-! ## Motion command -/

/-- A raw command keeps to the twelve bits of its number, and to numbers without a form. -/
def Command.Canonical : Command → Prop
  | .raw n _ =>
      n < 0x1000 ∧ n ≠ 0x000 ∧ n ≠ Command.goToNumber
        ∧ n ≠ Command.stopNumber
  | .noOperation | .goTo .. | .stop _ => True

def MotionCommand.Canonical (m : MotionCommand) : Prop := m.count ≤ 15 ∧ m.command.Canonical

theorem Command.Canonical.number_lt {command : Command} (h : command.Canonical) :
    command.number < 0x1000 := by
  cases command with
  | raw n block => exact h.1
  | noOperation => exact of_decide_eq_true rfl
  | goTo target velocity acceleration deceleration => exact of_decide_eq_true rfl
  | stop deceleration => exact of_decide_eq_true rfl

theorem Command.length_parameters_le (command : Command) :
    command.parameters.length ≤ Command.parametersLength := by
  cases command with
  | raw n block => simp [Command.parameters, Command.parametersLength]
  | noOperation => decide
  | goTo target velocity acceleration deceleration =>
      simp [Command.parameters, Command.parametersLength]
  | stop deceleration => simp [Command.parameters, Command.parametersLength]

/-- The parameter block of a command, with its padding. -/
def Command.block (command : Command) : List UInt8 :=
  command.parameters
    ++ List.replicate (Command.parametersLength - command.parameters.length) 0

theorem Command.length_block (command : Command) :
    command.block.length = Command.parametersLength := by
  have h := command.length_parameters_le
  simp [Command.block]
  omega

theorem MotionCommand.toNat_header (m : MotionCommand) (hcount : m.count ≤ 15)
    (hnumber : m.command.number < 0x1000) :
    m.header.toNat = m.count.toNat + 0x10 * m.command.number.toNat := by
  have hc : m.count.toNat < 2 ^ 4 := Nat.lt_succ_of_le hcount
  have hn : m.command.number.toNat < 0x1000 := hnumber
  -- The count fills the four bits that the shifted number leaves free.
  have hlow : (m.count &&& 0x0F).toNat = m.count.toNat := by
    rw [UInt8.toNat_and]
    exact Nat.and_two_pow_sub_one_of_lt_two_pow hc
  have hhigh : (m.command.number <<< 4).toNat = m.command.number.toNat <<< 4 := by
    simp [Nat.shiftLeft_eq]
    omega
  calc m.header.toNat
      = (m.command.number <<< 4).toNat ||| (m.count &&& 0x0F).toUInt16.toNat :=
        UInt16.toNat_or _ _
    _ = m.count.toNat ||| m.command.number.toNat <<< 4 := by
        rw [hhigh, UInt8.toNat_toUInt16, hlow, Nat.or_comm]
    _ = m.count.toNat + 0x10 * m.command.number.toNat := or_shiftLeft hc m.command.number.toNat

theorem MotionCommand.header_shiftRight (m : MotionCommand) (hcount : m.count ≤ 15)
    (hnumber : m.command.number < 0x1000) : m.header >>> 4 = m.command.number := by
  have hc : m.count.toNat ≤ 15 := hcount
  apply UInt16.toNat_inj.1
  simp [Nat.shiftRight_eq_div_pow, m.toNat_header hcount hnumber]
  omega

theorem MotionCommand.header_low (m : MotionCommand) (hcount : m.count ≤ 15)
    (hnumber : m.command.number < 0x1000) : (m.header &&& 0x0F).toUInt8 = m.count := by
  have hc : m.count.toNat ≤ 15 := hcount
  have hmask (n : Nat) : n &&& 15 = n % 2 ^ 4 := Nat.and_two_pow_sub_one_eq_mod n 4
  apply UInt8.toNat_inj.1
  simp [hmask, m.toNat_header hcount hnumber]
  omega

/-- The block of a command holds its parameters, whatever pads them. -/
theorem Command.exists_readParameters {command : Command} (h : command.Canonical)
    {block : Vector UInt8 30} (hblock : block.toList = command.block) :
    ∃ left, readParameters command.number block block.toList = .ok command left := by
  -- Whoever reads the parameters leaves the padding behind.
  have hpadded {read : Reader Command} (hread : Reads read command.parameters command) :
      ∃ left, read block.toList = .ok command left := by
    rw [hblock]
    exact ⟨_, hread _⟩
  cases command with
  | noOperation => exact ⟨block.toList, rfl⟩
  | goTo target velocity acceleration deceleration =>
      apply hpadded
      simp only [Command.parameters, List.append_assoc]
      exact (reads_readInt32 target.steps).bind ((reads_readInt32 velocity.steps).bind
        ((reads_readInt32 acceleration.steps).bind
          ((reads_readInt32 deceleration.steps).bind_pure fun d =>
            Command.goTo target velocity acceleration ⟨d⟩)))
  | stop deceleration =>
      exact hpadded ((reads_readInt32 deceleration.steps).bind_pure fun d => Command.stop ⟨d⟩)
  | raw n parameters =>
      rcases h with ⟨-, hno, hgo, hstop⟩
      have hsame : block = parameters := by
        apply Vector.toList_inj.1
        simpa [Command.block, Command.parameters, Command.parametersLength] using hblock
      refine ⟨block.toList, ?_⟩
      have hread : readParameters n block = pure (raw n block) := by
        rw [readParameters, if_neg hno, if_neg hgo, if_neg hstop]
      show readParameters n block block.toList = .ok (raw n parameters) block.toList
      rw [hread, hsame]
      rfl

theorem Command.reads_ofBlock {command : Command} (h : command.Canonical) {block : Vector UInt8 30}
    (hblock : block.toList = command.block) :
    Reads (Command.ofBlock command.number block) [] command := by
  intro rest
  rcases Command.exists_readParameters h hblock with ⟨left, hread⟩
  show Command.ofBlock command.number block rest = .ok command rest
  rw [Command.ofBlock, hread]

theorem MotionCommand.length_write (m : MotionCommand) :
    m.write.length = MotionCommand.wireLength := by
  have h := m.command.length_block
  rw [Command.block] at h
  rw [MotionCommand.write, List.append_assoc, List.length_append, h]
  rfl

theorem MotionCommand.reads_write {m : MotionCommand} (h : m.Canonical) :
    Reads MotionCommand.read m.write m := by
  rcases h with ⟨hcount, hcommand⟩
  have hnumber := hcommand.number_lt
  have hshape : m.write = bytesOfUInt16 m.header ++ m.command.block := by
    rw [MotionCommand.write, List.append_assoc, Command.block]
  -- The block is read as a whole first, then taken apart by the number in the header.
  let block : Vector UInt8 30 := ⟨m.command.block.toArray, m.command.length_block⟩
  have hblock : block.toList = m.command.block := rfl
  have hnext : Reads (Command.ofBlock (m.header >>> 4) block) [] m.command := by
    rw [m.header_shiftRight hcount hnumber]
    exact Command.reads_ofBlock hcommand hblock
  have hlast := hnext.bind_pure fun command =>
    MotionCommand.mk (m.header &&& 0x0F).toUInt8 command
  have hsame : MotionCommand.mk (m.header &&& 0x0F).toUInt8 m.command = m := by
    rw [m.header_low hcount hnumber]
  rw [hsame] at hlast
  refine Reads.require .motionCommand ?_ (Nat.le_of_eq m.length_write.symm)
  rw [hshape, ← hblock, ← List.append_nil (bytesOfUInt16 m.header ++ block.toList),
    List.append_assoc]
  refine (reads_readUInt16As .uint16 m.header).bind ?_
  exact (reads_readBytes .byteBlock block).bind hlast

/-- A command number is what is left of a word without its last four bits. -/
theorem shiftRight_four_lt (w : UInt16) : w >>> 4 < 0x1000 := by
  have hw := w.toNat_lt
  apply UInt16.lt_iff_toNat_lt.2
  simp [Nat.shiftRight_eq_div_pow]
  omega

theorem low_four_le (w : UInt16) : (w &&& 0x0F).toUInt8 ≤ 15 := by
  have hmask (n : Nat) : n &&& 15 = n % 2 ^ 4 := Nat.and_two_pow_sub_one_eq_mod n 4
  apply UInt8.le_iff_toNat_le.2
  simp [hmask]
  omega

/-- A parameter block is never too short for what is read from it. -/
theorem Command.ensures_ofBlock {number : UInt16} (hnumber : number < 0x1000)
    (block : Vector UInt8 30) :
    Ensures (Command.ofBlock number block) fun command n => command.Canonical ∧ n = 0 := by
  have hfields : Ensures (readParameters number block) fun command _ => command.Canonical := by
    rw [readParameters]
    split
    · exact Ensures.pure trivial
    · rename_i hno
      split
      · exact (ensures_readInt32).bind fun _ _ _ => (ensures_readInt32).bind fun _ _ _ =>
          (ensures_readInt32).bind fun _ _ _ => (ensures_readInt32).bind fun _ _ _ =>
            Ensures.pure trivial
      · rename_i hgo
        split
        · exact (ensures_readInt32).bind fun _ _ _ => Ensures.pure trivial
        · rename_i hstop
          -- No command has a form for this number, so it is kept raw.
          exact Ensures.pure ⟨hnumber, hno, hgo, hstop⟩
  intro bytes command rest hok
  rw [Command.ofBlock] at hok
  split at hok
  · rename_i read left hread
    cases hok
    rcases hfields block.toList command left hread with ⟨front, -, hcanonical⟩
    exact ⟨[], rfl, hcanonical, rfl⟩
  · cases hok

theorem MotionCommand.ensures_read :
    Ensures MotionCommand.read fun m n => m.Canonical ∧ n = MotionCommand.wireLength := by
  refine (Ensures.require .motionCommand Command.blockLength).bind fun _ n0 h0 => ?_
  refine (ensures_readUInt16As .uint16).bind fun header n1 h1 => ?_
  refine (ensures_readBytes .byteBlock Command.parametersLength).bind fun block n2 h2 => ?_
  refine (Command.ensures_ofBlock (shiftRight_four_lt header) block).bind fun command n3 h3 => ?_
  refine Ensures.pure ⟨⟨low_four_le header, h3.1⟩, ?_⟩
  rw [h0, h1, h2, h3.2]
  rfl

/-! ## Real-time configuration -/

theorem RealtimeConfiguration.length_write (r : RealtimeConfiguration) :
    r.write.length = RealtimeConfiguration.wireLength := rfl

theorem RealtimeConfiguration.reads_write (r : RealtimeConfiguration) :
    Reads RealtimeConfiguration.read r.write r := by
  refine Reads.require .realtimeConfiguration ?_ (Nat.le_refl 8)
  simp only [RealtimeConfiguration.write, List.append_assoc]
  exact (reads_readUInt16As .uint16 r.command).bind ((reads_readUInt16As .uint16 r.first).bind
    ((reads_readUInt16As .uint16 r.second).bind
      ((reads_readUInt16As .uint16 r.third).bind_pure fun third =>
        RealtimeConfiguration.mk r.command r.first r.second third)))

theorem RealtimeConfiguration.ensures_read :
    Ensures RealtimeConfiguration.read fun _ n =>
      True ∧ n = RealtimeConfiguration.wireLength := by
  refine (Ensures.require .realtimeConfiguration RealtimeConfiguration.wireLength).bind
    fun _ n0 h0 => ?_
  refine (ensures_readUInt16As .uint16).bind fun _ n1 h1 => ?_
  refine (ensures_readUInt16As .uint16).bind fun _ n2 h2 => ?_
  refine (ensures_readUInt16As .uint16).bind fun _ n3 h3 => ?_
  refine (ensures_readUInt16As .uint16).bind fun _ n4 h4 => ?_
  refine Ensures.pure ⟨trivial, ?_⟩
  rw [h0, h1, h2, h3, h4]
  rfl

/-! ## Words and section words -/

theorem Word.reads_write {k : WordKind} (w : Word k) : Reads Word.read w.write w :=
  (reads_readUInt16As .uint16 w.bits).map Word.mk

theorem Word.ensures_read {k : WordKind} :
    Ensures (Word.read (k := k)) fun _ n => True ∧ n = 2 :=
  (ensures_readUInt16As .uint16).map fun _ _ h => ⟨trivial, h⟩

theorem Sections.reads_write {k : SectionsKind} {w : Sections k} (h : w.Known) :
    Reads Sections.read w.write w := by
  have hread := (reads_readUInt32As .uint32 w.bits).map fun bits =>
    Sections.truncate (k := k) ⟨bits⟩
  have hsame : Sections.truncate (k := k) ⟨w.bits⟩ = w := h
  rw [hsame] at hread
  exact hread

theorem Sections.ensures_read {k : SectionsKind} :
    Ensures (Sections.read (k := k)) fun w n => w.Known ∧ n = 4 :=
  (ensures_readUInt32As .uint32).map fun bits _ h => ⟨Sections.known_truncate ⟨bits⟩, h⟩

/-! ## Control request -/

/-- What a reader can give: the motion command is canonical, the response word known. -/
def ControlRequest.Canonical (r : ControlRequest) : Prop :=
  (∀ m, r.motion = some m → m.Canonical) ∧ r.response.Known

theorem sectionBytes_eq_elim {α : Type} (write : α → List UInt8) (value : Option α) :
    sectionBytes write value = value.elim [] write := by
  cases value <;> rfl

theorem length_sectionBytes {α : Type} {write : α → List UInt8} {length : Nat}
    (hlength : ∀ a, (write a).length = length) (value : Option α) :
    (sectionBytes write value).length = if value.isSome then length else 0 := by
  cases value with
  | none => rfl
  | some a => exact hlength a

namespace ControlRequest

theorem contains_sections (r : ControlRequest) :
    r.sections.contains RequestSections.controlWord = r.control.isSome
      ∧ r.sections.contains RequestSections.motionCommand = r.motion.isSome
      ∧ r.sections.contains RequestSections.realtimeConfiguration = r.configuration.isSome := by
  refine ⟨?_, ?_, ?_⟩ <;>
    simp +decide (disch := decide) [sections, Sections.contains_or, Sections.contains_onlyIf,
      Sections.contains_bit]

theorem known_sections (r : ControlRequest) : r.sections.Known :=
  (((Sections.Known.onlyIf (by decide) _).or (Sections.Known.onlyIf (by decide) _)).or
    (Sections.Known.onlyIf (by decide) _))

theorem length_write (r : ControlRequest) : r.write.length = r.wireLength := by
  have hcontrol : ∀ w : ControlWord, w.write.length = 2 := fun _ => rfl
  simp only [write, wireLength, List.length_append, length_sectionBytes hcontrol,
    length_sectionBytes MotionCommand.length_write,
    length_sectionBytes RealtimeConfiguration.length_write]
  rfl

theorem reads_write {r : ControlRequest} (h : r.Canonical) :
    Reads ControlRequest.read r.write r := by
  rcases h with ⟨hmotion, hresponse⟩
  rcases r.contains_sections with ⟨hc, hm, hr⟩
  simp only [write, List.append_assoc]
  refine (Sections.reads_write r.known_sections).bind ?_
  refine (Sections.reads_write hresponse).bind ?_
  simp only [hc, hm, hr, sectionBytes_eq_elim]
  refine (Reads.section? fun w _ => w.reads_write).bind ?_
  refine (Reads.section? fun m hsome => MotionCommand.reads_write (hmotion m hsome)).bind ?_
  exact (Reads.section? fun c _ => c.reads_write).bind_pure fun c =>
    ControlRequest.mk r.control r.motion c r.response

theorem ensures_read :
    Ensures ControlRequest.read fun r n => r.Canonical ∧ n = r.wireLength := by
  refine Sections.ensures_read.bind fun sections n0 h0 => ?_
  refine Sections.ensures_read.bind fun response n1 h1 => ?_
  refine (Ensures.fixedSection? _ Word.ensures_read).bind fun control n2 h2 => ?_
  refine (Ensures.fixedSection? _ MotionCommand.ensures_read).bind fun motion n3 h3 => ?_
  refine (Ensures.fixedSection? _ RealtimeConfiguration.ensures_read).bind
    fun configuration n4 h4 => ?_
  refine Ensures.pure ⟨⟨h3.2.1, h1.1⟩, ?_⟩
  rw [h0.2, h1.2, h2.2.2, h3.2.2, h4.2.2]
  simp only [wireLength]
  omega

end ControlRequest

end ProcessData
end ServoLink
