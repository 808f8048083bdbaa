import ServoLink.ProcessData.Flags

/-!
# Flag laws — single bits of the process-data words

A word is built by joining flags and is taken apart by asking for one flag at a time.  For a flag
that is a single bit (`IsBit`) the two meet: `contains` distributes over joins and over `onlyIf`.

`Sections.Known` says that a section word announces only what a reader lays out; such a word
survives `truncate`.
-/

namespace ServoLink
namespace ProcessData

/-! ## Single bits -/

/-- Exactly one bit is set. -/
def IsBit {n : Nat} (f : BitVec n) : Prop := ∃ i : Fin n, f = BitVec.twoPow n i

instance {n : Nat} (f : BitVec n) : Decidable (IsBit f) :=
  inferInstanceAs (Decidable (∃ i : Fin n, f = BitVec.twoPow n i))

theorem twoPow_ne_zero {n : Nat} (i : Fin n) : BitVec.twoPow n i ≠ 0#n := by
  intro hzero
  have hbit := congrArg (fun y => y.getLsbD i) hzero
  simp at hbit

/-- Asking for a single bit is looking at its place. -/
theorem IsBit.exists_getLsbD {n : Nat} {f : BitVec n} (hf : IsBit f) :
    ∃ i, ∀ x : BitVec n, (x &&& f == f) = x.getLsbD i := by
  rcases hf with ⟨i, rfl⟩
  refine ⟨i, ?_⟩
  intro x
  rw [BitVec.and_twoPow]
  cases x.getLsbD i with
  | true => simp
  | false => simpa using (twoPow_ne_zero i).symm

theorem IsBit.or_and_beq {n : Nat} {f : BitVec n} (hf : IsBit f) (x y : BitVec n) :
    ((x ||| y) &&& f == f) = ((x &&& f == f) || (y &&& f == f)) := by
  rcases hf.exists_getLsbD with ⟨i, hi⟩
  rw [hi, hi, hi]
  exact BitVec.getLsbD_or

theorem IsBit.zero_and_beq {n : Nat} {f : BitVec n} (hf : IsBit f) :
    (0#n &&& f == f) = false := by
  rcases hf.exists_getLsbD with ⟨i, hi⟩
  rw [hi]
  exact BitVec.getLsbD_zero

/-- One bit is in another only if it is the same. -/
theorem IsBit.and_beq {n : Nat} {f g : BitVec n} (hf : IsBit f) (hg : IsBit g) :
    (g &&& f == f) = decide (g = f) := by
  rcases hg with ⟨j, rfl⟩
  by_cases hsame : BitVec.twoPow n j = f
  · simp [hsame]
  · rcases hf with ⟨i, rfl⟩
    have hij : (i : Nat) ≠ j := by
      intro hij
      exact hsame (by rw [hij])
    simp [BitVec.and_twoPow, hij, hsame, (twoPow_ne_zero i).symm]

theorem IsBit.and_not_beq {n : Nat} {f : BitVec n} (hf : IsBit f) (x y : BitVec n) :
    (x &&& ~~~y &&& f == f) = ((x &&& f == f) && !(y &&& f == f)) := by
  rcases hf.exists_getLsbD with ⟨i, hi⟩
  rw [hi, hi, hi]
  by_cases hlt : i < n
  · simp [hlt]
  · simp [BitVec.getLsbD_of_ge _ _ (Nat.not_lt.1 hlt)]

theorem IsBit.and_not_and_beq {n : Nat} {f : BitVec n} (hf : IsBit f) (x : BitVec n) :
    (x &&& ~~~f &&& f == f) = false := by
  rw [hf.and_not_beq]
  simp

theorem IsBit.and_not_of_not {n : Nat} {f : BitVec n} (hf : IsBit f) {x : BitVec n}
    (hx : (x &&& f == f) = false) : x &&& ~~~f = x := by
  rcases hf with ⟨i, rfl⟩
  have hclear : x.getLsbD i = false := by
    cases hbit : x.getLsbD i with
    | false => rfl
    | true => simp [BitVec.and_twoPow, hbit] at hx
  apply BitVec.eq_of_getLsbD_eq
  intro j hj
  by_cases hij : j = i
  · rw [hij, hclear]
    simp
  · simp [hj, hij]

/-! ## 16-bit words -/

namespace Word

variable {k : WordKind}

def IsBit (f : Word k) : Prop := ProcessData.IsBit f.bits.toBitVec

instance (f : Word k) : Decidable f.IsBit :=
  inferInstanceAs (Decidable (ProcessData.IsBit f.bits.toBitVec))

theorem contains_eq (w f : Word k) :
    w.contains f = (w.bits.toBitVec &&& f.bits.toBitVec == f.bits.toBitVec) := by
  rw [contains, Bool.eq_iff_iff, beq_iff_eq, beq_iff_eq, ← UInt16.toBitVec_inj]
  rfl

theorem contains_or {f : Word k} (hf : f.IsBit) (v w : Word k) :
    (v ||| w).contains f = (v.contains f || w.contains f) := by
  simp only [contains_eq]
  exact hf.or_and_beq v.bits.toBitVec w.bits.toBitVec

theorem contains_onlyIf {f : Word k} (hf : f.IsBit) (condition : Bool) (g : Word k) :
    (onlyIf condition g).contains f = (condition && g.contains f) := by
  cases condition with
  | true => rfl
  | false =>
      rw [contains_eq]
      exact hf.zero_and_beq

theorem contains_bit {f g : Word k} (hf : f.IsBit) (hg : g.IsBit) :
    g.contains f = decide (g = f) := by
  rw [contains_eq, hf.and_beq hg]
  cases f
  cases g
  simp [UInt16.toBitVec_inj]

theorem contains_difference {f : Word k} (hf : f.IsBit) (v w : Word k) :
    (v.difference w).contains f = (v.contains f && !w.contains f) := by
  simp only [contains_eq]
  exact hf.and_not_beq v.bits.toBitVec w.bits.toBitVec

end Word

/-! ## Section words -/

namespace Sections

variable {k : SectionsKind}

def IsBit (f : Sections k) : Prop := ProcessData.IsBit f.bits.toBitVec

instance (f : Sections k) : Decidable f.IsBit :=
  inferInstanceAs (Decidable (ProcessData.IsBit f.bits.toBitVec))

theorem contains_eq (w f : Sections k) :
    w.contains f = (w.bits.toBitVec &&& f.bits.toBitVec == f.bits.toBitVec) := by
  rw [contains, Bool.eq_iff_iff, beq_iff_eq, beq_iff_eq, ← UInt32.toBitVec_inj]
  rfl

theorem contains_or {f : Sections k} (hf : f.IsBit) (v w : Sections k) :
    (v ||| w).contains f = (v.contains f || w.contains f) := by
  simp only [contains_eq]
  exact hf.or_and_beq v.bits.toBitVec w.bits.toBitVec

theorem contains_onlyIf {f : Sections k} (hf : f.IsBit) (condition : Bool) (g : Sections k) :
    (onlyIf condition g).contains f = (condition && g.contains f) := by
  cases condition with
  | true => rfl
  | false =>
      rw [contains_eq]
      exact hf.zero_and_beq

theorem contains_bit {f g : Sections k} (hf : f.IsBit) (hg : g.IsBit) :
    g.contains f = decide (g = f) := by
  rw [contains_eq, hf.and_beq hg]
  cases f
  cases g
  simp [UInt32.toBitVec_inj]

theorem contains_difference_self {f : Sections k} (hf : f.IsBit) (w : Sections k) :
    (w.difference f).contains f = false := by
  rw [contains_eq]
  exact hf.and_not_and_beq w.bits.toBitVec

theorem difference_of_not_contains {f w : Sections k} (hf : f.IsBit)
    (hw : w.contains f = false) : w.difference f = w := by
  rw [contains_eq] at hw
  have hbits : w.bits &&& ~~~f.bits = w.bits := by
    apply UInt32.toBitVec_inj.1
    exact hf.and_not_of_not hw
  exact congrArg Sections.mk hbits

/-! ### Known bits -/

/-- Only bits that have a meaning are set. -/
def Known (w : Sections k) : Prop := w.truncate = w

instance (w : Sections k) : Decidable w.Known :=
  inferInstanceAs (Decidable (w.truncate = w))

theorem known_truncate (w : Sections k) : w.truncate.Known := by
  apply congrArg Sections.mk
  show w.bits &&& known.bits &&& known.bits = w.bits &&& known.bits
  rw [UInt32.and_assoc, UInt32.and_self]

theorem Known.or {v w : Sections k} (hv : v.Known) (hw : w.Known) : (v ||| w).Known := by
  have hbits (mask : UInt32) :
      (v.bits ||| w.bits) &&& mask = (v.bits &&& mask) ||| (w.bits &&& mask) := by
    simp [← UInt32.toBitVec_inj, BitVec.and_or_distrib_right]
  have hjoin : (v ||| w).truncate = v.truncate ||| w.truncate :=
    congrArg Sections.mk (hbits known.bits)
  rw [Known, hjoin, hv, hw]

theorem Known.onlyIf {f : Sections k} (hf : f.Known) (condition : Bool) :
    (onlyIf condition f).Known := by
  cases condition with
  | true => exact hf
  | false => exact congrArg Sections.mk UInt32.zero_and

end Sections

end ProcessData
end ServoLink
