import ServoLink.Firmware
import ServoLink.Proofs.Text.Blank
import ServoLink.Proofs.Text.Numeral
import ServoLink.Proofs.Wire.Field

/-!
# Firmware version — one version in three forms

A version is three numbers, a text and a packed word.  The texts that are read are those of the
grammar, and no others; the word holds the version and is ordered as versions are.

* `Written` — the texts of a version; `parse_eq_ok_iff` — they are the texts that are read;
* `toNat_packed`, `ofPacked_packed` — the word;
* `isBelow_iff` — versions and words are ordered alike;
* `forms_agree` — all of it.
-/

namespace ServoLink
namespace Firmware

open Text Wire

/-! ## Packed words -/

theorem packed_eq_word32 (v : Firmware) : v.packed = word32 v.patch v.minor v.major 0 := by
  unfold packed word32
  have htop : (0 : UInt8).toUInt32 <<< 24 = 0 := rfl
  rw [htop, UInt32.or_zero, UInt32.or_comm, UInt32.or_comm (v.major.toUInt32 <<< 16),
    UInt32.or_assoc]

theorem toNat_packed (v : Firmware) :
    v.packed.toNat = v.patch.toNat + 0x100 * v.minor.toNat + 0x10000 * v.major.toNat := by
  rw [packed_eq_word32, toNat_word32]
  simp

/-- A version is read back from its word. -/
theorem ofPacked_packed (v : Firmware) : ofPacked v.packed = v := by
  rcases v with ⟨major, minor, patch⟩
  have hword := toNat_packed ⟨major, minor, patch⟩
  have hpatch := patch.toNat_lt
  have hminor := minor.toNat_lt
  have hmajor := major.toNat_lt
  unfold ofPacked
  congr
  all_goals
    apply UInt8.toNat_inj.1
    simp [hword, Nat.shiftRight_eq_div_pow]
    omega

/-! ## Order -/

theorem compare_eq_lt_iff {m n : UInt8} : Ord.compare m n = .lt ↔ m < n := by
  show compareOfLessAndEq m n = .lt ↔ m < n
  unfold compareOfLessAndEq
  split_ifs <;> simp [*]

theorem compare_eq_eq_iff {m n : UInt8} : Ord.compare m n = .eq ↔ m = n := by
  show compareOfLessAndEq m n = .eq ↔ m = n
  unfold compareOfLessAndEq
  split_ifs with hlt heq
  · simp [UInt8.ne_of_lt hlt]
  · simp [heq]
  · simp [heq]

theorem then_eq_lt_iff {first second : Ordering} :
    first.then second = .lt ↔ first = .lt ∨ first = .eq ∧ second = .lt := by
  cases first <;> simp

/-- The major number decides first, then the minor number, then the patch. -/
theorem isBelow_eq_true_iff {v w : Firmware} :
    v.isBelow w = true ↔ v.major < w.major ∨ v.major = w.major
      ∧ (v.minor < w.minor ∨ v.minor = w.minor ∧ v.patch < w.patch) := by
  unfold isBelow compare
  simp only [beq_iff_eq, then_eq_lt_iff, compare_eq_lt_iff, compare_eq_eq_iff]

/-- A version is below another if and only if its word is. -/
theorem isBelow_iff {v w : Firmware} : v.isBelow w = true ↔ v.packed < w.packed := by
  have hminor := v.minor.toNat_lt
  have hpatch := v.patch.toNat_lt
  have hminor' := w.minor.toNat_lt
  have hpatch' := w.patch.toNat_lt
  -- The lower parts of a word never reach the next higher one, so its order is that of its parts.
  rw [isBelow_eq_true_iff, UInt32.lt_iff_toNat_lt, toNat_packed, toNat_packed]
  simp only [UInt8.lt_iff_toNat_lt, ← UInt8.toNat_inj]
  omega

/-! ## Texts -/

/-- One part of a version, and the number in it. -/
def PartOf (cs : List Char) (n : UInt8) : Prop := DenotesNatural 10 cs n.toNat

/-- The text is a version: three parts between points, and blanks around them. -/
def Written (text : List Char) (v : Firmware) : Prop :=
  ∃ before a b c after, text = before ++ (a ++ '.' :: (b ++ '.' :: c)) ++ after
    ∧ Blanks before ∧ Blanks after ∧ PartOf a v.major ∧ PartOf b v.minor ∧ PartOf c v.patch

section Parts

variable {cs : List Char} {n : UInt8}

theorem part?_eq_some_iff : part? cs = some n ↔ PartOf cs n := by
  have hread : ∀ m, natural? 10 cs = some m ↔ DenotesNatural 10 cs m := fun m =>
    natural?_eq_some_iff (by decide)
  have hlt := n.toNat_lt
  unfold part? PartOf
  rw [← hread]
  cases natural? 10 cs with
  | none => simp
  | some m =>
      simp only [Option.ite_none_right_eq_some, Option.some.injEq]
      constructor
      · rintro ⟨hm, rfl⟩
        exact (UInt8.toNat_ofNat_of_lt' (Nat.lt_succ_of_le hm)).symm
      · rintro rfl
        exact ⟨by omega, UInt8.ofNat_toNat⟩

theorem PartOf.solid (h : PartOf cs n) : Solid cs :=
  (DenotesNatural.isWord (by decide) h).solid

theorem PartOf.point_notMem (h : PartOf cs n) : '.' ∉ cs := by
  have hdigits : ∀ {ds m}, Denotes 10 ds m → '.' ∉ ds := fun hm hpoint =>
    (hm.isDigit hpoint).elim fun d => not_isDigit (by decide) (by decide)
  rcases h with hm | ⟨digits, rfl, hm⟩
  · exact hdigits hm
  · simp [hdigits hm]

end Parts

/-- What is read as a version is a version, and it is that one. -/
theorem parse_eq_ok_iff {text : String} {v : Firmware} :
    parse text = .ok v ↔ Written text.toList v := by
  constructor
  · intro h
    obtain ⟨before, after, htext, hbefore, hafter⟩ := exists_blanks_trim text.toList
    unfold parse at h
    split at h
    · rename_i a b c hparts
      split at h
      · rename_i major minor patch hmajor hminor hpatch
        cases h
        rw [splitAtEach_eq_three hparts] at htext
        exact ⟨before, a, b, c, after, htext, hbefore, hafter, part?_eq_some_iff.1 hmajor,
          part?_eq_some_iff.1 hminor, part?_eq_some_iff.1 hpatch⟩
      · cases h
    · cases h
  · rintro ⟨before, a, b, c, after, htext, hbefore, hafter, ha, hb, hc⟩
    -- Between the blanks there is none, and the points are the only ones.
    have hpoint : isBlank '.' = false := by decide
    have hsolid : Solid (a ++ '.' :: (b ++ '.' :: c)) :=
      solid_append.2 ⟨ha.solid, solid_cons.2 ⟨hpoint,
        solid_append.2 ⟨hb.solid, solid_cons.2 ⟨hpoint, hc.solid⟩⟩⟩⟩
    unfold parse
    rw [htext, trim_append hbefore hsolid hafter,
      splitAtEach_three ha.point_notMem hb.point_notMem hc.point_notMem]
    simp only [part?_eq_some_iff.2 ha, part?_eq_some_iff.2 hb, part?_eq_some_iff.2 hc]

/-- What is not read is reported with its text. -/
theorem parse_eq_error_iff {text : String} {e : ParseError} :
    parse text = .error e ↔ e = ⟨text⟩ ∧ ∀ v, ¬ Written text.toList v := by
  have hreported : ∀ e, parse text = .error e → e = ⟨text⟩ := by
    intro e h
    unfold parse at h
    split at h
    · split at h
      · cases h
      · exact (Except.error.inj h).symm
    · exact (Except.error.inj h).symm
  constructor
  · intro h
    refine ⟨hreported e h, ?_⟩
    intro v hv
    rw [parse_eq_ok_iff.2 hv] at h
    cases h
  · rintro ⟨rfl, hnone⟩
    cases hparse : parse text with
    | ok v => exact absurd (parse_eq_ok_iff.1 hparse) (hnone v)
    | error e => rw [hreported e hparse]

theorem toList_text (v : Firmware) :
    v.text.toList = Nat.toDigits 10 v.major.toNat ++ '.' :: (Nat.toDigits 10 v.minor.toNat
      ++ '.' :: Nat.toDigits 10 v.patch.toNat) := by
  simp [text]

/-- The text of a version is one of its texts. -/
theorem written_text (v : Firmware) : Written v.text.toList v := by
  have hpart : ∀ n : UInt8, PartOf (Nat.toDigits 10 n.toNat) n := fun n =>
    Or.inl (denotes_toDigits (by decide) (by decide) n.toNat)
  refine ⟨[], _, _, _, [], ?_, blanks_nil, blanks_nil, hpart v.major, hpart v.minor,
    hpart v.patch⟩
  rw [toList_text, List.nil_append, List.append_nil]

/-- The three numbers, the texts and the word of a version belong together: the texts read are
those of the grammar, text and word give the version back, and words are ordered as versions. -/
theorem forms_agree :
    (∀ text v, parse text = .ok v ↔ Written text.toList v)
      ∧ (∀ text e, parse text = .error e ↔ e = ⟨text⟩ ∧ ∀ v, ¬ Written text.toList v)
      ∧ (∀ v : Firmware, parse v.text = .ok v)
      ∧ (∀ v : Firmware, ofPacked v.packed = v)
      ∧ ∀ v w : Firmware, v.isBelow w = true ↔ v.packed < w.packed :=
  ⟨fun _ _ => parse_eq_ok_iff, fun _ _ => parse_eq_error_iff,
    fun v => parse_eq_ok_iff.2 (written_text v), ofPacked_packed, fun _ _ => isBelow_iff⟩

/-- A sign, zeros in front and blanks around are read; a part that is too large is not. -/
example : parse " +6.002.0\t" = .ok ⟨6, 2, 0⟩ ∧ parse "6.256.0" = .error ⟨"6.256.0"⟩ := by
  decide +kernel

end Firmware
end ServoLink
