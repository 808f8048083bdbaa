import Mathlib.Data.List.Basic
import ServoLink.Text.Whole

/-!
# Whole numbers in text — reading what was written

The digits of a number, in a base up to sixteen, read back as the number.
-/

namespace ServoLink
namespace Text

theorem digit?_digitChar {base d : Nat} (hbase : base ≤ 16) (hd : d < base) :
    digit? base d.digitChar = some d := by
  have hvalue : ∀ d < 16, ∀ base ≤ 16, d < base → digit? base d.digitChar = some d := by
    decide +kernel
  exact hvalue d (by omega) base hbase hd

/-- A digit of a smaller base is one of a larger base. -/
theorem digit?_eq_none_of_le {base larger : Nat} {c : Char} (hle : base ≤ larger)
    (hnone : digit? larger c = none) : digit? base c = none := by
  unfold digit? at hnone ⊢
  simp only [ite_eq_right_iff, reduceCtorEq, imp_false, Nat.not_lt] at hnone ⊢
  split_ifs at hnone ⊢ <;> omega

theorem digitsFrom?_append (base high : Nat) (cs ds : List Char) :
    digitsFrom? base high (cs ++ ds)
      = (digitsFrom? base high cs).bind fun n => digitsFrom? base n ds := by
  induction cs generalizing high with
  | nil => rfl
  | cons c rest ih =>
      simp only [List.cons_append, digitsFrom?]
      cases digit? base c with
      | none => rfl
      | some d => exact ih _

section Digits

variable {base : Nat}

theorem digitsFrom?_toDigits (hlow : 1 < base) (hhigh : base ≤ 16) (n : Nat) :
    digitsFrom? base 0 (Nat.toDigits base n) = some n := by
  induction n using Nat.strongRecOn with
  | ind n ih =>
      rw [Nat.toDigits_eq_if hlow]
      split
      · rename_i hlt
        simp [digitsFrom?, digit?_digitChar hhigh hlt]
      · -- The last digit comes off the end.
        have hmod : n % base < base := Nat.mod_lt n (by omega)
        rw [digitsFrom?_append, ih (n / base) (Nat.div_lt_self (by omega) hlow)]
        simp [digitsFrom?, digit?_digitChar hhigh hmod, Nat.div_add_mod']

theorem digits?_toDigits (hlow : 1 < base) (hhigh : base ≤ 16) (n : Nat) :
    digits? base (Nat.toDigits base n) = some n := by
  unfold digits?
  rw [if_neg (by simp), digitsFrom?_toDigits hlow hhigh]

theorem exists_digit_of_mem_toDigits (hlow : 1 < base) {n : Nat} {c : Char}
    (hc : c ∈ Nat.toDigits base n) : ∃ d < base, c = d.digitChar := by
  induction n using Nat.strongRecOn with
  | ind n ih =>
      rw [Nat.toDigits_eq_if hlow] at hc
      split at hc
      · rename_i hlt
        exact ⟨n, hlt, by simpa using hc⟩
      · rcases List.mem_append.1 hc with hfront | hlast
        · exact ih (n / base) (Nat.div_lt_self (by omega) hlow) hfront
        · exact ⟨n % base, Nat.mod_lt n (by omega), by simpa using hlast⟩

theorem isSome_digit?_of_mem_toDigits (hlow : 1 < base) (hhigh : base ≤ 16) {n : Nat} {c : Char}
    (hc : c ∈ Nat.toDigits base n) : (digit? base c).isSome := by
  obtain ⟨d, hd, rfl⟩ := exists_digit_of_mem_toDigits hlow hc
  rw [digit?_digitChar hhigh hd]
  rfl

/-- Only the digits of zero begin with a zero. -/
theorem eq_zero_of_toDigits_eq_cons (hlow : 1 < base) {n : Nat} {rest : List Char}
    (h : Nat.toDigits base n = '0' :: rest) : n = 0 := by
  induction n using Nat.strongRecOn generalizing rest with
  | ind n ih =>
      rw [Nat.toDigits_eq_if hlow] at h
      split at h
      · simpa using (List.cons.inj h).1
      · exfalso
        have hdigits : Nat.toDigits base (n / base) ≠ [] := Nat.toDigits_ne_nil
        obtain ⟨c, front, hfront⟩ := List.exists_cons_of_ne_nil hdigits
        rw [hfront, List.cons_append] at h
        obtain ⟨rfl, -⟩ := List.cons.inj h
        have hzero := ih (n / base) (Nat.div_lt_self (by omega) hlow) hfront
        have hpos : 0 < n / base := Nat.div_pos (by omega) (by omega)
        omega

end Digits

end Text
end ServoLink
