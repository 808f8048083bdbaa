import Mathlib.Data.List.Forall2
import ServoLink.Proofs.Text.Blank
import ServoLink.Proofs.Text.Whole

/-!
# Numerals — the texts that denote a whole number

The grammar of whole numbers, apart from how they are read: digits in either case, the highest
first, with leading zeros allowed, after a plus sign, a minus sign or none.  The readers accept
exactly these texts, and give the number denoted.

* `IsDigit`, `Denotes` — digits and what they denote, in a base up to sixteen;
* `DenotesNatural`, `DenotesInteger` — the same after a sign;
* `natural?_eq_some_iff`, `integer?_eq_some_iff` — what the readers accept.
-/

namespace ServoLink
namespace Text

/-! ## Digits -/

/-- The character is the digit `d` of the base, in lower or upper case. -/
def IsDigit (base : Nat) (c : Char) (d : Nat) : Prop :=
  d < base ∧ (c = d.digitChar ∨ c = d.digitChar.toUpper)

/-- The number that digits denote, the highest first. -/
def valueOf (base : Nat) (ds : List Nat) : Nat := ds.foldl (fun high d => high * base + d) 0

/-- At least one digit, and the number they denote. -/
def Denotes (base : Nat) (cs : List Char) (n : Nat) : Prop :=
  cs ≠ [] ∧ ∃ ds, List.Forall₂ (IsDigit base) cs ds ∧ n = valueOf base ds

/-- Digits after an optional plus sign. -/
def DenotesNatural (base : Nat) (cs : List Char) (n : Nat) : Prop :=
  Denotes base cs n ∨ ∃ digits, cs = '+' :: digits ∧ Denotes base digits n

/-- Digits after an optional sign. -/
def DenotesInteger (base : Nat) (cs : List Char) (n : Int) : Prop :=
  (∃ m : Nat, DenotesNatural base cs m ∧ n = m)
    ∨ ∃ digits, ∃ m : Nat, cs = '-' :: digits ∧ Denotes base digits m ∧ n = -m

section Digits

variable {base d n : Nat} {c : Char} {cs : List Char}

theorem digit?_of_isDigit (hbase : base ≤ 16) (h : IsDigit base c d) : digit? base c = some d := by
  have hupper : ∀ d < 16, ∀ base ≤ 16, d < base → digit? base d.digitChar.toUpper = some d := by
    decide +kernel
  obtain ⟨hd, rfl | rfl⟩ := h
  · exact digit?_digitChar hbase hd
  · exact hupper d (by omega) base hbase hd

theorem lt_of_digit? (h : digit? base c = some d) : d < base := by
  unfold digit? at h
  simp only [Option.ite_none_right_eq_some, Option.some.injEq] at h
  omega

/-- A digit of a base up to sixteen is an ASCII character, and a digit of base sixteen. -/
theorem ascii_of_digit? (hbase : base ≤ 16) (h : digit? base c = some d) :
    c.toNat < 128 ∧ digit? 16 c = some d := by
  unfold digit? at h ⊢
  simp only [Option.ite_none_right_eq_some, Option.some.injEq] at h ⊢
  split_ifs at h ⊢ <;> simp at * <;> omega

theorem isDigit_of_digit? (hbase : base ≤ 16) (h : digit? base c = some d) : IsDigit base c d := by
  have htable : ∀ n < 128, ∀ d < 16, digit? 16 (Char.ofNat n) = some d →
      Char.ofNat n = d.digitChar ∨ Char.ofNat n = d.digitChar.toUpper := by decide +kernel
  obtain ⟨hascii, hsixteen⟩ := ascii_of_digit? hbase h
  have hd := lt_of_digit? h
  refine ⟨hd, ?_⟩
  rw [← Char.ofNat_toNat c] at hsixteen ⊢
  exact htable c.toNat hascii d (by omega) hsixteen

theorem digitsFrom?_eq_some_iff (hbase : base ≤ 16) {high : Nat} :
    digitsFrom? base high cs = some n ↔ ∃ ds, List.Forall₂ (IsDigit base) cs ds
      ∧ n = ds.foldl (fun high d => high * base + d) high := by
  induction cs generalizing high with
  | nil => simp [digitsFrom?, eq_comm]
  | cons c rest ih =>
      constructor
      · intro h
        obtain ⟨d, hd, hrest⟩ := Option.bind_eq_some_iff.1 h
        obtain ⟨ds, hds, rfl⟩ := ih.1 hrest
        exact ⟨d :: ds, .cons (isDigit_of_digit? hbase hd) hds, rfl⟩
      · rintro ⟨_ | ⟨d, ds⟩, hds, rfl⟩
        · cases hds
        · obtain ⟨hd, hds⟩ := List.forall₂_cons.1 hds
          exact Option.bind_eq_some_iff.2
            ⟨d, digit?_of_isDigit hbase hd, ih.2 ⟨ds, hds, rfl⟩⟩

theorem digits?_eq_some_iff (hbase : base ≤ 16) : digits? base cs = some n ↔ Denotes base cs n := by
  unfold digits? Denotes valueOf
  cases cs with
  | nil => simp
  | cons c rest => simp [digitsFrom?_eq_some_iff hbase]

theorem Denotes.isDigit (h : Denotes base cs n) (hc : c ∈ cs) : ∃ d, IsDigit base c d := by
  obtain ⟨-, ds, hds, -⟩ := h
  induction hds with
  | nil => cases hc
  | @cons first d rest ds hfirst _ ih =>
      rcases List.mem_cons.1 hc with rfl | hrest
      · exact ⟨d, hfirst⟩
      · exact ih hrest

theorem not_isBlank_of_isDigit (hbase : base ≤ 16) (h : IsDigit base c d) : isBlank c = false := by
  have hplain : ∀ d < 16, isBlank d.digitChar = false ∧ isBlank d.digitChar.toUpper = false := by
    decide +kernel
  obtain ⟨hd, rfl | rfl⟩ := h
  · exact (hplain d (by omega)).1
  · exact (hplain d (by omega)).2

theorem IsDigit.toUpper (hbase : base ≤ 16) (h : IsDigit base c d) : IsDigit base c.toUpper d := by
  have hupper : ∀ d < 16, d.digitChar.toUpper.toUpper = d.digitChar.toUpper := by decide +kernel
  obtain ⟨hd, rfl | rfl⟩ := h
  · exact ⟨hd, Or.inr rfl⟩
  · exact ⟨hd, Or.inr (hupper d (by omega))⟩

theorem not_isDigit (hbase : base ≤ 16) (hc : digit? 16 c = none) : ¬ IsDigit base c d := by
  intro h
  rw [(ascii_of_digit? hbase (digit?_of_isDigit hbase h)).2] at hc
  cases hc

/-- Digits are a word. -/
theorem Denotes.isWord (hbase : base ≤ 16) (h : Denotes base cs n) : IsWord cs := by
  refine ⟨h.1, ?_⟩
  intro c hc
  obtain ⟨d, hd⟩ := h.isDigit hc
  exact not_isBlank_of_isDigit hbase hd

/-- The case of the digits does not matter. -/
theorem Denotes.recased (hbase : base ≤ 16) {plain : List Char} (h : Denotes base plain n)
    (hcs : List.Forall₂ (fun c p => c = p ∨ c = p.toUpper) cs plain) : Denotes base cs n := by
  obtain ⟨hne, ds, hds, hn⟩ := h
  refine ⟨?_, ds, ?_, hn⟩
  · rintro rfl
    exact hne (List.forall₂_nil_left_iff.1 hcs)
  · -- Digit by digit, along the plain text.
    clear hne hn
    induction hcs generalizing ds with
    | nil => exact hds
    | @cons c p cs plain hc _ ih =>
        cases hds with
        | @cons _ d _ ds hp hrest =>
            refine .cons ?_ (ih ds hrest)
            rcases hc with rfl | rfl
            · exact hp
            · exact hp.toUpper hbase

/-- The digits of a number denote it. -/
theorem denotes_toDigits (hlow : 1 < base) (hhigh : base ≤ 16) (n : Nat) :
    Denotes base (Nat.toDigits base n) n :=
  (digits?_eq_some_iff hhigh).1 (digits?_toDigits hlow hhigh n)

/-! ## Signs -/

theorem natural?_eq_some_iff (hbase : base ≤ 16) :
    natural? base cs = some n ↔ DenotesNatural base cs n := by
  unfold DenotesNatural
  cases cs with
  | nil => simp [natural?, digits?_eq_some_iff hbase]
  | cons c rest =>
      by_cases hplus : c = '+'
      · subst hplus
        have hsign : ¬ Denotes base ('+' :: rest) n := fun h =>
          (h.isDigit List.mem_cons_self).elim fun d => not_isDigit hbase (by decide)
        simp [natural?, digits?_eq_some_iff hbase, hsign]
      · have hread : natural? base (c :: rest) = digits? base (c :: rest) := by
          unfold natural?
          split
          · rename_i heq
            exact absurd (List.cons.inj heq).1 hplus
          · rfl
        simp [hread, digits?_eq_some_iff hbase, hplus]

theorem DenotesNatural.isWord (hbase : base ≤ 16) (h : DenotesNatural base cs n) :
    IsWord cs := by
  rcases h with hdigits | ⟨digits, rfl, hdigits⟩
  · exact hdigits.isWord hbase
  · exact ⟨by simp, solid_cons.2 ⟨by decide, (hdigits.isWord hbase).solid⟩⟩

theorem DenotesInteger.isWord (hbase : base ≤ 16) {n : Int} (h : DenotesInteger base cs n) :
    IsWord cs := by
  rcases h with ⟨m, hm, -⟩ | ⟨digits, m, rfl, hm, -⟩
  · exact hm.isWord hbase
  · exact ⟨by simp, solid_cons.2 ⟨by decide, (hm.isWord hbase).solid⟩⟩

/-- No number without a minus sign begins with one. -/
theorem not_denotesNatural_minus (hbase : base ≤ 16) : ¬ DenotesNatural base ('-' :: cs) n := by
  rintro (hdigits | ⟨digits, hsign, -⟩)
  · obtain ⟨d, hd⟩ := hdigits.isDigit List.mem_cons_self
    exact not_isDigit hbase (by decide) hd
  · cases hsign

theorem integer?_eq_some_iff (hbase : base ≤ 16) {n : Int} :
    integer? base cs = some n ↔ DenotesInteger base cs n := by
  unfold DenotesInteger
  by_cases hminus : ∃ rest, cs = '-' :: rest
  · obtain ⟨rest, rfl⟩ := hminus
    have hread : integer? base ('-' :: rest) =
        (digits? base rest).map fun m : Nat => -(m : Int) := by
      cases hdigits : digits? base rest <;> simp [integer?, hdigits]
    rw [hread, Option.map_eq_some_iff]
    constructor
    · rintro ⟨m, hm, rfl⟩
      exact Or.inr ⟨rest, m, rfl, (digits?_eq_some_iff hbase).1 hm, rfl⟩
    · rintro (⟨m, hm, -⟩ | ⟨digits, m, hsign, hm, rfl⟩)
      · exact absurd hm (not_denotesNatural_minus hbase)
      · obtain rfl := (List.cons.inj hsign).2
        exact ⟨m, (digits?_eq_some_iff hbase).2 hm, rfl⟩
  · have hread : integer? base cs = (natural? base cs).map Int.ofNat := by
      unfold integer?
      split
      · rename_i rest
        exact absurd ⟨rest, rfl⟩ hminus
      · rfl
    rw [hread, Option.map_eq_some_iff]
    constructor
    · rintro ⟨m, hm, rfl⟩
      exact Or.inl ⟨m, (natural?_eq_some_iff hbase).1 hm, rfl⟩
    · rintro (⟨m, hm, rfl⟩ | ⟨digits, m, hsign, -⟩)
      · exact ⟨m, (natural?_eq_some_iff hbase).2 hm, rfl⟩
      · exact absurd ⟨digits, hsign⟩ hminus

end Digits

end Text
end ServoLink
