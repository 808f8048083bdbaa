import ServoLink.Console.Command
import ServoLink.Proofs.Text.Blank
import ServoLink.Proofs.Text.Numeral

/-!
# Console commands — the lines that write a register

A line writes a register if its words are `write`, an index, a subindex and a value, each a whole
number in its range.  Words after these are passed over.

* `Spells` — the whole number of a word; `number_eq_ok_iff` — it is the one read;
* `Typed` — the lines of a write; `parse_eq_write_iff` — they are the lines read as one;
* `Numeral` — the plain ways to write a number, and `typed_of_numerals` — a line of them.
-/

namespace ServoLink
namespace Console

open Text

/-! ## Numbers -/

/-- The word is the number in decimal, or in hexadecimal after `0x`, with an optional sign. -/
def Spells (word : List Char) (n : Int) : Prop :=
  DenotesInteger 10 word n
    ∨ ∃ digits, (word = '0' :: 'x' :: digits ∨ word = '0' :: 'X' :: digits)
      ∧ DenotesInteger 16 digits n

/-- The number has at most 64 bits, one of them for the sign. -/
def Fits64 (n : Int) : Prop := Int64.minValue.toInt ≤ n ∧ n ≤ Int64.maxValue.toInt

section Numbers

variable {base : Nat} {x : Char} {word digits : List Char} {n : Int}

theorem signed64?_eq_some_iff (hbase : base ≤ 16) :
    Command.signed64? base word = some n ↔ DenotesInteger base word n ∧ Fits64 n := by
  unfold Command.signed64? integerIn? Fits64
  rw [Option.filter_eq_some_iff, integer?_eq_some_iff hbase]
  simp

/-- A decimal number does not go on with a character that is no digit. -/
theorem not_denotesInteger_prefixed (hx : digit? 16 x = none) :
    ¬ DenotesInteger 10 ('0' :: x :: digits) n := by
  -- Without a sign `x` would be a digit; with one, the text would begin with the sign.
  have hdigits : ∀ m, ¬ Denotes 10 ('0' :: x :: digits) m := by
    intro m hm
    obtain ⟨d, hd⟩ := hm.isDigit (List.mem_cons_of_mem _ List.mem_cons_self)
    exact not_isDigit (by decide) hx hd
  rintro (⟨m, hm | ⟨rest, hsign, -⟩, -⟩ | ⟨rest, m, hsign, -⟩)
  · exact hdigits m hm
  · exact absurd (List.cons.inj hsign).1 (by decide)
  · exact absurd (List.cons.inj hsign).1 (by decide)

theorem spells_prefixed (hx : x = 'x' ∨ x = 'X') :
    Spells ('0' :: x :: digits) n ↔ DenotesInteger 16 digits n := by
  have hdecimal : ¬ DenotesInteger 10 ('0' :: x :: digits) n :=
    not_denotesInteger_prefixed (by rcases hx with rfl | rfl <;> decide)
  unfold Spells
  constructor
  · rintro (h | ⟨rest, hword | hword, h⟩)
    · exact absurd h hdecimal
    · cases hword
      exact h
    · cases hword
      exact h
  · intro h
    exact Or.inr ⟨digits, by rcases hx with rfl | rfl <;> simp, h⟩

theorem spells_unprefixed (h : ∀ digits, word ≠ '0' :: 'x' :: digits ∧ word ≠ '0' :: 'X' :: digits) :
    Spells word n ↔ DenotesInteger 10 word n := by
  unfold Spells
  constructor
  · rintro (hdecimal | ⟨digits, hword | hword, -⟩)
    · exact hdecimal
    · exact absurd hword (h digits).1
    · exact absurd hword (h digits).2
  · exact Or.inl

theorem number?_eq_some_iff : Command.number? word = some n ↔ Spells word n ∧ Fits64 n := by
  unfold Command.number?
  split
  · rw [signed64?_eq_some_iff (by decide), spells_prefixed (Or.inl rfl)]
  · rw [signed64?_eq_some_iff (by decide), spells_prefixed (Or.inr rfl)]
  · rename_i hlower hupper
    rw [signed64?_eq_some_iff (by decide),
      spells_unprefixed fun digits => ⟨hlower digits, hupper digits⟩]

/-- A word is read as a number if and only if it spells that number and it fits. -/
theorem number_eq_ok_iff : Command.number word = .ok n ↔ Spells word n ∧ Fits64 n := by
  rw [← number?_eq_some_iff]
  unfold Command.number
  cases Command.number? word <;> simp

end Numbers

/-! ## Addresses -/

section Addresses

variable {index subindex : List Char} {a : Register.Address}

theorem fits64_of_lt {n : Nat} (h : n < 65536) : Fits64 n := by
  have hmin : Int64.minValue.toInt ≤ 0 := by decide
  have hmax : 65536 ≤ Int64.maxValue.toInt := by decide
  unfold Fits64
  omega

/-- A word is read as a number below a bound if and only if it spells that number. -/
theorem below_eq_ok_iff {bound n : Nat} {outside : String → CommandError} {word : List Char}
    (hbound : bound ≤ 65536) :
    Command.below bound outside word = .ok n ↔ Spells word n ∧ n < bound := by
  unfold Command.below
  constructor
  · intro h
    cases hnumber : Command.number word with
    | error e =>
        rw [hnumber] at h
        cases h
    | ok m =>
        rw [hnumber] at h
        simp only [bind, Except.bind] at h
        split at h
        · cases h
        · rename_i hrange
          obtain rfl := Except.ok.inj h
          simp only [Bool.or_eq_true, decide_eq_true_eq, not_or, Int.not_lt, Int.not_le] at hrange
          have hm : ((m.toNat : Nat) : Int) = m := Int.toNat_of_nonneg hrange.1
          rw [hm]
          exact ⟨(number_eq_ok_iff.1 hnumber).1, by omega⟩
  · rintro ⟨hspells, hn⟩
    -- A number below the bound fits a signed word, so it is not refused before.
    have hnumber := number_eq_ok_iff.2 ⟨hspells, fits64_of_lt (by omega)⟩
    have hrange : ¬ (decide ((n : Int) < 0) || decide ((bound : Int) ≤ n)) = true := by
      simp only [Bool.or_eq_true, decide_eq_true_eq, not_or]
      omega
    rw [hnumber]
    simp only [bind, Except.bind, if_neg hrange]
    rfl

/-- An address is read if and only if the words spell its numbers. -/
theorem address_eq_ok_iff : Command.address index subindex = .ok a
    ↔ Spells index a.index.toNat ∧ Spells subindex a.subindex.toNat := by
  unfold Command.address
  constructor
  · intro h
    cases hi : Command.below UInt16.size .indexOutOfRange index with
    | error e =>
        rw [hi] at h
        cases h
    | ok i =>
        cases hs : Command.below UInt8.size .subindexOutOfRange subindex with
        | error e =>
            rw [hi, hs] at h
            cases h
        | ok s =>
            rw [hi, hs] at h
            obtain rfl := Except.ok.inj h
            obtain ⟨hindex, hilt⟩ := (below_eq_ok_iff (by decide)).1 hi
            obtain ⟨hsubindex, hslt⟩ := (below_eq_ok_iff (by decide)).1 hs
            rw [UInt16.toNat_ofNat_of_lt' hilt, UInt8.toNat_ofNat_of_lt' hslt]
            exact ⟨hindex, hsubindex⟩
  · rintro ⟨hindex, hsubindex⟩
    have hi : Command.below UInt16.size .indexOutOfRange index = .ok a.index.toNat :=
      (below_eq_ok_iff (by decide)).2 ⟨hindex, a.index.toNat_lt⟩
    have hs : Command.below UInt8.size .subindexOutOfRange subindex = .ok a.subindex.toNat :=
      (below_eq_ok_iff (by decide)).2 ⟨hsubindex, a.subindex.toNat_lt⟩
    rw [hi, hs]
    simp only [bind, Except.bind, UInt16.ofNat_toNat, UInt8.ofNat_toNat]
    rfl

end Addresses

/-! ## Lines -/

/-- The first word of the line. -/
def Begins (line verb : String) : Prop :=
  ∃ arguments, Spaced line.toList (verb.toList :: arguments)

/-- The line is a write of the number to the register. -/
def Typed (line : String) (a : Register.Address) (n : Int) : Prop :=
  ∃ index subindex value rest,
    Spaced line.toList ("write".toList :: index :: subindex :: value :: rest)
      ∧ Spells index a.index.toNat ∧ Spells subindex a.subindex.toNat ∧ Spells value n ∧ Fits64 n

/-- The words a command is typed with first. -/
def Command.verbs : Command → List String
  | enable => ["enable"]
  | disable => ["disable"]
  | home => ["home"]
  | move _ => ["move"]
  | stop => ["stop"]
  | acknowledge => ["ack"]
  | reset => ["reset"]
  | read _ => ["read"]
  | write _ _ => ["write"]
  | status => ["status"]
  | quit => ["quit", "exit"]

section Lines

variable {line verb : String} {arguments : List (List Char)} {c : Command}
variable {a : Register.Address} {n : Int}

theorem bind_eq_ok_iff {α β : Type} {first : Except CommandError α}
    {next : α → Except CommandError β} {b : β} :
    first >>= next = .ok b ↔ ∃ a, first = .ok a ∧ next a = .ok b := by
  cases first with
  | error e => simp [bind, Except.bind]
  | ok a => simp [bind, Except.bind]

theorem argument_eq_ok_iff {name : String} {position : Nat} {word : List Char} :
    Command.argument verb name arguments position = .ok word
      ↔ arguments[position]? = some word := by
  unfold Command.argument
  cases arguments[position]? <;> simp

/-- What the words after `write` make. -/
theorem ofWords_write_eq_ok_iff : Command.ofWords "write" arguments = .ok c
    ↔ ∃ index subindex value rest a n, arguments = index :: subindex :: value :: rest
      ∧ Command.address index subindex = .ok a ∧ Command.number value = .ok n
      ∧ c = .write a n := by
  have hwrite : Command.ofWords "write" arguments = (do
      let index ← Command.argument "write" "index" arguments 0
      let subindex ← Command.argument "write" "sub" arguments 1
      let a ← Command.address index subindex
      pure (.write a (← Command.number (← Command.argument "write" "value" arguments 2)))) := rfl
  rw [hwrite]
  simp only [bind_eq_ok_iff, argument_eq_ok_iff]
  constructor
  · rintro ⟨index, hi, subindex, hs, a, ha, value, hv, n, hn, hc⟩
    match arguments, hi, hs, hv with
    | index :: subindex :: value :: rest, rfl, rfl, rfl =>
        exact ⟨index, subindex, value, rest, a, n, rfl, ha, hn, (Except.ok.inj hc).symm⟩
  · rintro ⟨index, subindex, value, rest, a, n, rfl, ha, hn, rfl⟩
    exact ⟨index, rfl, subindex, rfl, a, ha, value, rfl, n, hn, rfl⟩

/-- A command comes from one of its verbs. -/
theorem mem_verbs_of_ofWords (h : Command.ofWords verb arguments = .ok c) : verb ∈ c.verbs := by
  unfold Command.ofWords at h
  dsimp only at h
  split at h
  -- A verb without arguments is the command itself; no other verb is known.
  any_goals cases h <;> simp [Command.verbs]
  · -- A position in millimetres.
    obtain ⟨word, -, h⟩ := bind_eq_ok_iff.1 h
    split at h
    · cases h
      simp [Command.verbs]
    · cases h
  · -- A read.
    obtain ⟨index, -, h⟩ := bind_eq_ok_iff.1 h
    obtain ⟨subindex, -, h⟩ := bind_eq_ok_iff.1 h
    obtain ⟨address, -, h⟩ := bind_eq_ok_iff.1 h
    cases h
    simp [Command.verbs]
  · obtain ⟨-, -, -, -, a, n, -, -, -, rfl⟩ := ofWords_write_eq_ok_iff.1 h
    simp [Command.verbs]

/-- The command of a line whose words are known. -/
theorem parse_of_spaced {word : List Char} (h : Spaced line.toList (word :: arguments)) :
    Command.parse line = some <$> Command.ofWords (String.ofList word) arguments := by
  unfold Command.parse
  rw [words_eq_iff.2 h]

/-- A command other than none comes from the words of its line. -/
theorem exists_words_of_parse (h : Command.parse line = .ok (some c)) :
    ∃ word arguments, Spaced line.toList (word :: arguments)
      ∧ Command.ofWords (String.ofList word) arguments = .ok c := by
  have hspaced := words_eq_iff.1 (rfl : words line = words line)
  cases hwords : words line with
  | nil =>
      unfold Command.parse at h
      rw [hwords] at h
      cases h
  | cons word arguments =>
      rw [hwords] at hspaced
      rw [parse_of_spaced hspaced] at h
      refine ⟨word, arguments, hspaced, ?_⟩
      cases hc : Command.ofWords (String.ofList word) arguments with
      | error e =>
          rw [hc] at h
          cases h
      | ok c =>
          rw [hc] at h
          cases h
          rfl

/-- The line of a command begins with one of its verbs. -/
theorem begins_of_parse (h : Command.parse line = .ok (some c)) :
    ∃ verb ∈ c.verbs, Begins line verb := by
  obtain ⟨word, arguments, hwords, hc⟩ := exists_words_of_parse h
  refine ⟨_, mem_verbs_of_ofWords hc, arguments, ?_⟩
  rw [String.toList_ofList]
  exact hwords

/-- A line that begins with `write` is a write or nothing. -/
theorem parse_of_begins (h : Begins line "write") :
    (∃ a n, Command.parse line = .ok (some (.write a n))) ∨ ∃ e, Command.parse line = .error e := by
  obtain ⟨arguments, hwords⟩ := h
  rw [parse_of_spaced hwords, String.ofList_toList]
  cases hc : Command.ofWords "write" arguments with
  | error e => exact Or.inr ⟨e, rfl⟩
  | ok c =>
      obtain ⟨-, -, -, -, a, n, -, -, -, rfl⟩ := ofWords_write_eq_ok_iff.1 hc
      exact Or.inl ⟨a, n, rfl⟩

/-- The lines that are read as a write are those that are typed as one. -/
theorem parse_eq_write_iff :
    Command.parse line = .ok (some (.write a n)) ↔ Typed line a n := by
  constructor
  · intro h
    obtain ⟨word, arguments, hwords, hc⟩ := exists_words_of_parse h
    have hverb : String.ofList word = "write" := List.mem_singleton.1 (mem_verbs_of_ofWords hc)
    rw [hverb] at hc
    obtain ⟨index, subindex, value, rest, a', n', rfl, ha, hn, heq⟩ :=
      ofWords_write_eq_ok_iff.1 hc
    cases heq
    rw [← String.toList_ofList (l := word), hverb] at hwords
    obtain ⟨hindex, hsubindex⟩ := address_eq_ok_iff.1 ha
    exact ⟨index, subindex, value, rest, hwords, hindex, hsubindex, number_eq_ok_iff.1 hn⟩
  · rintro ⟨index, subindex, value, rest, hwords, hindex, hsubindex, hvalue⟩
    rw [parse_of_spaced hwords, String.ofList_toList,
      ofWords_write_eq_ok_iff.2 ⟨index, subindex, value, rest, a, n, rfl,
        address_eq_ok_iff.2 ⟨hindex, hsubindex⟩, number_eq_ok_iff.2 hvalue, rfl⟩]
    rfl

end Lines

/-! ## Plain numbers -/

/-- The plain ways to write a number: its decimal text, or `0x` and the hexadecimal digits of a
number that is not negative, each in either case. -/
inductive Numeral (n : Int) : List Char → Prop where
  | decimal : Numeral n (toString n).toList
  | hexadecimal {x : Char} {digits : List Char} (hn : 0 ≤ n) (hx : x = 'x' ∨ x = 'X')
      (hdigits : List.Forall₂ (fun c p => c = p ∨ c = p.toUpper) digits
        (Nat.toDigits 16 n.toNat)) :
      Numeral n ('0' :: x :: digits)

section Numerals

variable {n : Int} {word : List Char}

theorem Spells.isWord (h : Spells word n) : IsWord word := by
  rcases h with hdecimal | ⟨digits, hprefix, hdigits⟩
  · exact hdecimal.isWord (by decide)
  · have hsolid := (hdigits.isWord (by decide)).solid
    rcases hprefix with rfl | rfl
    · exact ⟨by simp, solid_cons.2 ⟨by decide, solid_cons.2 ⟨by decide, hsolid⟩⟩⟩
    · exact ⟨by simp, solid_cons.2 ⟨by decide, solid_cons.2 ⟨by decide, hsolid⟩⟩⟩

theorem denotesInteger_toString (n : Int) : DenotesInteger 10 (toString n).toList n := by
  have hdigits : ∀ m, Denotes 10 (Nat.toDigits 10 m) m := denotes_toDigits (by decide) (by decide)
  cases n with
  | ofNat m =>
      have htext : (toString (Int.ofNat m)).toList = Nat.toDigits 10 m := by
        show (Nat.repr m).toList = _
        simp
      rw [htext]
      exact Or.inl ⟨m, Or.inl (hdigits m), rfl⟩
  | negSucc m =>
      have htext : (toString (Int.negSucc m)).toList = '-' :: Nat.toDigits 10 (m + 1) := by
        show ("-" ++ Nat.repr (m + 1)).toList = _
        simp
      rw [htext]
      exact Or.inr ⟨_, m + 1, rfl, hdigits (m + 1), rfl⟩

/-- A number that is written plainly is spelled. -/
theorem Numeral.spells (h : Numeral n word) : Spells word n := by
  cases h with
  | decimal => exact Or.inl (denotesInteger_toString n)
  | @hexadecimal x digits hn hx hdigits =>
      have hplain : Denotes 16 (Nat.toDigits 16 n.toNat) n.toNat :=
        denotes_toDigits (by decide) (by decide) _
      rw [spells_prefixed hx]
      exact Or.inl ⟨n.toNat, Or.inl (hplain.recased (by decide) hdigits),
        (Int.toNat_of_nonneg hn).symm⟩

/-- The verb and three plain numbers, with blanks between them, are a write of these numbers. -/
theorem typed_of_numerals {a : Register.Address} {index subindex value : List Char}
    {first second third : List Char} (hn : Fits64 n) (hindex : Numeral a.index.toNat index)
    (hsubindex : Numeral a.subindex.toNat subindex) (hvalue : Numeral n value)
    (hgaps : ∀ gap ∈ [first, second, third], Blanks gap ∧ gap ≠ []) :
    Typed (String.ofList ("write".toList ++ first ++ (index ++ second ++ (subindex ++ third
      ++ value)))) a n := by
  simp only [List.forall_mem_cons] at hgaps
  obtain ⟨⟨hfirst, hfirst'⟩, ⟨hsecond, hsecond'⟩, ⟨hthird, hthird'⟩, -⟩ := hgaps
  have hverb : IsWord "write".toList := ⟨by decide, by simp [Solid, isBlank]⟩
  -- The words are put in front of the last one, with the blanks before each.
  have hlast : Spaced value [value] := .last blanks_nil hvalue.spells.isWord
  refine ⟨index, subindex, value, [], ?_, hindex.spells, hsubindex.spells, hvalue.spells, hn⟩
  rw [String.toList_ofList]
  exact ((hlast.word hsubindex.spells.isWord hthird hthird').word hindex.spells.isWord hsecond
    hsecond').word hverb hfirst hfirst'

end Numerals

end Console
end ServoLink
