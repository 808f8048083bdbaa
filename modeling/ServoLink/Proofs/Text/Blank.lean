import Mathlib.Data.List.TakeWhile
import ServoLink.Text.Blank

/-!
# Blank characters — words, parts and the text between blanks

What the cutters of text do, said of the text itself: blanks around a text come off, a line is its
words with blanks between them, and a text cut at a separator is its parts joined by it.

* `Blanks`, `Solid` — nothing but blanks, and no blank;
* `exists_blanks_trim`, `trim_append` — the text between the blanks;
* `Spaced` — a text and its words; `words_eq_iff` — they are the words found;
* `splitAtEach_eq_three_iff` — a text of three parts.
-/

namespace ServoLink
namespace Text

/-- Nothing but blanks. -/
def Blanks (cs : List Char) : Prop := ∀ c ∈ cs, isBlank c = true

/-- No blank. -/
def Solid (cs : List Char) : Prop := ∀ c ∈ cs, isBlank c = false

section Blanks

variable {c : Char} {cs ds before core after : List Char}

theorem blanks_nil : Blanks [] := by
  rintro c ⟨⟩

theorem blanks_cons : Blanks (c :: cs) ↔ isBlank c = true ∧ Blanks cs := List.forall_mem_cons

theorem solid_cons : Solid (c :: cs) ↔ isBlank c = false ∧ Solid cs := List.forall_mem_cons

theorem solid_append : Solid (cs ++ ds) ↔ Solid cs ∧ Solid ds := List.forall_mem_append

theorem blanks_reverse : Blanks cs.reverse ↔ Blanks cs := by
  simp only [Blanks, List.mem_reverse]

theorem solid_reverse : Solid cs.reverse ↔ Solid cs := by
  simp only [Solid, List.mem_reverse]

/-! ## Around a text -/

theorem blanks_takeWhile (cs : List Char) : Blanks (cs.takeWhile isBlank) := fun _ hc =>
  List.mem_takeWhile_imp hc

/-- What is left of a text is the text without some blanks at either end. -/
theorem exists_blanks_trim (cs : List Char) :
    ∃ before after, cs = before ++ trim cs ++ after ∧ Blanks before ∧ Blanks after := by
  refine ⟨cs.takeWhile isBlank, ((cs.dropWhile isBlank).reverse.takeWhile isBlank).reverse, ?_,
    blanks_takeWhile cs, blanks_reverse.2 (blanks_takeWhile _)⟩
  calc cs
      = cs.takeWhile isBlank ++ (cs.dropWhile isBlank).reverse.reverse := by
        rw [List.reverse_reverse, List.takeWhile_append_dropWhile]
    _ = cs.takeWhile isBlank
        ++ ((cs.dropWhile isBlank).reverse.takeWhile isBlank
          ++ (cs.dropWhile isBlank).reverse.dropWhile isBlank).reverse := by
        rw [List.takeWhile_append_dropWhile]
    _ = _ := by rw [List.reverse_append, ← List.append_assoc, trim]

theorem dropWhile_blanks_append (h : Blanks before) :
    (before ++ cs).dropWhile isBlank = cs.dropWhile isBlank := by
  rw [List.dropWhile_append, List.dropWhile_eq_nil_iff.2 h]
  rfl

theorem dropWhile_solid (h : Solid core) : core.dropWhile isBlank = core := by
  cases core with
  | nil => rfl
  | cons c rest => simp [(solid_cons.1 h).1]

/-- Blanks around a text without blanks come off. -/
theorem trim_append (hbefore : Blanks before) (hcore : Solid core) (hafter : Blanks after) :
    trim (before ++ core ++ after) = core := by
  have hend : ((core ++ after).reverse.dropWhile isBlank).reverse = core := by
    rw [List.reverse_append, dropWhile_blanks_append (blanks_reverse.2 hafter),
      dropWhile_solid (solid_reverse.2 hcore), List.reverse_reverse]
  unfold trim
  rw [List.append_assoc, dropWhile_blanks_append hbefore]
  cases core with
  | nil =>
      rw [List.nil_append, List.dropWhile_eq_nil_iff.2 hafter]
      rfl
  | cons c rest =>
      -- The first character is no blank, so that nothing more comes off the front.
      rw [List.cons_append, List.dropWhile_cons_of_neg (by simp [(solid_cons.1 hcore).1])]
      exact hend

end Blanks

/-! ## Words -/

/-- A run of characters that are not blank. -/
structure IsWord (word : List Char) : Prop where
  ne_nil : word ≠ []
  solid : Solid word

/-- A text and its words: blanks stand between the words, and may stand around them. -/
inductive Spaced : List Char → List (List Char) → Prop where
  | blank {gap : List Char} (hgap : Blanks gap) : Spaced gap []
  | last {gap word : List Char} (hgap : Blanks gap) (hword : IsWord word) :
      Spaced (gap ++ word) [word]
  | cons {gap word rest : List Char} {c : Char} {words : List (List Char)} (hgap : Blanks gap)
      (hword : IsWord word) (hc : isBlank c = true) (hrest : Spaced (c :: rest) words) :
      Spaced (gap ++ word ++ c :: rest) (word :: words)

section Words

variable {c : Char} {gap cs : List Char} {ws : List (List Char)}

/-- One more blank in front. -/
theorem Spaced.pad (h : Spaced cs ws) (hc : isBlank c = true) : Spaced (c :: cs) ws := by
  cases h with
  | blank hgap => exact .blank (blanks_cons.2 ⟨hc, hgap⟩)
  | last hgap hword =>
      have hspaced := Spaced.last (blanks_cons.2 ⟨hc, hgap⟩) hword
      exact hspaced
  | cons hgap hword hblank hrest =>
      have hspaced := Spaced.cons (blanks_cons.2 ⟨hc, hgap⟩) hword hblank hrest
      exact hspaced

/-- A word before a text that begins with a blank. -/
theorem Spaced.word {word : List Char} (h : Spaced cs ws) (hword : IsWord word) (hgap : Blanks gap)
    (hne : gap ≠ []) : Spaced (word ++ gap ++ cs) (word :: ws) := by
  have hpadded : ∀ gap, Blanks gap → Spaced (gap ++ cs) ws := by
    intro gap hgap
    induction gap with
    | nil => exact h
    | cons c gap ih => exact (ih (blanks_cons.1 hgap).2).pad (blanks_cons.1 hgap).1
  obtain ⟨c, gap, rfl⟩ := List.exists_cons_of_ne_nil hne
  have hspaced := Spaced.cons blanks_nil hword (blanks_cons.1 hgap).1
    (hpadded (c :: gap) hgap)
  simpa using hspaced

theorem wordsFrom_solid {word : List Char} (h : Solid word) (run cs : List Char) :
    wordsFrom run (word ++ cs) = wordsFrom (word.reverse ++ run) cs := by
  induction word generalizing run with
  | nil => rfl
  | cons c word ih =>
      obtain ⟨hc, hword⟩ := solid_cons.1 h
      rw [List.cons_append, wordsFrom, hc, if_neg Bool.false_ne_true, ih hword]
      simp

theorem wordsFrom_blanks (h : Blanks gap) (cs : List Char) :
    wordsFrom [] (gap ++ cs) = wordsFrom [] cs := by
  induction gap with
  | nil => rfl
  | cons c gap ih =>
      obtain ⟨hc, hgap⟩ := blanks_cons.1 h
      rw [List.cons_append, wordsFrom, hc, if_pos rfl]
      exact ih hgap

/-- A text has the words that are found, after the run read so far. -/
theorem spaced_wordsFrom (cs : List Char) :
    Spaced cs (wordsFrom [] cs)
      ∧ ∀ run, IsWord run → Spaced (run.reverse ++ cs) (wordsFrom run cs) := by
  induction cs with
  | nil =>
      refine ⟨.blank blanks_nil, ?_⟩
      intro run hrun
      have hword : IsWord run.reverse := ⟨by simp [hrun.ne_nil], solid_reverse.2 hrun.solid⟩
      simpa [wordsFrom, hrun.ne_nil] using Spaced.last blanks_nil hword
  | cons c rest ih =>
      obtain ⟨hfresh, hrunning⟩ := ih
      by_cases hc : isBlank c = true
      · refine ⟨?_, ?_⟩
        · rw [wordsFrom, if_pos hc]
          exact hfresh.pad hc
        · intro run hrun
          have hword : IsWord run.reverse := ⟨by simp [hrun.ne_nil], solid_reverse.2 hrun.solid⟩
          rw [wordsFrom, if_pos hc, if_neg (by simp [hrun.ne_nil])]
          have hspaced := Spaced.cons blanks_nil hword hc (hfresh.pad hc)
          exact hspaced
      · have hsolid : isBlank c = false := eq_false_of_ne_true hc
        refine ⟨?_, ?_⟩
        · rw [wordsFrom, if_neg hc]
          exact hrunning [c] ⟨by simp, solid_cons.2 ⟨hsolid, by rintro d ⟨⟩⟩⟩
        · intro run hrun
          rw [wordsFrom, if_neg hc]
          simpa using hrunning (c :: run) ⟨by simp, solid_cons.2 ⟨hsolid, hrun.solid⟩⟩

theorem Spaced.wordsFrom_eq (h : Spaced cs ws) : wordsFrom [] cs = ws := by
  induction h with
  | blank hgap => simpa [wordsFrom] using wordsFrom_blanks hgap []
  | last hgap hword =>
      have hrun := wordsFrom_solid hword.solid [] []
      rw [List.append_nil] at hrun
      rw [wordsFrom_blanks hgap, hrun]
      simp [wordsFrom, hword.ne_nil]
  | cons hgap hword hc hrest ih =>
      rw [wordsFrom, if_pos hc, if_pos (by rfl)] at ih
      rw [List.append_assoc, wordsFrom_blanks hgap, wordsFrom_solid hword.solid, wordsFrom,
        if_pos hc, if_neg (by simp [hword.ne_nil]), ih]
      simp

/-- The words of a line are the words that blanks set apart. -/
theorem words_eq_iff {line : String} : words line = ws ↔ Spaced line.toList ws := by
  constructor
  · rintro rfl
    exact (spaced_wordsFrom line.toList).1
  · exact Spaced.wordsFrom_eq

end Words

/-! ## Parts -/

theorem partsFrom_eq (separator : Char) (part cs : List Char) :
    partsFrom separator part cs = cs.splitOnPPrepend (· == separator) part := by
  induction cs generalizing part with
  | nil => rw [partsFrom, List.splitOnPPrepend_nil]
  | cons c rest ih =>
      rw [partsFrom, List.splitOnPPrepend_cons_eq_if, List.splitOnP_eq_splitOnPPrepend, ih, ih]
      simp

theorem splitAtEach_eq (separator : Char) (cs : List Char) :
    splitAtEach separator cs = cs.splitOn separator := by
  rw [splitAtEach, partsFrom_eq, List.splitOn_eq_splitOnP, List.splitOnP_eq_splitOnPPrepend]

/-- A text that the separator cuts into three parts. -/
theorem splitAtEach_eq_three {separator : Char} {cs a b c : List Char}
    (h : splitAtEach separator cs = [a, b, c]) :
    cs = a ++ separator :: (b ++ separator :: c) := by
  rw [splitAtEach_eq] at h
  have hjoined : [separator].intercalate (cs.splitOn separator) = cs :=
    List.intercalate_splitOn separator
  rw [h] at hjoined
  simpa [List.intercalate] using hjoined.symm

/-- Three parts without the separator are the parts it cuts. -/
theorem splitAtEach_three {separator : Char} {a b c : List Char} (ha : separator ∉ a)
    (hb : separator ∉ b) (hc : separator ∉ c) :
    splitAtEach separator (a ++ separator :: (b ++ separator :: c)) = [a, b, c] := by
  rw [splitAtEach_eq, List.splitOn_append_cons_self_of_not_mem ha,
    List.splitOn_append_cons_self_of_not_mem hb, List.splitOn_eq_singleton hc]

end Text
end ServoLink
