import Mathlib.Data.List.TakeWhile
import ServoLink.Net.Address
import ServoLink.Proofs.Text.Whole
import ServoLink.Proofs.Wire.Field

/-!
# Network addresses — their text reads back

The text of an address denotes that address: four parts, eight groups with or without a run of zero
groups left out, and eight groups that embed a four-part address.

* `takeDigits_append`, `number?_toDigits` — a number up to something that is no digit of its base;
* `v4?_v4Text` — four parts, and what may follow them;
* `readGroups_joined` — groups up to something that no group continues;
* `exists_zeros_of_longestZeros` — the run that is left out consists of zero groups;
* `Ip.parse?_text` — the round trip.
-/

namespace ServoLink
namespace Net

open Text

/-! ## Numbers -/

/-- What follows does not go on with a digit of the base. -/
def Closed (base : Nat) (rest : List Char) : Prop := ∀ c ∈ rest.head?, digit? base c = none

section Numbers

variable {base most : Nat} {ds rest : List Char}

theorem closed_nil : Closed base [] := by
  rintro c ⟨⟩

theorem closed_cons {c : Char} (hc : digit? base c = none) : Closed base (c :: rest) := by
  rintro d hd
  obtain rfl : c = d := by simpa using hd
  exact hc

theorem takeDigits_of_closed (h : Closed base rest) : takeDigits base rest = ([], rest) := by
  cases rest with
  | nil => rfl
  | cons c rest =>
      have hc : digit? base c = none := h c rfl
      simp [takeDigits, hc]

theorem takeDigits_append (hds : ∀ c ∈ ds, (digit? base c).isSome) (hrest : Closed base rest) :
    takeDigits base (ds ++ rest) = (ds, rest) := by
  induction ds with
  | nil => exact takeDigits_of_closed hrest
  | cons c ds ih =>
      rcases Option.isSome_iff_exists.1 (hds c List.mem_cons_self) with ⟨d, hd⟩
      have hds : takeDigits base (ds ++ rest) = (ds, rest) :=
        ih fun e he => hds e (List.mem_cons_of_mem c he)
      simp [takeDigits, hd, hds]

/-- Nothing is lost between the digits and the rest. -/
theorem takeDigits_split (base : Nat) (cs : List Char) :
    (takeDigits base cs).1 ++ (takeDigits base cs).2 = cs := by
  induction cs with
  | nil => rfl
  | cons c cs ih =>
      simp only [takeDigits]
      split
      · simp [ih]
      · rfl

theorem number?_of_closed (h : Closed base rest) : number? base most rest = none := by
  unfold number?
  rw [takeDigits_of_closed h]
  simp [digits?]

theorem number?_toDigits (hlow : 1 < base) (hhigh : base ≤ 16) {n : Nat}
    (hmost : (Nat.toDigits base n).length ≤ most) (hrest : Closed base rest) :
    number? base most (Nat.toDigits base n ++ rest) = some (n, rest) := by
  have hdigits : ∀ c ∈ Nat.toDigits base n, (digit? base c).isSome := fun c =>
    isSome_digit?_of_mem_toDigits hlow hhigh
  have htake := takeDigits_append hdigits hrest
  unfold number?
  rw [htake]
  dsimp only
  rw [if_neg (by omega), digits?_toDigits hlow hhigh]
  rfl

theorem rest_of_number? {cs : List Char} {n : Nat} (h : number? base most cs = some (n, rest)) :
    rest = (takeDigits base cs).2 := by
  unfold number? at h
  dsimp only at h
  split at h
  · cases h
  · rcases Option.map_eq_some_iff.1 h with ⟨m, -, hm⟩
    exact (congrArg Prod.snd hm).symm

end Numbers

/-! ## Four parts -/

section FourParts

variable {cs rest : List Char}

theorem octet?_toDigits (n : UInt8) (hrest : Closed 10 rest) :
    octet? (Nat.toDigits 10 n.toNat ++ rest) = some (n, rest) := by
  have hlt : n.toNat < 256 := n.toNat_lt
  have hmost : (Nat.toDigits 10 n.toNat).length ≤ 3 :=
    (Nat.length_toDigits_le_iff (by decide) (by decide)).2 (by omega)
  unfold octet?
  rw [number?_toDigits (by decide) (by decide) hmost hrest]
  dsimp only
  rw [if_neg]
  · simp
  · simp only [Bool.or_eq_true, decide_eq_true_eq, not_or, Nat.not_lt]
    refine ⟨?_, by omega⟩
    split
    · -- A text that begins with a zero is that of zero, and no digit follows it.
      rename_i second tail hcs
      obtain ⟨c, front, hfront⟩ := List.exists_cons_of_ne_nil
        (Nat.toDigits_ne_nil (n := n.toNat) (b := 10))
      rw [hfront, List.cons_append] at hcs
      obtain ⟨rfl, htail⟩ := List.cons.inj hcs
      have hzero := eq_zero_of_toDigits_eq_cons (by decide) hfront
      rw [hzero, Nat.toDigits_zero] at hfront
      obtain ⟨-, rfl⟩ := List.cons.inj hfront
      rw [List.nil_append] at htail
      rw [hrest second (by rw [htail]; rfl)]
      decide
    · decide

theorem toList_v4Text (a b c d : UInt8) :
    (v4Text a b c d).toList = Nat.toDigits 10 a.toNat ++ '.' :: (Nat.toDigits 10 b.toNat
      ++ '.' :: (Nat.toDigits 10 c.toNat ++ '.' :: Nat.toDigits 10 d.toNat)) := by
  simp [v4Text]

theorem v4?_v4Text (a b c d : UInt8) (hrest : Closed 10 rest) :
    v4? ((v4Text a b c d).toList ++ rest) = some ((a, b, c, d), rest) := by
  have hdot : ∀ cs, Closed 10 ('.' :: cs) := fun cs => closed_cons (by decide)
  rw [toList_v4Text]
  simp only [List.append_assoc, List.cons_append]
  simp [v4?, octet?_toDigits, after?, hdot, hrest]

/-- Four parts do not begin where no digit stands. -/
theorem v4?_of_closed (h : Closed 10 cs) : v4? cs = none := by
  simp [v4?, octet?, number?_of_closed h]

theorem rest_of_octet? {n : UInt8} (h : octet? cs = some (n, rest)) :
    rest = (takeDigits 10 cs).2 := by
  unfold octet? at h
  split at h
  · cases h
  · rename_i m tail hnumber
    obtain ⟨-, hsome⟩ := Option.ite_none_left_eq_some.1 h
    obtain ⟨-, rfl⟩ := Prod.mk.inj (Option.some.inj hsome)
    exact rest_of_number? hnumber

/-- Without a dot there are no four parts. -/
theorem v4?_of_not_mem (h : '.' ∉ cs) : v4? cs = none := by
  cases hoctet : octet? cs with
  | none => simp [v4?, hoctet]
  | some part =>
      rcases part with ⟨n, rest⟩
      have hdot : '.' ∉ rest := by
        intro hmem
        rw [rest_of_octet? hoctet] at hmem
        rw [← takeDigits_split 10 cs] at h
        exact h (List.mem_append_right _ hmem)
      have hafter : after? '.' rest = none := by
        cases rest with
        | nil => rfl
        | cons c tail =>
            have hc : c ≠ '.' := by
              rintro rfl
              exact hdot List.mem_cons_self
            simp [after?, hc]
      simp [v4?, hoctet, hafter]

end FourParts

/-! ## Groups -/

/-- The digits of a group. -/
def hexDigits (g : UInt16) : List Char := Nat.toDigits 16 g.toNat

/-- Groups that follow another. -/
def followed (gs : List UInt16) : List Char := gs.flatMap fun g => ':' :: hexDigits g

theorem toList_groupsText_cons (g : UInt16) (gs : List UInt16) :
    (groupsText (g :: gs)).toList = hexDigits g ++ followed gs := by
  induction gs generalizing g with
  | nil => simp [groupsText, hexDigits, followed]
  | cons h gs ih =>
      have htext : groupsText (g :: h :: gs)
          = String.ofList (hexDigits g) ++ ":" ++ groupsText (h :: gs) := by
        simp only [groupsText, List.map_cons, String.intercalate_cons_cons, hexDigits]
      rw [htext, String.toList_append, String.toList_append, ih h]
      simp [followed]

theorem length_hexDigits_le (g : UInt16) : (hexDigits g).length ≤ 4 :=
  (Nat.length_toDigits_le_iff (by decide) (by decide)).2 g.toNat_lt

theorem dot_not_mem_hexDigits (g : UInt16) : '.' ∉ hexDigits g := by
  intro hdot
  have hsome := isSome_digit?_of_mem_toDigits (by decide) (by decide) hdot
  revert hsome
  decide

theorem dot_not_mem_followed (gs : List UInt16) : '.' ∉ followed gs := by
  intro hdot
  simp only [followed, List.mem_flatMap, List.mem_cons] at hdot
  rcases hdot with ⟨g, -, hcolon | hdigit⟩
  · revert hcolon
    decide
  · exact dot_not_mem_hexDigits g hdigit

theorem dot_not_mem_groupsText (gs : List UInt16) : '.' ∉ (groupsText gs).toList := by
  cases gs with
  | nil => simp [groupsText]
  | cons g gs =>
      rw [toList_groupsText_cons, List.mem_append, not_or]
      exact ⟨dot_not_mem_hexDigits g, dot_not_mem_followed gs⟩

/-- A text that continues no group, whatever room there is for more. -/
structure Stops (rest : List Char) : Prop where
  closed : Closed 16 rest
  noDot : '.' ∉ rest
  stops : ∀ most first, readGroups most first rest = ⟨[], false, rest⟩

theorem stops_nil : Stops [] where
  closed := closed_nil
  noDot := by simp
  stops most first := by
    cases most with
    | zero => rfl
    | succ most =>
        cases first <;> simp [readGroups, after?, v4?_of_closed, number?_of_closed, closed_nil]

/-- The run that is left out stops the groups before it. -/
theorem stops_gap {cs : List Char} (hdot : '.' ∉ cs) : Stops (':' :: ':' :: cs) where
  closed := closed_cons (by decide)
  noDot := by simp [hdot]
  stops most first := by
    have hclosed : ∀ base ≤ 16, ∀ cs, Closed base (':' :: cs) := fun base hbase cs =>
      closed_cons (digit?_eq_none_of_le hbase (by decide))
    cases most with
    | zero => rfl
    | succ most =>
        cases first <;>
          simp [readGroups, after?, v4?_of_closed, number?_of_closed, hclosed]

section Groups

variable {rest : List Char}

theorem Stops.closed_followed (h : Stops rest) (gs : List UInt16) :
    Closed 16 (followed gs ++ rest) := by
  cases gs with
  | nil => exact h.closed
  | cons g gs => exact closed_cons (by decide)

theorem Stops.dot_not_mem (h : Stops rest) (g : UInt16) (gs : List UInt16) :
    '.' ∉ hexDigits g ++ (followed gs ++ rest) := by
  simp [dot_not_mem_hexDigits, dot_not_mem_followed, h.noDot]

/-- One group, and whatever is read after it. -/
theorem readGroups_group {first : Bool} {g : UInt16} {most : Nat} {cs : List Char}
    (hcs : first = true ∧ cs = hexDigits g ++ rest
      ∨ first = false ∧ cs = ':' :: (hexDigits g ++ rest))
    (hclosed : Closed 16 rest) (hparts : v4? (hexDigits g ++ rest) = none) :
    readGroups (most + 1) first cs = { readGroups most false rest with
      groups := g :: (readGroups most false rest).groups } := by
  have hgroup : number? 16 4 (hexDigits g ++ rest) = some (g.toNat, rest) :=
    number?_toDigits (by decide) (by decide) (length_hexDigits_le g) hclosed
  rcases hcs with ⟨rfl, rfl⟩ | ⟨rfl, rfl⟩
  · simp [readGroups, hparts, hgroup]
  · simp [readGroups, after?, hparts, hgroup]

theorem readGroups_followed (h : Stops rest) {gs : List UInt16} {most : Nat}
    (hmost : gs.length ≤ most) : readGroups most false (followed gs ++ rest) = ⟨gs, false, rest⟩ := by
  induction gs generalizing most with
  | nil => exact h.stops most false
  | cons g gs ih =>
      cases most with
      | zero => simp at hmost
      | succ most =>
          have htext : followed (g :: gs) ++ rest
              = ':' :: (hexDigits g ++ (followed gs ++ rest)) := by
            simp [followed]
          rw [readGroups_group (.inr ⟨rfl, htext⟩) (h.closed_followed gs)
            (v4?_of_not_mem (h.dot_not_mem g gs)), ih (by simpa using hmost)]

theorem readGroups_groupsText (h : Stops rest) {gs : List UInt16} {most : Nat}
    (hmost : gs.length ≤ most) :
    readGroups most true ((groupsText gs).toList ++ rest) = ⟨gs, false, rest⟩ := by
  cases gs with
  | nil => simpa [groupsText] using h.stops most true
  | cons g gs =>
      cases most with
      | zero => simp at hmost
      | succ most =>
          rw [toList_groupsText_cons, List.append_assoc, readGroups_group (.inl ⟨rfl, rfl⟩)
            (h.closed_followed gs) (v4?_of_not_mem (h.dot_not_mem g gs)),
            readGroups_followed h (by simpa using hmost)]

end Groups

/-! ## The run that is left out -/

theorem exists_zeros_of_longestZeros {i : Nat} {gs : List UInt16}
    (hpos : 0 < (longestZeros i gs).2) : ∃ before after,
      gs = before ++ (List.replicate (longestZeros i gs).2 0 ++ after)
        ∧ (longestZeros i gs).1 = i + before.length := by
  induction gs generalizing i with
  | nil => exact absurd hpos (by simp [longestZeros])
  | cons g gs ih =>
      simp only [longestZeros] at hpos ⊢
      split
      · refine ⟨[], (g :: gs).dropWhile (· == 0), ?_, rfl⟩
        have hzeros : (g :: gs).takeWhile (· == 0)
            = List.replicate ((g :: gs).takeWhile (· == 0)).length 0 := by
          refine List.eq_replicate_iff.2 ⟨rfl, ?_⟩
          intro z hz
          simpa using List.mem_takeWhile_imp hz
        rw [← hzeros]
        simp
      · rename_i hlater
        rw [if_neg hlater] at hpos
        obtain ⟨before, after, hgs, hstart⟩ := ih hpos
        refine ⟨g :: before, after, ?_, ?_⟩
        · rw [List.cons_append, ← hgs]
        · rw [hstart, List.length_cons]
          omega

/-! ## Addresses -/

theorem join_parts (x : UInt16) : join (x >>> 8).toUInt8 x.toUInt8 = x :=
  (UInt16.or_comm _ _).trans (Wire.word16_bytes x)

theorem Ip.ofGroups?_toList (groups : Vector UInt16 8) :
    Ip.ofGroups? groups.toList = some (.v6 groups) := by
  unfold Ip.ofGroups?
  rw [dif_pos (by simp)]
  congr

theorem v6?_groupsText {gs : List UInt16} (hlength : gs.length = 8) :
    v6? (groupsText gs).toList = (Ip.ofGroups? gs).map (·, []) := by
  have hgroups : readGroups 8 true ((groupsText gs).toList ++ []) = ⟨gs, false, []⟩ :=
    readGroups_groupsText stops_nil (by omega)
  rw [List.append_nil] at hgroups
  simp [v6?, hgroups, hlength]

/-- A run of zero groups that is left out is put back. -/
theorem v6?_gap {before after : List UInt16} {zeros : Nat} (hzeros : 0 < zeros)
    (hlength : before.length + zeros + after.length = 8) :
    v6? ((groupsText before).toList ++ ':' :: ':' :: (groupsText after).toList)
      = (Ip.ofGroups? (before ++ List.replicate zeros 0 ++ after)).map (·, []) := by
  have hhead : readGroups 8 true
        ((groupsText before).toList ++ ':' :: ':' :: (groupsText after).toList)
      = ⟨before, false, ':' :: ':' :: (groupsText after).toList⟩ :=
    readGroups_groupsText (stops_gap (dot_not_mem_groupsText after)) (by omega)
  have htail : readGroups (7 - before.length) true ((groupsText after).toList ++ [])
      = ⟨after, false, []⟩ :=
    readGroups_groupsText stops_nil (by omega)
  rw [List.append_nil] at htail
  have hleft : 8 - before.length - after.length = zeros := by omega
  have hshort : before.length ≠ 8 := by omega
  simp [v6?, hhead, htail, after?, hleft, hshort]

/-- A four-part address that is embedded takes the last two groups. -/
theorem v6?_mapped (a b c d : UInt8) :
    v6? ("::ffff:" ++ v4Text a b c d).toList
      = (Ip.ofGroups? [0, 0, 0, 0, 0, 0xFFFF, join a b, join c d]).map (·, []) := by
  have hmark : hexDigits 0xFFFF = ['f', 'f', 'f', 'f'] := by decide
  have htext : ("::ffff:" ++ v4Text a b c d).toList
      = ':' :: ':' :: (hexDigits 0xFFFF ++ ':' :: (v4Text a b c d).toList) := by
    rw [String.toList_append, hmark]
    rfl
  have hhead (cs : List Char) : readGroups 8 true (':' :: cs) = ⟨[], false, ':' :: cs⟩ := by
    have hcolon : ∀ base ≤ 16, Closed base (':' :: cs) := fun base hbase =>
      closed_cons (digit?_eq_none_of_le hbase (by decide))
    simp [readGroups, v4?_of_closed, number?_of_closed, hcolon]
  have hparts : readGroups 6 false (':' :: (v4Text a b c d).toList)
      = ⟨[join a b, join c d], true, []⟩ := by
    have hread := v4?_v4Text a b c d closed_nil
    rw [List.append_nil] at hread
    simp [readGroups, after?, hread]
  have htail : readGroups 7 true (hexDigits 0xFFFF ++ ':' :: (v4Text a b c d).toList)
      = ⟨[0xFFFF, join a b, join c d], true, []⟩ := by
    have hletter : Closed 10 (hexDigits 0xFFFF ++ ':' :: (v4Text a b c d).toList) := by
      rw [hmark]
      exact closed_cons (by decide)
    rw [readGroups_group (.inl ⟨rfl, rfl⟩) (closed_cons (by decide)) (v4?_of_closed hletter), hparts]
  rw [htext]
  simp [v6?, hhead, htail, after?]

section Parse

variable {gs before after : List UInt16} {groups : Vector UInt16 8}

theorem Ip.parse?_of_v6? {text : String} (hparts : v4? text.toList = none)
    (hgroups : v6? text.toList = (Ip.ofGroups? groups.toList).map (·, [])) :
    Ip.parse? text = some (.v6 groups) := by
  rw [Ip.ofGroups?_toList] at hgroups
  simp [Ip.parse?, hparts, hgroups]

theorem Ip.parse?_groupsText (groups : Vector UInt16 8) :
    Ip.parse? (groupsText groups.toList) = some (.v6 groups) :=
  Ip.parse?_of_v6? (v4?_of_not_mem (dot_not_mem_groupsText _)) (v6?_groupsText (by simp))

theorem Ip.parse?_gap {zeros : Nat} (hzeros : 0 < zeros)
    (hgroups : groups.toList = before ++ (List.replicate zeros 0 ++ after)) :
    Ip.parse? (groupsText before ++ "::" ++ groupsText after) = some (.v6 groups) := by
  have htext : (groupsText before ++ "::" ++ groupsText after).toList
      = (groupsText before).toList ++ ':' :: ':' :: (groupsText after).toList := by
    simp
  have hlength : before.length + zeros + after.length = 8 := by
    have hgroups8 : groups.toList.length = 8 := by simp
    simpa [hgroups, Nat.add_assoc] using hgroups8
  refine Ip.parse?_of_v6? (v4?_of_not_mem ?_) ?_
  · simp [htext, dot_not_mem_groupsText]
  · rw [htext, v6?_gap hzeros hlength, List.append_assoc, ← hgroups]

theorem Ip.parse?_mapped {x y : UInt16}
    (hgroups : groups.toList = [0, 0, 0, 0, 0, 0xFFFF, x, y]) :
    Ip.parse? ("::ffff:" ++ v4Text (x >>> 8).toUInt8 x.toUInt8 (y >>> 8).toUInt8 y.toUInt8)
      = some (.v6 groups) := by
  refine Ip.parse?_of_v6? (v4?_of_closed ?_) ?_
  · rw [String.toList_append]
    exact closed_cons (by decide)
  · rw [v6?_mapped, join_parts, join_parts, ← hgroups]

end Parse

/-- The text of an address denotes the address. -/
theorem Ip.parse?_text (ip : Ip) : Ip.parse? ip.text = some ip := by
  cases ip with
  | v4 a b c d =>
      have hread := v4?_v4Text a b c d closed_nil
      rw [List.append_nil] at hread
      simp [Ip.parse?, Ip.text, hread]
  | v6 groups =>
      simp only [Ip.text]
      split
      · rename_i x y hmapped
        exact Ip.parse?_mapped hmapped
      · split
        · exact Ip.parse?_groupsText groups
        · -- At least two groups are left out, and they are zero.
          rename_i hlong
          have hpos : 0 < (longestZeros 0 groups.toList).2 := by omega
          obtain ⟨before, after, hgroups, hstart⟩ := exists_zeros_of_longestZeros hpos
          rw [hstart, Nat.zero_add]
          generalize (longestZeros 0 groups.toList).2 = zeros at hpos hgroups ⊢
          have hfront : groups.toList.take before.length = before := by simp [hgroups]
          have hback : groups.toList.drop (before.length + zeros) = after := by
            simp [hgroups, ← List.drop_drop]
          rw [hfront, hback]
          exact Ip.parse?_gap hpos hgroups

end Net
end ServoLink
