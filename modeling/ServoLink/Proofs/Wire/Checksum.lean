import ServoLink.Wire.Frame
import Mathlib.Data.List.GetD

/-!
# Checksum — which differences between two datagrams the code sees

Bytes enter the register bit by bit, least significant bit first (`feed`).  The register is linear
in exclusive or, so two runs over datagrams of one length differ by the run of the difference from
an empty register (`syndrome`).  No shift empties a register that is not empty.

* `run_eq_zero_iff` — a datagram that ends in its own code leaves the register empty;
* `syndrome_difference` — two such datagrams differ by something the code does not see;
* `syndrome_burst`, `syndrome_flips` — what it does see: whatever changes within sixteen
  consecutive bits, and one or two flips in a datagram of up to `reach` bits.
-/

namespace ServoLink
namespace Wire

/-! ## Bits -/

/-- The bits of a byte, least significant first. -/
def bitsOf (byte : UInt8) : List Bool := (List.range 8).map fun i => byte.toBitVec.getLsbD i

/-- The bits of a datagram in the order in which they are sent. -/
def bits (bytes : List UInt8) : List Bool := bytes.flatMap bitsOf

/-- Where two datagrams of one length differ. -/
def difference (d d' : List UInt8) : List Bool := bits (List.zipWith (· ^^^ ·) d d')

@[simp] theorem length_bitsOf (byte : UInt8) : (bitsOf byte).length = 8 := rfl

theorem length_bits (bytes : List UInt8) : (bits bytes).length = 8 * bytes.length := by
  induction bytes with
  | nil => rfl
  | cons byte rest ih =>
      rw [bits, List.flatMap_cons, List.length_append, length_bitsOf, ← bits, ih, List.length_cons]
      omega

@[simp] theorem difference_cons (a b : UInt8) (d d' : List UInt8) :
    difference (a :: d) (b :: d') = bitsOf (a ^^^ b) ++ difference d d' := by
  simp [difference, bits]

theorem difference_append {a a' : List UInt8} (h : a'.length = a.length) (b b' : List UInt8) :
    difference (a ++ b) (a' ++ b') = difference a a' ++ difference b b' := by
  rw [difference, List.zipWith_append h.symm]
  simp [difference, bits]

theorem length_difference {d d' : List UInt8} (h : d'.length = d.length) :
    (difference d d').length = 8 * d.length := by
  rw [difference, length_bits, List.length_zipWith, h, Nat.min_self]

/-- A byte without a bit set is zero. -/
theorem eq_zero_of_true_notMem_bitsOf {byte : UInt8} (h : true ∉ bitsOf byte) : byte = 0 := by
  apply UInt8.toBitVec_inj.1
  apply BitVec.eq_of_getLsbD_eq
  intro i hi
  have hbit : byte.toBitVec.getLsbD i ∈ bitsOf byte :=
    List.mem_map.2 ⟨i, List.mem_range.2 hi, rfl⟩
  cases hset : byte.toBitVec.getLsbD i with
  | true =>
      rw [hset] at hbit
      exact absurd hbit h
  | false => simp

/-- Datagrams of one length without a difference are the same. -/
theorem eq_of_true_notMem_difference {d d' : List UInt8} (hlength : d'.length = d.length)
    (h : true ∉ difference d d') : d' = d := by
  induction d generalizing d' with
  | nil => exact List.length_eq_zero_iff.1 hlength
  | cons a d ih =>
      cases d' with
      | nil => cases hlength
      | cons b d' =>
          rw [difference_cons, List.mem_append, not_or] at h
          have hbyte : a = b := UInt8.xor_eq_zero_iff.1 (eq_zero_of_true_notMem_bitsOf h.1)
          rw [hbyte, ih (Nat.succ.inj hlength) h.2]

namespace Checksum

/-! ## Shifts -/

theorem shift_xor (a b : BitVec 16) : shift (a ^^^ b) = shift a ^^^ shift b := by
  unfold shift
  rw [BitVec.getLsbD_xor, BitVec.ushiftRight_xor_distrib]
  cases ha : a.getLsbD 0 with
  | false =>
      cases hb : b.getLsbD 0 with
      | false => rfl
      | true => exact BitVec.xor_assoc _ _ _
  | true =>
      cases hb : b.getLsbD 0 with
      | false =>
          show a >>> 1 ^^^ b >>> 1 ^^^ polynomial = a >>> 1 ^^^ polynomial ^^^ b >>> 1
          rw [BitVec.xor_assoc, BitVec.xor_assoc, BitVec.xor_comm polynomial]
      | true =>
          -- The polynomial comes in twice.
          show a >>> 1 ^^^ b >>> 1 = a >>> 1 ^^^ polynomial ^^^ (b >>> 1 ^^^ polynomial)
          rw [BitVec.xor_comm (b >>> 1), BitVec.xor_assoc, ← BitVec.xor_assoc polynomial,
            BitVec.xor_self, BitVec.zero_xor]

/-- The bit that leaves the register comes in again at its top. -/
theorem getLsbD_shift_top (r : BitVec 16) : (shift r).getLsbD 15 = r.getLsbD 0 := by
  unfold shift
  split
  · rename_i hlow
    simp [polynomial, hlow]
  · rename_i hlow
    rw [(Bool.not_eq_true _).mp hlow]
    simp

@[simp] theorem shift_zero : shift 0 = 0 := rfl

/-- A shift that leaves the register empty found it empty. -/
theorem eq_zero_of_shift {r : BitVec 16} (h : shift r = 0) : r = 0 := by
  have hlow : r.getLsbD 0 = false := by
    rw [← getLsbD_shift_top, h]
    rfl
  rw [shift, hlow] at h
  have hrest : r >>> 1 = 0 := h
  apply BitVec.eq_of_getLsbD_eq
  intro i _
  cases i with
  | zero => simpa using hlow
  | succ i =>
      have hbit := congrArg (·.getLsbD i) hrest
      simpa [Nat.add_comm] using hbit

theorem shifts_xor (n : Nat) (a b : BitVec 16) : shifts n (a ^^^ b) = shifts n a ^^^ shifts n b := by
  induction n generalizing a b with
  | zero => rfl
  | succ n ih => rw [shifts, shift_xor, ih, shifts, shifts]

theorem shifts_eq_zero_iff (n : Nat) (r : BitVec 16) : shifts n r = 0 ↔ r = 0 := by
  induction n generalizing r with
  | zero => rfl
  | succ n ih =>
      rw [shifts, ih]
      exact ⟨eq_zero_of_shift, fun h => h ▸ shift_zero⟩

/-! ## Bit by bit -/

/-- The register a single bit makes of an empty one before the shift. -/
def single (bit : Bool) : BitVec 16 := if bit then 1 else 0

/-- Brings one bit into the register. -/
def feed (r : BitVec 16) (bit : Bool) : BitVec 16 := shift (r ^^^ single bit)

/-- Up to sixteen bits as a word, the first one lowest. -/
def wordOf : List Bool → BitVec 16
  | [] => 0
  | bit :: rest => single bit ^^^ wordOf rest <<< 1

theorem getLsbD_wordOf (window : List Bool) {i : Nat} (hi : i < 16) :
    (wordOf window).getLsbD i = window.getD i false := by
  induction window generalizing i with
  | nil => simp [wordOf]
  | cons bit rest ih =>
      cases i with
      | zero => cases bit <;> simp [wordOf, single]
      | succ i =>
          have hrest := ih (Nat.lt_of_succ_lt hi)
          have hhigh : (single bit).getLsbD (i + 1) = false := by
            cases bit <;> simp [single]
          rw [wordOf, BitVec.getLsbD_xor, hhigh, BitVec.getLsbD_shiftLeft]
          simpa [hi] using hrest

theorem wordOf_ne_zero {window : List Bool} (hlength : window.length ≤ 16) (h : true ∈ window) :
    wordOf window ≠ 0 := by
  intro hzero
  rcases List.mem_iff_getElem.1 h with ⟨i, hi, hbit⟩
  have hset := getLsbD_wordOf window (Nat.lt_of_lt_of_le hi hlength)
  rw [hzero, List.getD_eq_getElem _ _ hi, hbit] at hset
  simp at hset

/-- A word whose top bit is clear is shifted back to where it was. -/
theorem shift_shiftLeft {r : BitVec 16} (h : r.getLsbD 15 = false) : shift (r <<< 1) = r := by
  have hlow : (r <<< 1).getLsbD 0 = false := by simp
  rw [shift, hlow]
  show r <<< 1 >>> 1 = r
  apply BitVec.eq_of_getLsbD_eq
  intro i hi
  rw [BitVec.getLsbD_ushiftRight, BitVec.getLsbD_shiftLeft]
  by_cases htop : i = 15
  · rw [htop, h]
    simp
  · have hin : 1 + i < 16 := by omega
    simp [hin]

/-- Up to sixteen bits come in as if they were added at once. -/
theorem foldl_feed_eq_shifts (r : BitVec 16) {window : List Bool} (h : window.length ≤ 16) :
    window.foldl feed r = shifts window.length (r ^^^ wordOf window) := by
  induction window generalizing r with
  | nil => simp [shifts, wordOf]
  | cons bit rest ih =>
      have hrest : rest.length ≤ 15 := Nat.le_of_succ_le_succ h
      have htop : (wordOf rest).getLsbD 15 = false := by
        rw [getLsbD_wordOf rest (by decide), List.getD_eq_default _ _ hrest]
      calc (bit :: rest).foldl feed r
          = rest.foldl feed (shift (r ^^^ single bit)) := rfl
        _ = shifts rest.length (shift (r ^^^ single bit) ^^^ wordOf rest) :=
            ih _ (Nat.le_succ_of_le hrest)
        _ = shifts rest.length (shift (r ^^^ single bit ^^^ wordOf rest <<< 1)) := by
            rw [shift_xor (r ^^^ single bit), shift_shiftLeft htop]
        _ = shifts (bit :: rest).length (r ^^^ wordOf (bit :: rest)) := by
            rw [BitVec.xor_assoc]
            rfl

theorem wordOf_bitsOf (byte : UInt8) : wordOf (bitsOf byte) = byte.toBitVec.setWidth 16 := by
  apply BitVec.eq_of_getLsbD_eq
  intro i hi
  rw [getLsbD_wordOf _ hi, BitVec.getLsbD_setWidth]
  by_cases hlow : i < 8
  · rw [List.getD_eq_getElem _ _ (by simpa using hlow)]
    simp [bitsOf, hi]
  · rw [List.getD_eq_default _ _ (by simpa using hlow), BitVec.getLsbD_of_ge _ _ (by omega)]
    simp

theorem absorb_eq_foldl_feed (r : BitVec 16) (byte : UInt8) :
    absorb r byte = (bitsOf byte).foldl feed r := by
  rw [foldl_feed_eq_shifts r (by simp), wordOf_bitsOf]
  rfl

theorem run_eq_foldl_feed (r : BitVec 16) (bytes : List UInt8) :
    run r bytes = (bits bytes).foldl feed r := by
  induction bytes generalizing r with
  | nil => rfl
  | cons byte rest ih =>
      have hfirst := absorb_eq_foldl_feed r byte
      rw [bits, List.flatMap_cons, List.foldl_append, ← hfirst]
      exact ih (absorb r byte)

/-! ## Datagrams that end in their code -/

theorem run_append (r : BitVec 16) (front back : List UInt8) :
    run r (front ++ back) = run (run r front) back := List.foldl_append

theorem wordOf_bits_pair (c0 c1 : UInt8) : wordOf (bits [c0, c1]) = (word16 c0 c1).toBitVec := by
  apply BitVec.eq_of_getLsbD_eq
  intro i hi
  rw [getLsbD_wordOf _ hi]
  have hword : (word16 c0 c1).toBitVec =
      c0.toBitVec.setWidth 16 ||| c1.toBitVec.setWidth 16 <<< 8 := rfl
  rw [hword, BitVec.getLsbD_or, BitVec.getLsbD_shiftLeft, BitVec.getLsbD_setWidth,
    BitVec.getLsbD_setWidth]
  have hbits : bits [c0, c1] = bitsOf c0 ++ bitsOf c1 := by simp [bits]
  rw [hbits]
  by_cases hlow : i < 8
  · rw [List.getD_append _ _ _ _ (by simpa using hlow), List.getD_eq_getElem _ _ (by simpa using hlow)]
    simp [bitsOf, hi, hlow]
  · rw [List.getD_append_right _ _ _ _ (by simpa using Nat.le_of_not_lt hlow),
      List.getD_eq_getElem _ _ (by simp; omega), BitVec.getLsbD_of_ge c0.toBitVec _ (by omega)]
    have hin : i - 8 < 16 := by omega
    simp [bitsOf, hi, hlow, hin]

/-- The last two bytes are the code of those before them exactly if the register ends up empty. -/
theorem run_eq_zero_iff (body : List UInt8) (c0 c1 : UInt8) :
    run start (body ++ [c0, c1]) = 0 ↔ word16 c0 c1 = checksum body := by
  have hpair : (bits [c0, c1]).length ≤ 16 := by simp [length_bits]
  rw [run_append, run_eq_foldl_feed _ [c0, c1], foldl_feed_eq_shifts _ hpair, shifts_eq_zero_iff,
    wordOf_bits_pair]
  constructor
  · intro h
    exact UInt16.toBitVec_inj.1 (BitVec.xor_eq_zero_iff.1 h).symm
  · intro h
    rw [h]
    exact BitVec.xor_self

/-! ## Differences -/

/-- What a difference leaves in an empty register. -/
def syndrome (error : List Bool) : BitVec 16 := error.foldl feed 0

theorem absorb_xor (a b : BitVec 16) (x y : UInt8) :
    absorb (a ^^^ b) (x ^^^ y) = absorb a x ^^^ absorb b y := by
  have hbytes : (x ^^^ y).toBitVec.setWidth 16 =
      x.toBitVec.setWidth 16 ^^^ y.toBitVec.setWidth 16 := by
    rw [UInt8.toBitVec_xor, BitVec.setWidth_xor]
  unfold absorb
  rw [← shifts_xor, hbytes]
  congr 1
  ac_rfl

theorem run_xor {d d' : List UInt8} (h : d'.length = d.length) (a b : BitVec 16) :
    run (a ^^^ b) (List.zipWith (· ^^^ ·) d d') = run a d ^^^ run b d' := by
  induction d generalizing d' a b with
  | nil =>
      obtain rfl := List.length_eq_zero_iff.1 h
      rfl
  | cons x d ih =>
      cases d' with
      | nil => cases h
      | cons y d' =>
          have hstep := ih (Nat.succ.inj h) (absorb a x) (absorb b y)
          rw [← absorb_xor] at hstep
          exact hstep

/-- What leads from one datagram with its code to another is not seen. -/
theorem syndrome_difference {d d' : List UInt8} (h : d'.length = d.length)
    (hd : run start d = 0) (hd' : run start d' = 0) : syndrome (difference d d') = 0 := by
  have hxor := run_xor h start start
  rw [hd, hd', BitVec.xor_self, BitVec.xor_self, run_eq_foldl_feed] at hxor
  exact hxor

theorem foldl_feed_replicate (r : BitVec 16) (n : Nat) :
    (List.replicate n false).foldl feed r = shifts n r := by
  induction n generalizing r with
  | zero => rfl
  | succ n ih =>
      have hfeed : feed r false = shift r := by simp [feed, single]
      rw [List.replicate_succ, List.foldl_cons, hfeed, ih, shifts]

/-- Only what lies between the first and the last change counts. -/
theorem syndrome_padded (before after : Nat) (middle : List Bool) :
    syndrome (List.replicate before false ++ middle ++ List.replicate after false) = 0 ↔
      syndrome middle = 0 := by
  have hbefore : shifts before 0 = 0 := (shifts_eq_zero_iff before 0).2 rfl
  rw [syndrome, List.foldl_append, List.foldl_append, foldl_feed_replicate, foldl_feed_replicate,
    hbefore, shifts_eq_zero_iff]
  rfl

/-- A change within sixteen consecutive bits is seen. -/
theorem syndrome_burst {window : List Bool} (hlength : window.length ≤ 16) (h : true ∈ window) :
    syndrome window ≠ 0 := by
  intro hzero
  rw [syndrome, foldl_feed_eq_shifts 0 hlength, shifts_eq_zero_iff] at hzero
  have hword : (0 : BitVec 16) ^^^ wordOf window = wordOf window := BitVec.zero_xor
  exact wordOf_ne_zero hlength h (hword.symm.trans hzero)

/-- How many bits the longest datagram has. -/
def reach : Nat := 8 * maxFrameLength

/-- None of the next `n` shifts makes a register a single low bit. -/
def apart : Nat → BitVec 16 → Bool
  | 0, _ => true
  | n + 1, r => shift r != 1 && apart n (shift r)

theorem shifts_ne_one_of_apart {n : Nat} {r : BitVec 16} (h : apart n r) {k : Nat} (hk : k < n) :
    shifts (k + 1) r ≠ 1 := by
  induction n generalizing r k with
  | zero => cases hk
  | succ n ih =>
      rw [apart, Bool.and_eq_true, bne_iff_ne] at h
      cases k with
      | zero => exact h.1
      | succ k =>
          rw [shifts]
          exact ih h.2 (Nat.lt_of_succ_lt_succ hk)

theorem apart_reach : apart reach 1 := by decide +kernel

/-- Two flips are seen. -/
theorem syndrome_pair {gap : Nat} (h : gap < reach) :
    syndrome (true :: (List.replicate gap false ++ [true])) ≠ 0 := by
  intro hzero
  have hfirst : feed 0 true = shift 1 := rfl
  rw [syndrome, List.foldl_cons, hfirst, List.foldl_append, foldl_feed_replicate] at hzero
  have hsecond : shifts gap (shift 1) ^^^ 1 = 0 := eq_zero_of_shift hzero
  exact shifts_ne_one_of_apart apart_reach h (BitVec.xor_eq_zero_iff.1 hsecond)

theorem eq_replicate_of_true_notMem {error : List Bool} (h : true ∉ error) :
    error = List.replicate error.length false := by
  refine List.eq_replicate_iff.2 ⟨rfl, ?_⟩
  intro bit hbit
  cases bit with
  | false => rfl
  | true => exact absurd hbit h

/-- A difference up to its first change, and what follows it. -/
theorem exists_first_change {error : List Bool} (h : true ∈ error) :
    ∃ before rest, error = List.replicate before false ++ true :: rest := by
  rcases List.eq_append_cons_of_mem h with ⟨front, rest, hsplit, hfirst⟩
  rw [eq_replicate_of_true_notMem hfirst] at hsplit
  exact ⟨front.length, rest, hsplit⟩

/-- One or two flips are seen. -/
theorem syndrome_flips {error : List Bool} (hlength : error.length ≤ reach)
    (hsome : 0 < error.count true) (hfew : error.count true ≤ 2) : syndrome error ≠ 0 := by
  rcases exists_first_change (List.count_pos_iff.1 hsome) with ⟨before, rest, rfl⟩
  rw [List.count_append, List.count_replicate, List.count_cons_self] at hfew
  have hrest : rest.count true ≤ 1 := by simpa using hfew
  by_cases hsecond : true ∈ rest
  · -- A second flip, and nothing after it.
    rcases exists_first_change hsecond with ⟨gap, tail, rfl⟩
    have htail : true ∉ tail := by
      rw [List.count_append, List.count_cons_self] at hrest
      exact List.count_eq_zero.1 (by omega)
    rw [eq_replicate_of_true_notMem htail] at hlength ⊢
    have hgap : gap < reach := by
      simp at hlength
      omega
    have hsplit : List.replicate before false ++
        true :: (List.replicate gap false ++ true :: List.replicate tail.length false) =
          List.replicate before false ++ (true :: (List.replicate gap false ++ [true]))
            ++ List.replicate tail.length false := by
      simp
    rw [hsplit, Ne, syndrome_padded]
    exact syndrome_pair hgap
  · -- The only flip.
    rw [eq_replicate_of_true_notMem hsecond]
    have hsplit : List.replicate before false ++ true :: List.replicate rest.length false =
        List.replicate before false ++ [true] ++ List.replicate rest.length false := by
      simp
    rw [hsplit, Ne, syndrome_padded]
    exact syndrome_burst (by decide) (List.mem_singleton_self true)

end Checksum
end Wire
end ServoLink
