import ServoLink.Wire.Field

/-!
# Field laws — what a reader takes and what it gives

Two judgements about a reader are composed along its `do` block:

* `Reads read bytes value` — off the front of any datagram that starts with `bytes`, the reader
  takes exactly these and gives `value`;
* `Ensures read P` — whatever the reader accepts, it took a front of the bytes, and the value with
  the number of bytes taken satisfies `P`.

The first is what a writer has to meet, the second is what an accepted datagram is known to be.
Neither says anything about the bytes a failed read leaves behind.
-/

namespace ServoLink
namespace Wire

variable {α β : Type}

/-! ## Words as numbers -/

theorem or_shiftLeft {low i : Nat} (h : low < Nat.pow 2 i) (high : Nat) :
    low ||| high <<< i = low + Nat.pow 2 i * high := by
  calc low ||| high <<< i = high <<< i ||| low := Nat.or_comm low (high <<< i)
    _ = high <<< i + low := (Nat.shiftLeft_add_eq_or_of_lt h high).symm
    _ = high * Nat.pow 2 i + low := by rw [Nat.shiftLeft_eq, Nat.pow_eq]
    _ = low + Nat.pow 2 i * high := by rw [Nat.add_comm, Nat.mul_comm]

theorem toNat_word16 (lo hi : UInt8) : (word16 lo hi).toNat = lo.toNat + 0x100 * hi.toNat := by
  have hlo := lo.toNat_lt
  have hhi := hi.toNat_lt
  have hshift : (hi.toUInt16 <<< 8).toNat = hi.toNat <<< 8 := by
    simp [Nat.shiftLeft_eq]
    omega
  simp only [word16, UInt16.toNat_or, hshift, UInt8.toNat_toUInt16]
  exact or_shiftLeft hlo hi.toNat

theorem toNat_word32 (b0 b1 b2 b3 : UInt8) :
    (word32 b0 b1 b2 b3).toNat =
      b0.toNat + 0x100 * b1.toNat + 0x10000 * b2.toNat + 0x1000000 * b3.toNat := by
  have h0 := b0.toNat_lt
  have h1 := b1.toNat_lt
  have h2 := b2.toNat_lt
  have h3 := b3.toNat_lt
  have hs1 : (b1.toUInt32 <<< 8).toNat = b1.toNat <<< 8 := by
    simp [Nat.shiftLeft_eq]
    omega
  have hs2 : (b2.toUInt32 <<< 16).toNat = b2.toNat <<< 16 := by
    simp [Nat.shiftLeft_eq]
    omega
  have hs3 : (b3.toUInt32 <<< 24).toNat = b3.toNat <<< 24 := by
    simp [Nat.shiftLeft_eq]
    omega
  simp only [word32, UInt32.toNat_or, hs1, hs2, hs3, UInt8.toNat_toUInt32]
  -- Each byte lies above all that was joined before it, so the joins are sums.
  have hlow : b0.toNat + 0x100 * b1.toNat < 0x10000 := by omega
  have hmid : b0.toNat + 0x100 * b1.toNat + 0x10000 * b2.toNat < 0x1000000 := by omega
  have hj1 : b0.toNat ||| b1.toNat <<< 8 = b0.toNat + 0x100 * b1.toNat := or_shiftLeft h0 _
  have hj2 : b0.toNat + 0x100 * b1.toNat ||| b2.toNat <<< 16
      = b0.toNat + 0x100 * b1.toNat + 0x10000 * b2.toNat := or_shiftLeft hlow _
  have hj3 : b0.toNat + 0x100 * b1.toNat + 0x10000 * b2.toNat ||| b3.toNat <<< 24
      = b0.toNat + 0x100 * b1.toNat + 0x10000 * b2.toNat + 0x1000000 * b3.toNat :=
    or_shiftLeft hmid _
  rw [hj1, hj2, hj3]

theorem word16_bytes (w : UInt16) : word16 w.toUInt8 (w >>> 8).toUInt8 = w := by
  have hw := w.toNat_lt
  apply UInt16.toNat_inj.1
  simp [toNat_word16, Nat.shiftRight_eq_div_pow]
  omega

theorem word32_bytes (w : UInt32) :
    word32 w.toUInt8 (w >>> 8).toUInt8 (w >>> 16).toUInt8 (w >>> 24).toUInt8 = w := by
  have hw := w.toNat_lt
  apply UInt32.toNat_inj.1
  simp [toNat_word32, Nat.shiftRight_eq_div_pow]
  omega

theorem bytesOfUInt16_word16 (lo hi : UInt8) : bytesOfUInt16 (word16 lo hi) = [lo, hi] := by
  have hlo := lo.toNat_lt
  have hhi := hi.toNat_lt
  simp [bytesOfUInt16, ← UInt8.toNat_inj, toNat_word16, Nat.shiftRight_eq_div_pow]
  omega

@[simp] theorem length_bytesOfUInt16 (w : UInt16) : (bytesOfUInt16 w).length = 2 := rfl

@[simp] theorem length_bytesOfUInt32 (w : UInt32) : (bytesOfUInt32 w).length = 4 := rfl

@[simp] theorem length_bytesOfInt8 (v : Int8) : (bytesOfInt8 v).length = 1 := rfl

@[simp] theorem length_bytesOfInt16 (v : Int16) : (bytesOfInt16 v).length = 2 := rfl

@[simp] theorem length_bytesOfInt32 (v : Int32) : (bytesOfInt32 v).length = 4 := rfl

/-! ## Reading back what was written -/

/-- The reader takes exactly `bytes` off the front and gives `value`. -/
def Reads (read : Reader α) (bytes : List UInt8) (value : α) : Prop :=
  ∀ rest, read (bytes ++ rest) = .ok value rest

namespace Reads

theorem pure (value : α) : Reads (pure value) [] value := by
  intro rest
  rfl

theorem bind {read : Reader α} {next : α → Reader β} {front back : List UInt8} {a : α} {b : β}
    (hread : Reads read front a) (hnext : Reads (next a) back b) :
    Reads (read >>= next) (front ++ back) b := by
  intro rest
  show EStateM.bind read next (front ++ back ++ rest) = .ok b rest
  rw [List.append_assoc, EStateM.bind, hread (back ++ rest)]
  exact hnext rest

theorem map {read : Reader α} {bytes : List UInt8} {a : α} (f : α → β)
    (hread : Reads read bytes a) : Reads (f <$> read) bytes (f a) := by
  intro rest
  show EStateM.map f read (bytes ++ rest) = .ok (f a) rest
  rw [EStateM.map, hread rest]

/-- The last reader of a block, with what is made of its value. -/
theorem bind_pure {read : Reader α} {bytes : List UInt8} {a : α} (f : α → β)
    (hread : Reads read bytes a) : Reads (read >>= fun a => Pure.pure (f a)) bytes (f a) := by
  have h : Reads (read >>= fun a => Pure.pure (f a)) (bytes ++ []) (f a) :=
    hread.bind (Reads.pure (f a))
  rwa [List.append_nil] at h

theorem require {read : Reader α} {bytes : List UInt8} {a : α} (field : FieldKind) {n : Nat}
    (hread : Reads read bytes a) (hn : n ≤ bytes.length) :
    Reads (Reader.require field n >>= fun _ => read) bytes a := by
  intro rest
  have henough : ¬ (bytes ++ rest).length < n := by
    rw [List.length_append]
    omega
  show EStateM.bind (Reader.require field n) (fun _ => read) (bytes ++ rest) = .ok a rest
  simp only [EStateM.bind, Reader.require, if_neg henough]
  exact hread rest

theorem section? {read : Reader α} {write : α → List UInt8} {value : Option α}
    (hread : ∀ a, value = some a → Reads read (write a) a) :
    Reads (Reader.section? value.isSome read) (value.elim [] write) value := by
  cases value with
  | none =>
      exact Reads.pure none
  | some a =>
      exact (hread a rfl).map some

end Reads

theorem reads_readUInt8As (field : FieldKind) (b : UInt8) : Reads (readUInt8As field) [b] b := by
  intro rest
  rfl

theorem reads_readUInt16As (field : FieldKind) (w : UInt16) :
    Reads (readUInt16As field) (bytesOfUInt16 w) w := by
  intro rest
  simp [bytesOfUInt16, readUInt16As, word16_bytes]

theorem reads_readUInt32As (field : FieldKind) (w : UInt32) :
    Reads (readUInt32As field) (bytesOfUInt32 w) w := by
  intro rest
  simp [bytesOfUInt32, readUInt32As, word32_bytes]

theorem reads_readInt8 (v : Int8) : Reads readInt8 (bytesOfInt8 v) v :=
  (reads_readUInt8As .int8 v.toUInt8).map UInt8.toInt8

theorem reads_readInt16 (v : Int16) : Reads readInt16 (bytesOfInt16 v) v :=
  (reads_readUInt16As .int16 v.toUInt16).map UInt16.toInt16

theorem reads_readInt32 (v : Int32) : Reads readInt32 (bytesOfInt32 v) v :=
  (reads_readUInt32As .int32 v.toUInt32).map UInt32.toInt32

theorem reads_readBytes (field : FieldKind) {n : Nat} (block : Vector UInt8 n) :
    Reads (readBytes field n) block.toList block := by
  intro rest
  have hlen : block.toList.length = n := by simp
  have hle : n ≤ (block.toList ++ rest).length := by
    rw [List.length_append]
    omega
  have htake : (block.toList ++ rest).take n = block.toList := List.take_left' hlen
  have hdrop : (block.toList ++ rest).drop n = rest := List.drop_left' hlen
  simp only [readBytes, hle, dif_pos, hdrop]
  congr 1
  apply Vector.toList_inj.1
  simp [htake]

/-! ## What an accepted read took -/

/-- What the reader accepts, it took off the front, and `P` holds of the value and of the number of
bytes taken. -/
def Ensures (read : Reader α) (P : α → Nat → Prop) : Prop :=
  ∀ bytes value rest, read bytes = .ok value rest →
    ∃ front, bytes = front ++ rest ∧ P value front.length

namespace Ensures

theorem pure {P : α → Nat → Prop} {value : α} (h : P value 0) : Ensures (pure value) P := by
  intro bytes v rest hread
  cases hread
  exact ⟨[], rfl, h⟩

theorem mono {read : Reader α} {P Q : α → Nat → Prop} (hread : Ensures read P)
    (h : ∀ a n, P a n → Q a n) : Ensures read Q := by
  intro bytes value rest hok
  rcases hread bytes value rest hok with ⟨front, hfront, hP⟩
  exact ⟨front, hfront, h value front.length hP⟩

theorem bind {read : Reader α} {next : α → Reader β} {P : α → Nat → Prop} {Q : β → Nat → Prop}
    (hread : Ensures read P)
    (hnext : ∀ a n, P a n → Ensures (next a) fun b m => Q b (n + m)) :
    Ensures (read >>= next) Q := by
  intro bytes value rest hok
  change EStateM.bind read next bytes = .ok value rest at hok
  rw [EStateM.bind] at hok
  cases hfirst : read bytes with
  | error cause left =>
      rw [hfirst] at hok
      cases hok
  | ok a middle =>
      rw [hfirst] at hok
      -- What both readers took, they took one after the other.
      rcases hread bytes a middle hfirst with ⟨front, rfl, hP⟩
      rcases hnext a front.length hP middle value rest hok with ⟨back, rfl, hQ⟩
      refine ⟨front ++ back, (List.append_assoc front back rest).symm, ?_⟩
      rwa [List.length_append]

theorem map {read : Reader α} {P : α → Nat → Prop} {Q : β → Nat → Prop} {f : α → β}
    (hread : Ensures read P) (h : ∀ a n, P a n → Q (f a) n) : Ensures (f <$> read) Q := by
  intro bytes value rest hok
  change EStateM.map f read bytes = .ok value rest at hok
  rw [EStateM.map] at hok
  cases hfirst : read bytes with
  | error cause left =>
      rw [hfirst] at hok
      cases hok
  | ok a left =>
      rw [hfirst] at hok
      cases hok
      rcases hread bytes a rest hfirst with ⟨front, hfront, hP⟩
      exact ⟨front, hfront, h a front.length hP⟩

theorem require (field : FieldKind) (n : Nat) :
    Ensures (Reader.require field n) fun _ m => m = 0 := by
  intro bytes value rest hok
  rw [Reader.require] at hok
  split at hok
  · cases hok
  · cases hok
    exact ⟨[], rfl, rfl⟩

theorem section? {read : Reader α} {P : α → Nat → Prop} (present : Bool)
    (hread : Ensures read P) :
    Ensures (Reader.section? present read) fun value n =>
      value.isSome = present ∧ (∀ a, value = some a → P a n) ∧ (value = none → n = 0) := by
  cases present with
  | false =>
      exact Ensures.pure ⟨rfl, by simp, by simp⟩
  | true =>
      refine hread.map (f := some) fun a n hP => ⟨rfl, ?_, by simp⟩
      rintro b ⟨⟩
      exact hP

/-- A section of fixed length. -/
theorem fixedSection? {read : Reader α} {P : α → Prop} {length : Nat} (present : Bool)
    (hread : Ensures read fun a n => P a ∧ n = length) :
    Ensures (Reader.section? present read) fun value n =>
      value.isSome = present ∧ (∀ a, value = some a → P a)
        ∧ n = if value.isSome then length else 0 := by
  refine (section? present hread).mono ?_
  rintro value n ⟨hpresent, hsome, hnone⟩
  cases value with
  | none =>
      exact ⟨hpresent, by simp, hnone rfl⟩
  | some a =>
      exact ⟨hpresent, fun b hb => (hsome b hb).1, (hsome a rfl).2⟩

end Ensures

theorem ensures_readUInt8As (field : FieldKind) :
    Ensures (readUInt8As field) fun _ n => n = 1 := by
  intro bytes value rest hok
  match bytes, hok with
  | b :: tail, hok =>
      cases hok
      exact ⟨[value], rfl, rfl⟩

theorem ensures_readUInt16As (field : FieldKind) :
    Ensures (readUInt16As field) fun _ n => n = 2 := by
  intro bytes value rest hok
  match bytes, hok with
  | b0 :: b1 :: tail, hok =>
      cases hok
      exact ⟨[b0, b1], rfl, rfl⟩

theorem ensures_readUInt32As (field : FieldKind) :
    Ensures (readUInt32As field) fun _ n => n = 4 := by
  intro bytes value rest hok
  match bytes, hok with
  | b0 :: b1 :: b2 :: b3 :: tail, hok =>
      cases hok
      exact ⟨[b0, b1, b2, b3], rfl, rfl⟩

theorem ensures_readInt8 : Ensures readInt8 fun _ n => n = 1 :=
  (ensures_readUInt8As .int8).map fun _ _ h => h

theorem ensures_readInt16 : Ensures readInt16 fun _ n => n = 2 :=
  (ensures_readUInt16As .int16).map fun _ _ h => h

theorem ensures_readInt32 : Ensures readInt32 fun _ n => n = 4 :=
  (ensures_readUInt32As .int32).map fun _ _ h => h

theorem ensures_readBytes (field : FieldKind) (n : Nat) :
    Ensures (readBytes field n) fun _ m => m = n := by
  intro bytes value rest hok
  rw [readBytes] at hok
  split at hok
  · rename_i hn
    cases hok
    exact ⟨bytes.take n, (List.take_append_drop n bytes).symm, by simp [hn]⟩
  · cases hok

end Wire
end ServoLink
