import ServoLink.Console.Program
import ServoLink.Proofs.Console.Command
import ServoLink.Proofs.Session.Sending

/-!
# Operator's lines — which registers a line writes

A line is obeyed in surroundings that note every datagram.  The only writes among them are the one
that the line types, with its number in the type of the register, and the period that a handshake
writes when the line makes the session reconnect.  A line that types no number that its register can
hold is refused with nothing sent.

* `Value.ofInt?_eq_some_iff` — the value of a number in a type;
* `withstands_execute`, `noted_obey` — what a command, and a line, sends;
* `obey_of_unstorable` — the lines that are refused;
* `writes_guarded` — every line, in any surroundings and any state of the session;
* `reset_writes_period` — a line that writes though it does not begin with `write`.
-/

namespace ServoLink

open Net Wire Register

/-! ## Values -/

section Values

variable {type : DataType} {n : Int} {value : Value}

/-- Words that stand for the integers of a range, each for one: a number of the range is stored as
the word that stands for it. -/
theorem Register.Value.fits_eq_some_iff {α : Type} (make : α → Value) {low high : Int}
    (store : Int → α) (number : α → Int)
    (hnumber : ∀ m, low ≤ m → m ≤ high → number (store m) = m)
    (hrange : ∀ word, low ≤ number word ∧ number word ≤ high)
    (hstore : ∀ word, store (number word) = word) :
    (if low ≤ n ∧ n ≤ high then some (make (store n)) else none) = some value ↔
      ∃ word, value = make word ∧ number word = n := by
  constructor
  · intro hvalue
    obtain ⟨⟨hlow, hhigh⟩, hsome⟩ := Option.ite_none_right_eq_some.1 hvalue
    exact ⟨store n, (Option.some.inj hsome).symm, hnumber n hlow hhigh⟩
  · rintro ⟨word, rfl, rfl⟩
    rw [if_pos (hrange word), hstore]

/-- A number is stored as the value of that type that stands for it, if there is one. -/
theorem Register.Value.ofInt?_eq_some_iff (h : type ≠ .float32) :
    Value.ofInt? type n = some value ↔ value.dataType = type ∧ value.toInt? = some n := by
  cases type with
  | float32 => exact absurd rfl h
  | string =>
      constructor
      · rintro ⟨⟩
      · rintro ⟨htype, hn⟩
        cases value with
        | string => cases hn
        | _ => cases htype
  | int8 =>
      refine (fits_eq_some_iff .int8 Int8.ofInt Int8.toInt ?_ ?_
        fun v => Int8.ofInt_toInt v).trans ?_
      · exact fun m hlow hhigh => Int8.toInt_ofInt_of_le hlow (by omega)
      · exact fun v => ⟨v.le_toInt, Int.le_of_lt_add_one v.toInt_lt⟩
      · cases value <;> simp [dataType, toInt?]
  | int16 =>
      refine (fits_eq_some_iff .int16 Int16.ofInt Int16.toInt ?_ ?_
        fun v => Int16.ofInt_toInt v).trans ?_
      · exact fun m hlow hhigh => Int16.toInt_ofInt_of_le hlow (by omega)
      · exact fun v => ⟨v.le_toInt, Int.le_of_lt_add_one v.toInt_lt⟩
      · cases value <;> simp [dataType, toInt?]
  | int32 =>
      refine (fits_eq_some_iff .int32 Int32.ofInt Int32.toInt ?_ ?_
        fun v => Int32.ofInt_toInt v).trans ?_
      · exact fun m hlow hhigh => Int32.toInt_ofInt_of_le hlow (by omega)
      · exact fun v => ⟨v.le_toInt, Int.le_of_lt_add_one v.toInt_lt⟩
      · cases value <;> simp [dataType, toInt?]
  | uint8 =>
      refine (fits_eq_some_iff .uint8 (fun m => UInt8.ofNat m.toNat) (fun v => (v.toNat : Int))
        ?_ ?_ fun v => UInt8.ofNat_toNat).trans ?_
      · intro m hlow hhigh
        rw [UInt8.toNat_ofNat_of_lt' (by show m.toNat < 256; omega), Int.toNat_of_nonneg hlow]
      · intro v
        have hlt := v.toNat_lt
        omega
      · cases value <;> simp [dataType, toInt?]
  | uint16 =>
      refine (fits_eq_some_iff .uint16 (fun m => UInt16.ofNat m.toNat) (fun v => (v.toNat : Int))
        ?_ ?_ fun v => UInt16.ofNat_toNat).trans ?_
      · intro m hlow hhigh
        rw [UInt16.toNat_ofNat_of_lt' (by show m.toNat < 65536; omega), Int.toNat_of_nonneg hlow]
      · intro v
        have hlt := v.toNat_lt
        omega
      · cases value <;> simp [dataType, toInt?]
  | uint32 =>
      refine (fits_eq_some_iff .uint32 (fun m => UInt32.ofNat m.toNat) (fun v => (v.toNat : Int))
        ?_ ?_ fun v => UInt32.ofNat_toNat).trans ?_
      · intro m hlow hhigh
        rw [UInt32.toNat_ofNat_of_lt' (by show m.toNat < 4294967296; omega),
          Int.toNat_of_nonneg hlow]
      · intro v
        have hlt := v.toNat_lt
        omega
      · cases value <;> simp [dataType, toInt?]

end Values

namespace Console
namespace Program

theorem writtenType_ne_float32 (a : Address) : writtenType a ≠ .float32 := by
  have hcatalog : ∀ entry ∈ catalog, entry.dataType ≠ .float32 := by decide
  unfold writtenType descriptor?
  cases hfound : catalog.find? fun entry => entry.address == a with
  | none => decide
  | some entry => exact hcatalog entry (List.mem_of_find?_eq_some hfound)

/-- The register can hold the number: there is a value of its type that stands for it. -/
def Storable (a : Address) (n : Int) : Prop :=
  ∃ value : Value, value.dataType = writtenType a ∧ value.toInt? = some n

theorem storable_iff {a : Address} {n : Int} :
    Storable a n ↔ ∃ value, Value.ofInt? (writtenType a) n = some value := by
  unfold Storable
  simp only [Value.ofInt?_eq_some_iff (writtenType_ne_float32 a)]

/-! ## Sending -/

section Sending

variable {ω : Type} {env : Surroundings ω} {I : ω → Prop} {writes : WriteRequest → Prop}
variable {line : String} {s : Session ω}

theorem session_report {α : Type} (shown : α → List Output)
    (result : Except LinkError α × Session ω) : (report line shown result).2 = result.2 := by
  obtain ⟨result, s⟩ := result
  cases result with
  | ok value => rfl
  | error cause => rfl

/-- What a command writes: the number it holds, or the period that a handshake writes. -/
theorem withstands_execute (henv : ∀ peer, Withstands I writes (env.react peer))
    {command : Command} (hperiod : command = .reset → ∀ period, writes ⟨.cycleTime, .uint32 period⟩)
    (hwrite : ∀ a n value, command = .write a n → Value.ofInt? (writtenType a) n = some value →
      writes ⟨a, value⟩)
    (hworld : I s.world) : I (execute env line command s).2.world := by
  -- An order is only handed to the cyclic thread.
  have horder : ∀ c : Motion.OperatorCommand,
      I (report line (fun _ => []) (s.command c)).2.world := by
    intro c
    rw [session_report, Session.world_command]
    exact hworld
  cases command with
  | enable => exact horder .enable
  | disable => exact horder .disable
  | home => exact horder .home
  | move mm => exact horder (.moveTo (.ofMillimeters mm))
  | stop => exact horder .stop
  | acknowledge => exact horder .faultAcknowledge
  | reset =>
      unfold execute
      dsimp only
      rw [session_report]
      exact Session.withstands_started henv (Session.withstands_reset henv (hperiod rfl) hworld)
  | read address =>
      unfold execute
      dsimp only
      rw [session_report]
      exact Session.withstands_read henv address .never hworld
  | write a n =>
      unfold execute
      dsimp only
      cases hvalue : Value.ofInt? (writtenType a) n with
      | none => exact hworld
      | some value =>
          dsimp only
          rw [session_report]
          exact Session.withstands_write henv (hwrite a n value rfl hvalue) .never hworld
  | status => exact hworld
  | quit => exact hworld

end Sending

/-- The line types the write, with its number in the type of the register; or it makes the session
reconnect, and the write is that of the period. -/
def Vouches (line : String) (w : WriteRequest) : Prop :=
  (∃ n, Typed line w.address n ∧ w.value.dataType = writtenType w.address
      ∧ w.value.toInt? = some n)
    ∨ Begins line "reset" ∧ ∃ period, w = ⟨.cycleTime, .uint32 period⟩

section Lines

variable {ω : Type} {line : String}

/-- The line vouches for every write that it sends. -/
theorem noted_obey (env : Surroundings ω) {s after : Session (Recorded ω)} {shown : List Output}
    (h : obey env.recorded line s = some (shown, after)) :
    Noted (Vouches line) s.world after.world := by
  unfold obey at h
  cases hparse : Command.parse line with
  | error e =>
      rw [hparse] at h
      cases h
      exact .refl
  | ok parsed =>
      rw [hparse] at h
      cases parsed with
      | none =>
          cases h
          exact .refl
      | some command =>
          have hnoted : Noted (Vouches line) s.world
              (execute env.recorded line command s).2.world := by
            refine withstands_execute (Noted.withstands env) ?_ ?_ .refl
            · rintro rfl period
              obtain ⟨verb, hverb, hbegins⟩ := begins_of_parse hparse
              obtain rfl := List.mem_singleton.1 hverb
              exact Or.inr ⟨hbegins, period, rfl⟩
            · rintro a n value rfl hvalue
              exact Or.inl ⟨n, parse_eq_write_iff.1 hparse,
                (Value.ofInt?_eq_some_iff (writtenType_ne_float32 a)).1 hvalue⟩
          cases command with
          | quit => cases h
          | _ =>
              rw [Option.some.inj h] at hnoted
              exact hnoted

/-- A line that begins with `write` and types no number that its register can hold is refused. -/
theorem obey_of_unstorable (env : Surroundings ω) (s : Session ω)
    (hbegins : Begins line "write") (hno : ∀ a n, Typed line a n → ¬ Storable a n) :
    ∃ message, obey env line s = some ([.record .warn message], s) := by
  unfold obey
  rcases parse_of_begins hbegins with ⟨a, n, hparse⟩ | ⟨e, hparse⟩
  · have hnone : Value.ofInt? (writtenType a) n = none := by
      rw [Option.eq_none_iff_forall_not_mem]
      intro value hvalue
      exact hno a n (parse_eq_write_iff.1 hparse) (storable_iff.2 ⟨value, hvalue⟩)
    rw [hparse]
    unfold execute
    dsimp only
    rw [hnone]
    exact ⟨_, rfl⟩
  · rw [hparse]
    exact ⟨_, rfl⟩

end Lines

/-! ## Guard -/

/-- What a line can write, and which lines write nothing. -/
structure Guarded {ω : Type} (env : Surroundings ω) (line : String) (s : Session (Recorded ω)) :
    Prop where
  /-- Every write among the datagrams that the line sends is one that it vouches for. -/
  writes : ∀ shown after, obey env.recorded line s = some (shown, after) →
    ∃ sent, after.world.sent = sent ++ s.world.sent
      ∧ ∀ datagram ∈ sent, ∀ sequence w,
        Frame.decode datagram = .ok ⟨sequence, .registerWrite w⟩ → Vouches line w
  /-- A line that begins with `write`, but not with numbers that can be written, sends nothing, and an
  error is shown. -/
  refused : Begins line "write" → (∀ a n, Typed line a n → ¬ Storable a n) →
    ∃ message, obey env.recorded line s = some ([.record .warn message], s)
  /-- Plain numbers with blanks between them are read as they were written. -/
  plain : ∀ (a : Address) (v : Int64) (index subindex value first second third : List Char),
    Numeral a.index.toNat index → Numeral a.subindex.toNat subindex → Numeral v.toInt value →
      (∀ gap ∈ [first, second, third], Text.Blanks gap ∧ gap ≠ []) →
        line = String.ofList ("write".toList ++ first ++ (index ++ second ++ (subindex ++ third
          ++ value))) →
          Command.parse line = .ok (some (.write a v.toInt))

/-- For every line, in any surroundings and any state of the session. -/
theorem writes_guarded {ω : Type} (env : Surroundings ω) (line : String)
    (s : Session (Recorded ω)) : Guarded env line s where
  writes := fun _ _ hobey => noted_obey env hobey
  refused := obey_of_unstorable env.recorded s
  plain := by
    rintro a v index subindex value first second third hindex hsubindex hvalue hgaps rfl
    have hfits : Fits64 v.toInt := ⟨Int64.minValue_le_toInt v, v.toInt_le⟩
    exact parse_eq_write_iff.2 (typed_of_numerals hfits hindex hsubindex hvalue hgaps)

/-! ## Reconnecting -/

/-- A session connected to the simulated drive; what it has sent is noted. -/
def linked : Session (Recorded Rehearsal.Site) :=
  let site : Recorded Rehearsal.Site := ⟨{ drive := some (.new {}) }, []⟩
  (Rehearsal.started Rehearsal.Site.surroundings.recorded
    ((Session.new { drive := Rehearsal.Site.driveSettings } site).connect
      Rehearsal.Site.surroundings.recorded)).2

/-- The datagrams of reconnecting, the latest first: a control frame, and the handshake before it. -/
def resetDatagrams : List (List UInt8) :=
  [[0x02, 0x01, 0, 0, 10, 0, 0x01, 0, 0, 0, 0x7F, 0, 0, 0, 0x36, 0],
   [0x02, 0x10, 5, 0, 3, 0, 0x10, 0, 0],
   [0x02, 0x11, 4, 0, 8, 0, 0x10, 0, 0, 5, 0xD0, 0x07, 0, 0],
   [0x02, 0x10, 3, 0, 3, 0, 0x12, 0, 0],
   [0x02, 0x10, 2, 0, 3, 0, 0x11, 0, 0],
   [0x02, 0x10, 1, 0, 3, 0, 0x02, 0, 0],
   [0x02, 0x10, 0, 0, 3, 0, 0x01, 0, 0]]

/-- The line `reset` makes the session reconnect, and the handshake writes the period: a write is
sent, though the line does not begin with `write`. -/
theorem reset_writes_period :
    (∃ shown after, obey Rehearsal.Site.surroundings.recorded "reset" linked = some (shown, after)
        ∧ after.world.sent = resetDatagrams ++ linked.world.sent)
      ∧ (∃ datagram ∈ resetDatagrams, Frame.decode datagram =
        .ok ⟨4, .registerWrite ⟨.cycleTime, .uint32 2000⟩⟩)
      ∧ ¬ Begins "reset" "write" := by
  have hsent : (obey Rehearsal.Site.surroundings.recorded "reset" linked).map
      (fun step => step.2.world.sent) = some (resetDatagrams ++ linked.world.sent) := by
    decide +kernel
  refine ⟨?_, ⟨[0x02, 0x11, 4, 0, 8, 0, 0x10, 0, 0, 5, 0xD0, 0x07, 0, 0], ?_, ?_⟩, ?_⟩
  · obtain ⟨⟨shown, after⟩, hobey, hafter⟩ := Option.map_eq_some_iff.1 hsent
    exact ⟨shown, after, hobey, hafter⟩
  · decide
  · decide +kernel
  · rintro ⟨arguments, hwords⟩
    have hsplit := Text.words_eq_iff.2 hwords
    have hword : (Text.words "reset").head? = some "reset".toList := by decide +kernel
    rw [hsplit] at hword
    exact absurd (Option.some.inj hword) (by decide)

/-- A write that is typed is sent. -/
example : (obey Rehearsal.Site.surroundings.recorded "write 16 0 500" linked).map
    (fun step => step.2.world.sent) =
      some ([0x02, 0x11, 6, 0, 8, 0, 0x10, 0, 0, 5, 0xF4, 0x01, 0, 0] :: linked.world.sent) := by
  decide +kernel

end Program
end Console
end ServoLink
