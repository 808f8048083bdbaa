import ServoLink.Proofs.Drive.RegisterMap

/-!
# Register history — a register map after any accesses

Reads and writes come in any order, at any addresses and with any values.  What an address holds
then is the value that was stored there last, or else what it began with.  Nothing but a write that
is answered ok stores a value, and such a write respects the access, the type and the window of the
register.

* `RegisterMap.value?_after` — the value of an address, read off the accesses;
* `RegisterMap.Evolves` — what an access, and so every run of them, leaves alone;
* `RegisterMap.Clocked` — the invariant of the cycle time;
* `RegisterMap.rules_after` — the rules, after every run of accesses from a new map.
-/

namespace ServoLink
namespace Drive

open Register

namespace RegisterMap

/-! ## Runs -/

/-- The map after the accesses. -/
def after (r : RegisterMap) (accesses : List MapAccess) : RegisterMap :=
  accesses.foldl (fun map access => (access.apply map).2) r

/-- The value that an access stores at the address: that of a write to it that is answered ok. -/
def stored? (r : RegisterMap) (address : Address) : MapAccess → Option Value
  | .read _ => none
  | .write other value =>
      if other = address ∧ (r.write other value).1.status.isOk then some value else none

/-- The value stored last at the address, if the accesses store any. -/
def lastStored? (address : Address) : List MapAccess → RegisterMap → Option Value
  | [], _ => none
  | access :: rest, r =>
      (lastStored? address rest (access.apply r).2).or (r.stored? address access)

section Access

variable {r r' r'' : RegisterMap} {address other : Address} {value : Value}

theorem value?_eq_some_iff :
    r.value? address = some value ↔ ∃ cell, r.get? address = some cell ∧ cell.value = value :=
  Option.map_eq_some_iff

theorem read_of_value? (h : r.value? address = some value) :
    r.read address = .accepted address value := by
  rcases value?_eq_some_iff.1 h with ⟨cell, hcell, rfl⟩
  unfold read
  rw [hcell]

/-! ## One write -/

/-- A write that is answered with an error changes nothing. -/
theorem write_of_not_isOk (h : (r.write address value).1.status.isOk = false) :
    (r.write address value).2 = r := by
  rcases r.write_cases address value with ⟨status, -, hrefused⟩ | ⟨-, haccepted⟩
  · rw [hrefused]
  · rw [haccepted] at h
    cases h

/-- After a write that is answered ok the register holds the value and can be written. -/
theorem get?_write (h : (r.write address value).1.status.isOk) :
    (r.write address value).2.get? address = some ⟨value, .readWrite⟩ := by
  rcases r.write_cases address value with ⟨status, hobjection, -⟩ | ⟨-, haccepted⟩
  · rw [isOk_write_iff.1 h] at hobjection
    cases hobjection
  · rw [haccepted]
    exact lookup_put address _ r.cells

/-- Whatever the answer, a write leaves every other address alone. -/
theorem get?_write_of_ne (r : RegisterMap) (value : Value) (h : other ≠ address) :
    (r.write address value).2.get? other = r.get? other := by
  rcases r.write_cases address value with ⟨status, -, hrefused⟩ | ⟨-, haccepted⟩
  · rw [hrefused]
  · rw [haccepted]
    exact lookup_put_of_ne h _ r.cells

theorem window_write (r : RegisterMap) (address : Address) (value : Value) :
    (r.write address value).2.cycleMin = r.cycleMin
      ∧ (r.write address value).2.cycleMax = r.cycleMax := by
  rcases r.write_cases address value with ⟨status, -, hrefused⟩ | ⟨-, haccepted⟩
  · rw [hrefused]
    exact ⟨rfl, rfl⟩
  · rw [haccepted]
    exact ⟨rfl, rfl⟩

/-! ## The value of an address -/

theorem value?_apply (r : RegisterMap) (address : Address) (access : MapAccess) :
    (access.apply r).2.value? address = (r.stored? address access).or (r.value? address) := by
  cases access with
  | read _ => rfl
  | write other value =>
      dsimp only [stored?]
      split
      · rename_i hstores
        rcases hstores with ⟨rfl, hok⟩
        exact value?_eq_some_iff.2 ⟨_, get?_write hok, rfl⟩
      · rename_i hnot
        by_cases hother : address = other
        · -- The write is to this address, so it was refused.
          have hrefused : (r.write other value).1.status.isOk = false := by
            simpa [hother] using hnot
          exact congrArg (value? · address) (write_of_not_isOk hrefused)
        · exact congrArg (Option.map Cell.value) (get?_write_of_ne r value hother)

/-- An address holds the value stored there last, or what it began with. -/
theorem value?_after (r : RegisterMap) (address : Address) (accesses : List MapAccess) :
    (r.after accesses).value? address = (lastStored? address accesses r).or (r.value? address) := by
  induction accesses generalizing r with
  | nil => rfl
  | cons access rest ih =>
      calc (r.after (access :: rest)).value? address
          = (lastStored? address rest (access.apply r).2).or
              ((access.apply r).2.value? address) := ih (access.apply r).2
        _ = (lastStored? address rest (access.apply r).2).or
              ((r.stored? address access).or (r.value? address)) := by rw [value?_apply]
        _ = (lastStored? address (access :: rest) r).or (r.value? address) :=
            Option.or_assoc.symm

/-! ## What no access changes -/

/-- Nothing that exists loses its type or its access, and nothing read-only changes. -/
structure Evolves (r r' : RegisterMap) : Prop where
  cycleMin : r'.cycleMin = r.cycleMin
  cycleMax : r'.cycleMax = r.cycleMax
  readOnly : ∀ address cell, r.get? address = some cell → cell.access = .readOnly →
    r'.get? address = some cell
  kind : ∀ address cell, r.get? address = some cell →
    ∃ later, r'.get? address = some later ∧ later.value.dataType = cell.value.dataType
      ∧ later.access = cell.access

theorem Evolves.refl (r : RegisterMap) : Evolves r r where
  cycleMin := rfl
  cycleMax := rfl
  readOnly := fun _ _ hcell _ => hcell
  kind := fun _ cell hcell => ⟨cell, hcell, rfl, rfl⟩

theorem Evolves.trans (h : Evolves r r') (h' : Evolves r' r'') : Evolves r r'' where
  cycleMin := h'.cycleMin.trans h.cycleMin
  cycleMax := h'.cycleMax.trans h.cycleMax
  readOnly := by
    intro address cell hcell haccess
    exact h'.readOnly address cell (h.readOnly address cell hcell haccess) haccess
  kind := by
    intro address cell hcell
    rcases h.kind address cell hcell with ⟨next, hnext, htype, haccess⟩
    rcases h'.kind address next hnext with ⟨later, hlater, htype', haccess'⟩
    exact ⟨later, hlater, htype'.trans htype, haccess'.trans haccess⟩

theorem evolves_write (r : RegisterMap) (address : Address) (value : Value) :
    Evolves r (r.write address value).2 := by
  cases hok : (r.write address value).1.status.isOk with
  | false =>
      rw [write_of_not_isOk hok]
      exact Evolves.refl r
  | true =>
      have hwritten := get?_write hok
      have hallowed := (objection?_eq_none_iff.1 (isOk_write_iff.1 hok)).1
      refine ⟨(window_write r address value).1, (window_write r address value).2, ?_, ?_⟩
      · intro other cell hcell haccess
        by_cases hsame : other = address
        · -- A read-only register would have refused the write.
          have hwritable := (hallowed cell (hsame ▸ hcell)).1
          rw [hwritable] at haccess
          cases haccess
        · rw [get?_write_of_ne r value hsame]
          exact hcell
      · intro other cell hcell
        by_cases hsame : other = address
        · subst hsame
          rcases hallowed cell hcell with ⟨haccess, htype⟩
          exact ⟨_, hwritten, htype.symm, haccess.symm⟩
        · refine ⟨cell, ?_, rfl, rfl⟩
          rw [get?_write_of_ne r value hsame]
          exact hcell

theorem evolves_apply (r : RegisterMap) (access : MapAccess) : Evolves r (access.apply r).2 := by
  cases access with
  | read _ => exact Evolves.refl r
  | write address value => exact evolves_write r address value

/-- No run of accesses changes it, either. -/
theorem evolves_after (r : RegisterMap) (accesses : List MapAccess) :
    Evolves r (r.after accesses) := by
  induction accesses generalizing r with
  | nil => exact Evolves.refl r
  | cons access rest ih => exact (evolves_apply r access).trans (ih (access.apply r).2)

/-! ## The cycle time -/

theorem inWindow_uint32 (r : RegisterMap) (word : UInt32) :
    r.inWindow (.uint32 word) ↔ r.cycleMin ≤ word ∧ word ≤ r.cycleMax := by
  unfold inWindow
  rw [Value.toUInt32?_uint32]
  simp

theorem eq_uint32_of_dataType (h : value.dataType = .uint32) : ∃ word, value = .uint32 word := by
  cases value with
  | uint32 word => exact ⟨word, rfl⟩
  | _ => cases h

/-- The cycle time is that of the options, or lies in their window. -/
structure Clocked (o : Options) (r : RegisterMap) : Prop where
  cycleMin : r.cycleMin = o.cycleTimeMinUs
  cycleMax : r.cycleMax = o.cycleTimeMaxUs
  cycleTime : ∃ word, r.value? .cycleTime = some (.uint32 word)
    ∧ (word = o.cycleTimeUs ∨ o.cycleTimeMinUs ≤ word ∧ word ≤ o.cycleTimeMaxUs)

theorem clocked_new (o : Options) : (new o).Clocked o where
  cycleMin := rfl
  cycleMax := rfl
  cycleTime := ⟨o.cycleTimeUs, rfl, Or.inl rfl⟩

theorem Clocked.write {o : Options} (h : r.Clocked o) (address : Address) (value : Value) :
    (r.write address value).2.Clocked o := by
  cases hok : (r.write address value).1.status.isOk with
  | false =>
      rw [write_of_not_isOk hok]
      exact h
  | true =>
      rcases window_write r address value with ⟨hmin, hmax⟩
      refine ⟨hmin.trans h.cycleMin, hmax.trans h.cycleMax, ?_⟩
      rcases h.cycleTime with ⟨earlier, hearlier, hinside⟩
      by_cases hsame : address = .cycleTime
      · -- The register keeps its type, so what is stored is a word; the window has been checked.
        rcases objection?_eq_none_iff.1 (isOk_write_iff.1 hok) with ⟨hallowed, hwindow⟩
        rcases value?_eq_some_iff.1 hearlier with ⟨cell, hcell, hvalue⟩
        have htype := (hallowed cell (by rw [hsame]; exact hcell)).2
        rw [hvalue] at htype
        rcases eq_uint32_of_dataType htype.symm with ⟨word, rfl⟩
        have hfits := (inWindow_uint32 r word).1 (hwindow hsame)
        rw [h.cycleMin, h.cycleMax] at hfits
        subst hsame
        exact ⟨word, value?_eq_some_iff.2 ⟨_, get?_write hok, rfl⟩, Or.inr hfits⟩
      · refine ⟨earlier, ?_, hinside⟩
        have hother := get?_write_of_ne r value (Ne.symm hsame)
        exact (congrArg (Option.map Cell.value) hother).trans hearlier

theorem Clocked.after {o : Options} (h : r.Clocked o) (accesses : List MapAccess) :
    (r.after accesses).Clocked o := by
  induction accesses generalizing r with
  | nil => exact h
  | cons access rest ih =>
      cases access with
      | read _ => exact ih h
      | write address value => exact ih (h.write address value)

end Access

/-! ## Every run -/

/-- The registers that cannot be written, with their values. -/
def constants (o : Options) : List (Address × Value) :=
  [(.firmwareVersion, .uint32 o.firmware.packed), (.deviceId, .string o.deviceId),
   (.cycleTimeMin, .uint32 o.cycleTimeMinUs), (.cycleTimeMax, .uint32 o.cycleTimeMaxUs)]

/-- The rules of the register map of a drive with the given options. -/
structure Rules (o : Options) (r : RegisterMap) : Prop where
  /-- A value written with success is read until another is. -/
  stored : ∀ address value, (r.write address value).1.status.isOk → ∀ later,
    lastStored? address later (r.write address value).2 = none →
      ((r.write address value).2.after later).read address = .accepted address value
  confined : ∀ address value other, other ≠ address →
    (r.write address value).2.get? other = r.get? other
  refused : ∀ address value, (r.write address value).1.status.isOk = false →
    (r.write address value).2 = r
  constant : ∀ entry ∈ constants o,
    r.get? entry.1 = some ⟨entry.2, .readOnly⟩ ∧ r.read entry.1 = .accepted entry.1 entry.2
  /-- A register that exists keeps its type and its access. -/
  kept : ∀ address cell, r.get? address = some cell → ∀ later,
    ∃ held, (r.after later).get? address = some held
      ∧ held.value.dataType = cell.value.dataType ∧ held.access = cell.access
  cycleTime : ∃ word, r.value? .cycleTime = some (.uint32 word)
    ∧ (word = o.cycleTimeUs ∨ o.cycleTimeMinUs ≤ word ∧ word ≤ o.cycleTimeMaxUs)

theorem get?_constants (o : Options) {entry : Address × Value} (h : entry ∈ constants o) :
    (new o).get? entry.1 = some ⟨entry.2, .readOnly⟩ := by
  simp only [constants, List.mem_cons, List.not_mem_nil, or_false] at h
  rcases h with rfl | rfl | rfl | rfl <;> rfl

/-- After any reads and writes, whatever the options of the drive, its register map obeys the
rules. -/
theorem rules_after (o : Options) (accesses : List MapAccess) :
    Rules o ((new o).after accesses) where
  stored := by
    intro address value hok later hlast
    have hwritten := value?_eq_some_iff.2 ⟨_, get?_write hok, rfl⟩
    refine read_of_value? ?_
    rw [value?_after, hlast, Option.none_or]
    exact hwritten
  confined := fun _ value _ hother => get?_write_of_ne _ value hother
  refused := fun _ _ hrefused => write_of_not_isOk hrefused
  constant := by
    intro entry hentry
    have hheld := (evolves_after (new o) accesses).readOnly _ _ (get?_constants o hentry) rfl
    exact ⟨hheld, read_of_value? (value?_eq_some_iff.2 ⟨_, hheld, rfl⟩)⟩
  kept := fun address cell hcell later => (evolves_after _ later).kind address cell hcell
  cycleTime := ((clocked_new o).after accesses).cycleTime

end RegisterMap

end Drive
end ServoLink
