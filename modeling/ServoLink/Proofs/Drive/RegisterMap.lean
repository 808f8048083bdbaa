import ServoLink.Drive.RegisterMap
import ServoLink.Proofs.Register.Message

/-!
# Register map — one access after another

An access is a read or a write.  It gives a reply, and a map with which the same access gives the
same reply and changes nothing more: repeating a request does no harm.

* `Access.apply_apply` — an access repeated;
* `Access.value?_of_ok` — what the register holds after an access that succeeded.
-/

namespace ServoLink
namespace Drive

open Register

namespace RegisterMap

variable {r : RegisterMap} {address : Address} {value : Value}

theorem lookup_put (address : Address) (cell : Cell) (cells : List (Address × Cell)) :
    (put address cell cells).lookup address = some cell := by
  induction cells with
  | nil => simp [put]
  | cons entry rest ih =>
      rcases entry with ⟨a, earlier⟩
      unfold put
      by_cases hsame : a = address
      · simp [hsame]
      · have hother : (address == a) = false := by simpa using fun h => hsame h.symm
        simp [hsame, List.lookup_cons, hother, ih]

theorem lookup_put_of_ne {address other : Address} (h : other ≠ address) (cell : Cell)
    (cells : List (Address × Cell)) :
    (put address cell cells).lookup other = cells.lookup other := by
  have hdiffers : (other == address) = false := by simpa using h
  induction cells with
  | nil => simp [put, List.lookup_cons, hdiffers]
  | cons entry rest ih =>
      rcases entry with ⟨a, earlier⟩
      unfold put
      by_cases hsame : a = address
      · simp [hsame, List.lookup_cons, hdiffers]
      · simp [hsame, List.lookup_cons, ih]

/-- Putting a cell that is there changes nothing. -/
theorem put_eq_self {cell : Cell} {cells : List (Address × Cell)}
    (h : cells.lookup address = some cell) : put address cell cells = cells := by
  induction cells with
  | nil => cases h
  | cons entry rest ih =>
      rcases entry with ⟨a, earlier⟩
      unfold put
      by_cases hsame : a = address
      · have hcell : earlier = cell := by simpa [hsame] using h
        simp [hsame, hcell]
      · have hother : (address == a) = false := by simpa using fun h => hsame h.symm
        have hrest : rest.lookup address = some cell := by
          simpa [List.lookup_cons, hother] using h
        simp [hsame, ih hrest]

/-- A write is refused, or stores the value in a register that can be written. -/
theorem write_cases (r : RegisterMap) (address : Address) (value : Value) :
    (∃ status, r.objection? address value = some status
        ∧ r.write address value = (.refused address status, r))
      ∨ (r.objection? address value = none ∧ r.write address value =
        (.accepted address value,
          { r with cells := put address ⟨value, .readWrite⟩ r.cells })) := by
  unfold write
  cases hobjection : r.objection? address value with
  | some status => exact Or.inl ⟨status, rfl, rfl⟩
  | none => exact Or.inr ⟨rfl, rfl⟩

/-- No refusal is a success. -/
theorem isOk_of_objection? {status : Status} (h : r.objection? address value = some status) :
    status.isOk = false := by
  unfold objection? at h
  dsimp only at h
  split at h
  · cases h
    rfl
  · split at h
    · cases h
      rfl
    · split at h
      · cases h
        rfl
      · cases h

/-- A write is accepted where the register, if it exists, can be written and has the type of the value,
and a cycle time lies in the window. -/
theorem objection?_eq_none_iff :
    r.objection? address value = none ↔
      (∀ cell, r.get? address = some cell →
        cell.access = .readWrite ∧ cell.value.dataType = value.dataType)
        ∧ (address = .cycleTime → r.inWindow value) := by
  have haccess : ∀ access : Access, access = .readWrite ↔ access ≠ .readOnly := by
    intro access
    cases access <;> simp
  unfold objection?
  dsimp only
  cases hget : r.get? address with
  | none => simp
  | some cell =>
      by_cases hreadOnly : cell.access = .readOnly
      · simp [hreadOnly]
      · by_cases htype : cell.value.dataType = value.dataType
        · simp [haccess, hreadOnly, htype]
        · simp [hreadOnly, htype]

theorem isOk_write_iff : (r.write address value).1.status.isOk ↔ r.objection? address value = none := by
  rcases r.write_cases address value with ⟨status, hobjection, hrefused⟩ | ⟨hnone, haccepted⟩
  · rw [hrefused, hobjection]
    have hrefusal : (Reply.refused address status).status.isOk = false := isOk_of_objection? hobjection
    simp [hrefusal]
  · rw [haccepted, hnone]
    exact iff_of_true rfl rfl

/-- A value that was stored can be stored again. -/
theorem objection?_stored (h : r.objection? address value = none) :
    RegisterMap.objection? { r with cells := put address ⟨value, .readWrite⟩ r.cells } address
      value = none := by
  refine objection?_eq_none_iff.2 ⟨?_, (objection?_eq_none_iff.1 h).2⟩
  intro cell hcell
  have hput := lookup_put address ⟨value, .readWrite⟩ r.cells
  cases hput.symm.trans hcell
  exact ⟨rfl, rfl⟩

/-- Writing the same value again gives the same reply and changes nothing. -/
theorem write_write (r : RegisterMap) (address : Address) (value : Value) :
    (r.write address value).2.write address value = r.write address value := by
  rcases r.write_cases address value with ⟨status, -, hrefused⟩ | ⟨hnone, haccepted⟩
  · rw [hrefused]
    exact hrefused
  · rw [haccepted]
    have hput := put_eq_self (lookup_put address ⟨value, .readWrite⟩ r.cells)
    unfold write
    rw [objection?_stored hnone]
    dsimp only
    rw [hput]

/-- A write that succeeds stores the value. -/
theorem value?_of_write (h : (r.write address value).1.status.isOk) :
    (r.write address value).2.value? address = some value := by
  rcases r.write_cases address value with ⟨status, hobjection, hrefused⟩ | ⟨-, haccepted⟩
  · rw [hrefused] at h
    have hok : status.isOk := h
    rw [isOk_of_objection? hobjection] at hok
    cases hok
  · rw [haccepted]
    have hget := lookup_put address ⟨value, .readWrite⟩ r.cells
    unfold value? get?
    dsimp only
    rw [hget]
    rfl

/-- The value in the reply to a read is the one the register holds. -/
theorem value?_of_read {held : Value} (h : (r.read address).value = some held) :
    r.value? address = some held := by
  unfold read at h
  unfold value?
  cases hget : r.get? address with
  | none =>
      rw [hget] at h
      cases h
  | some cell =>
      rw [hget] at h
      exact h

theorem canonical_read (r : RegisterMap) (address : Address) : (r.read address).Canonical := by
  unfold read
  cases r.get? address with
  | none => rfl
  | some cell => rfl

theorem canonical_write (r : RegisterMap) (address : Address) (value : Value) :
    (r.write address value).1.Canonical := by
  rcases r.write_cases address value with ⟨status, hobjection, hrefused⟩ | ⟨-, haccepted⟩
  · rw [hrefused]
    have hrefusal := isOk_of_objection? hobjection
    show (none : Option Value).isSome = status.isOk
    rw [hrefusal]
    rfl
  · rw [haccepted]
    rfl

end RegisterMap

/-! ## Accesses -/

/-- What a register request asks of the map. -/
inductive MapAccess where
  | read (address : Address)
  | write (address : Address) (value : Value)
  deriving DecidableEq, Repr

namespace MapAccess

def address : MapAccess → Address
  | read address | write address _ => address

/-- The reply and the map after it. -/
def apply (access : MapAccess) (map : RegisterMap) : Reply × RegisterMap :=
  match access with
  | read address => (map.read address, map)
  | write address value => map.write address value

/-- An access repeated gives the same reply and changes nothing. -/
theorem apply_apply (access : MapAccess) (map : RegisterMap) :
    access.apply (access.apply map).2 = access.apply map := by
  cases access with
  | read address => rfl
  | write address value => exact map.write_write address value

theorem canonical_apply (access : MapAccess) (map : RegisterMap) :
    (access.apply map).1.Canonical := by
  cases access with
  | read address => exact map.canonical_read address
  | write address value => exact map.canonical_write address value

end MapAccess

end Drive
end ServoLink
