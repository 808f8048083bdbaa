import ServoLink.Proofs.Drive.Model

/-!
# Arithmetic — a frame in 32-bit words

The distance between two positions need not fit a word.  So the drive saturates it, moves it between
two bounds, and only then adds it to the position, with an addition that must not overflow.  Here
every such operation is checked, and passes each check: what saturation cuts off lies beyond the
bounds, and between the position and the target there are only words.

* `Model.approach` — the position, moved toward the target by a bounded distance;
* `Model.toInt_approach` — the same over the integers, without saturation;
* `Model.advance?` — a frame with its operations checked;
* `Model.advance?_eq` — it is the frame.
-/

namespace ServoLink
namespace Drive

open ProcessData

/-! ## Words -/

/-- The number is that of a word. -/
def Fits (n : Int) : Prop := Int32.minValue.toInt ≤ n ∧ n ≤ Int32.maxValue.toInt

instance (n : Int) : Decidable (Fits n) := inferInstanceAs (Decidable (_ ∧ _))

/-- The least word is one less than minus the greatest. -/
theorem minValue_add_maxValue : Int32.minValue.toInt + Int32.maxValue.toInt = -1 := by decide

theorem zero_le_maxValue : 0 ≤ Int32.maxValue.toInt := by decide

theorem fits_toInt (word : Int32) : Fits word.toInt := ⟨Int32.minValue_le_toInt word, word.toInt_le⟩

theorem Fits.toInt_ofInt {n : Int} (h : Fits n) : (Int32.ofInt n).toInt = n := by
  rw [← Int32.ofIntLE_eq_ofInt h.1 h.2, Int32.toInt_ofIntLE]

/-- A saturated result is the exact one, moved between the least word and the greatest. -/
theorem toInt_ofIntClamp (n : Int) :
    (Int32.ofIntClamp n).toInt = clampInt Int32.minValue.toInt Int32.maxValue.toInt n := by
  have hsum := minValue_add_maxValue
  have hmax := zero_le_maxValue
  unfold Int32.ofIntClamp clampInt
  split
  · split
    · rw [Int32.toInt_ofIntLE]
      omega
    · omega
  · omega

/-! ## Moving toward the target -/

/-- The number lies between the two, in whichever order. -/
def Between (a b x : Int) : Prop := min a b ≤ x ∧ x ≤ max a b

namespace Model

/-- The position, moved toward the target by so much at most. -/
def approach (m : Model) (bound : Int) : Int32 := m.moved (clampInt (-bound) bound m.remaining)

/-- The operations of `approach` in words: the bounds are words and in order, and the sum is a word. -/
structure Sound (m : Model) (bound : Int) : Prop where
  negated : Fits (-bound)
  ordered : -bound ≤ bound
  sum : Fits (m.position.toInt + clampInt (-bound) bound m.remaining)

section Approach

variable (m : Model) {bound : Int}

theorem remaining_eq :
    m.remaining = clampInt Int32.minValue.toInt Int32.maxValue.toInt
      (m.target.toInt - m.position.toInt) :=
  toInt_ofIntClamp _

/-- Within the bounds, saturation makes no difference. -/
theorem clampInt_remaining (hbound : bound ≤ Int32.maxValue.toInt) :
    clampInt (-bound) bound m.remaining =
      clampInt (-bound) bound (m.target.toInt - m.position.toInt) := by
  have hsum := minValue_add_maxValue
  have hmax := zero_le_maxValue
  rw [remaining_eq]
  unfold clampInt
  omega

theorem sound (hpositive : 0 ≤ bound) (hbound : bound ≤ Int32.maxValue.toInt) : m.Sound bound := by
  have hsum := minValue_add_maxValue
  have hposition := fits_toInt m.position
  have htarget := fits_toInt m.target
  refine ⟨⟨by omega, by omega⟩, by omega, ?_⟩
  -- The sum lies between the position and the target.
  rw [clampInt_remaining m hbound]
  unfold Fits at *
  unfold clampInt
  omega

/-- Over the integers. -/
theorem toInt_approach (hpositive : 0 ≤ bound) (hbound : bound ≤ Int32.maxValue.toInt) :
    (m.approach bound).toInt =
      m.position.toInt + clampInt (-bound) bound (m.target.toInt - m.position.toInt) :=
  calc (m.approach bound).toInt
      = m.position.toInt + clampInt (-bound) bound m.remaining :=
        (m.sound hpositive hbound).sum.toInt_ofInt
    _ = m.position.toInt + clampInt (-bound) bound (m.target.toInt - m.position.toInt) := by
        rw [clampInt_remaining m hbound]

theorem between_approach (hpositive : 0 ≤ bound) (hbound : bound ≤ Int32.maxValue.toInt) :
    Between m.position.toInt m.target.toInt (m.approach bound).toInt := by
  rw [toInt_approach m hpositive hbound]
  unfold Between clampInt
  omega

/-- How far it is from the position to the target. -/
def distance : Nat := (m.target.toInt - m.position.toInt).natAbs

theorem natAbs_approach_sub (hpositive : 0 ≤ bound) (hbound : bound ≤ Int32.maxValue.toInt) :
    ((m.approach bound).toInt - m.position.toInt).natAbs = min m.distance bound.toNat := by
  rw [toInt_approach m hpositive hbound]
  unfold distance clampInt
  omega

theorem natAbs_sub_approach (hpositive : 0 ≤ bound) (hbound : bound ≤ Int32.maxValue.toInt) :
    (m.target.toInt - (m.approach bound).toInt).natAbs = m.distance - bound.toNat := by
  rw [toInt_approach m hpositive hbound]
  unfold distance clampInt
  omega

end Approach

/-! ## A frame, checked -/

instance (m : Model) (bound : Int) : Decidable (m.Sound bound) :=
  decidable_of_iff (Fits (-bound) ∧ -bound ≤ bound
      ∧ Fits (m.position.toInt + clampInt (-bound) bound m.remaining))
    ⟨fun h => ⟨h.1, h.2.1, h.2.2⟩, fun h => ⟨h.negated, h.ordered, h.sum⟩⟩

/-- `approach`, unless one of its operations goes wrong. -/
def approach? (m : Model) (bound : Int) : Option Int32 :=
  if m.Sound bound then some (m.approach bound) else none

/-- `stepCommand` with its operations checked. -/
def stepCommand? (m : Model) : Option MotionCommand → Option Model
  | none => some m
  | some motion =>
      if motion.count = m.motionCount then some m
      else
        let m := { m with motionCount := motion.count }
        match motion.command with
        | .goTo target _ _ _ => some { m with target := target.steps }
        | .stop _ => (m.approach? m.coast).map fun target => { m with target }
        | .noOperation | .raw .. => some m

/-- `travel` with its operations checked. -/
def travel? (m : Model) : Option Model :=
  (m.approach? m.speed.toInt).map fun position => { m with position }

/-- `advance` with its operations checked; nothing where one of them goes wrong. -/
def advance? (m : Model) (request : ControlRequest) : Option Model :=
  if (m.powered request).enabled then
    (((m.powered request).stepHoming (m.controlOf request)
      ((m.controlOf request).difference m.lastControl)).stepCommand? request.motion).bind travel?
  else
    some { m.powered request with
      homingRemaining := none
      target := (m.powered request).position }

section Checked

variable {m : Model}

theorem approach?_eq {bound : Int} (hpositive : 0 ≤ bound) (hbound : bound ≤ Int32.maxValue.toInt) :
    m.approach? bound = some (m.approach bound) := by
  rw [approach?, if_pos (m.sound hpositive hbound)]

/-- A stop coasts for some frames at speed, or for a whole word. -/
theorem coast_bounds (hspeed : 1 ≤ m.speed.toInt) :
    0 ≤ m.coast ∧ m.coast ≤ Int32.maxValue.toInt
      ∧ m.coast.toNat ≤ m.speed.toInt.toNat * m.stopFrames := by
  have hmax := zero_le_maxValue
  have hsum := minValue_add_maxValue
  have hframes : clampInt Int32.minValue.toInt Int32.maxValue.toInt m.stopFrames =
      min (m.stopFrames : Int) Int32.maxValue.toInt := by
    unfold clampInt
    omega
  have hcoast : m.coast = clampInt Int32.minValue.toInt Int32.maxValue.toInt
      (m.speed.toInt * min (m.stopFrames : Int) Int32.maxValue.toInt) := by
    rw [coast, Saturating.mul32, toInt_ofIntClamp, toInt_ofIntClamp, hframes]
  have hnonneg : 0 ≤ m.speed.toInt * min (m.stopFrames : Int) Int32.maxValue.toInt :=
    Int.mul_nonneg (by omega) (by omega)
  have hless : m.speed.toInt * min (m.stopFrames : Int) Int32.maxValue.toInt ≤
      m.speed.toInt * m.stopFrames :=
    Int.mul_le_mul_of_nonneg_left (by omega) (by omega)
  have hproduct : ((m.speed.toInt.toNat * m.stopFrames : Nat) : Int) =
      m.speed.toInt * m.stopFrames := by
    rw [Int.natCast_mul, Int.toNat_of_nonneg (by omega)]
  generalize m.speed.toInt * min (m.stopFrames : Int) Int32.maxValue.toInt = product at *
  unfold clampInt at hcoast
  omega

theorem stepCommand?_eq (hspeed : 1 ≤ m.speed.toInt) (motion : Option MotionCommand) :
    m.stepCommand? motion = some (m.stepCommand motion) := by
  cases motion with
  | none => rfl
  | some motion =>
      unfold stepCommand? stepCommand
      dsimp only
      split
      · rfl
      · have hcoast := coast_bounds (m := { m with motionCount := motion.count }) hspeed
        cases motion.command with
        | noOperation => rfl
        | goTo target v a b => rfl
        | stop b =>
            dsimp only
            rw [approach?_eq hcoast.1 hcoast.2.1]
            rfl
        | raw => rfl

theorem travel?_eq (hspeed : 1 ≤ m.speed.toInt) : m.travel? = some m.travel := by
  have hpositive : 0 ≤ m.speed.toInt := Int.le_trans (by decide) hspeed
  rw [travel?, approach?_eq hpositive m.speed.toInt_le]
  rfl

/-- No operation of a frame goes wrong. -/
theorem advance?_eq (hspeed : 1 ≤ m.speed.toInt) (request : ControlRequest) :
    m.advance? request = some (m.advance request) := by
  rw [advance?, advance_eq]
  split
  · have hcommand : 1 ≤ ((m.powered request).stepHoming (m.controlOf request)
        ((m.controlOf request).difference m.lastControl)).speed.toInt := by simpa using hspeed
    have htravel : 1 ≤ (((m.powered request).stepHoming (m.controlOf request)
        ((m.controlOf request).difference m.lastControl)).stepCommand
          request.motion).speed.toInt := by simpa using hspeed
    rw [stepCommand?_eq hcommand, Option.bind_some, travel?_eq htravel]
  · rfl

end Checked

end Model
end Drive
end ServoLink
