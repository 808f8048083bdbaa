import ServoLink.Register.Channel

/-!
# Round trip — where the estimate goes, and how long the windows are

A sample moves the estimate an eighth of the way, rounded down, and never past the sample or a
bound.  Rounding stops the way up short of the sample by less than eight nanoseconds; the way down
is rounded in the same direction and so ends at the sample itself.

* `RoundTrip.InOrder.between_sample` — one sample;
* `RoundTrip.InOrder.settles` — the same sample again and again;
* `RoundTrip.Smooth` — the laws of an estimator, `smooth_after` for every run of samples;
* `RoundTrip.sample?` — a sample in durations, which can overflow;
* `RoundTrip.estimates` — the laws, and that a channel with accepted settings overflows nowhere.
-/

namespace ServoLink
namespace Register
namespace RoundTrip

/-! ## Bounds -/

/-- The estimate lies between its bounds. -/
structure InOrder (r : RoundTrip) : Prop where
  low : r.min ≤ r.estimate
  high : r.estimate ≤ r.max

theorem min_le_clamp (low high n : Nat) : low ≤ clamp low high n := Nat.le_max_left _ _

theorem clamp_le_max {low high : Nat} (h : low ≤ high) (n : Nat) : clamp low high n ≤ high :=
  Nat.max_le.2 ⟨h, Nat.min_le_right _ _⟩

theorem clamp_of_inside {low high n : Nat} (hlow : low ≤ n) (hhigh : n ≤ high) :
    clamp low high n = n := by
  have hmin : Nat.min n high = n := Nat.min_eq_left hhigh
  have hmax : Nat.max low n = n := Nat.max_eq_right hlow
  rw [clamp, hmin, hmax]

/-- The estimator after the samples. -/
def after (r : RoundTrip) (samples : List Nat) : RoundTrip := samples.foldl sample r

section InOrder

variable {r : RoundTrip}

theorem InOrder.bounds (h : r.InOrder) : r.min ≤ r.max := Nat.le_trans h.low h.high

theorem InOrder.sample (h : r.InOrder) (rtt : Nat) : (r.sample rtt).InOrder where
  low := min_le_clamp _ _ _
  high := clamp_le_max h.bounds _

/-- A run of samples keeps the bounds, and the estimate between them. -/
theorem InOrder.after (h : r.InOrder) (samples : List Nat) :
    (r.after samples).InOrder ∧ (r.after samples).min = r.min ∧ (r.after samples).max = r.max := by
  induction samples generalizing r with
  | nil => exact ⟨h, rfl, rfl⟩
  | cons rtt rest ih => exact ih (h.sample rtt)

theorem new?_eq_some (initial : Nat) {low high : Nat} (h : low ≤ high) :
    new? initial low high = some ⟨clamp low high initial, low, high⟩ := if_pos h

theorem inOrder_of_new? {initial min max : Nat} (h : new? initial min max = some r) :
    r.InOrder := by
  unfold new? at h
  split at h
  · rename_i hbounds
    cases h
    exact ⟨min_le_clamp _ _ _, clamp_le_max hbounds _⟩
  · cases h

/-! ## One sample -/

/-- A sample above the estimate raises it by an eighth of the difference, up to the bound. -/
theorem InOrder.sample_of_le (h : r.InOrder) {rtt : Nat} (hrtt : r.estimate ≤ rtt) :
    (r.sample rtt).estimate = Nat.min (r.estimate + (rtt - r.estimate) / 8) r.max := by
  have hlow := h.low
  have hhigh := h.high
  have hway : (r.estimate * 7 + rtt) / 8 = r.estimate + (rtt - r.estimate) / 8 := by omega
  have hmin : r.min ≤ Nat.min (r.estimate + (rtt - r.estimate) / 8) r.max :=
    Nat.le_min.2 ⟨Nat.le_trans hlow (Nat.le_add_right _ _), h.bounds⟩
  calc (r.sample rtt).estimate = clamp r.min r.max ((r.estimate * 7 + rtt) / 8) := rfl
    _ = clamp r.min r.max (r.estimate + (rtt - r.estimate) / 8) := by rw [hway]
    _ = _ := Nat.max_eq_right hmin

/-- A sample below the estimate lowers it by an eighth of the difference, rounded up. -/
theorem InOrder.sample_of_ge (h : r.InOrder) {rtt : Nat} (hrtt : rtt ≤ r.estimate) :
    (r.sample rtt).estimate = Nat.max r.min (r.estimate - (r.estimate - rtt + 7) / 8) := by
  have hhigh := h.high
  have hway : (r.estimate * 7 + rtt) / 8 = r.estimate - (r.estimate - rtt + 7) / 8 := by omega
  have hmax : Nat.min (r.estimate - (r.estimate - rtt + 7) / 8) r.max = _ :=
    Nat.min_eq_left (Nat.le_trans (Nat.sub_le _ _) hhigh)
  calc (r.sample rtt).estimate = clamp r.min r.max ((r.estimate * 7 + rtt) / 8) := rfl
    _ = clamp r.min r.max (r.estimate - (r.estimate - rtt + 7) / 8) := by rw [hway]
    _ = _ := by rw [clamp, hmax]

/-- A sample moves the estimate to a value between the old one and the sample, as far as the bounds
let it. -/
theorem InOrder.between_sample (h : r.InOrder) (rtt : Nat) :
    Nat.min r.estimate (clamp r.min r.max rtt) ≤ (r.sample rtt).estimate
      ∧ (r.sample rtt).estimate ≤ Nat.max r.estimate (clamp r.min r.max rtt) := by
  have hlow := h.low
  have hhigh := h.high
  rcases Nat.le_total r.estimate rtt with hup | hdown
  · rw [h.sample_of_le hup]
    constructor
    · refine Nat.le_trans (Nat.min_le_left _ _) (Nat.le_min.2 ⟨?_, hhigh⟩)
      exact Nat.le_add_right _ _
    · -- The way is at most the whole difference, and the bound is the same.
      refine Nat.le_trans ?_ (Nat.le_max_right _ _)
      refine Nat.le_trans ?_ (Nat.le_max_right _ _)
      exact Nat.le_min.2 ⟨Nat.le_trans (Nat.min_le_left _ _) (by omega), Nat.min_le_right _ _⟩
  · rw [h.sample_of_ge hdown]
    constructor
    · refine Nat.le_trans (Nat.min_le_right _ _) (Nat.max_le.2 ⟨Nat.le_max_left _ _, ?_⟩)
      exact Nat.le_trans (Nat.min_le_left _ _) (Nat.le_trans (by omega) (Nat.le_max_right _ _))
    · exact Nat.le_trans (Nat.max_le.2 ⟨hlow, Nat.sub_le _ _⟩) (Nat.le_max_left _ _)

/-! ## The same sample again -/

/-- Between the bounds, an estimate less than eight nanoseconds below the sample stays. -/
theorem InOrder.sample_of_near (h : r.InOrder) {rtt : Nat} (hle : r.estimate ≤ rtt)
    (hnear : rtt < r.estimate + 8) : r.sample rtt = r := by
  have hestimate : (r.sample rtt).estimate = r.estimate := by
    rw [h.sample_of_le hle, Nat.div_eq_of_lt (by omega), Nat.add_zero]
    exact Nat.min_eq_left h.high
  exact congrArg (fun estimate => { r with estimate }) hestimate

theorem after_replicate_of_fixed {rtt : Nat} (h : r.sample rtt = r) (n : Nat) :
    r.after (List.replicate n rtt) = r := by
  induction n with
  | zero => rfl
  | succ n ih =>
      rw [List.replicate_succ]
      show (r.sample rtt).after _ = r
      rw [h]
      exact ih

/-- The estimate comes to rest less than eight nanoseconds below a sample that repeats; from above,
at the sample itself. -/
theorem InOrder.settles (h : r.InOrder) {rtt : Nat} (hlow : r.min ≤ rtt) (hhigh : rtt ≤ r.max) :
    ∃ count rest, rtt < rest + 8 ∧ rest ≤ rtt ∧ (rtt ≤ r.estimate → rest = rtt)
      ∧ ∀ n, count ≤ n → (r.after (List.replicate n rtt)).estimate = rest := by
  -- Until it rests, the estimate comes nearer to the sample each time.
  generalize hgap : (r.estimate - rtt) + (rtt - r.estimate) = gap
  induction gap using Nat.strongRecOn generalizing r with
  | ind gap ih =>
      by_cases hnear : r.estimate ≤ rtt ∧ rtt < r.estimate + 8
      · refine ⟨0, r.estimate, hnear.2, hnear.1, Nat.le_antisymm hnear.1, ?_⟩
        intro n _
        exact congrArg estimate (after_replicate_of_fixed (h.sample_of_near hnear.1 hnear.2) n)
      · have hcloser : (r.estimate ≤ rtt → (r.sample rtt).estimate ≤ rtt
              ∧ r.estimate < (r.sample rtt).estimate)
            ∧ (rtt < r.estimate → rtt ≤ (r.sample rtt).estimate
              ∧ (r.sample rtt).estimate < r.estimate) := by
          constructor
          · intro hup
            have hbound : r.estimate + (rtt - r.estimate) / 8 ≤ r.max := by omega
            rw [h.sample_of_le hup]
            show Min.min _ _ ≤ rtt ∧ _ < Min.min _ _
            omega
          · intro hdown
            have hbound : r.min ≤ r.estimate - (r.estimate - rtt + 7) / 8 := by omega
            rw [h.sample_of_ge (Nat.le_of_lt hdown)]
            show rtt ≤ Max.max _ _ ∧ Max.max _ _ < r.estimate
            omega
        rcases ih _ (by omega) (h.sample rtt) hlow hhigh rfl with
          ⟨count, rest, hshort, hrest, habove, hsettled⟩
        refine ⟨count + 1, rest, hshort, hrest, ?_, ?_⟩
        · intro hfrom
          exact habove (by omega)
        · intro n hn
          rcases n with _ | n
          · omega
          · exact hsettled n (Nat.le_of_succ_le_succ hn)

/-! ## Windows -/

theorem one_le_factor (retries : Nat) : 1 ≤ factor retries := by
  unfold factor
  split
  · rw [Nat.one_shiftLeft]
    exact Nat.one_le_two_pow
  · decide

/-- No window is shorter than the smallest estimate. -/
theorem InOrder.min_le_backoff (h : r.InOrder) (retries : Nat) : r.min ≤ r.backoff retries := by
  refine Nat.le_min.2 ⟨?_, h.bounds⟩
  calc r.min ≤ r.estimate := h.low
    _ = r.estimate * 1 := (Nat.mul_one _).symm
    _ ≤ r.estimate * factor retries := Nat.mul_le_mul_left _ (one_le_factor retries)

theorem factor_of_lt {retries : Nat} (h : retries < 32) : factor retries = Nat.pow 2 retries := by
  rw [factor, if_pos h, Nat.one_shiftLeft]
  rfl

/-- The factor doubles until it is the largest 32-bit number. -/
theorem factor_mono {k l : Nat} (h : k ≤ l) : factor k ≤ factor l := by
  by_cases hl : l < 32
  · rw [factor_of_lt hl, factor_of_lt (Nat.lt_of_le_of_lt h hl)]
    exact Nat.pow_le_pow_right (by decide) h
  · have hlast : factor l = UInt32.size - 1 := if_neg hl
    rw [hlast]
    by_cases hk : k < 32
    · calc factor k = Nat.pow 2 k := factor_of_lt hk
        _ ≤ Nat.pow 2 31 := Nat.pow_le_pow_right (by decide) (Nat.le_of_lt_succ hk)
        _ ≤ UInt32.size - 1 := by decide
    · exact Nat.le_of_eq (if_neg hk)

theorem backoff_mono (r : RoundTrip) {k l : Nat} (h : k ≤ l) : r.backoff k ≤ r.backoff l := by
  refine Nat.le_min.2 ⟨?_, Nat.min_le_right _ _⟩
  exact Nat.le_trans (Nat.min_le_left _ _) (Nat.mul_le_mul_left _ (factor_mono h))

theorem backoff_of_lt (r : RoundTrip) {k : Nat} (h : k < 32) :
    r.backoff k = Nat.min (Nat.pow 2 k * r.estimate) r.max := by
  rw [backoff, factor_of_lt h, Nat.mul_comm]

theorem InOrder.backoff_zero (h : r.InOrder) : r.backoff 0 = r.estimate := by
  rw [backoff_of_lt r (by decide)]
  calc Nat.min (Nat.pow 2 0 * r.estimate) r.max = Nat.min r.estimate r.max := by
        rw [Nat.pow_eq, Nat.pow_zero, Nat.one_mul]
    _ = r.estimate := Nat.min_eq_left h.high

end InOrder

/-! ## The laws -/

/-- The laws of an estimator with the given bounds. -/
structure Smooth (low high : Nat) (r : RoundTrip) : Prop where
  inside : low ≤ r.estimate ∧ r.estimate ≤ high
  between : ∀ rtt, Nat.min r.estimate (clamp low high rtt) ≤ (r.sample rtt).estimate
    ∧ (r.sample rtt).estimate ≤ Nat.max r.estimate (clamp low high rtt)
  settles : ∀ rtt, low ≤ rtt → rtt ≤ high →
    ∃ count rest, rtt < rest + 8 ∧ rest ≤ rtt ∧ (rtt ≤ r.estimate → rest = rtt)
      ∧ ∀ n, count ≤ n → (r.after (List.replicate n rtt)).estimate = rest
  backoff_zero : r.backoff 0 = r.estimate
  backoff_mono : ∀ k l, k ≤ l → r.backoff k ≤ r.backoff l
  backoff_le : ∀ k, r.backoff k ≤ high
  backoff_of_lt : ∀ k, k < 32 → r.backoff k = Nat.min (Nat.pow 2 k * r.estimate) high

theorem InOrder.smooth {r : RoundTrip} (h : r.InOrder) : r.Smooth r.min r.max where
  inside := ⟨h.low, h.high⟩
  between := h.between_sample
  settles := fun _ => h.settles
  backoff_zero := h.backoff_zero
  backoff_mono := fun _ _ => r.backoff_mono
  backoff_le := fun _ => Nat.min_le_right _ _
  backoff_of_lt := fun _ => r.backoff_of_lt

/-- After every run of samples. -/
theorem InOrder.smooth_after {r : RoundTrip} (h : r.InOrder) (samples : List Nat) :
    (r.after samples).Smooth r.min r.max := by
  rcases h.after samples with ⟨hafter, hmin, hmax⟩
  have hsmooth := hafter.smooth
  rwa [hmin, hmax] at hsmooth

/-! ## Durations -/

/-- The longest duration, in nanoseconds: its seconds are a 64-bit number. -/
def longest : Nat := UInt64.size * 1000000000 - 1

/-- So many nanoseconds as a duration, if there is one. -/
def duration? (n : Nat) : Option Nat := if n ≤ longest then some n else none

/-- A sample in durations: none if the product or the sum overflows. -/
def sample? (r : RoundTrip) (rtt : Nat) : Option RoundTrip := do
  let product ← duration? (r.estimate * 7)
  let sum ← duration? (product + rtt)
  pure { r with estimate := clamp r.min r.max (sum / 8) }

/-- The estimator after the samples, none if one of them overflows. -/
def after? (r : RoundTrip) (samples : List Nat) : Option RoundTrip := samples.foldlM sample? r

theorem sample?_eq {r : RoundTrip} {rtt : Nat} (h : r.estimate * 7 + rtt ≤ longest) :
    r.sample? rtt = some (r.sample rtt) := by
  have hproduct : duration? (r.estimate * 7) = some (r.estimate * 7) :=
    if_pos (Nat.le_trans (Nat.le_add_right _ _) h)
  have hsum : duration? (r.estimate * 7 + rtt) = some (r.estimate * 7 + rtt) := if_pos h
  unfold sample?
  rw [hproduct, Option.bind_eq_bind, Option.bind_some, hsum]
  rfl

/-- Samples up to the upper bound overflow nowhere, if eight times the bound is a duration. -/
theorem InOrder.after?_eq {r : RoundTrip} (h : r.InOrder) (hmax : r.max * 8 ≤ longest)
    {samples : List Nat} (hsamples : ∀ rtt ∈ samples, rtt ≤ r.max) :
    r.after? samples = some (r.after samples) := by
  induction samples generalizing r with
  | nil => rfl
  | cons rtt rest ih =>
      have hhigh := h.high
      have hrtt := hsamples rtt List.mem_cons_self
      have hfirst : r.sample? rtt = some (r.sample rtt) := sample?_eq (by omega)
      have hrest := ih (h.sample rtt) hmax fun later hlater =>
        hsamples later (List.mem_cons_of_mem rtt hlater)
      rw [after?, List.foldlM_cons, hfirst]
      exact hrest

/-! ## Settings -/

/-- What `RegisterChannelSettings.validate` lets through: the estimate starts between its bounds. -/
theorem validate_eq_ok_iff {s : RegisterChannelSettings} : s.validate = .ok () ↔
    (1 ≤ s.attempts.toNat ∧ s.attempts ≤ Limits.requestAttemptsMax) ∧ s.minRttMs ≠ 0
      ∧ s.minRttMs ≤ s.initialRttMs ∧ s.initialRttMs ≤ s.maxBackoffMs := by
  unfold RegisterChannelSettings.validate
  simp only [checks_eq_ok_iff, checkRange_eq_ok_iff, require_eq_ok_iff, decide_eq_true_eq,
    bne_iff_ne, Int.ofNat_le, UInt64.le_iff_toNat_le, UInt32.le_iff_toNat_le]
  -- The check of the bounds against each other follows from those of the initial value.
  constructor
  · rintro ⟨hattempts, hpositive, -, hinitial⟩
    exact ⟨by omega, hpositive, hinitial⟩
  · rintro ⟨hattempts, hpositive, hlow, hhigh⟩
    exact ⟨by omega, hpositive, Nat.le_trans hlow hhigh, hlow, hhigh⟩

/-- The channel that the settings make.  Their times in nanoseconds are named here, so that no
proof computes the products. -/
theorem new?_of_bounds {s : RegisterChannelSettings} {initial low high : Nat}
    (hinitial : s.initialRttMs.toNat * 1000000 = initial) (hlow : s.minRttMs.toNat * 1000000 = low)
    (hhigh : s.maxBackoffMs.toNat * 1000000 = high) (hbounds : low ≤ high) :
    Channel.new? s = some {
      checksum := s.checksum
      attempts := Max.max s.attempts.toNat 1
      roundTrip := ⟨clamp low high initial, low, high⟩ } := by
  unfold Channel.new?
  dsimp only
  rw [hinitial, hlow, hhigh, new?_eq_some initial hbounds]
  rfl

theorem ms_mono {a b : Nat} (h : a ≤ b) : a * 1000000 ≤ b * 1000000 := Nat.mul_le_mul_right _ h

/-- Eight times a whole number of milliseconds is a duration. -/
theorem longest_of_ms (ms : UInt64) : ms.toNat * 1000000 * 8 ≤ longest := by
  have hms : ms.toNat < 18446744073709551616 := ms.toNat_lt
  show _ ≤ 18446744073709551616 * 1000000000 - 1
  omega

/-- Any bounds in order make an estimator that obeys the laws after all samples.  Accepted settings
make one that starts at their initial value, and whatever came before, samples up to their longest
window do not overflow. -/
theorem estimates :
    (∀ initial low high, low ≤ high →
      ∃ r, new? initial low high = some r ∧ r.estimate = clamp low high initial
        ∧ ∀ samples, (r.after samples).Smooth low high)
    ∧ ∀ s : RegisterChannelSettings, s.validate = .ok () →
      ∃ c, Channel.new? s = some c
        ∧ c.roundTrip.estimate = s.initialRttMs.toNat * 1000000
        ∧ ∀ earlier samples, (∀ rtt ∈ samples, rtt ≤ s.maxBackoffMs.toNat * 1000000) →
          (c.roundTrip.after earlier).after? samples =
            some ((c.roundTrip.after earlier).after samples) := by
  constructor
  · intro initial low high hbounds
    have hnew := new?_eq_some initial hbounds
    exact ⟨_, hnew, rfl, (inOrder_of_new? hnew).smooth_after⟩
  · intro s hs
    obtain ⟨-, -, hlow, hhigh⟩ := validate_eq_ok_iff.1 hs
    refine ⟨_, new?_of_bounds rfl rfl rfl (ms_mono (Nat.le_trans hlow hhigh)), ?_, ?_⟩
    · exact clamp_of_inside (ms_mono hlow) (ms_mono hhigh)
    · intro earlier samples hsamples
      have hnew := new?_eq_some (s.initialRttMs.toNat * 1000000) (ms_mono (Nat.le_trans hlow hhigh))
      -- Whatever was sampled before, the upper bound is the same.
      rcases (inOrder_of_new? hnew).after earlier with ⟨hafter, -, hmax⟩
      refine hafter.after?_eq ?_ ?_
      · rw [hmax]
        exact longest_of_ms s.maxBackoffMs
      · rw [hmax]
        exact hsamples

/-- Bounds of two milliseconds and a second, and the default settings. -/
theorem estimates_default :
    (2000000 ≤ 1000000000
      ∧ ∃ r, new? 20000000 2000000 1000000000 = some r
        ∧ r.estimate = clamp 2000000 1000000000 20000000
        ∧ ∀ samples, (r.after samples).Smooth 2000000 1000000000)
    ∧ ({} : RegisterChannelSettings).validate = .ok ()
      ∧ ∃ c, Channel.new? {} = some c ∧ c.roundTrip.estimate = Limits.initialRttMs.toNat * 1000000
        ∧ (∀ rtt ∈ [3000000, 1000000000], rtt ≤ Limits.maxBackoffMs.toNat * 1000000)
        ∧ (c.roundTrip.after [5000000000]).after? [3000000, 1000000000]
          = some ((c.roundTrip.after [5000000000]).after [3000000, 1000000000]) := by
  have hbounds : 2000000 ≤ 1000000000 := by decide
  have hvalid : ({} : RegisterChannelSettings).validate = .ok () :=
    validate_eq_ok_iff.2 (by decide)
  have hlongest : Limits.maxBackoffMs.toNat = 1000 := rfl
  have hsamples : ∀ rtt ∈ [3000000, 1000000000], rtt ≤ Limits.maxBackoffMs.toNat * 1000000 := by
    intro rtt hrtt
    rw [hlongest]
    simp only [List.mem_cons, List.not_mem_nil, or_false] at hrtt
    omega
  rcases estimates.2 {} hvalid with ⟨c, hnew, hstart, hafter⟩
  exact ⟨⟨hbounds, estimates.1 20000000 2000000 1000000000 hbounds⟩, hvalid, c, hnew, hstart,
    hsamples, hafter _ _ hsamples⟩

end RoundTrip
end Register
end ServoLink
