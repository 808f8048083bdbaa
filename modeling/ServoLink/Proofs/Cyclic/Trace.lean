import ServoLink.Proofs.Cyclic.Loop

/-!
# Traces — the states of a run, with how each cycle ended

A run of the loop goes from turn to turn as long as the transport works.  `Cycle.Reaches` relates
its start to every state between two turns, and keeps for each cycle whether its exchange was
answered.

* `Cycle.Reaches.trans` — runs follow each other;
* `Cycle.reaches_of_run` — the loop itself passes through such states.
-/

namespace ServoLink
namespace Cyclic

open Wire ProcessData Motion Net

variable {σ : Type}

/-- How the exchange of a cycle ends. -/
inductive Outcome where
  | answered
  | missed
  /-- The transport failed. -/
  | failed
  deriving DecidableEq, Repr

def Outcome.of {α : Type} : EStateM.Result LinkError (Link σ) α → Outcome
  | .ok _ _ => answered
  | .error .cycleMissed _ | .error .linkFaulted _ => missed
  | .error _ _ => failed

namespace Cycle

/-- How the exchange of the next cycle ends. -/
def outcome (react : FarEnd σ) (s : Schedule) (c : Cycle σ) : Outcome :=
  .of (exchange react c.takeCommand.request (c.budget s) c.link)

/-- A run without transport failures leads from `s₀` and `c₀` to a schedule and a cycle about to
begin.  Commands are given during each cycle. -/
inductive Reaches (react : FarEnd σ) (s₀ : Schedule) (c₀ : Cycle σ) :
    List Outcome → Schedule → Cycle σ → Prop where
  | start : Reaches react s₀ c₀ [] s₀ c₀
  | turn {outcomes : List Outcome} {s s' : Schedule} {c c' : Cycle σ}
      (commands : List OperatorCommand) (hrun : Reaches react s₀ c₀ outcomes s c)
      (hturn : c.turn react s = (.ok (), s', c')) :
      Reaches react s₀ c₀ (outcomes ++ [c.outcome react s]) s' (c'.offer commands)

section Reaches

variable {react : FarEnd σ} {s₀ s s' : Schedule} {c₀ c c' : Cycle σ}

/-- The state after a turn that did not end the loop. -/
def next (react : FarEnd σ) (commands : List OperatorCommand) (state : Schedule × Cycle σ) :
    Schedule × Cycle σ :=
  let turned := (state.2.turn react state.1).2
  (turned.1, turned.2.offer commands)

theorem Reaches.next {outcomes : List Outcome} (state : Schedule × Cycle σ)
    (h : Reaches react s₀ c₀ outcomes state.1 state.2)
    (hok : (state.2.turn react state.1).1 = .ok ()) (commands : List OperatorCommand) :
    Reaches react s₀ c₀ (outcomes ++ [state.2.outcome react state.1])
      (Cycle.next react commands state).1 (Cycle.next react commands state).2 :=
  h.turn commands (Prod.ext hok rfl)

theorem Reaches.trans {first second : List Outcome} (h : Reaches react s₀ c₀ first s c)
    (h' : Reaches react s c second s' c') : Reaches react s₀ c₀ (first ++ second) s' c' := by
  induction h' with
  | start =>
      rw [List.append_nil]
      exact h
  | turn commands _ hturn ih =>
      rw [← List.append_assoc]
      exact ih.turn commands hturn

/-- A run of the loop that is not ended by the transport passes through as many cycles as it has
entries. -/
theorem reaches_of_run {entries : List (List OperatorCommand)} {s : Schedule} {c : Cycle σ}
    (h : (run react entries s c).result = .ok ()) :
    ∃ outcomes s', outcomes.length = entries.length
      ∧ Reaches react s c outcomes s' (run react entries s c).cycle := by
  induction entries generalizing s c with
  | nil => exact ⟨[], s, rfl, .start⟩
  | cons commands later ih =>
      unfold run at h ⊢
      dsimp only at h ⊢
      cases hturn : c.turn react s with
      | mk result next =>
          rcases next with ⟨s', c'⟩
          rw [hturn] at h
          cases result with
          | error cause => cases h
          | ok =>
              rcases ih h with ⟨outcomes, s'', hlength, hreaches⟩
              have hfirst : Reaches react s c [c.outcome react s] s' (c'.offer commands) :=
                Reaches.start.turn commands hturn
              refine ⟨c.outcome react s :: outcomes, s'', ?_, hfirst.trans hreaches⟩
              rw [List.length_cons, List.length_cons, hlength]

/-- The exchange of a cycle that does not end the loop was answered or missed. -/
theorem outcome_ne_failed (hturn : c.turn react s = (.ok (), s', c')) :
    c.outcome react s ≠ .failed := by
  rcases turn_ok hturn with ⟨after, hbody, -⟩
  have hworked := worked_body hbody
  unfold outcome
  generalize exchange react c.takeCommand.request (c.budget s) c.link = result at hworked
  cases hworked with
  | answered => rintro ⟨⟩
  | missed => rintro ⟨⟩
  | lost => rintro ⟨⟩

end Reaches
end Cycle

end Cyclic
end ServoLink
