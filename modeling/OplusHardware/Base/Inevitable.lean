import OplusHardware.Base.Path

/-!
# What a machine must come to

`Inevitable step own goal s`: however the machine goes on from `s`, it
comes to `goal`. The actions in `own` are the ones somebody is bound to
take while he can; the others may come, and are not counted on.
-/

namespace OplusHardware.Base

universe u v

variable {σ : Type u} {α : Type v}

/-- Every way to go on from `s` reaches the goal, and until it does there
is a step of its own the machine can take. -/
inductive Inevitable (step : σ → α → Option σ) (own : α → Prop) (goal : σ → Prop) :
    σ → Prop where
  | done {s : σ} (h : goal s) : Inevitable step own goal s
  | next {s : σ} (hmove : ∃ a t, own a ∧ step s a = some t)
      (hall : ∀ a t, step s a = some t → Inevitable step own goal t) :
      Inevitable step own goal s

variable {step : σ → α → Option σ} {own : α → Prop} {goal : σ → Prop} {s t : σ}

/-- **The measure rule**: an invariant in which the machine can always move,
and in which each step decreases a measure. -/
theorem Inevitable.of_measure (Inv : σ → Prop) (measure : σ → Nat)
    (hmove : ∀ s, Inv s → ¬ goal s → ∃ a t, own a ∧ step s a = some t)
    (hstep : ∀ s a t, Inv s → ¬ goal s → step s a = some t →
      Inv t ∧ measure t < measure s)
    (hs : Inv s) : Inevitable step own goal s := by
  induction hn : measure s using Nat.strongRecOn generalizing s with
  | _ n ih =>
      by_cases hgoal : goal s
      · exact .done hgoal
      · refine .next (hmove s hs hgoal) fun a t ht => ?_
        obtain ⟨hinv, hlt⟩ := hstep s a t hs hgoal ht
        exact ih (measure t) (hn ▸ hlt) hinv rfl

/-- A state short of the goal that has no step of its own. -/
theorem Inevitable.not_of_blocked (hgoal : ¬ goal s)
    (hblocked : ∀ a, own a → step s a = none) : ¬ Inevitable step own goal s := by
  intro h
  cases h with
  | done h => exact hgoal h
  | next hmove hall =>
      obtain ⟨a, t, ha, ht⟩ := hmove
      rw [hblocked a ha] at ht
      cases ht

end OplusHardware.Base
