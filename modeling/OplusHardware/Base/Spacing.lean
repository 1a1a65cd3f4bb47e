import Mathlib.Algebra.Order.Ring.Int
import Mathlib.Tactic.Linarith
import OplusHardware.Base.Path

/-!
# Events that keep their distance

A gate remembers when it last let something through, and lets the next
thing through only a period later. What passes is spaced, however the rest
of the machine behaves, as long as nobody sets the gate's memory back.
-/

namespace OplusHardware.Base

universe u v

/-- Every two times, in order, are at least `period` apart. -/
def Spaced (period : Int) (times : List Int) : Prop :=
  times.Pairwise fun a b => a + period ≤ b

variable {period : Int} {times : List Int}

theorem Spaced.nil : Spaced period [] := List.Pairwise.nil

theorem Spaced.append_singleton {x : Int} (h : Spaced period times)
    (hx : ∀ y ∈ times, y + period ≤ x) : Spaced period (times ++ [x]) := by
  apply List.pairwise_append.mpr
  refine ⟨h, List.pairwise_singleton _ _, ?_⟩
  intro y hy z hz
  cases List.mem_singleton.mp hz
  exact hx y hy

/-- **How many there can be**: spaced times in a window are one more, at
most, than the periods the window holds. -/
theorem Spaced.length_mul_le (h : Spaced period times) {a b : Int} (hab : a ≤ b + period)
    (hmem : ∀ x ∈ times, a ≤ x ∧ x ≤ b) : times.length * period ≤ b - a + period := by
  induction times generalizing a with
  | nil =>
      rw [List.length_nil, Nat.cast_zero, zero_mul]
      omega
  | cons x times ih =>
      obtain ⟨hx, htail⟩ := List.pairwise_cons.mp h
      obtain ⟨hax, hxb⟩ := hmem x (by simp)
      have hrest : ∀ y ∈ times, a + period ≤ y ∧ y ≤ b := by
        intro y hy
        have hdist := hx y hy
        exact ⟨by omega, (hmem y (by simp [hy])).2⟩
      have hle := ih htail (a := a + period) (by omega) hrest
      rw [List.length_cons, Nat.cast_succ, add_mul, one_mul]
      linarith

/-- The times in a window. -/
theorem Spaced.filter (h : Spaced period times) (p : Int → Bool) :
    Spaced period (times.filter p) :=
  List.Pairwise.filter p h

/-- The times of a run in a window, counted. -/
theorem Spaced.countP_mul_le (h : Spaced period times) {a b : Int} (hab : a ≤ b)
    (hperiod : 0 ≤ period) :
    (times.countP fun x => a ≤ x ∧ x ≤ b) * period ≤ b - a + period := by
  rw [List.countP_eq_length_filter]
  apply (h.filter _).length_mul_le (hab.trans (le_add_of_nonneg_right hperiod))
  intro x hx
  simpa using (List.mem_filter.mp hx).2

variable {σ : Type u} {α : Type v} {step : σ → α → Option σ} {s t : σ} {h : List (σ × α)}

/-- **The gate rule**: `last` never goes back, and something passes only a
period after it, and sets it. What passes is spaced. -/
theorem Path.spaced {time : σ × α → Option Int} {last : σ → Int} (Inv : σ → Prop)
    (ok : σ → α → Prop)
    (hkeep : ∀ t a u, Inv t → ok t a → step t a = some u → Inv u)
    (hstep : ∀ t a u, Inv t → ok t a → step t a = some u → last t ≤ last u ∧
      ∀ x, time (t, a) = some x → last t + period ≤ x ∧ x ≤ last u)
    (hp : Path step s h t) (h0 : Inv s) (hok : ∀ x ∈ h, ok x.1 x.2) :
    Spaced period (h.filterMap time) := by
  have hall : Inv t ∧ Spaced period (h.filterMap time) ∧
      ∀ x ∈ h.filterMap time, x ≤ last t := by
    apply hp.history_inv
      (fun h t => Inv t ∧ Spaced period (h.filterMap time) ∧
        ∀ x ∈ h.filterMap time, x ≤ last t) ok
    · rintro h t a u ⟨hinv, hspaced, hlast⟩ hoka hs
      obtain ⟨hle, hpass⟩ := hstep t a u hinv hoka hs
      refine ⟨hkeep t a u hinv hoka hs, ?_⟩
      rw [filterMap_snoc]
      cases htime : time (t, a) with
      | none =>
          rw [Option.toList_none, List.append_nil]
          exact ⟨hspaced, fun x hx => (hlast x hx).trans hle⟩
      | some x =>
          obtain ⟨hafter, hset⟩ := hpass x htime
          rw [Option.toList_some]
          constructor
          · apply hspaced.append_singleton
            intro y hy
            have := hlast y hy
            omega
          · intro y hy
            rcases List.mem_append.mp hy with hy | hy
            · exact (hlast y hy).trans hle
            · cases List.mem_singleton.mp hy
              exact hset
    · exact ⟨h0, .nil, by simp⟩
    · exact hok
  exact hall.2.1

end OplusHardware.Base
