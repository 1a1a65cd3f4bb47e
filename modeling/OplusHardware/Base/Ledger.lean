import Mathlib.Data.List.Induction
import Mathlib.Data.List.Infix
import Mathlib.Tactic.Common

/-!
# Ledgers

A ledger is a list of entries, oldest first. Some entries open something
and some close something, and the two kinds are counted against each
other at every point of the ledger.
-/

namespace OplusHardware.Base

variable {κ : Type} {opens closes : κ → Bool} {l : List κ}

/-- **At no point has more been closed than opened.** -/
def Covered (opens closes : κ → Bool) (l : List κ) : Prop :=
  ∀ pre, pre <+: l → pre.countP closes ≤ pre.countP opens

theorem covered_nil : Covered opens closes [] := by
  intro pre hpre
  rw [List.prefix_nil.mp hpre]
  simp

theorem Covered.le (h : Covered opens closes l) : l.countP closes ≤ l.countP opens :=
  h l (List.prefix_refl l)

/-- One more entry: only the new total is to be checked. -/
theorem covered_concat {x : κ} :
    Covered opens closes (l ++ [x]) ↔
      Covered opens closes l ∧ (l ++ [x]).countP closes ≤ (l ++ [x]).countP opens := by
  constructor
  · intro h
    refine ⟨fun pre hpre => h pre (hpre.trans (List.prefix_append l [x])), h.le⟩
  · rintro ⟨h, hle⟩ pre hpre
    rcases List.prefix_concat_iff.mp hpre with rfl | hpre
    · exact hle
    · exact h pre hpre

/-- A ledger that is covered on its own can be appended to any other. -/
theorem Covered.append {l' : List κ} (h : Covered opens closes l)
    (h' : Covered opens closes l') : Covered opens closes (l ++ l') := by
  induction l' using List.reverseRecOn with
  | nil => simpa using h
  | append_singleton l' x ih =>
      obtain ⟨hinit, hlast⟩ := covered_concat.mp h'
      rw [← List.append_assoc]
      refine covered_concat.mpr ⟨ih hinit, ?_⟩
      rw [List.append_assoc]
      calc (l ++ (l' ++ [x])).countP closes
          = l.countP closes + (l' ++ [x]).countP closes := List.countP_append
        _ ≤ l.countP opens + (l' ++ [x]).countP opens := Nat.add_le_add h.le hlast
        _ = (l ++ (l' ++ [x])).countP opens := List.countP_append.symm

/-- What closes no more than what is still open can be appended, in
whatever order its entries stand. -/
theorem Covered.append_of_le {l' : List κ} (h : Covered opens closes l)
    (hle : l.countP closes + l'.countP closes ≤ l.countP opens) :
    Covered opens closes (l ++ l') := by
  induction l' using List.reverseRecOn with
  | nil => simpa using h
  | append_singleton l' x ih =>
      rw [List.countP_append] at hle
      rw [← List.append_assoc]
      refine covered_concat.mpr ⟨ih (by omega), ?_⟩
      simp only [List.countP_append]
      omega

theorem covered_iff_inits :
    Covered opens closes l ↔ ∀ pre ∈ l.inits, pre.countP closes ≤ pre.countP opens := by
  simp only [Covered, List.mem_inits]

end OplusHardware.Base
