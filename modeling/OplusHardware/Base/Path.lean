import Mathlib.Data.List.Basic
import Mathlib.Tactic.Common

/-!
# Runs of a labelled machine

A machine is a partial step function `step : σ → α → Option σ`; an
action the state does not allow answers `none`. Everything the
environment decides (which call fails, when a message is delivered,
which thread moves) is part of the action, so a statement about every
list of actions is a statement about every schedule.

`Path step s h t` is a run from `s` to `t`. Its history `h` records
every action together with the state it was taken in, oldest first, so
a property of a whole run is a property of `h`.
-/

namespace OplusHardware.Base

universe u v

variable {σ : Type u} {α : Type v}

/-- The runs of `step` from `s`: the history of the run and the state
it ends in. -/
inductive Path (step : σ → α → Option σ) (s : σ) : List (σ × α) → σ → Prop where
  | nil : Path step s [] s
  | snoc {h : List (σ × α)} {t u : σ} {a : α} :
      Path step s h t → step t a = some u → Path step s (h ++ [(t, a)]) u

variable {step : σ → α → Option σ} {s t u : σ} {h : List (σ × α)}

/-! ## Induction rules -/

/-- **The invariant rule**: what holds at the start and survives every
allowed step holds at the end. `ok` is what the run promises about its
steps (`fun _ _ => True` for an unrestricted run). -/
theorem Path.inv (Inv : σ → Prop) (ok : σ → α → Prop)
    (hstep : ∀ t a u, Inv t → ok t a → step t a = some u → Inv u)
    (hp : Path step s h t) (h0 : Inv s) (hok : ∀ x ∈ h, ok x.1 x.2) :
    Inv t := by
  induction hp with
  | nil => exact h0
  | snoc _ hs ih =>
      refine hstep _ _ _ (ih fun x hx => hok x (by simp [hx])) ?_ hs
      exact hok (_, _) (by simp)

/-- The invariant rule for facts that relate the state to the whole
history that led to it. -/
theorem Path.history_inv (Inv : List (σ × α) → σ → Prop) (ok : σ → α → Prop)
    (hstep : ∀ h t a u, Inv h t → ok t a → step t a = some u →
      Inv (h ++ [(t, a)]) u)
    (hp : Path step s h t) (h0 : Inv [] s) (hok : ∀ x ∈ h, ok x.1 x.2) :
    Inv h t := by
  induction hp with
  | nil => exact h0
  | snoc _ hs ih =>
      refine hstep _ _ _ _ (ih fun x hx => hok x (by simp [hx])) ?_ hs
      exact hok (_, _) (by simp)

/-- The invariant rule up to a first exit: a run that starts in the
invariant stays in it, or takes an exit from it. -/
theorem Path.inv_or_exit (Inv : σ → Prop) (Exit ok : σ → α → Prop)
    (hstep : ∀ t a u, Inv t → ok t a → step t a = some u → Inv u ∨ Exit t a)
    (hp : Path step s h t) (h0 : Inv s) (hok : ∀ x ∈ h, ok x.1 x.2) :
    Inv t ∨ ∃ pre x post, h = pre ++ x :: post ∧ Inv x.1 ∧ Exit x.1 x.2 := by
  induction hp with
  | nil => exact .inl h0
  | @snoc h t u a _ hs ih =>
      rcases ih fun x hx => hok x (by simp [hx]) with hi | ⟨pre, x, post, rfl, hx⟩
      · rcases hstep _ _ _ hi (hok (_, _) (by simp)) hs with hu | hexit
        · exact .inl hu
        · exact .inr ⟨h, (t, a), [], rfl, hi, hexit⟩
      · exact .inr ⟨pre, x, post ++ [(t, a)], by simp, hx⟩

/-- **The credit rule**: if no step can do `p` without paying from a
credit that only `q` steps refill, the run does `p` at most as often as
it starts with credit and does `q`. -/
theorem Path.countP_le {p q : σ × α → Bool} {credit : σ → Nat}
    (hstep : ∀ t a u, step t a = some u →
      (p (t, a)).toNat + credit u ≤ credit t + (q (t, a)).toNat)
    (hp : Path step s h t) :
    h.countP p + credit t ≤ credit s + h.countP q := by
  induction hp with
  | nil => simp
  | @snoc h t u a _ hs ih =>
      have hlast := hstep t a u hs
      have hone : ∀ r : σ × α → Bool, [(t, a)].countP r = (r (t, a)).toNat := by
        intro r
        cases hr : r (t, a) <;> simp [hr]
      rw [List.countP_append, List.countP_append, hone p, hone q]
      omega

/-- The credit rule where nothing is refilled. -/
theorem Path.countP_add_le {p : σ × α → Bool} {credit : σ → Nat}
    (hstep : ∀ t a u, step t a = some u → (p (t, a)).toNat + credit u ≤ credit t)
    (hp : Path step s h t) : h.countP p + credit t ≤ credit s := by
  have hcount : h.countP p + credit t ≤ credit s + h.countP fun _ => false :=
    hp.countP_le fun t a u hs => hstep t a u hs
  rwa [List.countP_false, Function.const_apply, Nat.add_zero] at hcount

/-- **The simulation rule**: when every step of a machine is matched by a
step of another one, or by none, every run is matched by a run. What the
matching steps promise (`ok'`) is promised by the matching run. -/
theorem Path.simulate {τ : Type u} {β : Type v} {step' : τ → β → Option τ}
    {R : σ → τ → Prop} (ok : σ → α → Prop) (ok' : τ → β → Prop) {s' : τ}
    (hstep : ∀ t a u t', R t t' → ok t a → step t a = some u →
      R u t' ∨ ∃ b u', ok' t' b ∧ step' t' b = some u' ∧ R u u')
    (hp : Path step s h t) (h0 : R s s') (hok : ∀ x ∈ h, ok x.1 x.2) :
    ∃ h' t', Path step' s' h' t' ∧ R t t' ∧ ∀ x ∈ h', ok' x.1 x.2 := by
  induction hp with
  | nil => exact ⟨[], s', .nil, h0, by simp⟩
  | snoc _ hs ih =>
      obtain ⟨h', t', hp', hr, hok'⟩ := ih fun x hx => hok x (by simp [hx])
      rcases hstep _ _ _ _ hr (hok (_, _) (by simp)) hs with hu | ⟨b, u', hb, hs', hu⟩
      · exact ⟨h', t', hp', hu, hok'⟩
      · refine ⟨_, u', hp'.snoc hs', hu, fun x hx => ?_⟩
        rcases List.mem_append.mp hx with hx | hx
        · exact hok' x hx
        · cases List.mem_singleton.mp hx
          exact hb

/-! ## Composing and cutting runs -/

theorem Path.append {h' : List (σ × α)} (hp : Path step s h t)
    (hq : Path step t h' u) : Path step s (h ++ h') u := by
  induction hq with
  | nil => simpa using hp
  | snoc _ hs ih =>
      rw [← List.append_assoc]
      exact ih.snoc hs

theorem Path.single {a : α} (hs : step s a = some t) :
    Path step s [(s, a)] t :=
  Path.nil.snoc hs

theorem Path.cons {a : α} (hs : step s a = some t) (hp : Path step t h u) :
    Path step s ((s, a) :: h) u :=
  (Path.single hs).append hp

theorem Path.eq_of_nil (hp : Path step s [] t) : t = s := by
  generalize hxs : [] = xs at hp
  cases hp with
  | nil => rfl
  | snoc => simp at hxs

/-- The step a nonempty run starts with. -/
theorem Path.cons_inv {x : σ × α} (hp : Path step s (x :: h) u) :
    x.1 = s ∧ ∃ t, step s x.2 = some t ∧ Path step t h u := by
  generalize hxs : x :: h = xs at hp
  induction hp generalizing h with
  | nil => cases hxs
  | @snoc g t v a hg hs ih =>
      cases g with
      | nil =>
          cases hg.eq_of_nil
          simp only [List.nil_append, List.cons.injEq] at hxs
          obtain ⟨rfl, rfl⟩ := hxs
          exact ⟨rfl, v, hs, .nil⟩
      | cons y g =>
          simp only [List.cons_append, List.cons.injEq] at hxs
          obtain ⟨rfl, rfl⟩ := hxs
          obtain ⟨hx, w, hw, hp⟩ := ih rfl
          exact ⟨hx, w, hw, hp.snoc hs⟩

/-- A run whose history is an append is two runs. -/
theorem Path.of_append {h' : List (σ × α)} (hp : Path step s (h ++ h') u) :
    ∃ t, Path step s h t ∧ Path step t h' u := by
  induction h generalizing s with
  | nil => exact ⟨s, .nil, hp⟩
  | cons x h ih =>
      obtain ⟨hx, v, hv, hp⟩ := hp.cons_inv
      obtain ⟨t, hl, hr⟩ := ih hp
      refine ⟨t, ?_, hr⟩
      obtain ⟨y, a⟩ := x
      cases hx
      exact .cons hv hl

/-- Cutting a run at one of its steps. -/
theorem Path.at_step {pre post : List (σ × α)} {x : σ × α}
    (hp : Path step s (pre ++ x :: post) u) :
    Path step s pre x.1 ∧ ∃ t, step x.1 x.2 = some t ∧ Path step t post u := by
  obtain ⟨v, hl, hr⟩ := hp.of_append
  obtain ⟨rfl, ht⟩ := hr.cons_inv
  exact ⟨hl, ht⟩

/-- What holds in every state of a run holds after each of its steps. -/
theorem Path.holds_after {P : σ → Prop} {x : σ × α} (hp : Path step s h t)
    (hP : ∀ x ∈ h, P x.1) (ht : P t) (hx : x ∈ h) (hs : step x.1 x.2 = some u) : P u := by
  obtain ⟨pre, post, rfl⟩ := List.append_of_mem hx
  obtain ⟨-, v, hv, hq⟩ := hp.at_step
  rw [hs] at hv
  cases hv
  cases post with
  | nil => exact hq.eq_of_nil ▸ ht
  | cons y post =>
      rw [← hq.cons_inv.1]
      exact hP y (by simp)

/-- The invariant rule for the states along a run. -/
theorem Path.inv_along (Inv : σ → Prop) (ok : σ → α → Prop)
    (hstep : ∀ t a u, Inv t → ok t a → step t a = some u → Inv u)
    (hp : Path step s h t) (h0 : Inv s) (hok : ∀ x ∈ h, ok x.1 x.2) :
    ∀ x ∈ h, Inv x.1 := by
  intro x hx
  obtain ⟨pre, post, rfl⟩ := List.append_of_mem hx
  apply hp.at_step.1.inv Inv ok hstep h0
  intro y hy
  exact hok y (List.mem_append_left _ hy)

/-- **The precedence rule**: a `mark` step brings about `P`, which then
stays. Where no `guarded` step comes before the first `mark`, `P` holds
whenever one is taken. -/
theorem Path.after_first {P : σ → Prop} {mark guarded : σ × α → Bool}
    (hmark : ∀ t a u, mark (t, a) = true → step t a = some u → P u)
    (hkeep : ∀ t a u, P t → step t a = some u → P u)
    (hapart : ∀ x, guarded x = true → mark x = false) (hp : Path step s h t)
    (hfirst : ∀ x ∈ h.takeWhile fun x => !mark x, guarded x = false) :
    ∀ x ∈ h, guarded x = true → P x.1 := by
  intro x hx hguarded
  obtain ⟨pre, post, rfl⟩ := List.append_of_mem hx
  have hmarked : ∃ y ∈ pre, mark y = true := by
    by_contra hnone
    -- otherwise the step is one of those `hfirst` speaks of
    have hpre : ∀ y ∈ pre, (!mark y) = true := by
      intro y hy
      cases hm : mark y with
      | false => rfl
      | true => exact absurd ⟨y, hy, hm⟩ hnone
    have hmem : x ∈ (pre ++ x :: post).takeWhile fun x => !mark x := by
      rw [List.takeWhile_append_of_pos hpre, List.takeWhile_cons, hapart x hguarded]
      simp
    rw [hfirst x hmem] at hguarded
    cases hguarded
  obtain ⟨y, hy, hm⟩ := hmarked
  obtain ⟨before, after, rfl⟩ := List.append_of_mem hy
  obtain ⟨-, u, hu, hrest⟩ := hp.at_step.1.at_step
  exact hrest.inv P (fun _ _ => True) (fun t a u hP _ hs => hkeep t a u hP hs)
    (hmark y.1 y.2 u hm hu) (fun _ _ => trivial)

/-- **The exactness rule**: an invariant that steps in `ok` keep gives `P`,
and every other step leads out of `P`; so a run is in `P` throughout
exactly when all its steps are in `ok`. -/
theorem Path.always_iff (P Inv : σ → Prop) (ok : σ → α → Prop)
    (hstep : ∀ t a u, Inv t → ok t a → step t a = some u → Inv u)
    (hP : ∀ t, Inv t → P t)
    (hout : ∀ t a u, P t → ¬ ok t a → step t a = some u → ¬ P u)
    (hp : Path step s h t) (h0 : Inv s) :
    ((∀ x ∈ h, P x.1) ∧ P t) ↔ ∀ x ∈ h, ok x.1 x.2 := by
  constructor
  · rintro ⟨hall, ht⟩ x hx
    by_contra hok
    obtain ⟨pre, post, heq⟩ := List.append_of_mem hx
    obtain ⟨-, u, hu, -⟩ := (heq ▸ hp).at_step
    exact hout _ _ _ (hall x hx) hok hu (hp.holds_after hall ht hx hu)
  · intro hok
    refine ⟨?_, hP _ (hp.inv Inv ok hstep h0 hok)⟩
    intro x hx
    exact hP _ (hp.inv_along Inv ok hstep h0 hok x hx)

/-! ## A history with one more step -/

section Snoc

variable {β : Type u} {γ : Type v}

theorem countP_snoc (p : β → Bool) (h : List β) (x : β) :
    (h ++ [x]).countP p = h.countP p + (p x).toNat := by
  rw [List.countP_append, List.countP_singleton]
  cases p x <;> rfl

theorem filterMap_snoc (f : β → Option γ) (h : List β) (x : β) :
    (h ++ [x]).filterMap f = h.filterMap f ++ (f x).toList := by
  rw [List.filterMap_append]
  cases hx : f x <;> simp [hx]

/-- The last thing that `f` sees. -/
theorem getLastD_filterMap_snoc (f : β → Option γ) (h : List β) (x : β) (d : γ) :
    ((h ++ [x]).filterMap f).getLastD d = (f x).getD ((h.filterMap f).getLastD d) := by
  rw [filterMap_snoc]
  cases f x <;> simp

end Snoc

/-! ## Following a list of actions -/

/-- The run that takes the listed actions, with its history, when each
of them is allowed. -/
def follow (step : σ → α → Option σ) : σ → List α → Option (List (σ × α) × σ)
  | s, [] => some ([], s)
  | s, a :: as =>
      match step s a with
      | none => none
      | some t => (follow step t as).map fun r => ((s, a) :: r.1, r.2)

theorem path_of_follow {as : List α} {r : List (σ × α) × σ}
    (hr : follow step s as = some r) : Path step s r.1 r.2 := by
  induction as generalizing s r with
  | nil =>
      cases hr
      exact .nil
  | cons a as ih =>
      simp only [follow] at hr
      cases hs : step s a with
      | none => simp [hs] at hr
      | some t =>
          simp only [hs, Option.map_eq_some_iff] at hr
          obtain ⟨r', hr', rfl⟩ := hr
          exact .cons hs (ih hr')

/-- Two steps of a history, by their places in it. -/
theorem exists_two_steps {β : Type u} {h : List β} {i j : Nat} (hij : i < j) (hj : j < h.length) :
    ∃ x y, h[i]? = some x ∧ h[j]? = some y ∧
      h = h.take i ++ x :: ((h.drop (i + 1)).take (j - (i + 1)) ++ y :: h.drop (j + 1)) := by
  have hi : i < h.length := by omega
  refine ⟨h[i], h[j], List.getElem?_eq_getElem hi, List.getElem?_eq_getElem hj, ?_⟩
  have hsecond : h.drop (i + 1) =
      (h.drop (i + 1)).take (j - (i + 1)) ++ h[j] :: h.drop (j + 1) := by
    have hplace : i + 1 + (j - (i + 1)) = j := by omega
    have hcons : (h.drop (i + 1)).drop (j - (i + 1)) = h[j] :: h.drop (j + 1) := by
      rw [List.drop_drop, hplace, List.drop_eq_getElem_cons hj]
    rw [← hcons, List.take_append_drop]
  rw [← hsecond, ← List.drop_eq_getElem_cons hi, List.take_append_drop]

end OplusHardware.Base
