import Mathlib.Logic.Function.Basic
import OplusHardware.Base.Path

/-!
# Unlocked read–modify–write of a shared word

A word of cells `ι → ν` is shared by any number of parties. Each party
has a list of updates to make, one after another, and makes each of them
in two steps: it copies the whole word and changes one cell of the copy,
then it writes the copy back. Nothing stops the steps of two parties from
interleaving.

Two things survive that. A cell nobody has an update for never changes.
And where one party alone updates a cell, its last update of the cell
stands if nobody else holds a copy when that update is written. What was
lost of the earlier ones does not matter.
-/

namespace OplusHardware.Base

/-- One cell and the value it is to get. -/
structure Update (ι ν : Type) where
  cell : ι
  value : ν
  deriving DecidableEq, Repr

/-! ## Updates one after another -/

section Settle

variable {ι ν : Type} [DecidableEq ι] {i : ι} {us vs : List (Update ι ν)}

/-- The value a cell holds after the updates, made in order by one party
alone. -/
def settle (i : ι) : List (Update ι ν) → ν → ν
  | [], v => v
  | u :: us, v => settle i us (if u.cell = i then u.value else v)

theorem settle_append (v : ν) : settle i (us ++ vs) v = settle i vs (settle i us v) := by
  induction us generalizing v with
  | nil => rfl
  | cons u us ih => rw [List.cons_append, settle, ih, settle]

theorem settle_of_untargeted (hus : ∀ u ∈ us, u.cell ≠ i) (v : ν) : settle i us v = v := by
  induction us generalizing v with
  | nil => rfl
  | cons u us ih =>
      rw [settle, if_neg (hus u (by simp)), ih fun u' hu' => hus u' (by simp [hu'])]

/-- The last update of a cell decides its value. -/
theorem settle_last {u : Update ι ν} (hu : u.cell = i) (hvs : ∀ w ∈ vs, w.cell ≠ i) (v : ν) :
    settle i (us ++ u :: vs) v = u.value := by
  rw [settle_append, settle, if_pos hu, settle_of_untargeted hvs]

end Settle

/-! ## Parties that share the word -/

/-- A party: the updates it has still to make, and the changed copy it
holds between reading and writing back the first of them. -/
structure Worker (ι ν : Type) where
  todo : List (Update ι ν)
  held : Option (ι → ν)

/-- The word and the parties `π` that share it. -/
structure SharedWord (ι ν π : Type) where
  word : ι → ν
  worker : π → Worker ι ν

namespace SharedWord

variable {ι ν π : Type} [DecidableEq ι] [DecidableEq π] {s t : SharedWord ι ν π}
  {p q : π} {i : ι} {h : List (SharedWord ι ν π × π)}

/-- One step of a party: copy and change, or write back. -/
def step (s : SharedWord ι ν π) (p : π) : Option (SharedWord ι ν π) :=
  match (s.worker p).todo, (s.worker p).held with
  | [], _ => none
  | u :: us, none =>
      let copy := Function.update s.word u.cell u.value
      some ⟨s.word, Function.update s.worker p ⟨u :: us, some copy⟩⟩
  | _ :: us, some w => some ⟨w, Function.update s.worker p ⟨us, none⟩⟩

/-- What a step does. Both cases leave the other parties alone. -/
inductive StepCase (s : SharedWord ι ν π) (p : π) (t : SharedWord ι ν π) : Prop where
  | read (u : Update ι ν) (us : List (Update ι ν))
      (hs : s.worker p = ⟨u :: us, none⟩) (hw : t.word = s.word)
      (ht : t.worker p = ⟨u :: us, some (Function.update s.word u.cell u.value)⟩)
  | write (u : Update ι ν) (us : List (Update ι ν)) (w : ι → ν)
      (hs : s.worker p = ⟨u :: us, some w⟩) (hw : t.word = w)
      (ht : t.worker p = ⟨us, none⟩)

theorem step_cases (hs : step s p = some t) :
    StepCase s p t ∧ ∀ q, q ≠ p → t.worker q = s.worker q := by
  rw [step] at hs
  split at hs
  · cases hs
  · rename_i u us htodo hheld
    cases hs
    refine ⟨.read u us ?_ rfl (by simp), fun q hq => Function.update_of_ne hq _ _⟩
    rw [← htodo, ← hheld]
  · rename_i u us w htodo hheld
    cases hs
    refine ⟨.write u us w ?_ rfl (by simp), fun q hq => Function.update_of_ne hq _ _⟩
    rw [← htodo, ← hheld]

/-- No step adds an update. -/
theorem step_todo (hs : step s p = some t) (q : π) :
    ∀ u ∈ (t.worker q).todo, u ∈ (s.worker q).todo := by
  intro u hu
  obtain ⟨hcase, hother⟩ := step_cases hs
  by_cases hqp : q = p
  · subst hqp
    cases hcase with
    | read u' us hp hw ht => simpa [ht, hp] using hu
    | write u' us w hp hw ht =>
        rw [ht] at hu
        simp [hp, hu]
  · rwa [hother q hqp] at hu

/-- A copy that is held after a step was held before, or it is the one the
step has made for an update that is still to come. -/
theorem step_held (hs : step s p = some t) {w : ι → ν} (hq : (t.worker q).held = some w) :
    (s.worker q).held = some w ∨
      q = p ∧ ∃ u ∈ (s.worker p).todo, w = Function.update s.word u.cell u.value := by
  obtain ⟨hcase, hother⟩ := step_cases hs
  by_cases hqp : q = p
  · subst hqp
    cases hcase with
    | read u us hp hw ht =>
        rw [ht] at hq
        cases hq
        exact .inr ⟨rfl, u, by simp [hp], rfl⟩
    | write u us w' hp hw ht =>
        rw [ht] at hq
        cases hq
  · rw [hother q hqp] at hq
    exact .inl hq

/-- The word keeps a cell that the copy of the party that steps has as it
is. -/
theorem step_word (hs : step s p = some t)
    (hheld : ∀ w, (s.worker p).held = some w → w i = s.word i) : t.word i = s.word i := by
  obtain ⟨hcase, -⟩ := step_cases hs
  cases hcase with
  | read u us hp hw ht => rw [hw]
  | write u us w hp hw ht => rw [hw, hheld w (by rw [hp])]

/-! ## Cells nobody updates -/

/-- No remaining update is of the cell, and the word and every copy hold
the value `v` in it. -/
structure Untouched (i : ι) (v : ν) (s : SharedWord ι ν π) : Prop where
  todo : ∀ p, ∀ u ∈ (s.worker p).todo, u.cell ≠ i
  word : s.word i = v
  held : ∀ p w, (s.worker p).held = some w → w i = v

theorem Untouched.step {v : ν} (hi : s.Untouched i v) (hs : step s p = some t) :
    t.Untouched i v where
  todo := by
    intro q u hu
    exact hi.todo q u (step_todo hs q u hu)
  word := by
    rw [step_word hs fun w hw => (hi.held p w hw).trans hi.word.symm]
    exact hi.word
  held := by
    intro q w hq
    rcases step_held hs hq with hold | ⟨-, u, hu, rfl⟩
    · exact hi.held q w hold
    · rw [Function.update_of_ne (hi.todo p u hu).symm]
      exact hi.word

/-! ## Cells one party updates -/

/-- **The write with `n` updates left does not fall into a window**: when
`p` writes the first of its last `n` updates, no other party holds a
copy. -/
def clear (p : π) (n : Nat) (s : SharedWord ι ν π) (a : π) : Prop :=
  a = p → (s.worker p).held ≠ none → (s.worker p).todo.length = n →
    ∀ q, q ≠ p → (s.worker q).held = none

/-- Where `p` is with an update of the cell to `v` after which only the
updates `vs` come. -/
inductive Reaches (p : π) (i : ι) (v : ν) (vs : List (Update ι ν))
    (s : SharedWord ι ν π) : Prop where
  | pending (us : List (Update ι ν)) (u : Update ι ν)
      (todo : (s.worker p).todo = us ++ u :: vs) (cell : u.cell = i) (value : u.value = v)
      (own : us = [] → ∀ w, (s.worker p).held = some w → w i = v)
  | done (us : List (Update ι ν)) (todo : vs = us ++ (s.worker p).todo)
      (word : s.word i = v) (held : ∀ q w, (s.worker q).held = some w → w i = v)

/-- Only `p` has updates of the cell, and none after the one to `v`. -/
structure Owned (p : π) (i : ι) (v : ν) (vs : List (Update ι ν)) (s : SharedWord ι ν π) :
    Prop where
  todo : ∀ q, q ≠ p → ∀ u ∈ (s.worker q).todo, u.cell ≠ i
  last : ∀ u ∈ vs, u.cell ≠ i
  reaches : s.Reaches p i v vs

variable {v : ν} {vs : List (Update ι ν)}

/-- A step of the owner before its last update of the cell is written. -/
theorem reaches_of_pending {us : List (Update ι ν)} {u : Update ι ν}
    (htodo : (s.worker p).todo = us ++ u :: vs) (hcell : u.cell = i) (hvalue : u.value = v)
    (hown : us = [] → ∀ w, (s.worker p).held = some w → w i = v)
    (hc : clear p (vs.length + 1) s p) (hs : step s p = some t) : t.Reaches p i v vs := by
  obtain ⟨hcase, hother⟩ := step_cases hs
  cases hcase with
  | read u' us' hp hw ht =>
      have hsame : u' :: us' = us ++ u :: vs := by rw [← htodo, hp]
      refine .pending us u (by rw [ht, hsame]) hcell hvalue ?_
      rintro rfl w hheld
      cases hsame
      rw [ht] at hheld
      cases hheld
      rw [← hcell, Function.update_self, hvalue]
  | write u' us' w hp hw ht =>
      have hsame : u' :: us' = us ++ u :: vs := by rw [← htodo, hp]
      cases us with
      | nil =>
          -- the write is the moment the update becomes visible
          cases hsame
          have hnew : w i = v := hown rfl w (by rw [hp])
          refine .done [] (by rw [ht]; rfl) (by rw [hw, hnew]) fun q w' hq => ?_
          by_cases hqp : q = p
          · rw [hqp, ht] at hq
            cases hq
          · rw [hother q hqp, hc rfl (by simp [hp]) (by rw [hp]; rfl) q hqp] at hq
            cases hq
      | cons x us =>
          cases hsame
          refine .pending us u (by rw [ht]; rfl) hcell hvalue fun _ w' hheld => ?_
          rw [ht] at hheld
          cases hheld

/-- A step of any party once it is written. What is left to do is not of
the cell. -/
theorem reaches_of_done {us : List (Update ι ν)} (htodo : vs = us ++ (s.worker p).todo)
    (hword : s.word i = v) (hheld : ∀ q w, (s.worker q).held = some w → w i = v)
    (hleft : ∀ u ∈ (s.worker q).todo, u.cell ≠ i) (hs : step s q = some t) :
    t.Reaches p i v vs := by
  obtain ⟨us', hus'⟩ : ∃ us', (s.worker p).todo = us' ++ (t.worker p).todo := by
    obtain ⟨hcase, hother⟩ := step_cases hs
    by_cases hqp : p = q
    · subst hqp
      cases hcase with
      | read u rest hp hw ht => exact ⟨[], by rw [ht, hp]; rfl⟩
      | write u rest w hp hw ht => exact ⟨[u], by rw [ht, hp]; rfl⟩
    · exact ⟨[], by rw [hother p hqp]; rfl⟩
  refine .done (us ++ us') (by rw [htodo, hus', List.append_assoc]) ?_ fun r w hr => ?_
  · rw [step_word hs fun w hw => (hheld q w hw).trans hword.symm, hword]
  · rcases step_held hs hr with hold | ⟨-, u, hu, rfl⟩
    · exact hheld r w hold
    · rw [Function.update_of_ne (hleft u hu).symm, hword]

theorem Owned.step (hi : s.Owned p i v vs) (hc : clear p (vs.length + 1) s q)
    (hs : step s q = some t) : t.Owned p i v vs := by
  refine ⟨fun r hr u hu => hi.todo r hr u (step_todo hs r u hu), hi.last, ?_⟩
  cases hi.reaches with
  | pending us u htodo hcell hvalue hown =>
      by_cases hqp : q = p
      · subst hqp
        exact reaches_of_pending htodo hcell hvalue hown hc hs
      · have hp : t.worker p = s.worker p := (step_cases hs).2 p (Ne.symm hqp)
        exact .pending us u (hp ▸ htodo) hcell hvalue (hp ▸ hown)
  | done us htodo hword hheld =>
      apply reaches_of_done htodo hword hheld ?_ hs
      intro u hu
      by_cases hqp : q = p
      · subst hqp
        exact hi.last u (by simp [htodo, hu])
      · exact hi.todo q hqp u hu

/-- The updates a party has left go down with its writes. -/
theorem step_length (hs : step s p = some t) :
    (t.worker p).todo.length + (s.worker p).held.isSome.toNat =
      (s.worker p).todo.length := by
  cases (step_cases hs).1 with
  | read u us hp hw ht => rw [ht, hp]; rfl
  | write u us w hp hw ht => rw [ht, hp]; rfl

/-! ## Whole runs -/

/-- **A cell nobody updates is unchanged**, in every interleaving. -/
theorem word_of_untargeted (hp : Path step s h t) (hidle : ∀ p, (s.worker p).held = none)
    (hi : ∀ p, ∀ u ∈ (s.worker p).todo, u.cell ≠ i) : t.word i = s.word i := by
  have hinv : t.Untouched i (s.word i) := hp.inv (Untouched i (s.word i))
    (fun _ _ => True) (fun _ _ _ hi _ hs => hi.step hs)
    ⟨hi, rfl, fun p w hw => by simp [hidle p] at hw⟩ (fun _ _ => trivial)
  exact hinv.word

/-- **The last update of a cell stands** where no other party has updates
of it: in every interleaving in which nobody else holds a copy when that
update is written. -/
theorem word_of_owner (hp : Path step s h t) (hidle : ∀ q, (s.worker q).held = none)
    (hi : ∀ q, q ≠ p → ∀ u ∈ (s.worker q).todo, u.cell ≠ i) {us : List (Update ι ν)}
    {u : Update ι ν} (htodo : (s.worker p).todo = us ++ u :: vs) (hcell : u.cell = i)
    (hlast : ∀ u ∈ vs, u.cell ≠ i) (hclear : ∀ x ∈ h, clear p (vs.length + 1) x.1 x.2)
    (hdone : (t.worker p).todo = []) : t.word i = u.value := by
  have hinv : t.Owned p i u.value vs := by
    refine hp.inv (Owned p i u.value vs) (clear p (vs.length + 1))
      (fun s q t hi hc hs => hi.step hc hs) ⟨hi, hlast, ?_⟩ hclear
    exact .pending us u htodo hcell rfl fun _ w hw => by simp [hidle p] at hw
  cases hinv.reaches with
  | pending us u' htodo' => simp [hdone] at htodo'
  | done us htodo' hword hheld => exact hword

end SharedWord

end OplusHardware.Base
