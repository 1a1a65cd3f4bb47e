import Mathlib.Data.List.Sort
import Mathlib.Tactic.Common

/-!
# Queues of timed messages

Messages wait for the time they are due and are taken out in the order of
due time, and of posting where that is equal. A message may be taken out
arbitrarily late, but never past one that is ahead of it. Posting numbers
the messages, so every message of a run has a number of its own.
-/

namespace OplusHardware.Base

structure Message (κ : Type) where
  what : κ
  due : Nat
  seq : Nat
  deriving DecidableEq, Repr

namespace Message

variable {κ : Type} {a b : Message κ}

/-- `a` is taken out before `b`. -/
def before (a b : Message κ) : Prop :=
  a.due < b.due ∨ (a.due = b.due ∧ a.seq < b.seq)

theorem before.due_le (h : a.before b) : a.due ≤ b.due := by
  rcases h with h | ⟨h, -⟩ <;> omega

theorem before.irrefl (h : a.before a) : False := by
  rcases h with h | ⟨-, h⟩ <;> omega

theorem before.asymm (h : a.before b) (h' : b.before a) : False := by
  unfold before at h h'
  omega

end Message

/-- The waiting messages in the order in which they are taken out, and the
number the next one gets. -/
structure MessageQueue (κ : Type) where
  msgs : List (Message κ)
  nextSeq : Nat
  sorted : msgs.Pairwise Message.before
  fresh : ∀ m ∈ msgs, m.seq < nextSeq

namespace MessageQueue

variable {κ : Type} {q q' : MessageQueue κ} {m x : Message κ} {w : κ} {d : Nat}
  {p r : κ → Bool}

instance : Membership (Message κ) (MessageQueue κ) := ⟨fun q m => m ∈ q.msgs⟩

instance [DecidableEq κ] (m : Message κ) (q : MessageQueue κ) : Decidable (m ∈ q) :=
  inferInstanceAs (Decidable (m ∈ q.msgs))

def empty : MessageQueue κ := ⟨[], 0, .nil, by simp⟩

theorem notMem_empty : m ∉ (empty : MessageQueue κ) := List.not_mem_nil

/-- The messages that satisfy `p` and wait. -/
def count (p : κ → Bool) (q : MessageQueue κ) : Nat := q.msgs.countP fun m => p m.what

theorem count_eq_zero : q.count p = 0 ↔ ∀ m ∈ q, p m.what = false := by
  rw [count, List.countP_eq_zero]
  simp only [Bool.not_eq_true]
  rfl

theorem count_pos : 0 < q.count p ↔ ∃ m ∈ q, p m.what = true := List.countP_pos_iff

/-! ## Posting -/

/-- The place of a new message: behind everything due at its time. -/
def place (m : Message κ) (ms : List (Message κ)) : List (Message κ) :=
  ms.orderedInsert (fun a b => a.due < b.due) m

theorem perm_place (m : Message κ) (ms : List (Message κ)) : (place m ms).Perm (m :: ms) :=
  List.perm_orderedInsert _ m ms

theorem sorted_place {ms : List (Message κ)} (hs : ms.Pairwise Message.before)
    (hm : ∀ a ∈ ms, a.seq < m.seq) : (place m ms).Pairwise Message.before := by
  induction ms with
  | nil => simp [place]
  | cons a ms ih =>
      obtain ⟨ha, hms⟩ := List.pairwise_cons.mp hs
      rw [place, List.orderedInsert_cons]
      split
      · rename_i hlt
        refine List.pairwise_cons.mpr ⟨fun b hb => .inl ?_, hs⟩
        rcases List.mem_cons.mp hb with rfl | hb
        · exact hlt
        · have := (ha b hb).due_le
          omega
      · rename_i hge
        refine List.pairwise_cons.mpr ⟨fun b hb => ?_, ih hms fun b hb => hm b (by simp [hb])⟩
        rcases List.mem_cons.mp ((perm_place m ms).mem_iff.mp hb) with rfl | hb
        · have hseq := hm a (by simp)
          unfold Message.before
          omega
        · exact ha b hb

/-- A message is posted: it gets the next number. -/
def post (q : MessageQueue κ) (w : κ) (d : Nat) : MessageQueue κ where
  msgs := place ⟨w, d, q.nextSeq⟩ q.msgs
  nextSeq := q.nextSeq + 1
  sorted := sorted_place q.sorted q.fresh
  fresh := by
    intro m hm
    rcases List.mem_cons.mp ((perm_place _ _).mem_iff.mp hm) with rfl | hm
    · exact Nat.lt_succ_self _
    · have := q.fresh m hm
      omega

@[simp] theorem nextSeq_post : (q.post w d).nextSeq = q.nextSeq + 1 := rfl

@[simp] theorem mem_post : m ∈ q.post w d ↔ m = ⟨w, d, q.nextSeq⟩ ∨ m ∈ q := by
  show m ∈ place _ q.msgs ↔ _
  rw [(perm_place _ _).mem_iff, List.mem_cons]
  rfl

@[simp] theorem count_post : (q.post w d).count p = (p w).toNat + q.count p := by
  show (place _ q.msgs).countP _ = _
  rw [(perm_place _ _).countP_eq, List.countP_cons, count]
  cases p w with
  | true =>
      simp only [if_true, Bool.toNat_true]
      omega
  | false => simp

/-! ## Removing -/

/-- Every waiting message that satisfies `p` is removed. -/
def remove (q : MessageQueue κ) (p : κ → Bool) : MessageQueue κ where
  msgs := q.msgs.filter fun m => !p m.what
  nextSeq := q.nextSeq
  sorted := q.sorted.filter _
  fresh := fun m hm => q.fresh m (List.mem_of_mem_filter hm)

@[simp] theorem nextSeq_remove : (q.remove p).nextSeq = q.nextSeq := rfl

@[simp] theorem mem_remove : m ∈ q.remove p ↔ m ∈ q ∧ p m.what = false := by
  show m ∈ q.msgs.filter _ ↔ _
  rw [List.mem_filter, Bool.not_eq_true']
  rfl

/-- What is removed no longer counts. -/
theorem count_remove_of_imp (h : ∀ w, r w = true → p w = true) :
    (q.remove p).count r = 0 := by
  rw [count_eq_zero]
  intro m hm
  rw [mem_remove] at hm
  apply Bool.eq_false_of_not_eq_true
  intro hr
  rw [h m.what hr] at hm
  exact Bool.noConfusion hm.2

/-! ## Taking out -/

/-- The first message and the rest. -/
def pop (q : MessageQueue κ) : Option (Message κ × MessageQueue κ) :=
  match q with
  | ⟨[], _, _, _⟩ => none
  | ⟨m :: ms, n, hs, hf⟩ =>
      some (m, ⟨ms, n, (List.pairwise_cons.mp hs).2, fun a ha => hf a (by simp [ha])⟩)

/-- **What taking out does**: exactly the first message goes, and it is
before every other one. -/
theorem pop_some (h : q.pop = some (m, q')) :
    (∀ x, x ∈ q ↔ x = m ∨ x ∈ q') ∧ (∀ x ∈ q', m.before x) ∧
      q'.nextSeq = q.nextSeq ∧ ∀ p, q.count p = (p m.what).toNat + q'.count p := by
  obtain ⟨ms, n, hs, hf⟩ := q
  cases ms with
  | nil => cases h
  | cons a ms =>
      simp only [pop, Option.some.injEq, Prod.mk.injEq] at h
      obtain ⟨rfl, rfl⟩ := h
      refine ⟨fun x => List.mem_cons, (List.pairwise_cons.mp hs).1, rfl, fun p => ?_⟩
      rw [count, count, List.countP_cons]
      cases p a.what with
      | true =>
          simp only [if_true, Bool.toNat_true]
          omega
      | false => simp

/-- The message taken out is due no later than any other one. -/
theorem due_le_of_pop (h : q.pop = some (m, q')) (hx : x ∈ q) : m.due ≤ x.due := by
  obtain ⟨hmem, hbefore, -⟩ := pop_some h
  rcases (hmem x).mp hx with rfl | hx
  · exact Nat.le_refl _
  · exact (hbefore x hx).due_le

/-- What is before a waiting message is not taken out after it. -/
theorem not_before_of_pop (h : q.pop = some (m, q')) (hx : x ∈ q) : ¬ x.before m := by
  obtain ⟨hmem, hbefore, -⟩ := pop_some h
  intro hxm
  rcases (hmem x).mp hx with rfl | hx
  · exact hxm.irrefl
  · exact (hbefore x hx).asymm hxm

/-! ## What the messages of one sort carry -/

section Carried

variable {β : Type} {f : κ → Option β} {b : β}

/-- What the messages carry that `f` looks at, in the order in which they
are taken out. -/
def carried (f : κ → Option β) (q : MessageQueue κ) : List β := q.msgs.filterMap fun m => f m.what

theorem filterMap_place_none (hw : f m.what = none) (ms : List (Message κ)) :
    (place m ms).filterMap (fun m => f m.what) = ms.filterMap fun m => f m.what := by
  induction ms with
  | nil => simp [place, hw]
  | cons a ms ih =>
      rw [place, List.orderedInsert_cons]
      split
      · simp [hw]
      · rw [List.filterMap_cons, List.filterMap_cons]
        rw [place] at ih
        rw [ih]

/-- Another message is posted. -/
theorem carried_post_none (hw : f w = none) : (q.post w d).carried f = q.carried f :=
  filterMap_place_none hw q.msgs

theorem filterMap_place_some {ms : List (Message κ)} (hw : f m.what = some b)
    (hs : ms.Pairwise Message.before) (hdue : ∀ a ∈ ms, f a.what ≠ none → a.due ≤ m.due) :
    (place m ms).filterMap (fun m => f m.what) =
      (ms.filterMap fun m => f m.what) ++ [b] := by
  induction ms with
  | nil => simp [place, hw]
  | cons a ms ih =>
      obtain ⟨ha, hms⟩ := List.pairwise_cons.mp hs
      have htail := ih hms fun x hx => hdue x (List.mem_cons_of_mem a hx)
      rw [place, List.orderedInsert_cons]
      split
      · rename_i hlt
        -- what is due later carries nothing
        have hnone : ∀ x ∈ a :: ms, f x.what = none := by
          intro x hx
          by_contra hne
          have hle := hdue x hx hne
          rcases List.mem_cons.mp hx with rfl | hx
          · omega
          · have := (ha x hx).due_le
            omega
        rw [List.filterMap_cons, hw, List.filterMap_eq_nil_iff.mpr hnone]
        rfl
      · rw [List.filterMap_cons, List.filterMap_cons]
        rw [place] at htail
        rw [htail]
        cases f a.what <;> rfl

/-- A message is posted, and every other one of its sort is due no later. -/
theorem carried_post_some (hw : f w = some b)
    (hdue : ∀ a ∈ q, f a.what ≠ none → a.due ≤ d) :
    (q.post w d).carried f = q.carried f ++ [b] :=
  filterMap_place_some hw q.sorted hdue

/-- Messages of other sorts are removed. -/
theorem carried_remove (hp : ∀ w, p w = true → f w = none) :
    (q.remove p).carried f = q.carried f := by
  show (q.msgs.filter _).filterMap _ = q.msgs.filterMap _
  rw [List.filterMap_filter]
  apply List.filterMap_congr
  intro m _
  cases hpm : p m.what with
  | true => simp [hp _ hpm]
  | false => simp

theorem carried_pop (h : q.pop = some (m, q')) :
    q.carried f = (f m.what).toList ++ q'.carried f := by
  obtain ⟨ms, n, hs, hf⟩ := q
  cases ms with
  | nil => cases h
  | cons a ms =>
      simp only [pop, Option.some.injEq, Prod.mk.injEq] at h
      obtain ⟨rfl, rfl⟩ := h
      rw [carried, List.filterMap_cons]
      cases f a.what <;> rfl

end Carried

end MessageQueue

end OplusHardware.Base
