import Mathlib.Data.List.TakeWhile

/-!
# Tokens

A list cut at every element of a class, the empty pieces dropped: what
tokenisers over a set of delimiters do. The class is any predicate.
-/

namespace OplusHardware.Base

variable {α : Type} {p : α → Bool}

/-- What stands between the elements of the class, without the empty
pieces. -/
def tokensP (p : α → Bool) (xs : List α) : List (List α) :=
  (xs.splitOnP p).filter fun token => !token.isEmpty

theorem tokensP_nil : tokensP p [] = [] := by
  rw [tokensP, List.splitOnP_nil]
  rfl

/-- A delimiter cuts the list in two. -/
theorem tokensP_append_cons (xs ys : List α) {sep : α} (hsep : p sep = true) :
    tokensP p (xs ++ sep :: ys) = tokensP p xs ++ tokensP p ys := by
  rw [tokensP, List.splitOnP_append_cons xs ys hsep, List.filter_append]
  rfl

/-- A delimiter in front goes. -/
theorem tokensP_cons (ys : List α) {sep : α} (hsep : p sep = true) :
    tokensP p (sep :: ys) = tokensP p ys := by
  have hcut := tokensP_append_cons [] ys hsep
  rwa [tokensP_nil, List.nil_append, List.nil_append] at hcut

theorem tokensP_plain {xs : List α} (h : ∀ x ∈ xs, p x = false) :
    tokensP p xs = if xs = [] then [] else [xs] := by
  rw [tokensP, List.splitOnP_eq_singleton h]
  cases xs with
  | nil => rfl
  | cons x xs => rfl

/-- A plain piece that the end or a delimiter follows is a token. -/
theorem tokensP_piece {xs ys : List α} (h : ∀ x ∈ xs, p x = false) (hne : xs ≠ [])
    (hys : ∀ y ∈ ys.head?, p y = true) : tokensP p (xs ++ ys) = xs :: tokensP p ys := by
  cases ys with
  | nil => rw [List.append_nil, tokensP_nil, tokensP_plain h, if_neg hne]
  | cons y ys =>
      have hy : p y = true := hys y rfl
      rw [tokensP_append_cons xs ys hy, tokensP_plain h, if_neg hne, tokensP_cons ys hy,
        List.singleton_append]

/-- Delimiters in front go. -/
theorem tokensP_dropWhile (xs : List α) : tokensP p (xs.dropWhile p) = tokensP p xs := by
  induction xs with
  | nil => rfl
  | cons x xs ih =>
      rw [List.dropWhile_cons]
      split
      · rename_i hx
        rw [ih, tokensP_cons xs hx]
      · rfl

/-- **The scan**: what stands before the first delimiter is the first
token, unless it is empty. -/
theorem tokensP_takeWhile (xs : List α) :
    tokensP p xs =
      (if xs.takeWhile (fun x => !p x) = [] then [] else [xs.takeWhile fun x => !p x]) ++
        tokensP p (xs.dropWhile fun x => !p x) := by
  have hplain : ∀ x ∈ xs.takeWhile (fun x => !p x), p x = false := by
    intro x hx
    have hx' := List.mem_takeWhile_imp hx
    rwa [Bool.not_eq_true'] at hx'
  have hhead : ∀ y ∈ (xs.dropWhile fun x => !p x).head?, p y = true := by
    intro y hy
    have hy' := List.head?_dropWhile_not (fun x => !p x) xs
    rw [Option.mem_def.mp hy] at hy'
    simpa using hy'
  by_cases hnil : xs.takeWhile (fun x => !p x) = []
  · have hself : xs.dropWhile (fun x => !p x) = xs := by
      have hall := List.takeWhile_append_dropWhile (p := fun x => !p x) (l := xs)
      rwa [hnil, List.nil_append] at hall
    rw [if_pos hnil, hself, List.nil_append]
  · rw [if_neg hnil, List.singleton_append, ← tokensP_piece hplain hnil hhead,
      List.takeWhile_append_dropWhile]

/-- Every piece is made of elements of the list that do not delimit. -/
theorem mem_splitOnP {xs token : List α} (h : token ∈ xs.splitOnP p) :
    ∀ x ∈ token, x ∈ xs ∧ p x = false := by
  induction xs generalizing token with
  | nil =>
      rw [List.splitOnP_nil, List.mem_singleton] at h
      subst h
      intro x hx
      cases hx
  | cons y ys ih =>
      intro x hx
      rw [List.splitOnP_cons_eq_if_modifyHead] at h
      split at h
      · rcases List.mem_cons.mp h with rfl | h
        · cases hx
        · have hin := ih h x hx
          exact ⟨List.mem_cons_of_mem _ hin.1, hin.2⟩
      · rename_i hy
        obtain ⟨piece, pieces, hsplit⟩ := List.exists_cons_of_ne_nil (List.splitOnP_ne_nil p ys)
        rw [hsplit, List.modifyHead_cons] at h
        rcases List.mem_cons.mp h with rfl | h
        · rcases List.mem_cons.mp hx with rfl | hx
          · exact ⟨List.mem_cons_self, Bool.eq_false_iff.mpr hy⟩
          · have hin := ih (by rw [hsplit]; exact List.mem_cons_self) x hx
            exact ⟨List.mem_cons_of_mem _ hin.1, hin.2⟩
        · have hin := ih (by rw [hsplit]; exact List.mem_cons_of_mem _ h) x hx
          exact ⟨List.mem_cons_of_mem _ hin.1, hin.2⟩

theorem mem_tokensP {xs token : List α} (h : token ∈ tokensP p xs) :
    ∀ x ∈ token, x ∈ xs ∧ p x = false :=
  mem_splitOnP (List.mem_filter.mp h).1

/-- **Items joined with a delimiter** are tokenised one by one. -/
theorem tokensP_intercalate (items : List (List α)) {sep : α} (hsep : p sep = true) :
    tokensP p ([sep].intercalate items) = items.flatMap (tokensP p) := by
  induction items with
  | nil => exact tokensP_nil
  | cons item items ih =>
      cases items with
      | nil =>
          rw [List.intercalate_singleton, List.flatMap_cons, List.flatMap_nil, List.append_nil]
      | cons next items =>
          rw [List.intercalate_cons_cons, List.append_assoc, List.singleton_append,
            tokensP_append_cons _ _ hsep, ih]
          exact List.flatMap_cons.symm

end OplusHardware.Base
