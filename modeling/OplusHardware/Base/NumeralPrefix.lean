import Mathlib.Data.List.TakeWhile
import OplusHardware.Base.Numeral

/-!
# Numbers whose text goes on

What a decimal number read at the front of a text owes to the characters
behind that text. A number that stops at a character of the text is the
same whatever follows. One that runs to the end of the text goes on with
the digits that follow, and enough of them take it out of every range.
-/

namespace OplusHardware.Base

variable {base acc n : Nat} {neg : Bool} {ds cs rest text more : List Char} {v : Int}

/-! ## Digits -/

/-- A scan that stops inside a text does not look behind it. -/
theorem scanDigits_append_of_rest (more : List Char)
    (h : scanDigits base ds acc = (n, rest)) (hrest : rest ≠ []) :
    scanDigits base (ds ++ more) acc = (n, rest ++ more) := by
  induction ds generalizing acc with
  | nil =>
      cases h
      exact absurd rfl hrest
  | cons c cs ih =>
      rw [List.cons_append, scanDigits]
      rw [scanDigits] at h
      cases hd : digitIn base c with
      | some d =>
          rw [hd] at h
          exact ih h
      | none =>
          rw [hd] at h
          cases h
          rfl

/-- The digits a text starts with. -/
def leadingDigits (base : Nat) (text : List Char) : List Char :=
  text.takeWhile fun c => (digitIn base c).isSome

theorem isDigit_of_mem_leadingDigits {c : Char} (hc : c ∈ leadingDigits base text) :
    (digitIn base c).isSome = true :=
  List.mem_takeWhile_imp (p := fun c => (digitIn base c).isSome) hc

/-- A scan takes the digits a text starts with, and no more. -/
theorem scanDigits_leadingDigits (base : Nat) (text : List Char) (acc : Nat) :
    ∃ n rest, scanDigits base text acc = (n, rest) ∧
      scanDigits base (leadingDigits base text) acc = (n, []) := by
  induction text generalizing acc with
  | nil => exact ⟨acc, [], rfl, rfl⟩
  | cons c cs ih =>
      rw [leadingDigits, List.takeWhile_cons, scanDigits]
      cases hd : digitIn base c with
      | some d =>
          obtain ⟨n, rest, hall, hlead⟩ := ih (acc * base + d)
          refine ⟨n, rest, hall, ?_⟩
          show scanDigits base (c :: leadingDigits base cs) acc = _
          rw [scanDigits, hd]
          exact hlead
      | none => exact ⟨acc, c :: cs, rfl, rfl⟩

/-- So many nines. -/
def nines (k : Nat) : List Char := List.replicate k '9'

theorem scanDigits_nines (k acc : Nat) :
    scanDigits 10 (nines k) acc = (acc * 10 ^ k + (10 ^ k - 1), []) := by
  induction k generalizing acc with
  | zero =>
      show (acc, []) = _
      simp
  | succ k ih =>
      show scanDigits 10 (nines k) (acc * 10 + 9) = _
      have hpos : 0 < 10 ^ k := Nat.pow_pos (by omega)
      have hsum : (acc * 10 + 9) * 10 ^ k = acc * 10 ^ (k + 1) + 9 * 10 ^ k := by
        rw [Nat.add_mul, Nat.mul_assoc, Nat.mul_comm 10, ← Nat.pow_succ]
      have htotal : acc * 10 ^ (k + 1) + 9 * 10 ^ k + (10 ^ k - 1) =
          acc * 10 ^ (k + 1) + (10 ^ (k + 1) - 1) := by
        rw [Nat.pow_succ 10 k]
        omega
      rw [ih, hsum, htotal]

/-! ## Numbers -/

/-- The digits of a number behind its sign, and the text after them. -/
def magnitude (base : Nat) (cs : List Char) : Option (Nat × List Char) :=
  match cs with
  | [] => none
  | c :: _ => if (digitIn base c).isSome then some (scanDigits base cs 0) else none

/-- A number with its sign. -/
def signed (neg : Bool) (n : Nat) : Int := if neg then -(n : Int) else n

/-- `strtol` takes white space, a sign and a magnitude. -/
theorem strtol_eq (hb : base ≠ 16) (text : List Char) :
    strtol base text =
      (magnitude base (scanSign (text.dropWhile isSpace)).2).map fun r =>
        (signed (scanSign (text.dropWhile isSpace)).1 r.1, r.2) := by
  rw [strtol]
  simp only [hb, if_false]
  cases (scanSign (text.dropWhile isSpace)).2 with
  | nil => rfl
  | cons c cs =>
      by_cases hc : (digitIn base c).isSome = true
      · simp [magnitude, hc, signed]
      · simp [magnitude, hc]

theorem magnitude_append_of_none (more : List Char) (hcs : cs ≠ [])
    (h : magnitude base cs = none) : magnitude base (cs ++ more) = none := by
  cases cs with
  | nil => exact absurd rfl hcs
  | cons c cs =>
      rw [List.cons_append, magnitude]
      rw [magnitude] at h
      split at h
      · cases h
      · rename_i hc
        rw [if_neg hc]

/-- Where there is a number, it is what the digits give, with more text
behind them as well. -/
theorem magnitude_append (more : List Char) {r : Nat × List Char}
    (h : magnitude base cs = some r) :
    scanDigits base cs 0 = r ∧
      magnitude base (cs ++ more) = some (scanDigits base (cs ++ more) 0) := by
  cases cs with
  | nil => cases h
  | cons c cs =>
      rw [magnitude, Option.ite_none_right_eq_some] at h
      obtain ⟨hc, hscan⟩ := h
      rw [List.cons_append, magnitude, if_pos hc]
      exact ⟨Option.some.inj hscan, rfl⟩

theorem magnitude_append_of_rest (more : List Char)
    (h : magnitude base cs = some (n, rest)) (hrest : rest ≠ []) :
    magnitude base (cs ++ more) = some (n, rest ++ more) := by
  obtain ⟨hscan, hmore⟩ := magnitude_append more h
  rw [hmore, scanDigits_append_of_rest more hscan hrest]

theorem magnitude_append_of_end (more : List Char)
    (h : magnitude base cs = some (n, [])) :
    magnitude base (cs ++ more) = some (scanDigits base more n) := by
  obtain ⟨hscan, hmore⟩ := magnitude_append more h
  rw [hmore, (scanDigits_append more hscan).1]

theorem scanSign_append (hcs : cs ≠ []) (more : List Char) :
    scanSign (cs ++ more) = ((scanSign cs).1, (scanSign cs).2 ++ more) := by
  cases cs with
  | nil => exact absurd rfl hcs
  | cons c cs =>
      rw [List.cons_append]
      unfold scanSign
      split
      · rename_i heq
        obtain ⟨rfl, rfl⟩ := List.cons.inj heq
        rfl
      · rename_i heq
        obtain ⟨rfl, rfl⟩ := List.cons.inj heq
        rfl
      · rename_i hminus hplus
        split
        · rename_i heq
          obtain ⟨rfl, rfl⟩ := List.cons.inj heq
          exact absurd rfl (hminus _)
        · rename_i heq
          obtain ⟨rfl, rfl⟩ := List.cons.inj heq
          exact absurd rfl (hplus _)
        · rfl

theorem dropWhile_append_of_ne_nil {p : Char → Bool} (more : List Char)
    (h : text.dropWhile p ≠ []) :
    (text ++ more).dropWhile p = text.dropWhile p ++ more := by
  rw [List.dropWhile_append, if_neg]
  simpa using h

/-! ## Where the text ends -/

/-- **The number may go on behind the text**: the text is white space and
perhaps a sign, or its digits come to its end. -/
def RunsOut (text : List Char) : Prop :=
  (scanSign (text.dropWhile isSpace)).2 = [] ∨ ∃ v, strtol 10 text = some (v, [])

theorem ne_nil_of_not_runsOut (h : ¬ RunsOut text) : text.dropWhile isSpace ≠ [] := by
  intro hblank
  refine h (.inl ?_)
  rw [hblank]
  rfl

/-- A number that does not run out is read the same whatever follows. -/
theorem strtol_append (h : ¬ RunsOut text) (more : List Char) :
    strtol 10 (text ++ more) = (strtol 10 text).map fun r => (r.1, r.2 ++ more) := by
  have hne := ne_nil_of_not_runsOut h
  obtain ⟨hsign, hend⟩ := not_or.mp h
  rw [strtol_eq (by omega), strtol_eq (by omega), dropWhile_append_of_ne_nil more hne,
    scanSign_append hne]
  cases hm : magnitude 10 (scanSign (text.dropWhile isSpace)).2 with
  | none =>
      rw [magnitude_append_of_none more hsign hm]
      rfl
  | some r =>
      obtain ⟨n, rest⟩ := r
      have hrest : rest ≠ [] := by
        rintro rfl
        refine hend ⟨signed (scanSign (text.dropWhile isSpace)).1 n, ?_⟩
        rw [strtol_eq (by omega), hm]
        rfl
      rw [magnitude_append_of_rest more hm hrest]
      rfl

theorem ne_nil_of_strtol {r : Int × List Char} (h : strtol 10 text = some r) :
    text.dropWhile isSpace ≠ [] := by
  intro hblank
  rw [strtol_blank hblank] at h
  cases h

/-- The number a text ends with, behind its sign. -/
theorem magnitude_of_end (h : strtol 10 text = some (v, [])) :
    ∃ n, magnitude 10 (scanSign (text.dropWhile isSpace)).2 = some (n, []) ∧
      v = signed (scanSign (text.dropWhile isSpace)).1 n := by
  rw [strtol_eq (by omega), Option.map_eq_some_iff] at h
  obtain ⟨⟨n, rest⟩, hm, hr⟩ := h
  cases hr
  exact ⟨n, hm, rfl⟩

/-- One that runs to the end goes on with what follows. -/
theorem strtol_append_of_end {n : Nat} (more : List Char)
    (h : strtol 10 text = some (v, []))
    (hm : magnitude 10 (scanSign (text.dropWhile isSpace)).2 = some (n, [])) :
    strtol 10 (text ++ more) =
      some (signed (scanSign (text.dropWhile isSpace)).1 (scanDigits 10 more n).1,
        (scanDigits 10 more n).2) := by
  have hne := ne_nil_of_strtol h
  rw [strtol_eq (by omega), dropWhile_append_of_ne_nil more hne, scanSign_append hne,
    magnitude_append_of_end more hm]
  rfl

/-- **A number goes on with the digits that follow**, and only with these. -/
theorem strtol_append_leadingDigits (more : List Char)
    (h : strtol 10 text = some (v, [])) :
    ∃ w rest, strtol 10 (text ++ more) = some (w, rest) ∧
      strtol 10 (text ++ leadingDigits 10 more) = some (w, []) := by
  obtain ⟨n, hm, -⟩ := magnitude_of_end h
  obtain ⟨m, rest, hall, hlead⟩ := scanDigits_leadingDigits 10 more n
  refine ⟨signed (scanSign (text.dropWhile isSpace)).1 m, rest, ?_, ?_⟩
  · rw [strtol_append_of_end more h hm, hall]
  · rw [strtol_append_of_end _ h hm, hlead]

/-- Nines that follow take a number away from zero. -/
theorem strtol_append_nines (k : Nat) (h : strtol 10 text = some (v, [])) :
    ∃ n : Nat, 10 ^ k - 1 ≤ n ∧
      (strtol 10 (text ++ nines k) = some ((n : Int), []) ∨
        strtol 10 (text ++ nines k) = some (-(n : Int), [])) := by
  obtain ⟨m, hm, -⟩ := magnitude_of_end h
  refine ⟨m * 10 ^ k + (10 ^ k - 1), by omega, ?_⟩
  rw [strtol_append_of_end _ h hm, scanDigits_nines]
  cases (scanSign (text.dropWhile isSpace)).1 with
  | true => exact .inr rfl
  | false => exact .inl rfl

/-- White space and perhaps a sign go on with digits to a number. -/
theorem strtol_append_of_open {c : Char}
    (hopen : (scanSign (text.dropWhile isSpace)).2 = [])
    (hc : (digitIn 10 c).isSome = true) (cs : List Char) :
    strtol 10 (text ++ c :: cs) =
      some (signed (scanSign (text.dropWhile isSpace)).1 (scanDigits 10 (c :: cs) 0).1,
        (scanDigits 10 (c :: cs) 0).2) := by
  have h16 : (digitIn 16 c).isSome = true := digitIn_mono (by omega) hc
  have hscan : scanSign ((text ++ c :: cs).dropWhile isSpace) =
      ((scanSign (text.dropWhile isSpace)).1, c :: cs) := by
    by_cases hblank : text.dropWhile isSpace = []
    · rw [List.dropWhile_append, hblank, List.isEmpty_nil, if_pos rfl,
        List.dropWhile_cons, (digit_plain h16).1, if_neg (by simp), scanSign_digit h16]
      rfl
    · rw [dropWhile_append_of_ne_nil _ hblank, scanSign_append hblank, hopen]
      rfl
  rw [strtol_eq (by omega), hscan, magnitude, if_pos hc]
  rfl

end OplusHardware.Base
