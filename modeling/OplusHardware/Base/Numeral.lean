import Mathlib.Data.List.TakeDrop
import Mathlib.Tactic.Common
import Mathlib.Tactic.IntervalCases

/-!
# Numbers as text

The C conversions between integers and text: `strtol` with its optional
white space, sign and hexadecimal mark, `std::stoi` on top of it, and
`std::to_string`. Text is a list of characters.

The main fact is that `strtol` reads every numeral: what `Nat.toDigits`
renders in base 10 or 16, in upper or lower case and with leading zeros.
-/

namespace OplusHardware.Base

/-- `isspace` in the C locale. -/
def isSpace (c : Char) : Bool :=
  c = ' ' || c = '\t' || c = '\n' || c = '\x0b' || c = '\x0c' || c = '\r'

/-- The value of a digit or a letter, as `strtol` counts them. -/
def digitValue (c : Char) : Option Nat :=
  if '0' ≤ c ∧ c ≤ '9' then some (c.toNat - '0'.toNat)
  else if 'a' ≤ c ∧ c ≤ 'z' then some (c.toNat - 'a'.toNat + 10)
  else if 'A' ≤ c ∧ c ≤ 'Z' then some (c.toNat - 'A'.toNat + 10)
  else none

/-- The value of `c` as a digit of `base`. -/
def digitIn (base : Nat) (c : Char) : Option Nat :=
  (digitValue c).filter (· < base)

/-- The longest run of digits, added to `acc`, and the text after it. -/
def scanDigits (base : Nat) : List Char → Nat → Nat × List Char
  | [], acc => (acc, [])
  | c :: cs, acc =>
      match digitIn base c with
      | some d => scanDigits base cs (acc * base + d)
      | none => (acc, c :: cs)

/-- The sign, if there is one: whether it is a minus, and the text after
it. -/
def scanSign : List Char → Bool × List Char
  | '-' :: cs => (true, cs)
  | '+' :: cs => (false, cs)
  | cs => (false, cs)

/-- The text without a `0x` or `0X` that a hexadecimal digit follows. -/
def dropHexMark : List Char → List Char
  | '0' :: x :: d :: cs =>
      if (x = 'x' ∨ x = 'X') ∧ (digitIn 16 d).isSome then d :: cs
      else '0' :: x :: d :: cs
  | cs => cs

/-- `strtol(text, &end, base)` in unbounded integers: the value and the
text from `end` on, or `none` where no conversion is done. -/
def strtol (base : Nat) (text : List Char) : Option (Int × List Char) :=
  let (neg, cs) := scanSign (text.dropWhile isSpace)
  let cs := if base = 16 then dropHexMark cs else cs
  match cs with
  | [] => none
  | c :: _ =>
      if (digitIn base c).isSome then
        let (v, rest) := scanDigits base cs 0
        some (if neg then -(v : Int) else v, rest)
      else none

/-- What `std::stoi` throws. -/
inductive StoiError where
  | invalidArgument
  | outOfRange
  deriving DecidableEq, Repr

/-- `std::stoi(text, nullptr, base)`. -/
def stoi (base : Nat) (text : List Char) : Except StoiError Int :=
  match strtol base text with
  | none => .error .invalidArgument
  | some (v, _) => if -(2 ^ 31) ≤ v ∧ v < 2 ^ 31 then .ok v else .error .outOfRange

/-- `std::to_string` of an `int`. -/
def toText (v : Int) : List Char :=
  if v < 0 then '-' :: Nat.toDigits 10 v.natAbs else Nat.toDigits 10 v.natAbs

/-- The `int32_t` nearest to a number. -/
def saturateInt32 (v : Int) : Int32 := Int32.ofInt (max (-2 ^ 31) (min v (2 ^ 31 - 1)))

/-- What an `int32_t` that held `old` holds after `in >> value`: the stream
skips white space; at its end it does not touch the variable, a malformed
number leaves `0`, and a number out of range the bound. -/
def extractInt32 (old : Int32) (text : List Char) : Int32 :=
  if text.dropWhile isSpace = [] then old
  else
    match strtol 10 text with
    | none => 0
    | some (v, _) => saturateInt32 v

/-- `ds` is written in digits of the base, upper or lower case and with
any number of zeros in front, and denotes `n`. -/
def IsNumeral (base n : Nat) (ds : List Char) : Prop :=
  ds ≠ [] ∧ scanDigits base ds 0 = (n, [])

/-- The text is a numeral of `n`, with white space behind it. -/
def Renders (base n : Nat) (text : List Char) : Prop :=
  ∃ ds ws, text = ds ++ ws ∧ IsNumeral base n ds ∧ ∀ c ∈ ws, isSpace c = true

variable {base n acc : Nat} {c : Char} {ds ws text : List Char}

/-! ## Digits -/

theorem digitValue_digitChar {d : Nat} (h : d < 16) :
    digitValue (Nat.digitChar d) = some d := by
  interval_cases d <;> rfl

theorem digitIn_digitChar {d : Nat} (hb : base ≤ 16) (h : d < base) :
    digitIn base (Nat.digitChar d) = some d := by
  rw [digitIn, digitValue_digitChar (by omega)]
  simp [h]

theorem digitIn_mono (hb : base ≤ 16) (h : (digitIn base c).isSome = true) :
    (digitIn 16 c).isSome = true := by
  obtain ⟨d, hd⟩ := Option.isSome_iff_exists.mp h
  rw [digitIn, Option.filter_eq_some_iff, decide_eq_true_eq] at hd
  rw [digitIn, hd.1, Option.filter_some, if_pos (decide_eq_true (by omega))]
  rfl

theorem digitIn_space (h : isSpace c = true) : digitIn base c = none := by
  simp only [isSpace, Bool.or_eq_true, decide_eq_true_eq] at h
  have hnone : digitValue c = none := by
    rcases h with ((((rfl | rfl) | rfl) | rfl) | rfl) | rfl <;> rfl
  simp [digitIn, hnone]

/-- A digit is neither white space nor a sign nor part of a hexadecimal
mark. -/
theorem digit_plain (h : (digitIn 16 c).isSome = true) :
    isSpace c = false ∧ c ≠ '-' ∧ c ≠ '+' ∧ c ≠ 'x' ∧ c ≠ 'X' := by
  refine ⟨?_, ?_, ?_, ?_, ?_⟩
  · rw [← Bool.not_eq_true]
    intro hs
    rw [digitIn_space hs] at h
    cases h
  all_goals
    rintro rfl
    exact absurd h (by decide)

theorem isSpace_lineBreak : ∀ c ∈ ['\n'], isSpace c = true := by
  intro c hc
  rw [List.mem_singleton] at hc
  subst hc
  rfl

/-! ## Scanning digits -/

theorem scanDigits_digit {d : Nat} {cs : List Char} (hb : base ≤ 16) (h : d < base) :
    scanDigits base (Nat.digitChar d :: cs) acc = scanDigits base cs (acc * base + d) := by
  rw [scanDigits, digitIn_digitChar hb h]

/-- Scanning rendered digits pushes the number into the accumulator. -/
theorem scanDigits_toDigits (h2 : 1 < base) (hb : base ≤ 16) (n : Nat) :
    ∃ k, ∀ (cs : List Char) (acc : Nat),
      scanDigits base (Nat.toDigits base n ++ cs) acc =
        scanDigits base cs (acc * base ^ k + n) := by
  induction n using Nat.strongRecOn with
  | ind n ih =>
      by_cases hlt : n < base
      · refine ⟨1, fun cs acc => ?_⟩
        rw [Nat.toDigits_of_lt_base hlt, List.singleton_append, scanDigits_digit hb hlt,
          Nat.pow_one]
      · obtain ⟨k, hk⟩ := ih (n / base) (Nat.div_lt_self (by omega) h2)
        refine ⟨k + 1, fun cs acc => ?_⟩
        have hmod : n % base < base := Nat.mod_lt _ (by omega)
        have hval : (acc * base ^ k + n / base) * base + n % base =
            acc * base ^ (k + 1) + n := by
          rw [Nat.add_mul, Nat.pow_succ, Nat.mul_assoc, Nat.add_assoc,
            Nat.mul_comm (n / base), Nat.div_add_mod]
        rw [Nat.toDigits_of_base_le h2 (by omega), List.append_assoc, hk,
          List.singleton_append, scanDigits_digit hb hmod, hval]

/-- Scanning stops at white space. -/
theorem scanDigits_spaces (hws : ∀ c ∈ ws, isSpace c = true) :
    scanDigits base ws acc = (acc, ws) := by
  cases ws with
  | nil => rfl
  | cons c cs => rw [scanDigits, digitIn_space (hws c (by simp))]

/-- A scan that uses a text up does not look at what follows it. -/
theorem scanDigits_append (ws : List Char) (h : scanDigits base ds acc = (n, [])) :
    scanDigits base (ds ++ ws) acc = scanDigits base ws n ∧
      ∀ c ∈ ds, (digitIn base c).isSome = true := by
  induction ds generalizing acc with
  | nil =>
      cases h
      exact ⟨rfl, by simp⟩
  | cons c cs ih =>
      rw [scanDigits] at h
      split at h
      · rename_i d hd
        obtain ⟨hscan, hall⟩ := ih h
        constructor
        · rw [List.cons_append, scanDigits, hd]
          exact hscan
        · intro c' hc'
          rcases List.mem_cons.mp hc' with rfl | hc'
          · simp [hd]
          · exact hall c' hc'
      · cases h

/-! ## Numerals -/

/-- What `toDigits` renders is a numeral. -/
theorem isNumeral_toDigits (h2 : 1 < base) (hb : base ≤ 16) (n : Nat) :
    IsNumeral base n (Nat.toDigits base n) := by
  refine ⟨Nat.toDigits_ne_nil, ?_⟩
  obtain ⟨k, hk⟩ := scanDigits_toDigits h2 hb n
  have hscan := hk [] 0
  rwa [List.append_nil, Nat.zero_mul, Nat.zero_add] at hscan

theorem renders_toDigits (h2 : 1 < base) (hb : base ≤ 16) (n : Nat)
    (hws : ∀ c ∈ ws, isSpace c = true) : Renders base n (Nat.toDigits base n ++ ws) :=
  ⟨_, ws, rfl, isNumeral_toDigits h2 hb n, hws⟩

theorem scanSign_digit {cs : List Char} (hc : (digitIn 16 c).isSome = true) :
    scanSign (c :: cs) = (false, c :: cs) := by
  obtain ⟨-, hminus, hplus, -⟩ := digit_plain hc
  unfold scanSign
  split
  · rename_i heq
    exact absurd (List.cons.inj heq).1 hminus
  · rename_i heq
    exact absurd (List.cons.inj heq).1 hplus
  · rfl

/-- Digits have no hexadecimal mark, whatever white space follows. -/
theorem dropHexMark_digits (hds : ∀ c ∈ ds, (digitIn 16 c).isSome = true)
    (hws : ∀ c ∈ ws, isSpace c = true) : dropHexMark (ds ++ ws) = ds ++ ws := by
  have hmark : ∀ c ∈ ds ++ ws, ¬ (c = 'x' ∨ c = 'X') := by
    intro c hc
    rcases List.mem_append.mp hc with hc | hc
    · obtain ⟨-, -, -, hx, hX⟩ := digit_plain (hds c hc)
      exact fun h => h.elim hx hX
    · intro h
      have hs := hws c hc
      rcases h with rfl | rfl <;> cases hs
  unfold dropHexMark
  split
  · rename_i x d cs heq
    have hx := hmark x (by rw [heq]; simp)
    rw [if_neg (fun h => hx h.1), heq]
  · rfl

/-- **`strtol` reads a numeral**, up to the white space after it. -/
theorem strtol_numeral (hb : base ≤ 16) (h : IsNumeral base n ds)
    (hws : ∀ c ∈ ws, isSpace c = true) : strtol base (ds ++ ws) = some ((n : Int), ws) := by
  obtain ⟨hne, hscan⟩ := h
  obtain ⟨hfull, hall⟩ := scanDigits_append ws hscan
  rw [scanDigits_spaces hws] at hfull
  have h16 : ∀ c ∈ ds, (digitIn 16 c).isSome = true := fun c hc => digitIn_mono hb (hall c hc)
  cases ds with
  | nil => exact absurd rfl hne
  | cons c cs =>
      have hc := h16 c (by simp)
      have hdrop : (c :: cs ++ ws).dropWhile isSpace = c :: cs ++ ws := by
        rw [List.cons_append, List.dropWhile_cons, (digit_plain hc).1, if_neg (by simp)]
      have hsign : scanSign (c :: cs ++ ws) = (false, c :: cs ++ ws) := scanSign_digit hc
      rw [strtol, hdrop, hsign]
      simp only [dropHexMark_digits h16 hws, ite_self]
      rw [List.cons_append] at hfull ⊢
      simp [hall c (by simp), hfull]

/-- **`stoi` reads a numeral** that fits an `int`. -/
theorem stoi_renders (hb : base ≤ 16) (h : Renders base n text) (hn : n < 2 ^ 31) :
    stoi base text = .ok (n : Int) := by
  obtain ⟨ds, ws, rfl, hnum, hws⟩ := h
  rw [stoi, strtol_numeral hb hnum hws]
  simp only
  rw [if_pos (by omega)]

theorem isNumeral_digits (h : IsNumeral base n ds) :
    ∀ c ∈ ds, (digitIn base c).isSome = true :=
  (scanDigits_append [] h.2).2

/-- A numeral with a sign in front. -/
theorem strtol_sign (neg : Bool) (hb : base < 16) (h : IsNumeral base n ds)
    (hspace : isSpace c = false) (hsign : scanSign (c :: ds) = (neg, ds)) :
    strtol base (c :: ds) = some (if neg then -(n : Int) else n, []) := by
  have hdrop : (c :: ds).dropWhile isSpace = c :: ds := by
    rw [List.dropWhile_cons, hspace]
    rfl
  have hall := isNumeral_digits h
  obtain ⟨hne, hscan⟩ := h
  rw [strtol, hdrop, hsign]
  cases ds with
  | nil => exact absurd rfl hne
  | cons d ds => simp [show base ≠ 16 by omega, hall d (by simp), hscan]

theorem strtol_minus (hb : base < 16) (h : IsNumeral base n ds) :
    strtol base ('-' :: ds) = some (-(n : Int), []) :=
  strtol_sign true hb h rfl rfl

theorem strtol_plus (hb : base < 16) (h : IsNumeral base n ds) :
    strtol base ('+' :: ds) = some ((n : Int), []) :=
  strtol_sign false hb h rfl rfl

/-- **What `toText` writes is read back**, whatever its sign. -/
theorem strtol_toText_int (v : Int) : strtol 10 (toText v) = some (v, []) := by
  have hnum : IsNumeral 10 v.natAbs (Nat.toDigits 10 v.natAbs) :=
    isNumeral_toDigits (by omega) (by omega) v.natAbs
  rw [toText]
  split_ifs with hv
  · rw [strtol_minus (by omega) hnum]
    congr 2
    omega
  · have hread : strtol 10 (Nat.toDigits 10 v.natAbs ++ []) = some ((v.natAbs : Int), []) :=
      strtol_numeral (by omega) hnum (by simp)
    rw [List.append_nil] at hread
    rw [hread]
    congr 2
    omega

/-! ## Extraction from a stream -/

theorem toInt_saturateInt32 (v : Int) :
    (saturateInt32 v).toInt = max (-2 ^ 31) (min v (2 ^ 31 - 1)) := by
  rw [saturateInt32, Int32.toInt_ofInt_of_le (by omega) (by omega)]

/-- A stream that starts with no number leaves the variable or sets it to
zero. -/
theorem extractInt32_none {old : Int32} (h : strtol 10 text = none) :
    extractInt32 old text = old ∨ extractInt32 old text = 0 := by
  rw [extractInt32]
  split
  · exact .inl rfl
  · rw [h]
    exact .inr rfl

theorem strtol_blank (h : text.dropWhile isSpace = []) :
    strtol base text = none := by
  rw [strtol, h]
  simp [scanSign, dropHexMark]

theorem extractInt32_some {old : Int32} {rest : List Char} {v : Int}
    (h : strtol 10 text = some (v, rest)) : extractInt32 old text = saturateInt32 v := by
  rw [extractInt32, if_neg, h]
  intro hblank
  rw [strtol_blank hblank] at h
  cases h

/-- A stream reads the text of an `int32_t` as that number. -/
theorem extractInt32_toText {old : Int32} (id : Int32) :
    extractInt32 old (toText id.toInt) = id := by
  rw [extractInt32_some (strtol_toText_int id.toInt)]
  apply Int32.toInt_inj.mp
  have hlo := id.le_toInt
  have hhi := id.toInt_lt
  rw [toInt_saturateInt32]
  omega

end OplusHardware.Base
