import Mathlib.Data.List.Basic
import OplusHardware.Base.NumeralPrefix
import OplusHardware.Udfps.FpState

/-!
# Udfps — what the stack adds to a read

`sscanf` goes on behind the bytes that were read until it meets a zero.
Where it has all it needs before their end, the rest of the buffer does
not matter. Where a number comes to the end of the bytes, or the text ends
before the last number, leftover characters continue it.
-/

namespace OplusHardware.Udfps

open OplusHardware.Base

variable {text more rest : List Char} {v : Int} {x s : Int32} {xs : List Int32} {n : Nat}

/-! ## One conversion -/

theorem scanInt_of_strtol (h : strtol 10 text = some (v, rest)) :
    scanInt text = .value (ofIntmax v) rest := by
  have hne : text.dropWhile isSpace ≠ [] := ne_nil_of_strtol h
  rw [scanInt, if_neg hne, h]

theorem strtol_of_scanInt (h : scanInt text = .value x rest) :
    ∃ v, strtol 10 text = some (v, rest) ∧ x = ofIntmax v := by
  rw [scanInt] at h
  split at h
  · cases h
  · split at h
    · cases h
    · rename_i v rest' hv
      cases h
      exact ⟨v, hv, rfl⟩

/-- A conversion that has its character behind the number is decided. -/
theorem scanInt_append (h : ¬ RunsOut text) (more : List Char) :
    scanInt (text ++ more) =
      match scanInt text with
      | .eof => .eof
      | .mismatch => .mismatch
      | .value x rest => .value x (rest ++ more) := by
  have hne := ne_nil_of_not_runsOut h
  have happend : (text ++ more).dropWhile isSpace ≠ [] := by
    rw [dropWhile_append_of_ne_nil more hne]
    exact List.append_ne_nil_of_left_ne_nil hne more
  rw [scanInt, scanInt, if_neg happend, if_neg hne, strtol_append h more]
  cases strtol 10 text with
  | none => rfl
  | some r => rfl

/-- Where a number may go on, no comma has been seen. -/
theorem not_comma_of_runsOut (h : RunsOut text) : scanInt text ≠ .value x (',' :: rest) := by
  intro hscan
  obtain ⟨v, hv, -⟩ := strtol_of_scanInt hscan
  rcases h with hopen | ⟨w, hw⟩
  · rw [strtol_eq (by omega), hopen] at hv
    cases hv
  · rw [hw] at hv
    cases hv

/-! ## Three numbers -/

/-- **The text gives the numbers `xs` and one more, a positive one**, with
commas between them. -/
def ReadsPress : List Int32 → List Char → Prop
  | [], text => ∃ s rest, scanInt text = .value s rest ∧ 0 < s
  | x :: xs, text => ∃ rest, scanInt text = .value x (',' :: rest) ∧ ReadsPress xs rest

/-- **What follows the text does not matter** for `n` numbers and a positive
one. None of the numbers comes to the end of the text, unless the last one
does and no digits make it positive. -/
def Decided : Nat → List Char → Prop
  | 0, text => RunsOut text →
      ∀ ds : List Char, (∀ c ∈ ds, (digitIn 10 c).isSome = true) →
        ∀ v, strtol 10 (text ++ ds) = some (v, []) → ¬ 0 < ofIntmax v
  | n + 1, text => ¬ RunsOut text ∧
      ∀ x rest, scanInt text = .value x (',' :: rest) → Decided n rest

/-- A character `sscanf` can find behind the bytes. -/
def IsByte (c : Char) : Prop := 0 < c.toNat ∧ c.toNat < 256

theorem isByte_of_digit {c : Char} (h : (digitIn 10 c).isSome = true) : IsByte c := by
  obtain ⟨d, hd⟩ := Option.isSome_iff_exists.mp h
  rw [digitIn, Option.filter_eq_some_iff] at hd
  obtain ⟨hvalue, -⟩ := hd
  unfold digitValue at hvalue
  split at hvalue
  · rename_i hc
    have hlo : 48 ≤ c.toNat := hc.1
    have hhi : c.toNat ≤ 57 := hc.2
    exact ⟨by omega, by omega⟩
  · split at hvalue
    · rename_i hc
      have hlo : 97 ≤ c.toNat := hc.1
      have hhi : c.toNat ≤ 122 := hc.2
      exact ⟨by omega, by omega⟩
    · split at hvalue
      · rename_i hc
        have hlo : 65 ≤ c.toNat := hc.1
        have hhi : c.toNat ≤ 90 := hc.2
        exact ⟨by omega, by omega⟩
      · cases hvalue

/-! ### The last number -/

theorem ofIntmax_of_large {m : Nat} (h : 2 ^ 63 ≤ m) :
    ¬ 0 < ofIntmax (m : Int) ∧ ¬ 0 < ofIntmax (-(m : Int)) := by
  have hpos : max (-(2 ^ 63)) (min (m : Int) (2 ^ 63 - 1)) = 2 ^ 63 - 1 := by omega
  have hneg : max (-(2 ^ 63)) (min (-(m : Int)) (2 ^ 63 - 1)) = -(2 ^ 63) := by omega
  rw [ofIntmax, ofIntmax, hpos, hneg]
  exact ⟨by decide, by decide⟩

/-- A last number that comes to the end of the text can be continued to
one that is not positive. -/
theorem exists_not_press (h : strtol 10 text = some (v, [])) :
    ¬ ReadsPress [] (text ++ nines 20) := by
  obtain ⟨m, hm, hread⟩ := strtol_append_nines 20 h
  obtain ⟨hpos, hneg⟩ := ofIntmax_of_large (m := m) (by omega)
  rintro ⟨s, rest, hscan, hs⟩
  rcases hread with hread | hread
  · rw [scanInt_of_strtol hread] at hscan
    cases hscan
    exact hpos hs
  · rw [scanInt_of_strtol hread] at hscan
    cases hscan
    exact hneg hs

/-- The digits that make a number behind a sign positive. -/
def positiveDigits (neg : Bool) : List Char :=
  if neg then "4294967295".toList else "1".toList

theorem positiveDigits_spec (neg : Bool) :
    ∃ c cs m, positiveDigits neg = c :: cs ∧ (digitIn 10 c).isSome = true ∧
      (∀ c ∈ positiveDigits neg, (digitIn 10 c).isSome = true) ∧
      scanDigits 10 (positiveDigits neg) 0 = (m, []) ∧ 0 < ofIntmax (signed neg m) := by
  cases neg with
  | true =>
      have hscan : scanDigits 10 (positiveDigits true) 0 = (4294967295, []) := by decide
      exact ⟨'4', "294967295".toList, _, rfl, by decide, (scanDigits_append [] hscan).2, hscan,
        by decide⟩
  | false =>
      have hscan : scanDigits 10 (positiveDigits false) 0 = (1, []) := by decide
      exact ⟨'1', [], _, rfl, by decide, (scanDigits_append [] hscan).2, hscan, by decide⟩

theorem not_press_of_end (hend : strtol 10 text = some (v, [])) (hv : ¬ 0 < ofIntmax v) :
    ¬ ReadsPress [] text := by
  rintro ⟨s, rest, hscan, hs⟩
  rw [scanInt_of_strtol hend] at hscan
  cases hscan
  exact hv hs

/-- A decided last number is positive with any continuation or with none. -/
theorem press_append_iff (h : Decided 0 text) (more : List Char) :
    ReadsPress [] (text ++ more) ↔ ReadsPress [] text := by
  by_cases hruns : RunsOut text
  · have hnever := h hruns
    rcases hruns with hopen | ⟨v, hv⟩
    · -- white space and a sign can be made a positive number
      obtain ⟨c, cs, m, heq, hc, hall, hscan, hpos⟩ :=
        positiveDigits_spec (scanSign (text.dropWhile isSpace)).1
      have hread := strtol_append_of_open hopen hc cs
      rw [← heq, hscan] at hread
      exact absurd hpos (hnever _ hall _ hread)
    · obtain ⟨w, rest, hw, hlead⟩ := strtol_append_leadingDigits more hv
      have hwneg : ¬ 0 < ofIntmax w :=
        hnever _ (fun c hc => isDigit_of_mem_leadingDigits hc) w hlead
      have hvneg : ¬ 0 < ofIntmax v :=
        hnever [] (List.forall_mem_nil _) v (by rwa [List.append_nil])
      have hmore : ¬ ReadsPress [] (text ++ more) := by
        rintro ⟨s, rest', hscan, hs⟩
        rw [scanInt_of_strtol hw] at hscan
        cases hscan
        exact hwneg hs
      exact iff_of_false hmore (not_press_of_end hv hvneg)
  · show (∃ s rest, scanInt (text ++ more) = .value s rest ∧ 0 < s) ↔ _
    rw [scanInt_append hruns more, ReadsPress]
    cases scanInt text with
    | eof => simp
    | mismatch => simp
    | value s rest => simp

/-- Where the rest does not matter, the last number is decided. -/
theorem decided_of_press_iff
    (h : ∀ more, (∀ c ∈ more, IsByte c) →
      (ReadsPress [] (text ++ more) ↔ ReadsPress [] text)) :
    Decided 0 text := by
  intro hruns ds hds v hv hpos
  have hpress : ReadsPress [] text :=
    (h ds fun c hc => isByte_of_digit (hds c hc)).mp ⟨_, _, scanInt_of_strtol hv, hpos⟩
  rcases hruns with hopen | ⟨w, hw⟩
  · obtain ⟨s, rest, hscan, -⟩ := hpress
    obtain ⟨w, hw, -⟩ := strtol_of_scanInt hscan
    rw [strtol_eq (by omega), hopen] at hw
    cases hw
  · refine exists_not_press hw ((h (nines 20) fun c hc => ?_).mpr hpress)
    rw [List.eq_of_mem_replicate hc]
    exact ⟨by decide, by decide⟩

/-! ### The numbers before it -/

/-- A text that gives `n` numbers and a positive one. -/
def pressText : Nat → List Char
  | 0 => ['1']
  | n + 1 => '1' :: ',' :: pressText n

theorem readsPress_pressText (n : Nat) : ReadsPress (List.replicate n 1) (pressText n) := by
  induction n with
  | zero => exact ⟨1, [], rfl, by decide⟩
  | succ n ih => exact ⟨pressText n, rfl, ih⟩

theorem isByte_pressText (n : Nat) : ∀ c ∈ pressText n, IsByte c := by
  induction n with
  | zero => exact List.forall_mem_singleton.mpr ⟨by decide, by decide⟩
  | succ n ih =>
      exact List.forall_mem_cons.mpr ⟨⟨by decide, by decide⟩,
        List.forall_mem_cons.mpr ⟨⟨by decide, by decide⟩, ih⟩⟩

/-- A number that may go on can be ended with a comma. -/
theorem exists_comma (h : RunsOut text) (rest : List Char) :
    ∃ ds x, (∀ c ∈ ds, IsByte c) ∧ scanInt (text ++ (ds ++ ',' :: rest)) =
      .value x (',' :: rest) := by
  rcases h with hopen | ⟨v, hv⟩
  · have hread := strtol_append_of_open hopen (c := '1') (by decide) (',' :: rest)
    have hone : scanDigits 10 ('1' :: ',' :: rest) 0 = (1, ',' :: rest) := rfl
    rw [hone] at hread
    exact ⟨['1'], _, List.forall_mem_singleton.mpr ⟨by decide, by decide⟩,
      scanInt_of_strtol hread⟩
  · obtain ⟨m, hm, -⟩ := magnitude_of_end hv
    have hread := strtol_append_of_end (',' :: rest) hv hm
    have hcomma : scanDigits 10 (',' :: rest) m = (m, ',' :: rest) := rfl
    rw [hcomma] at hread
    exact ⟨[], _, List.forall_mem_nil _, scanInt_of_strtol hread⟩

/-- **What follows a decided text does not matter.** By induction on the
numbers that come before the last one. -/
theorem readsPress_append_iff (h : Decided n text) (more : List Char) (hlen : xs.length = n) :
    ReadsPress xs (text ++ more) ↔ ReadsPress xs text := by
  induction n generalizing text xs with
  | zero =>
      rw [List.length_eq_zero_iff.mp hlen]
      exact press_append_iff h more
  | succ n ih =>
      obtain ⟨hno, hrest⟩ := h
      obtain ⟨x, xs, rfl⟩ := List.exists_cons_of_length_eq_add_one hlen
      have hlen : xs.length = n := by simpa using hlen
      rw [ReadsPress, ReadsPress, scanInt_append hno more]
      cases hscan : scanInt text with
      | eof => simp
      | mismatch => simp
      | value y rest =>
          cases rest with
          | nil =>
              obtain ⟨v, hv, -⟩ := strtol_of_scanInt hscan
              exact absurd (.inr ⟨v, hv⟩) hno
          | cons c rest =>
              constructor
              · rintro ⟨rest', heq, hpress⟩
                cases heq
                exact ⟨rest, rfl, (ih (hrest x rest hscan) hlen).mp hpress⟩
              · rintro ⟨rest', heq, hpress⟩
                cases heq
                exact ⟨rest ++ more, rfl, (ih (hrest x rest hscan) hlen).mpr hpress⟩

/-- The text gives `n` numbers and a positive one. -/
def IsPress (n : Nat) (text : List Char) : Prop :=
  ∃ xs : List Int32, xs.length = n ∧ ReadsPress xs text

theorem isPress_succ : IsPress (n + 1) text ↔
    ∃ x rest, scanInt text = .value x (',' :: rest) ∧ IsPress n rest := by
  constructor
  · rintro ⟨xs, hlen, hpress⟩
    obtain ⟨x, xs, rfl⟩ := List.exists_cons_of_length_eq_add_one hlen
    obtain ⟨rest, hscan, hpress⟩ := hpress
    exact ⟨x, rest, hscan, xs, by simpa using hlen, hpress⟩
  · rintro ⟨x, rest, hscan, xs, hlen, hpress⟩
    exact ⟨x :: xs, by simp [hlen], rest, hscan, hpress⟩

/-- A text after which nothing matters is decided. -/
theorem decided_of_isPress_iff
    (h : ∀ more, (∀ c ∈ more, IsByte c) → (IsPress n (text ++ more) ↔ IsPress n text)) :
    Decided n text := by
  induction n generalizing text with
  | zero =>
      refine decided_of_press_iff fun more hmore => ?_
      have hiff := h more hmore
      simpa [IsPress] using hiff
  | succ n ih =>
      have hno : ¬ RunsOut text := by
        intro hruns
        obtain ⟨ds, x, hds, hscan⟩ := exists_comma hruns (pressText n)
        have hbytes : ∀ c ∈ ds ++ ',' :: pressText n, IsByte c :=
          List.forall_mem_append.mpr ⟨hds,
            List.forall_mem_cons.mpr ⟨⟨by decide, by decide⟩, isByte_pressText n⟩⟩
        have hpress : IsPress n (pressText n) :=
          ⟨_, List.length_replicate, readsPress_pressText n⟩
        obtain ⟨y, rest, hcomma, -⟩ := isPress_succ.mp
          ((h _ hbytes).mp (isPress_succ.mpr ⟨x, _, hscan, hpress⟩))
        exact not_comma_of_runsOut hruns hcomma
      refine ⟨hno, fun x rest hscan => ih fun more hmore => ?_⟩
      have hiff := h more hmore
      rw [isPress_succ, isPress_succ, scanInt_append hno more, hscan] at hiff
      simpa using hiff

/-! ## The buffer -/

/-- What `readFpState` answers for the bytes read into a buffer, over what
lies behind it. -/
def readOver (bytes : { bytes : List UInt8 // bytes.length ≤ bufferSize })
    (buffer behind : List UInt8) (screenX screenY : Int32) : FpState :=
  readFpState ⟨0, some bytes, buffer ++ behind⟩ screenX screenY

/-- **The answer depends only on what was read**: two buffers give the same
truth value and, where it is true, the same coordinates; and it is true
exactly when the bytes give three numbers, the last of them positive. -/
def DependsOnRead (bytes : { bytes : List UInt8 // bytes.length ≤ bufferSize }) : Prop :=
  (∀ (buffer₁ buffer₂ behind : List UInt8) (screenX screenY : Int32),
    buffer₁.length = bufferSize → buffer₂.length = bufferSize →
    let r₁ := readOver bytes buffer₁ behind screenX screenY
    let r₂ := readOver bytes buffer₂ behind screenX screenY
    r₁.pressed = r₂.pressed ∧
      (r₁.pressed = true → r₁.screenX = r₂.screenX ∧ r₁.screenY = r₂.screenY)) ∧
  ∀ (buffer behind : List UInt8) (screenX screenY : Int32), buffer.length = bufferSize →
    ((readOver bytes buffer behind screenX screenY).pressed = true ↔
      IsPress 2 (scannedText bytes.val []))

/-- **The bytes settle the scan themselves**: there is a zero among them, or
what follows them does not matter for three numbers. -/
def Settled (bytes : List UInt8) : Prop :=
  0 ∈ bytes ∨ Decided 2 (bytes.map Char.ofUInt8)

variable {bytes stack : List UInt8} {y screenX screenY : Int32}

theorem sscanf_of_readsPress (h : ReadsPress [x, y] text) :
    ∃ s, 0 < s ∧ ∀ u v w, sscanf text u v w = ⟨3, x, y, s⟩ := by
  obtain ⟨rest, hx, rest', hy, s, rest'', hs, hpos⟩ := h
  refine ⟨s, hpos, fun u v w => ?_⟩
  simp only [sscanf, hx, scanY, hy, scanState, hs]

theorem isPress_of_sscanf (h : 0 < (sscanf text screenX screenY 0).state) :
    IsPress 2 text := by
  obtain ⟨x, rest, hx, h⟩ := sscanf_pos h
  obtain ⟨y, rest', hy, h⟩ := scanY_pos h
  obtain ⟨s, rest'', hs, hpos⟩ := scanState_pos h
  exact ⟨[x, y], rfl, rest, hx, rest', hy, s, rest'', hs, hpos⟩

/-- Three numbers with a positive last one are a press at the first two. -/
theorem readFpState_of_readsPress (bytes : { bytes : List UInt8 // bytes.length ≤ bufferSize })
    (h : ReadsPress [x, y] (scannedText bytes.val stack)) :
    readFpState ⟨0, some bytes, stack⟩ screenX screenY = ⟨true, x, y⟩ := by
  obtain ⟨s, hpos, hscan⟩ := sscanf_of_readsPress h
  simp [readFpState, hscan, hpos]

/-- **`readFpState` returns true for such texts**, and for no other. -/
theorem pressed_iff {bytes : { bytes : List UInt8 // bytes.length ≤ bufferSize }} :
    (readFpState ⟨0, some bytes, stack⟩ screenX screenY).pressed = true ↔
      IsPress 2 (scannedText bytes.val stack) := by
  constructor
  · intro h
    obtain ⟨bytes', -, hbytes, hscan⟩ := readFpState_pressed h
    cases hbytes
    exact isPress_of_sscanf (hscan screenX screenY 0).2.1
  · rintro ⟨xs, hlen, hpress⟩
    obtain ⟨x, y, rfl⟩ := List.length_eq_two.mp hlen
    rw [readFpState_of_readsPress bytes hpress]

/-! ### What is behind the bytes -/

theorem scannedText_of_zero (h : 0 ∈ bytes) (stack : List UInt8) :
    scannedText bytes stack = scannedText bytes [] := by
  have hcut : ∀ rest : List UInt8, (bytes ++ rest).takeWhile (· ≠ 0) =
      bytes.takeWhile (· ≠ 0) := by
    intro rest
    rw [List.takeWhile_append, if_neg]
    intro hlen
    have hall := List.takeWhile_eq_self_iff.mp
      ((List.takeWhile_prefix _).eq_of_length hlen)
    exact absurd (hall 0 h) (by decide)
  rw [scannedText, scannedText, hcut, hcut]

/-- The characters up to the first zero of the memory behind the bytes. -/
def behindText (stack : List UInt8) : List Char :=
  (stack.takeWhile (· ≠ 0)).map Char.ofUInt8

theorem scannedText_of_noZero (h : 0 ∉ bytes) (stack : List UInt8) :
    scannedText bytes stack =
      bytes.map Char.ofUInt8 ++ behindText (stack.drop bytes.length) := by
  have hall : ∀ b ∈ bytes, decide (b ≠ 0) = true := by
    intro b hb
    rw [decide_eq_true_eq]
    rintro rfl
    exact h hb
  rw [scannedText, List.takeWhile_append_of_pos hall, List.map_append, behindText]

theorem scannedText_nil (h : 0 ∉ bytes) :
    scannedText bytes [] = bytes.map Char.ofUInt8 := by
  rw [scannedText_of_noZero h, List.drop_nil]
  exact List.append_nil _

/-- Any characters can be behind the bytes. -/
theorem exists_behind {more : List Char} (hmore : ∀ c ∈ more, IsByte c) (n : Nat) :
    ∃ buffer behind : List UInt8, buffer.length = bufferSize ∧
      behindText ((buffer ++ behind).drop n) = more := by
  let bs : List UInt8 := more.map fun c => UInt8.ofNat c.toNat
  let memory : List UInt8 := List.replicate n 0 ++ (bs ++ 0 :: List.replicate bufferSize 0)
  have hback : bs.map Char.ofUInt8 = more := by
    rw [List.map_map]
    refine (List.map_congr_left fun c hc => ?_).trans (List.map_id more)
    apply Char.ext
    apply UInt32.toNat_inj.mp
    show (UInt8.ofNat c.toNat).toNat = c.toNat
    exact UInt8.toNat_ofNat_of_lt' (hmore c hc).2
  have hne : ∀ b ∈ bs, decide (b ≠ 0) = true := by
    intro b hb
    obtain ⟨c, hc, rfl⟩ := List.mem_map.mp hb
    rw [decide_eq_true_eq]
    intro h0
    have hzero : (UInt8.ofNat c.toNat).toNat = 0 := by rw [h0]; rfl
    rw [UInt8.toNat_ofNat_of_lt' (hmore c hc).2] at hzero
    have hpos := (hmore c hc).1
    omega
  refine ⟨memory.take bufferSize, memory.drop bufferSize, ?_, ?_⟩
  · simp only [memory, List.length_take, List.length_append, List.length_cons,
      List.length_replicate]
    omega
  · have hdrop : memory.drop n = bs ++ 0 :: List.replicate bufferSize 0 := by
      simp [memory]
    rw [List.take_append_drop, hdrop, behindText, List.takeWhile_append_of_pos hne]
    simp [hback]

/-! ## When only the read matters -/

/-- Over bytes that settle the scan, every stack gives the same numbers. -/
theorem readsPress_iff_of_settled (h : Settled bytes) (stack : List UInt8)
    (hlen : xs.length = 2) :
    ReadsPress xs (scannedText bytes stack) ↔ ReadsPress xs (scannedText bytes []) := by
  by_cases hzero : 0 ∈ bytes
  · rw [scannedText_of_zero hzero]
  · rw [scannedText_nil hzero, scannedText_of_noZero hzero]
    exact readsPress_append_iff (h.resolve_left hzero) _ hlen

theorem isPress_iff_of_settled (h : Settled bytes) (stack : List UInt8) :
    IsPress 2 (scannedText bytes stack) ↔ IsPress 2 (scannedText bytes []) := by
  constructor
  · rintro ⟨xs, hlen, hpress⟩
    exact ⟨xs, hlen, (readsPress_iff_of_settled h stack hlen).mp hpress⟩
  · rintro ⟨xs, hlen, hpress⟩
    exact ⟨xs, hlen, (readsPress_iff_of_settled h stack hlen).mpr hpress⟩

/-- **When `readFpState` depends only on what was read**: for all bytes
`read` may return, exactly when these settle the scan themselves. -/
theorem dependsOnRead_iff (bytes : { bytes : List UInt8 // bytes.length ≤ bufferSize }) :
    DependsOnRead bytes ↔ Settled bytes.val := by
  constructor
  · rintro ⟨-, hpressed⟩
    by_cases hzero : 0 ∈ bytes.val
    · exact .inl hzero
    · refine .inr (decided_of_isPress_iff fun more hmore => ?_)
      obtain ⟨buffer, behind, hbuffer, hmemory⟩ := exists_behind hmore bytes.val.length
      have hscanned := scannedText_of_noZero hzero (buffer ++ behind)
      have hiff := hpressed buffer behind 0 0 hbuffer
      rw [readOver, pressed_iff, hscanned, hmemory, scannedText_nil hzero] at hiff
      exact hiff
  · intro h
    refine ⟨fun buffer₁ buffer₂ behind screenX screenY _ _ => ⟨?_, ?_⟩,
      fun buffer behind screenX screenY _ => ?_⟩
    · rw [Bool.eq_iff_iff, readOver, readOver, pressed_iff, pressed_iff,
        isPress_iff_of_settled h (buffer₁ ++ behind),
        isPress_iff_of_settled h (buffer₂ ++ behind)]
    · intro hp
      rw [readOver, pressed_iff, isPress_iff_of_settled h] at hp
      obtain ⟨xs, hlen, hpress⟩ := hp
      obtain ⟨x, y, rfl⟩ := List.length_eq_two.mp hlen
      rw [readOver, readOver,
        readFpState_of_readsPress bytes ((readsPress_iff_of_settled h _ rfl).mpr hpress),
        readFpState_of_readsPress bytes ((readsPress_iff_of_settled h _ rfl).mpr hpress)]
      exact ⟨rfl, rfl⟩
    · rw [readOver, pressed_iff, isPress_iff_of_settled h]

/-- The bytes `1,1,0`. -/
def noPress : { bytes : List UInt8 // bytes.length ≤ bufferSize } :=
  ⟨[49, 44, 49, 44, 48], by decide⟩

/-- **A leftover digit makes a press of none.** The same bytes are read into
a buffer of zeros and into one with a `1` behind them. -/
theorem leftover_digit_is_press :
    (readOver noPress (List.replicate 512 0) [] 0 0).pressed = false ∧
    (readOver noPress (List.replicate 5 0 ++ 49 :: List.replicate 506 0) [] 0 0).pressed =
      true ∧
    ¬ DependsOnRead noPress := by
  refine ⟨by decide, by decide, ?_⟩
  rintro ⟨hsame, -⟩
  have hlen : (List.replicate 5 0 ++ 49 :: List.replicate 506 (0 : UInt8)).length =
      bufferSize := by
    rw [List.length_append, List.length_cons, List.length_replicate, List.length_replicate]
    rfl
  obtain ⟨hpressed, -⟩ := hsame (List.replicate 512 0) _ [] 0 0 List.length_replicate hlen
  revert hpressed
  decide

end OplusHardware.Udfps
