import OplusHardware.Base.Numeral

/-!
# Udfps — reading fp_state

`readFpState`: one `read` of the sysfs node into a buffer on the stack,
then `sscanf` of the buffer. The buffer is not terminated, so the text
that is scanned goes on with what the stack held before.
-/

namespace OplusHardware.Udfps

open OplusHardware.Base

/-! ## sscanf -/

/-- A `%d` conversion keeps the low 32 bits of an `intmax_t`, which holds
the digits' value or, where that is out of range, the nearest bound. -/
def ofIntmax (v : Int) : Int32 :=
  Int32.ofInt (max (-(2 ^ 63)) (min v (2 ^ 63 - 1)))

/-- One `%d`: the text ends first, does not match, or gives a value and
the text after it. -/
inductive Conversion where
  | eof
  | mismatch
  | value (v : Int32) (rest : List Char)
  deriving DecidableEq, Repr

def scanInt (text : List Char) : Conversion :=
  if text.dropWhile isSpace = [] then .eof
  else
    match strtol 10 text with
    | none => .mismatch
    | some (v, rest) => .value (ofIntmax v) rest

/-- What `sscanf(text, "%d,%d,%d", &x, &y, &state)` returns and stores. -/
structure Scanned where
  rc : Int
  x : Int32
  y : Int32
  state : Int32
  deriving DecidableEq, Repr

/-- The last `%d`. -/
def scanState (text : List Char) (x y state : Int32) : Scanned :=
  match scanInt text with
  | .value s _ => ⟨3, x, y, s⟩
  | .eof => ⟨2, x, y, state⟩
  | .mismatch => ⟨2, x, y, state⟩

/-- The second `%d` and what follows it. -/
def scanY (text : List Char) (x y state : Int32) : Scanned :=
  match scanInt text with
  | .value y (',' :: rest) => scanState rest x y state
  | .value y _ => ⟨2, x, y, state⟩
  | .eof => ⟨1, x, y, state⟩
  | .mismatch => ⟨1, x, y, state⟩

/-- `sscanf(text, "%d,%d,%d", &x, &y, &state)`. `EOF` is answered only
where the text ends before the first conversion. -/
def sscanf (text : List Char) (x y state : Int32) : Scanned :=
  match scanInt text with
  | .value x (',' :: rest) => scanY rest x y state
  | .value x _ => ⟨1, x, y, state⟩
  | .eof => ⟨-1, x, y, state⟩
  | .mismatch => ⟨0, x, y, state⟩

/-! ## readFpState -/

/-- The size of the buffer on the stack. -/
def bufferSize : Nat := 512

/-- What the system calls of one `readFpState` answer, and the stack it
runs on: `lseek`'s result, the bytes `read` stores, and the bytes from
the start of the buffer on as they were before. -/
structure NodeIo where
  lseek : Int32
  read : Option { bytes : List UInt8 // bytes.length ≤ bufferSize }
  stack : List UInt8

/-- The bytes `sscanf` sees, as text, up to the first zero. -/
def scannedText (bytes stack : List UInt8) : List Char :=
  ((bytes ++ stack.drop bytes.length).takeWhile (· ≠ 0)).map Char.ofUInt8

/-- The value `readFpState` returns and the two integers it stores. -/
structure FpState where
  pressed : Bool
  screenX : Int32
  screenY : Int32
  deriving DecidableEq, Repr

/-- `readFpState`. -/
def readFpState (io : NodeIo) (screenX screenY : Int32) : FpState :=
  if io.lseek ≠ 0 then ⟨false, screenX, screenY⟩
  else
    match io.read with
    | none => ⟨false, screenX, screenY⟩
    | some bytes =>
        let r := sscanf (scannedText bytes.val io.stack) screenX screenY 0
        if r.rc < 0 then ⟨false, r.x, r.y⟩ else ⟨decide (0 < r.state), r.x, r.y⟩

/-! ## What a press consists of -/

theorem not_pos_zero : ¬ (0 : Int32) < 0 := by decide

/-- A positive state was converted. -/
theorem scanState_pos {text : List Char} {x y : Int32}
    (h : 0 < (scanState text x y 0).state) :
    ∃ state rest, scanInt text = .value state rest ∧ 0 < state := by
  unfold scanState at h
  cases hs : scanInt text with
  | eof => simp [hs] at h
  | mismatch => simp [hs] at h
  | value state rest =>
      rw [hs] at h
      exact ⟨state, rest, rfl, h⟩

theorem scanY_pos {text : List Char} {x y : Int32} (h : 0 < (scanY text x y 0).state) :
    ∃ y' rest, scanInt text = .value y' (',' :: rest) ∧
      0 < (scanState rest x y' 0).state := by
  unfold scanY at h
  split at h
  · rename_i y' rest hy
    exact ⟨y', rest, hy, h⟩
  · exact absurd h not_pos_zero
  · exact absurd h not_pos_zero
  · exact absurd h not_pos_zero

theorem sscanf_pos {text : List Char} {x y : Int32} (h : 0 < (sscanf text x y 0).state) :
    ∃ x' rest, scanInt text = .value x' (',' :: rest) ∧
      0 < (scanY rest x' y 0).state := by
  unfold sscanf at h
  split at h
  · rename_i x' rest hx
    exact ⟨x', rest, hx, h⟩
  · exact absurd h not_pos_zero
  · exact absurd h not_pos_zero
  · exact absurd h not_pos_zero

/-- **A positive state is scanned last**: then all three numbers were
converted, and nothing that is stored was there before. -/
theorem sscanf_of_pos {text : List Char} {x y : Int32}
    (h : 0 < (sscanf text x y 0).state) :
    ∃ r : Scanned, r.rc = 3 ∧ 0 < r.state ∧ ∀ x y s, sscanf text x y s = r := by
  obtain ⟨x', rest, hx, h⟩ := sscanf_pos h
  obtain ⟨y', rest', hy, h⟩ := scanY_pos h
  obtain ⟨state, rest'', hs, h⟩ := scanState_pos h
  refine ⟨⟨3, x', y', state⟩, rfl, h, fun x y s => ?_⟩
  simp only [sscanf, hx, scanY, hy, scanState, hs]

/-- **A press is read whole**: when `readFpState` returns true, the node
was read, all three numbers were converted from the text it gave, and the
coordinates are the first two of them. -/
theorem readFpState_pressed {io : NodeIo} {screenX screenY : Int32}
    (h : (readFpState io screenX screenY).pressed = true) :
    ∃ bytes, io.lseek = 0 ∧ io.read = some bytes ∧ ∀ x y s,
      let r := sscanf (scannedText bytes.val io.stack) x y s
      r.rc = 3 ∧ 0 < r.state ∧ r.x = (readFpState io screenX screenY).screenX ∧
        r.y = (readFpState io screenX screenY).screenY := by
  unfold readFpState at h ⊢
  by_cases hseek : io.lseek = 0
  · cases hread : io.read with
    | none => simp [hseek, hread] at h
    | some bytes =>
        have hstate : 0 < (sscanf (scannedText bytes.val io.stack) screenX screenY 0).state := by
          by_contra hneg
          simp [hseek, hread, hneg] at h
        obtain ⟨r, hrc, hpos, hr⟩ := sscanf_of_pos hstate
        refine ⟨bytes, hseek, rfl, fun x y s => ?_⟩
        simp [hseek, hr, hrc, hpos]
  · simp [hseek] at h

end OplusHardware.Udfps
