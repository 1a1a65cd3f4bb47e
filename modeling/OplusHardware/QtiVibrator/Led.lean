import Mathlib.Tactic.Common

/-!
# QtiVibrator — LedVibratorDevice

The LED-class backend, `class LedVibratorDevice`. Every operation is a
sequence of sysfs writes; the environment supplies the outcome of each,
in order.
-/

namespace OplusHardware.QtiVibrator

/-- A value `errno` can have after a failed call. -/
abbrev Errno := { e : Int32 // 0 < e }

def eagain : Int32 := 11

/-- How one `write_value` ends: `open` or `write` fails with `errno`, or
`write` reports a number of bytes. -/
inductive WriteOutcome where
  | openFails (errno : Errno)
  | writeFails (errno : Errno)
  | wrote (bytes : Nat)

/-- One `write_value`: the file below `LED_DEVICE` and the value. -/
structure SysfsWrite where
  file : String
  value : String
  deriving DecidableEq, Repr

/-- `strlen(value) + 1`. -/
def SysfsWrite.size (w : SysfsWrite) : Nat := w.value.length + 1

/-- `write` took the whole value. -/
def WriteOutcome.inFull (w : SysfsWrite) : WriteOutcome → Bool
  | .wrote bytes => bytes = w.size
  | _ => false

structure LedVibratorDevice where
  mDetected : Bool
  deriving DecidableEq, Repr

namespace LedVibratorDevice

/-- `LedVibratorDevice::LedVibratorDevice`: whether `activate` opens. -/
def construct (activateOpens : Bool) : LedVibratorDevice := ⟨activateOpens⟩

/-- `LedVibratorDevice::write_value`. -/
def writeValue (w : SysfsWrite) : WriteOutcome → Int32
  | .openFails errno => -errno.val
  | .writeFails errno => -errno.val
  | .wrote bytes => if bytes ≠ w.size then -eagain else 0

/-- The results of a sequence of writes. Where the environment says
nothing more, a write succeeds. -/
def writeValues : List SysfsWrite → List WriteOutcome → List Int32
  | [], _ => []
  | w :: ws, [] => writeValue w (.wrote (w.size)) :: writeValues ws []
  | w :: ws, o :: os => writeValue w o :: writeValues ws os

/-- `ret |= write_value(…)` over a sequence of writes. -/
def orAll (rets : List Int32) : Int32 := rets.foldl (· ||| ·) 0

/-- The writes of `on` for a positive timeout. -/
def onWrites (timeoutMs : Int32) : List SysfsWrite :=
  [ if timeoutMs ≤ 20 then ⟨"/vmax", toString (timeoutMs * 10).toInt⟩
    else ⟨"/vmax", "1600"⟩,
    ⟨"/waveform_index", "7"⟩,
    ⟨"/duration", toString timeoutMs.toInt⟩,
    ⟨"/state", "1"⟩,
    ⟨"/activate", "1"⟩,
    ⟨"/activate", "0"⟩ ]

/-- `LedVibratorDevice::on`. -/
def on (timeoutMs : Int32) (outcomes : List WriteOutcome) : Int32 :=
  if timeoutMs ≤ 0 then 0 else orAll (writeValues (onWrites timeoutMs) outcomes)

/-- The five writes of one waveform. -/
def waveform (vmax waveformIndex : String) : List SysfsWrite :=
  [ ⟨"/rtp", "0"⟩, ⟨"/vmax", vmax⟩, ⟨"/waveform_index", waveformIndex⟩,
    ⟨"/brightness", "1"⟩, ⟨"/rtp", "0"⟩ ]

/-- `LedVibratorDevice::onWaveform`. -/
def onWaveform (waveformIndex : Int32) (outcomes : List WriteOutcome) : Int32 :=
  orAll (writeValues (waveform "1600" (toString waveformIndex.toInt)) outcomes)

def offWrites : List SysfsWrite := [⟨"/activate", "0"⟩]

/-- `LedVibratorDevice::off`. -/
def off (outcomes : List WriteOutcome) : Int32 := orAll (writeValues offWrites outcomes)

/-! ## When a sequence of writes succeeds

The `errno` values differ and are put together bit by bit, so the result
of an operation names no single error. It is zero for success only. -/

/-- Every write of a sequence took its whole value. -/
def inFull (ws : List SysfsWrite) (outcomes : List WriteOutcome) : Bool :=
  (ws.zip outcomes).all fun x => x.2.inFull x.1

theorem neg_errno_ne_zero (errno : Errno) : -errno.val ≠ 0 := by
  intro h
  have hzero : errno.val = 0 := by
    rw [← Int32.neg_neg (a := errno.val), h]
    rfl
  have hpos := errno.property
  rw [hzero] at hpos
  exact absurd hpos (by decide)

theorem writeValue_eq_zero_iff (w : SysfsWrite) (o : WriteOutcome) :
    writeValue w o = 0 ↔ o.inFull w = true := by
  cases o with
  | openFails errno => simp [writeValue, WriteOutcome.inFull, neg_errno_ne_zero]
  | writeFails errno => simp [writeValue, WriteOutcome.inFull, neg_errno_ne_zero]
  | wrote bytes =>
      by_cases h : bytes = w.size
      · simp [writeValue, WriteOutcome.inFull, h]
      · have hagain : -eagain ≠ 0 := by decide
        simp [writeValue, WriteOutcome.inFull, h, hagain]

/-- No bit of a result is lost on the way. -/
theorem foldl_or_eq_zero_iff (rets : List Int32) (ret : Int32) :
    rets.foldl (· ||| ·) ret = 0 ↔ ret = 0 ∧ ∀ r ∈ rets, r = 0 := by
  induction rets generalizing ret with
  | nil => simp
  | cons r rets ih =>
      rw [List.foldl_cons, ih, Int32.or_eq_zero_iff, List.forall_mem_cons, and_assoc]

theorem orAll_eq_zero_iff (rets : List Int32) : orAll rets = 0 ↔ ∀ r ∈ rets, r = 0 := by
  rw [orAll, foldl_or_eq_zero_iff]
  simp

theorem writeValues_eq_zero_iff (ws : List SysfsWrite) (outcomes : List WriteOutcome) :
    (∀ r ∈ writeValues ws outcomes, r = 0) ↔ inFull ws outcomes = true := by
  induction ws generalizing outcomes with
  | nil => simp [writeValues, inFull]
  | cons w ws ih =>
      cases outcomes with
      | nil =>
          rw [writeValues, List.forall_mem_cons, ih, writeValue_eq_zero_iff]
          simp [inFull, WriteOutcome.inFull]
      | cons o outcomes =>
          rw [writeValues, List.forall_mem_cons, ih, writeValue_eq_zero_iff]
          simp [inFull]

/-- **The result of a sequence of writes** is zero exactly when each of
them succeeded in full. -/
theorem orAll_writeValues_eq_zero_iff (ws : List SysfsWrite)
    (outcomes : List WriteOutcome) :
    orAll (writeValues ws outcomes) = 0 ↔ inFull ws outcomes = true := by
  rw [orAll_eq_zero_iff, writeValues_eq_zero_iff]

theorem on_eq_zero_iff {timeoutMs : Int32} (h : 0 < timeoutMs)
    (outcomes : List WriteOutcome) :
    on timeoutMs outcomes = 0 ↔ inFull (onWrites timeoutMs) outcomes = true := by
  rw [on, if_neg (Int32.not_le.mpr h), orAll_writeValues_eq_zero_iff]

theorem onWaveform_eq_zero_iff (waveformIndex : Int32) (outcomes : List WriteOutcome) :
    onWaveform waveformIndex outcomes = 0 ↔
      inFull (waveform "1600" (toString waveformIndex.toInt)) outcomes = true := by
  rw [onWaveform, orAll_writeValues_eq_zero_iff]

theorem off_eq_zero_iff (outcomes : List WriteOutcome) :
    off outcomes = 0 ↔ inFull offWrites outcomes = true := by
  rw [off, orAll_writeValues_eq_zero_iff]

end LedVibratorDevice

end OplusHardware.QtiVibrator
