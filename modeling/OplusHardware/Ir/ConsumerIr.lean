import Mathlib.Algebra.Order.BigOperators.Group.List
import Mathlib.Algebra.Order.Ring.Int
import OplusHardware.Base.Binder
import OplusHardware.Base.Program

/-!
# Consumer IR — transmit

`ConsumerIr::transmit`: a pattern is checked, copied into a
`struct pattern_params` and handed to the driver. The duration of the
pattern is added up in an `int32_t`, and its length is stored in a
`uint32_t`; the sections below say for which patterns this matters.
-/

namespace OplusHardware.Ir

open OplusHardware.Base

def MAX_PATTERN_TIME : Int32 := 2000000
def MIN_FREQ : Int32 := 20000
def MAX_FREQ : Int32 := 60000

/-! ## The driver -/

/-- `struct pattern_params`. -/
structure PatternParams where
  carrier_freq : Int32
  size : UInt32
  pattern : List UInt32
  deriving DecidableEq, Repr

inductive IrOp where
  /-- `open("/dev/oplus_consumer_ir", O_WRONLY)` -/
  | openDevice
  | malloc (size : UInt64)
  /-- `ioctl(fd, IR_SEND_PATTERN, params)` -/
  | sendPattern (params : PatternParams)

abbrev IrOp.Res : IrOp → Type
  | .openDevice => Bool
  | .malloc _ => Bool
  | .sendPattern _ => Int32

/-- What the calls meet: whether the device opens, which sizes can be
allocated, and what the driver answers. -/
structure Device where
  opens : Bool
  memory : UInt64 → Bool
  result : PatternParams → Int32

/-- The store is the list of the patterns the driver got. -/
def Device.serve (dev : Device) (sent : List PatternParams) :
    (op : IrOp) → List PatternParams × op.Res
  | .openDevice => (sent, dev.opens)
  | .malloc size => (sent, dev.memory size)
  | .sendPattern params => (sent ++ [params], dev.result params)

/-! ## The call -/

abbrev IrProg := Prog IrOp IrOp.Res AStatus

/-- The loop over the pattern, from `totalTime` on. -/
def addTimes (totalTime : Int32) : List Int32 → Except AStatus Int32
  | [] => .ok totalTime
  | value :: pattern =>
      if value < 0 then .error .exUnsupportedOperation
      else addTimes (totalTime + value) pattern

/-- `sizeof(struct pattern_params) + pattern.size() * sizeof(int32_t)`. -/
def paramsSize (pattern : List Int32) : UInt64 :=
  8 + UInt64.ofNat pattern.length * 4

/-- The fields as they are assigned and copied. -/
def patternParams (carrierFreqHz : Int32) (pattern : List Int32) : PatternParams where
  carrier_freq := carrierFreqHz
  size := UInt32.ofNat pattern.length
  pattern := pattern.map Int32.toUInt32

/-- `ConsumerIr::transmit`. -/
def transmit (carrierFreqHz : Int32) (pattern : List Int32) : IrProg Unit :=
  if carrierFreqHz < MIN_FREQ ∨ carrierFreqHz > MAX_FREQ then
    .throw .exUnsupportedOperation
  else do
    let totalTime ← .ofExcept (addTimes 0 pattern)
    if totalTime > MAX_PATTERN_TIME then
      .throw .exUnsupportedOperation
    else
      match ← .perform IrOp.openDevice with
      | false => .throw .exUnsupportedOperation
      | true =>
          match ← .perform (IrOp.malloc (paramsSize pattern)) with
          | false => .throw .exUnsupportedOperation
          | true => do
              let result ← .perform (IrOp.sendPattern (patternParams carrierFreqHz pattern))
              if result < 0 then .throw .exUnsupportedOperation else return ()

/-- The call hands `params` to the driver. -/
def Reaches (dev : Device) (carrierFreqHz : Int32) (pattern : List Int32)
    (params : PatternParams) : Prop :=
  params ∈ ((transmit carrierFreqHz pattern).run dev.serve []).1

/-! ## The running sum -/

/-- The duration of a pattern. -/
def duration (pattern : List Int32) : Int := (pattern.map Int32.toInt).sum

/-- No entry is negative. -/
def NonNeg (pattern : List Int32) : Prop := ∀ value ∈ pattern, 0 ≤ value.toInt

instance (pattern : List Int32) : Decidable (NonNeg pattern) :=
  inferInstanceAs (Decidable (∀ value ∈ pattern, _))

theorem lt_zero_iff {value : Int32} : value < 0 ↔ ¬ 0 ≤ value.toInt := by
  rw [Int32.lt_iff_toInt_lt, Int.not_le]
  rfl

theorem NonNeg.duration_nonneg {pattern : List Int32} (h : NonNeg pattern) :
    0 ≤ duration pattern := by
  apply List.sum_nonneg
  intro n hn
  obtain ⟨value, hv, rfl⟩ := List.mem_map.mp hn
  exact h value hv

/-- **The loop adds modulo `2^32`.** -/
theorem addTimes_of_nonNeg {pattern : List Int32} (h : NonNeg pattern) (totalTime : Int32) :
    addTimes totalTime pattern = .ok (totalTime + Int32.ofInt (duration pattern)) := by
  induction pattern generalizing totalTime with
  | nil => simp [addTimes, duration]
  | cons value pattern ih =>
      have hvalue : ¬ value < 0 := by
        rw [lt_zero_iff, not_not]
        exact h value (by simp)
      rw [addTimes, if_neg hvalue, ih fun v hv => h v (by simp [hv])]
      simp only [duration, List.map_cons, List.sum_cons, Int32.ofInt_add, Int32.ofInt_toInt]
      rw [Int32.add_assoc]

theorem addTimes_of_not_nonNeg {pattern : List Int32} (h : ¬ NonNeg pattern)
    (totalTime : Int32) : addTimes totalTime pattern = .error .exUnsupportedOperation := by
  induction pattern generalizing totalTime with
  | nil => exact absurd (by simp [NonNeg]) h
  | cons value pattern ih =>
      rw [addTimes]
      split_ifs with hvalue
      · rfl
      · apply ih
        intro hrest
        rw [lt_zero_iff, not_not] at hvalue
        apply h
        intro v hv
        rcases List.mem_cons.mp hv with rfl | hv
        · exact hvalue
        · exact hrest v hv

/-- The guard after the loop sees the duration modulo `2^32`, as a signed
number. -/
theorem totalTime_gt_iff {pattern : List Int32} :
    Int32.ofInt (duration pattern) > MAX_PATTERN_TIME ↔
      MAX_PATTERN_TIME.toInt < duration pattern % 2 ^ 32 ∧
        duration pattern % 2 ^ 32 < 2 ^ 31 := by
  have hmax : MAX_PATTERN_TIME.toInt = 2000000 := rfl
  rw [GT.gt, Int32.lt_iff_toInt_lt, Int32.toInt_ofInt, hmax, Int.bmod_def]
  simp only [Int32.size]
  omega

/-! ## What reaches the driver -/

/-- The frequency is one of the supported range. -/
def InRange (carrierFreqHz : Int32) : Prop :=
  20000 ≤ carrierFreqHz.toInt ∧ carrierFreqHz.toInt ≤ 60000

instance (carrierFreqHz : Int32) : Decidable (InRange carrierFreqHz) :=
  inferInstanceAs (Decidable (_ ∧ _))

theorem inRange_iff {carrierFreqHz : Int32} :
    ¬ (carrierFreqHz < MIN_FREQ ∨ carrierFreqHz > MAX_FREQ) ↔ InRange carrierFreqHz := by
  have hmin : MIN_FREQ.toInt = 20000 := rfl
  have hmax : MAX_FREQ.toInt = 60000 := rfl
  rw [GT.gt, Int32.lt_iff_toInt_lt, Int32.lt_iff_toInt_lt, hmin, hmax, InRange]
  omega

/-- **The call reaches the driver** exactly when it passes the checks, as
they are made, and the device and the memory are there. -/
theorem reaches_iff {dev : Device} {carrierFreqHz : Int32} {pattern : List Int32}
    {params : PatternParams} :
    Reaches dev carrierFreqHz pattern params ↔
      InRange carrierFreqHz ∧ NonNeg pattern ∧
        ¬ Int32.ofInt (duration pattern) > MAX_PATTERN_TIME ∧ dev.opens = true ∧
        dev.memory (paramsSize pattern) = true ∧
        params = patternParams carrierFreqHz pattern := by
  rw [Reaches, transmit, ← inRange_iff]
  split_ifs with hfreq
  · simp [hfreq]
  · by_cases hnonneg : NonNeg pattern
    · rw [addTimes_of_nonNeg hnonneg, Prog.run_ofExcept_bind, Int32.zero_add]
      by_cases htotal : Int32.ofInt (duration pattern) > MAX_PATTERN_TIME
      · simp [htotal]
      · cases hopen : dev.opens with
        | false => simp [htotal, Device.serve, hopen]
        | true =>
            cases hmemory : dev.memory (paramsSize pattern) with
            | false => simp [htotal, Device.serve, hopen, hmemory]
            | true =>
                -- the result of the `ioctl` comes too late to matter
                by_cases hresult : dev.result (patternParams carrierFreqHz pattern) < 0 <;>
                  simp [htotal, Device.serve, hopen, hmemory, hfreq, hnonneg, hresult]
    · rw [addTimes_of_not_nonNeg hnonneg, Prog.run_ofExcept_bind]
      simp [hnonneg]

/-- The input is one that `transmit` is meant to send. -/
def Allowed (carrierFreqHz : Int32) (pattern : List Int32) : Prop :=
  InRange carrierFreqHz ∧ NonNeg pattern ∧ duration pattern ≤ MAX_PATTERN_TIME.toInt

/-- **The guard is exact for an input**: only an allowed input reaches the
driver, and an allowed one does, whole, wherever the device opens and the
memory is there. -/
structure Exact (carrierFreqHz : Int32) (pattern : List Int32) : Prop where
  sound : ∀ dev params, Reaches dev carrierFreqHz pattern params →
    Allowed carrierFreqHz pattern
  complete : ∀ dev : Device, dev.opens = true → dev.memory (paramsSize pattern) = true →
    Allowed carrierFreqHz pattern → ∃ params, Reaches dev carrierFreqHz pattern params ∧
      params.carrier_freq = carrierFreqHz ∧ params.size.toNat = pattern.length ∧
      params.pattern = pattern.map Int32.toUInt32

/-- A device that opens, and memory for everything. -/
def readyDevice : Device := ⟨true, fun _ => true, fun _ => 0⟩

/-- **When the guard is exact.** For every frequency and every pattern of
any length: the guard is exact if and only if the frequency is out of
range, or an entry is negative, or the duration is within the limit and the
length below `2^32`, or the duration modulo `2^32` lies between the limit
and `2^31`. -/
theorem exact_iff (carrierFreqHz : Int32) (pattern : List Int32) :
    Exact carrierFreqHz pattern ↔
      (InRange carrierFreqHz → NonNeg pattern →
        (duration pattern ≤ MAX_PATTERN_TIME.toInt ∧ pattern.length < 2 ^ 32) ∨
        (MAX_PATTERN_TIME.toInt < duration pattern % 2 ^ 32 ∧
          duration pattern % 2 ^ 32 < 2 ^ 31)) := by
  have hmax : MAX_PATTERN_TIME.toInt = 2000000 := rfl
  have hready : InRange carrierFreqHz → NonNeg pattern →
      ¬ Int32.ofInt (duration pattern) > MAX_PATTERN_TIME →
      Reaches readyDevice carrierFreqHz pattern (patternParams carrierFreqHz pattern) :=
    fun hfreq hnonneg htotal => reaches_iff.mpr ⟨hfreq, hnonneg, htotal, rfl, rfl, rfl⟩
  constructor
  · intro h hfreq hnonneg
    by_cases htotal : Int32.ofInt (duration pattern) > MAX_PATTERN_TIME
    · exact .inr (totalTime_gt_iff.mp htotal)
    · left
      obtain ⟨-, -, hle⟩ := h.sound _ _ (hready hfreq hnonneg htotal)
      refine ⟨hle, ?_⟩
      obtain ⟨params, hreach, -, hsize, -⟩ :=
        h.complete readyDevice rfl rfl ⟨hfreq, hnonneg, hle⟩
      rw [← hsize]
      exact params.size.toNat_lt
  · intro h
    constructor
    · intro dev params hreach
      obtain ⟨hfreq, hnonneg, htotal, -⟩ := reaches_iff.mp hreach
      refine ⟨hfreq, hnonneg, ?_⟩
      rcases h hfreq hnonneg with ⟨hle, -⟩ | hwrapped
      · exact hle
      · exact absurd (totalTime_gt_iff.mpr hwrapped) htotal
    · rintro dev hopens hmemory ⟨hfreq, hnonneg, hle⟩
      have hpos := hnonneg.duration_nonneg
      have htotal : ¬ Int32.ofInt (duration pattern) > MAX_PATTERN_TIME := by
        rw [totalTime_gt_iff]
        omega
      refine ⟨patternParams carrierFreqHz pattern,
        reaches_iff.mpr ⟨hfreq, hnonneg, htotal, hopens, hmemory, rfl⟩, rfl, ?_, rfl⟩
      have hlength : pattern.length < 2 ^ 32 := by
        rcases h hfreq hnonneg with ⟨-, hlt⟩ | hwrapped
        · exact hlt
        · omega
      show (UInt32.ofNat pattern.length).toNat = pattern.length
      exact UInt32.toNat_ofNat_of_lt' hlength

/-- **A duration past `2^32`**: three entries whose sum wraps around to
zero reach the driver, as if the pattern took no time. -/
theorem wrapped_duration_reaches :
    Reaches readyDevice 38000 [2147483647, 2147483647, 2]
        ⟨38000, 3, [2147483647, 2147483647, 2]⟩ ∧
      duration [2147483647, 2147483647, 2] = 4294967296 ∧
      ¬ Exact 38000 [2147483647, 2147483647, 2] := by
  have hduration : duration [2147483647, 2147483647, 2] = 4294967296 := rfl
  have hreach : Reaches readyDevice 38000 [2147483647, 2147483647, 2]
      ⟨38000, 3, [2147483647, 2147483647, 2]⟩ := by
    rw [reaches_iff, hduration]
    refine ⟨by decide, ?_, by decide, rfl, rfl, rfl⟩
    intro value hvalue
    simp only [List.mem_cons, List.not_mem_nil, or_false] at hvalue
    rcases hvalue with rfl | rfl | rfl <;> decide
  refine ⟨hreach, hduration, ?_⟩
  intro h
  obtain ⟨-, -, hle⟩ := h.sound _ _ hreach
  rw [hduration] at hle
  revert hle
  decide

end OplusHardware.Ir
