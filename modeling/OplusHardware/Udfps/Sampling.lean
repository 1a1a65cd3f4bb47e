import Mathlib.Algebra.Group.Int.Defs
import OplusHardware.Udfps.BaseSensor

/-!
# Udfps — how often a continuous sensor samples

The period that `batch` clamps, the clock the thread reads and the time it
goes to sleep for, put together over whole runs: samples keep the minimum
delay whatever clients and clock do, and no sleep is longer than the
maximum delay unless the clock went back.
-/

namespace OplusHardware.Udfps

open OplusHardware.Base

/-! ## The delays in nanoseconds -/

/-- A sensor with a range of sampling periods, in nanoseconds in an
`int32_t`. -/
structure SensorInfo.Continuous (info : SensorInfo) : Prop where
  minDelay_pos : 0 < info.minDelay.toInt
  minDelay_le : info.minDelay.toInt ≤ info.maxDelay.toInt
  maxDelay_lt : info.maxDelay.toInt * 1000 < 2 ^ 31

namespace SensorInfo

variable {info : SensorInfo}

def minPeriodNs (info : SensorInfo) : Int := info.minDelay.toInt * 1000

def maxPeriodNs (info : SensorInfo) : Int := info.maxDelay.toInt * 1000

theorem toInt_mul_thousand {d : Int32} (hpos : 0 < d.toInt) (hlt : d.toInt * 1000 < 2 ^ 31) :
    (d * 1000).toInt = d.toInt * 1000 := by
  have hthousand : (1000 : Int32).toInt = 1000 := by decide
  rw [Int32.toInt_mul, hthousand]
  apply Int.bmod_eq_of_le
  · omega
  · omega

theorem Continuous.minPeriodNs_pos (hinfo : info.Continuous) : 0 < info.minPeriodNs := by
  have := hinfo.minDelay_pos
  unfold minPeriodNs
  omega

end SensorInfo

namespace Sensor

variable {s t u : Sensor} {a : Action} {h : List (Sensor × Action)} {info : SensorInfo}

/-- **What `batch` stores** lies between the two delays. -/
theorem batch_period (hinfo : s.mSensorInfo.Continuous) (p : Int32) :
    s.mSensorInfo.minPeriodNs ≤ (s.batch p).mSamplingPeriodNs ∧
      (s.batch p).mSamplingPeriodNs ≤ s.mSensorInfo.maxPeriodNs := by
  have hpos := hinfo.minDelay_pos
  have hle := hinfo.minDelay_le
  have hlt := hinfo.maxDelay_lt
  have hlo := SensorInfo.toInt_mul_thousand hpos (by omega)
  have hhi := SensorInfo.toInt_mul_thousand (hpos.trans_le hle) hlt
  show _ ≤ (clamp p _ _).toInt ∧ (clamp p _ _).toInt ≤ _
  unfold SensorInfo.minPeriodNs SensorInfo.maxPeriodNs
  rw [← hlo, ← hhi]
  have horder : (s.mSensorInfo.minDelay * 1000).toInt ≤
      (s.mSensorInfo.maxDelay * 1000).toInt := by omega
  unfold clamp
  split
  · exact ⟨le_refl _, horder⟩
  · rename_i hlow
    split
    · exact ⟨horder, le_refl _⟩
    · rename_i hhigh
      rw [Int32.lt_iff_toInt_lt] at hlow hhigh
      omega

/-! ## The invariant -/

/-- `batch` has been called. -/
def batched (s : Sensor) : Prop :=
  s.mSensorInfo.minPeriodNs ≤ s.mSamplingPeriodNs ∧
    s.mSamplingPeriodNs ≤ s.mSensorInfo.maxPeriodNs

/-- An enabled sensor has its period, and what the thread has computed
from an earlier one is a minimum delay after the last sample. -/
structure Paced (info : SensorInfo) (s : Sensor) : Prop where
  info_eq : s.mSensorInfo = info
  period : s.mIsEnabled = true → s.batched
  sampled : ∀ now next, s.pc = .sampled now next → s.mIsEnabled = true ∧
    s.mLastSampleTimeNs + info.minPeriodNs ≤ next ∧
    next ≤ s.mLastSampleTimeNs + info.maxPeriodNs

/-- The sensor has a period when it is switched on. -/
def switchedOnBatched (s : Sensor) (a : Action) : Prop :=
  a = .activate true → s.mSensorInfo.Continuous → s.batched

theorem Paced.step (hinfo : info.Continuous) (hi : Paced info s) (hok : s.switchedOnBatched a)
    (hs : step s a = some t) : Paced info t := by
  obtain ⟨hinfo', hperiod, hsampled⟩ := hi
  cases step_cases hs with
  | batch p =>
      have hnew : (s.batch p).batched := batch_period (hinfo' ▸ hinfo) p
      exact ⟨hinfo', fun _ => hnew, hsampled⟩
  | activate enable hfree =>
      refine ⟨hinfo', ?_, ?_⟩
      · intro hon
        have hon : enable = true := hon
        exact hok (by rw [hon]) (hinfo' ▸ hinfo)
      · intro now next hp
        have hp : s.pc = .sampled now next := hp
        simp [lockFree, hp] at hfree
  | setOperationMode mode hfree => exact ⟨hinfo', hperiod, hsampled⟩
  | flush => exact ⟨hinfo', hperiod, hsampled⟩
  | injectEvent event => exact ⟨hinfo', hperiod, hsampled⟩
  | begin hp => exact ⟨hinfo', hperiod, fun _ _ hp' => by cases hp'⟩
  | loop hp hpc =>
      refine ⟨hinfo', hperiod, ?_⟩
      intro now next hp'
      rcases hpc with rfl | rfl | rfl
      · cases hp'
      · cases hp'
      · cases hp'
  | readClock now hp hon =>
      refine ⟨hinfo', hperiod, ?_⟩
      intro now' next hp'
      cases hp'
      obtain ⟨hlo, hhi⟩ := hperiod hon
      rw [hinfo'] at hlo hhi
      show s.mIsEnabled = true ∧ s.mLastSampleTimeNs + _ ≤ _ ∧ _ ≤ s.mLastSampleTimeNs + _
      exact ⟨hon, by omega, by omega⟩
  | due timestamp hp hdue => exact ⟨hinfo', hperiod, fun _ _ hp' => by cases hp'⟩
  | early timestamp hp hearly => exact ⟨hinfo', hperiod, fun _ _ hp' => by cases hp'⟩
  | wake hpc hfree =>
      refine ⟨hinfo', hperiod, ?_⟩
      intro now next hp'
      rcases hpc with rfl | rfl
      · cases hp'
      · cases hp'
  | stop hfree =>
      refine ⟨hinfo', ?_, ?_⟩
      · intro hon
        cases hon
      · intro now next hp
        have hp : s.pc = .sampled now next := hp
        simp [lockFree, hp] at hfree

/-- A sample comes a minimum delay after the last one, and is remembered. -/
theorem sampleTime_step (hinfo : info.Continuous) (hi : Paced info s)
    (hs : step s a = some t) :
    s.mLastSampleTimeNs ≤ t.mLastSampleTimeNs ∧ ∀ x, sampleTime (s, a) = some x →
      s.mLastSampleTimeNs + info.minPeriodNs ≤ x ∧ x ≤ t.mLastSampleTimeNs := by
  cases step_cases hs with
  | due timestamp hp hdue =>
      have hmin := (hi.sampled _ _ hp).2.1
      have hpos := hinfo.minPeriodNs_pos
      constructor
      · show s.mLastSampleTimeNs ≤ _
        exact (le_add_of_nonneg_right hpos.le).trans (hmin.trans hdue)
      · intro x hx
        simp only [sampleTime, hp, posted, afterClock, readEvents, if_pos hdue, List.cons_ne_nil,
          if_false, Option.some.injEq] at hx
        subst hx
        exact ⟨hmin.trans hdue, le_refl _⟩
  | early timestamp hp hearly =>
      refine ⟨le_refl _, fun x hx => ?_⟩
      simp [sampleTime, hp, posted, afterClock, not_le.mpr hearly] at hx
  | batch p => exact ⟨le_refl _, fun x hx => by cases hx⟩
  | activate enable hfree => exact ⟨le_refl _, fun x hx => by cases hx⟩
  | setOperationMode mode hfree => exact ⟨le_refl _, fun x hx => by cases hx⟩
  | flush => exact ⟨le_refl _, fun x hx => by cases hx⟩
  | injectEvent event => exact ⟨le_refl _, fun x hx => by cases hx⟩
  | begin hp => exact ⟨le_refl _, fun x hx => by cases hx⟩
  | loop hp hpc => exact ⟨le_refl _, fun x hx => by cases hx⟩
  | readClock now hp hon => exact ⟨le_refl _, fun x hx => by cases hx⟩
  | wake hpc hfree => exact ⟨le_refl _, fun x hx => by cases hx⟩
  | stop hfree => exact ⟨le_refl _, fun x hx => by cases hx⟩

/-- The time a step puts the thread to sleep for, with the clock it read. -/
def sleepsFor (x : Sensor × Action) : Option (Int × Int) :=
  match x.2, x.1.pc with
  | .sample timestamp, .sampled now nextSampleTime =>
      match (x.1.afterClock now nextSampleTime timestamp).1.pc with
      | .waitingFor duration => some (now, duration)
      | _ => none
  | _, _ => none

/-- A sleep is positive, and not over the maximum delay when the clock has
not gone back behind the last sample. -/
theorem sleepsFor_bounds (hinfo : info.Continuous) (hi : Paced info s) {now duration : Int}
    (hsleep : sleepsFor (s, a) = some (now, duration)) :
    0 < duration ∧ (s.mLastSampleTimeNs ≤ now → duration ≤ info.maxPeriodNs) := by
  unfold sleepsFor at hsleep
  split at hsleep
  · rename_i timestamp now' next ha hp
    obtain ⟨hon, hlo, hhi⟩ := hi.sampled _ _ hp
    have hbatched := hi.period hon
    rw [batched, hi.info_eq] at hbatched
    have hpos := hinfo.minPeriodNs_pos
    by_cases hdue : next ≤ now'
    · simp only [afterClock, if_pos hdue, Option.some.injEq, Prod.mk.injEq] at hsleep
      obtain ⟨rfl, rfl⟩ := hsleep
      exact ⟨by omega, fun _ => by omega⟩
    · simp only [afterClock, if_neg hdue, Option.some.injEq, Prod.mk.injEq] at hsleep
      obtain ⟨rfl, rfl⟩ := hsleep
      exact ⟨by omega, fun hclock => by omega⟩
  · cases hsleep

/-! ## Whole runs -/

theorem paced_construct (info : SensorInfo) : Paced info (construct info) where
  info_eq := rfl
  period hon := by cases hon
  sampled _ _ hp := by cases hp

def isBatch (x : Sensor × Action) : Bool :=
  match x.2 with
  | .batch _ => true
  | _ => false

def switchesOn (x : Sensor × Action) : Bool := x.2 = .activate true

/-- Before its first `batch` the run does not switch the sensor on. -/
def batchedFirst (h : List (Sensor × Action)) : Prop :=
  ∀ x ∈ h.takeWhile fun x => !isBatch x, switchesOn x = false

/-- `batch` has been called, if the sensor is continuous. -/
def everBatched (s : Sensor) : Prop := s.mSensorInfo.Continuous → s.batched

theorem everBatched_step (hi : s.everBatched ∨ isBatch (s, a) = true)
    (hs : step s a = some t) : t.everBatched := by
  cases step_cases hs with
  | batch p => exact fun hinfo => batch_period hinfo p
  | activate enable hfree => exact hi.resolve_right (by simp [isBatch])
  | setOperationMode mode hfree => exact hi.resolve_right (by simp [isBatch])
  | flush => exact hi.resolve_right (by simp [isBatch])
  | injectEvent event => exact hi.resolve_right (by simp [isBatch])
  | begin hp => exact hi.resolve_right (by simp [isBatch])
  | loop hp hpc => exact hi.resolve_right (by simp [isBatch])
  | readClock now hp hon => exact hi.resolve_right (by simp [isBatch])
  | due timestamp hp hdue => exact hi.resolve_right (by simp [isBatch])
  | early timestamp hp hearly => exact hi.resolve_right (by simp [isBatch])
  | wake hpc hfree => exact hi.resolve_right (by simp [isBatch])
  | stop hfree => exact hi.resolve_right (by simp [isBatch])

theorem switchedOnBatched_of_batchedFirst (hp : Path step s h t) (hfirst : batchedFirst h) :
    ∀ x ∈ h, switchedOnBatched x.1 x.2 := by
  have hapart : ∀ x, switchesOn x = true → isBatch x = false := by
    intro x hon
    rw [switchesOn, decide_eq_true_eq] at hon
    rw [isBatch, hon]
  have hall := Path.after_first (P := everBatched)
    (fun _ _ _ hm hs => everBatched_step (.inr hm) hs)
    (fun _ _ _ hP hs => everBatched_step (.inl hP) hs) hapart hp hfirst
  intro x hx hon
  exact hall x hx (decide_eq_true hon)

/-- **The sampling law.** A continuous sensor that is never switched on
before its first `batch`: in every interleaving of the thread with the
clients and for every sequence of clock readings, the samples it posts are a
minimum delay apart, so a window of time holds one more of them, at most, than
minimum delays; and the thread sleeps for a positive time, never over the
maximum delay when the clock it has read is not behind the last sample. -/
theorem sampling_law (info : SensorInfo) (hinfo : info.Continuous)
    (h : List (Sensor × Action)) (t : Sensor) (hp : Path step (construct info) h t)
    (hfirst : batchedFirst h) :
    Spaced info.minPeriodNs (h.filterMap sampleTime) ∧
    (∀ a b, a ≤ b → ((h.filterMap sampleTime).countP fun x => a ≤ x ∧ x ≤ b) *
      info.minPeriodNs ≤ b - a + info.minPeriodNs) ∧
    ∀ x ∈ h, ∀ now duration, sleepsFor x = some (now, duration) →
      0 < duration ∧ (x.1.mLastSampleTimeNs ≤ now → duration ≤ info.maxPeriodNs) := by
  have hok := switchedOnBatched_of_batchedFirst hp hfirst
  have hstart := paced_construct info
  have hspaced : Spaced info.minPeriodNs (h.filterMap sampleTime) :=
    hp.spaced (Paced info) switchedOnBatched
      (fun _ _ _ hi hok hs => Paced.step hinfo hi hok hs)
      (fun _ _ _ hi _ hs => sampleTime_step hinfo hi hs) hstart hok
  have halong := hp.inv_along (Paced info) switchedOnBatched
    (fun _ _ _ hi hok hs => Paced.step hinfo hi hok hs) hstart hok
  refine ⟨hspaced, ?_, ?_⟩
  · intro a b hab
    exact hspaced.countP_mul_le hab hinfo.minPeriodNs_pos.le
  · intro x hx now duration hsleep
    exact sleepsFor_bounds hinfo (halong x hx) hsleep

/-- A sensor of 5 ms to 100 ms. -/
def accelerometer : SensorInfo := ⟨1, 1, 5000, 100000, 0⟩

/-- Three readings of the clock, the second one too early. -/
def threeReadings : List Action :=
  [.begin, .loop, .batch 0, .activate true, .wake, .readClock 7000000, .sample 1, .wake,
    .readClock 8000000, .batch 2000000000, .sample 2, .wake, .readClock 200000000, .sample 3]

theorem sampling_law_three_readings :
    ∃ r ∈ follow step (construct accelerometer) threeReadings,
      (r.1.flatMap fun x => (posted x.1 x.2).map SensorEvent.timestamp) = [1, 3] ∧
      r.1.filterMap sampleTime = [7000000, 200000000] ∧
      Spaced accelerometer.minPeriodNs (r.1.filterMap sampleTime) := by
  have hrun : ∃ r ∈ follow step (construct accelerometer) threeReadings,
      (r.1.flatMap fun x => (posted x.1 x.2).map SensorEvent.timestamp) = [1, 3] ∧
      r.1.filterMap sampleTime = [7000000, 200000000] ∧
      ∀ x ∈ r.1.takeWhile fun x => !isBatch x, switchesOn x = false := by
    decide +kernel
  obtain ⟨r, hr, hevents, htimes, hfirst⟩ := hrun
  have hinfo : accelerometer.Continuous := ⟨by decide, by decide, by decide⟩
  exact ⟨r, hr, hevents, htimes, (sampling_law _ hinfo r.1 r.2 (path_of_follow hr) hfirst).1⟩

end Sensor

end OplusHardware.Udfps
