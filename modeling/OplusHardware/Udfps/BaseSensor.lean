import OplusHardware.Base.Spacing
import OplusHardware.Udfps.Sensor

/-!
# Udfps — the sensor base class

`class Sensor`: a thread that samples. While the sensor is enabled it reads
the clock, posts an event when a sampling period has passed since the last
one, and sleeps for the rest of the period. `activate` and
`setOperationMode` take `mRunMutex`, which the thread holds except while it
waits; `batch`, `flush` and `injectEvent` do not.
-/

namespace OplusHardware.Udfps

open OplusHardware.Base

/-! ## What the class keeps -/

/-- `SensorFlagBits`. -/
def flagWakeUp : UInt32 := 1
def flagOneShotMode : UInt32 := 4
def flagDataInjection : UInt32 := 16

/-- The members of `SensorInfo` that the class reads. -/
structure SensorInfo where
  sensorHandle : Int32
  type : Int32
  minDelay : Int32
  maxDelay : Int32
  flags : UInt32
  deriving DecidableEq, Repr

def metaData : Int32 := 0
def additionalInfo : Int32 := 33

/-- The part of an event's union that is set. -/
inductive Payload where
  | vec3 (x y z status : Int)
  | data (data0 data1 : Int32)
  | metaFlushComplete
  /-- of an event that a client injects -/
  | other
  deriving DecidableEq, Repr

structure SensorEvent where
  sensorHandle : Int32
  sensorType : Int32
  timestamp : Int
  payload : Payload
  deriving DecidableEq, Repr

/-- `Result`. -/
inductive Result where
  | ok
  | badValue
  | invalidOperation
  deriving DecidableEq, Repr

/-- Where `run` is. -/
inductive RunPc where
  | starting
  /-- At the head of the loop, with the mutex. -/
  | head
  /-- The clock is read and `nextSampleTime` computed. -/
  | sampled (now nextSampleTime : Int)
  /-- In `mWaitCV.wait`. -/
  | waiting
  /-- In `mWaitCV.wait_for`. -/
  | waitingFor (duration : Int)
  | finished
  deriving DecidableEq, Repr

structure Sensor where
  mSensorInfo : SensorInfo
  mIsEnabled : Bool
  mSamplingPeriodNs : Int
  mLastSampleTimeNs : Int
  mStopThread : Bool
  mMode : OperationMode
  pc : RunPc
  deriving DecidableEq, Repr

namespace Sensor

def construct (info : SensorInfo) : Sensor where
  mSensorInfo := info
  mIsEnabled := false
  mSamplingPeriodNs := 0
  mLastSampleTimeNs := 0
  mStopThread := false
  mMode := .normal
  pc := .starting

/-! ## The methods -/

def isWakeUpSensor (s : Sensor) : Bool := s.mSensorInfo.flags &&& flagWakeUp ≠ 0

def supportsDataInjection (s : Sensor) : Bool := s.mSensorInfo.flags &&& flagDataInjection ≠ 0

/-- `std::clamp`. -/
def clamp (v lo hi : Int32) : Int32 := if v < lo then lo else if hi < v then hi else v

/-- `batch`. A period that does not change notifies nobody. -/
def batch (s : Sensor) (samplingPeriodNs : Int32) : Sensor :=
  { s with
    mSamplingPeriodNs :=
      (clamp samplingPeriodNs (s.mSensorInfo.minDelay * 1000)
        (s.mSensorInfo.maxDelay * 1000)).toInt }

def activate (s : Sensor) (enable : Bool) : Sensor := { s with mIsEnabled := enable }

def setOperationMode (s : Sensor) (mode : OperationMode) : Sensor := { s with mMode := mode }

/-- `flush`, with the events it posts. -/
def flush (s : Sensor) : Result × List SensorEvent :=
  if !s.mIsEnabled then (.badValue, [])
  else (.ok, [⟨s.mSensorInfo.sensorHandle, metaData, 0, .metaFlushComplete⟩])

/-- `injectEvent`, with the events it posts. -/
def injectEvent (s : Sensor) (event : SensorEvent) : Result × List SensorEvent :=
  if event.sensorType = additionalInfo then (.ok, [])
  else if !s.supportsDataInjection then (.invalidOperation, [])
  else if s.mMode = .dataInjection then (.ok, [event])
  else (.badValue, [])

/-- `readEvents`. -/
def readEvents (s : Sensor) (timestamp : Int) : List SensorEvent :=
  [⟨s.mSensorInfo.sensorHandle, s.mSensorInfo.type, timestamp, .vec3 0 0 0 3⟩]

/-! ## The thread -/

/-- The predicate of `mWaitCV.wait`. -/
def wakes (s : Sensor) : Bool := (s.mIsEnabled && s.mMode = .normal) || s.mStopThread

/-- The loop where it does not sample. -/
def loop (s : Sensor) : Sensor :=
  if s.mStopThread then { s with pc := .finished }
  else { s with pc := if s.wakes then .head else .waiting }

/-- The thread is about to sample. -/
def samples (s : Sensor) : Bool :=
  !s.mStopThread && !(!s.mIsEnabled || s.mMode = .dataInjection)

/-- `clock_gettime`, and `nextSampleTime`. -/
def readClock (s : Sensor) (now : Int) : Sensor :=
  { s with pc := .sampled now (s.mLastSampleTimeNs + s.mSamplingPeriodNs) }

/-- The comparison, and what follows it up to `wait_for`, with the events it
posts; `timestamp` is what `readEvents` reads. -/
def afterClock (s : Sensor) (now nextSampleTime timestamp : Int) : Sensor × List SensorEvent :=
  if nextSampleTime ≤ now then
    ({ s with
        mLastSampleTimeNs := now
        pc := .waitingFor (now + s.mSamplingPeriodNs - now) }, s.readEvents timestamp)
  else ({ s with pc := .waitingFor (nextSampleTime - now) }, [])

def lockFree (s : Sensor) : Bool :=
  match s.pc with
  | .head => false
  | .sampled _ _ => false
  | _ => true

inductive Action where
  | batch (samplingPeriodNs : Int32)
  | activate (enable : Bool)
  | setOperationMode (mode : OperationMode)
  | flush
  | injectEvent (event : SensorEvent)
  /-- The thread takes the mutex for the first time. -/
  | begin
  | loop
  | readClock (now : Int)
  /-- It compares, posts what is due and goes to sleep. -/
  | sample (timestamp : Int)
  /-- It has the mutex back: notified, timed out or spuriously awake. -/
  | wake
  /-- `~Sensor` stops it. -/
  | stop
  deriving DecidableEq, Repr

def step (s : Sensor) : Action → Option Sensor
  | .batch samplingPeriodNs => some (s.batch samplingPeriodNs)
  | .activate enable => if s.lockFree then some (s.activate enable) else none
  | .setOperationMode mode => if s.lockFree then some (s.setOperationMode mode) else none
  | .flush => some s
  | .injectEvent _ => some s
  | .begin => if s.pc = .starting then some { s with pc := .head } else none
  | .loop => if s.pc = .head ∧ s.samples = false then some s.loop else none
  | .readClock now => if s.pc = .head ∧ s.samples then some (s.readClock now) else none
  | .sample timestamp =>
      match s.pc with
      | .sampled now nextSampleTime => some (s.afterClock now nextSampleTime timestamp).1
      | _ => none
  | .wake =>
      match s.pc with
      | .waiting => some { s with pc := if s.wakes then .head else .waiting }
      | .waitingFor _ => some { s with pc := .head }
      | _ => none
  | .stop =>
      if s.lockFree then some { s with mStopThread := true, mIsEnabled := false } else none

/-- The events a step posts. -/
def posted (s : Sensor) : Action → List SensorEvent
  | .flush => s.flush.2
  | .injectEvent event => (s.injectEvent event).2
  | .sample timestamp =>
      match s.pc with
      | .sampled now nextSampleTime => (s.afterClock now nextSampleTime timestamp).2
      | _ => []
  | _ => []

/-- The time of a sample, a step of `run` that posts: what the clock said. -/
def sampleTime (x : Sensor × Action) : Option Int :=
  match x.2, x.1.pc with
  | .sample _, .sampled now _ => if posted x.1 x.2 = [] then none else some now
  | _, _ => none

/-! ## What a step does -/

/-- **The ways a step goes.** -/
inductive StepCase (s : Sensor) : Action → Sensor → Prop where
  | batch (samplingPeriodNs : Int32) :
      StepCase s (.batch samplingPeriodNs) (s.batch samplingPeriodNs)
  | activate (enable : Bool) (hfree : s.lockFree = true) :
      StepCase s (.activate enable) { s with mIsEnabled := enable }
  | setOperationMode (mode : OperationMode) (hfree : s.lockFree = true) :
      StepCase s (.setOperationMode mode) { s with mMode := mode }
  | flush : StepCase s .flush s
  | injectEvent (event : SensorEvent) : StepCase s (.injectEvent event) s
  | begin (hp : s.pc = .starting) : StepCase s .begin { s with pc := .head }
  | loop (hp : s.pc = .head) {pc : RunPc} (hpc : pc = .finished ∨ pc = .head ∨ pc = .waiting) :
      StepCase s .loop { s with pc := pc }
  | readClock (now : Int) (hp : s.pc = .head) (hon : s.mIsEnabled = true) :
      StepCase s (.readClock now)
        { s with pc := .sampled now (s.mLastSampleTimeNs + s.mSamplingPeriodNs) }
  | due (timestamp : Int) {now nextSampleTime : Int} (hp : s.pc = .sampled now nextSampleTime)
      (hdue : nextSampleTime ≤ now) :
      StepCase s (.sample timestamp)
        { s with mLastSampleTimeNs := now, pc := .waitingFor s.mSamplingPeriodNs }
  | early (timestamp : Int) {now nextSampleTime : Int} (hp : s.pc = .sampled now nextSampleTime)
      (hearly : now < nextSampleTime) :
      StepCase s (.sample timestamp) { s with pc := .waitingFor (nextSampleTime - now) }
  | wake {pc : RunPc} (hpc : pc = .head ∨ pc = .waiting) (hfree : s.lockFree = true) :
      StepCase s .wake { s with pc := pc }
  | stop (hfree : s.lockFree = true) :
      StepCase s .stop { s with mStopThread := true, mIsEnabled := false }

variable {s t : Sensor} {a : Action} {h : List (Sensor × Action)}

theorem loop_cases (hp : s.pc = .head) : StepCase s .loop s.loop := by
  unfold loop
  split
  · exact .loop hp (.inl rfl)
  · cases s.wakes with
    | true => exact .loop hp (.inr (.inl rfl))
    | false => exact .loop hp (.inr (.inr rfl))

theorem sample_cases (timestamp : Int) {now nextSampleTime : Int}
    (hp : s.pc = .sampled now nextSampleTime) :
    StepCase s (.sample timestamp) (s.afterClock now nextSampleTime timestamp).1 := by
  unfold afterClock
  split
  · rename_i hdue
    rw [add_sub_cancel_left]
    exact .due timestamp hp hdue
  · rename_i hearly
    exact .early timestamp hp (not_le.mp hearly)

theorem step_cases (hs : step s a = some t) : StepCase s a t := by
  cases a with
  | batch samplingPeriodNs =>
      cases hs
      exact .batch samplingPeriodNs
  | activate enable =>
      simp only [step, Option.ite_none_right_eq_some] at hs
      obtain ⟨hfree, hs⟩ := hs
      cases hs
      exact .activate enable hfree
  | setOperationMode mode =>
      simp only [step, Option.ite_none_right_eq_some] at hs
      obtain ⟨hfree, hs⟩ := hs
      cases hs
      exact .setOperationMode mode hfree
  | flush =>
      cases hs
      exact .flush
  | injectEvent event =>
      cases hs
      exact .injectEvent event
  | begin =>
      simp only [step, Option.ite_none_right_eq_some] at hs
      obtain ⟨hp, hs⟩ := hs
      cases hs
      exact .begin hp
  | loop =>
      simp only [step, Option.ite_none_right_eq_some] at hs
      obtain ⟨⟨hp, -⟩, hs⟩ := hs
      cases hs
      exact loop_cases hp
  | readClock now =>
      simp only [step, Option.ite_none_right_eq_some] at hs
      obtain ⟨⟨hp, hsamples⟩, hs⟩ := hs
      cases hs
      have hon : s.mIsEnabled = true := by
        simp only [samples, Bool.and_eq_true, Bool.not_eq_true', Bool.or_eq_false_iff] at hsamples
        simpa using hsamples.2.1
      exact .readClock now hp hon
  | sample timestamp =>
      simp only [step] at hs
      split at hs
      · rename_i now nextSampleTime hp
        cases hs
        exact sample_cases timestamp hp
      · cases hs
  | wake =>
      simp only [step] at hs
      split at hs
      · rename_i hp
        cases hs
        apply StepCase.wake
        · cases s.wakes with
          | true => exact .inl rfl
          | false => exact .inr rfl
        · simp [lockFree, hp]
      · rename_i duration hp
        cases hs
        exact .wake (.inl rfl) (by simp [lockFree, hp])
      · cases hs
  | stop =>
      simp only [step, Option.ite_none_right_eq_some] at hs
      obtain ⟨hfree, hs⟩ := hs
      cases hs
      exact .stop hfree

end Sensor

end OplusHardware.Udfps
