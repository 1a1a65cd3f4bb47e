import OplusHardware.Udfps.BaseSensor
import OplusHardware.Udfps.Runs

/-!
# Udfps — SensorsSubHal

The sub-HAL: a map from handles to sensors, the callback that the HAL proxy
hands in with `initialize`, and the operation mode. `setOperationMode` goes
through the map sensor by sensor, each under that sensor's own mutex, so
other calls and the run threads come in between.
-/

namespace OplusHardware.Udfps

open OplusHardware.Base

/-! ## What the sub-HAL keeps -/

/-- A `UdfpsSensor`, as the callers of its base classes see it. -/
structure SubHalSensor where
  sensor : UdfpsSensor
  deriving DecidableEq, Repr

/-- A call of `setOperationMode` under way: the handles it has not dealt
with, and whether the first of them is still owed its `interruptPoll`. -/
structure ModeCall where
  mode : OperationMode
  todo : List Int32
  interrupts : Bool
  deriving DecidableEq, Repr

/-- The handles whose sensors a call has yet to set. -/
def ModeCall.pending (c : ModeCall) : List Int32 :=
  if c.interrupts then c.todo.tail else c.todo

structure SensorsSubHal where
  mSensors : List (Int32 × SubHalSensor)
  /-- `mCallback`, by the number of the proxy behind it. -/
  mCallback : Option Nat
  mCurrentOperationMode : OperationMode
  mNextHandle : Int32
  modeCalls : List ModeCall
  deriving DecidableEq, Repr

/-- An event of the UDFPS sensor among all events. -/
def Event.toSensorEvent (e : Event) : SensorEvent :=
  ⟨e.sensorHandle, e.sensorType, e.timestamp, .data e.data0 e.data1⟩

namespace SubHalSensor

/-- `mSensorInfo`, as the constructors of `OneShotSensor` and `UdfpsSensor`
leave it. -/
def getSensorInfo (e : SubHalSensor) : SensorInfo :=
  ⟨e.sensor.sensorHandle, udfpsSensorType, -1, 0, flagOneShotMode ||| flagWakeUp⟩

/-- The base class. What only its `batch` and its `run` assign is as the
constructor left it. -/
def base (e : SubHalSensor) : Sensor where
  mSensorInfo := e.getSensorInfo
  mIsEnabled := e.sensor.mIsEnabled
  mSamplingPeriodNs := 0
  mLastSampleTimeNs := 0
  mStopThread := e.sensor.mStopThread
  mMode := e.sensor.mMode
  pc := .starting

/-- `OneShotSensor::batch`, which overrides the one of `Sensor` and does
nothing. -/
def batch (e : SubHalSensor) (_samplingPeriodNs : Int32) : SubHalSensor := e

/-- `OneShotSensor::flush`, likewise, with the events it posts. -/
def flush (_e : SubHalSensor) : Result × List SensorEvent := (.badValue, [])

end SubHalSensor

namespace SensorsSubHal

/-! ## Functions of the source -/

/-- `AddSensor<UdfpsSensor>`, with the coordinates the sensor is allocated
with. -/
def addSensor (m : SensorsSubHal) (mScreenX mScreenY : Int32) : SensorsSubHal :=
  let sensor := UdfpsSensor.construct m.mNextHandle mScreenX mScreenY
  { m with
    mSensors := m.mSensors ++ [(m.mNextHandle, ⟨sensor⟩)]
    mNextHandle := m.mNextHandle + 1 }

/-- `SensorsSubHal::SensorsSubHal`. -/
def construct (mScreenX mScreenY : Int32) : SensorsSubHal :=
  addSensor ⟨[], none, .normal, 1, []⟩ mScreenX mScreenY

/-- `getSensorsList_2_1`. -/
def getSensorsList (m : SensorsSubHal) : List SensorInfo :=
  m.mSensors.map fun p => p.2.getSensorInfo

/-- `mSensors.find`. -/
def find (m : SensorsSubHal) (handle : Int32) : Option SubHalSensor := m.mSensors.lookup handle

def put (m : SensorsSubHal) (handle : Int32) (e : SubHalSensor) : SensorsSubHal :=
  { m with mSensors := m.mSensors.map fun p => if p.1 = handle then (p.1, e) else p }

/-- A call of `setOperationMode` starts. -/
def enterMode (m : SensorsSubHal) (mode : OperationMode) : SensorsSubHal :=
  { m with modeCalls := m.modeCalls ++ [⟨mode, m.mSensors.map Prod.fst, false⟩] }

/-- `initialize`, up to its `setOperationMode(NORMAL)`. -/
def initializeWith (m : SensorsSubHal) (halProxyCallback : Nat) : SensorsSubHal :=
  { m with mCallback := some halProxyCallback }.enterMode .normal

/-! ## The machine -/

inductive Action where
  | initializeWith (halProxyCallback : Nat)
  | setOperationMode (mode : OperationMode)
  /-- A call of `setOperationMode` executes its next statement. -/
  | proceed (call : Nat)
  | activate (sensorHandle : Int32) (enabled : Bool)
  | batch (sensorHandle : Int32) (samplingPeriodNs : Int64)
  | flush (sensorHandle : Int32)
  | injectSensorData (event : SensorEvent)
  /-- A step of a sensor's run thread or of its node. -/
  | sensor (sensorHandle : Int32) (a : UdfpsSensor.Action)

/-- A step of one sensor. -/
def stepSensor (m : SensorsSubHal) (handle : Int32) (a : UdfpsSensor.Action) :
    Option SensorsSubHal :=
  (m.find handle).bind fun e =>
    (UdfpsSensor.step e.sensor a).map fun s => m.put handle { e with sensor := s }

/-- The next statement of a call of `setOperationMode`. -/
def proceed (m : SensorsSubHal) (i : Nat) (c : ModeCall) : Option SensorsSubHal :=
  match c.todo, c.interrupts with
  | [], _ => some { m with mCurrentOperationMode := c.mode, modeCalls := m.modeCalls.eraseIdx i }
  | handle :: _, false =>
      (m.stepSensor handle (.setOperationMode c.mode)).map fun m =>
        { m with modeCalls := m.modeCalls.set i { c with interrupts := true } }
  | handle :: todo, true =>
      (m.stepSensor handle .interruptPoll).map fun m =>
        { m with modeCalls := m.modeCalls.set i { c with todo := todo, interrupts := false } }

/-- The steps a sensor takes by itself. -/
def ownStep : UdfpsSensor.Action → Bool
  | .activate _ => false
  | .setOperationMode _ => false
  | .interruptPoll => false
  | _ => true

def step (m : SensorsSubHal) : Action → Option SensorsSubHal
  | .initializeWith halProxyCallback => some (m.initializeWith halProxyCallback)
  | .setOperationMode mode => some (m.enterMode mode)
  | .proceed i => m.modeCalls[i]?.bind (m.proceed i)
  | .activate handle enabled =>
      if (m.find handle).isNone then some m else m.stepSensor handle (.activate enabled)
  | .batch handle samplingPeriodNs =>
      match m.find handle with
      | none => some m
      | some e => some (m.put handle (e.batch samplingPeriodNs.toInt32))
  | .flush _ => some m
  | .injectSensorData _ => some m
  | .sensor handle a => if ownStep a then m.stepSensor handle a else none

/-- What a call answers. -/
def answer (m : SensorsSubHal) : Action → Result
  | .activate handle _ => if (m.find handle).isNone then .badValue else .ok
  | .batch handle _ => if (m.find handle).isNone then .badValue else .ok
  | .flush handle =>
      match m.find handle with
      | none => .badValue
      | some e => e.flush.1
  | .injectSensorData event =>
      match m.find event.sensorHandle with
      | none => .badValue
      | some e => (e.base.injectEvent event).1
  | _ => .ok

/-- A call of `ISensorsEventCallback::postEvents`. -/
structure Post where
  events : List SensorEvent
  wakeup : Bool
  deriving DecidableEq, Repr

/-- The calls of `postEvents` a step makes. -/
def posted (m : SensorsSubHal) : Action → Option Post
  | .flush handle =>
      (m.find handle).bind fun e =>
        if e.flush.2 = [] then none else some ⟨e.flush.2, e.base.isWakeUpSensor⟩
  | .injectSensorData event =>
      (m.find event.sensorHandle).bind fun e =>
        if (e.base.injectEvent event).2 = [] then none
        else some ⟨(e.base.injectEvent event).2, e.base.isWakeUpSensor⟩
  | .sensor handle a =>
      (m.find handle).bind fun e =>
        if e.sensor.posted a = [] then none
        else some ⟨(e.sensor.posted a).map Event.toSensorEvent, e.base.isWakeUpSensor⟩
  | _ => none

/-! ## The map -/

variable {m m' : SensorsSubHal} {a : Action} {h : List (SensorsSubHal × Action)}
  {e : SubHalSensor} {handle k : Int32}

theorem find_put (m : SensorsSubHal) (handle k : Int32) (e : SubHalSensor) :
    (m.put handle e).find k = if k = handle then (m.find k).map fun _ => e else m.find k := by
  unfold find put
  induction m.mSensors with
  | nil => simp
  | cons p rest ih =>
      obtain ⟨key, old⟩ := p
      rw [List.map_cons]
      by_cases hkey : key = handle
      · rw [if_pos hkey]
        by_cases hk : k = handle
        · simp [hkey, hk]
        · have hne : (k == key) = false := by simpa [hkey] using hk
          simp only [List.lookup_cons, hne, ih]
      · rw [if_neg hkey]
        cases hk : k == key with
        | true =>
            have hk : k = key := by simpa using hk
            simp [hk, hkey]
        | false => simp only [List.lookup_cons, hk, ih]

theorem find_put_self (he : m.find handle = some e) (e' : SubHalSensor) :
    (m.put handle e').find handle = some e' := by
  rw [find_put, if_pos rfl, he, Option.map_some]

theorem find_put_ne (hk : k ≠ handle) (e' : SubHalSensor) :
    (m.put handle e').find k = m.find k := by
  rw [find_put, if_neg hk]

theorem mem_of_find (he : m.find handle = some e) : (handle, e) ∈ m.mSensors := by
  obtain ⟨l, l', heq, -⟩ := List.lookup_eq_some_iff.mp he
  rw [heq]
  simp

/-- What holds of every sensor and of the new one. -/
theorem forall_put {P : Int32 × SubHalSensor → Prop} (hall : ∀ p ∈ m.mSensors, P p)
    {e' : SubHalSensor} (hnew : P (handle, e')) : ∀ p ∈ (m.put handle e').mSensors, P p := by
  intro p hp
  obtain ⟨q, hq, rfl⟩ := List.mem_map.mp hp
  split
  · rename_i hkey
    rw [hkey]
    exact hnew
  · exact hall q hq

/-! ## What a step can do -/

/-- **Every step**, by what becomes of the sensors. -/
inductive StepCase (m : SensorsSubHal) : Action → SensorsSubHal → Prop where
  | initializeWith (halProxyCallback : Nat) :
      StepCase m (.initializeWith halProxyCallback) (m.initializeWith halProxyCallback)
  | enterMode (mode : OperationMode) : StepCase m (.setOperationMode mode) (m.enterMode mode)
  | finishMode {i : Nat} {c : ModeCall} (hc : m.modeCalls[i]? = some c) (htodo : c.todo = []) :
      StepCase m (.proceed i)
        { m with mCurrentOperationMode := c.mode, modeCalls := m.modeCalls.eraseIdx i }
  | setMode {i : Nat} {c : ModeCall} {handle : Int32} {todo : List Int32} {e : SubHalSensor}
      {s : UdfpsSensor} (hc : m.modeCalls[i]? = some c) (htodo : c.todo = handle :: todo)
      (hint : c.interrupts = false) (he : m.find handle = some e)
      (hs : UdfpsSensor.step e.sensor (.setOperationMode c.mode) = some s) :
      StepCase m (.proceed i)
        { m.put handle { e with sensor := s } with
          modeCalls := m.modeCalls.set i { c with interrupts := true } }
  | interrupt {i : Nat} {c : ModeCall} {handle : Int32} {todo : List Int32} {e : SubHalSensor}
      {s : UdfpsSensor} (hc : m.modeCalls[i]? = some c) (htodo : c.todo = handle :: todo)
      (hint : c.interrupts = true) (he : m.find handle = some e)
      (hs : UdfpsSensor.step e.sensor .interruptPoll = some s) :
      StepCase m (.proceed i)
        { m.put handle { e with sensor := s } with
          modeCalls := m.modeCalls.set i { c with todo := todo, interrupts := false } }
  | activate {handle : Int32} {enabled : Bool} {e : SubHalSensor} {s : UdfpsSensor}
      (he : m.find handle = some e)
      (hs : UdfpsSensor.step e.sensor (.activate enabled) = some s) :
      StepCase m (.activate handle enabled) (m.put handle { e with sensor := s })
  | batch {handle : Int32} (samplingPeriodNs : Int64) {e : SubHalSensor}
      (he : m.find handle = some e) :
      StepCase m (.batch handle samplingPeriodNs)
        (m.put handle (e.batch samplingPeriodNs.toInt32))
  | own {handle : Int32} {b : UdfpsSensor.Action} {e : SubHalSensor} {s : UdfpsSensor}
      (hown : ownStep b = true) (he : m.find handle = some e)
      (hs : UdfpsSensor.step e.sensor b = some s) :
      StepCase m (.sensor handle b) (m.put handle { e with sensor := s })
  | unknown {a : Action} (hbad : answer m a = .badValue) : StepCase m a m
  | flush (handle : Int32) : StepCase m (.flush handle) m
  | injectSensorData (event : SensorEvent) : StepCase m (.injectSensorData event) m

theorem stepSensor_eq_some {b : UdfpsSensor.Action} (hs : m.stepSensor handle b = some m') :
    ∃ e s, m.find handle = some e ∧ UdfpsSensor.step e.sensor b = some s ∧
      m' = m.put handle { e with sensor := s } := by
  rw [stepSensor, Option.bind_eq_some_iff] at hs
  obtain ⟨e, he, hs⟩ := hs
  rw [Option.map_eq_some_iff] at hs
  obtain ⟨s, hs, rfl⟩ := hs
  exact ⟨e, s, he, hs, rfl⟩

theorem proceed_cases {i : Nat} {c : ModeCall} (hc : m.modeCalls[i]? = some c)
    (hs : m.proceed i c = some m') : StepCase m (.proceed i) m' := by
  unfold proceed at hs
  split at hs
  · rename_i htodo
    cases hs
    exact .finishMode hc htodo
  · rename_i handle todo htodo hint
    rw [Option.map_eq_some_iff] at hs
    obtain ⟨m'', hm, rfl⟩ := hs
    obtain ⟨e, s, he, hs, rfl⟩ := stepSensor_eq_some hm
    exact .setMode hc htodo hint he hs
  · rename_i handle todo htodo hint
    rw [Option.map_eq_some_iff] at hs
    obtain ⟨m'', hm, rfl⟩ := hs
    obtain ⟨e, s, he, hs, rfl⟩ := stepSensor_eq_some hm
    exact .interrupt hc htodo hint he hs

theorem step_cases (hs : step m a = some m') : StepCase m a m' := by
  cases a with
  | initializeWith halProxyCallback =>
      cases hs
      exact .initializeWith halProxyCallback
  | setOperationMode mode =>
      cases hs
      exact .enterMode mode
  | proceed i =>
      simp only [step, Option.bind_eq_some_iff] at hs
      obtain ⟨c, hc, hs⟩ := hs
      exact proceed_cases hc hs
  | activate handle enabled =>
      simp only [step] at hs
      split at hs
      · rename_i hnone
        cases hs
        exact .unknown (by simp [answer, hnone])
      · obtain ⟨e, s, he, hstep, rfl⟩ := stepSensor_eq_some hs
        exact .activate he hstep
  | batch handle samplingPeriodNs =>
      simp only [step] at hs
      split at hs
      · rename_i hnone
        cases hs
        exact .unknown (by simp [answer, hnone])
      · rename_i e he
        cases hs
        exact .batch samplingPeriodNs he
  | flush handle =>
      cases hs
      exact .flush handle
  | injectSensorData event =>
      cases hs
      exact .injectSensorData event
  | sensor handle b =>
      simp only [step, Option.ite_none_right_eq_some] at hs
      obtain ⟨hown, hs⟩ := hs
      obtain ⟨e, s, he, hstep, rfl⟩ := stepSensor_eq_some hs
      exact .own hown he hstep

/-! ## What is posted -/

/-- Every sensor is found under its own handle. -/
def Listed (m : SensorsSubHal) : Prop := ∀ p ∈ m.mSensors, p.2.sensor.sensorHandle = p.1

theorem sensorHandle_step {s t : UdfpsSensor} {b : UdfpsSensor.Action}
    (hs : UdfpsSensor.step s b = some t) : t.sensorHandle = s.sensorHandle := by
  cases UdfpsSensor.step_cases hs with
  | _ => rfl

theorem Listed.put (hl : m.Listed) (he : m.find handle = some e) {e' : SubHalSensor}
    (heq : e'.sensor.sensorHandle = e.sensor.sensorHandle) : (m.put handle e').Listed :=
  forall_put hl (heq.trans (hl _ (mem_of_find he)))

theorem Listed.step (hl : m.Listed) (hs : step m a = some m') : m'.Listed := by
  cases step_cases hs with
  | initializeWith halProxyCallback => exact hl
  | enterMode mode => exact hl
  | finishMode hc htodo => exact hl
  | setMode hc htodo hint he hb => exact hl.put he (sensorHandle_step hb)
  | interrupt hc htodo hint he hb => exact hl.put he (sensorHandle_step hb)
  | activate he hb => exact hl.put he (sensorHandle_step hb)
  | batch p he => exact hl.put he rfl
  | own hown he hb => exact hl.put he (sensorHandle_step hb)
  | unknown hbad => exact hl
  | flush handle => exact hl
  | injectSensorData event => exact hl

/-- One event, of a sensor that `getSensorsList_2_1` reports and that calls
find under the handle of the event. -/
def Post.FromSensor (m : SensorsSubHal) (p : Post) : Prop :=
  ∃ event e, p.events = [event] ∧ m.find event.sensorHandle = some e ∧
    e.getSensorInfo ∈ m.getSensorsList ∧ event.sensorHandle = e.getSensorInfo.sensorHandle ∧
    event.sensorType = e.getSensorInfo.type

theorem isWakeUpSensor_base (e : SubHalSensor) : e.base.isWakeUpSensor = true := by
  show decide ((flagOneShotMode ||| flagWakeUp) &&& flagWakeUp ≠ 0) = true
  decide

/-- The UDFPS sensor takes no injected events. -/
theorem injectEvent_base (e : SubHalSensor) (event : SensorEvent) :
    (e.base.injectEvent event).2 = [] := by
  have hno : e.base.supportsDataInjection = false := by
    show decide ((flagOneShotMode ||| flagWakeUp) &&& flagDataInjection ≠ 0) = false
    decide
  unfold Sensor.injectEvent
  rw [hno]
  split <;> rfl

theorem posts_of_posted {s : UdfpsSensor} {b : UdfpsSensor.Action} (h : s.posted b ≠ []) :
    UdfpsSensor.posts (s, b) = true := by
  rw [UdfpsSensor.posts, Bool.not_eq_true', List.isEmpty_eq_false_iff]
  exact h

/-- **Only a run thread posts**: a flush is refused, and so is an injected
event. -/
theorem posted_cases {p : Post} (hp : m.posted a = some p) :
    ∃ handle b e io now, a = .sensor handle b ∧ m.find handle = some e ∧
      UdfpsSensor.posts (e.sensor, b) = true ∧
      p = ⟨((e.sensor.readNode true io).readEvents now).map Event.toSensorEvent, true⟩ := by
  cases a with
  | flush handle =>
      simp only [posted, SubHalSensor.flush, if_true, Option.bind_fun_none] at hp
      cases hp
  | injectSensorData event =>
      simp only [posted, injectEvent_base, if_true, Option.bind_fun_none] at hp
      cases hp
  | sensor handle b =>
      simp only [posted, Option.bind_eq_some_iff, Option.ite_none_left_eq_some] at hp
      obtain ⟨e, he, hne, hp⟩ := hp
      cases hp
      have hposts := posts_of_posted hne
      obtain ⟨io, now, pipe, -, -, -, -, heq⟩ := UdfpsSensor.posts_cases hposts
      exact ⟨handle, b, e, io, now, rfl, he, hposts, by rw [heq, isWakeUpSensor_base]⟩
  | _ => cases hp

theorem getSensorInfo_mem (he : m.find handle = some e) :
    e.getSensorInfo ∈ m.getSensorsList :=
  List.mem_map.mpr ⟨(handle, e), mem_of_find he, rfl⟩

theorem Listed.posted (hl : m.Listed) {p : Post} (hp : m.posted a = some p) :
    (∃ handle b, a = .sensor handle b) ∧ p.wakeup = true ∧ p.FromSensor m := by
  obtain ⟨handle, b, e, io, now, rfl, he, -, rfl⟩ := posted_cases hp
  have hown : e.sensor.sensorHandle = handle := hl _ (mem_of_find he)
  refine ⟨⟨handle, b, rfl⟩, rfl, _, e, rfl, ?_, getSensorInfo_mem he, ?_, rfl⟩
  · simpa [Event.toSensorEvent, UdfpsSensor.readNode, hown] using he
  · simp [Event.toSensorEvent, UdfpsSensor.readNode, SubHalSensor.getSensorInfo]

/-! ## No post without a callback -/

/-- No sensor can post anything before an activation. -/
def Quiet (m : SensorsSubHal) : Prop := ∀ p ∈ m.mSensors, p.2.sensor.quiet = true

def isInitialize (x : SensorsSubHal × Action) : Bool :=
  match x.2 with
  | .initializeWith _ => true
  | _ => false

/-- The call `activate(handle, true)`. -/
def activates (handle : Int32) (x : SensorsSubHal × Action) : Bool :=
  match x.2 with
  | .activate k true => k = handle
  | _ => false

def activatesAny (x : SensorsSubHal × Action) : Bool :=
  match x.2 with
  | .activate _ true => true
  | _ => false

theorem Quiet.own (hq : m.Quiet) (he : m.find handle = some e) {s : UdfpsSensor}
    {b : UdfpsSensor.Action} (hb : UdfpsSensor.enables (e.sensor, b) = false)
    (hs : UdfpsSensor.step e.sensor b = some s) : (m.put handle { e with sensor := s }).Quiet :=
  forall_put hq (UdfpsSensor.quiet_step (hq _ (mem_of_find he)) hb hs)

theorem enables_of_ownStep {s : UdfpsSensor} {b : UdfpsSensor.Action} (hown : ownStep b = true) :
    UdfpsSensor.enables (s, b) = false := by
  cases b with
  | activate enable => cases hown
  | _ => rfl

theorem Quiet.step (hq : m.Quiet) (ha : activatesAny (m, a) = false)
    (hs : step m a = some m') : m'.Quiet := by
  cases step_cases hs with
  | initializeWith halProxyCallback => exact hq
  | enterMode mode => exact hq
  | finishMode hc htodo => exact hq
  | setMode hc htodo hint he hb => exact hq.own he rfl hb
  | interrupt hc htodo hint he hb => exact hq.own he rfl hb
  | @activate handle enabled e s he hb =>
      cases enabled with
      | false => exact hq.own he rfl hb
      | true => cases ha
  | batch p he => exact forall_put hq (hq _ (mem_of_find he))
  | own hown he hb => exact hq.own he (enables_of_ownStep hown) hb
  | unknown hbad => exact hq
  | flush handle => exact hq
  | injectSensorData event => exact hq

theorem mCallback_step (hs : step m a = some m')
    (hset : m.mCallback ≠ none ∨ isInitialize (m, a) = true) : m'.mCallback ≠ none := by
  cases step_cases hs with
  | initializeWith halProxyCallback => exact Option.some_ne_none _
  | enterMode mode => exact hset.resolve_right (by simp [isInitialize])
  | finishMode hc htodo => exact hset.resolve_right (by simp [isInitialize])
  | setMode hc htodo hint he hb => exact hset.resolve_right (by simp [isInitialize])
  | interrupt hc htodo hint he hb => exact hset.resolve_right (by simp [isInitialize])
  | activate he hb => exact hset.resolve_right (by simp [isInitialize])
  | batch p he => exact hset.resolve_right (by simp [isInitialize])
  | own hown he hb => exact hset.resolve_right (by simp [isInitialize])
  | unknown hbad =>
      rcases hset with hset | hinit
      · exact hset
      · cases a with
        | initializeWith halProxyCallback => cases hbad
        | _ => cases hinit
  | flush handle => exact hset.resolve_right (by simp [isInitialize])
  | injectSensorData event => exact hset.resolve_right (by simp [isInitialize])

/-- `initialize` comes before the first `activate` that enables. -/
def initializedFirst (h : List (SensorsSubHal × Action)) : Prop :=
  ∀ x ∈ h.takeWhile fun x => !isInitialize x, activatesAny x = false

/-- Without a callback all sensors are quiet. -/
def Armed (m : SensorsSubHal) : Prop := m.mCallback = none → m.Quiet

theorem Armed.step (hi : m.Armed) (hok : activatesAny (m, a) = true → m.mCallback ≠ none)
    (hs : step m a = some m') : m'.Armed := by
  intro hnone
  have hold : m.mCallback = none := by
    by_contra hset
    exact mCallback_step hs (.inl hset) hnone
  apply (hi hold).step _ hs
  cases ha : activatesAny (m, a) with
  | false => rfl
  | true => exact absurd hold (hok ha)

theorem Armed.posted (hi : m.Armed) {p : Post} (hp : m.posted a = some p) :
    m.mCallback ≠ none := by
  intro hnone
  have hq := hi hnone
  obtain ⟨handle, b, e, io, now, -, he, hposts, -⟩ := posted_cases hp
  have hquiet := hq _ (mem_of_find he)
  rw [UdfpsSensor.posts_not_quiet hposts] at hquiet
  cases hquiet

/-! ## One activation for each event -/

/-- The run thread of the sensor at `handle` posts. -/
def runPosts (handle : Int32) (x : SensorsSubHal × Action) : Bool :=
  match x.2 with
  | .sensor k b => k = handle && (x.1.find k).any fun e => UdfpsSensor.posts (e.sensor, b)
  | _ => false

/-- The step posts an event of `handle`. -/
def postsEvent (handle : Int32) (x : SensorsSubHal × Action) : Bool :=
  (posted x.1 x.2).any fun p => p.events.any fun event => event.sensorHandle = handle

/-- An event of `handle` is posted by the run thread of its sensor. -/
theorem runPosts_of_postsEvent (hl : m.Listed) {handle : Int32}
    (hpost : postsEvent handle (m, a) = true) : runPosts handle (m, a) = true := by
  obtain ⟨p, hp, hevents⟩ : ∃ p, posted m a = some p ∧
      (p.events.any fun event => event.sensorHandle = handle) = true := by
    cases hposted : posted m a with
    | none => simp [postsEvent, hposted] at hpost
    | some p => exact ⟨p, rfl, by simpa [postsEvent, hposted] using hpost⟩
  obtain ⟨k, b, e, io, now, rfl, he, hposts, rfl⟩ := posted_cases hp
  have hown : e.sensor.sensorHandle = k := hl _ (mem_of_find he)
  have hk : k = handle := by
    simpa [UdfpsSensor.readEvents, Event.toSensorEvent, UdfpsSensor.readNode, hown] using hevents
  subst hk
  simp [runPosts, he, hposts]

/-- The credit of the sensor at `handle`. -/
def credit (handle : Int32) (m : SensorsSubHal) : Nat :=
  match m.find handle with
  | none => 0
  | some e => e.sensor.credit

theorem credit_of_find (he : m.find handle = some e) : m.credit handle = e.sensor.credit := by
  rw [credit, he]

/-- A step of the sensor at `k`, seen from `handle`. -/
theorem credit_put (handle : Int32) (he : m.find k = some e) {s : UdfpsSensor}
    {b : UdfpsSensor.Action} (hs : UdfpsSensor.step e.sensor b = some s) (calls : List ModeCall) :
    (k = handle && UdfpsSensor.posts (e.sensor, b)).toNat +
        credit handle { m.put k { e with sensor := s } with modeCalls := calls } ≤
      m.credit handle + (k = handle && UdfpsSensor.enables (e.sensor, b)).toNat := by
  by_cases hk : k = handle
  · subst hk
    have hnew : credit k { m.put k { e with sensor := s } with modeCalls := calls } =
        s.credit := credit_of_find (find_put_self he _)
    rw [hnew, credit_of_find he]
    simpa using UdfpsSensor.credit_step hs
  · have hsame : credit handle { m.put k { e with sensor := s } with modeCalls := calls } =
        m.credit handle := by
      show credit handle (m.put k _) = _
      rw [credit, find_put_ne (Ne.symm hk), ← credit]
    simp [hk, hsame]

/-- A step that neither posts nor enables. -/
theorem credit_put_le (handle : Int32) (he : m.find k = some e) {s : UdfpsSensor}
    {b : UdfpsSensor.Action} (hs : UdfpsSensor.step e.sensor b = some s)
    (hpost : UdfpsSensor.posts (e.sensor, b) = false)
    (hen : UdfpsSensor.enables (e.sensor, b) = false) (calls : List ModeCall) :
    credit handle { m.put k { e with sensor := s } with modeCalls := calls } ≤
      m.credit handle := by
  have hle := credit_put handle he hs calls
  rw [hpost, hen, Bool.and_false, Bool.toNat_false] at hle
  omega

theorem credit_batch (handle : Int32) (he : m.find k = some e) (p : Int32) :
    (m.put k (e.batch p)).credit handle = m.credit handle := by
  by_cases hk : handle = k
  · subst hk
    rw [credit_of_find (find_put_self he _), credit_of_find he]
    rfl
  · rw [credit, find_put_ne hk, ← credit]

theorem credit_step (handle : Int32) (hs : step m a = some m') :
    (runPosts handle (m, a)).toNat + m'.credit handle ≤
      m.credit handle + (activates handle (m, a)).toNat := by
  cases step_cases hs with
  | initializeWith halProxyCallback => exact Nat.le_of_eq (Nat.zero_add _)
  | enterMode mode => exact Nat.le_of_eq (Nat.zero_add _)
  | finishMode hc htodo => exact Nat.le_of_eq (Nat.zero_add _)
  | setMode hc htodo hint he hb =>
      rw [runPosts, activates, Bool.toNat_false, zero_add, add_zero]
      exact credit_put_le handle he hb rfl rfl _
  | interrupt hc htodo hint he hb =>
      rw [runPosts, activates, Bool.toNat_false, zero_add, add_zero]
      exact credit_put_le handle he hb rfl rfl _
  | @activate k enabled e s he hb =>
      have hle := credit_put handle he hb m.modeCalls
      have hpays : (k = handle && UdfpsSensor.enables (e.sensor, .activate enabled)).toNat ≤
          (activates handle (m, .activate k enabled)).toNat := by
        cases enabled with
        | false => simp [UdfpsSensor.enables]
        | true =>
            by_cases hk : k = handle
            · simp [activates, hk, Bool.toNat_le]
            · simp [hk]
      have hnone : UdfpsSensor.posts (e.sensor, .activate enabled) = false := rfl
      rw [hnone, Bool.and_false] at hle
      exact hle.trans (Nat.add_le_add_left hpays _)
  | batch p he =>
      rw [runPosts, activates, Bool.toNat_false, zero_add, add_zero]
      exact (credit_batch handle he _).le
  | @own k b e s hown he hb =>
      have hle := credit_put handle he hb m.modeCalls
      rw [enables_of_ownStep hown, Bool.and_false] at hle
      have hposts : runPosts handle (m, .sensor k b) =
          (k = handle && UdfpsSensor.posts (e.sensor, b)) := by
        simp [runPosts, he]
      rw [hposts]
      exact hle
  | unknown hbad =>
      cases a with
      | activate k enabled => simp [runPosts]
      | batch k p => simp [runPosts]
      | flush k => simp [runPosts]
      | injectSensorData event => simp [runPosts]
      | _ => cases hbad
  | flush k => exact Nat.le_of_eq (Nat.zero_add _)
  | injectSensorData event => exact Nat.le_of_eq (Nat.zero_add _)

/-! ## Whole runs -/

variable {mScreenX mScreenY : Int32}

theorem listed_construct : (construct mScreenX mScreenY).Listed := by
  intro p hp
  cases List.mem_singleton.mp hp
  rfl

theorem credit_construct (handle : Int32) :
    (construct mScreenX mScreenY).credit handle = 0 := by
  cases he : (construct mScreenX mScreenY).find handle with
  | none => rw [credit, he]
  | some e =>
      rw [credit_of_find he]
      cases List.mem_singleton.mp (mem_of_find he)
      rfl

theorem armed_construct : (construct mScreenX mScreenY).Armed := by
  intro _ p hp
  cases List.mem_singleton.mp hp
  rfl

/-- **What reaches the HAL proxy.** In every interleaving of client calls
with the statements of `setOperationMode`, the run threads and their nodes:
of each sensor at most one event is posted for each `activate(handle,
true)`; every call of `postEvents` is made by a run thread, never for a
flush or an injected event, carries one event, of a sensor that
`getSensorsList_2_1` reports, and asks for a wake lock; and when no
activation comes before the first `initialize`, there is a callback to
take it. -/
theorem posts_reach_proxy (mScreenX mScreenY : Int32) (h : List (SensorsSubHal × Action))
    (m : SensorsSubHal) (hp : Path step (construct mScreenX mScreenY) h m) :
    (∀ handle, h.countP (postsEvent handle) ≤ h.countP (activates handle)) ∧
    (∀ x ∈ h, ∀ p, posted x.1 x.2 = some p →
      (∃ handle b, x.2 = .sensor handle b) ∧ p.wakeup = true ∧ p.FromSensor x.1) ∧
    (initializedFirst h → ∀ x ∈ h, ∀ p, posted x.1 x.2 = some p → x.1.mCallback ≠ none) := by
  have halong := hp.inv_along Listed (fun _ _ => True) (fun _ _ _ hi _ hs => hi.step hs)
    listed_construct fun _ _ => trivial
  refine ⟨?_, ?_, ?_⟩
  · intro handle
    have hcount := hp.countP_le fun _ _ _ hs => credit_step handle hs
    have hstart : (construct mScreenX mScreenY).credit handle = 0 := credit_construct handle
    have hmono : h.countP (postsEvent handle) ≤ h.countP (runPosts handle) :=
      List.countP_mono_left fun x hx hpost => runPosts_of_postsEvent (halong x hx) hpost
    omega
  · intro x hx p hpost
    exact (halong x hx).posted hpost
  · intro hfirst
    have hapart : ∀ x, activatesAny x = true → isInitialize x = false := by
      rintro ⟨m, a⟩ ha
      cases a with
      | initializeWith halProxyCallback => cases ha
      | _ => rfl
    have hset := Path.after_first (P := fun m => m.mCallback ≠ none)
      (fun _ _ _ hm hs => mCallback_step hs (.inr hm))
      (fun _ _ _ hP hs => mCallback_step hs (.inl hP)) hapart hp hfirst
    have halong := hp.inv_along Armed (fun m a => activatesAny (m, a) = true → m.mCallback ≠ none)
      (fun _ _ _ hi hok hs => hi.step hok hs) armed_construct fun x hx ha => hset x hx ha
    intro x hx p hpost
    exact (halong x hx).posted hpost

/-- The proxy comes, the sensor is switched on, flushed in vain and reports a
press; then the same again. -/
def pressTwice : List Action :=
  [.sensor 1 .begin, .sensor 1 .loop, .initializeWith 7, .proceed 0, .activate 1 true,
    .sensor 1 (.wake false), .sensor 1 .loop, .sensor 1 .pollReturn,
    .sensor 1 (.relock UdfpsSensor.pressAt 1), .proceed 0, .proceed 0, .flush 1,
    .sensor 1 .loop, .sensor 1 .notifyFpState, .sensor 1 .pollReturn,
    .sensor 1 (.relock UdfpsSensor.pressAt 2), .sensor 1 .loop, .activate 1 true, .flush 1,
    .sensor 1 (.wake false), .sensor 1 .loop, .sensor 1 .pollReturn,
    .sensor 1 (.relock UdfpsSensor.pressAt 3), .sensor 1 .loop, .sensor 1 .notifyFpState,
    .sensor 1 .pollReturn, .sensor 1 (.relock UdfpsSensor.pressAt 4)]

theorem posts_reach_proxy_press :
    ∃ r ∈ follow step (construct 0 0) pressTwice,
      r.1.countP (fun x => (posted x.1 x.2).isSome) = 2 ∧
      r.1.countP (postsEvent 1) ≤ r.1.countP (activates 1) ∧
      ∀ x ∈ r.1, ∀ p, posted x.1 x.2 = some p → x.1.mCallback ≠ none := by
  have hrun : ∃ r ∈ follow step (construct 0 0) pressTwice,
      r.1.countP (fun x => (posted x.1 x.2).isSome) = 2 ∧
      ∀ x ∈ r.1.takeWhile fun x => !isInitialize x, activatesAny x = false := by
    decide +kernel
  obtain ⟨r, hr, htwo, hfirst⟩ := hrun
  have hlaw := posts_reach_proxy 0 0 r.1 r.2 (path_of_follow hr)
  exact ⟨r, hr, htwo, hlaw.1 1, hlaw.2.2 hfirst⟩

/-! ## One operation mode -/

/-- The mode a step asks for. -/
def requested (x : SensorsSubHal × Action) : Option OperationMode :=
  match x.2 with
  | .initializeWith _ => some .normal
  | .setOperationMode mode => some mode
  | _ => none

def lastRequested (h : List (SensorsSubHal × Action)) : OperationMode :=
  (h.filterMap requested).getLastD .normal

theorem lastRequested_snoc (h : List (SensorsSubHal × Action))
    (x : SensorsSubHal × Action) :
    lastRequested (h ++ [x]) = (requested x).getD (lastRequested h) :=
  getLastD_filterMap_snoc requested h x .normal

/-- All sensors are in `mode`, up to those in `pending`. -/
def InMode (m : SensorsSubHal) (mode : OperationMode) (pending : List Int32) : Prop :=
  ∀ p ∈ m.mSensors, p.2.sensor.mMode = mode ∨ p.1 ∈ pending

/-- Where the modes stand after a run that asked for `last`. -/
inductive ModesAt (last : OperationMode) (m : SensorsSubHal) : Prop where
  | settled (hcalls : m.modeCalls = []) (hcur : m.mCurrentOperationMode = last)
      (hmodes : m.InMode last []) : ModesAt last m
  | under (c : ModeCall) (hcalls : m.modeCalls = [c]) (hlast : c.mode = last)
      (hmodes : m.InMode last c.pending) : ModesAt last m

variable {last : OperationMode} {pending : List Int32}

theorem mMode_step {s t : UdfpsSensor} {b : UdfpsSensor.Action}
    (hb : ∀ mode, b ≠ .setOperationMode mode) (hs : UdfpsSensor.step s b = some t) :
    t.mMode = s.mMode := by
  cases UdfpsSensor.step_cases hs with
  | modeSame hfree hm => exact absurd rfl (hb _)
  | modeChange hfree hm => exact absurd rfl (hb _)
  | _ => rfl

theorem mMode_set {s t : UdfpsSensor} {mode : OperationMode}
    (hs : UdfpsSensor.step s (.setOperationMode mode) = some t) : t.mMode = mode := by
  cases UdfpsSensor.step_cases hs with
  | modeSame hfree hm => exact hm
  | modeChange hfree hm => rfl

/-- A step of a sensor that leaves its mode alone. -/
theorem InMode.put (hi : m.InMode last pending) (he : m.find handle = some e)
    {e' : SubHalSensor} (heq : e'.sensor.mMode = e.sensor.mMode) :
    (m.put handle e').InMode last pending := by
  apply forall_put hi
  rw [heq]
  exact hi _ (mem_of_find he)

theorem InMode.set {todo : List Int32} (hi : m.InMode last (handle :: todo))
    {e' : SubHalSensor} (heq : e'.sensor.mMode = last) : (m.put handle e').InMode last todo := by
  intro p hp
  obtain ⟨q, hq, rfl⟩ := List.mem_map.mp hp
  by_cases hkey : q.1 = handle
  · rw [if_pos hkey]
    exact .inl heq
  · rw [if_neg hkey]
    rcases hi q hq with hmode | hmem
    · exact .inl hmode
    · exact .inr ((List.mem_cons.mp hmem).resolve_left hkey)

theorem ModesAt.congr (hi : ModesAt last m) (hcalls : m'.modeCalls = m.modeCalls)
    (hcur : m'.mCurrentOperationMode = m.mCurrentOperationMode)
    (hmodes : ∀ pending, m.InMode last pending → m'.InMode last pending) :
    ModesAt last m' := by
  cases hi with
  | settled hc hm hall => exact .settled (hcalls.trans hc) (hcur.trans hm) (hmodes _ hall)
  | under c hc hlast hall => exact .under c (hcalls.trans hc) hlast (hmodes _ hall)

/-- A call starts where none is under way. -/
theorem modesAt_enterMode (mode : OperationMode) (hcalls : m.modeCalls = []) :
    ModesAt mode (m.enterMode mode) := by
  apply ModesAt.under ⟨mode, m.mSensors.map Prod.fst, false⟩
  · rw [enterMode, hcalls]
    rfl
  · rfl
  · intro p hp
    exact .inr (List.mem_map_of_mem hp)

/-- The one call under way. -/
theorem ModesAt.call (hi : ModesAt last m) {i : Nat} {c : ModeCall}
    (hc : m.modeCalls[i]? = some c) :
    i = 0 ∧ m.modeCalls = [c] ∧ c.mode = last ∧ m.InMode last c.pending := by
  cases hi with
  | settled hcalls hcur hmodes => simp [hcalls] at hc
  | under c' hcalls hlast hmodes =>
      rw [hcalls] at hc
      cases i with
      | zero =>
          cases hc
          exact ⟨rfl, hcalls, hlast, hmodes⟩
      | succ i => simp at hc

/-- The step starts a call where none is under way. -/
def serial (m : SensorsSubHal) (a : Action) : Prop :=
  requested (m, a) ≠ none → m.modeCalls = []

theorem ModesAt.step (hi : ModesAt last m) (hok : serial m a) (hs : step m a = some m') :
    ModesAt ((requested (m, a)).getD last) m' := by
  cases step_cases hs with
  | initializeWith halProxyCallback =>
      have hcalls : m.modeCalls = [] := hok (by simp [requested])
      exact modesAt_enterMode (m := { m with mCallback := some halProxyCallback }) .normal hcalls
  | enterMode mode => exact modesAt_enterMode mode (hok (by simp [requested]))
  | @finishMode i c hc htodo =>
      obtain ⟨rfl, hcalls, hlast, hmodes⟩ := hi.call hc
      apply ModesAt.settled
      · simp [hcalls]
      · exact hlast
      · have hnone : c.pending = [] := by simp [ModeCall.pending, htodo]
        rw [hnone] at hmodes
        exact hmodes
  | @setMode i c handle todo e s hc htodo hint he hb =>
      obtain ⟨rfl, hcalls, hlast, hmodes⟩ := hi.call hc
      apply ModesAt.under { c with interrupts := true }
      · simp [hcalls]
      · exact hlast
      · have hpend : c.pending = handle :: todo := by simp [ModeCall.pending, htodo, hint]
        have hnext : ({ c with interrupts := true } : ModeCall).pending = todo := by
          simp [ModeCall.pending, htodo]
        rw [hpend] at hmodes
        rw [hnext]
        exact hmodes.set ((mMode_set hb).trans hlast)
  | @interrupt i c handle todo e s hc htodo hint he hb =>
      obtain ⟨rfl, hcalls, hlast, hmodes⟩ := hi.call hc
      apply ModesAt.under { c with todo := todo, interrupts := false }
      · simp [hcalls]
      · exact hlast
      · have hpend : c.pending = todo := by simp [ModeCall.pending, htodo, hint]
        rw [hpend] at hmodes
        exact hmodes.put he (mMode_step (by simp) hb)
  | activate he hb =>
      exact hi.congr rfl rfl fun _ hmodes => hmodes.put he (mMode_step (by simp) hb)
  | batch p he => exact hi.congr rfl rfl fun _ hmodes => hmodes.put he rfl
  | @own handle b e s hown he hb =>
      have hother : ∀ mode, b ≠ UdfpsSensor.Action.setOperationMode mode := by
        rintro mode rfl
        cases hown
      exact hi.congr rfl rfl fun _ hmodes => hmodes.put he (mMode_step hother hb)
  | unknown hbad =>
      cases a with
      | initializeWith halProxyCallback => cases hbad
      | setOperationMode mode => cases hbad
      | _ => exact hi
  | flush handle => exact hi
  | injectSensorData event => exact hi

/-- **One mode for all.** In every interleaving in which no two calls of
`setOperationMode` and `initialize` overlap: when the last of them is over,
the mode it asked for is the one `getOperationMode` reports and the one
every sensor is in. -/
theorem modes_agree (mScreenX mScreenY : Int32) (h : List (SensorsSubHal × Action))
    (m : SensorsSubHal) (hp : Path step (construct mScreenX mScreenY) h m)
    (hserial : ∀ x ∈ h, serial x.1 x.2) (hdone : m.modeCalls = []) :
    m.mCurrentOperationMode = lastRequested h ∧
      ∀ p ∈ m.mSensors, p.2.sensor.mMode = m.mCurrentOperationMode := by
  have hat : ModesAt (lastRequested h) m := by
    apply hp.history_inv (fun h m => ModesAt (lastRequested h) m) serial
    · intro h t a u hi hok hs
      rw [lastRequested_snoc]
      exact hi.step hok hs
    · refine .settled rfl rfl fun p hp => ?_
      cases List.mem_singleton.mp hp
      exact .inl rfl
    · exact hserial
  cases hat with
  | settled hcalls hcur hmodes =>
      refine ⟨hcur, ?_⟩
      intro p hp
      rw [hcur]
      exact (hmodes p hp).resolve_right (List.not_mem_nil)
  | under c hcalls hlast hmodes =>
      rw [hcalls] at hdone
      cases hdone

theorem modes_agree_injection :
    ∃ r ∈ follow step (construct 0 0)
        [.setOperationMode .dataInjection, .proceed 0, .activate 1 true, .proceed 0, .proceed 0],
      r.2.mCurrentOperationMode = .dataInjection ∧
      ∀ p ∈ r.2.mSensors, p.2.sensor.mMode = r.2.mCurrentOperationMode := by
  have hrun : ∃ r ∈ follow step (construct 0 0)
      [.setOperationMode .dataInjection, .proceed 0, .activate 1 true, .proceed 0, .proceed 0],
      lastRequested r.1 = .dataInjection ∧ r.2.modeCalls = [] ∧
      ∀ x ∈ r.1, requested x ≠ none → x.1.modeCalls = [] := by
    decide +kernel
  obtain ⟨r, hr, hlast, hdone, hserial⟩ := hrun
  have hlaw := modes_agree 0 0 r.1 r.2 (path_of_follow hr) hserial hdone
  exact ⟨r, hr, hlaw.1.trans hlast, hlaw.2⟩

/-- Two calls that overlap leave the sensor in one mode and
`getOperationMode` in the other. -/
example : ∃ r ∈ follow step (construct 0 0)
    [.setOperationMode .dataInjection, .setOperationMode .normal, .proceed 1, .proceed 0,
      .proceed 1, .proceed 0, .proceed 0, .proceed 0],
    r.2.modeCalls = [] ∧ r.2.mCurrentOperationMode = .normal ∧
      ∀ p ∈ r.2.mSensors, p.2.sensor.mMode = .dataInjection := by
  decide +kernel

end SensorsSubHal

end OplusHardware.Udfps
