import OplusHardware.Base.Path
import OplusHardware.Udfps.FpState

/-!
# Udfps — UdfpsSensor

The run thread, the client calls and the `fp_state` node, one step at a
time. `mRunMutex` is held from one step of the run thread to the next only
at the head of its loop (`Pc.head`); a client call that takes the mutex is
a step of its own, possible wherever the run thread does not hold it.
-/

namespace OplusHardware.Udfps

inductive OperationMode where
  | normal
  | dataInjection
  deriving DecidableEq, Repr

/-- A posted event. The source converts the two integers to `float` when
it stores them. -/
structure Event where
  sensorHandle : Int32
  sensorType : Int32
  timestamp : Int
  data0 : Int32
  data1 : Int32
  deriving DecidableEq, Repr

/-- `SensorType::DEVICE_PRIVATE_BASE + 1`. -/
def udfpsSensorType : Int32 := 0x10000 + 1

/-- What `poll` answered: a failure, or whether the `revents` of the pipe
and of the node equal their `events`. -/
inductive Polled where
  | failed
  | ready (pipe fp : Bool)
  deriving DecidableEq, Repr

/-- Where the run thread is. -/
inductive Pc where
  /-- Not yet at its first lock. -/
  | starting
  /-- At the head of the loop, with the mutex. -/
  | head
  /-- In `mWaitCV.wait`, without the mutex. -/
  | waiting
  /-- In `poll`, without the mutex. -/
  | polling
  /-- Back from `poll`, not yet holding the mutex again. -/
  | polled (r : Polled)
  | finished
  deriving DecidableEq, Repr

structure UdfpsSensor where
  sensorHandle : Int32
  mIsEnabled : Bool
  mMode : OperationMode
  mStopThread : Bool
  mScreenX : Int32
  mScreenY : Int32
  /-- Unread bytes of `mWaitPipeFd`. -/
  waitPipe : Nat
  /-- `fp_state` has notified since it was last read. -/
  fpPending : Bool
  /-- The run thread's own flag. -/
  reportEvent : Bool
  /-- `notify_all` was called since the run thread went to sleep. -/
  notified : Bool
  /-- Calls of `setOperationMode` between releasing the mutex and writing
  to the pipe. -/
  modeCalls : Nat
  pc : Pc
  deriving DecidableEq, Repr

namespace UdfpsSensor

/-! ## Functions of the source -/

/-- `UdfpsSensor::UdfpsSensor` with the pipe and the node open. -/
def construct (sensorHandle mScreenX mScreenY : Int32) : UdfpsSensor where
  sensorHandle := sensorHandle
  mIsEnabled := false
  mMode := .normal
  mStopThread := false
  mScreenX := mScreenX
  mScreenY := mScreenY
  waitPipe := 0
  fpPending := false
  reportEvent := false
  notified := false
  modeCalls := 0
  pc := .starting

def interruptPoll (s : UdfpsSensor) : UdfpsSensor :=
  { s with waitPipe := s.waitPipe + 1 }

def notifyAll (s : UdfpsSensor) : UdfpsSensor := { s with notified := true }

/-- `UdfpsSensor::activate`. -/
def activate (s : UdfpsSensor) (enable : Bool) : UdfpsSensor :=
  if s.mIsEnabled ≠ enable then
    ({ s with mIsEnabled := enable }.interruptPoll).notifyAll
  else s

/-- `Sensor::setOperationMode`, the part of
`UdfpsSensor::setOperationMode` under the mutex. -/
def setOperationMode (s : UdfpsSensor) (mode : OperationMode) : UdfpsSensor :=
  if s.mMode ≠ mode then { s with mMode := mode }.notifyAll else s

/-- `UdfpsSensor::readEvents`. -/
def readEvents (s : UdfpsSensor) (now : Int) : List Event :=
  [⟨s.sensorHandle, udfpsSensorType, now, s.mScreenX, s.mScreenY⟩]

/-- Enabled, and not in data injection. -/
def on (s : UdfpsSensor) : Bool := s.mIsEnabled && s.mMode = .normal

/-- `mWaitCV.wait` with its predicate, on entry and after each wake-up. -/
def wait (s : UdfpsSensor) : UdfpsSensor :=
  if s.on || s.mStopThread then { s with pc := .head }
  else { s with pc := .waiting, notified := false }

/-- The loop of `run` up to where it releases the mutex. -/
def loop (s : UdfpsSensor) : UdfpsSensor :=
  if s.mStopThread then { s with pc := .finished }
  else if !s.mIsEnabled || s.mMode = .dataInjection then
    { s with reportEvent := false }.wait
  else { s with pc := .polling }

/-- `readFpState(mPollFd, mScreenX, mScreenY)`, made where the node is
ready. Reading the node clears its notification. -/
def readNode (s : UdfpsSensor) (fp : Bool) (io : NodeIo) : UdfpsSensor :=
  if fp then
    let r := readFpState io s.mScreenX s.mScreenY
    { s with mScreenX := r.screenX, mScreenY := r.screenY, fpPending := false }
  else s

/-- The condition under which `run` posts an event. -/
def fires (s : UdfpsSensor) (fp : Bool) (io : NodeIo) : Bool :=
  fp && (readFpState io s.mScreenX s.mScreenY).pressed && s.reportEvent

/-- `run` from where it has the mutex back after `poll` to the end of the
iteration. -/
def afterPoll (s : UdfpsSensor) (r : Polled) (io : NodeIo) : UdfpsSensor :=
  match r with
  | .failed => { s with mStopThread := true, pc := .head }
  | .ready pipe fp =>
      let t := s.readNode fp io
      if s.fires fp io then { t with mIsEnabled := false, reportEvent := true, pc := .head }
      else
        { t with
          waitPipe := if pipe then t.waitPipe - 1 else t.waitPipe
          reportEvent := true
          pc := .head }

/-! ## The machine -/

inductive Action where
  | activate (enable : Bool)
  | setOperationMode (mode : OperationMode)
  /-- The pipe write that ends a `setOperationMode`. -/
  | interruptPoll
  /-- `fp_state` raises a notification. -/
  | notifyFpState
  /-- The run thread takes the mutex for the first time. -/
  | begin
  | loop
  /-- The run thread wakes up in `mWaitCV.wait`. -/
  | wake (spurious : Bool)
  | pollReturn
  | pollFail
  /-- The run thread takes the mutex after `poll` and ends the
  iteration. -/
  | relock (io : NodeIo) (now : Int)

def lockFree (s : UdfpsSensor) : Bool := s.pc ≠ .head

def step (s : UdfpsSensor) : Action → Option UdfpsSensor
  | .activate enable => if s.lockFree then some (s.activate enable) else none
  | .setOperationMode mode =>
      if s.lockFree then some { s.setOperationMode mode with modeCalls := s.modeCalls + 1 }
      else none
  | .interruptPoll =>
      if 0 < s.modeCalls then some { s.interruptPoll with modeCalls := s.modeCalls - 1 }
      else none
  | .notifyFpState => some { s with fpPending := true }
  | .begin => if s.pc = .starting then some { s with pc := .head } else none
  | .loop => if s.pc = .head then some s.loop else none
  | .wake spurious =>
      if s.pc = .waiting ∧ (spurious || s.notified) then some s.wait else none
  | .pollReturn =>
      if s.pc = .polling ∧ (0 < s.waitPipe ∨ s.fpPending) then
        some { s with pc := .polled (.ready (0 < s.waitPipe) s.fpPending) }
      else none
  | .pollFail => if s.pc = .polling then some { s with pc := .polled .failed } else none
  | .relock io _ =>
      -- seeking a sysfs node to its start does not fail
      match s.pc with
      | .polled r => if io.lseek = 0 then some (s.afterPoll r io) else none
      | _ => none

/-- The events a step posts. -/
def posted (s : UdfpsSensor) : Action → List Event
  | .relock io now =>
      match s.pc with
      | .polled (.ready _ fp) =>
          if s.fires fp io then (s.readNode fp io).readEvents now else []
      | _ => []
  | _ => []

/-- The step posts an event. -/
def posts (x : UdfpsSensor × Action) : Bool := !(x.1.posted x.2).isEmpty

/-- The step is an `activate(true)` that changes `mIsEnabled`. -/
def enables (x : UdfpsSensor × Action) : Bool :=
  match x.2 with
  | .activate true => !x.1.mIsEnabled
  | _ => false

/-- The run thread is between releasing the mutex for `poll` and having
it back. -/
def inPoll (s : UdfpsSensor) : Bool :=
  match s.pc with
  | .polling => true
  | .polled _ => true
  | _ => false

/-! ## What a step can do -/

/-- **Every step of the machine**, by the branch it takes. -/
inductive StepCase (s : UdfpsSensor) : Action → UdfpsSensor → Prop where
  | activateSame {b : Bool} (hfree : s.pc ≠ .head) (hb : s.mIsEnabled = b) :
      StepCase s (.activate b) s
  | activateChange {b : Bool} (hfree : s.pc ≠ .head) (hb : s.mIsEnabled ≠ b) :
      StepCase s (.activate b)
        { s with mIsEnabled := b, waitPipe := s.waitPipe + 1, notified := true }
  | modeSame {m : OperationMode} (hfree : s.pc ≠ .head) (hm : s.mMode = m) :
      StepCase s (.setOperationMode m) { s with modeCalls := s.modeCalls + 1 }
  | modeChange {m : OperationMode} (hfree : s.pc ≠ .head) (hm : s.mMode ≠ m) :
      StepCase s (.setOperationMode m)
        { s with mMode := m, notified := true, modeCalls := s.modeCalls + 1 }
  | interrupt (hc : 0 < s.modeCalls) :
      StepCase s .interruptPoll
        { s with waitPipe := s.waitPipe + 1, modeCalls := s.modeCalls - 1 }
  | notify : StepCase s .notifyFpState { s with fpPending := true }
  | begin (hp : s.pc = .starting) : StepCase s .begin { s with pc := .head }
  | finish (hp : s.pc = .head) (hstop : s.mStopThread = true) :
      StepCase s .loop { s with pc := .finished }
  | sleep (hp : s.pc = .head) (hstop : s.mStopThread = false) (hon : s.on = false) :
      StepCase s .loop { s with reportEvent := false, pc := .waiting, notified := false }
  | poll (hp : s.pc = .head) (hstop : s.mStopThread = false) (hon : s.on = true) :
      StepCase s .loop { s with pc := .polling }
  | wakeUp {spurious : Bool} (hp : s.pc = .waiting)
      (hon : (s.on || s.mStopThread) = true) :
      StepCase s (.wake spurious) { s with pc := .head }
  | sleepOn {spurious : Bool} (hp : s.pc = .waiting)
      (hon : (s.on || s.mStopThread) = false) :
      StepCase s (.wake spurious) { s with pc := .waiting, notified := false }
  | pollReturn (hp : s.pc = .polling) (hready : 0 < s.waitPipe ∨ s.fpPending = true) :
      StepCase s .pollReturn
        { s with pc := .polled (.ready (0 < s.waitPipe) s.fpPending) }
  | pollFail (hp : s.pc = .polling) :
      StepCase s .pollFail { s with pc := .polled .failed }
  | failed {io : NodeIo} {now : Int} (hp : s.pc = .polled .failed) :
      StepCase s (.relock io now) { s with mStopThread := true, pc := .head }
  | post {io : NodeIo} {now : Int} {pipe : Bool} (hp : s.pc = .polled (.ready pipe true))
      (hread : (readFpState io s.mScreenX s.mScreenY).pressed = true)
      (hreport : s.reportEvent = true) :
      StepCase s (.relock io now)
        { s with
          mScreenX := (readFpState io s.mScreenX s.mScreenY).screenX
          mScreenY := (readFpState io s.mScreenX s.mScreenY).screenY
          fpPending := false
          mIsEnabled := false
          reportEvent := true
          pc := .head }
  | discard {io : NodeIo} {now : Int} {pipe : Bool}
      (hp : s.pc = .polled (.ready pipe true)) (hquiet : s.fires true io = false) :
      StepCase s (.relock io now)
        { s with
          mScreenX := (readFpState io s.mScreenX s.mScreenY).screenX
          mScreenY := (readFpState io s.mScreenX s.mScreenY).screenY
          fpPending := false
          waitPipe := if pipe then s.waitPipe - 1 else s.waitPipe
          reportEvent := true
          pc := .head }
  | drain {io : NodeIo} {now : Int} {pipe : Bool}
      (hp : s.pc = .polled (.ready pipe false)) :
      StepCase s (.relock io now)
        { s with
          waitPipe := if pipe then s.waitPipe - 1 else s.waitPipe
          reportEvent := true
          pc := .head }

/-- The run thread ends an iteration of its loop. -/
theorem relock_cases {s : UdfpsSensor} {r : Polled} (hp : s.pc = .polled r) (io : NodeIo)
    (now : Int) : StepCase s (.relock io now) (s.afterPoll r io) := by
  cases r with
  | failed => exact .failed hp
  | ready pipe fp =>
      cases fp with
      | false => exact .drain hp
      | true =>
          rw [afterPoll]
          cases hf : s.fires true io with
          | true =>
              rw [fires, Bool.true_and, Bool.and_eq_true] at hf
              exact .post hp hf.1 hf.2
          | false => exact .discard hp hf

theorem on_eq_true_iff {s : UdfpsSensor} :
    s.on = true ↔ s.mIsEnabled = true ∧ s.mMode = .normal := by
  rw [on, Bool.and_eq_true, decide_eq_true_eq]

theorem on_eq_false_iff {s : UdfpsSensor} :
    s.on = false ↔ s.mIsEnabled = false ∨ s.mMode = .dataInjection := by
  cases hm : s.mMode with
  | normal => simp [on, hm]
  | dataInjection => simp [on, hm]

/-- The loop's condition for going to sleep. -/
theorem sleeps_iff (s : UdfpsSensor) :
    (!s.mIsEnabled || decide (s.mMode = .dataInjection)) = true ↔ s.on = false := by
  rw [on_eq_false_iff, Bool.or_eq_true, Bool.not_eq_true', decide_eq_true_eq]

/-- The run thread at the head of its loop. -/
theorem loop_cases {s : UdfpsSensor} (hp : s.pc = .head) : StepCase s .loop s.loop := by
  unfold loop
  by_cases hstop : s.mStopThread = true
  · rw [if_pos hstop]
    exact .finish hp hstop
  · rw [if_neg hstop]
    have hstop := Bool.eq_false_of_not_eq_true hstop
    by_cases hon : s.on = false
    · have hwait : ¬ (({ s with reportEvent := false } : UdfpsSensor).on ||
          s.mStopThread) = true := by
        show ¬ (s.on || s.mStopThread) = true
        simp [hon, hstop]
      rw [if_pos ((sleeps_iff s).mpr hon), wait, if_neg hwait]
      exact .sleep hp hstop hon
    · rw [if_neg (fun h => hon ((sleeps_iff s).mp h))]
      exact .poll hp hstop (Bool.eq_true_of_not_eq_false hon)

theorem step_cases {s t : UdfpsSensor} {a : Action} (hs : step s a = some t) :
    StepCase s a t := by
  cases a with
  | activate b =>
      simp only [step, lockFree, decide_eq_true_eq, Option.ite_none_right_eq_some] at hs
      obtain ⟨hfree, hs⟩ := hs
      cases hs
      by_cases hb : s.mIsEnabled = b
      · rw [activate, if_neg (not_not.mpr hb)]
        exact .activateSame hfree hb
      · rw [activate, if_pos hb]
        exact .activateChange hfree hb
  | setOperationMode m =>
      simp only [step, lockFree, decide_eq_true_eq, Option.ite_none_right_eq_some] at hs
      obtain ⟨hfree, hs⟩ := hs
      cases hs
      by_cases hm : s.mMode = m
      · rw [setOperationMode, if_neg (not_not.mpr hm)]
        exact .modeSame hfree hm
      · rw [setOperationMode, if_pos hm]
        exact .modeChange hfree hm
  | interruptPoll =>
      simp only [step, Option.ite_none_right_eq_some] at hs
      obtain ⟨hc, hs⟩ := hs
      cases hs
      exact .interrupt hc
  | notifyFpState =>
      cases hs
      exact .notify
  | begin =>
      simp only [step, Option.ite_none_right_eq_some] at hs
      obtain ⟨hp, hs⟩ := hs
      cases hs
      exact .begin hp
  | loop =>
      simp only [step, Option.ite_none_right_eq_some] at hs
      obtain ⟨hp, hs⟩ := hs
      cases hs
      exact loop_cases hp
  | wake spurious =>
      simp only [step, Option.ite_none_right_eq_some] at hs
      obtain ⟨⟨hp, -⟩, hs⟩ := hs
      cases hs
      unfold wait
      split
      · rename_i hon
        exact .wakeUp hp hon
      · rename_i hon
        exact .sleepOn hp (Bool.eq_false_of_not_eq_true hon)
  | pollReturn =>
      simp only [step, Option.ite_none_right_eq_some] at hs
      obtain ⟨⟨hp, hready⟩, hs⟩ := hs
      cases hs
      exact .pollReturn hp hready
  | pollFail =>
      simp only [step, Option.ite_none_right_eq_some] at hs
      obtain ⟨hp, hs⟩ := hs
      cases hs
      exact .pollFail hp
  | relock io now =>
      simp only [step] at hs
      split at hs
      · rename_i r hp
        simp only [Option.ite_none_right_eq_some] at hs
        obtain ⟨-, hs⟩ := hs
        cases hs
        exact relock_cases hp io now
      · cases hs

/-- A step that posts does so with what it read itself. -/
theorem posts_cases {s : UdfpsSensor} {a : Action} (h : posts (s, a) = true) :
    ∃ io now pipe, a = .relock io now ∧ s.pc = .polled (.ready pipe true) ∧
      (readFpState io s.mScreenX s.mScreenY).pressed = true ∧ s.reportEvent = true ∧
      s.posted a = (s.readNode true io).readEvents now := by
  unfold posts posted at h
  split at h
  · rename_i io now ha
    cases ha
    split at h
    · rename_i pipe fp hp
      have hp : s.pc = .polled (.ready pipe fp) := hp
      cases hf : s.fires fp io with
      | false => simp [hf] at h
      | true =>
          have hand := hf
          simp only [fires, Bool.and_eq_true] at hand
          obtain ⟨⟨rfl, hread⟩, hreport⟩ := hand
          refine ⟨io, now, pipe, rfl, hp, hread, hreport, ?_⟩
          simp only [posted, hp, hf, if_true]
    · cases h
  · cases h

end UdfpsSensor

end OplusHardware.Udfps
