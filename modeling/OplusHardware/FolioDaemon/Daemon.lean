import OplusHardware.Base.Path

/-!
# Folio daemon — main

The daemon makes a uinput device with a lid switch, waits for the
Hall-effect sensor to turn up, and from then on writes a switch event for
every event of the sensor. Each system call is a step, which succeeds,
fails or is interrupted (`TEMP_FAILURE_RETRY` makes it again); what the
sensor service puts into the event queue is a step of its own.
-/

namespace OplusHardware.FolioDaemon

open OplusHardware.Base

def retryLimit : Nat := 120
def warnPeriod : Int := 300

/-- `ALOOPER_POLL_TIMEOUT`. -/
def pollTimeout : Int := -3

/-- `data[0] > 0.0f`, on the bits of the `float`: neither negative, nor
zero, nor a NaN. -/
def gtZero (bits : UInt32) : Bool := 0 < bits && bits ≤ 0x7f800000

/-- `isClosed` of an event with this `data[0]`. -/
def isClosed (data0 : UInt32) : Bool := !gtZero data0

inductive Sys where
  | ok
  | interrupted
  | failed
  deriving DecidableEq, Repr

/-- The call that comes next. -/
inductive Pc where
  | openUinput
  | setEvbitSw
  | setEvbitSyn
  | setSwbit
  | writeDevice
  | devCreate
  | getManager
  | createEventQueue
  | time
  | getSensor (now : Int)
  | sleep
  | registerSensor
  | poll
  | getEvents
  | writeSw (isClosed : Bool)
  | writeSyn (isClosed : Bool)
  | out
  | returned
  deriving DecidableEq, Repr

structure Daemon where
  /-- `uinputFd` is open. -/
  uinputFd : Bool
  err : Bool
  /-- `sensorManager` and `eventQueue` are not null. -/
  sensorManager : Bool
  eventQueue : Bool
  lastWarn : Int
  attemptCount : Nat
  pc : Pc
  /-- `data[0]` of the events in the queue. -/
  queue : List UInt32
  /-- The uinput device as it is assumed here: the switch value written
  last, and the one at the last `EV_SYN`. Readers of the real device are
  passed an `EV_SW` only where it changes the switch. -/
  switch : Bool
  lid : Bool
  deriving DecidableEq, Repr

namespace Daemon

def start : Daemon where
  uinputFd := false
  err := false
  sensorManager := false
  eventQueue := false
  lastWarn := 0
  attemptCount := 0
  pc := .openUinput
  queue := []
  switch := false
  lid := false

/-! ## Steps -/

/-- Where `main` goes when the system call it is at has not been
interrupted. -/
def afterSys (d : Daemon) (ok : Bool) : Option Daemon :=
  match d.pc with
  | .openUinput =>
      some (if ok then { d with uinputFd := true, pc := .setEvbitSw } else { d with pc := .out })
  -- `err` is the bitwise or of all three answers
  | .setEvbitSw => some { d with err := !ok, pc := .setEvbitSyn }
  | .setEvbitSyn => some { d with err := d.err || !ok, pc := .setSwbit }
  | .setSwbit =>
      let err := d.err || !ok
      some { d with err := err, pc := if err then .out else .writeDevice }
  | .writeDevice => some { d with pc := if ok then .devCreate else .out }
  | .devCreate => some { d with pc := if ok then .getManager else .out }
  | .writeSw isClosed =>
      some (if ok then { d with switch := isClosed, pc := .writeSyn isClosed }
        else { d with pc := .out })
  | .writeSyn _ =>
      some (if ok then { d with lid := d.switch, pc := .getEvents } else { d with pc := .out })
  | _ => none

/-- The loop around `ASensorManager_getDefaultSensorEx` with a null
answer. -/
def noSensor (d : Daemon) (now : Int) : Daemon :=
  let d := { d with attemptCount := d.attemptCount + 1 }
  if retryLimit ≤ d.attemptCount then { d with pc := .out }
  else if d.lastWarn + warnPeriod < now then { d with lastWarn := now, pc := .sleep }
  else { d with pc := .sleep }

inductive Action where
  | sys (r : Sys)
  | getManager (found : Bool)
  | createEventQueue (created : Bool)
  | time (now : Int)
  | getSensor (found : Bool)
  | sleep
  | registerSensor (ok : Bool)
  | poll (answer : Int)
  | getEvents (failed : Bool)
  /-- The code at `out`, up to its `return`. -/
  | cleanUp
  /-- The sensor service adds an event to the queue. -/
  | deliver (data0 : UInt32)
  deriving DecidableEq, Repr

def step (d : Daemon) : Action → Option Daemon
  | .sys .interrupted => (d.afterSys true).map fun _ => d
  | .sys .ok => d.afterSys true
  | .sys .failed => d.afterSys false
  | .getManager found =>
      if d.pc = .getManager then
        some { d with sensorManager := found, pc := .createEventQueue }
      else none
  | .createEventQueue created =>
      -- no queue comes from a null manager
      if d.pc = .createEventQueue then
        some { d with eventQueue := created && d.sensorManager, pc := .time }
      else none
  | .time now => if d.pc = .time then some { d with pc := .getSensor now } else none
  | .getSensor found =>
      match d.pc with
      | .getSensor now => some (if found then { d with pc := .registerSensor } else d.noSensor now)
      | _ => none
  | .sleep => if d.pc = .sleep then some { d with pc := .time } else none
  | .registerSensor ok =>
      if d.pc = .registerSensor then some { d with pc := if ok then .poll else .out } else none
  | .poll answer =>
      if d.pc = .poll then
        some { d with pc := if pollTimeout < answer then .getEvents else .out }
      else none
  | .getEvents failed =>
      if d.pc = .getEvents then
        match d.queue with
        | [] => some { d with pc := .poll }
        | data0 :: queue =>
            some (if failed then { d with pc := .poll }
              else { d with queue := queue, pc := .writeSw (isClosed data0) })
      else none
  | .cleanUp =>
      if d.pc = .out then
        some { d with
          eventQueue := d.eventQueue && !d.sensorManager
          uinputFd := false
          pc := .returned }
      else none
  | .deliver data0 =>
      if d.eventQueue then some { d with queue := d.queue ++ [data0] } else none

/-! ## What a step does -/

/-- Where the calls that set the uinput device up lead. -/
def setUpEdges : List (Pc × Pc) :=
  [(.openUinput, .setEvbitSw), (.openUinput, .out), (.setEvbitSw, .setEvbitSyn),
    (.setEvbitSyn, .setSwbit), (.setSwbit, .writeDevice), (.setSwbit, .out),
    (.writeDevice, .devCreate), (.writeDevice, .out), (.devCreate, .getManager),
    (.devCreate, .out)]

/-- **The ways a step goes.** -/
inductive StepCase (d : Daemon) : Action → Daemon → Prop where
  | interrupted : StepCase d (.sys .interrupted) d
  | setUp (ok uinputFd err : Bool) {pc : Pc} (hpc : (d.pc, pc) ∈ setUpEdges) :
      StepCase d (.sys (if ok then .ok else .failed))
        { d with uinputFd := uinputFd, err := err, pc := pc }
  | writeFailed {isClosed : Bool} (hp : d.pc = .writeSw isClosed ∨ d.pc = .writeSyn isClosed) :
      StepCase d (.sys .failed) { d with pc := .out }
  | writeSw {isClosed : Bool} (hp : d.pc = .writeSw isClosed) :
      StepCase d (.sys .ok) { d with switch := isClosed, pc := .writeSyn isClosed }
  | writeSyn {isClosed : Bool} (hp : d.pc = .writeSyn isClosed) :
      StepCase d (.sys .ok) { d with lid := d.switch, pc := .getEvents }
  | getManager {found : Bool} (hp : d.pc = .getManager) :
      StepCase d (.getManager found) { d with sensorManager := found, pc := .createEventQueue }
  | createEventQueue {created : Bool} (hp : d.pc = .createEventQueue) :
      StepCase d (.createEventQueue created)
        { d with eventQueue := created && d.sensorManager, pc := .time }
  | time {now : Int} (hp : d.pc = .time) : StepCase d (.time now) { d with pc := .getSensor now }
  | found {now : Int} (hp : d.pc = .getSensor now) :
      StepCase d (.getSensor true) { d with pc := .registerSensor }
  | exhausted {now : Int} (hp : d.pc = .getSensor now) (hlimit : retryLimit ≤ d.attemptCount + 1) :
      StepCase d (.getSensor false) { d with attemptCount := d.attemptCount + 1, pc := .out }
  | warn {now : Int} (hp : d.pc = .getSensor now) (hlimit : d.attemptCount + 1 < retryLimit)
      (hdue : d.lastWarn + warnPeriod < now) :
      StepCase d (.getSensor false)
        { d with attemptCount := d.attemptCount + 1, lastWarn := now, pc := .sleep }
  | retry {now : Int} (hp : d.pc = .getSensor now) (hlimit : d.attemptCount + 1 < retryLimit)
      (hearly : now ≤ d.lastWarn + warnPeriod) :
      StepCase d (.getSensor false) { d with attemptCount := d.attemptCount + 1, pc := .sleep }
  | sleep (hp : d.pc = .sleep) : StepCase d .sleep { d with pc := .time }
  | registered (hp : d.pc = .registerSensor) : StepCase d (.registerSensor true) { d with pc := .poll }
  | unregistered (hp : d.pc = .registerSensor) :
      StepCase d (.registerSensor false) { d with pc := .out }
  | polled {answer : Int} (hp : d.pc = .poll) (hok : pollTimeout < answer) :
      StepCase d (.poll answer) { d with pc := .getEvents }
  | pollEnded {answer : Int} (hp : d.pc = .poll) : StepCase d (.poll answer) { d with pc := .out }
  | noEvent {failed : Bool} (hp : d.pc = .getEvents) (hq : d.queue = [] ∨ failed = true) :
      StepCase d (.getEvents failed) { d with pc := .poll }
  | event {data0 : UInt32} {queue : List UInt32} (hp : d.pc = .getEvents)
      (hq : d.queue = data0 :: queue) :
      StepCase d (.getEvents false) { d with queue := queue, pc := .writeSw (isClosed data0) }
  | cleanUp (hp : d.pc = .out) :
      StepCase d .cleanUp
        { d with
          eventQueue := d.eventQueue && !d.sensorManager
          uinputFd := false
          pc := .returned }
  | deliver {data0 : UInt32} (hq : d.eventQueue = true) :
      StepCase d (.deliver data0) { d with queue := d.queue ++ [data0] }

variable {d e : Daemon} {a : Action} {h : List (Daemon × Action)}

theorem afterSys_cases {ok : Bool} (hs : d.afterSys ok = some e) :
    StepCase d (.sys (if ok then .ok else .failed)) e := by
  unfold afterSys at hs
  split at hs
  · rename_i hp
    cases hs
    cases ok with
    | true => exact .setUp true _ _ (by simp [hp, setUpEdges])
    | false => exact .setUp false _ _ (by simp [hp, setUpEdges])
  · rename_i hp
    cases hs
    exact .setUp ok _ _ (by simp [hp, setUpEdges])
  · rename_i hp
    cases hs
    exact .setUp ok _ _ (by simp [hp, setUpEdges])
  · rename_i hp
    cases hs
    apply StepCase.setUp ok
    split <;> simp [hp, setUpEdges]
  · rename_i hp
    cases hs
    apply StepCase.setUp ok
    split <;> simp [hp, setUpEdges]
  · rename_i hp
    cases hs
    apply StepCase.setUp ok
    split <;> simp [hp, setUpEdges]
  · rename_i isClosed hp
    cases hs
    cases ok with
    | true => exact .writeSw hp
    | false => exact .writeFailed (.inl hp)
  · rename_i isClosed hp
    cases hs
    cases ok with
    | true => exact .writeSyn hp
    | false => exact .writeFailed (.inr hp)
  · cases hs

theorem noSensor_cases {now : Int} (hp : d.pc = .getSensor now) :
    StepCase d (.getSensor false) (d.noSensor now) := by
  unfold noSensor
  dsimp only
  split
  · rename_i hlimit
    exact .exhausted hp hlimit
  · rename_i hlimit
    split
    · rename_i hdue
      exact .warn hp (Nat.lt_of_not_le hlimit) hdue
    · rename_i hearly
      exact .retry hp (Nat.lt_of_not_le hlimit) (Int.not_lt.mp hearly)

theorem step_cases (hs : step d a = some e) : StepCase d a e := by
  cases a with
  | sys r =>
      cases r with
      | ok => exact afterSys_cases hs
      | interrupted =>
          simp only [step, Option.map_eq_some_iff] at hs
          obtain ⟨-, -, rfl⟩ := hs
          exact .interrupted
      | failed => exact afterSys_cases hs
  | getManager found =>
      simp only [step, Option.ite_none_right_eq_some] at hs
      obtain ⟨hp, hs⟩ := hs
      cases hs
      exact .getManager hp
  | createEventQueue created =>
      simp only [step, Option.ite_none_right_eq_some] at hs
      obtain ⟨hp, hs⟩ := hs
      cases hs
      exact .createEventQueue hp
  | time now =>
      simp only [step, Option.ite_none_right_eq_some] at hs
      obtain ⟨hp, hs⟩ := hs
      cases hs
      exact .time hp
  | getSensor found =>
      simp only [step] at hs
      split at hs
      · rename_i now hp
        cases hs
        cases found with
        | true => exact .found hp
        | false => exact noSensor_cases hp
      · cases hs
  | sleep =>
      simp only [step, Option.ite_none_right_eq_some] at hs
      obtain ⟨hp, hs⟩ := hs
      cases hs
      exact .sleep hp
  | registerSensor ok =>
      simp only [step, Option.ite_none_right_eq_some] at hs
      obtain ⟨hp, hs⟩ := hs
      cases hs
      cases ok with
      | true => exact .registered hp
      | false => exact .unregistered hp
  | poll answer =>
      simp only [step, Option.ite_none_right_eq_some] at hs
      obtain ⟨hp, hs⟩ := hs
      cases hs
      split
      · rename_i hok
        exact .polled hp hok
      · exact .pollEnded hp
  | getEvents failed =>
      simp only [step, Option.ite_none_right_eq_some] at hs
      obtain ⟨hp, hs⟩ := hs
      split at hs
      · rename_i hq
        cases hs
        exact .noEvent hp (.inl hq)
      · rename_i data0 queue hq
        cases hs
        cases failed with
        | true => exact .noEvent hp (.inr rfl)
        | false => exact .event hp hq
  | cleanUp =>
      simp only [step, Option.ite_none_right_eq_some] at hs
      obtain ⟨hp, hs⟩ := hs
      cases hs
      exact .cleanUp hp
  | deliver data0 =>
      simp only [step, Option.ite_none_right_eq_some] at hs
      obtain ⟨hq, hs⟩ := hs
      cases hs
      exact .deliver hq

end Daemon

end OplusHardware.FolioDaemon
