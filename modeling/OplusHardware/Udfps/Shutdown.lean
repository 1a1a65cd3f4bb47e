import OplusHardware.Base.Inevitable
import OplusHardware.Udfps.Runs

/-!
# Udfps — the end of the sensor

`~UdfpsSensor` writes the byte that wakes the run thread out of `poll`,
and `~Sensor` sets the flag that ends its loop only afterwards, under the
mutex. In between the run thread can take the byte, find nothing changed
and go back into `poll`.

The clients are done when the destructors run and the node raises nothing
more; a `setOperationMode` that has left the mutex may still write its
byte.
-/

namespace OplusHardware.Udfps

open OplusHardware.Base

/-- How far the destructors are. -/
inductive Destructor where
  /-- Before `~UdfpsSensor`. -/
  | pending
  /-- The byte is written, and `~Sensor` does not have the mutex yet. -/
  | interrupted
  /-- In `mRunThread.join()`. -/
  | joining
  | joined
  deriving DecidableEq, Repr

structure Shutdown where
  sensor : UdfpsSensor
  destructor : Destructor
  deriving DecidableEq, Repr

namespace Shutdown

inductive Action where
  /-- A step of the run thread, or a byte still owed by a client call. -/
  | thread (a : UdfpsSensor.Action)
  /-- `~UdfpsSensor` -/
  | interrupt
  /-- The block of `~Sensor` under the mutex. -/
  | stop
  | join

/-- A client call or a notification. -/
def outside : UdfpsSensor.Action → Bool
  | .activate _ => true
  | .setOperationMode _ => true
  | .notifyFpState => true
  | .interruptPoll => false
  | .begin => false
  | .loop => false
  | .wake _ => false
  | .pollReturn => false
  | .pollFail => false
  | .relock _ _ => false

/-- What `~Sensor` does under the mutex. -/
def stopThread (s : UdfpsSensor) : UdfpsSensor :=
  { s with mStopThread := true, mIsEnabled := false }.notifyAll

def step (s : Shutdown) : Action → Option Shutdown
  | .thread a =>
      if outside a then none
      else (UdfpsSensor.step s.sensor a).map fun sensor => { s with sensor }
  | .interrupt =>
      if s.destructor = .pending then some ⟨s.sensor.interruptPoll, .interrupted⟩ else none
  | .stop =>
      if s.destructor = .interrupted ∧ s.sensor.lockFree then
        some ⟨stopThread s.sensor, .joining⟩
      else none
  | .join =>
      if s.destructor = .joining ∧ s.sensor.pc = .finished then some ⟨s.sensor, .joined⟩
      else none

/-- The run thread is in `poll`, and nothing will make it return. -/
def blockedInPoll (s : UdfpsSensor) : Prop :=
  s.pc = .polling ∧ s.waitPipe = 0 ∧ s.fpPending = false

instance (s : UdfpsSensor) : Decidable (blockedInPoll s) :=
  inferInstanceAs (Decidable (_ ∧ _))

/-- **The join that does not return**: `mStopThread` is set, the pipe is
empty and the run thread is blocked in `poll`. -/
def Stuck (s : Shutdown) : Prop := s.sensor.mStopThread = true ∧ blockedInPoll s.sensor

instance (s : Shutdown) : Decidable s.Stuck := inferInstanceAs (Decidable (_ ∧ _))

variable {s t : Shutdown} {a : Action} {h : List (Shutdown × Action)}

/-! ## What a step can do -/

/-- Every step, with the part of the machine it belongs to. -/
inductive StepCase (s : Shutdown) : Action → Shutdown → Prop where
  | thread {b : UdfpsSensor.Action} {sensor : UdfpsSensor} (hin : outside b = false)
      (hb : UdfpsSensor.step s.sensor b = some sensor) :
      StepCase s (.thread b) { s with sensor }
  | interrupt (hd : s.destructor = .pending) :
      StepCase s .interrupt ⟨s.sensor.interruptPoll, .interrupted⟩
  | stop (hd : s.destructor = .interrupted) (hfree : s.sensor.pc ≠ .head) :
      StepCase s .stop ⟨stopThread s.sensor, .joining⟩
  | join (hd : s.destructor = .joining) (hp : s.sensor.pc = .finished) :
      StepCase s .join ⟨s.sensor, .joined⟩

theorem step_cases (hs : step s a = some t) : StepCase s a t := by
  cases a with
  | thread b =>
      simp only [step, Option.ite_none_left_eq_some, Option.map_eq_some_iff] at hs
      obtain ⟨hin, sensor, hb, rfl⟩ := hs
      exact .thread (Bool.eq_false_of_not_eq_true hin) hb
  | interrupt =>
      simp only [step, Option.ite_none_right_eq_some] at hs
      obtain ⟨hd, hs⟩ := hs
      cases hs
      exact .interrupt hd
  | stop =>
      simp only [step, UdfpsSensor.lockFree, decide_eq_true_eq,
        Option.ite_none_right_eq_some] at hs
      obtain ⟨⟨hd, hfree⟩, hs⟩ := hs
      cases hs
      exact .stop hd hfree
  | join =>
      simp only [step, Option.ite_none_right_eq_some] at hs
      obtain ⟨⟨hd, hp⟩, hs⟩ := hs
      cases hs
      exact .join hd hp

/-! ## The run thread once the flag is set -/

/-- The steps a thread still has to its end once the flag is set. -/
def stepsLeft : Pc → Nat
  | .polling => 4
  | .polled _ => 3
  | .starting => 3
  | .waiting => 3
  | .head => 2
  | .finished => 0

/-- What a step leaves of a thread that sleeps or is in `poll`: it is still
there, with at least as many bytes in the pipe, or it is in neither. -/
def StaysOrLeaves (s t : UdfpsSensor) : Prop :=
  (t.pc = s.pc ∧ s.waitPipe ≤ t.waitPipe ∧ t.fpPending = s.fpPending ∧
    t.notified = s.notified) ∨
  (t.pc ≠ .polling ∧ t.pc ≠ .waiting)

/-- **One step of the run thread with the flag set**: it enters neither
`poll` nor the wait, and comes closer to its end. -/
theorem stopped_step {s t : UdfpsSensor} {b : UdfpsSensor.Action}
    (hin : outside b = false) (hb : UdfpsSensor.step s b = some t)
    (hstop : s.mStopThread = true) :
    t.mStopThread = true ∧ StaysOrLeaves s t ∧
      stepsLeft t.pc + t.modeCalls < stepsLeft s.pc + s.modeCalls := by
  cases UdfpsSensor.step_cases hb with
  | activateSame hfree hb => cases hin
  | activateChange hfree hb => cases hin
  | modeSame hfree hm => cases hin
  | modeChange hfree hm => cases hin
  | interrupt hc =>
      refine ⟨hstop, .inl ⟨rfl, Nat.le_succ _, rfl, rfl⟩, ?_⟩
      show stepsLeft s.pc + (s.modeCalls - 1) < _
      omega
  | notify => cases hin
  | begin hp => exact ⟨hstop, .inr (by simp), by simp [stepsLeft, hp]⟩
  | finish hp hs => exact ⟨hstop, .inr (by simp), by simp [stepsLeft, hp]⟩
  | sleep hp hs hon =>
      rw [hstop] at hs
      cases hs
  | poll hp hs hon =>
      rw [hstop] at hs
      cases hs
  | wakeUp hp hon => exact ⟨hstop, .inr (by simp), by simp [stepsLeft, hp]⟩
  | sleepOn hp hon =>
      rw [hstop, Bool.or_true] at hon
      cases hon
  | pollReturn hp hready => exact ⟨hstop, .inr (by simp), by simp [stepsLeft, hp]⟩
  | pollFail hp => exact ⟨hstop, .inr (by simp), by simp [stepsLeft, hp]⟩
  | failed hp => exact ⟨rfl, .inr (by simp), by simp [stepsLeft, hp]⟩
  | post hp hread hreport => exact ⟨hstop, .inr (by simp), by simp [stepsLeft, hp]⟩
  | discard hp hquiet => exact ⟨hstop, .inr (by simp), by simp [stepsLeft, hp]⟩
  | drain hp => exact ⟨hstop, .inr (by simp), by simp [stepsLeft, hp]⟩

theorem StaysOrLeaves.not_blocked {s t : UdfpsSensor} (h : StaysOrLeaves s t)
    (hs : ¬ blockedInPoll s) : ¬ blockedInPoll t := by
  rintro ⟨hp, hempty, hpend⟩
  rcases h with ⟨hpc, hpipe, hsame, -⟩ | ⟨hpc, -⟩
  · exact hs ⟨hpc ▸ hp, by omega, hsame ▸ hpend⟩
  · exact hpc hp

/-- Asleep only with the wake-up under way. -/
def Woken (s : UdfpsSensor) : Prop := s.pc = .waiting → s.notified = true

theorem StaysOrLeaves.woken {s t : UdfpsSensor} (h : StaysOrLeaves s t) (hs : Woken s) :
    Woken t := by
  intro hp
  rcases h with ⟨hpc, -, -, hsame⟩ | ⟨-, hpc⟩
  · rw [hsame]
    exact hs (hpc ▸ hp)
  · exact absurd hp hpc

/-- A thread that set the flag itself, after a failed `poll`, is on its way
out. -/
def Leaving (s : UdfpsSensor) : Prop :=
  s.mStopThread = true → s.pc = .head ∨ s.pc = .finished

theorem Leaving.not_blocked {s : UdfpsSensor} (h : Leaving s) (hstop : s.mStopThread = true) :
    ¬ blockedInPoll s := by
  rintro ⟨hp, -⟩
  rcases h hstop with hpc | hpc
  · rw [hp] at hpc
    cases hpc
  · rw [hp] at hpc
    cases hpc

/-- **Before the destructors, only a failed `poll` sets the flag.** -/
theorem Leaving.step {s t : UdfpsSensor} {b : UdfpsSensor.Action} (h : Leaving s)
    (hb : UdfpsSensor.step s b = some t) : Leaving t := by
  cases UdfpsSensor.step_cases hb with
  | activateSame hfree hb => exact h
  | activateChange hfree hb => exact h
  | modeSame hfree hm => exact h
  | modeChange hfree hm => exact h
  | interrupt hc => exact h
  | notify => exact h
  | begin hp => exact fun _ => .inl rfl
  | finish hp hs => exact fun _ => .inr rfl
  | sleep hp hs hon =>
      intro hstop
      rw [hs] at hstop
      cases hstop
  | poll hp hs hon =>
      intro hstop
      rw [hs] at hstop
      cases hstop
  | wakeUp hp hon => exact fun _ => .inl rfl
  | sleepOn hp hon =>
      intro hstop
      rw [hstop, Bool.or_true] at hon
      cases hon
  | pollReturn hp hready =>
      intro hstop
      have hpc := h hstop
      simp [hp] at hpc
  | pollFail hp =>
      intro hstop
      have hpc := h hstop
      simp [hp] at hpc
  | failed hp => exact fun _ => .inl rfl
  | post hp hread hreport => exact fun _ => .inl rfl
  | discard hp hquiet => exact fun _ => .inl rfl
  | drain hp => exact fun _ => .inl rfl

theorem leaving_of_run {sensorHandle mScreenX mScreenY : Int32}
    {h : List (UdfpsSensor × UdfpsSensor.Action)} {s : UdfpsSensor}
    (hp : UdfpsSensor.Run sensorHandle mScreenX mScreenY h s) : Leaving s := by
  refine hp.inv Leaving (fun _ _ => True) (fun s b t hs _ hb => hs.step hb) ?_
    (fun _ _ => trivial)
  intro hstop
  cases hstop

/-! ## What keeps the join from hanging -/

/-- The stop does not find the run thread blocked in `poll`. -/
def StopsInTime (x : Shutdown × Action) : Prop :=
  match x.2 with
  | .stop => ¬ blockedInPoll x.1.sensor
  | _ => True

/-- **One step keeps the join from hanging**, unless it is a stop that comes
too late. -/
theorem not_stuck_step (hi : ¬ Stuck s) (hok : StopsInTime (s, a))
    (hs : step s a = some t) : ¬ Stuck t := by
  rintro ⟨hstop, hblocked⟩
  cases step_cases hs with
  | @thread b sensor hin hb =>
      cases hflag : s.sensor.mStopThread with
      | true =>
          have hfree : ¬ blockedInPoll s.sensor := fun hsensor => hi ⟨hflag, hsensor⟩
          exact (stopped_step hin hb hflag).2.1.not_blocked hfree hblocked
      | false =>
          have hleaving : Leaving s.sensor := by
            intro hset
            rw [hflag] at hset
            cases hset
          exact (hleaving.step hb).not_blocked hstop hblocked
  | interrupt hd =>
      obtain ⟨-, hempty, -⟩ := hblocked
      exact Nat.succ_ne_zero _ hempty
  | stop hd hfree => exact hok hblocked
  | join hd hp => exact hi ⟨hstop, hblocked⟩

/-- A stop that comes too late leaves the join hanging. -/
theorem stuck_of_late_stop (hok : ¬ StopsInTime (s, a)) (hs : step s a = some t) :
    Stuck t := by
  cases step_cases hs with
  | thread hin hb => exact absurd trivial hok
  | interrupt hd => exact absurd trivial hok
  | stop hd hfree => exact ⟨rfl, not_not.mp hok⟩
  | join hd hp => exact absurd trivial hok

/-! ## What the join waits for -/

/-- The steps the run thread and the destructors are bound to take. A
`poll` that fails, a wake-up out of nothing and the byte of a client are
none of them. -/
def own : Action → Prop
  | .thread .begin => True
  | .thread .loop => True
  | .thread (.wake spurious) => spurious = false
  | .thread .pollReturn => True
  | .thread (.relock _ _) => True
  | .thread _ => False
  | .interrupt => True
  | .stop => True
  | .join => True

/-- Once the destructor is in `join`, the flag is set and the thread is
woken. -/
def Notified (s : Shutdown) : Prop :=
  s.destructor = .joining → s.sensor.mStopThread = true ∧ Woken s.sensor

theorem Notified.step (hi : Notified s) (hs : step s a = some t) : Notified t := by
  cases step_cases hs with
  | thread hin hb =>
      intro hd
      obtain ⟨hstop, hwoken⟩ := hi hd
      obtain ⟨hset, hstays, -⟩ := stopped_step hin hb hstop
      exact ⟨hset, hstays.woken hwoken⟩
  | interrupt hd =>
      intro hj
      cases hj
  | stop hd hfree => exact fun _ => ⟨rfl, fun _ => rfl⟩
  | join hd hp =>
      intro hj
      cases hj

/-- A stopped thread that is not blocked in `poll` takes its next step, or
is finished and joined. -/
theorem moves_of_joining (hd : s.destructor = .joining) (hwoken : Woken s.sensor)
    (hfree : ¬ blockedInPoll s.sensor) : ∃ a t, own a ∧ step s a = some t := by
  have hthread : ∀ b sensor, outside b = false → UdfpsSensor.step s.sensor b = some sensor →
      step s (.thread b) = some { s with sensor } := by
    intro b sensor hin hb
    rw [step, hin, hb]
    rfl
  cases hpc : s.sensor.pc with
  | starting =>
      exact ⟨.thread .begin, _, trivial, hthread _ _ rfl (if_pos hpc)⟩
  | head => exact ⟨.thread .loop, _, trivial, hthread _ _ rfl (if_pos hpc)⟩
  | waiting =>
      exact ⟨.thread (.wake false), _, rfl,
        hthread _ _ rfl (if_pos ⟨hpc, by simp [hwoken hpc]⟩)⟩
  | polling =>
      have hready : 0 < s.sensor.waitPipe ∨ s.sensor.fpPending = true := by
        by_contra hno
        push Not at hno
        exact hfree ⟨hpc, by omega, Bool.eq_false_of_not_eq_true hno.2⟩
      exact ⟨.thread .pollReturn, _, trivial, hthread _ _ rfl (if_pos ⟨hpc, hready⟩)⟩
  | polled r =>
      refine ⟨.thread (.relock UdfpsSensor.pressAt 0), _, trivial,
        hthread _ (s.sensor.afterPoll r UdfpsSensor.pressAt) rfl ?_⟩
      simp only [UdfpsSensor.step, hpc]
      exact if_pos rfl
  | finished => exact ⟨.join, _, trivial, if_pos ⟨hd, hpc⟩⟩

/-- Nothing that is bound to happen ends a blocked `poll`. -/
theorem blocked_of_stuck (hd : s.destructor = .joining) (hstuck : Stuck s) {a : Action}
    (ha : own a) : step s a = none := by
  obtain ⟨-, hpc, hempty, hpend⟩ := hstuck
  cases a with
  | thread b =>
      cases b with
      | activate b => cases ha
      | setOperationMode m => cases ha
      | interruptPoll => cases ha
      | notifyFpState => cases ha
      | pollFail => cases ha
      | begin => simp [step, outside, UdfpsSensor.step, hpc]
      | loop => simp [step, outside, UdfpsSensor.step, hpc]
      | wake spurious => simp [step, outside, UdfpsSensor.step, hpc]
      | pollReturn => simp [step, outside, UdfpsSensor.step, hempty, hpend]
      | relock io now => simp [step, outside, UdfpsSensor.step, hpc]
  | interrupt => simp [step, hd]
  | stop => simp [step, hd]
  | join => simp [step, hpc]

/-- **The join completes from a state that is not stuck, and from no
other.** -/
theorem joins_iff (hi : Notified s) (hd : s.destructor = .joining) :
    Inevitable step own (fun t => t.destructor = .joined) s ↔ ¬ Stuck s := by
  constructor
  · intro hin hstuck
    refine Inevitable.not_of_blocked ?_ (fun a ha => blocked_of_stuck hd hstuck ha) hin
    rw [hd]
    simp
  · intro hfree
    refine Inevitable.of_measure
      (fun s => s.destructor = .joined ∨
        s.destructor = .joining ∧ Notified s ∧ ¬ blockedInPoll s.sensor)
      (fun s => stepsLeft s.sensor.pc + s.sensor.modeCalls +
        if s.destructor = .joining then 1 else 0) ?_ ?_ ?_
    · rintro s (hj | ⟨hd, hi, hfree⟩) hgoal
      · exact absurd hj hgoal
      · exact moves_of_joining hd (hi hd).2 hfree
    · rintro s a t (hj | ⟨hd, hi, hfree⟩) hgoal hs
      · exact absurd hj hgoal
      · have ht := hi.step hs
        cases step_cases hs with
        | thread hin hb =>
            obtain ⟨-, hstays, hlt⟩ := stopped_step hin hb (hi hd).1
            exact ⟨.inr ⟨hd, ht, hstays.not_blocked hfree⟩, Nat.add_lt_add_right hlt _⟩
        | interrupt hd' =>
            rw [hd] at hd'
            cases hd'
        | stop hd' hfree' =>
            rw [hd] at hd'
            cases hd'
        | join hd' hp =>
            refine ⟨.inl rfl, ?_⟩
            rw [if_pos hd]
            exact Nat.lt_succ_self _
    · exact .inr ⟨hd, hi, fun hblocked => hfree ⟨(hi hd).1, hblocked⟩⟩

/-- **When the shutdown terminates.** From every state the sensor can be in
and for every interleaving of the destructors with the run thread: no
state of the run is stuck exactly when the stop flag is not set while the
run thread is blocked in `poll`; and once the destructor is in `join`, the
join completes however the run goes on exactly when the state is not
stuck. -/
theorem shutdown_iff (sensorHandle mScreenX mScreenY : Int32)
    (g : List (UdfpsSensor × UdfpsSensor.Action)) (s : UdfpsSensor)
    (hrun : UdfpsSensor.Run sensorHandle mScreenX mScreenY g s)
    (h : List (Shutdown × Action)) (t : Shutdown) (hp : Path step ⟨s, .pending⟩ h t) :
    (((∀ x ∈ h, ¬ Stuck x.1) ∧ ¬ Stuck t) ↔ ∀ x ∈ h, StopsInTime x) ∧
    (t.destructor = .joining →
      (Inevitable step own (fun u => u.destructor = .joined) t ↔ ¬ Stuck t)) := by
  constructor
  · refine hp.always_iff (fun s => ¬ Stuck s) (fun s => ¬ Stuck s)
      (fun s a => StopsInTime (s, a)) (fun s a t hi hok hs => not_stuck_step hi hok hs)
      (fun _ hi => hi) (fun s a t _ hok hs hfree => hfree (stuck_of_late_stop hok hs)) ?_
    rintro ⟨hstop, hblocked⟩
    exact (leaving_of_run hrun).not_blocked hstop hblocked
  · intro hd
    refine joins_iff (hp.inv Notified (fun _ _ => True) (fun s a t hi _ hs => hi.step hs) ?_
      (fun _ _ => trivial)) hd
    intro hj
    cases hj

/-- The sensor is enabled and waits in `poll`. -/
def enabledIdle : List UdfpsSensor.Action :=
  [.begin, .loop, .activate true, .wake false, .loop, .pollReturn,
    .relock UdfpsSensor.pressAt 1, .loop]

/-- The byte of `~UdfpsSensor` is taken before `~Sensor` has the mutex. -/
def byteTaken : List Action :=
  [.interrupt, .thread .pollReturn, .thread (.relock UdfpsSensor.pressAt 2),
    .thread .loop, .stop]

/-- The run thread has not returned from `poll` when the flag is set. -/
def stopAtOnce : List Action := [.interrupt, .stop]

theorem shutdown_iff_at_once :
    ∃ r ∈ follow UdfpsSensor.step (UdfpsSensor.construct 1 0 0) enabledIdle,
      ∃ q ∈ follow step ⟨r.2, .pending⟩ stopAtOnce,
        Inevitable step own (fun u => u.destructor = .joined) q.2 := by
  have hrun : ∃ r ∈ follow UdfpsSensor.step (UdfpsSensor.construct 1 0 0) enabledIdle,
      ∃ q ∈ follow step ⟨r.2, .pending⟩ stopAtOnce,
        q.2.destructor = .joining ∧ ¬ Stuck q.2 := by
    decide +kernel
  obtain ⟨r, hr, q, hq, hd, hfree⟩ := hrun
  refine ⟨r, hr, q, hq, ?_⟩
  exact ((shutdown_iff 1 0 0 r.1 r.2 (path_of_follow hr) q.1 q.2 (path_of_follow hq)).2
    hd).mpr hfree

/-- **A shutdown that hangs.** The flag is set with the pipe empty and the
run thread in `poll`. -/
theorem join_hangs :
    ∃ r ∈ follow UdfpsSensor.step (UdfpsSensor.construct 1 0 0) enabledIdle,
      ∃ q ∈ follow step ⟨r.2, .pending⟩ byteTaken,
        q.2.destructor = .joining ∧ q.2.sensor.mStopThread = true ∧
          q.2.sensor.waitPipe = 0 ∧ q.2.sensor.pc = .polling ∧
          q.2.sensor.fpPending = false := by
  decide +kernel

end Shutdown

end OplusHardware.Udfps
