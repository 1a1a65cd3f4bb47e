import Mathlib.Logic.Function.Basic
import OplusHardware.Base.Path
import OplusHardware.Base.SerialExecutor
import OplusHardware.Doze.Utils

/-!
# Doze — DozeService and its sensors

`DozeService` enables and disables `PickupSensor` and `PocketSensor` on
screen broadcasts, each if its preference is set at that moment. The
sensors register and unregister their listener later, on a single-thread
executor of their own.
-/

namespace OplusHardware.Doze

open OplusHardware.Base

/-! ## A sensor -/

/-- What is submitted to the executor. A registration also sets
`entryTimestamp`, which only the listener reads. -/
inductive Task where
  | registerListener
  | unregisterListener
  deriving DecidableEq, Repr

/-- A task is one instruction. -/
def Task.program (t : Task) : List Task := [t]

/-- Whether the listener is registered after a task. -/
def Task.effect (_ : Bool) (t : Task) : Bool := t = .registerListener

/-- `PickupSensor` or `PocketSensor`: whether the device has the sensor,
its executor, and whether the listener is registered. -/
structure Sensor where
  sensor : Bool
  executorService : SerialExecutor Task Task
  registered : Bool
  deriving DecidableEq, Repr

namespace Sensor

def enable (s : Sensor) : Sensor :=
  if s.sensor then
    { s with executorService := s.executorService.submit .registerListener }
  else s

def disable (s : Sensor) : Sensor :=
  if s.sensor then
    { s with executorService := s.executorService.submit .unregisterListener }
  else s

/-- The executor takes its next task. -/
def start (s : Sensor) : Option Sensor :=
  match s.executorService.running, s.executorService.queue with
  | [], t :: queue => some { s with executorService := ⟨queue, t.program⟩ }
  | _, _ => none

/-- The executor runs its task. -/
def run (s : Sensor) : Option Sensor :=
  match s.executorService.running with
  | [] => none
  | t :: rest =>
      some { s with
        executorService := s.executorService.goOn rest, registered := t.effect s.registered }

/-- The executor has nothing left to do. -/
def Drained (s : Sensor) : Prop :=
  s.executorService.running = [] ∧ s.executorService.queue = []

/-- Whether the listener is registered once the executor is drained. -/
def eventually (s : Sensor) : Bool :=
  s.executorService.eventual Task.program Task.effect s.registered

variable {s t : Sensor}

@[simp] theorem enable_sensor : s.enable.sensor = s.sensor := by
  rw [enable]; split <;> rfl

theorem eventually_disable (h : s.sensor = true) : s.disable.eventually = false := by
  rw [disable, if_pos h, eventually, SerialExecutor.eventual_submit]
  rfl

theorem eventually_of_drained (h : s.Drained) : s.eventually = s.registered :=
  SerialExecutor.eventual_drained h.1 h.2

theorem start_inv (h : s.start = some t) :
    t.eventually = s.eventually ∧ t.sensor = s.sensor := by
  rw [start] at h
  split at h
  · rename_i hrun hq
    cases h
    exact ⟨SerialExecutor.eventual_start hrun hq, rfl⟩
  · cases h

theorem run_inv (h : s.run = some t) : t.eventually = s.eventually ∧ t.sensor = s.sensor := by
  rw [run] at h
  split at h
  · cases h
  · rename_i hrun
    cases h
    exact ⟨SerialExecutor.eventual_goOn hrun, rfl⟩

end Sensor

/-! ## The service -/

inductive Kind where
  | pickup
  | pocket
  deriving DecidableEq, Repr

/-- The two sensors and the preferences they go by. -/
structure DozeService where
  prefs : SharedPreferences
  sensors : Kind → Sensor
  destroyed : Bool

namespace DozeService

/-- The preference of a sensor. -/
def isEnabled (s : DozeService) : Kind → Bool
  | .pickup => s.prefs.isPickUpEnabled
  | .pocket => s.prefs.isPocketEnabled

/-- Each sensor is treated by `f`. -/
def each (s : DozeService) (f : Kind → Sensor → Sensor) : DozeService :=
  { s with sensors := fun k => f k (s.sensors k) }

def onDisplayOn (s : DozeService) : DozeService :=
  s.each fun k sensor => if s.isEnabled k then sensor.disable else sensor

def onDisplayOff (s : DozeService) : DozeService :=
  s.each fun k sensor => if s.isEnabled k then sensor.enable else sensor

/-- The receiver is unregistered, and both sensors are disabled. -/
def onDestroy (s : DozeService) : DozeService :=
  { s.each fun _ sensor => sensor.disable with destroyed := true }

end DozeService

/-! ## Events -/

inductive Event where
  /-- `ACTION_SCREEN_ON` -/
  | screenOn
  /-- `ACTION_SCREEN_OFF` -/
  | screenOff
  | onDestroy
  | setPickUp (value : Option String)
  | setPocket (value : Option Bool)
  /-- an executor takes a task, or runs it -/
  | start (k : Kind)
  | run (k : Kind)
  deriving DecidableEq, Repr

/-- A step of an executor. -/
def Event.isWork : Event → Bool
  | .start _ => true
  | .run _ => true
  | _ => false

/-- The service, and whether the last event it handled was
`ACTION_SCREEN_ON` or `onDestroy`. -/
structure State where
  service : DozeService
  lit : Bool

namespace State

/-- An executor moves on. -/
def work (s : State) (k : Kind) (sensor : Option Sensor) : Option State :=
  sensor.map fun sensor =>
    { s with service.sensors := Function.update s.service.sensors k sensor }

/-- One step of the service, of its executors or of a user. The receiver is
gone after `onDestroy`. -/
def step (s : State) : Event → Option State
  | .screenOn => if s.service.destroyed then none else some ⟨s.service.onDisplayOn, true⟩
  | .screenOff => if s.service.destroyed then none else some ⟨s.service.onDisplayOff, false⟩
  | .onDestroy => if s.service.destroyed then none else some ⟨s.service.onDestroy, true⟩
  | .setPickUp value => some { s with service.prefs.gesture_pick_up_type := value }
  | .setPocket value => some { s with service.prefs.gesture_pocket := value }
  | .start k => s.work k (s.service.sensors k).start
  | .run k => s.work k (s.service.sensors k).run

/-- After `onCreate`. -/
def created (pickup pocket : Bool) (prefs : SharedPreferences) : State where
  service :=
    { prefs := prefs
      sensors := fun
        | .pickup => ⟨pickup, .idle, false⟩
        | .pocket => ⟨pocket, .idle, false⟩
      destroyed := false }
  lit := false

variable {s t u : State} {e : Event} {k : Kind} {h : List (State × Event)}

/-- Both executors have nothing left to do. -/
def Drained (s : State) : Prop := ∀ k, (s.service.sensors k).Drained

/-- With the display on, or the service gone, no listener is registered. -/
def Released (s : State) : Prop :=
  s.lit = true → ∀ k, (s.service.sensors k).registered = false

/-- **The sensors are released once the executors are drained**, if nothing
else happens. -/
def Settles (s : State) : Prop :=
  ∀ h t, Path step s h t → (∀ x ∈ h, x.2.isWork = true) → Drained t → Released t

/-! ## The executors -/

/-- The executors move on, and nothing else has changed. -/
def Alike (s t : State) : Prop :=
  t.lit = s.lit ∧ ∀ k, (t.service.sensors k).eventually = (s.service.sensors k).eventually ∧
    (t.service.sensors k).sensor = (s.service.sensors k).sensor

theorem work_alike {sensor : Option Sensor} (hwork : s.work k sensor = some t)
    (hsensor : ∀ x, sensor = some x → x.eventually = (s.service.sensors k).eventually ∧
      x.sensor = (s.service.sensors k).sensor) : Alike s t := by
  rw [work, Option.map_eq_some_iff] at hwork
  obtain ⟨x, hx, rfl⟩ := hwork
  refine ⟨rfl, ?_⟩
  intro j
  by_cases hj : j = k
  · subst hj
    simpa using hsensor x hx
  · simp [hj]

/-- **Work does not change what the executors come to.** -/
theorem step_alike (he : e.isWork = true) (hstep : step s e = some t) : Alike s t := by
  cases e with
  | start k => exact work_alike hstep fun _ hx => Sensor.start_inv hx
  | run k => exact work_alike hstep fun _ hx => Sensor.run_inv hx
  | screenOn => cases he
  | screenOff => cases he
  | onDestroy => cases he
  | setPickUp value => cases he
  | setPocket value => cases he

theorem path_alike (hp : Path step s h t) (hwork : ∀ x ∈ h, x.2.isWork = true) : Alike s t := by
  refine hp.inv (Alike s) (fun _ e => e.isWork = true) ?_ ⟨rfl, fun _ => ⟨rfl, rfl⟩⟩ hwork
  intro t e u ht he hstep
  obtain ⟨hlit, hsensors⟩ := step_alike he hstep
  refine ⟨hlit.trans ht.1, ?_⟩
  intro k
  exact ⟨(hsensors k).1.trans (ht.2 k).1, (hsensors k).2.trans (ht.2 k).2⟩

/-- One executor can be drained while the other one waits. -/
def Drains (s : State) (k : Kind) : Prop :=
  ∃ h t, Path step s h t ∧ (∀ x ∈ h, x.2.isWork = true) ∧ (t.service.sensors k).Drained ∧
    ∀ j, j ≠ k → t.service.sensors j = s.service.sensors j

theorem Drains.of_work {sensor : Sensor} (he : e.isWork = true)
    (hstep : step s e = s.work k (some sensor))
    (hrest : Drains
      { s with service.sensors := Function.update s.service.sensors k sensor } k) :
    Drains s k := by
  obtain ⟨h, t, hp, hwork, hdrained, hother⟩ := hrest
  refine ⟨_, t, .cons hstep hp, List.forall_mem_cons.mpr ⟨he, hwork⟩, hdrained, ?_⟩
  intro j hj
  rw [hother j hj]
  exact Function.update_of_ne hj _ _

theorem drains (s : State) (k : Kind) : Drains s k := by
  -- a queued task takes two steps, a running one takes one
  obtain ⟨n, hn⟩ : ∃ n, (s.service.sensors k).executorService.running.length +
      2 * (s.service.sensors k).executorService.queue.length ≤ n := ⟨_, Nat.le_refl _⟩
  induction n generalizing s with
  | zero =>
      refine ⟨[], s, .nil, by simp, ⟨?_, ?_⟩, fun _ _ => rfl⟩
      · exact List.length_eq_zero_iff.mp (by omega)
      · exact List.length_eq_zero_iff.mp (by omega)
  | succ n ih =>
      cases hrun : (s.service.sensors k).executorService.running with
      | cons t rest =>
          have hone : (s.service.sensors k).run = some { s.service.sensors k with
              executorService := (s.service.sensors k).executorService.goOn rest
              registered := t.effect (s.service.sensors k).registered } := by
            rw [Sensor.run, hrun]
          apply Drains.of_work (e := .run k) rfl (congrArg (s.work k) hone)
          apply ih
          rw [hrun] at hn
          simp only [SerialExecutor.goOn, List.length_cons, Function.update_self] at hn ⊢
          omega
      | nil =>
          cases hq : (s.service.sensors k).executorService.queue with
          | nil => exact ⟨[], s, .nil, by simp, ⟨hrun, hq⟩, fun _ _ => rfl⟩
          | cons t queue =>
              have hone : (s.service.sensors k).start = some { s.service.sensors k with
                  executorService := ⟨queue, t.program⟩ } := by
                rw [Sensor.start, hrun, hq]
              apply Drains.of_work (e := .start k) rfl (congrArg (s.work k) hone)
              apply ih
              rw [hrun, hq] at hn
              simp only [Task.program, List.length_cons, List.length_nil,
                Function.update_self] at hn ⊢
              omega

/-- **The executors can be drained.** -/
theorem exists_drained (s : State) :
    ∃ h t, Path step s h t ∧ (∀ x ∈ h, x.2.isWork = true) ∧ Drained t := by
  obtain ⟨h, t, hp, hwork, hpickup, -⟩ := s.drains .pickup
  obtain ⟨h', u, hp', hwork', hpocket, hother⟩ := t.drains .pocket
  refine ⟨h ++ h', u, hp.append hp', List.forall_mem_append.mpr ⟨hwork, hwork'⟩, ?_⟩
  intro k
  cases k with
  | pickup =>
      rw [hother .pickup (by decide)]
      exact hpickup
  | pocket => exact hpocket

/-- What the executors come to decides it. -/
theorem settles_iff :
    Settles s ↔ (s.lit = true → ∀ k, (s.service.sensors k).eventually = false) := by
  constructor
  · intro hs hlit k
    obtain ⟨h, t, hp, hwork, hdrained⟩ := s.exists_drained
    obtain ⟨hsame, hsensors⟩ := path_alike hp hwork
    rw [← (hsensors k).1, Sensor.eventually_of_drained (hdrained k)]
    exact hs h t hp hwork hdrained (hsame.trans hlit) k
  · intro hs h t hp hwork hdrained hlit k
    obtain ⟨hsame, hsensors⟩ := path_alike hp hwork
    rw [← Sensor.eventually_of_drained (hdrained k), (hsensors k).1]
    exact hs (hsame.symm.trans hlit) k

/-! ## The service over a run -/

/-- `ACTION_SCREEN_ON` finds the preference of every sensor set that is
registered, or comes to be by what is queued. -/
def Preferred (s : State) (e : Event) : Prop :=
  e = .screenOn → ∀ k, (s.service.sensors k).eventually = true → s.service.isEnabled k = true

/-- **What holds between the steps**: a sensor that the device does not have
is never registered, and the others are released. -/
structure Inv (s : State) : Prop where
  absent : ∀ k, (s.service.sensors k).sensor = false → (s.service.sensors k).eventually = false
  released : s.lit = true → ∀ k, (s.service.sensors k).eventually = false

/-- A sensor after `disable`. -/
theorem Inv.disable (h : Inv s) (k : Kind) :
    (s.service.sensors k).disable.eventually = false := by
  cases hk : (s.service.sensors k).sensor with
  | true => exact Sensor.eventually_disable hk
  | false =>
      rw [Sensor.disable, hk, if_neg (by simp)]
      exact h.absent k hk

/-- The broadcast that turns the display on. -/
theorem Inv.onDisplayOn (h : Inv s) (he : Preferred s .screenOn) :
    Inv ⟨s.service.onDisplayOn, true⟩ := by
  have hoff : ∀ k, (s.service.onDisplayOn.sensors k).eventually = false := by
    intro k
    show (if s.service.isEnabled k then (s.service.sensors k).disable
      else s.service.sensors k).eventually = false
    split_ifs with hk
    · exact h.disable k
    · rw [← Bool.not_eq_true]
      intro hon
      exact hk (he rfl k hon)
  exact ⟨fun k _ => hoff k, fun _ k => hoff k⟩

/-- The broadcast that turns it off. -/
theorem Inv.onDisplayOff (h : Inv s) : Inv ⟨s.service.onDisplayOff, false⟩ := by
  constructor
  · intro k
    show (if s.service.isEnabled k then (s.service.sensors k).enable
      else s.service.sensors k).sensor = false →
      (if s.service.isEnabled k then (s.service.sensors k).enable
        else s.service.sensors k).eventually = false
    split_ifs with hk
    · intro hno
      rw [Sensor.enable_sensor] at hno
      rw [Sensor.enable, hno, if_neg (by simp)]
      exact h.absent k hno
    · exact h.absent k
  · intro hlit
    cases hlit

theorem Inv.step (h : Inv s) (he : Preferred s e) (hstep : step s e = some t) : Inv t := by
  cases hwork : e.isWork with
  | true =>
      obtain ⟨hlit, hsensors⟩ := step_alike hwork hstep
      constructor
      · intro k hk
        rw [(hsensors k).2] at hk
        rw [(hsensors k).1]
        exact h.absent k hk
      · intro ht k
        rw [(hsensors k).1]
        exact h.released (hlit.symm.trans ht) k
  | false =>
      cases e with
      | screenOn =>
          simp only [State.step, Option.ite_none_left_eq_some, Option.some.injEq] at hstep
          obtain ⟨-, rfl⟩ := hstep
          exact h.onDisplayOn he
      | screenOff =>
          simp only [State.step, Option.ite_none_left_eq_some, Option.some.injEq] at hstep
          obtain ⟨-, rfl⟩ := hstep
          exact h.onDisplayOff
      | onDestroy =>
          simp only [State.step, Option.ite_none_left_eq_some, Option.some.injEq] at hstep
          obtain ⟨-, rfl⟩ := hstep
          exact ⟨fun k _ => h.disable k, fun _ k => h.disable k⟩
      | setPickUp value =>
          cases hstep
          exact ⟨h.absent, h.released⟩
      | setPocket value =>
          cases hstep
          exact ⟨h.absent, h.released⟩
      | start k => cases hwork
      | run k => cases hwork

/-- A registered sensor whose preference was taken back stays registered. -/
theorem not_settles_of_not_preferred (he : ¬ Preferred s e) (hstep : step s e = some t) :
    ¬ Settles t := by
  simp only [Preferred, Classical.not_imp, not_forall] at he
  obtain ⟨rfl, k, hon, hk⟩ := he
  simp only [State.step, Option.ite_none_left_eq_some, Option.some.injEq] at hstep
  obtain ⟨-, rfl⟩ := hstep
  rw [settles_iff]
  intro hoff
  have hsame : s.service.onDisplayOn.sensors k = s.service.sensors k := if_neg hk
  have hfalse := hoff rfl k
  rw [hsame, hon] at hfalse
  cases hfalse

/-- **When the sensors are released.** For every pair of sensors, every
setting of the preferences and every run of broadcasts, changes of the
preferences, executor steps and `onDestroy`: whenever the last event is
`ACTION_SCREEN_ON` or `onDestroy`, no listener is registered once the
executors are drained, if and only if every `ACTION_SCREEN_ON` finds the
preferences set of the sensors that are registered or come to be. -/
theorem settles_always_iff (pickup pocket : Bool) (prefs : SharedPreferences)
    (h : List (State × Event)) (q : State) (hp : Path step (created pickup pocket prefs) h q) :
    ((∀ x ∈ h, Settles x.1) ∧ Settles q) ↔ ∀ x ∈ h, Preferred x.1 x.2 := by
  apply hp.always_iff Settles Inv Preferred
  · exact fun _ _ _ hs he hstep => hs.step he hstep
  · exact fun _ hs => settles_iff.mpr hs.released
  · exact fun _ _ _ _ he hstep => not_settles_of_not_preferred he hstep
  · constructor
    · intro k _
      cases k <;> rfl
    · intro hlit
      cases hlit

end State

/-- Two nights: both sensors are registered in the first one. Pick-up is
switched off between them, with its listener still to be unregistered. -/
def twoNights : List Event :=
  [.screenOff, .start .pickup, .run .pickup, .screenOn, .setPickUp (some "0"), .start .pocket,
    .run .pocket, .start .pickup, .run .pickup, .screenOff, .start .pocket, .run .pocket,
    .screenOn, .start .pocket, .run .pocket, .onDestroy]

theorem settles_always_iff_two_nights :
    ∃ r ∈ follow State.step (State.created true true ⟨some "1", some true⟩) twoNights,
      ((∀ x ∈ r.1, x.1.Settles) ∧ r.2.Settles) := by
  have hrun : ∃ r ∈ follow State.step (State.created true true ⟨some "1", some true⟩) twoNights,
      r.1.all (fun x =>
        (!(x.1.service.sensors .pickup).eventually || x.1.service.isEnabled .pickup) &&
          x.1.service.isEnabled .pocket) = true := by
    decide +kernel
  obtain ⟨r, hr, hon⟩ := hrun
  refine ⟨r, hr, ?_⟩
  rw [State.settles_always_iff true true ⟨some "1", some true⟩ r.1 r.2 (path_of_follow hr)]
  intro x hx _ k hk
  have hboth := List.all_eq_true.mp hon x hx
  rw [Bool.and_eq_true] at hboth
  cases k with
  | pickup => simpa [hk] using hboth.1
  | pocket => exact hboth.2

/-- **A preference taken back**: pick-up is switched off while the display
is off, and the sensor stays registered when it is on. -/
theorem pickup_stays_registered :
    ∃ r ∈ follow State.step (State.created true true ⟨some "1", some false⟩)
        [.screenOff, .start .pickup, .run .pickup, .setPickUp (some "0"), .screenOn],
      r.2.lit = true ∧ (∀ k, (r.2.service.sensors k).executorService = .idle) ∧
        (r.2.service.sensors .pickup).registered = true ∧ ¬ r.2.Settles := by
  refine ⟨_, rfl, rfl, ?_, rfl, ?_⟩
  · intro k
    cases k <;> rfl
  · intro h
    have hoff := State.settles_iff.mp h rfl .pickup
    cases hoff

end OplusHardware.Doze
