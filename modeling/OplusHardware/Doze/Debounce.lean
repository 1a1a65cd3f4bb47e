import OplusHardware.Doze.Sensors

/-!
# Doze — the pulse interval

`PickupSensor` and `PocketSensor` let a pulse through only
`MIN_PULSE_INTERVAL_MS` after `entryTimestamp`. The listener runs on the
main thread, and a registration sets the same field on the executor;
nothing orders the two. Here every read of the clock and every access to
the field is a step.
-/

namespace OplusHardware.Doze

open OplusHardware.Base

/-! ## The listener -/

def minPulseIntervalMs : Int := 2500

/-- `==` on two `Float`s, by their bits: no NaN equals anything, and the two
zeros are equal. -/
def floatEq (a b : UInt32) : Bool :=
  let magnitude (x : UInt32) := x &&& 0x7fffffff
  magnitude a ≤ 0x7f800000 && magnitude b ≤ 0x7f800000 &&
    (a = b || (magnitude a = 0 && magnitude b = 0))

/-- The statements of the two tasks. What a registration has read from the
clock waits in its `setEntryTimestamp`. -/
inductive Statement where
  | readClock
  | setEntryTimestamp (now : Int)
  | registerListener
  | unregisterListener
  deriving DecidableEq, Repr

def Task.statements : Task → List Statement
  | .registerListener => [.readClock, .registerListener]
  | .unregisterListener => [.unregisterListener]

theorem Task.not_mem_statements (t : Task) (now : Int) :
    .setEntryTimestamp now ∉ t.statements := by
  cases t with
  | registerListener => simp [statements]
  | unregisterListener => simp [statements]

/-- Where the main thread is in `onSensorChanged`, with `event.values[0]`. -/
inductive Handling where
  | idle
  /-- The clock is read, `entryTimestamp` is not. -/
  | clockRead (now : Int) (value : UInt32)
  /-- Past the comparison. -/
  | passed (value : UInt32)
  /-- The clock is read again. -/
  | readAgain (now : Int) (value : UInt32)
  deriving DecidableEq, Repr

/-- An event is past the comparison. -/
def Handling.pastComparison : Handling → Bool
  | .passed _ => true
  | .readAgain _ _ => true
  | _ => false

/-- What an event that gets through does. -/
inductive Pulse where
  | wakeUpWithProximityCheck
  | launchDozePulse
  deriving DecidableEq, Repr

/-- One of the two sensors, with the clock. -/
structure Listener where
  kind : Kind
  sensorValue : UInt32
  prefs : SharedPreferences
  executorService : SerialExecutor Task Statement
  entryTimestamp : Int
  registered : Bool
  handling : Handling
  elapsedRealtime : Int
  deriving DecidableEq, Repr

namespace Listener

def construct (kind : Kind) (sensorValue : UInt32) (prefs : SharedPreferences)
    (elapsedRealtime : Int) : Listener where
  kind := kind
  sensorValue := sensorValue
  prefs := prefs
  executorService := .idle
  entryTimestamp := 0
  registered := false
  handling := .idle
  elapsedRealtime := elapsedRealtime

/-- The executor's next statement. -/
def execute (l : Listener) : Option Listener :=
  match l.executorService.running with
  | [] => none
  | .readClock :: rest =>
      some { l with executorService :=
        l.executorService.goOn (.setEntryTimestamp l.elapsedRealtime :: rest) }
  | .setEntryTimestamp now :: rest =>
      some { l with executorService := l.executorService.goOn rest, entryTimestamp := now }
  | .registerListener :: rest =>
      some { l with executorService := l.executorService.goOn rest, registered := true }
  | .unregisterListener :: rest =>
      some { l with executorService := l.executorService.goOn rest, registered := false }

/-- The main thread's next statement in `onSensorChanged`. -/
def handle (l : Listener) : Option Listener :=
  match l.handling with
  | .idle => none
  | .clockRead now value =>
      if now - l.entryTimestamp < minPulseIntervalMs then some { l with handling := .idle }
      else some { l with handling := .passed value }
  | .passed value => some { l with handling := .readAgain l.elapsedRealtime value }
  | .readAgain now _ => some { l with entryTimestamp := now, handling := .idle }

/-- What the end of `onSensorChanged` does with the event. -/
def pulse (l : Listener) (value : UInt32) : Option Pulse :=
  if !floatEq value l.sensorValue then none
  else
    match l.kind with
    | .pickup =>
        some (if l.prefs.isPickUpSetToWake then .wakeUpWithProximityCheck else .launchDozePulse)
    | .pocket => some .launchDozePulse

inductive Action where
  | enable
  | disable
  /-- The executor takes its next task. -/
  | start
  | execute
  /-- The sensor manager calls `onSensorChanged`, which reads the clock. -/
  | sensorEvent (value : UInt32)
  | handle
  | tick (ms : Nat)
  | setPreferences (prefs : SharedPreferences)
  deriving DecidableEq, Repr

def step (l : Listener) : Action → Option Listener
  | .enable => some { l with executorService := l.executorService.submit .registerListener }
  | .disable => some { l with executorService := l.executorService.submit .unregisterListener }
  | .start =>
      match l.executorService.running, l.executorService.queue with
      | [], t :: queue => some { l with executorService := ⟨queue, t.statements⟩ }
      | _, _ => none
  | .execute => l.execute
  | .sensorEvent value =>
      if l.registered ∧ l.handling = .idle then
        some { l with handling := .clockRead l.elapsedRealtime value }
      else none
  | .handle => l.handle
  | .tick ms => some { l with elapsedRealtime := l.elapsedRealtime + ms }
  | .setPreferences prefs => some { l with prefs := prefs }

/-- The `entryTimestamp` of the event a step lets through, and what it
launches. -/
def launched (x : Listener × Action) : Option (Int × Pulse) :=
  match x.2, x.1.handling with
  | .handle, .readAgain now value => (x.1.pulse value).map fun p => (now, p)
  | _, _ => none

/-- The stamp a registration writes in a step. -/
def restamped (x : Listener × Action) : Option Int :=
  match x.2, x.1.executorService.running with
  | .execute, .setEntryTimestamp now :: _ => some now
  | _, _ => none

/-! ## What a step does -/

/-- **The ways a step goes.** -/
inductive StepCase (l : Listener) : Action → Listener → Prop where
  | submit {a : Action} (t : Task) (ha : a = .enable ∨ a = .disable) :
      StepCase l a { l with executorService := l.executorService.submit t }
  | start {t : Task} {queue : List Task} (hrun : l.executorService.running = []) :
      StepCase l .start { l with executorService := ⟨queue, t.statements⟩ }
  | readClock {rest : List Statement} (hrun : l.executorService.running = .readClock :: rest) :
      StepCase l .execute
        { l with executorService :=
          l.executorService.goOn (.setEntryTimestamp l.elapsedRealtime :: rest) }
  | restamp {now : Int} {rest : List Statement}
      (hrun : l.executorService.running = .setEntryTimestamp now :: rest) :
      StepCase l .execute
        { l with executorService := l.executorService.goOn rest, entryTimestamp := now }
  | register {s : Statement} {rest : List Statement} (registered : Bool)
      (hs : s = .registerListener ∨ s = .unregisterListener)
      (hrun : l.executorService.running = s :: rest) :
      StepCase l .execute
        { l with executorService := l.executorService.goOn rest, registered := registered }
  | sensorEvent (value : UInt32) :
      StepCase l (.sensorEvent value)
        { l with handling := .clockRead l.elapsedRealtime value }
  | early {now : Int} {value : UInt32} (hh : l.handling = .clockRead now value) :
      StepCase l .handle { l with handling := .idle }
  | pass {now : Int} {value : UInt32} (hh : l.handling = .clockRead now value)
      (hdue : l.entryTimestamp + minPulseIntervalMs ≤ now) :
      StepCase l .handle { l with handling := .passed value }
  | readAgain {value : UInt32} (hh : l.handling = .passed value) :
      StepCase l .handle { l with handling := .readAgain l.elapsedRealtime value }
  | letThrough {now : Int} {value : UInt32} (hh : l.handling = .readAgain now value) :
      StepCase l .handle { l with entryTimestamp := now, handling := .idle }
  | tick (ms : Nat) : StepCase l (.tick ms) { l with elapsedRealtime := l.elapsedRealtime + ms }
  | setPreferences (prefs : SharedPreferences) :
      StepCase l (.setPreferences prefs) { l with prefs := prefs }

variable {l l' : Listener} {a : Action} {h : List (Listener × Action)} {T : Int}

theorem execute_cases (hs : l.execute = some l') : StepCase l .execute l' := by
  unfold execute at hs
  split at hs
  · cases hs
  · rename_i rest hrun
    cases hs
    exact .readClock hrun
  · rename_i now rest hrun
    cases hs
    exact .restamp hrun
  · rename_i rest hrun
    cases hs
    exact .register true (.inl rfl) hrun
  · rename_i rest hrun
    cases hs
    exact .register false (.inr rfl) hrun

theorem handle_cases (hs : l.handle = some l') : StepCase l .handle l' := by
  unfold handle at hs
  split at hs
  · cases hs
  · rename_i now value hh
    split at hs
    · cases hs
      exact .early hh
    · rename_i hdue
      cases hs
      exact .pass hh (by omega)
  · rename_i value hh
    cases hs
    exact .readAgain hh
  · rename_i now value hh
    cases hs
    exact .letThrough hh

theorem step_cases (hs : step l a = some l') : StepCase l a l' := by
  cases a with
  | enable =>
      cases hs
      exact .submit .registerListener (.inl rfl)
  | disable =>
      cases hs
      exact .submit .unregisterListener (.inr rfl)
  | start =>
      simp only [step] at hs
      split at hs
      · rename_i t queue hrun hq
        cases hs
        exact .start hrun
      · cases hs
  | execute => exact execute_cases hs
  | sensorEvent value =>
      simp only [step, Option.ite_none_right_eq_some] at hs
      obtain ⟨-, hs⟩ := hs
      cases hs
      exact .sensorEvent value
  | handle => exact handle_cases hs
  | tick ms =>
      cases hs
      exact .tick ms
  | setPreferences prefs =>
      cases hs
      exact .setPreferences prefs

/-! ## The clock -/

/-- What has been read from the clock is not after it, and a task stores
its stamp right after it has read it. -/
structure Clocked (l : Listener) : Prop where
  stamp : ∀ now, .setEntryTimestamp now ∈ l.executorService.running → now ≤ l.elapsedRealtime
  rest : ∀ now s rest, l.executorService.running = s :: rest → .setEntryTimestamp now ∉ rest
  clockRead : ∀ now value, l.handling = .clockRead now value → now ≤ l.elapsedRealtime

theorem Clocked.step (hi : l.Clocked) (hs : Listener.step l a = some l') : l'.Clocked := by
  obtain ⟨hstamp, hrest, hread⟩ := hi
  cases step_cases hs with
  | submit t ha => exact ⟨hstamp, hrest, hread⟩
  | @start t queue hrun =>
      refine ⟨fun now hmem => absurd hmem (t.not_mem_statements now), ?_, hread⟩
      intro now s rest hcons hmem
      have hcons : t.statements = s :: rest := hcons
      exact t.not_mem_statements now (hcons ▸ List.mem_cons_of_mem _ hmem)
  | @readClock rest hrun =>
      refine ⟨?_, ?_, hread⟩
      · intro now hmem
        rcases List.mem_cons.mp hmem with heq | hmem
        · cases heq
          exact Int.le_refl _
        · exact absurd hmem (hrest now _ _ hrun)
      · intro now s rest' hcons
        cases hcons
        exact hrest now _ _ hrun
  | @restamp now rest hrun =>
      have hnone : ∀ now, .setEntryTimestamp now ∉ rest := fun now => hrest now _ _ hrun
      refine ⟨fun now hmem => absurd hmem (hnone now), ?_, hread⟩
      intro now s rest' hcons hmem
      have hcons : rest = s :: rest' := hcons
      exact hnone now (hcons ▸ List.mem_cons_of_mem _ hmem)
  | @register s rest registered hs hrun =>
      have hnone : ∀ now, .setEntryTimestamp now ∉ rest := fun now => hrest now _ _ hrun
      refine ⟨fun now hmem => absurd hmem (hnone now), ?_, hread⟩
      intro now s rest' hcons hmem
      have hcons : rest = s :: rest' := hcons
      exact hnone now (hcons ▸ List.mem_cons_of_mem _ hmem)
  | sensorEvent value =>
      refine ⟨hstamp, hrest, ?_⟩
      intro now value hh
      cases hh
      exact Int.le_refl _
  | early hh => exact ⟨hstamp, hrest, fun _ _ hh => by cases hh⟩
  | pass hh hdue => exact ⟨hstamp, hrest, fun _ _ hh => by cases hh⟩
  | readAgain hh => exact ⟨hstamp, hrest, fun _ _ hh => by cases hh⟩
  | letThrough hh => exact ⟨hstamp, hrest, fun _ _ hh => by cases hh⟩
  | tick ms =>
      refine ⟨?_, hrest, ?_⟩
      · intro now hmem
        have := hstamp now hmem
        show now ≤ l.elapsedRealtime + ms
        omega
      · intro now value hh
        have := hread now value hh
        show now ≤ l.elapsedRealtime + ms
        omega
  | setPreferences prefs => exact ⟨hstamp, hrest, hread⟩

theorem clocked_construct (kind : Kind) (sensorValue : UInt32) (prefs : SharedPreferences)
    (elapsedRealtime : Int) : (construct kind sensorValue prefs elapsedRealtime).Clocked where
  stamp now hmem := by simp [construct, SerialExecutor.idle] at hmem
  rest now s rest hcons := by simp [construct, SerialExecutor.idle] at hcons
  clockRead now value hh := by cases hh

/-! ## The interval after a stamp -/

/-- `entryTimestamp` is not before `T`, and what is past the comparison has
been compared with it. -/
structure After (T : Int) (l : Listener) : Prop where
  entry : T ≤ l.entryTimestamp
  passed : ∀ value, l.handling = .passed value → T + minPulseIntervalMs ≤ l.elapsedRealtime
  readAgain : ∀ now value, l.handling = .readAgain now value → T + minPulseIntervalMs ≤ now

/-- **One step** keeps the interval, or registers with a stamp from before
it. -/
theorem After.step (hc : l.Clocked) (hi : After T l) (hs : Listener.step l a = some l') :
    After T l' ∨ ∃ stamp, restamped (l, a) = some stamp ∧ stamp < T := by
  have hperiod : minPulseIntervalMs = 2500 := rfl
  obtain ⟨hentry, hpassed, hagain⟩ := hi
  cases step_cases hs with
  | submit t ha => exact .inl ⟨hentry, hpassed, hagain⟩
  | start hrun => exact .inl ⟨hentry, hpassed, hagain⟩
  | readClock hrun => exact .inl ⟨hentry, hpassed, hagain⟩
  | @restamp now rest hrun =>
      by_cases hold : now < T
      · exact .inr ⟨now, by simp [restamped, hrun], hold⟩
      · exact .inl ⟨Int.not_lt.mp hold, hpassed, hagain⟩
  | register registered hs hrun => exact .inl ⟨hentry, hpassed, hagain⟩
  | sensorEvent value =>
      exact .inl ⟨hentry, fun _ hh => (by cases hh), fun _ _ hh => (by cases hh)⟩
  | early hh => exact .inl ⟨hentry, fun _ hh => (by cases hh), fun _ _ hh => (by cases hh)⟩
  | @pass now value hh hdue =>
      left
      refine ⟨hentry, ?_, fun _ _ hh => by cases hh⟩
      intro value' _
      have hclock := hc.clockRead now value hh
      show T + minPulseIntervalMs ≤ l.elapsedRealtime
      omega
  | @readAgain value hh =>
      left
      refine ⟨hentry, fun _ hh => (by cases hh), ?_⟩
      intro now value' hh'
      cases hh'
      exact hpassed value hh
  | @letThrough now value hh =>
      left
      have hlate := hagain now value hh
      refine ⟨?_, fun _ hh => (by cases hh), fun _ _ hh => (by cases hh)⟩
      show T ≤ now
      omega
  | tick ms =>
      left
      refine ⟨hentry, ?_, hagain⟩
      intro value hh
      have := hpassed value hh
      show T + minPulseIntervalMs ≤ l.elapsedRealtime + ms
      omega
  | setPreferences prefs => exact .inl ⟨hentry, hpassed, hagain⟩

/-- The executor has no stamp from before `T`, and gets none. -/
structure Fresh (T : Int) (l : Listener) : Prop where
  stamp : ∀ now, .setEntryTimestamp now ∈ l.executorService.running → T ≤ now
  clock : T ≤ l.elapsedRealtime

theorem Fresh.step (hi : Fresh T l) (hs : Listener.step l a = some l') : Fresh T l' := by
  obtain ⟨hstamp, hclock⟩ := hi
  cases step_cases hs with
  | @start t queue hrun =>
      exact ⟨fun now hmem => absurd hmem (t.not_mem_statements now), hclock⟩
  | @readClock rest hrun =>
      refine ⟨?_, hclock⟩
      intro now hmem
      rcases List.mem_cons.mp hmem with heq | hmem
      · cases heq
        exact hclock
      · exact hstamp now (hrun ▸ List.mem_cons_of_mem _ hmem)
  | restamp hrun =>
      exact ⟨fun now hmem => hstamp now (hrun ▸ List.mem_cons_of_mem _ hmem), hclock⟩
  | register registered hs hrun =>
      exact ⟨fun now hmem => hstamp now (hrun ▸ List.mem_cons_of_mem _ hmem), hclock⟩
  | tick ms =>
      refine ⟨hstamp, ?_⟩
      show T ≤ l.elapsedRealtime + ms
      omega
  | submit t ha => exact ⟨hstamp, hclock⟩
  | sensorEvent value => exact ⟨hstamp, hclock⟩
  | early hh => exact ⟨hstamp, hclock⟩
  | pass hh hdue => exact ⟨hstamp, hclock⟩
  | readAgain hh => exact ⟨hstamp, hclock⟩
  | letThrough hh => exact ⟨hstamp, hclock⟩
  | setPreferences prefs => exact ⟨hstamp, hclock⟩

theorem Fresh.restamped (hi : Fresh T l) {stamp : Int}
    (hr : Listener.restamped (l, a) = some stamp) : T ≤ stamp := by
  unfold Listener.restamped at hr
  split at hr
  · rename_i hrun
    cases hr
    exact hi.stamp stamp (hrun ▸ List.mem_cons_self)
  · cases hr

/-- The step that lets an event through. -/
theorem launched_cases {p : Pulse} (hl : launched (l, a) = some (T, p)) :
    a = .handle ∧ ∃ value, l.handling = .readAgain T value := by
  unfold launched at hl
  split at hl
  · rename_i now value ha hh
    rw [Option.map_eq_some_iff] at hl
    obtain ⟨q, -, heq⟩ := hl
    cases heq
    exact ⟨ha, value, hh⟩
  · cases hl

/-- The step that writes a stamp, and the state it leads to when no event is
past the comparison. -/
theorem restamped_after (hc : l.Clocked) (hr : restamped (l, a) = some T)
    (hearly : l.handling.pastComparison = false) (hs : step l a = some l') :
    After T l' ∧ Fresh T l' := by
  unfold restamped at hr
  split at hr
  · rename_i now rest ha hrun
    cases hr
    have ha : a = .execute := ha
    subst ha
    have hrun : l.executorService.running = .setEntryTimestamp T :: rest := hrun
    simp only [step, execute, hrun, Option.some.injEq] at hs
    subst hs
    constructor
    · refine ⟨Int.le_refl _, ?_, ?_⟩
      · intro value hh
        have hh : l.handling = .passed value := hh
        rw [hh] at hearly
        cases hearly
      · intro now value hh
        have hh : l.handling = .readAgain now value := hh
        rw [hh] at hearly
        cases hearly
    · refine ⟨fun now hmem => absurd hmem (hc.rest now _ _ hrun), ?_⟩
      exact hc.stamp T (hrun ▸ List.mem_cons_self)
  · cases hr

/-! ## Whole runs -/

/-- **The pulse interval and its race.** In every interleaving of the main
thread with the executor, statement by statement: where two pulses come
less than 2500 ms apart, a registration in between has written a stamp that
it had read from the clock before the first of them; and where a pulse
comes less than 2500 ms after the stamp of a registration, its event, or
one before it, was past the comparison when the stamp was written. -/
theorem pulses_apart (kind : Kind) (sensorValue : UInt32) (prefs : SharedPreferences)
    (elapsedRealtime : Int) (h : List (Listener × Action)) (l : Listener)
    (hp : Path step (construct kind sensorValue prefs elapsedRealtime) h l)
    (pre mid post : List (Listener × Action)) (x y : Listener × Action)
    (heq : h = pre ++ x :: (mid ++ y :: post)) (T T' : Int) (p' : Pulse)
    (hy : launched y = some (T', p')) (hclose : T' < T + minPulseIntervalMs) :
    (∀ p, launched x = some (T, p) → ∃ z ∈ mid, ∃ stamp, restamped z = some stamp ∧ stamp < T) ∧
    (restamped x = some T → x.1.handling.pastComparison = true) := by
  subst heq
  obtain ⟨hpre, u, hu, hrest⟩ := hp.at_step
  obtain ⟨hmid, -⟩ := hrest.at_step
  have hclocked : x.1.Clocked := hpre.inv Clocked (fun _ _ => True)
    (fun _ _ _ hi _ hs => hi.step hs) (clocked_construct _ _ _ _) (fun _ _ => trivial)
  obtain ⟨-, value, hhandling⟩ := launched_cases hy
  obtain ⟨l, a⟩ := x
  constructor
  · intro p hx
    obtain ⟨rfl, value', hh⟩ := launched_cases hx
    have hstart : u.Clocked ∧ After T u := by
      refine ⟨hclocked.step hu, ?_⟩
      simp only [step, handle, hh, Option.some.injEq] at hu
      subst hu
      exact ⟨Int.le_refl _, fun _ hh => (by cases hh), fun _ _ hh => (by cases hh)⟩
    rcases hmid.inv_or_exit (fun l => l.Clocked ∧ After T l)
        (fun l a => ∃ stamp, restamped (l, a) = some stamp ∧ stamp < T) (fun _ _ => True)
        (fun l a l' hi _ hs => by
          rcases hi.2.step hi.1 hs with hafter | hexit
          · exact .inl ⟨hi.1.step hs, hafter⟩
          · exact .inr hexit) hstart (fun _ _ => trivial) with hafter | hexit
    · have hlate := hafter.2.readAgain T' value hhandling
      omega
    · obtain ⟨before, z, after, rfl, -, hz⟩ := hexit
      exact ⟨z, by simp, hz⟩
  · intro hx
    by_contra hearly
    have hstart : u.Clocked ∧ After T u ∧ Fresh T u :=
      ⟨hclocked.step hu, restamped_after hclocked hx (by simpa using hearly) hu⟩
    have hend := hmid.inv (fun l => l.Clocked ∧ After T l ∧ Fresh T l) (fun _ _ => True)
      (fun l a l' hi _ hs => by
        refine ⟨hi.1.step hs, ?_, hi.2.2.step hs⟩
        rcases hi.2.1.step hi.1 hs with hafter | ⟨stamp, hr, hold⟩
        · exact hafter
        · have hfresh := hi.2.2.restamped hr
          omega) hstart (fun _ _ => trivial)
    have hlate := hend.2.1.readAgain T' value hhandling
    omega

/-- A sensor that is registered at 10 s and reports twice, the second time
too early; then it is registered once more, and the stamp from before a
third report is written after it. -/
def twoPulses : List Action :=
  [.enable, .start, .execute, .execute, .execute, .tick 2500, .sensorEvent 1, .handle, .handle,
    .handle, .tick 100, .sensorEvent 1, .handle, .enable, .start, .tick 2300, .execute,
    .tick 100, .sensorEvent 1, .handle, .handle, .handle, .execute, .tick 2400,
    .sensorEvent 1, .handle, .handle, .handle]

theorem pulses_apart_race :
    ∃ r ∈ follow step (construct .pocket 1 ⟨none, none⟩ 10000) twoPulses,
      r.1.filterMap launched =
        [(12500, .launchDozePulse), (15000, .launchDozePulse), (17400, .launchDozePulse)] ∧
      ∃ z ∈ r.1, ∃ stamp, restamped z = some stamp ∧ stamp < 15000 := by
  have hrun : ∃ r ∈ follow step (construct .pocket 1 ⟨none, none⟩ 10000) twoPulses,
      r.1.filterMap launched =
        [(12500, .launchDozePulse), (15000, .launchDozePulse), (17400, .launchDozePulse)] ∧
      27 < r.1.length ∧ r.1[21]?.bind launched = some (15000, .launchDozePulse) ∧
      r.1[27]?.bind launched = some (17400, .launchDozePulse) := by
    decide +kernel
  obtain ⟨r, hr, hlaunched, hlen, hx, hy⟩ := hrun
  refine ⟨r, hr, hlaunched, ?_⟩
  obtain ⟨x, y, hgx, hgy, heq⟩ := exists_two_steps (i := 21) (by omega) hlen
  rw [hgx] at hx
  rw [hgy] at hy
  obtain ⟨z, hz, hstamp⟩ := (pulses_apart .pocket 1 ⟨none, none⟩ 10000 r.1 r.2
    (path_of_follow hr) _ _ _ x y heq 15000 17400 _ hy (by decide)).1 _ hx
  exact ⟨z, List.mem_of_mem_drop (List.mem_of_mem_take hz), hstamp⟩

end Listener

end OplusHardware.Doze
