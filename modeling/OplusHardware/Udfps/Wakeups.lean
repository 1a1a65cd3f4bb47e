import OplusHardware.Udfps.Sections

/-!
# Udfps — no change goes unnoticed

The run thread sleeps in two places, in `poll` while the sensor is on and
in `mWaitCV.wait` while it is not. Each of them has a channel of its own
that a client wakes it up by: a byte in the pipe, and a notification. A
call of `setOperationMode` writes its byte only after it has given the
mutex back, so for a while the byte is still to come.
-/

namespace OplusHardware.Udfps

open OplusHardware.Base

namespace UdfpsSensor

variable {s t : UdfpsSensor} {a : Action}

/-- What the run thread has not seen yet will wake it up. It enters `poll`
with the sensor on, and no byte is taken from the pipe while it is there;
so a pipe found empty means that no `activate` has changed anything since,
and that every `setOperationMode` since then still owes its byte. -/
structure Noticed (s : UdfpsSensor) : Prop where
  enabled : s.pc = .polling → s.waitPipe = 0 → s.mIsEnabled = true
  polling : s.pc = .polling → s.on = false → 0 < s.waitPipe ∨ 0 < s.modeCalls
  waiting : s.pc = .waiting → s.on = true → s.notified = true

/-- Outside its two places to sleep the run thread looks for itself. -/
theorem Noticed.awake (hp : s.pc ≠ .polling) (hw : s.pc ≠ .waiting) : s.Noticed where
  enabled := fun h => absurd h hp
  polling := fun h => absurd h hp
  waiting := fun h => absurd h hw

/-- It goes to sleep on `mWaitCV` only with the sensor off. -/
theorem Noticed.asleep (hp : s.pc = .waiting) (hoff : s.on = false) : s.Noticed where
  enabled := by simp [hp]
  polling := by simp [hp]
  waiting := by simp [hoff]

/-- A byte in the pipe is enough for `poll`. -/
theorem Noticed.byte (hpos : 0 < s.waitPipe)
    (hw : s.pc = .waiting → s.on = true → s.notified = true) : s.Noticed where
  enabled := by
    intro _ h0
    omega
  polling := fun _ _ => .inl hpos
  waiting := hw

/-- And so is a call that owes one. -/
theorem Noticed.owed (he : s.pc = .polling → s.waitPipe = 0 → s.mIsEnabled = true)
    (hpos : 0 < s.modeCalls) (hw : s.pc = .waiting → s.on = true → s.notified = true) :
    s.Noticed where
  enabled := he
  polling := fun _ _ => .inr hpos
  waiting := hw

theorem Noticed.step (hi : s.Noticed) (hs : step s a = some t) : t.Noticed := by
  cases step_cases hs with
  | activateSame hfree hb => exact hi
  | activateChange hfree hb => exact .byte (Nat.succ_pos _) fun _ _ => rfl
  | modeSame hfree hm => exact .owed hi.enabled (Nat.succ_pos _) hi.waiting
  | modeChange hfree hm => exact .owed hi.enabled (Nat.succ_pos _) fun _ _ => rfl
  | interrupt hc => exact .byte (Nat.succ_pos _) hi.waiting
  | notify => exact ⟨hi.enabled, hi.polling, hi.waiting⟩
  | begin hp => exact .awake (by simp) (by simp)
  | finish hp hstop => exact .awake (by simp) (by simp)
  | sleep hp hstop hoff => exact .asleep rfl hoff
  | poll hp hstop hon =>
      have hboth := on_eq_true_iff.mp hon
      refine ⟨fun _ _ => hboth.1, fun _ hoff => ?_, by simp⟩
      have hoff : s.on = false := hoff
      rw [hon] at hoff
      cases hoff
  | wakeUp hp hon => exact .awake (by simp) (by simp)
  | sleepOn hp hoff =>
      rw [Bool.or_eq_false_iff] at hoff
      exact .asleep rfl hoff.1
  | pollReturn hp hready => exact .awake (by simp) (by simp)
  | pollFail hp => exact .awake (by simp) (by simp)
  | failed hp => exact .awake (by simp) (by simp)
  | post hp hread hreport => exact .awake (by simp) (by simp)
  | discard hp hquiet => exact .awake (by simp) (by simp)
  | drain hp => exact .awake (by simp) (by simp)

theorem Run.noticed {h : List (UdfpsSensor × Action)} {sensorHandle mScreenX mScreenY : Int32}
    (hp : Run sensorHandle mScreenX mScreenY h s) : s.Noticed :=
  hp.inv Noticed (fun _ _ => True) (fun _ _ _ hi _ hs => hi.step hs)
    (.awake (by simp [construct]) (by simp [construct])) (fun _ _ => trivial)

end UdfpsSensor

namespace Threads

open UdfpsSensor (Action construct)

variable {m : Threads} {h : List (Threads × Move)} {sensorHandle mScreenX mScreenY : Int32}

theorem Run.noticed (hp : Run sensorHandle mScreenX mScreenY h m) (hc : m.client = none) :
    m.sensor.Noticed := by
  obtain ⟨h', hp'⟩ := hp.sensor hc
  exact hp'.noticed

/-- **Every change reaches the run thread.** In every interleaving of the
run thread with the statements of any number of calls, where no call holds
the mutex: if the run thread is in `poll` with the sensor disabled or in
data injection, there is a byte in the pipe, or the mode is what has
changed and a call that is done with setting it has yet to write its byte;
and if it sleeps on `mWaitCV` with the sensor enabled and in `NORMAL`
mode, it has been notified since it went to sleep. -/
theorem changes_noticed (sensorHandle mScreenX mScreenY : Int32)
    (h : List (Threads × Move)) (m : Threads)
    (hp : Run sensorHandle mScreenX mScreenY h m) (hc : m.client = none) :
    (m.sensor.pc = .polling →
      m.sensor.mIsEnabled = false ∨ m.sensor.mMode = .dataInjection →
      0 < m.sensor.waitPipe ∨ m.sensor.mMode = .dataInjection ∧ 0 < m.sensor.modeCalls) ∧
    (m.sensor.pc = .waiting → m.sensor.mIsEnabled = true → m.sensor.mMode = .normal →
      m.sensor.notified = true) := by
  have hn := hp.noticed hc
  constructor
  · intro hpoll hoff
    by_cases hpos : 0 < m.sensor.waitPipe
    · exact .inl hpos
    · right
      have hempty : m.sensor.waitPipe = 0 := by omega
      have hon := hn.enabled hpoll hempty
      have hcall := (hn.polling hpoll (UdfpsSensor.on_eq_false_iff.mpr hoff)).resolve_left hpos
      constructor
      · rcases hoff with hdis | hmode
        · rw [hon] at hdis
          cases hdis
        · exact hmode
      · exact hcall
  · intro hwait he hm
    exact hn.waiting hwait (UdfpsSensor.on_eq_true_iff.mpr ⟨he, hm⟩)

/-- A whole `activate(true)` finds the run thread asleep. -/
def activated : List Move :=
  [.other .begin, .other .loop, .lockActivate true, .statement, .statement, .statement,
    .statement]

/-- Then the run thread takes the byte and goes back to `poll`, and
`setOperationMode(DATA_INJECTION)` has given the mutex back. -/
def modeChanged : List Move :=
  activated ++
    [.other (.wake false), .other .loop, .other .pollReturn,
      .other (.relock UdfpsSensor.pressAt 1), .other .loop, .lockMode .dataInjection,
      .statement, .statement, .statement]

theorem changes_noticed_two_calls :
    (∃ r ∈ follow step (start 1 0 0) activated,
      r.2.sensor.pc = .waiting ∧ r.2.sensor.notified = true) ∧
    ∃ r ∈ follow step (start 1 0 0) modeChanged,
      r.2.sensor.pc = .polling ∧ r.2.sensor.waitPipe = 0 ∧ 0 < r.2.sensor.modeCalls := by
  have hwait : ∃ r ∈ follow step (start 1 0 0) activated, r.2.client = none ∧
      r.2.sensor.pc = .waiting ∧ r.2.sensor.mIsEnabled = true ∧
      r.2.sensor.mMode = .normal := by
    decide +kernel
  have hpoll : ∃ r ∈ follow step (start 1 0 0) modeChanged, r.2.client = none ∧
      r.2.sensor.pc = .polling ∧ r.2.sensor.mMode = .dataInjection ∧
      r.2.sensor.waitPipe = 0 := by
    decide +kernel
  constructor
  · obtain ⟨r, hr, hc, hpc, he, hm⟩ := hwait
    have hn := (changes_noticed 1 0 0 r.1 r.2 (path_of_follow hr) hc).2 hpc he hm
    exact ⟨r, hr, hpc, hn⟩
  · obtain ⟨r, hr, hc, hpc, hm, hempty⟩ := hpoll
    have hn := (changes_noticed 1 0 0 r.1 r.2 (path_of_follow hr) hc).1 hpc (.inr hm)
    rcases hn with hpos | ⟨-, hcall⟩
    · omega
    · exact ⟨r, hr, hpc, hempty, hcall⟩

end Threads

end OplusHardware.Udfps
