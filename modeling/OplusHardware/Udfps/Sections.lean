import OplusHardware.Udfps.Runs

/-!
# Udfps — the client calls, statement by statement

`Sensor.lean` takes what a client call does with `mRunMutex` for one step.
Here every statement of a call is a step, and whatever needs no mutex may
fall between two of them: `poll` returns, the node raises a notification,
another call writes its byte to the pipe. `Threads.sensor_run` says that
nothing new comes of it: the calls take effect at one of their statements.
-/

namespace OplusHardware.Udfps

open OplusHardware.Base
open UdfpsSensor (Action construct)

/-- Where the client call that holds `mRunMutex` is. -/
inductive ClientPc where
  /-- At the comparison of `activate`. -/
  | activateIf (enable : Bool)
  /-- `mIsEnabled` is set, `interruptPoll` comes next. -/
  | activateInterrupt
  /-- The byte is written, `notify_all` comes next. -/
  | activateNotify
  /-- At the end of `activate`. -/
  | activateUnlock
  /-- At the comparison of `Sensor::setOperationMode`. -/
  | modeIf (mode : OperationMode)
  /-- `mMode` is set, `notify_all` comes next. -/
  | modeNotify
  /-- At the end of `Sensor::setOperationMode`. -/
  | modeUnlock
  deriving DecidableEq, Repr

/-- The run thread with everything it shares, and the client call that
holds the mutex. -/
structure Threads where
  sensor : UdfpsSensor
  client : Option ClientPc
  deriving DecidableEq, Repr

inductive Move where
  /-- A call of `activate` takes the mutex. -/
  | lockActivate (enable : Bool)
  /-- A call of `setOperationMode` takes the mutex. -/
  | lockMode (mode : OperationMode)
  /-- The call that holds the mutex executes its next statement. -/
  | statement
  /-- A step of the run thread or of the node, or the pipe write that ends
  a `setOperationMode`. -/
  | other (a : Action)

namespace UdfpsSensor.Action

def isCall : Action → Bool
  | .activate _ => true
  | .setOperationMode _ => true
  | _ => false

/-- The action does not need the mutex. -/
def unlocked : Action → Bool
  | .interruptPoll => true
  | .notifyFpState => true
  | .pollReturn => true
  | .pollFail => true
  | _ => false

end UdfpsSensor.Action

namespace Threads

/-! ## The machine -/

def start (sensorHandle mScreenX mScreenY : Int32) : Threads :=
  ⟨construct sensorHandle mScreenX mScreenY, none⟩

/-- One statement of the call that holds the mutex. -/
def execute (s : UdfpsSensor) : ClientPc → Threads
  | .activateIf enable =>
      if s.mIsEnabled ≠ enable then
        ⟨{ s with mIsEnabled := enable }, some .activateInterrupt⟩
      else ⟨s, some .activateUnlock⟩
  | .activateInterrupt => ⟨s.interruptPoll, some .activateNotify⟩
  | .activateNotify => ⟨s.notifyAll, some .activateUnlock⟩
  | .activateUnlock => ⟨s, none⟩
  | .modeIf mode =>
      if s.mMode ≠ mode then ⟨{ s with mMode := mode }, some .modeNotify⟩
      else ⟨s, some .modeUnlock⟩
  | .modeNotify => ⟨s.notifyAll, some .modeUnlock⟩
  -- from here the call owes its byte
  | .modeUnlock => ⟨{ s with modeCalls := s.modeCalls + 1 }, none⟩

/-- Nobody holds the mutex. -/
def lockFree (m : Threads) : Bool := m.client.isNone && m.sensor.lockFree

def step (m : Threads) : Move → Option Threads
  | .lockActivate enable =>
      if m.lockFree then some { m with client := some (.activateIf enable) } else none
  | .lockMode mode =>
      if m.lockFree then some { m with client := some (.modeIf mode) } else none
  | .statement => m.client.map (execute m.sensor)
  | .other a =>
      if !a.isCall && (m.client.isNone || a.unlocked) then
        (UdfpsSensor.step m.sensor a).map fun s => { m with sensor := s }
      else none

/-! ## The whole calls behind the statements

`activate` takes effect where it writes its byte, since that is what `poll`
can see; `setOperationMode` where it compares, since nothing of it can be
seen before its mutex is free again. -/

/-- `mIsEnabled` as it is for an `activate` that has not taken effect. -/
def wholeEnabled (mIsEnabled : Bool) : ClientPc → Bool
  | .activateInterrupt => !mIsEnabled
  | _ => mIsEnabled

/-- The call takes effect before its `notify_all`. -/
def wholeNotified (notified : Bool) : ClientPc → Bool
  | .activateNotify => true
  | .modeNotify => true
  | _ => notified

/-- The call takes effect before it releases the mutex. -/
def owed : ClientPc → Nat
  | .modeNotify => 1
  | .modeUnlock => 1
  | _ => 0

/-- The sensor of the machine with whole calls. -/
def whole (m : Threads) : UdfpsSensor :=
  match m.client with
  | none => m.sensor
  | some c =>
      { m.sensor with
        mIsEnabled := wholeEnabled m.sensor.mIsEnabled c
        notified := wholeNotified m.sensor.notified c
        modeCalls := m.sensor.modeCalls + owed c }

/-- **Mutual exclusion**: the run thread does not hold the mutex while a
client call does. -/
def Exclusive (m : Threads) : Prop := m.client ≠ none → m.sensor.pc ≠ .head

variable {m m' : Threads} {s t : UdfpsSensor} {a : Action} {c : ClientPc} {v : Move}

/-! ## What a step can do -/

inductive StepCase (m : Threads) : Move → Threads → Prop where
  | lockActivate {enable : Bool} (hfree : m.lockFree = true) :
      StepCase m (.lockActivate enable) { m with client := some (.activateIf enable) }
  | lockMode {mode : OperationMode} (hfree : m.lockFree = true) :
      StepCase m (.lockMode mode) { m with client := some (.modeIf mode) }
  | statement {c : ClientPc} (hc : m.client = some c) :
      StepCase m .statement (execute m.sensor c)
  | other {a : Action} {t : UdfpsSensor} (hcall : a.isCall = false)
      (hfree : m.client = none ∨ a.unlocked = true)
      (ht : UdfpsSensor.step m.sensor a = some t) :
      StepCase m (.other a) { m with sensor := t }

theorem step_cases (hs : step m v = some m') : StepCase m v m' := by
  cases v with
  | lockActivate enable =>
      simp only [step, Option.ite_none_right_eq_some] at hs
      obtain ⟨hfree, hs⟩ := hs
      cases hs
      exact .lockActivate hfree
  | lockMode mode =>
      simp only [step, Option.ite_none_right_eq_some] at hs
      obtain ⟨hfree, hs⟩ := hs
      cases hs
      exact .lockMode hfree
  | statement =>
      simp only [step, Option.map_eq_some_iff] at hs
      obtain ⟨c, hc, rfl⟩ := hs
      exact .statement hc
  | other a =>
      simp only [step, Option.ite_none_right_eq_some, Option.map_eq_some_iff,
        Bool.and_eq_true, Bool.or_eq_true, Bool.not_eq_true', Option.isNone_iff_eq_none] at hs
      obtain ⟨⟨hcall, hfree⟩, t, ht, rfl⟩ := hs
      exact .other hcall hfree ht

theorem lockFree_iff : m.lockFree = true ↔ m.client = none ∧ m.sensor.pc ≠ .head := by
  rw [lockFree, UdfpsSensor.lockFree, Bool.and_eq_true, Option.isNone_iff_eq_none,
    decide_eq_true_eq]

/-! ## Every step is a step of whole calls, or none -/

/-- What needs no mutex looks at nothing a call does with it, except for
the byte of `activate`, with which `activate` takes effect. -/
theorem unlocked_step (hu : a.unlocked = true) (hs : UdfpsSensor.step s a = some t) :
    UdfpsSensor.step (whole ⟨s, some c⟩) a = some (whole ⟨t, some c⟩) := by
  cases UdfpsSensor.step_cases hs with
  | interrupt hc =>
      have hmore : 0 < (whole ⟨s, some c⟩).modeCalls := Nat.add_pos_left hc _
      have hpred : s.modeCalls + owed c - 1 = s.modeCalls - 1 + owed c := by omega
      rw [UdfpsSensor.step, if_pos hmore]
      simp only [whole, UdfpsSensor.interruptPoll, hpred]
  | notify => rfl
  | pollReturn hp hready => exact if_pos ⟨hp, hready⟩
  | pollFail hp => exact if_pos hp
  | _ => cases hu

/-- Nor does it give the run thread the mutex. -/
theorem unlocked_pc (hu : a.unlocked = true) (hs : UdfpsSensor.step s a = some t)
    (hp : s.pc ≠ .head) : t.pc ≠ .head := by
  cases UdfpsSensor.step_cases hs with
  | interrupt hc => exact hp
  | notify => exact hp
  | pollReturn _ _ => simp
  | pollFail _ => simp
  | _ => cases hu

/-- A statement leaves the run thread where it is. -/
theorem execute_pc (s : UdfpsSensor) (c : ClientPc) : (execute s c).sensor.pc = s.pc := by
  cases c with
  | activateIf enable =>
      rw [execute]
      split <;> rfl
  | modeIf mode =>
      rw [execute]
      split <;> rfl
  | _ => rfl

/-- The whole call that takes effect with a statement. -/
def effect (s : UdfpsSensor) : ClientPc → Option Action
  | .activateInterrupt => some (.activate s.mIsEnabled)
  | .modeIf mode => some (.setOperationMode mode)
  | _ => none

/-- **One statement** is a whole call or nothing. -/
theorem execute_effect (hfree : s.pc ≠ .head) (c : ClientPc) :
    (effect s c = none ∧ (execute s c).whole = whole ⟨s, some c⟩) ∨
      ∃ b, effect s c = some b ∧
        UdfpsSensor.step (whole ⟨s, some c⟩) b = some (execute s c).whole := by
  cases c with
  | activateIf enable =>
      -- until it writes its byte, the call has done nothing
      left
      refine ⟨rfl, ?_⟩
      rw [execute]
      split
      · rename_i hne
        have hback : (!enable) = s.mIsEnabled := by
          cases enable <;> simp_all
        simp [whole, wholeEnabled, wholeNotified, owed, hback]
      · rfl
  | activateInterrupt =>
      right
      refine ⟨.activate s.mIsEnabled, rfl, ?_⟩
      simp [whole, wholeEnabled, wholeNotified, owed, execute, UdfpsSensor.step,
        UdfpsSensor.lockFree, UdfpsSensor.activate, UdfpsSensor.interruptPoll,
        UdfpsSensor.notifyAll, hfree]
  | activateNotify => exact .inl ⟨rfl, rfl⟩
  | activateUnlock => exact .inl ⟨rfl, rfl⟩
  | modeIf mode =>
      right
      refine ⟨.setOperationMode mode, rfl, ?_⟩
      by_cases hm : s.mMode = mode
      · simp [whole, wholeEnabled, wholeNotified, owed, execute, UdfpsSensor.step,
          UdfpsSensor.lockFree, UdfpsSensor.setOperationMode, hfree, hm]
      · simp [whole, wholeEnabled, wholeNotified, owed, execute, UdfpsSensor.step,
          UdfpsSensor.lockFree, UdfpsSensor.setOperationMode, UdfpsSensor.notifyAll, hfree, hm]
  | modeNotify => exact .inl ⟨rfl, rfl⟩
  | modeUnlock => exact .inl ⟨rfl, rfl⟩

theorem Exclusive.step (hi : m.Exclusive) (hs : step m v = some m') : m'.Exclusive := by
  cases step_cases hs with
  | lockActivate hfree => exact fun _ => (lockFree_iff.mp hfree).2
  | lockMode hfree => exact fun _ => (lockFree_iff.mp hfree).2
  | @statement c hc =>
      intro _
      rw [execute_pc]
      exact hi (by simp [hc])
  | other hcall hfree ht =>
      intro hc
      rcases hfree with hnone | hu
      · exact absurd hnone hc
      · exact unlocked_pc hu ht (hi hc)

/-- The sensor `s` of the machine with whole calls stands for `m`. -/
structure Matches (m : Threads) (s : UdfpsSensor) : Prop where
  whole : m.whole = s
  exclusive : m.Exclusive

/-- Taking the mutex is no step of a whole call. -/
theorem whole_lock (hfree : m.lockFree = true) (c : ClientPc) (hc : owed c = 0)
    (he : wholeEnabled m.sensor.mIsEnabled c = m.sensor.mIsEnabled)
    (hn : wholeNotified m.sensor.notified c = m.sensor.notified) :
    ({ m with client := some c } : Threads).whole = m.whole := by
  rw [Threads.whole, Threads.whole, (lockFree_iff.mp hfree).1]
  simp only [he, hn, hc, Nat.add_zero]

/-- **Every step** is a step of the machine with whole calls, or changes
nothing there. -/
theorem Matches.step (hi : m.Matches s) (hs : step m v = some m') :
    m'.Matches s ∨ ∃ b t, UdfpsSensor.step s b = some t ∧ m'.Matches t := by
  have hexcl := hi.exclusive.step hs
  obtain rfl := hi.whole
  obtain ⟨s, client⟩ := m
  cases step_cases hs with
  | lockActivate hfree => exact .inl ⟨whole_lock hfree (.activateIf _) rfl rfl rfl, hexcl⟩
  | lockMode hfree => exact .inl ⟨whole_lock hfree (.modeIf _) rfl rfl rfl, hexcl⟩
  | @statement c hc =>
      obtain rfl : client = some c := hc
      rcases execute_effect (hi.exclusive (by simp)) c with ⟨-, hsame⟩ | ⟨b, -, hb⟩
      · exact .inl ⟨hsame, hexcl⟩
      · exact .inr ⟨b, _, hb, rfl, hexcl⟩
  | @other a t hcall hfree ht =>
      right
      refine ⟨a, _, ?_, rfl, hexcl⟩
      cases client with
      | none => exact ht
      | some c =>
          rcases hfree with hnone | hu
          · cases hnone
          · exact unlocked_step hu ht

/-! ## Runs -/

/-- The runs from the constructor. -/
abbrev Run (sensorHandle mScreenX mScreenY : Int32) (h : List (Threads × Move))
    (m : Threads) : Prop :=
  Path step (start sensorHandle mScreenX mScreenY) h m

variable {sensorHandle mScreenX mScreenY : Int32} {h : List (Threads × Move)}

/-- **Whole calls are enough**: what the statements of the calls can be
interleaved to is reached by whole calls too. -/
theorem Run.whole (hp : Run sensorHandle mScreenX mScreenY h m) :
    ∃ h', UdfpsSensor.Run sensorHandle mScreenX mScreenY h' m.whole := by
  have hstart : (start sensorHandle mScreenX mScreenY).Matches
      (construct sensorHandle mScreenX mScreenY) :=
    ⟨rfl, fun hc => absurd rfl hc⟩
  have hstep : ∀ m v m' s, Matches m s → True → step m v = some m' →
      Matches m' s ∨ ∃ b t, True ∧ UdfpsSensor.step s b = some t ∧ Matches m' t := by
    intro m v m' s hi _ hs
    rcases hi.step hs with hsame | ⟨b, t, hb, ht⟩
    · exact .inl hsame
    · exact .inr ⟨b, t, trivial, hb, ht⟩
  obtain ⟨h', t, hp', hm, -⟩ := Path.simulate (fun _ _ => True) (fun _ _ => True) hstep hp
    hstart (fun _ _ => trivial)
  rw [hm.whole]
  exact ⟨h', hp'⟩

/-- Where no call holds the mutex, the two machines are in the same
state. -/
theorem Run.sensor (hp : Run sensorHandle mScreenX mScreenY h m) (hc : m.client = none) :
    ∃ h', UdfpsSensor.Run sensorHandle mScreenX mScreenY h' m.sensor := by
  obtain ⟨h', hp'⟩ := hp.whole
  rw [Threads.whole, hc] at hp'
  exact ⟨h', hp'⟩

end Threads

end OplusHardware.Udfps
