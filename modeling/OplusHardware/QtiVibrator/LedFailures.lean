import OplusHardware.QtiVibrator.Service

/-!
# QtiVibrator — failing writes on the LED backend

Three calls write to the LED device: `off` once, `on` six times and
`perform` five or ten times. `off` and `on` answer with the results of
their writes put together. `perform` makes its writes one by one and looks
at none of the results, so it answers ok on any device that was detected.
-/

namespace OplusHardware.QtiVibrator

open OplusHardware.Base (AStatus)
open InputFFDevice (EffectStrength)

/-- A call that can reach the LED device; `callback` says whether it is
not null. -/
inductive LedCall where
  | off
  | on (timeoutMs : Int32) (callback : Bool)
  | perform (effect : Effect) (es : EffectStrength) (callback : Bool)
  deriving DecidableEq, Repr

/-- Ok is answered exactly when every write succeeded in full, and so is
the callback launched, where there is one. -/
structure Reply.ReportsWrites (r : Reply) (callback written : Bool) : Prop where
  status : r.status = .ok ↔ written = true
  thread : r.thread.isSome = true ↔ callback = true ∧ written = true

instance (r : Reply) (callback written : Bool) :
    Decidable (r.ReportsWrites callback written) :=
  decidable_of_iff
    ((r.status = .ok ↔ written = true) ∧
      (r.thread.isSome = true ↔ callback = true ∧ written = true))
    ⟨fun h => ⟨h.1, h.2⟩, fun h => ⟨h.status, h.thread⟩⟩

namespace LedCall

/-- The sysfs writes of a call; none for an `on` without a positive
timeout and for an effect that is not supported. -/
def writes : LedCall → Option (List SysfsWrite)
  | .off => some LedVibratorDevice.offWrites
  | .on timeoutMs _ =>
      if 0 < timeoutMs then some (LedVibratorDevice.onWrites timeoutMs) else none
  | .perform effect _ _ => Vibrator.ledEffectWrites effect

def hasCallback : LedCall → Bool
  | .off => false
  | .on _ callback => callback
  | .perform _ _ callback => callback

def isPerform : LedCall → Bool
  | .perform _ _ _ => true
  | _ => false

/-- What the service answers. -/
def reply (getEffectStream : UInt32 → Option EffectStream) (v : Vibrator)
    (kernel : FfKernel) (uninit : Int) (env : CallEnv) : LedCall → Reply
  | .off => v.off getEffectStream kernel env
  | .on timeoutMs callback => v.on getEffectStream kernel timeoutMs callback env
  | .perform effect es callback =>
      v.perform getEffectStream kernel effect es callback uninit env

end LedCall

namespace Vibrator

open LedVibratorDevice (inFull offWrites onWrites)

variable {getEffectStream : UInt32 → Option EffectStream} {v : Vibrator}
  {kernel : FfKernel} {uninit : Int} {env : CallEnv} {effect : Effect}
  {es : EffectStrength} {callback : Bool} {timeoutMs : Int32}

/-! ## One call each -/

/-- A reply that is refused exactly on a result other than zero, where
that result stands for the writes. -/
theorem reports_writes_of_ret {ret : Int32} {written : Bool}
    {thread : Option CallbackThread} (hret : ret = 0 ↔ written = true)
    (hthread : thread.isSome = true ↔ callback = true) :
    (if ret ≠ 0 then refuse v kernel .exServiceSpecific
      else { refuse v kernel .ok with thread := thread }).ReportsWrites callback written := by
  by_cases h0 : ret = 0
  · have hall := hret.mp h0
    rw [if_neg (not_not.mpr h0), hall]
    constructor
    · simp [refuse]
    · simp [hthread]
  · have hsome : written = false := Bool.eq_false_of_not_eq_true (mt hret.mpr h0)
    rw [if_pos h0, hsome]
    constructor <;> simp [refuse]

theorem off_reports_writes (hled : v.ledVib.mDetected = true) :
    (v.off getEffectStream kernel env).ReportsWrites false (inFull offWrites env.led) := by
  have hoff : v.off getEffectStream kernel env =
      if LedVibratorDevice.off env.led ≠ 0 then refuse v kernel .exServiceSpecific
      else { refuse v kernel .ok with thread := none } := by
    rw [off, if_pos hled]
    split <;> rfl
  rw [hoff]
  exact reports_writes_of_ret (LedVibratorDevice.off_eq_zero_iff env.led) (by simp)

theorem on_reports_writes (hled : v.ledVib.mDetected = true) (ht : 0 < timeoutMs) :
    (v.on getEffectStream kernel timeoutMs callback env).ReportsWrites callback
      (inFull (onWrites timeoutMs) env.led) := by
  rw [on, if_pos hled]
  apply reports_writes_of_ret (LedVibratorDevice.on_eq_zero_iff ht env.led)
  cases callback <;> simp [onThread]

/-- On the LED device `perform` ends the same way whatever its writes
do. -/
theorem perform_led (hled : v.ledVib.mDetected = true) {ws : List SysfsWrite}
    (hws : ledEffectWrites effect = some ws) :
    v.perform getEffectStream kernel effect es callback uninit env =
      performed v kernel callback 150 := by
  rw [perform, if_pos hled, hws]

/-- The end of `perform` is right only about a full success. -/
theorem performed_reports_writes_iff (playLengthMs : Int) (written : Bool) :
    (performed v kernel callback playLengthMs).ReportsWrites callback written ↔
      written = true := by
  constructor
  · intro h
    exact h.status.mp rfl
  · intro h
    subst h
    constructor <;> simp [performed]

/-! ## Every call -/

/-- **What the LED backend reports.** For every call that writes to a
detected LED device and every outcome of its writes, the answer tells full
success from failure exactly when the call is no `perform` or all its
writes succeed. -/
theorem led_reports_writes_iff (getEffectStream : UInt32 → Option EffectStream)
    (v : Vibrator) (kernel : FfKernel) (uninit : Int) (env : CallEnv) (call : LedCall)
    (ws : List SysfsWrite) (hled : v.ledVib.mDetected = true)
    (hws : call.writes = some ws) :
    (call.reply getEffectStream v kernel uninit env).ReportsWrites call.hasCallback
        (inFull ws env.led) ↔
      (call.isPerform = true → inFull ws env.led = true) := by
  cases call with
  | off =>
      cases hws
      have hreports : (v.off getEffectStream kernel env).ReportsWrites false
          (inFull offWrites env.led) := off_reports_writes hled
      exact iff_of_true hreports (by simp [LedCall.isPerform])
  | on timeoutMs callback =>
      simp only [LedCall.writes, Option.ite_none_right_eq_some] at hws
      obtain ⟨ht, hws⟩ := hws
      cases hws
      have hreports : (v.on getEffectStream kernel timeoutMs callback env).ReportsWrites
          callback (inFull (onWrites timeoutMs) env.led) := on_reports_writes hled ht
      exact iff_of_true hreports (by simp [LedCall.isPerform])
  | perform effect es callback =>
      show (v.perform getEffectStream kernel effect es callback uninit env).ReportsWrites
        callback (inFull ws env.led) ↔ _
      rw [perform_led hled hws, performed_reports_writes_iff]
      simp [LedCall.isPerform]

/-- A detected LED device. -/
def ledDevice : Vibrator := ⟨InputFFDevice.unopened, ⟨true⟩⟩

/-- The first `open` fails with `ENOENT`, the other writes succeed. -/
def firstOpenFails : CallEnv :=
  ⟨⟨true, none, true, true⟩, true, [.openFails ⟨2, by decide⟩]⟩

theorem led_reports_writes_iff_on :
    ((LedCall.on 200 true).reply (fun _ => none) ledDevice .empty 0
      firstOpenFails).ReportsWrites true (inFull (onWrites 200) firstOpenFails.led) :=
  (led_reports_writes_iff (fun _ => none) ledDevice .empty 0 firstOpenFails
    (.on 200 true) (onWrites 200) rfl rfl).mpr (by decide)

/-- **A failed write, answered with ok.** `perform` of a click whose first
write never opened its file answers ok and launches the callback. -/
theorem click_failure_reported_ok :
    ((LedCall.perform .click .medium true).reply (fun _ => none) ledDevice .empty 0
      firstOpenFails).status = .ok ∧
    inFull (LedVibratorDevice.waveform "2500" "1") firstOpenFails.led = false ∧
    ¬ ((LedCall.perform .click .medium true).reply (fun _ => none) ledDevice .empty 0
        firstOpenFails).ReportsWrites true
      (inFull (LedVibratorDevice.waveform "2500" "1") firstOpenFails.led) := by
  decide

end Vibrator

end OplusHardware.QtiVibrator
