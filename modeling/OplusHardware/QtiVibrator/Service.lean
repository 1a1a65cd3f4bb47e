import OplusHardware.Base.Binder
import OplusHardware.QtiVibrator.Device
import OplusHardware.QtiVibrator.Led

/-!
# QtiVibrator — the IVibrator service

`class Vibrator`, over the force-feedback backend when no LED device was
detected. A call answers a status, an out parameter and, where it was
given a callback, the thread that will call `onComplete`.
-/

namespace OplusHardware.QtiVibrator

open OplusHardware.Base (AStatus)
open InputFFDevice (PlayOutcomes PlayResult EffectStrength)

/-- `enum class Effect : int32_t`; a client can send any value. -/
structure Effect where
  value : Int32
  deriving DecidableEq, Repr

namespace Effect
def click : Effect := ⟨0⟩
def doubleClick : Effect := ⟨1⟩
def tick : Effect := ⟨2⟩
def thud : Effect := ⟨3⟩
def pop : Effect := ⟨4⟩
def heavyClick : Effect := ⟨5⟩
def textureTick : Effect := ⟨21⟩
end Effect

structure Vibrator where
  ff : InputFFDevice
  ledVib : LedVibratorDevice
  deriving DecidableEq, Repr

/-- The detached thread of a call: `usleep` of so many microseconds,
then `onComplete`. -/
structure CallbackThread where
  sleepUs : UInt32
  deriving DecidableEq, Repr

/-- What a call answers, with the objects after it. `out` is the out
parameter, where it was written. -/
structure Reply where
  status : AStatus
  out : Option Int32
  thread : Option CallbackThread
  vib : Vibrator
  kernel : FfKernel

/-- How the system calls of one service call end. -/
structure CallEnv where
  play : PlayOutcomes
  gainWrite : Bool
  led : List WriteOutcome

/-- What the code sees of the `float` given to `setAmplitude`: its two
comparisons and `(uint8_t)(amplitude * 0xff)`. -/
structure FloatArg where
  notPositive : Bool
  aboveOne : Bool
  scaled : UInt8
  deriving DecidableEq, Repr

namespace Vibrator

/-- A call that answers a status and leaves everything as it was. -/
def refuse (v : Vibrator) (kernel : FfKernel) (status : AStatus) : Reply :=
  { status, out := none, thread := none, vib := v, kernel }

variable (getEffectStream : UInt32 → Option EffectStream)

/-- `Vibrator::off`. -/
def off (v : Vibrator) (kernel : FfKernel) (env : CallEnv) : Reply :=
  if v.ledVib.mDetected then
    refuse v kernel
      (if LedVibratorDevice.off env.led ≠ 0 then .exServiceSpecific else .ok)
  else
    let r := v.ff.off getEffectStream kernel env.play
    refuse { v with ff := r.dev } r.kernel (if r.ret ≠ 0 then .exServiceSpecific else .ok)

/-- The thread of `on`: the product is taken in 32 bits. -/
def onThread (callback : Bool) (timeoutMs : Int32) : Option CallbackThread :=
  if callback then some ⟨(timeoutMs * 1000).toUInt32⟩ else none

/-- `Vibrator::on`; `callback` says whether it is not null. -/
def on (v : Vibrator) (kernel : FfKernel) (timeoutMs : Int32) (callback : Bool)
    (env : CallEnv) : Reply :=
  if v.ledVib.mDetected then
    if LedVibratorDevice.on timeoutMs env.led ≠ 0 then refuse v kernel .exServiceSpecific
    else { refuse v kernel .ok with thread := onThread callback timeoutMs }
  else
    let r := v.ff.on getEffectStream kernel timeoutMs env.play
    let after := { v with ff := r.dev }
    if r.ret ≠ 0 then refuse after r.kernel .exServiceSpecific
    else { refuse after r.kernel .ok with thread := onThread callback timeoutMs }

/-- The sysfs writes of an effect on the LED backend, none for an effect
it does not support. A `DOUBLE_CLICK` sleeps 100 ms between its two
halves. -/
def ledEffectWrites (effect : Effect) : Option (List SysfsWrite) :=
  if effect = .click then some (LedVibratorDevice.waveform "2500" "1")
  else if effect = .doubleClick then
    some (LedVibratorDevice.waveform "2500" "1" ++ LedVibratorDevice.waveform "2500" "1")
  else if effect = .tick then some (LedVibratorDevice.waveform "1400" "1")
  else if effect = .heavyClick then some (LedVibratorDevice.waveform "2500" "4")
  else if effect = .textureTick then some (LedVibratorDevice.waveform "60" "2")
  else none

/-- The common end of `perform`: the callback thread, whose `long`
product `usleep` takes as a `useconds_t`, and the out parameter. -/
def performed (v : Vibrator) (kernel : FfKernel) (callback : Bool)
    (playLengthMs : Int) : Reply :=
  { status := .ok
    out := some (Int32.ofInt playLengthMs)
    thread := if callback then some ⟨UInt32.ofInt (playLengthMs * 1000)⟩ else none
    vib := v
    kernel }

/-- The effects the force-feedback branch of `perform` lets through. -/
def ffSupports (effect : Effect) (es : EffectStrength) : Bool :=
  !(decide (effect.value < Effect.click.value) ||
      decide (effect.value > Effect.heavyClick.value)) &&
    !(decide (es ≠ .light) && decide (es ≠ .medium) && decide (es ≠ .strong))

/-- `Vibrator::perform`. The LED branch drops the results of its writes.
`uninit` is what the local `playLengthMs` holds before it is set. -/
def perform (v : Vibrator) (kernel : FfKernel) (effect : Effect) (es : EffectStrength)
    (callback : Bool) (uninit : Int) (env : CallEnv) : Reply :=
  if v.ledVib.mDetected then
    match ledEffectWrites effect with
    | none => refuse v kernel .exUnsupportedOperation
    | some _ => performed v kernel callback 150
  else if ffSupports effect es then
    let r := v.ff.playEffect getEffectStream kernel effect.value es (some uninit) env.play
    let after := { v with ff := r.dev }
    if r.ret ≠ 0 then refuse after r.kernel .exServiceSpecific
    else performed after r.kernel callback (r.playLengthMs.getD uninit)
  else refuse v kernel .exUnsupportedOperation

/-- `Vibrator::setAmplitude`. -/
def setAmplitude (v : Vibrator) (kernel : FfKernel) (amplitude : FloatArg)
    (env : CallEnv) : Reply :=
  if v.ledVib.mDetected then refuse v kernel .exUnsupportedOperation
  else if amplitude.notPositive || amplitude.aboveOne then
    refuse v kernel .exIllegalArgument
  else if v.ff.mInExternalControl then refuse v kernel .exUnsupportedOperation
  else
    let (ret, dev, kernel) := v.ff.setAmplitude kernel amplitude.scaled env.gainWrite
    refuse { v with ff := dev } kernel (if ret ≠ 0 then .exServiceSpecific else .ok)

/-- `Vibrator::setExternalControl`. -/
def setExternalControl (v : Vibrator) (kernel : FfKernel) (enabled : Bool) : Reply :=
  if v.ledVib.mDetected then refuse v kernel .exUnsupportedOperation
  else if !v.ff.mSupportExternalControl then refuse v kernel .exUnsupportedOperation
  else refuse { v with ff := { v.ff with mInExternalControl := enabled } } kernel .ok

end Vibrator

end OplusHardware.QtiVibrator
