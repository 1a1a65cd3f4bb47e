import OplusHardware.QtiVibrator.FfKernel

/-!
# QtiVibrator — InputFFDevice

The force-feedback backend, `class InputFFDevice`: the scan of
`/dev/input` in its constructor, `play` with its `goto errout` exit, and
the four operations built on it.

Each call site of a system call has its own entry in `PlayOutcomes`, so
a pattern of failures is one value of that type. `TEMP_FAILURE_RETRY`
repeats a call until it is not interrupted; an outcome is the one it
ends with.
-/

namespace OplusHardware.QtiVibrator

def strongMagnitude : Int32 := 0x7fff
def mediumMagnitude : Int32 := 0x5fff
def lightMagnitude : Int32 := 0x3fff
def customDataLen : UInt32 := 3

/-- `INVALID_VALUE`, as an `mCurrAppId` and as an `effectId`. -/
def invalidValue {α : Type} [Neg α] [OfNat α 1] : α := -1

/-- `sizeof(int16_t)` and, on an LP64 target, `sizeof(struct effect_stream)`. -/
def sizeofInt16 : UInt32 := 2
def sizeofEffectStream : UInt32 := 24

structure InputFFDevice where
  mSupportGain : Bool
  mSupportEffects : Bool
  mSupportExternalControl : Bool
  mInExternalControl : Bool
  mVibraFd : Int
  mCurrAppId : Int16
  mCurrMagnitude : Int16
  deriving DecidableEq, Repr

namespace InputFFDevice

/-! ## The constructor -/

/-- The bits of `ffBitmask` the constructor tests. -/
structure FfBitmask where
  ffConstant : Bool
  ffPeriodic : Bool
  ffCustom : Bool
  ffGain : Bool
  deriving DecidableEq, Repr

/-- One entry `readdir` returns, with what the calls on it answer
(`none` where the call fails). -/
structure InputNode where
  dName : String
  openFd : Option Nat
  evioCGname : Option String
  evioCGbit : Option FfBitmask

/-- `MSM_CPU_LAHAINA`, `APQ_CPU_LAHAINA`, `MSM_CPU_SHIMA`,
`MSM_CPU_SM8325`, `APQ_CPU_SM8325P`, `MSM_CPU_TARO`, `MSM_CPU_YUPIK`,
`MSM_CPU_KALAMA`, `MSM_CPU_PINEAPPLE` and `MSM_CPU_SUN`. -/
def externalControlSocs : List Int :=
  [415, 439, 450, 501, 502, 457, 475, 519, 557, 618]

/-- The members before the scan. -/
def unopened : InputFFDevice where
  mSupportGain := false
  mSupportEffects := false
  mSupportExternalControl := false
  mInExternalControl := false
  mVibraFd := invalidValue
  mCurrAppId := invalidValue
  mCurrMagnitude := 0x7fff

/-- The device `readdir`'s entry makes of the constructor's object, or
`none` where the loop goes on to the next entry. `socId` is what
`/sys/devices/soc0/soc_id` holds, when it can be opened. -/
def probe (soc : Int) (socId : Option Int) (node : InputNode) : Option InputFFDevice := do
  if node.dName = "." ∨ node.dName = ".." then none
  else
    let fd ← node.openFd
    let name ← node.evioCGname
    if name ≠ "qcom-hv-haptics" ∧ name ≠ "qti-haptics" then none
    else
      let ffBitmask ← node.evioCGbit
      if ffBitmask.ffConstant || ffBitmask.ffPeriodic then
        let soc := if soc ≤ 0 then socId.getD soc else soc
        some { unopened with
          mVibraFd := fd
          mSupportEffects := ffBitmask.ffCustom
          mSupportGain := ffBitmask.ffGain
          mSupportExternalControl := externalControlSocs.contains soc }
      else none

/-- `InputFFDevice::InputFFDevice`. `dir` is `none` when `opendir`
fails; the loop breaks at the first entry that fits. -/
def construct (soc : Int) (socId : Option Int) (dir : Option (List InputNode)) :
    InputFFDevice :=
  match dir with
  | none => unopened
  | some entries => (entries.findSome? (probe soc socId)).getD unopened

/-! ## play -/

/-- How the system calls `play` may make end, by call site. -/
structure PlayOutcomes where
  /-- `EVIOCRMFF` of the effect an earlier call left loaded -/
  removePrevious : Bool
  /-- `EVIOCSFF`, with the reply when it succeeds -/
  upload : Option UploadReply
  /-- `write` of the start event -/
  start : Bool
  /-- `EVIOCRMFF` of the new effect after the start event failed -/
  removeNew : Bool
  deriving DecidableEq, Repr

/-- What `play` returns, the object and the device after it, and the
pointee of `playLengthMs` (`none` for a null pointer). -/
structure PlayResult where
  ret : Int
  dev : InputFFDevice
  kernel : FfKernel
  playLengthMs : Option Int

/-- The label `errout`. -/
def errout (dev : InputFFDevice) (kernel : FfKernel) (playLengthMs : Option Int)
    (ret : Int) : PlayResult :=
  { ret, dev := { dev with mCurrAppId := invalidValue }, kernel, playLengthMs }

/-- The `struct ff_effect` that `play` fills in. -/
def buildEffect (dev : InputFFDevice) (stream : Option EffectStream)
    (effectId : Int32) (timeoutMs : UInt32) : FfEffect :=
  if effectId ≠ invalidValue then
    { id := dev.mCurrAppId
      replayLength := 0
      replayDelay := 0
      payload :=
        match stream with
        | none => .periodic dev.mCurrMagnitude (.words effectId.toInt16 0 0)
            (sizeofInt16 * customDataLen)
        | some s => .periodic dev.mCurrMagnitude (.stream s) sizeofEffectStream }
  else
    { id := dev.mCurrAppId
      replayLength := timeoutMs.toUInt16
      replayDelay := 0
      payload := .constant dev.mCurrMagnitude }

/-- What `play` stores through a non-null `playLengthMs` once a
predefined effect is uploaded. The driver fills in `data[1]` and
`data[2]` only when `custom_data` points to `data`. -/
def effectLengthMs (stream : Option EffectStream) (r : UploadReply) : Int :=
  match stream with
  | none => r.playSec.toInt * 1000 + r.playMs.toInt
  | some s =>
      if s.playRateHz ≠ 0 then (((s.length * 1000) / s.playRateHz) + 1).toNat
      else 0

/-- The start event and its error path. The clean-up call assigns `ret`
again. -/
def startEffect (dev : InputFFDevice) (kernel : FfKernel)
    (playLengthMs : Option Int) (o : PlayOutcomes) : PlayResult :=
  let (ret, kernel) := kernel.writeStart dev.mCurrAppId o.start
  if ret = -1 then
    let (ret, kernel) := kernel.evioCRmff dev.mCurrAppId o.removeNew
    errout dev kernel playLengthMs ret
  else
    { ret := 0, dev, kernel, playLengthMs }

/-- Upload and start, the part of `play` after the previous effect is
gone. `stream` is `get_effect_stream(effectId)`, or `none` in a build
without `USE_EFFECT_STREAM`. -/
def uploadAndStart (dev : InputFFDevice) (kernel : FfKernel)
    (stream : Option EffectStream) (effectId : Int32) (timeoutMs : UInt32)
    (playLengthMs : Option Int) (o : PlayOutcomes) : PlayResult :=
  match kernel.evioCSff (buildEffect dev stream effectId timeoutMs) o.upload with
  | none => errout dev kernel playLengthMs (-1)
  | some (reply, kernel) =>
      let dev := { dev with mCurrAppId := reply.id }
      let playLengthMs :=
        if effectId ≠ invalidValue then
          playLengthMs.map fun _ => effectLengthMs stream reply
        else playLengthMs
      startEffect dev kernel playLengthMs o

/-- `InputFFDevice::play`. -/
def play (getEffectStream : UInt32 → Option EffectStream) (dev : InputFFDevice)
    (kernel : FfKernel) (effectId : Int32) (timeoutMs : UInt32)
    (playLengthMs : Option Int) (o : PlayOutcomes) : PlayResult :=
  let stream := getEffectStream effectId.toUInt32
  if dev.mVibraFd = invalidValue then
    { ret := 0, dev, kernel, playLengthMs := playLengthMs.map fun _ => 0 }
  else if timeoutMs ≠ 0 then
    if dev.mCurrAppId ≠ invalidValue then
      let (ret, kernel) := kernel.evioCRmff dev.mCurrAppId o.removePrevious
      if ret = -1 then errout dev kernel playLengthMs ret
      else
        uploadAndStart { dev with mCurrAppId := invalidValue } kernel stream
          effectId timeoutMs playLengthMs o
    else
      uploadAndStart dev kernel stream effectId timeoutMs playLengthMs o
  else if dev.mCurrAppId ≠ invalidValue then
    let (ret, kernel) := kernel.evioCRmff dev.mCurrAppId o.removePrevious
    if ret = -1 then errout dev kernel playLengthMs ret
    else
      { ret := 0, dev := { dev with mCurrAppId := invalidValue }, kernel, playLengthMs }
  else
    { ret := 0, dev, kernel, playLengthMs }

/-! ## The operations -/

def on (getEffectStream : UInt32 → Option EffectStream) (dev : InputFFDevice)
    (kernel : FfKernel) (timeoutMs : Int32) (o : PlayOutcomes) : PlayResult :=
  play getEffectStream dev kernel invalidValue timeoutMs.toUInt32 none o

def off (getEffectStream : UInt32 → Option EffectStream) (dev : InputFFDevice)
    (kernel : FfKernel) (o : PlayOutcomes) : PlayResult :=
  play getEffectStream dev kernel invalidValue 0 none o

/-- The gain `setAmplitude` computes from its argument. -/
def amplitudeGain (amplitude : UInt8) : Int32 :=
  amplitude.toUInt32.toInt32 * (strongMagnitude - lightMagnitude) / 255 + lightMagnitude

/-- `InputFFDevice::setAmplitude`; `gainWrite` is the outcome of its
`write`. -/
def setAmplitude (dev : InputFFDevice) (kernel : FfKernel) (amplitude : UInt8)
    (gainWrite : Bool) : Int × InputFFDevice × FfKernel :=
  if dev.mVibraFd = invalidValue then (0, dev, kernel)
  else
    let tmp := amplitudeGain amplitude
    let (ret, kernel) := kernel.writeGain tmp gainWrite
    if ret = -1 then (ret, dev, kernel)
    else (0, { dev with mCurrMagnitude := tmp.toInt16 }, kernel)

/-- `enum class EffectStrength : int32_t`; a client can send any value. -/
structure EffectStrength where
  value : Int32
  deriving DecidableEq, Repr

namespace EffectStrength
def light : EffectStrength := ⟨0⟩
def medium : EffectStrength := ⟨1⟩
def strong : EffectStrength := ⟨2⟩
end EffectStrength

/-- `InputFFDevice::playEffect`. The timeout it passes is
`INVALID_VALUE`, which as a `uint32_t` is not zero. -/
def playEffect (getEffectStream : UInt32 → Option EffectStream) (dev : InputFFDevice)
    (kernel : FfKernel) (effectId : Int32) (es : EffectStrength)
    (playLengthMs : Option Int) (o : PlayOutcomes) : PlayResult :=
  let playAt (magnitude : Int32) : PlayResult :=
    play getEffectStream { dev with mCurrMagnitude := magnitude.toInt16 } kernel
      effectId (invalidValue : Int32).toUInt32 playLengthMs o
  if es = .light then playAt lightMagnitude
  else if es = .medium then playAt mediumMagnitude
  else if es = .strong then playAt strongMagnitude
  else { ret := -1, dev, kernel, playLengthMs }

end InputFFDevice

end OplusHardware.QtiVibrator
