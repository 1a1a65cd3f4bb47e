import Mathlib.Data.List.Nodup
import OplusHardware.Base.Path

/-!
# AudioAmplifier — speaker feedback

The amplifier HAL, `audio_amplifier.c`. While a speaker plays, it keeps a
calibration usecase in the list of the audio HAL and a capture stream
open. Every call it makes into the audio HAL or tinyalsa is recorded, in
order.
-/

namespace OplusHardware.AudioAmplifier

/-- The sound devices the code names, and all others. -/
inductive SndDevice where
  | outSpeaker
  | outSpeakerReverse
  | outSpeakerAndHeadphones
  | outVoiceSpeaker
  | outVoiceSpeaker2
  | outSpeakerAndHdmi
  | outSpeakerAndUsbHeadset
  | outSpeakerAndAncHeadset
  | inCaptureViFeedback
  | other (value : UInt32)
  deriving DecidableEq, Repr

inductive UsecaseId where
  | audioSpkrCalibTx
  | other (value : Nat)
  deriving DecidableEq, Repr

inductive UsecaseType where
  | pcmCapture
  | other (value : Nat)
  deriving DecidableEq, Repr

/-- `struct audio_usecase`, with the address it is allocated at. -/
structure AudioUsecase where
  addr : Nat
  id : UsecaseId
  type : UsecaseType
  inSndDevice : SndDevice
  deriving DecidableEq, Repr

inductive PcmFormat where
  | s16Le
  deriving DecidableEq, Repr

/-- `struct pcm_config`. -/
structure PcmConfig where
  channels : Nat
  rate : Nat
  periodSize : Nat
  periodCount : Nat
  format : PcmFormat
  startThreshold : Nat
  stopThreshold : Nat
  silenceThreshold : Nat
  deriving DecidableEq, Repr

/-- A `struct pcm`, by what it was opened for. `pcm_open` never answers a
null pointer: a stream it cannot open is one that is not ready. -/
structure Pcm where
  card : Int
  device : Int
  config : PcmConfig
  deriving DecidableEq, Repr

/-- The calls that are recorded; a route by the usecase it is for. -/
inductive AhalCall where
  | enableSndDevice (device : SndDevice)
  | disableSndDevice (device : SndDevice)
  | enableAudioRoute (usecase : UsecaseId)
  | disableAudioRoute (usecase : UsecaseId)
  | pcmOpen (pcm : Pcm)
  | pcmClose (pcm : Pcm)
  deriving DecidableEq, Repr

/-- `is_speaker`. -/
def isSpeaker : SndDevice → Bool
  | .outSpeaker => true
  | .outSpeakerReverse => true
  | .outSpeakerAndHeadphones => true
  | .outVoiceSpeaker => true
  | .outVoiceSpeaker2 => true
  | .outSpeakerAndHdmi => true
  | .outSpeakerAndUsbHeadset => true
  | .outSpeakerAndAncHeadset => true
  | _ => false

/-! ## The audio HAL's list -/

/-- `struct audio_device`: the usecases in use, at addresses of their
own, and the next address an allocation answers. -/
structure AudioDevice where
  sndCard : Int
  usecaseList : List AudioUsecase
  nextAddr : Nat
  distinct : (usecaseList.map AudioUsecase.addr).Nodup
  fresh : ∀ u ∈ usecaseList, u.addr < nextAddr

namespace AudioDevice

variable {a : AudioDevice} {id : UsecaseId} {type : UsecaseType} {dev : SndDevice}

/-- The usecase `calloc` makes room for, filled in. -/
def newUsecase (a : AudioDevice) (id : UsecaseId) (type : UsecaseType)
    (dev : SndDevice) : AudioUsecase :=
  ⟨a.nextAddr, id, type, dev⟩

/-- `list_add_tail` of a new usecase. -/
def addTail (a : AudioDevice) (id : UsecaseId) (type : UsecaseType)
    (dev : SndDevice) : AudioDevice where
  sndCard := a.sndCard
  usecaseList := a.usecaseList ++ [a.newUsecase id type dev]
  nextAddr := a.nextAddr + 1
  distinct := by
    rw [List.map_append]
    refine List.nodup_append.mpr ⟨a.distinct, by simp, ?_⟩
    intro x hx y hy hxy
    obtain ⟨u, hu, rfl⟩ := List.mem_map.mp hx
    rw [List.map_singleton, List.mem_singleton] at hy
    have hlt := a.fresh u hu
    rw [hxy, hy] at hlt
    exact Nat.lt_irrefl _ hlt
  fresh := by
    intro u hu
    rcases List.mem_append.mp hu with hu | hu
    · exact Nat.lt_succ_of_lt (a.fresh u hu)
    · rw [List.mem_singleton.mp hu]
      exact Nat.lt_succ_self _

/-- `list_remove` and `free`. -/
def remove (a : AudioDevice) (u : AudioUsecase) : AudioDevice where
  sndCard := a.sndCard
  usecaseList := a.usecaseList.filter (·.addr ≠ u.addr)
  nextAddr := a.nextAddr
  distinct := (List.filter_sublist.map _).nodup a.distinct
  fresh := fun x hx => a.fresh x (List.mem_of_mem_filter hx)

/-- `get_usecase_from_list`: the first usecase with the id. -/
def getUsecaseFromList (a : AudioDevice) (id : UsecaseId) : Option AudioUsecase :=
  a.usecaseList.find? (·.id = id)

/-- The usecases with the id. -/
def count (a : AudioDevice) (id : UsecaseId) : Nat := a.usecaseList.countP (·.id = id)

/-- Taking the usecase that was added last out again restores the list. -/
theorem usecaseList_remove_addTail :
    ((a.addTail id type dev).remove (a.newUsecase id type dev)).usecaseList =
      a.usecaseList := by
  show (a.usecaseList ++ [a.newUsecase id type dev]).filter _ = a.usecaseList
  rw [List.filter_append, List.filter_eq_self.mpr]
  · simp [newUsecase]
  · intro u hu
    have hne : u.addr ≠ a.nextAddr := Nat.ne_of_lt (a.fresh u hu)
    exact decide_eq_true hne

@[simp] theorem count_addTail {i : UsecaseId} :
    (a.addTail id type dev).count i = a.count i + if id = i then 1 else 0 := by
  show (a.usecaseList ++ [a.newUsecase id type dev]).countP _ = _
  rw [List.countP_append, List.countP_singleton, count]
  by_cases h : id = i <;> simp [newUsecase, h]

/-- Removing a usecase that is in the list removes that one only. -/
theorem count_remove {u : AudioUsecase} {i : UsecaseId} (hu : u ∈ a.usecaseList) :
    (a.remove u).count i + (if u.id = i then 1 else 0) = a.count i := by
  have hperm : a.usecaseList.Perm (u :: a.usecaseList.erase u) := List.perm_cons_erase hu
  have herase : a.usecaseList.filter (·.addr ≠ u.addr) = a.usecaseList.erase u := by
    have hnodup : a.usecaseList.Nodup := List.Nodup.of_map _ a.distinct
    rw [hnodup.erase_eq_filter]
    apply List.filter_congr
    intro x hx
    have hiff : x.addr = u.addr ↔ x = u :=
      ⟨fun h => List.inj_on_of_nodup_map a.distinct hx hu h, fun h => by rw [h]⟩
    by_cases h : x = u
    · simp [h]
    · simp [hiff, h]
  show (a.usecaseList.filter _).countP _ + _ = a.usecaseList.countP _
  rw [herase, hperm.countP_eq, List.countP_cons]
  simp

theorem getUsecaseFromList_some {u : AudioUsecase} (h : a.getUsecaseFromList id = some u) :
    u ∈ a.usecaseList ∧ u.id = id := by
  refine ⟨List.mem_of_find?_eq_some h, ?_⟩
  simpa using List.find?_some h

theorem getUsecaseFromList_none (h : a.getUsecaseFromList id = none) : a.count id = 0 := by
  rw [count, List.countP_eq_zero]
  exact List.find?_eq_none.mp h

end AudioDevice

/-! ## tfa_dev -/

/-- `pcm_config_tfa98xx`. -/
def pcmConfigTfa98xx : PcmConfig where
  channels := 2
  rate := 48000
  periodSize := 256
  periodCount := 4
  format := .s16Le
  startThreshold := 0
  stopThreshold := 2147483647
  silenceThreshold := 0

/-- `tfa_t`, on its one `adev`, with the calls made so far. -/
structure Tfa where
  adev : AudioDevice
  usecaseTx : Option AudioUsecase
  tfa98xxOut : Option Pcm
  calls : List AhalCall

/-- How the calls of one start end. -/
structure StartOutcomes where
  calloc : Bool
  /-- What `platform_get_pcm_device_id` answers. -/
  pcmDeviceId : Int
  /-- `pcm_is_ready` of the opened stream. -/
  pcmReady : Bool
  /-- What `pcm_start` answers. -/
  pcmStart : Int
  deriving DecidableEq, Repr

namespace Tfa

variable {s t : Tfa}

def enomem : Int := -12
def enodev : Int := -19
def eio : Int := -5
def einval : Int := -22

/-- A call into the audio HAL. -/
def call (s : Tfa) (c : AhalCall) : Tfa := { s with calls := s.calls ++ [c] }

/-- `pcm_close` of the stream, if there is one. -/
def closePcm (s : Tfa) : Tfa :=
  match s.tfa98xxOut with
  | some pcm => { s.call (.pcmClose pcm) with tfa98xxOut := none }
  | none => s

/-- The label `error` of `tfa98xx_start_feedback`. -/
def startError (s : Tfa) (u : AudioUsecase) (rc : Int) : Int × Tfa :=
  let s := s.closePcm
  let s := { s with adev := s.adev.remove u }
  (rc, (s.call (.disableSndDevice u.inSndDevice)).call (.disableAudioRoute u.id))

/-- The calibration usecase. -/
def calibTx (s : Tfa) : AudioUsecase :=
  s.adev.newUsecase .audioSpkrCalibTx .pcmCapture .inCaptureViFeedback

/-- The usecase is in the list, its device and its route are enabled. -/
def addCalibTx (s : Tfa) : Tfa :=
  let u := s.calibTx
  let adev := s.adev.addTail .audioSpkrCalibTx .pcmCapture .inCaptureViFeedback
  ({ s with adev := adev, usecaseTx := some u }.call (.enableSndDevice u.inSndDevice)).call
    (.enableAudioRoute u.id)

/-- The stream is open, if not necessarily ready. -/
def openPcm (s : Tfa) (device : Int) : Tfa :=
  let pcm : Pcm := ⟨s.adev.sndCard, device, pcmConfigTfa98xx⟩
  { s.call (.pcmOpen pcm) with tfa98xxOut := some pcm }

/-- `tfa98xx_start_feedback`. -/
def startFeedback (s : Tfa) (sndDevice : SndDevice) (o : StartOutcomes) : Int × Tfa :=
  if s.tfa98xxOut.isSome || !isSpeaker sndDevice then (0, s)
  else if !o.calloc then (enomem, { s with usecaseTx := none })
  else
    let u := s.calibTx
    let s := s.addCalibTx
    if o.pcmDeviceId < 0 then s.startError u enodev
    else
      let s := s.openPcm o.pcmDeviceId
      if !o.pcmReady then s.startError u eio
      else if o.pcmStart < 0 then s.startError u einval
      else (0, s)

/-- `tfa98xx_stop_feedback`. -/
def stopFeedback (s : Tfa) (sndDevice : SndDevice) : Tfa :=
  if !isSpeaker sndDevice then s
  else
    let s := s.closePcm.call (.disableSndDevice .inCaptureViFeedback)
    match s.adev.getUsecaseFromList .audioSpkrCalibTx with
    | none => { s with usecaseTx := none }
    | some u =>
        { s with usecaseTx := some u, adev := s.adev.remove u }.call (.disableAudioRoute u.id)

/-- `amp_set_feedback`; it answers `0` whatever the start answers. -/
def ampSetFeedback (s : Tfa) (devices : SndDevice) (enable : Bool) (o : StartOutcomes) :
    Int × Tfa :=
  if enable then (0, (s.startFeedback devices o).2) else (0, s.stopFeedback devices)

/-- `amp_module_open`, over the audio HAL's device. -/
def moduleOpen (adev : AudioDevice) : Tfa := ⟨adev, none, none, []⟩

inductive Action where
  | setFeedback (devices : SndDevice) (enable : Bool) (o : StartOutcomes)
  /-- The audio HAL adds a usecase of its own. -/
  | addUsecase (id : UsecaseId) (type : UsecaseType) (inSndDevice : SndDevice)
  /-- The audio HAL removes a usecase of its own. -/
  | removeUsecase (i : Nat)
  deriving DecidableEq, Repr

def step (s : Tfa) : Action → Option Tfa
  | .setFeedback devices enable o => some (s.ampSetFeedback devices enable o).2
  | .addUsecase id type inSndDevice =>
      if id = .audioSpkrCalibTx then none
      else some { s with adev := s.adev.addTail id type inSndDevice }
  | .removeUsecase i =>
      match s.adev.usecaseList[i]? with
      | some u =>
          if u.id = .audioSpkrCalibTx then none else some { s with adev := s.adev.remove u }
      | none => none

end Tfa

end OplusHardware.AudioAmplifier
