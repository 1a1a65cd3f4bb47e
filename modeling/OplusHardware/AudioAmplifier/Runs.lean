import OplusHardware.AudioAmplifier.Feedback
import OplusHardware.Base.Ledger

/-!
# AudioAmplifier — starts and stops over whole runs

The list of the audio HAL and the open stream always agree: a start that
fails undoes what it did, and a stop removes what a start added. The
references to the capture device agree with them too, up to a stop
without a stream: it disables a device that nobody enabled.
-/

namespace OplusHardware.AudioAmplifier

open OplusHardware.Base

namespace Tfa

variable {s t : Tfa} {a : Action} {dev : SndDevice} {o : StartOutcomes} {r : Int × Tfa}
  {h : List (Tfa × Action)} {adev : AudioDevice}

/-! ## What a start and a stop do -/

/-- The calls with which a start that fails after the allocation opens and
clears up; `mid` is what happened to the stream. -/
def failedCalls (mid : List AhalCall) : List AhalCall :=
  [.enableSndDevice .inCaptureViFeedback, .enableAudioRoute .audioSpkrCalibTx] ++ mid ++
    [.disableSndDevice .inCaptureViFeedback, .disableAudioRoute .audioSpkrCalibTx]

/-- **The ways a start ends.** -/
inductive StartCase (s : Tfa) (dev : SndDevice) : Int × Tfa → Prop where
  | idle (h : s.tfa98xxOut ≠ none ∨ isSpeaker dev = false) : StartCase s dev (0, s)
  | noMemory (hout : s.tfa98xxOut = none) :
      StartCase s dev (enomem, { s with usecaseTx := none })
  | failed {rc : Int} {t : Tfa} (mid : List AhalCall) (hrc : rc < 0)
      (hout : s.tfa98xxOut = none) (hlist : t.adev.usecaseList = s.adev.usecaseList)
      (hout' : t.tfa98xxOut = none)
      (hmid : mid = [] ∨ ∃ pcm, mid = [.pcmOpen pcm, .pcmClose pcm])
      (hcalls : t.calls = s.calls ++ failedCalls mid) :
      StartCase s dev (rc, t)
  | started {t : Tfa} (pcm : Pcm) (hout : s.tfa98xxOut = none)
      (hcount : t.adev.count .audioSpkrCalibTx = s.adev.count .audioSpkrCalibTx + 1)
      (hout' : t.tfa98xxOut = some pcm)
      (hcalls : t.calls = s.calls ++ [.enableSndDevice .inCaptureViFeedback,
        .enableAudioRoute .audioSpkrCalibTx, .pcmOpen pcm]) :
      StartCase s dev (0, t)

/-- The error path from an open stream. -/
theorem startCase_error {rc device : Int} (hrc : rc < 0) (hout : s.tfa98xxOut = none) :
    StartCase s dev ((s.addCalibTx.openPcm device).startError s.calibTx rc) := by
  let pcm : Pcm := ⟨s.adev.sndCard, device, pcmConfigTfa98xx⟩
  apply StartCase.failed [.pcmOpen pcm, .pcmClose pcm] hrc hout
  · show (s.addCalibTx.adev.remove s.calibTx).usecaseList = s.adev.usecaseList
    exact AudioDevice.usecaseList_remove_addTail
  · rfl
  · exact .inr ⟨pcm, rfl⟩
  · simp [closePcm, openPcm, addCalibTx, call, calibTx, AudioDevice.newUsecase,
      AudioDevice.addTail, failedCalls, pcm]

/-- The error path before a stream is open. -/
theorem startCase_noDevice {rc : Int} (hrc : rc < 0) (hout : s.tfa98xxOut = none) :
    StartCase s dev (s.addCalibTx.startError s.calibTx rc) := by
  have hclosed : s.addCalibTx.closePcm = s.addCalibTx := by
    simp [closePcm, addCalibTx, call, hout]
  rw [startError, hclosed]
  apply StartCase.failed [] hrc hout
  · show (s.addCalibTx.adev.remove s.calibTx).usecaseList = s.adev.usecaseList
    exact AudioDevice.usecaseList_remove_addTail
  · exact hout
  · exact .inl rfl
  · simp [addCalibTx, call, calibTx, AudioDevice.newUsecase, failedCalls]

theorem startFeedback_cases (s : Tfa) (dev : SndDevice) (o : StartOutcomes) :
    StartCase s dev (s.startFeedback dev o) := by
  by_cases hidle : (s.tfa98xxOut.isSome || !isSpeaker dev) = true
  · rw [startFeedback, if_pos hidle]
    apply StartCase.idle
    simpa [Option.isSome_iff_ne_none] using hidle
  · rw [startFeedback, if_neg hidle]
    have hout : s.tfa98xxOut = none := by
      simp only [Bool.or_eq_true, Option.isSome_iff_ne_none, not_or, not_not] at hidle
      exact hidle.1
    split
    · exact .noMemory hout
    · split
      · exact startCase_noDevice (by decide) hout
      · split
        · exact startCase_error (by decide) hout
        · split
          · exact startCase_error (by decide) hout
          · apply StartCase.started ⟨s.adev.sndCard, o.pcmDeviceId, pcmConfigTfa98xx⟩ hout
            · exact AudioDevice.count_addTail
            · rfl
            · simp [openPcm, addCalibTx, call, calibTx, AudioDevice.newUsecase,
                AudioDevice.addTail]

/-- **The ways a stop ends.** -/
inductive StopCase (s : Tfa) (dev : SndDevice) : Tfa → Prop where
  | idle (hdev : isSpeaker dev = false) : StopCase s dev s
  | removed {t : Tfa} (hdev : isSpeaker dev = true)
      (hcount : t.adev.count .audioSpkrCalibTx + 1 = s.adev.count .audioSpkrCalibTx)
      (hout : t.tfa98xxOut = none)
      (hcalls : t.calls = s.closePcm.calls ++
        [.disableSndDevice .inCaptureViFeedback, .disableAudioRoute .audioSpkrCalibTx]) :
      StopCase s dev t
  | empty {t : Tfa} (hdev : isSpeaker dev = true)
      (hcount : s.adev.count .audioSpkrCalibTx = 0) (hadev : t.adev = s.adev)
      (hout : t.tfa98xxOut = none)
      (hcalls : t.calls = s.closePcm.calls ++ [.disableSndDevice .inCaptureViFeedback]) :
      StopCase s dev t

@[simp] theorem closePcm_adev : s.closePcm.adev = s.adev := by
  unfold closePcm
  split <;> rfl

@[simp] theorem closePcm_tfa98xxOut : s.closePcm.tfa98xxOut = none := by
  unfold closePcm
  split
  · rfl
  · assumption

theorem stopFeedback_cases (s : Tfa) (dev : SndDevice) :
    StopCase s dev (s.stopFeedback dev) := by
  by_cases hdev : isSpeaker dev = true
  · simp only [stopFeedback, hdev, Bool.not_true, Bool.false_eq_true, if_false, call,
      closePcm_adev, closePcm_tfa98xxOut]
    cases hu : s.adev.getUsecaseFromList .audioSpkrCalibTx with
    | none => exact .empty hdev (AudioDevice.getUsecaseFromList_none hu) rfl rfl rfl
    | some u =>
        obtain ⟨hmem, hid⟩ := AudioDevice.getUsecaseFromList_some hu
        apply StopCase.removed hdev
        · have hcount := AudioDevice.count_remove (i := .audioSpkrCalibTx) hmem
          rw [if_pos hid] at hcount
          exact hcount
        · rfl
        · simp [hid]
  · rw [Bool.not_eq_true] at hdev
    rw [stopFeedback, hdev]
    exact .idle hdev

/-! ## The list and the stream -/

/-- The streams that are open: one or none. -/
def openStreams (s : Tfa) : Nat := if s.tfa98xxOut.isSome then 1 else 0

theorem openStreams_none (h : s.tfa98xxOut = none) : s.openStreams = 0 := by
  simp [openStreams, h]

theorem openStreams_some {pcm : Pcm} (h : s.tfa98xxOut = some pcm) : s.openStreams = 1 := by
  simp [openStreams, h]

/-- The calibration usecase is in the list while a stream is open, once. -/
def ListAgrees (s : Tfa) : Prop := s.adev.count .audioSpkrCalibTx = s.openStreams

theorem StartCase.listAgrees (hc : StartCase s dev r) (hs : s.ListAgrees) :
    r.2.ListAgrees := by
  cases hc with
  | idle _ => exact hs
  | noMemory _ => exact hs
  | failed mid hrc hout hlist hout' hmid hcalls =>
      unfold ListAgrees at hs ⊢
      rw [openStreams_none hout'] at ⊢
      rw [openStreams_none hout] at hs
      rw [← hs, AudioDevice.count, AudioDevice.count, hlist]
  | started pcm hout hcount hout' hcalls =>
      unfold ListAgrees at hs ⊢
      rw [openStreams_none hout] at hs
      rw [openStreams_some hout', hcount, hs]

theorem StopCase.listAgrees (hc : StopCase s dev t) (hs : s.ListAgrees) :
    t.ListAgrees := by
  cases hc with
  | idle _ => exact hs
  | removed hdev hcount hout hcalls =>
      unfold ListAgrees at hs ⊢
      rw [openStreams_none hout]
      -- at most one usecase was there, and it is gone
      have hle : s.openStreams ≤ 1 := by
        unfold openStreams
        split <;> omega
      omega
  | empty hdev hcount hadev hout hcalls =>
      unfold ListAgrees
      rw [openStreams_none hout, hadev, hcount]

theorem listAgrees_step (hi : s.ListAgrees) (hs : step s a = some t) : t.ListAgrees := by
  cases a with
  | setFeedback dev enable o =>
      cases enable with
      | true =>
          cases hs
          exact (startFeedback_cases s dev o).listAgrees hi
      | false =>
          cases hs
          exact (stopFeedback_cases s dev).listAgrees hi
  | addUsecase id type dev =>
      simp only [step] at hs
      split at hs
      · cases hs
      · rename_i hid
        cases hs
        show AudioDevice.count _ _ = s.openStreams
        rw [AudioDevice.count_addTail, if_neg hid]
        exact hi
  | removeUsecase i =>
      simp only [step] at hs
      split at hs
      · rename_i u hu
        split at hs
        · cases hs
        · rename_i hid
          cases hs
          have hcount := AudioDevice.count_remove (i := .audioSpkrCalibTx)
            (List.mem_of_getElem? hu)
          rw [if_neg hid] at hcount
          exact hcount.trans hi
      · cases hs

theorem listAgrees_run (hp : Path step (moduleOpen adev) h t)
    (hadev : adev.count .audioSpkrCalibTx = 0) : t.ListAgrees :=
  hp.inv ListAgrees (fun _ _ => True) (fun _ _ _ hi _ hs => listAgrees_step hi hs) hadev
    (fun _ _ => trivial)

/-- **The list has the calibration usecase exactly while a stream is open,
and a failed start leaves both as they were.** -/
theorem list_and_stream_agree (hp : Path step (moduleOpen adev) h t)
    (hadev : adev.count .audioSpkrCalibTx = 0) :
    t.adev.count .audioSpkrCalibTx ≤ 1 ∧
      (t.adev.count .audioSpkrCalibTx = 1 ↔ t.tfa98xxOut ≠ none) ∧
      ∀ dev o, (t.startFeedback dev o).1 ≠ 0 →
        (t.startFeedback dev o).2.adev.usecaseList = t.adev.usecaseList ∧
        (t.startFeedback dev o).2.tfa98xxOut = t.tfa98xxOut := by
  have hagrees : t.adev.count .audioSpkrCalibTx = t.openStreams := listAgrees_run hp hadev
  refine ⟨?_, ?_, ?_⟩
  · rw [hagrees, openStreams]
    split <;> omega
  · rw [hagrees]
    cases hout : t.tfa98xxOut with
    | none => simp [openStreams_none hout]
    | some pcm => simp [openStreams_some hout]
  · intro dev o hrc
    cases hr : t.startFeedback dev o with
    | mk rc u =>
      rw [hr] at hrc
      have hc := startFeedback_cases t dev o
      rw [hr] at hc
      cases hc with
      | idle _ => exact absurd rfl hrc
      | noMemory _ => exact ⟨rfl, rfl⟩
      | failed mid _ hout hlist hout' _ _ => exact ⟨hlist, hout'.trans hout.symm⟩
      | started pcm _ _ _ _ => exact absurd rfl hrc

/-- An audio HAL without usecases. -/
def emptyAdev : AudioDevice := ⟨0, [], 0, by decide, by simp⟩

/-- A start whose stream does not get ready, one that works and a stop. -/
def threeCalls : List Action :=
  [.setFeedback .outSpeaker true ⟨true, 4, false, 0⟩,
    .setFeedback .outSpeaker true ⟨true, 4, true, 0⟩,
    .setFeedback .outVoiceSpeaker false ⟨true, 4, true, 0⟩]

theorem list_and_stream_agree_threeCalls :
    ∃ r ∈ follow step (moduleOpen emptyAdev) threeCalls,
      r.2.adev.count .audioSpkrCalibTx ≤ 1 ∧
        (r.2.adev.count .audioSpkrCalibTx = 1 ↔ r.2.tfa98xxOut ≠ none) ∧
        (r.2.startFeedback .outSpeaker ⟨true, -1, true, 0⟩).2.adev.usecaseList =
          r.2.adev.usecaseList := by
  have hrun : ∃ r ∈ follow step (moduleOpen emptyAdev) threeCalls,
      (r.2.startFeedback .outSpeaker ⟨true, -1, true, 0⟩).1 ≠ 0 := by
    decide
  obtain ⟨r, hr, hrc⟩ := hrun
  obtain ⟨hle, hiff, hfail⟩ := list_and_stream_agree (path_of_follow hr) rfl
  exact ⟨r, hr, hle, hiff, (hfail .outSpeaker ⟨true, -1, true, 0⟩ hrc).1⟩

/-! ## The references -/

/-- What an enable takes a reference on. -/
inductive Reference where
  | sndDevice
  | audioRoute
  deriving DecidableEq, Repr

def enables : Reference → AhalCall → Bool
  | .sndDevice, c => c = .enableSndDevice .inCaptureViFeedback
  | .audioRoute, c => c = .enableAudioRoute .audioSpkrCalibTx

def disables : Reference → AhalCall → Bool
  | .sndDevice, c => c = .disableSndDevice .inCaptureViFeedback
  | .audioRoute, c => c = .disableAudioRoute .audioSpkrCalibTx

/-- **Balanced references**: at no point was more disabled than enabled,
and without a stream everything is disabled again. -/
structure Balanced (s : Tfa) : Prop where
  covered : ∀ k, Covered (enables k) (disables k) s.calls
  even : s.tfa98xxOut = none → ∀ k, s.calls.countP (disables k) = s.calls.countP (enables k)

/-- An open stream holds each reference, once. -/
structure Held (s : Tfa) : Prop where
  covered : ∀ k, Covered (enables k) (disables k) s.calls
  held : ∀ k, s.calls.countP (enables k) = s.calls.countP (disables k) + s.openStreams

theorem Held.balanced (hs : s.Held) : s.Balanced where
  covered := hs.covered
  even hout k := by
    rw [hs.held k, openStreams_none hout, Nat.add_zero]

/-- A stop for a speaker without a stream. -/
def stopsNoStream (s : Tfa) : Action → Bool
  | .setFeedback dev false _ => s.tfa98xxOut.isNone && isSpeaker dev
  | _ => false

theorem covered_failedCalls {mid : List AhalCall}
    (hmid : mid = [] ∨ ∃ pcm, mid = [.pcmOpen pcm, .pcmClose pcm]) (k : Reference) :
    Covered (enables k) (disables k) (failedCalls mid) ∧
      (failedCalls mid).countP (enables k) = (failedCalls mid).countP (disables k) := by
  rcases hmid with rfl | ⟨pcm, rfl⟩ <;>
    cases k <;> simp [covered_iff_inits, failedCalls, enables, disables]

theorem StartCase.held (hc : StartCase s dev r) (hs : s.Held) : r.2.Held := by
  cases hc with
  | idle _ => exact hs
  | noMemory _ => exact ⟨hs.covered, hs.held⟩
  | failed mid _ hout _ hout' hmid hcalls =>
      constructor
      · intro k
        rw [hcalls]
        exact (hs.covered k).append (covered_failedCalls hmid k).1
      · intro k
        have hk := hs.held k
        rw [openStreams_none hout] at hk
        rw [hcalls, openStreams_none hout', List.countP_append, List.countP_append,
          (covered_failedCalls hmid k).2]
        omega
  | started pcm hout _ hout' hcalls =>
      constructor
      · intro k
        rw [hcalls]
        apply (hs.covered k).append
        cases k <;> simp [covered_iff_inits, enables, disables]
      · intro k
        have hk := hs.held k
        rw [openStreams_none hout] at hk
        rw [hcalls, openStreams_some hout', List.countP_append, List.countP_append, hk]
        cases k <;> simp [enables, disables]

/-- A stop while a stream is open gives back what the start took. -/
theorem StopCase.held (hc : StopCase s dev t) (hs : s.Held) (hl : s.ListAgrees)
    (hok : s.tfa98xxOut = none → isSpeaker dev = false) : t.Held := by
  cases hc with
  | idle _ => exact hs
  | removed hdev hcount hout hcalls =>
      cases hpcm : s.tfa98xxOut with
      | none => exact absurd (hok hpcm) (by simp [hdev])
      | some pcm =>
          have hclosed : s.closePcm.calls = s.calls ++ [.pcmClose pcm] := by
            simp [closePcm, hpcm, call]
          rw [hclosed, List.append_assoc] at hcalls
          have hone : ∀ k, s.calls.countP (enables k) = s.calls.countP (disables k) + 1 := by
            intro k
            rw [hs.held k, openStreams_some hpcm]
          constructor
          · intro k
            rw [hcalls]
            apply (hs.covered k).append_of_le
            rw [hone k]
            cases k <;> simp [disables]
          · intro k
            rw [hcalls, openStreams_none hout, List.countP_append, List.countP_append, hone k]
            cases k <;> simp [enables, disables]
  | empty hdev hcount hadev hout hcalls =>
      -- the list would have had the usecase of the open stream
      have hnone : s.tfa98xxOut = none := by
        cases hpcm : s.tfa98xxOut with
        | none => rfl
        | some pcm =>
            have habs : s.adev.count .audioSpkrCalibTx = s.openStreams := hl
            rw [openStreams_some hpcm, hcount] at habs
            cases habs
      exact absurd (hok hnone) (by simp [hdev])

theorem held_step (hi : s.Held) (hl : s.ListAgrees) (hok : stopsNoStream s a = false)
    (hs : step s a = some t) : t.Held := by
  cases a with
  | setFeedback dev enable o =>
      cases enable with
      | true =>
          cases hs
          exact (startFeedback_cases s dev o).held hi
      | false =>
          cases hs
          apply (stopFeedback_cases s dev).held hi hl
          intro hout
          simpa [stopsNoStream, hout] using hok
  | addUsecase id type dev =>
      simp only [step] at hs
      split at hs <;> cases hs
      exact ⟨hi.covered, hi.held⟩
  | removeUsecase i =>
      simp only [step] at hs
      split at hs
      · split at hs <;> cases hs
        exact ⟨hi.covered, hi.held⟩
      · cases hs

theorem stopsNoStream_eq_true (h : stopsNoStream s a = true) :
    s.tfa98xxOut = none ∧ ∃ dev o, a = .setFeedback dev false o ∧ isSpeaker dev = true := by
  cases a with
  | setFeedback dev enable o =>
      cases enable with
      | true => cases h
      | false =>
          simp only [stopsNoStream, Bool.and_eq_true, Option.isNone_iff_eq_none] at h
          exact ⟨h.1, dev, o, rfl, h.2⟩
  | addUsecase id type dev => cases h
  | removeUsecase i => cases h

/-- A stop without a stream takes back more than was given. -/
theorem not_balanced_of_stopsNoStream (hbal : s.Balanced) (hstop : stopsNoStream s a = true)
    (hs : step s a = some t) : ¬ t.Balanced := by
  obtain ⟨hout, dev, o, rfl, hdev⟩ := stopsNoStream_eq_true hstop
  simp only [step, ampSetFeedback, Option.some.injEq, Bool.false_eq_true, if_false] at hs
  have hclosed : s.closePcm.calls = s.calls := by
    simp [closePcm, hout]
  have hlt : t.calls.countP (enables .sndDevice) < t.calls.countP (disables .sndDevice) := by
    have heven := hbal.even hout .sndDevice
    have hc := stopFeedback_cases s dev
    rw [hs] at hc
    cases hc with
    | idle h => simp [h] at hdev
    | removed _ _ _ hcalls =>
        rw [hcalls, hclosed, List.countP_append, List.countP_append, heven]
        simp [enables, disables]
    | empty _ _ _ _ hcalls =>
        rw [hcalls, hclosed, List.countP_append, List.countP_append, heven]
        simp [enables, disables]
  intro ht
  have hle := (ht.covered .sndDevice).le
  omega

/-- **The references are balanced throughout a run exactly when none of its
stops comes without a stream.** -/
theorem references_balanced_iff (hp : Path step (moduleOpen adev) h t)
    (hadev : adev.count .audioSpkrCalibTx = 0) :
    ((∀ x ∈ h, x.1.Balanced) ∧ t.Balanced) ↔
      ∀ x ∈ h, stopsNoStream x.1 x.2 = false := by
  refine Path.always_iff Balanced (fun s => s.Held ∧ s.ListAgrees)
    (fun s a => stopsNoStream s a = false) ?_ ?_ ?_ hp ?_
  · intro s a u hi hok hs
    exact ⟨held_step hi.1 hi.2 hok hs, listAgrees_step hi.2 hs⟩
  · intro s hi
    exact hi.1.balanced
  · intro s a u hbal hstop hs
    rw [Bool.not_eq_false] at hstop
    exact not_balanced_of_stopsNoStream hbal hstop hs
  · exact ⟨⟨fun k => covered_nil, fun k => rfl⟩, hadev⟩

theorem references_balanced_iff_threeCalls :
    ∃ r ∈ follow step (moduleOpen emptyAdev) threeCalls,
      (∀ x ∈ r.1, x.1.Balanced) ∧ r.2.Balanced := by
  have hrun : ∃ r ∈ follow step (moduleOpen emptyAdev) threeCalls,
      ∀ x ∈ r.1, stopsNoStream x.1 x.2 = false := by
    decide
  obtain ⟨r, hr, hok⟩ := hrun
  exact ⟨r, hr, (references_balanced_iff (path_of_follow hr) rfl).mpr hok⟩

/-- **A first call that stops** disables a device that was never enabled. -/
theorem stop_disables_unheld :
    ∃ r ∈ follow step (moduleOpen emptyAdev)
        [.setFeedback .outSpeaker false ⟨true, 0, true, 0⟩],
      r.2.calls = [.disableSndDevice .inCaptureViFeedback] ∧ ¬ r.2.Balanced := by
  refine ⟨_, rfl, rfl, ?_⟩
  intro hbal
  have hle := (hbal.covered .sndDevice).le
  revert hle
  decide

end Tfa

end OplusHardware.AudioAmplifier
